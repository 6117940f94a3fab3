/-
# What a caller finds in a view that is still open

`Inv` is as much as the source's own check needs.  To say which calls are still ACCEPTED takes more:
which attempt stands next to which lease, what an update that has not been linked yet was recorded
against, where the cursor stands in the head range.  `Flow` has these, in three groups:

* `AttemptFlow`: an attempt that holds a lease is at the lease's stage, and nobody holds a lease
  that has ended; every count of an admission is on account of another tag;
* `UpdateFlow`: an update that is not linked was recorded against the device as it is;
* `SequenceFlow`: the target of a publication is the number after the cursor until the payload is
  applied and the cursor itself afterwards; an open head that nobody publishes in is unused.

Both invariants are kept by the same elementary steps; `Running` is the pair in an open view.
-/
import MetaFlux.Recovery.Admission

namespace MetaFlux.Recovery

open Base LeaseState

variable {m m' : Model}

attribute [local simp] Model.setPublication PublishState.idle RangeState.quarantine
  PublishState.inFlight quarantine UpdateState.unlinked Model.setUpdate Model.init Model.setRangeAt
  Model.moveCursor Model.setLease Model.openAt

/-! ## 1. The groups -/

/-- An attempt under way was begun against the view and the device as they are, and has the lease
that is live, at its stage. -/
structure AttemptFlow (viewState : ViewState) (deviceState : DeviceState)
    (viewGeneration deviceGeneration committedAdmissions : Nat) (attempt : AttemptRecord)
    (lease : LeaseRecord) : Prop where
  under_way : attempt.state ≠ .idle → attempt.state ≠ .exited →
    viewState = .open ∧ deviceState = .open ∧ attempt.viewGeneration = viewGeneration ∧
      attempt.deviceGeneration = deviceGeneration
  not_claiming : attempt.state ≠ .claiming
  live : lease.state.live = true →
    attempt.targetLeaseTag = lease.tag ∧
      (lease.state = .initializing ∧ attempt.state = .initializing ∨
        lease.state ≠ .initializing ∧ attempt.state = .ready)
  holding : attempt.state = .initializing ∨ attempt.state = .ready → lease.state.live = true
  claimed : lease.state ≠ .free → attempt.state ≠ .idle
  quarantined : lease.state = .quarantined → viewState ≠ .open
  counted : committedAdmissions ≤ lease.tag
  uncounted :
    lease.state = .initializing ∨ lease.state = .reserved ∨ lease.state = .committing →
      committedAdmissions < lease.tag

/-- An update that is not linked was recorded against the device as it is. -/
structure UpdateFlow (viewState : ViewState) (deviceState : DeviceState)
    (deviceGeneration epoch : Nat) (update : UpdateRecord) : Prop where
  unlinked : update.state.unlinked →
    deviceState = .open ∧ update.oldGeneration = deviceGeneration ∧ update.oldEpoch = epoch ∧
      update.newEpoch = epoch + 1
  quarantined : update.state = .quarantined → viewState ≠ .open

/-- Where the cursor stands in the head range, by the state of the publication, and what follows the
head. -/
structure SequenceFlow (viewState : ViewState) (publicationCursor : Nat)
    (range followingRange : RangeRecord) (publication : PublishRecord) : Prop where
  head : range.state ≠ .terminal
  tags : followingRange.state ≠ .free → range.tag < followingRange.tag
  following : followingRange.state ≠ .retired ∧ followingRange.state ≠ .terminal
  quarantined : viewState = .open →
    range.state ≠ .quarantined ∧ followingRange.state ≠ .quarantined
  aborted : viewState = .open → publication.state = .aborted →
    range.state = .open ∧ publication.rangeTag = range.tag ∧
      publication.tokenGeneration = range.tokenGeneration ∧
      publication.rangeBegin = range.begin ∧ publication.rangeEnd = range.end
  early : publication.state = .initializing ∨ publication.state = .prepared ∨
    publication.state = .linking → publication.payloadApplied = false
  published : publication.state = .published → publication.payloadApplied = true
  target : publication.state.inFlight → publication.payloadApplied = false →
    publication.targetSequence = max range.begin (publicationCursor + 1)
  reached : publication.state = .active → publication.payloadApplied = true →
    publicationCursor = publication.targetSequence
  cursor_le : range.state = .open ∨ range.state = .retired → publicationCursor ≤ range.end
  fresh : publication.state.idle → range.state = .open → publicationCursor < range.begin

/-- The second invariant of every reachable state. -/
structure Flow (m : Model) : Prop where
  attempt : AttemptFlow m.viewState m.deviceState m.viewGeneration m.deviceGeneration
    m.committedAdmissions m.attempt m.lease
  update : UpdateFlow m.viewState m.deviceState m.deviceGeneration m.epoch m.update
  sequence : SequenceFlow m.viewState m.publicationCursor m.range m.followingRange m.publication

/-! ## 2. Attempts and leases -/

/-- Once both are settled the attempt is out and the lease has ended, if it was ever claimed. -/
theorem AttemptFlow.settle {viewState viewState' : ViewState}
    {deviceState deviceState' : DeviceState}
    {viewGeneration viewGeneration' deviceGeneration deviceGeneration' committed : Nat}
    {attempt : AttemptRecord} {lease : LeaseRecord}
    (h : AttemptFlow viewState deviceState viewGeneration deviceGeneration committed attempt lease)
    (hview : viewState' = .open → viewState = .open) :
    AttemptFlow viewState' deviceState' viewGeneration' deviceGeneration' committed attempt.settle
      lease.settle := by
  have hout : attempt.settle.state = .idle ∨ attempt.settle.state = .exited := by
    unfold AttemptRecord.settle
    split
    · exact .inr rfl
    · rename_i hs
      by_contra hne
      exact hs ⟨fun hi => hne (.inl hi), fun he => hne (.inr he)⟩
  have hdead := lease.settle_live
  constructor
  · intro hidle hexited
    rcases hout with hs | hs
    · exact absurd hs hidle
    · exact absurd hs hexited
  · intro hs
    rcases hout with h' | h' <;> simp [hs] at h'
  · intro hlive
    simp [hdead] at hlive
  · rintro (hs | hs) <;> simp [hs] at hout
  · intro hclaimed
    have hne := h.claimed (fun hfree => hclaimed (lease.settle_free.2 hfree))
    unfold AttemptRecord.settle
    split
    · simp
    · exact hne
  · intro hs hopen
    have hold : lease.state = .quarantined := by
      unfold LeaseRecord.settle at hs
      split at hs <;> first | assumption | (split at hs <;> simp at hs) | simp at hs
    exact h.quarantined hold (hview hopen)
  · rw [LeaseRecord.settle_tag]
    exact h.counted
  · rintro (hs | hs | hs) <;> simp [hs, LeaseState.live] at hdead

/-- The steps of a lease, case by case: the attempt goes with it. -/
theorem LeaseStep.attemptFlow (h : LeaseStep m m') (hf : Flow m) :
    AttemptFlow m'.viewState m'.deviceState m'.viewGeneration m'.deviceGeneration
      m'.committedAdmissions m'.attempt m'.lease := by
  have ha := hf.attempt
  cases h with
  | enter _ hview hdev hidle =>
    have hdead : m.lease.state.live ≠ true := by
      intro hlive
      rcases (ha.live hlive).2 with ⟨-, hs⟩ | ⟨-, hs⟩ <;> simp [hs] at hidle
    exact ⟨fun _ _ => ⟨hview, hdev, rfl, rfl⟩, nofun, fun h => absurd h hdead, by simp,
      fun _ => nofun, ha.quarantined, ha.counted, ha.uncounted⟩
  | claim _ hatt _ htag =>
    obtain ⟨rfl, -⟩ := nextTag_iff.1 htag
    have hway := ha.under_way (by simp [hatt]) (by simp [hatt])
    exact ⟨fun _ _ => hway, nofun, fun _ => ⟨rfl, .inl ⟨rfl, rfl⟩⟩, fun _ => rfl, fun _ => nofun,
      nofun, ha.counted.step, fun _ => Nat.lt_succ_of_le ha.counted⟩
  | materialize hatt hlease =>
    have hway := ha.under_way (by simp [hatt]) (by simp [hatt])
    obtain ⟨htarget, -⟩ := ha.live (by simp [hlease, live])
    exact ⟨fun _ _ => hway, nofun, fun _ => ⟨htarget, .inr ⟨nofun, rfl⟩⟩, fun _ => rfl,
      fun _ => nofun, nofun, ha.counted, fun _ => ha.uncounted (.inl hlease)⟩
  | beginCommit hlease hatt =>
    obtain ⟨htarget, -⟩ := ha.live (by simp [hlease, live])
    exact ⟨ha.under_way, ha.not_claiming, fun _ => ⟨htarget, .inr ⟨nofun, hatt⟩⟩, fun _ => rfl,
      fun _ => ha.claimed (by simp [hlease]), nofun, ha.counted,
      fun _ => ha.uncounted (.inr (.inl hlease))⟩
  | write | die => exact { ha with }
  | publish hlease =>
    obtain ⟨htarget, hs⟩ := ha.live (by simp [hlease, live])
    have hready : m.attempt.state = .ready := by simpa [hlease] using hs
    exact ⟨ha.under_way, ha.not_claiming, fun _ => ⟨htarget, .inr ⟨nofun, hready⟩⟩, fun _ => rfl,
      fun _ => ha.claimed (by simp [hlease]), nofun, ha.counted, by simp⟩
  | release hlease =>
    obtain ⟨htarget, -⟩ := ha.live (by simp [hlease, live])
    rw [if_pos htarget]
    exact ⟨fun _ h => absurd rfl h, nofun, nofun, by simp, fun _ => nofun, nofun, ha.counted,
      by simp⟩
  | recover lease hafter =>
    obtain ⟨htag, hdead, -⟩ := LeaseRecord.afterDeath_spec hafter
    have hold : m.lease.state ≠ .free ∧ m.lease.state ≠ .quarantined := by
      constructor <;> intro hs <;> simp [LeaseRecord.afterDeath, hs] at hafter
    have hnot : lease.state ≠ .quarantined := by
      intro hs
      unfold LeaseRecord.afterDeath at hafter
      split at hafter <;> first | (split at hafter <;> cases hafter <;> simp at hs) | cases hafter
      all_goals simp_all
    have hcount : m.committedAdmissions ≤ lease.tag := htag ▸ ha.counted
    have huncounted : lease.state = .initializing ∨ lease.state = .reserved ∨
        lease.state = .committing → m.committedAdmissions < lease.tag := by
      rintro (hs | hs | hs) <;> simp [hs, live] at hdead
    split
    · exact ⟨fun _ h => absurd rfl h, nofun, fun h => absurd h (by simp [hdead]), by simp,
        fun _ => nofun, fun h => absurd h hnot, hcount, huncounted⟩
    · rename_i htarget
      have hholding : ¬ (m.attempt.state = .initializing ∨ m.attempt.state = .ready) :=
        fun hs => htarget (ha.live (ha.holding hs)).1
      exact ⟨ha.under_way, ha.not_claiming, fun h => absurd h (by simp [hdead]),
        fun hs => absurd hs hholding, fun _ => ha.claimed hold.1, fun h => absurd h hnot, hcount,
        huncounted⟩
  | reclaim _ _ htag hatt =>
    obtain ⟨rfl, -⟩ := nextTag_iff.1 htag
    exact ⟨ha.under_way, ha.not_claiming, nofun, by simp [hatt], absurd rfl, nofun,
      ha.counted.step, by simp⟩

theorem LeaseStep.flow (h : LeaseStep m m') (hf : Flow m) : Flow m' := by
  have hatt := h.attemptFlow hf
  cases h <;> exact ⟨hatt, hf.update, hf.sequence⟩

theorem countAdmission_flow (hlease : m.lease.state = .committing) (hf : Flow m) :
    Flow m.countAdmission := by
  have ha := hf.attempt
  obtain ⟨htarget, hs⟩ := ha.live (by simp [hlease, live])
  have hready : m.attempt.state = .ready := by simpa [hlease] using hs
  have hcount : (m.committedAdmissions + 1) % 2 ^ 32 ≤ m.lease.tag :=
    Nat.le_trans (Nat.mod_le _ _) (ha.uncounted (.inr (.inr hlease)))
  refine ⟨?_, hf.update, hf.sequence⟩
  exact ⟨ha.under_way, ha.not_claiming, fun _ => ⟨htarget, .inr ⟨nofun, hready⟩⟩, fun _ => rfl,
    fun _ => ha.claimed (by simp [hlease]), nofun, hcount,
    by simp [Model.countAdmission]⟩

/-! ## 3. The update record -/

theorem UpdateStep.updateFlow (h : UpdateStep m m') (hf : Flow m) :
    UpdateFlow m'.viewState m'.deviceState m'.deviceGeneration m'.epoch m'.update := by
  have hu := hf.update
  cases h with
  | claim _ _ hdev =>
    exact ⟨fun _ => ⟨hdev, rfl, rfl, rfl⟩, nofun⟩
  | materialize hstate => exact ⟨fun _ => hu.unlinked (.inl hstate), nofun⟩
  | beginLink hstate => exact ⟨fun _ => hu.unlinked (.inr (.inl hstate)), nofun⟩
  | die => exact ⟨hu.unlinked, hu.quarantined⟩
  | refuseLink | publish | finish | abort | drop =>
    constructor <;> simp

theorem UpdateStep.flow (h : UpdateStep m m') (hf : Flow m) : Flow m' := by
  have hupdate := h.updateFlow hf
  cases h <;> exact ⟨hf.attempt, hupdate, hf.sequence⟩

/-! ## 4. The view and the device -/

theorem quarantine_flow (hf : Flow m) : Flow (quarantine m) := by
  obtain ⟨ha, -, hs⟩ := hf
  refine ⟨?_, ?_, ?_⟩
  · -- the attempt goes as when it is settled, and the lease is quarantined instead
    have hsettle : AttemptFlow .quarantined .closed 0 0 m.committedAdmissions m.attempt.settle
        m.lease.settle := ha.settle nofun
    have hdead := LeaseState.quarantine_live m.lease.state
    have hout : m.attempt.settle.state = .idle ∨ m.attempt.settle.state = .exited := by
      by_contra hne
      simp only [not_or] at hne
      exact absurd (hsettle.under_way hne.1 hne.2).1 nofun
    constructor
    · intro hidle hexited
      exact absurd hout (not_or.2 ⟨hidle, hexited⟩)
    · exact hsettle.not_claiming
    · intro hlive
      simp [hdead] at hlive
    · rintro (h | h) <;>
        · simp only [quarantine] at h
          simp [h] at hout
    · intro hclaimed
      refine hsettle.claimed fun hfree => hclaimed ?_
      simp [m.lease.settle_free.1 hfree, LeaseState.quarantine, LeaseState.live]
    · exact fun _ => nofun
    · exact ha.counted
    · rintro (h | h | h) <;>
        · simp only [quarantine] at h
          simp [h, LeaseState.live] at hdead
  · constructor
    · intro h
      exact absurd (UpdateState.pending_of_unlinked h) (UpdateState.quarantine_not_pending _)
    · exact fun _ => nofun
  · have hpub : ∀ s : PublishState, s.inFlight → m.publication.state.quarantine ≠ s := by
      rintro s hs rfl
      exact PublishState.quarantine_not_inFlight _ hs
    constructor
    · have := hs.head
      cases h : m.range.state <;> simp_all
    · intro h
      refine hs.tags fun hfree => h ?_
      simp [hfree]
    · have := hs.following
      cases h : m.followingRange.state <;> simp_all
    · exact nofun
    · exact nofun
    · rintro (h | h | h)
      · exact absurd h (hpub _ (.inl rfl))
      · exact absurd h (hpub _ (.inr (.inl rfl)))
      · exact absurd h (hpub _ (.inr (.inr (.inl rfl))))
    · exact fun h => absurd h (hpub _ (.inr (.inr (.inr (.inr rfl)))))
    · exact fun h => absurd rfl (hpub _ h)
    · exact fun h => absurd h (hpub _ (.inr (.inr (.inr (.inl rfl)))))
    · intro h
      refine hs.cursor_le ?_
      cases h' : m.range.state <;> simp_all
    · intro _ h
      cases h' : m.range.state <;> simp [h'] at h

/-- Where the view or the device closes, all three groups are settled at once. -/
theorem ControlStep.flow (h : ControlStep m m') (hi : Inv m) (hf : Flow m) : Flow m' := by
  have ha := hf.attempt
  have hu := hf.update
  have hs := hf.sequence
  cases h with
  | link =>
    refine ⟨ha.settle id, ?_, hs⟩
    constructor <;> simp [linkDevice]
  | reopen _ _ htuple =>
    refine ⟨?_, ?_, hs⟩
    · -- the device was updating, so no attempt was under way
      refine { ha with under_way := fun h h' => ?_ }
      exact absurd ((ha.under_way h h').2.1.symm.trans htuple.1) (by simp)
    · constructor <;> simp
  | closeDevice =>
    refine ⟨ha.settle id, ?_, hs⟩
    have hnot := UpdateState.settle_not_pending m.update.state
    constructor
    · exact fun h => absurd (UpdateState.pending_of_unlinked h) hnot
    · intro h
      refine hu.quarantined ?_
      cases hs : m.update.state <;>
        simp_all [Model.closedDevice, settleLeaseForClose, UpdateState.settle]
  | closeView =>
    refine ⟨ha.settle fun h => (by cases h), ⟨hu.unlinked, fun _ h => by cases h⟩, ?_⟩
    exact { hs with quarantined := fun h => (by cases h), aborted := fun h => by cases h }
  | quarantine => exact quarantine_flow hf
  | expirePublication hstate =>
    rw [quarantine_head hi hstate]
    exact quarantine_flow hf

/-! ## 5. Ranges -/

/-- A head that is not open, and not spent by an abort either, has an idle publication over it. -/
theorem idle_of_head (hi : Inv m) (hf : Flow m) (hview : m.viewState = .open)
    (hhead : m.range.state ≠ .open) : m.publication.state.idle := by
  have hnot : ¬ m.publication.state.inFlight := fun h => hhead (hi.publication.inFlight h).2.1
  have haborted : m.publication.state ≠ .aborted := fun h =>
    hhead (hf.sequence.aborted hview h).1
  have hquar : m.publication.state ≠ .quarantined := by
    intro h
    simp [hi.publication.quarantined h] at hview
  cases h : m.publication.state <;> simp_all

/-- Under an idle publication the head may be replaced by one that starts above the cursor, or that
is not open. -/
theorem SequenceFlow.replace {viewState : ViewState} {cursor : Nat}
    {range following range' following' : RangeRecord} {publication : PublishRecord}
    (h : SequenceFlow viewState cursor range following publication) (hidle : publication.state.idle)
    (hhead : range'.state ≠ .terminal ∧ range'.state ≠ .retired)
    (htags : following'.state ≠ .free → range'.tag < following'.tag)
    (hfoll : following'.state ≠ .retired ∧ following'.state ≠ .terminal)
    (hquar : range'.state ≠ .quarantined ∧ following'.state ≠ .quarantined)
    (hcursor : range'.state = .open → cursor < range'.begin ∧ range'.begin ≤ range'.end) :
    SequenceFlow viewState cursor range' following' publication := by
  constructor
  · exact hhead.1
  · exact htags
  · exact hfoll
  · exact fun _ => hquar
  · intro _ hs
    rcases hidle with h' | h' <;> simp [hs] at h'
  · exact h.early
  · exact h.published
  · exact fun hs => absurd hs (PublishState.not_inFlight_of_idle hidle)
  · exact h.reached
  · rintro (hs | hs)
    · exact Nat.le_trans (Nat.le_of_lt (hcursor hs).1) (hcursor hs).2
    · exact absurd hs hhead.2
  · exact fun _ hs => (hcursor hs).1

section

variable (hi : Inv m) (hf : Flow m)

include hi hf

theorem RangeStep.sequenceFlow (h : RangeStep m m') :
    SequenceFlow m'.viewState m'.publicationCursor m'.range m'.followingRange m'.publication := by
  have hs := hf.sequence
  cases h with
  | claimHead _ _ _ hview _ _ _ _ hplace =>
    have hhead : m.range.state ≠ .open := by
      rcases hplace with ⟨h, -⟩ | ⟨-, h, -⟩ | ⟨-, h, -⟩ <;> simp [h]
    have hfree := following_free_of_claim hi hplace
    exact hs.replace (idle_of_head hi hf hview hhead) (by simp) (absurd hfree)
      hs.following ⟨by simp, (hs.quarantined hview).2⟩ nofun
  | claimFollowing tag _ _ _ htag =>
    have htags : m.range.tag < tag := by
      have hle := hi.range.head_tag
      obtain ⟨rfl, -⟩ := nextTag_iff.1 htag
      omega
    exact { hs with
      tags := fun _ => htags
      following := by simp
      quarantined := fun h => ⟨(hs.quarantined h).1, by simp⟩ }
  | prepareHead hstate =>
    have hnot : ¬ m.publication.state.inFlight := fun h => by
      simp [(hi.publication.inFlight h).2.1] at hstate
    refine ⟨by simp, hs.tags, hs.following, fun h => ⟨by simp, (hs.quarantined h).2⟩,
      fun hview h => ?_, hs.early, hs.published, fun h => absurd h hnot, hs.reached, by simp,
      fun _ => nofun⟩
    simp [(hs.aborted hview h).1] at hstate
  | prepareFollowing hstate =>
    exact { hs with
      tags := fun _ => hs.tags (by simp [hstate])
      following := by simp
      quarantined := fun h => ⟨(hs.quarantined h).1, by simp⟩ }
  | advance hhead hfoll hidle =>
    refine hs.replace hidle ?_ (by simp) (by simp) ⟨by simp [hfoll], by simp⟩ fun _ => ?_
    · simp [hfoll]
    · have hle := hs.cursor_le (.inr hhead)
      obtain ⟨-, hnext⟩ := hi.range.following_behind (by simp [hfoll])
      obtain ⟨-, hle', -⟩ := hi.range.following_valid.bounds (by simp [hfoll])
      dsimp only
      omega

theorem RangeStep.flow (h : RangeStep m m') : Flow m' := by
  have hseq := h.sequenceFlow hi hf
  cases h <;> exact ⟨hf.attempt, hf.update, hseq⟩

theorem openAt_flow {slot : RangeSlot} (ho : openable m slot) : Flow (m.openAt slot) := by
  have hs := hf.sequence
  cases slot with
  | head =>
    have hprep : m.range.state = .prepared := ho.1
    obtain ⟨hbegin, -⟩ := hi.range.head_unopened (.inr hprep)
    have hle := hi.publication.cursor_le
    obtain ⟨-, hle', -⟩ := hi.range.head_valid.bounds (by simp [hprep])
    have hnot : ¬ m.publication.state.inFlight := fun h => by
      simp [(hi.publication.inFlight h).2.1] at hprep
    refine ⟨hf.attempt, hf.update, ?_⟩
    refine ⟨nofun, hs.tags, hs.following, fun h => ⟨nofun, (hs.quarantined h).2⟩,
      fun hview h => ?_, hs.early, hs.published, fun h => absurd h hnot, hs.reached, fun _ =>
      ?_, fun _ _ => ?_⟩
    · simp [(hs.aborted hview h).1] at hprep
    · change m.publicationCursor ≤ m.range.end
      omega
    · change m.publicationCursor < m.range.begin
      omega
  | following =>
    refine ⟨hf.attempt, hf.update, ?_⟩
    exact { hs with
      tags := fun _ => hs.tags (by simp [show m.followingRange.state = .prepared from ho.1])
      following := by simp
      quarantined := fun h => ⟨(hs.quarantined h).1, by simp⟩ }

/-! ## 6. Publications -/

theorem PublicationStep.sequenceFlow (h : PublicationStep m m') :
    SequenceFlow m'.viewState m'.publicationCursor m'.range m'.followingRange m'.publication := by
  have hs := hf.sequence
  have hp := hi.publication
  cases h with
  | claim =>
    exact ⟨hs.head, hs.tags, hs.following, hs.quarantined, nofun, fun _ => rfl, nofun,
      fun _ _ => rfl, nofun,
      hs.cursor_le, by simp⟩
  | prepare hstate =>
    have hearly := hs.early (.inl hstate)
    exact ⟨hs.head, hs.tags, hs.following, hs.quarantined, nofun, fun _ => hearly, nofun,
      fun _ => hs.target (.inl hstate), nofun, hs.cursor_le,
      by simp⟩
  | link hstate =>
    have hearly := hs.early (.inr (.inl hstate))
    exact ⟨hs.head, hs.tags, hs.following, hs.quarantined, nofun, fun _ => hearly, nofun,
      fun _ => hs.target (.inr (.inl hstate)), nofun, hs.cursor_le,
      by simp⟩
  | activate hstate =>
    have hearly := hs.early (.inr (.inr hstate))
    refine ⟨hs.head, hs.tags, hs.following, hs.quarantined, nofun, fun _ => hearly, nofun,
      fun _ => hs.target (.inr (.inr (.inl hstate))), fun _ h => ?_, hs.cursor_le,
      by simp⟩
    exact absurd (hearly.symm.trans h) (by simp)
  | apply hstate =>
    have hflight : m.publication.state.inFlight := .inr (.inr (.inr (.inl hstate)))
    exact ⟨hs.head, hs.tags, hs.following, hs.quarantined, by simp [hstate],
      by simp [hstate], fun _ => rfl, fun _ => nofun, fun _ _ => rfl,
      fun _ => hp.target_le hflight, by simp [hstate]⟩
  | mark _ hpay =>
    exact ⟨hs.head, hs.tags, hs.following, hs.quarantined, nofun, by simp,
      fun _ => hpay, fun _ h => absurd (hpay.symm.trans h) (by simp), nofun, hs.cursor_le,
      by simp⟩
  | finish _ hrange =>
    obtain ⟨hret, htag, hend⟩ := m.range.retire_frame m.publicationCursor
    refine ⟨?_, ?_, hs.following, fun h => ⟨?_, (hs.quarantined h).2⟩, nofun,
      by simp, nofun, by simp,
      nofun, fun _ => ?_, fun _ h => ?_⟩
    · exact fun h => absurd (hret.symm.trans h) (by simp)
    · exact htag ▸ hs.tags
    · exact fun h => absurd (hret.symm.trans h) (by simp)
    · exact hend ▸ hs.cursor_le (.inl hrange.1)
    · exact absurd (hret.symm.trans h) (by simp)
  | abort hstate =>
    have hflight : m.publication.state.inFlight := by
      rcases hstate with h | h
      · exact .inl h
      · exact .inr (.inl h)
    exact ⟨hs.head, hs.tags, hs.following, hs.quarantined, fun _ _ => (hp.inFlight hflight).2,
      by simp, nofun,
      by simp, nofun, hs.cursor_le,
      by simp⟩
  | compensate hstate _ _ _ htarget =>
    exact { hs with
      target := fun _ h => absurd ((hs.published hstate).symm.trans h) (by simp)
      reached := fun h => absurd (hstate.symm.trans h) (by simp)
      cursor_le := fun _ => htarget
      fresh := fun h => absurd h (by simp [hstate]) }
  | die => exact { hs with }
  | reclaim _ _ hhead =>
    exact ⟨hs.head, hs.tags, hs.following, hs.quarantined, nofun, by simp, nofun,
      by simp, nofun, hs.cursor_le,
      fun _ h => absurd (hhead.symm.trans h) (by simp)⟩

theorem PublicationStep.flow (h : PublicationStep m m') : Flow m' := by
  have hseq := h.sequenceFlow hi hf
  cases h <;> exact ⟨hf.attempt, hf.update, hseq⟩

/-! ## 7. Every reachable state -/

theorem Step.flow (h : Step m m') : Flow m' := by
  cases h with
  | lease h | update h => exact h.flow hf
  | control h | range h | publication h => exact h.flow hi hf

/-- **One call keeps the second invariant**, given the first. -/
theorem step_flow (op : Op) : Flow (step m op) := by
  refine (step_induction (P := fun m => Inv m ∧ Flow m) ?_ ?_ ?_ op ⟨hi, hf⟩).2
  · exact fun hs h => ⟨hs.inv h.1, hs.flow h.1 h.2⟩
  · exact fun hc h => ⟨countAdmission_inv hc h.1, countAdmission_flow hc h.2⟩
  · exact fun ho h => ⟨openAt_inv ho h.1, openAt_flow h.1 h.2 ho⟩

end

theorem init_flow (limits : Limits) (highWater generation epoch : Nat) (viewId : ViewId) :
    Flow (Model.init limits highWater generation epoch viewId) := by
  refine ⟨?_, ?_, ?_⟩
  · constructor <;> simp [live]
  · constructor <;> simp
  · constructor <;> simp

theorem run_flow (ops : List Op) (hi : Inv m) (hf : Flow m) : Flow (run step m ops) :=
  (run_induction (P := fun m => Inv m ∧ Flow m)
    (fun _ op h => ⟨step_inv op h.1, step_flow h.1 h.2 op⟩) ops ⟨hi, hf⟩).2

end MetaFlux.Recovery
