/-
# The invariant of the recovery model

`invariantsHold`, the check the source makes of itself, is NOT inductive: that a link leaves the
device at a generation below the terminal, for example, rests on what was recorded when the update
was claimed.  The invariant proved here, `Inv`, is the conjunction of five groups, one for each set
of records that belong together:

* `ControlInv`: a view that is not open has a closed device; a device is closed exactly when its
  generation is terminal;
* `UpdateInv`: the device is updating exactly while the update is active or has its fence published;
* `LeaseInv`: a live lease is bound to the current generations of an open view and device;
* `RangeInv`: a range not opened yet starts right above the allocation, and the following range
  right above the head;
* `PublicationInv`: a publication in flight belongs to the open head of an open view.

Each group is stated over the FIELDS it reads, so that a step that leaves them alone keeps the group
by `exact`; only the groups a family of steps writes are proved again for it (`LeaseStep.inv`, ...,
`Step.inv`).  `inv_invariantsHold` brings the result back to the source's check.
-/
import MetaFlux.Base.Run
import MetaFlux.Recovery.Calls

namespace MetaFlux.Recovery

open Base Model

variable {m m' : Model} (lease : LeaseRecord) (s : UpdateState)

attribute [local simp] PublishState.inFlight Model.setPublication Limits.validRange
  RangeState.quarantine UpdateState.pending RangeState.unopened quarantine

/-! ## 1. The groups -/

structure ControlInv (limits : Limits) (viewState : ViewState) (deviceState : DeviceState)
    (viewGeneration deviceGeneration epoch : Nat) : Prop where
  not_closing : viewState ≠ .closing
  device_of_view : viewState ≠ .open → deviceState = .closed
  closed_iff : deviceState = .closed ↔ deviceGeneration = limits.generationTerminal
  view_pos : 0 < viewGeneration
  view_le : viewGeneration ≤ limits.generationTerminal
  device_pos : 0 < deviceGeneration
  device_le : deviceGeneration ≤ limits.generationTerminal
  epoch_pos : 0 < epoch
  epoch_lt : epoch < limits.epochTerminal

/-- An update that has not touched the device yet. -/
def UpdateState.unlinked (s : UpdateState) : Prop :=
  s = .initializing ∨ s = .prepared ∨ s = .linking

/-- An update the device is in the middle of. -/
def UpdateState.linked (s : UpdateState) : Prop :=
  s = .active ∨ s = .fencePublished

attribute [local simp] UpdateState.linked

structure UpdateInv (limits : Limits) (deviceState : DeviceState)
    (deviceGeneration epoch deviceUpdateTag : Nat) (update : UpdateRecord) : Prop where
  tag_lt : update.tag < limits.tagTerminal
  unlinked : update.state.unlinked →
    update.tag ≠ 0 ∧ 0 < update.newGeneration ∧
      update.newGeneration < limits.generationTerminal ∧ 0 < update.newEpoch ∧
      update.newEpoch < limits.epochTerminal
  updating_iff : deviceState = .updating ↔ update.state.linked
  linked : update.state.linked →
    update.tag ≠ 0 ∧ update.tag = deviceUpdateTag ∧ update.newGeneration = deviceGeneration ∧
      update.newEpoch = epoch
  fence : update.state = .fencePublished → update.fencePublished = true
  closed : deviceState = .closed → ¬ update.state.pending

structure LeaseInv (limits : Limits) (viewState : ViewState) (deviceState : DeviceState)
    (viewGeneration deviceGeneration : Nat) (attempt : AttemptRecord) (lease : LeaseRecord) :
    Prop where
  attempt_lt : attempt.tag < limits.tagTerminal
  lease_lt : lease.tag < limits.tagTerminal
  live : lease.state.live = true →
    viewState = .open ∧ deviceState = .open ∧ lease.viewGeneration = viewGeneration ∧
      lease.deviceGeneration = deviceGeneration

structure RangeInv (limits : Limits)
    (allocationHighWater rangeTokenGeneration rangeTagHighWater : Nat)
    (range followingRange : RangeRecord) (retiredRanges : Table RangeRecord 2) : Prop where
  head_valid : limits.validRange range
  following_valid : limits.validRange followingRange
  archived : ∀ r ∈ retiredRanges.rows, r.state = .retired ∧ limits.validRange r
  tag_lt : rangeTagHighWater < limits.tagTerminal
  head_tag : range.tag ≤ rangeTagHighWater
  following_tag : followingRange.tag ≤ rangeTagHighWater
  token_pos : 0 < rangeTokenGeneration
  token_lt : rangeTokenGeneration < limits.generationTerminal
  allocation_lt : allocationHighWater < limits.sequenceTerminal
  head_unopened : range.state.unopened →
    range.begin = allocationHighWater + 1 ∧ range.tokenGeneration = rangeTokenGeneration + 1 ∧
      followingRange.state = .free
  head_open : range.state = .open →
    range.end ≤ allocationHighWater ∧
      (followingRange.state = .free → range.end = allocationHighWater)
  following_unopened : followingRange.state.unopened →
    followingRange.begin = allocationHighWater + 1 ∧
      followingRange.tokenGeneration = rangeTokenGeneration + 1
  following_open : followingRange.state = .open → followingRange.end = allocationHighWater
  following_behind : followingRange.state ≠ .free →
    (range.state = .open ∨ range.state = .retired ∨ range.state = .quarantined) ∧
      range.end + 1 = followingRange.begin

structure PublicationInv (limits : Limits) (viewState : ViewState)
    (allocationHighWater publicationCursor : Nat) (intermediateVisible : Bool)
    (range : RangeRecord) (publication : PublishRecord) : Prop where
  cursor_le : publicationCursor ≤ allocationHighWater
  tag_lt : publication.tag < limits.tagTerminal
  inFlight : publication.state.inFlight →
    viewState = .open ∧ range.state = .open ∧ publication.rangeTag = range.tag ∧
      publication.tokenGeneration = range.tokenGeneration ∧
      publication.rangeBegin = range.begin ∧ publication.rangeEnd = range.end
  target_le : publication.state.inFlight → publication.targetSequence ≤ range.end
  applied : publication.state.inFlight → publication.payloadApplied = true →
    range.begin ≤ publicationCursor
  visible : intermediateVisible = true →
    publication.payloadApplied = true ∧
      (publication.state = .active ∨ publication.state = .published ∨
        publication.state = .quarantined)
  quarantined : publication.state = .quarantined → viewState = .quarantined
  terminal_view : viewState = .terminal → publication.state.idle

/-- The invariant of every reachable state. -/
structure Inv (m : Model) : Prop where
  valid : m.valid = true
  control : ControlInv m.limits m.viewState m.deviceState m.viewGeneration m.deviceGeneration
    m.epoch
  update : UpdateInv m.limits m.deviceState m.deviceGeneration m.epoch m.deviceUpdateTag m.update
  lease : LeaseInv m.limits m.viewState m.deviceState m.viewGeneration m.deviceGeneration
    m.attempt m.lease
  range : RangeInv m.limits m.allocationHighWater m.rangeTokenGeneration m.rangeTagHighWater
    m.range m.followingRange m.retiredRanges
  publication : PublicationInv m.limits m.viewState m.allocationHighWater m.publicationCursor
    m.intermediateVisible m.range m.publication

/-! ## 2. Settled records -/

theorem LeaseRecord.settle_tag : lease.settle.tag = lease.tag := by
  unfold LeaseRecord.settle
  split <;> try rfl
  split <;> rfl

theorem LeaseRecord.settle_live : lease.settle.state.live = false := by
  unfold LeaseRecord.settle
  split
  all_goals first | rfl | (split <;> rfl) | simp_all [LeaseState.live]

theorem AttemptRecord.settle_tag (attempt : AttemptRecord) : attempt.settle.tag = attempt.tag := by
  unfold AttemptRecord.settle
  split <;> rfl

theorem LeaseState.quarantine_live (s : LeaseState) : s.quarantine.live = false := by
  cases s <;> rfl

theorem LeaseRecord.afterDeath_spec {lease after : LeaseRecord}
    (h : lease.afterDeath = some after) :
    after.tag = lease.tag ∧ after.state.live = false ∧ after.state ≠ .free := by
  unfold LeaseRecord.afterDeath at h
  split at h
  · cases h; exact ⟨rfl, rfl, nofun⟩
  · cases h; exact ⟨rfl, rfl, nofun⟩
  · cases h; exact ⟨rfl, rfl, nofun⟩
  · split at h <;> cases h <;> exact ⟨rfl, rfl, nofun⟩
  · cases h; exact ⟨rfl, rfl, nofun⟩
  all_goals first | (cases h; simp_all [LeaseState.live]) | simp at h

theorem UpdateState.settle_not_pending : ¬ s.settle.pending := by
  cases s <;> simp [UpdateState.settle]

theorem UpdateState.quarantine_not_pending : ¬ s.quarantine.pending := by
  cases s <;> simp [UpdateState.quarantine]

variable {s}

/-- A record that is not pending is neither linked nor on its way there. -/
theorem UpdateState.pending_of_unlinked (h : s.unlinked) : s.pending := by
  rcases h with rfl | rfl | rfl <;> simp

theorem UpdateState.pending_of_linked (h : s.linked) : s.pending := by
  rcases h with rfl | rfl <;> simp

theorem PublishState.quarantine_not_inFlight (s : PublishState) : ¬ s.quarantine.inFlight := by
  cases s <;> simp [PublishState.quarantine]

theorem PublishState.not_inFlight_of_idle {s : PublishState} (h : s.idle) : ¬ s.inFlight := by
  rcases h with rfl | rfl <;> simp

theorem RangeState.not_unopened_of_open {s : RangeState} (h : s = .open) : ¬ s.unopened := by
  simp [h]

theorem RangeState.not_unopened_of_free {s : RangeState} (h : s = .free) : ¬ s.unopened := by
  simp [h]

variable {limits : Limits} {range : RangeRecord} {highWater generation epoch : Nat}
    {viewId : ViewId}

theorem Limits.validRange_quarantine (h : limits.validRange range) :
    limits.validRange { range with state := range.state.quarantine } := by
  cases hs : range.state <;> simp_all

/-- The bounds of a range that is not free. -/
theorem Limits.validRange.bounds (h : limits.validRange range) (hstate : range.state ≠ .free) :
    range.begin ≠ 0 ∧ range.begin ≤ range.end ∧ range.end < limits.sequenceTerminal ∧
      range.tokenGeneration ≠ 0 ∧ range.tokenGeneration < limits.generationTerminal := by
  rw [Limits.validRange, if_neg hstate] at h
  exact h.1

theorem RangeRecord.retire_frame (range : RangeRecord) (cursor : Nat) :
    (range.retire cursor).state = .retired ∧ (range.retire cursor).tag = range.tag ∧
      (range.retire cursor).end = range.end := by
  unfold RangeRecord.retire
  split
  · exact ⟨rfl, rfl, rfl⟩
  · split <;> exact ⟨rfl, rfl, rfl⟩

theorem Limits.validRange_retire
    (h : limits.validRange range) (hopen : range.state = .open) (cursor : Nat) :
    limits.validRange (range.retire cursor) := by
  unfold RangeRecord.retire
  obtain ⟨hbegin, hle, hend, htoken, htoken'⟩ := h.bounds (by simp [hopen])
  split
  · simp
    omega
  · split
    · simp
      omega
    · simp
      omega

/-! ## 3. Attempts and leases -/

theorem LeaseStep.leaseInv (h : LeaseStep m m') (hi : Inv m) :
    LeaseInv m'.limits m'.viewState m'.deviceState m'.viewGeneration m'.deviceGeneration
      m'.attempt m'.lease := by
  obtain ⟨hattTag, hleaseTag, hlive⟩ := hi.lease
  cases h with
  | enter _ _ _ _ htag => exact ⟨(nextTag_iff.1 htag).2, hleaseTag, hlive⟩
  | claim _ _ _ htag hctrl =>
    obtain ⟨-, hview, hdev, hvg, hdg⟩ := hctrl
    exact ⟨hattTag, (nextTag_iff.1 htag).2, fun _ => ⟨hview, hdev, hvg.symm, hdg.symm⟩⟩
  | materialize _ _ hctrl =>
    obtain ⟨-, hview, hdev, hvg, hdg⟩ := hctrl
    exact ⟨hattTag, hleaseTag, fun _ => ⟨hview, hdev, hvg.symm, hdg.symm⟩⟩
  | beginCommit hlease =>
    exact ⟨hattTag, hleaseTag, fun _ => hlive (by rw [hlease]; rfl)⟩
  | write | die => exact ⟨hattTag, hleaseTag, hlive⟩
  | publish hlease => exact ⟨hattTag, hleaseTag, fun _ => hlive (by rw [hlease]; rfl)⟩
  | release =>
    refine ⟨?_, hleaseTag, nofun⟩
    split <;> exact hattTag
  | recover _ hafter =>
    obtain ⟨htag, hdead, -⟩ := LeaseRecord.afterDeath_spec hafter
    refine ⟨?_, by rwa [htag], fun h => absurd h (by simp [hdead])⟩
    split <;> exact hattTag
  | reclaim _ _ htag =>
    exact ⟨hattTag, (nextTag_iff.1 htag).2, nofun⟩

theorem LeaseStep.inv (h : LeaseStep m m') (hi : Inv m) : Inv m' := by
  have hlease := h.leaseInv hi
  cases h <;> exact { hi with lease := hlease }

theorem countAdmission_inv (hlease : m.lease.state = .committing) (hi : Inv m) :
    Inv m.countAdmission :=
  ⟨hi.valid, hi.control, hi.update,
    ⟨hi.lease.attempt_lt, hi.lease.lease_lt, fun _ => hi.lease.live (by rw [hlease]; rfl)⟩,
    hi.range, hi.publication⟩

/-! ## 4. The update record -/

/-- An update that is over says nothing of the device, as long as that is not updating. -/
theorem UpdateInv.ended {device device' : DeviceState}
    {generation' epoch' tag tag' : Nat} {update : UpdateRecord}
    (h : UpdateInv limits device generation epoch tag update) (hs : ¬ s.pending)
    (hdev : device' ≠ .updating) :
    UpdateInv limits device' generation' epoch' tag' { update with state := s } := by
  have hnot : ¬ s.linked := fun h => hs (UpdateState.pending_of_linked h)
  exact ⟨h.tag_lt, fun h => absurd (UpdateState.pending_of_unlinked h) hs,
    ⟨fun h => absurd h hdev, fun h => absurd h hnot⟩, fun h => absurd h hnot,
    fun h => absurd (.inr h) hnot, fun _ => hs⟩

theorem UpdateStep.updateInv (h : UpdateStep m m') (hi : Inv m) :
    UpdateInv m'.limits m'.deviceState m'.deviceGeneration m'.epoch m'.deviceUpdateTag
      m'.update := by
  obtain ⟨htag, hunlinked, hupd, hlinked, hfence, hclosed⟩ := hi.update
  -- a step from one unlinked state to another keeps what was recorded at the claim
  have hmove : ∀ s : UpdateState, s.unlinked → m.update.state.unlinked →
      UpdateInv m.limits m.deviceState m.deviceGeneration m.epoch m.deviceUpdateTag
        { m.update with state := s } := by
    intro s hs hold
    have hdev : m.deviceState ≠ .updating := fun h => by
      rcases hold with h' | h' | h' <;> simp [h', hupd] at h
    have hopen : m.deviceState ≠ .closed := fun h =>
      hclosed h (UpdateState.pending_of_unlinked hold)
    refine ⟨htag, fun _ => hunlinked hold, ⟨fun h => absurd h hdev, ?_⟩, ?_, ?_,
      fun h => absurd h hopen⟩
    all_goals rcases hs with rfl | rfl | rfl <;> simp
  -- and one that ends the update leaves a device that is not updating
  have hend : ∀ s : UpdateState, ¬ s.pending → ¬ m.update.state.linked →
      UpdateInv m.limits m.deviceState m.deviceGeneration m.epoch m.deviceUpdateTag
        { m.update with state := s } := by
    exact fun s hs hold => hi.update.ended hs (mt hupd.1 hold)
  cases h with
  | claim tag _ hdev _ htag hgeneration hepoch =>
    obtain ⟨htag, hlt⟩ := nextTag_iff.1 htag
    have htag0 : tag ≠ 0 := by omega
    refine ⟨hlt, fun _ => ⟨htag0, Nat.succ_pos _, hgeneration, Nat.succ_pos _, hepoch⟩,
      ?_, ?_, ?_, ?_⟩
    · simp [hdev]
    · simp
    · simp
    · simp [hdev]
  | materialize hstate => exact hmove _ (.inr (.inl rfl)) (.inl hstate)
  | beginLink hstate => exact hmove _ (.inr (.inr rfl)) (.inr (.inl hstate))
  | refuseLink hstate =>
    exact hend _ (by simp) (by simp [hstate])
  | publish hstate =>
    have hl : m.update.state.linked := .inl hstate
    have hopen : m.deviceState ≠ .closed := fun h =>
      hclosed h (UpdateState.pending_of_linked hl)
    exact ⟨htag, by simp [UpdateState.unlinked], ⟨fun _ => .inr rfl, fun _ => hupd.2 hl⟩,
      fun _ => hlinked hl, fun _ => rfl, fun h => absurd h hopen⟩
  | finish hstate =>
    refine hend _ (by simp) ?_
    rcases hstate with h | h | h <;> simp [h]
  | die => exact ⟨htag, hunlinked, hupd, hlinked, hfence, hclosed⟩
  | abort hstate =>
    refine hend _ (by simp) ?_
    rcases hstate with h | h <;> simp [h]
  | drop hstate =>
    -- a linked update always has the tuple its next operation asks for
    have hl : m.update.state.linked := by
      rcases hstate with h | h
      · exact .inl h.1
      · exact .inr h.1
    obtain ⟨-, htagEq, hgen, -⟩ := hlinked hl
    have htuple : updateTupleMatches m m.update.tag :=
      ⟨hupd.2 hl, hgen.symm, htagEq.symm, rfl⟩
    rcases hstate with ⟨-, h⟩ | ⟨hs, h⟩
    · exact absurd htuple h
    · exact absurd ⟨hfence hs, htuple⟩ h

theorem UpdateStep.inv (h : UpdateStep m m') (hi : Inv m) : Inv m' := by
  have hupdate := h.updateInv hi
  cases h <;> exact { hi with update := hupdate }

/-! ## 5. The view and the device -/

theorem ControlInv.terminal_pos {view : ViewState} {device : DeviceState} {v d : Nat}
    (h : ControlInv limits view device v d epoch) : 0 < limits.generationTerminal :=
  Nat.lt_of_lt_of_le h.view_pos h.view_le

/-- What a quarantine leaves satisfies the invariant, whatever it was called on, as long as the
records it does not touch were in order. -/
theorem quarantine_inv (hi : Inv m) : Inv (quarantine m) := by
  obtain ⟨hvalid, hcontrol, hupdate, hlease, hrange, hpub⟩ := hi
  refine ⟨hvalid, ?_, ?_, ?_, ?_, ?_⟩
  · have hpos := hcontrol.terminal_pos
    exact ⟨by simp, fun _ => rfl, ⟨fun _ => rfl, fun _ => rfl⟩, hpos, .refl, hpos,
      .refl, hcontrol.epoch_pos, hcontrol.epoch_lt⟩
  · exact hupdate.ended (UpdateState.quarantine_not_pending _) nofun
  · exact ⟨by rw [quarantine, AttemptRecord.settle_tag]; exact hlease.attempt_lt, hlease.lease_lt,
      fun h => absurd h (by simp [LeaseState.quarantine_live])⟩
  · refine { hrange with
      head_valid := Limits.validRange_quarantine hrange.head_valid
      following_valid := Limits.validRange_quarantine hrange.following_valid
      head_unopened := ?_
      head_open := ?_
      following_unopened := ?_
      following_open := ?_
      following_behind := ?_ }
    · cases hs : m.range.state <;> simp [hs]
    · cases hs : m.range.state <;> simp [hs]
    · cases hs : m.followingRange.state <;>
        simp [hs]
    · cases hs : m.followingRange.state <;> simp [hs]
    · intro hne
      have hfoll : m.followingRange.state ≠ .free := by
        intro h
        simp [h] at hne
      obtain ⟨hhead, hnext⟩ := hrange.following_behind hfoll
      refine ⟨?_, hnext⟩
      rcases hhead with h | h | h <;> simp [h]
  · have hnot : ¬ m.publication.state.quarantine.inFlight := PublishState.quarantine_not_inFlight _
    refine ⟨hpub.cursor_le, hpub.tag_lt, fun h => absurd h hnot,
      fun h => absurd h hnot, fun h => absurd h hnot, ?_, fun _ => rfl, nofun⟩
    intro hvis
    obtain ⟨hpay, hstate⟩ := hpub.visible hvis
    refine ⟨hpay, .inr (.inr ?_)⟩
    rcases hstate with h | h | h <;> simp [h, PublishState.quarantine]

/-- The head of a publication in flight may be quarantined before everything else is. -/
theorem quarantine_head (hi : Inv m) (hflight : m.publication.state.inFlight) :
    quarantine { m with range := { m.range with state := .quarantined } } = quarantine m := by
  obtain ⟨-, hopen, -⟩ := hi.publication.inFlight hflight
  unfold quarantine
  rw [hopen]
  rfl

/-- A settled lease is not live, so nothing is asked of the view and the device. -/
theorem settled_leaseInv {viewState viewState' : ViewState} {deviceState deviceState' : DeviceState}
    {viewGeneration viewGeneration' deviceGeneration deviceGeneration' : Nat}
    (h : LeaseInv m.limits viewState deviceState viewGeneration deviceGeneration m.attempt
      m.lease) :
    LeaseInv m.limits viewState' deviceState' viewGeneration' deviceGeneration' m.attempt.settle
      m.lease.settle :=
  ⟨by rw [AttemptRecord.settle_tag]; exact h.attempt_lt,
    by rw [LeaseRecord.settle_tag]; exact h.lease_lt,
    fun hlive => absurd hlive (by simp [LeaseRecord.settle_live])⟩

section

variable (hi : Inv m)

include hi

theorem linkDevice_inv (hstate : m.update.state = .linking)
    (htuple : linkTupleMatches m) : Inv (linkDevice m m.update.tag) := by
  obtain ⟨hview, -, -⟩ := htuple
  obtain ⟨htag, hgpos, hglt, hepos, helt⟩ := hi.update.unlinked (.inr (.inr hstate))
  refine { hi with control := ?_, update := ?_, lease := settled_leaseInv hi.lease }
  · exact ⟨hi.control.not_closing, absurd hview,
      ⟨nofun, fun h => absurd h (Nat.ne_of_lt hglt)⟩, hi.control.view_pos, hi.control.view_le,
      hgpos, Nat.le_of_lt hglt, hepos, helt⟩
  · refine ⟨hi.update.tag_lt, ?_, ⟨fun _ => .inl rfl, fun _ => rfl⟩, fun _ => ⟨htag, rfl, rfl, rfl⟩,
      nofun, nofun⟩
    intro h
    rcases h with h | h | h <;> cases h

theorem closedDevice_inv : Inv m.closedDevice := by
  refine { hi with
    control := ?_
    update := hi.update.ended (UpdateState.settle_not_pending _) nofun
    lease := settled_leaseInv hi.lease }
  exact { hi.control with
    device_of_view := fun _ => rfl
    closed_iff := ⟨fun _ => rfl, fun _ => rfl⟩
    device_pos := hi.control.terminal_pos
    device_le := .refl }

theorem ControlStep.inv (h : ControlStep m m') : Inv m' := by
  cases h with
  | link hstate htuple => exact linkDevice_inv hi hstate htuple
  | reopen _ _ htuple =>
    have hcontrol := hi.control
    have hupd : m.deviceState = .updating := htuple.1
    have hview : m.viewState = .open := by
      by_contra h
      rw [hcontrol.device_of_view h] at hupd
      cases hupd
    refine { hi with control := ?_, update := ?_, lease := ?_ }
    · refine { hcontrol with
        device_of_view := absurd hview
        closed_iff := ⟨nofun, ?_⟩ }
      intro h
      rw [hcontrol.closed_iff.2 h] at hupd
      cases hupd
    · refine ⟨hi.update.tag_lt, ?_, ⟨nofun, ?_⟩, ?_, nofun, nofun⟩
      all_goals simp [UpdateState.unlinked, setUpdate]
    · refine ⟨hi.lease.attempt_lt, hi.lease.lease_lt, fun h => ?_⟩
      obtain ⟨-, hdev, -⟩ := hi.lease.live h
      rw [hdev] at hupd
      cases hupd
  | closeDevice => exact closedDevice_inv hi
  | closeView _ hidle hdev =>
    refine { hi with control := ?_, lease := settled_leaseInv hi.lease, publication := ?_ }
    · exact { hi.control with
        not_closing := nofun
        device_of_view := fun _ => hdev.1
        view_pos := hi.control.terminal_pos
        view_le := .refl }
    · have hnot := PublishState.not_inFlight_of_idle hidle
      exact ⟨hi.publication.cursor_le, hi.publication.tag_lt, fun h => absurd h hnot,
        fun h => absurd h hnot, fun h => absurd h hnot, hi.publication.visible,
        fun h => (by rcases hidle with heq | heq <;> cases heq.symm.trans h), fun _ => hidle⟩
  | quarantine => exact quarantine_inv hi
  | expirePublication hstate =>
    rw [quarantine_head hi hstate]
    exact quarantine_inv hi

/-! ## 6. Ranges -/

/-- An archive of valid retired ranges takes one more. -/
theorem archive_push (hret : m.range.state = .retired) (hroom : m.retiredRanges.Room) :
    ∀ r ∈ (m.retiredRanges.push m.range).rows, r.state = .retired ∧ m.limits.validRange r := by
  intro r hr
  rcases (Table.mem_push hroom).1 hr with hr | rfl
  · exact hi.range.archived r hr
  · exact ⟨hret, hi.range.head_valid⟩

/-- Nothing follows a head that a claim replaces. -/
theorem following_free_of_claim {archive : Table RangeRecord 2} (hplace : m.HeadVacant archive) :
    m.followingRange.state = .free := by
  rcases hplace with ⟨h, -⟩ | ⟨h, -⟩ | ⟨h, -⟩
  · by_contra hne
    rcases (hi.range.following_behind hne).1 with h' | h' | h' <;> rw [h] at h' <;> cases h'
  · exact h
  · exact h

theorem RangeStep.rangeInv (h : RangeStep m m') :
    RangeInv m'.limits m'.allocationHighWater m'.rangeTokenGeneration m'.rangeTagHighWater m'.range
      m'.followingRange m'.retiredRanges := by
  have hr := hi.range
  cases h with
  | claimHead _ _ archive _ hlen htag hend htoken hplace =>
    obtain ⟨htag, hlt⟩ := nextTag_iff.1 htag
    have hfree := following_free_of_claim hi hplace
    have harchive : ∀ r ∈ archive.rows, r.state = .retired ∧ m.limits.validRange r := by
      rcases hplace with ⟨-, rfl⟩ | ⟨-, hret, hroom, rfl⟩ | ⟨-, -, rfl⟩
      · exact hr.archived
      · exact archive_push hi hret hroom
      · exact hr.archived
    refine ⟨?_, hr.following_valid, harchive, hlt, .refl, ?_, hr.token_pos, hr.token_lt,
      hr.allocation_lt, fun _ => ⟨rfl, rfl, hfree⟩, nofun, hr.following_unopened, hr.following_open,
      absurd hfree⟩
    · simp
      omega
    · have := hr.following_tag
      dsimp only
      omega
  | claimFollowing _ _ _ hlen htag hend htoken hhead hfree =>
    obtain ⟨htag, hlt⟩ := nextTag_iff.1 htag
    obtain ⟨hle, hlast⟩ := hr.head_open hhead
    refine ⟨hr.head_valid, ?_, hr.archived, hlt, ?_,
      .refl, hr.token_pos, hr.token_lt, hr.allocation_lt,
      fun h => absurd h (RangeState.not_unopened_of_open hhead),
      fun _ => ⟨hle, nofun⟩, fun _ => ⟨rfl, rfl⟩, nofun, fun _ => ⟨.inl hhead, ?_⟩⟩
    · simp
      omega
    · have := hr.head_tag
      dsimp only
      omega
    · rw [hlast hfree]
  | prepareHead hstate =>
    refine { hr with
      head_valid := ?_
      head_unopened := fun _ => hr.head_unopened (.inl hstate)
      head_open := nofun
      following_behind := ?_ }
    · simpa [hstate] using hr.head_valid
    · exact fun h => absurd (hr.head_unopened (.inl hstate)).2.2 h
  | prepareFollowing hstate =>
    have hne : m.followingRange.state ≠ .free := by simp [hstate]
    refine { hr with
      following_valid := ?_
      head_unopened := ?_
      head_open := ?_
      following_unopened := fun _ => hr.following_unopened (.inl hstate)
      following_open := nofun
      following_behind := fun _ => hr.following_behind hne }
    · simpa [hstate] using hr.following_valid
    · exact fun h => absurd (hr.head_unopened h).2.2 hne
    · exact fun h => ⟨(hr.head_open h).1, nofun⟩
  | advance hhead hfoll _ hroom =>
    exact ⟨hr.following_valid, by simp, archive_push hi hhead hroom,
      hr.tag_lt, hr.following_tag, Nat.zero_le _, hr.token_pos, hr.token_lt, hr.allocation_lt,
      fun h => absurd h (RangeState.not_unopened_of_open hfoll),
      fun h => ⟨Nat.le_of_eq (hr.following_open h), fun _ => hr.following_open h⟩,
      fun h => absurd h (RangeState.not_unopened_of_free rfl), nofun, absurd rfl⟩

end

/-- Where the head is not open no publication is in flight, so the head may change under it. -/
theorem PublicationInv.of_head {viewState : ViewState} {allocation cursor : Nat}
    {visible : Bool} {range' : RangeRecord} {publication : PublishRecord}
    (h : PublicationInv limits viewState allocation cursor visible range publication)
    (hhead : range.state ≠ .open) :
    PublicationInv limits viewState allocation cursor visible range' publication := by
  have hnot : ¬ publication.state.inFlight := fun hf => hhead (h.inFlight hf).2.1
  exact { h with
    inFlight := fun hf => absurd hf hnot
    target_le := fun hf => absurd hf hnot
    applied := fun hf => absurd hf hnot }

theorem RangeStep.inv (h : RangeStep m m') (hi : Inv m) : Inv m' := by
  have hrange := h.rangeInv hi
  cases h with
  | claimHead _ _ _ _ _ _ _ _ hplace =>
    refine { hi with range := hrange, publication := hi.publication.of_head ?_ }
    rcases hplace with ⟨h, -⟩ | ⟨-, h, -⟩ | ⟨-, h, -⟩ <;> simp [h]
  | claimFollowing | prepareFollowing => exact { hi with range := hrange }
  | prepareHead hstate =>
    exact { hi with range := hrange, publication := hi.publication.of_head (by simp [hstate]) }
  | advance hhead =>
    exact { hi with range := hrange, publication := hi.publication.of_head (by simp [hhead]) }

theorem Inv.rangeAt_valid (hi : Inv m) : ∀ slot, m.limits.validRange (m.rangeAt slot)
  | .head => hi.range.head_valid
  | .following => hi.range.following_valid

/-- A prepared record passes every other check of `open_range`. -/
theorem Inv.openable (hi : Inv m) (slot : RangeSlot)
    (hprep : (m.rangeAt slot).state = .prepared)
    (hbehind : slot = .following → m.range.state = .open) : Recovery.openable m slot := by
  obtain ⟨hne, -, hend, -, hlt⟩ := (hi.rangeAt_valid slot).bounds (by simp [hprep])
  have hnext : (m.rangeAt slot).begin = m.allocationHighWater + 1 ∧
      (m.rangeAt slot).tokenGeneration = m.rangeTokenGeneration + 1 := by
    cases slot with
    | head =>
      obtain ⟨hbegin, htoken, -⟩ := hi.range.head_unopened (.inr hprep)
      exact ⟨hbegin, htoken⟩
    | following => exact hi.range.following_unopened (.inr hprep)
  exact ⟨hprep, hne, by omega, hend, checkedAdd_eq_some.2 ⟨hnext.2, hlt⟩, hbehind⟩

/-- **The opening of a range**, at the head or behind it, keeps the invariant: the record starts
right above the allocation, so afterwards it ends where the allocation does. -/
theorem openAt_inv {slot : RangeSlot} (ho : openable m slot) (hi : Inv m) :
    Inv (m.openAt slot) := by
  obtain ⟨hprep, -, -, hend, htoken, hbehind⟩ := ho
  obtain ⟨htoken, htokenLt⟩ := checkedAdd_eq_some.1 htoken
  have hr := hi.range
  cases slot with
  | head =>
    replace hprep : m.range.state = .prepared := hprep
    obtain ⟨hbegin, -, hfree⟩ := hr.head_unopened (.inr hprep)
    obtain ⟨-, hle, -⟩ := hr.head_valid.bounds (by simp [hprep])
    have hgrows : m.allocationHighWater ≤ m.range.end := by omega
    refine { hi with range := ?_, publication := ?_ }
    · exact ⟨by simpa [openAt, setRangeAt, rangeAt, hprep]
          using hr.head_valid,
        hr.following_valid, hr.archived, hr.tag_lt, hr.head_tag, hr.following_tag,
        by rw [openAt]; exact htoken ▸ Nat.succ_pos _, htokenLt, hend,
        fun h => absurd h (RangeState.not_unopened_of_open rfl),
        fun _ => ⟨.refl, fun _ => rfl⟩,
        fun h => absurd h (RangeState.not_unopened_of_free hfree),
        fun h => absurd (h.symm.trans hfree) (by simp), absurd hfree⟩
    · have hp : PublicationInv m.limits m.viewState m.allocationHighWater m.publicationCursor
          m.intermediateVisible { m.range with state := .open } m.publication :=
        hi.publication.of_head (by simp [hprep])
      exact { hp with cursor_le := Nat.le_trans hp.cursor_le hgrows }
  | following =>
    replace hprep : m.followingRange.state = .prepared := hprep
    have hhead : m.range.state = .open := hbehind rfl
    obtain ⟨hbegin, -⟩ := hr.following_unopened (.inr hprep)
    have hne : m.followingRange.state ≠ .free := by simp [hprep]
    obtain ⟨-, hle, -⟩ := hr.following_valid.bounds hne
    have hgrows : m.allocationHighWater ≤ m.followingRange.end := by omega
    refine { hi with range := ?_, publication := ?_ }
    · exact ⟨hr.head_valid,
        by simpa [openAt, setRangeAt, rangeAt, hprep]
          using hr.following_valid,
        hr.archived, hr.tag_lt, hr.head_tag, hr.following_tag,
        by rw [openAt]; exact htoken ▸ Nat.succ_pos _, htokenLt, hend,
        fun h => absurd h (RangeState.not_unopened_of_open hhead),
        fun _ => ⟨Nat.le_trans (hr.head_open hhead).1 hgrows, nofun⟩,
        fun h => absurd h (RangeState.not_unopened_of_open rfl), fun _ => rfl,
        fun _ => hr.following_behind hne⟩
    · have hp := hi.publication
      exact { hp with cursor_le := Nat.le_trans hp.cursor_le hgrows }

/-! ## 7. Publications -/

section

variable (hi : Inv m)

include hi

/-- A token that matches the head is valid on the head's account: the following range starts above
the head, so no token matches both. -/
theorem head_open_of_claim
    (h : m.range.state = .open ∨
      (m.followingRange.state = .open ∧ m.followingRange.begin = m.range.begin)) :
    m.range.state = .open := by
  rcases h with h | ⟨hopen, hbegin⟩
  · exact h
  · obtain ⟨hstate, hnext⟩ := hi.range.following_behind (by simp [hopen])
    rcases hstate with h | h | h
    · exact h
    all_goals
      obtain ⟨-, hle, -⟩ := hi.range.head_valid.bounds (by simp [h])
      omega

/-- The payload of an intermediate state that is visible was applied, so a publication that is not
`active`, `published` or `quarantined` hides nothing. -/
theorem not_visible (h : m.publication.state ≠ .active)
    (h' : m.publication.state ≠ .published) (h'' : m.publication.state ≠ .quarantined) :
    m.intermediateVisible = false := by
  by_contra hvis
  rcases (hi.publication.visible (by simpa using hvis)).2 with hs | hs | hs
  · exact h hs
  · exact h' hs
  · exact h'' hs

theorem not_visible_of_idle (h : m.publication.state.idle) : m.intermediateVisible = false := by
  refine not_visible hi ?_ ?_ ?_ <;> rcases h with h | h <;> simp [h]

/-- A publication that goes from one state in flight to another keeps its range. -/
theorem inFlight_publicationInv (hflight : m.publication.state.inFlight)
    {state : PublishState} (hstate : state.inFlight)
    (hvis : m.intermediateVisible = true → state = .active ∨ state = .published) :
    PublicationInv m.limits m.viewState m.allocationHighWater m.publicationCursor
      m.intermediateVisible m.range { m.publication with state } := by
  have hp := hi.publication
  refine ⟨hp.cursor_le, hp.tag_lt, fun _ => hp.inFlight hflight, fun _ => hp.target_le hflight,
    fun _ => hp.applied hflight, ?_, ?_, ?_⟩
  · intro h
    refine ⟨(hp.visible h).1, ?_⟩
    rcases hvis h with h | h
    · exact .inl h
    · exact .inr (.inl h)
  · rintro rfl
    simp at hstate
  · intro h
    rw [(hp.inFlight hflight).1] at h
    cases h

theorem PublicationStep.publicationInv (h : PublicationStep m m') :
    PublicationInv m'.limits m'.viewState m'.allocationHighWater m'.publicationCursor
      m'.intermediateVisible m'.range m'.publication := by
  have hp := hi.publication
  cases h with
  | claim _ _ hview hhead hidle htag _ htarget =>
    have hopen := head_open_of_claim hi hhead
    have hhidden := not_visible_of_idle hi hidle
    exact ⟨hp.cursor_le, (nextTag_iff.1 htag).2, fun _ => ⟨hview, hopen, rfl, rfl, rfl, rfl⟩,
      fun _ => htarget, nofun, fun h => absurd h (by simp [hhidden]), nofun,
      fun h => absurd (hview.symm.trans h) (by simp)⟩
  | prepare hstate =>
    have hhidden := not_visible hi (by simp [hstate]) (by simp [hstate]) (by simp [hstate])
    exact inFlight_publicationInv hi (.inl hstate) (.inr (.inl rfl)) (by simp [hhidden])
  | link hstate =>
    have hhidden := not_visible hi (by simp [hstate]) (by simp [hstate]) (by simp [hstate])
    exact inFlight_publicationInv hi (.inr (.inl hstate)) (.inr (.inr (.inl rfl)))
      (by simp [hhidden])
  | activate hstate =>
    exact inFlight_publicationInv hi (.inr (.inr (.inl hstate))) (.inr (.inr (.inr (.inl rfl))))
      fun _ => .inl rfl
  | apply hstate _ _ _ htarget =>
    have hflight : m.publication.state.inFlight := .inr (.inr (.inr (.inl hstate)))
    have hle := (hi.range.head_open (hp.inFlight hflight).2.1).1
    have hbegin : m.range.begin ≤ m.publication.targetSequence := htarget ▸ Nat.le_max_left _ _
    exact ⟨Nat.le_trans (hp.target_le hflight) hle, hp.tag_lt, fun _ => hp.inFlight hflight,
      fun _ => hp.target_le hflight, fun _ _ => hbegin, fun _ => ⟨rfl, .inl hstate⟩,
      hp.quarantined, hp.terminal_view⟩
  | mark hstate =>
    exact inFlight_publicationInv hi (.inr (.inr (.inr (.inl hstate))))
      (.inr (.inr (.inr (.inr rfl)))) fun _ => .inr rfl
  | finish hstate =>
    have hhidden : m.intermediateVisible = false := by
      rcases hstate with h | h
      · exact not_visible hi (by simp [h]) (by simp [h]) (by simp [h])
      · exact h.2
    exact ⟨hp.cursor_le, hp.tag_lt, by simp,
      by simp,
      by simp,
      fun h => absurd h (by simp [hhidden]), nofun, fun _ => .inr rfl⟩
  | abort hstate =>
    have hflight : m.publication.state.inFlight := by
      rcases hstate with h | h
      · exact .inl h
      · exact .inr (.inl h)
    have hhidden : m.intermediateVisible = false := by
      refine not_visible hi ?_ ?_ ?_ <;> rcases hstate with h | h <;> simp [h]
    refine ⟨hp.cursor_le, hp.tag_lt, by simp,
      by simp,
      by simp,
      fun h => absurd h (by simp [hhidden]), nofun, fun h => ?_⟩
    exact absurd ((hp.inFlight hflight).1.symm.trans h) (by simp)
  | compensate _ _ _ hrange htarget =>
    exact { hp with
      cursor_le := Nat.le_trans htarget (hi.range.head_open hrange.1).1
      applied := fun h h' => Nat.le_succ_of_le (hp.applied h h')
      visible := nofun }
  | die => exact { hp with }
  | reclaim _ hstate _ htag =>
    have hhidden := not_visible_of_idle hi (.inr hstate)
    exact ⟨hp.cursor_le, (nextTag_iff.1 htag).2, by simp,
      by simp, nofun, fun h => absurd h (by simp [hhidden]), nofun,
      fun _ => .inl rfl⟩

/-- A retired head leaves the ranges in order. -/
theorem retire_rangeInv (hopen : m.range.state = .open) (cursor : Nat) :
    RangeInv m.limits m.allocationHighWater m.rangeTokenGeneration m.rangeTagHighWater
      (m.range.retire cursor) m.followingRange m.retiredRanges := by
  have hr := hi.range
  obtain ⟨hstate, hsame⟩ := m.range.retire_frame cursor
  refine { hr with
    head_valid := Limits.validRange_retire hr.head_valid hopen cursor
    head_tag := by rw [hsame.1]; exact hr.head_tag
    head_unopened := ?_
    head_open := ?_
    following_behind := ?_ }
  · simp [hstate]
  · simp [hstate]
  · intro h
    rw [hsame.2]
    exact ⟨.inr (.inl hstate), (hr.following_behind h).2⟩

theorem PublicationStep.inv (h : PublicationStep m m') : Inv m' := by
  have hpub := h.publicationInv hi
  cases h with
  | finish _ hrange =>
    exact { hi with range := retire_rangeInv hi hrange.1 _, publication := hpub }
  | _ => exact { hi with publication := hpub }

end

/-! ## 8. Every reachable state -/

theorem Step.inv (h : Step m m') (hi : Inv m) : Inv m' := by
  cases h with
  | lease h | update h | control h | range h | publication h => exact h.inv hi

theorem step_inv (op : Op) (hi : Inv m) : Inv (step m op) :=
  step_induction Step.inv countAdmission_inv openAt_inv op hi

/-- A model that its constructor accepts starts in order. -/
theorem init_inv (h : (init limits highWater generation epoch viewId).valid = true) :
    Inv (init limits highWater generation epoch viewId) := by
  have hvalid := of_decide_eq_true h
  obtain ⟨-, -, htags, -, hhigh, hgen, hgen', hep, hep', -⟩ := hvalid
  have hview : (init limits highWater generation epoch viewId).viewState = .open :=
    if_pos h
  have hdev : (init limits highWater generation epoch viewId).deviceState = .open :=
    if_pos h
  have htag : 0 < limits.tagTerminal := by omega
  refine ⟨h, ?_, ?_, ?_, ?_, ?_⟩
  · rw [hview, hdev]
    exact ⟨nofun, absurd rfl, ⟨nofun, fun h => absurd h (Nat.ne_of_lt hgen')⟩, hgen,
      Nat.le_of_lt hgen', hgen, Nat.le_of_lt hgen', hep, hep'⟩
  · rw [hdev]
    refine ⟨htag, ?_, ⟨nofun, ?_⟩, ?_, nofun, nofun⟩
    all_goals simp [init, UpdateState.unlinked]
  · exact ⟨htag, htag, nofun⟩
  · refine ⟨by simp [init], by simp [init],
      by simp [init], htag, .refl, .refl, hgen, hgen', hhigh, ?_, nofun, ?_,
      nofun, absurd rfl⟩
    all_goals simp [init]
  · rw [hview]
    refine ⟨.refl, htag, ?_, ?_, nofun, nofun, nofun, nofun⟩
    all_goals simp [init]

/-- The invariant is at least what the source checks. -/
theorem Inv.invariantsHold (hi : Inv m) : invariantsHold m = true := by
  obtain ⟨hvalid, hc, hu, hl, hr, hp⟩ := hi
  have hhead : m.range.tag < m.limits.tagTerminal := Nat.lt_of_le_of_lt hr.head_tag hr.tag_lt
  have hfoll : m.followingRange.tag < m.limits.tagTerminal :=
    Nat.lt_of_le_of_lt hr.following_tag hr.tag_lt
  have hclosed : m.viewState = .terminal ∨ m.viewState = .quarantined → m.viewState ≠ .open := by
    rintro (h | h) <;> simp [h]
  simp only [Recovery.invariantsHold, Bool.and_eq_true, decide_eq_true_eq]
  refine ⟨⟨⟨⟨⟨⟨⟨⟨⟨⟨?_, ?_⟩, ?_⟩, ?_⟩, ?_⟩, ?_⟩, ?_⟩, ?_⟩, ?_⟩, ?_⟩, ?_⟩
  · exact ⟨hvalid, hr.allocation_lt, hp.cursor_le, Nat.ne_of_gt hc.view_pos, hc.view_le,
      Nat.ne_of_gt hc.device_pos, hc.device_le, Nat.ne_of_gt hr.token_pos, hr.token_lt,
      Nat.ne_of_gt hc.epoch_pos, hc.epoch_lt, hl.attempt_lt, hl.lease_lt, hu.tag_lt, hr.tag_lt,
      hhead, hfoll, hp.tag_lt, m.retiredRanges.length_le⟩
  · intro h
    have hdev := hc.device_of_view (hclosed h)
    refine ⟨hdev, hc.closed_iff.1 hdev, ?_⟩
    by_contra hlive
    exact hclosed h (hl.live (by simpa [hasLiveLease] using hlive)).1
  · intro h
    have hlinked := hu.updating_iff.1 h
    obtain ⟨hne, htag, -⟩ := hu.linked hlinked
    exact ⟨htag ▸ hne, htag, hlinked⟩
  · exact fun h => (hu.linked h).2.2
  · exact hp.visible
  · intro h
    rcases (hp.visible h).2 with hs | hs | hs
    · exact .inl (hp.inFlight (.inr (.inr (.inr (.inl hs))))).1
    · exact .inl (hp.inFlight (.inr (.inr (.inr (.inr hs))))).1
    · exact .inr (hp.quarantined hs)
  · exact ⟨hr.head_valid, hr.following_valid⟩
  · exact fun h => (hr.following_behind h).1
  · exact fun h => (hr.following_behind h).2
  · exact hr.archived
  · exact fun h => (hp.inFlight h).2

/-- The invariant holds of every state a run reaches from an accepted start. -/
theorem run_inv
    (h : (init limits highWater generation epoch viewId).valid = true) (ops : List Op) :
    Inv (run step (init limits highWater generation epoch viewId) ops) :=
  run_induction (fun _ op hi => step_inv op hi) ops (init_inv h)

/-- **The model's own check never fails.**  From every start the constructor accepts, after every
sequence of calls, `invariantsHold` answers `true`. -/
theorem invariantsHold_run (limits : Limits) (highWater generation epoch : Nat) (viewId : ViewId)
    (h : (Model.init limits highWater generation epoch viewId).valid = true) (ops : List Op) :
    invariantsHold (run step (Model.init limits highWater generation epoch viewId) ops) = true :=
  (run_inv h ops).invariantsHold

/-- The limits of a small model: eight sequence numbers, generations, tags and epochs. -/
def smallLimits : Limits :=
  { sequenceTerminal := 8, generationTerminal := 8, tagTerminal := 8, epochTerminal := 8 }

theorem invariantsHold_run_small :
    (Model.init smallLimits 0 1 1 {}).valid = true ∧
      invariantsHold (run step (Model.init smallLimits 0 1 1 {})
        [.enterAttempt 1, .reserveLease 1 1, .reserveRange 1 2, .claimPublication 1 true,
          .recoverDeadPublication 1, .closeView]) = true :=
  ⟨by decide, invariantsHold_run smallLimits 0 1 1 {} (by decide) _⟩

end MetaFlux.Recovery
