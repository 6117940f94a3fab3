/-
# Progress: a view that is open is seldom stuck

From which reachable states can the callers of the model still publish, and still admit?  A caller
that wants the cursor to move finishes whatever stands in the way of the next publication, one call
at a time: it opens the range that is being claimed, carries the publication through, retires the
head and moves up or claims the next range.  One that wants an admission does the same with the
attempt, the lease and the device update.  Each stage below makes ONE call and hands over to the
stage it leads to.

The admissions never get stuck.  The publications do, in two ways (`Wedged`):

* the head was retired while the range behind it was claimed and not opened yet.  `openRange` opens
  a range behind an OPEN head only, `advanceRangeHead` moves up an open range only, and
  `claimRange` wants the place of the half-finished one;
* a publication that has to be compensated took the LAST number of its range.  It cannot be
  finished uncompensated, and there is no number left to compensate it with.

No call leads out of either with the view open (`wedged_step`).
-/
import MetaFlux.Recovery.Flow

namespace MetaFlux.Recovery

open Base Model

variable {m m' : Model} {bound : Nat}

/-! ## 1. Room and goals -/

/-- Generations and tags are 32-bit words in the source, and so are their terminals. -/
def Limits.Fits (limits : Limits) : Prop :=
  limits.generationTerminal ≤ uint32Max ∧ limits.tagTerminal ≤ uint32Max
deriving Decidable

/-- Every space has a value left and the archive has a place left.  A lease that has ended takes two
tags to be held again, one when it is reclaimed and one when it is claimed. -/
@[mk_iff]
structure HasRoom (m : Model) : Prop where
  attempt : m.attempt.tag + 1 < m.limits.tagTerminal
  lease : m.lease.tag + 2 < m.limits.tagTerminal
  update : m.update.tag + 1 < m.limits.tagTerminal
  range : m.rangeTagHighWater + 1 < m.limits.tagTerminal
  publication : m.publication.tag + 1 < m.limits.tagTerminal
  sequence : m.allocationHighWater + 1 < m.limits.sequenceTerminal
  token : m.rangeTokenGeneration + 1 < m.limits.generationTerminal
  generation : m.deviceGeneration + 1 < m.limits.generationTerminal
  epoch : m.epoch + 1 < m.limits.epochTerminal
  archive : m.retiredRanges.Room

/-- Some sequence of calls, with the view open after each of them, takes the counter past the
bound. -/
def CanExceed (counter : Model → Nat) (bound : Nat) (m : Model) : Prop :=
  CanReach step (fun m op => (step m op).viewState = .open) (fun m => bound < counter m) m

/-- The publications go on past the bound. -/
abbrev CanPublish (bound : Nat) (m : Model) : Prop := CanExceed Model.publicationCursor bound m

/-- The admissions go on past the bound. -/
abbrev CanAdmit (bound : Nat) (m : Model) : Prop := CanExceed Model.committedAdmissions bound m

/-- Some sequence of calls that keeps the view open leaves the counter larger than it is. -/
def CanRaise (counter : Model → Nat) (m : Model) : Prop :=
  CanExceed counter (counter m) m

/-- The two dead ends of the publications. -/
def Wedged (m : Model) : Prop :=
  (m.range.state = .retired ∧ m.followingRange.state.unopened) ∨
    (m.intermediateVisible = true ∧ m.publicationCursor = m.range.end)
deriving Decidable

/-- A state reached with the view still open. -/
structure Running (m : Model) : Prop where
  inv : Inv m
  flow : Flow m
  view : m.viewState = .open
  fits : m.limits.Fits

theorem step_limits (m : Model) (op : Op) : (step m op).limits = m.limits := by
  refine step_induction (P := fun x => x.limits = m.limits) ?_ ?_ ?_ op rfl
  · exact fun hs h => hs.kept.2.trans h
  · exact fun _ h => h
  · intro a slot _ h
    cases slot <;> exact h

/-- **One stage**: a call that leaves the view open, and what can be reached after it. -/
theorem Running.proceed (hr : Running m) {counter : Model → Nat} (op : Op) {answer : Bool}
    (hcall : call m op = (answer, m')) (hview : m'.viewState = m.viewState)
    (h : Running m' → CanExceed counter bound m') : CanExceed counter bound m := by
  obtain rfl : step m op = m' := congrArg Prod.snd hcall
  have hopen := hview.trans hr.view
  have hlimits := step_limits m op
  refine CanReach.after op hopen (h ⟨step_inv op hr.inv, step_flow hr.inv hr.flow op, hopen, ?_⟩)
  rw [hlimits]
  exact hr.fits

/-- The publication was aborted, or is published with nothing left to compensate. -/
def Model.finishable (m : Model) : Prop :=
  m.publication.state = .aborted ∨
    (m.publication.state = .published ∧ m.intermediateVisible = false)

/-- The head retired and the publication over. -/
def Model.finished (m : Model) : Model :=
  { m with
    range := m.range.retire m.publicationCursor
    history := { m.history with
      retired := m.range.retire m.publicationCursor :: m.history.retired } }.setPublication
        .terminal

theorem following_slot (hhead : m.range.state = .open)
    (hfoll : m.followingRange.state.unopened) :
    initializingRange m m.followingRange.tag = some .following := by
  have hnot : ¬ (m.range.tag = m.followingRange.tag ∧ m.range.state.unopened) := fun h =>
    RangeState.not_unopened_of_open hhead h.2
  rw [initializingRange, if_neg hnot, if_pos ⟨rfl, hfoll⟩]

/-- A lease that is over and may be reclaimed. -/
def LeaseState.ended (s : LeaseState) : Prop := s = .released ∨ s = .revoked ∨ s = .tombstoned

/-- A linked update has the tuple its next operation asks for. -/
theorem updateTuple_of_linked (hi : Inv m) (h : m.update.state.linked) :
    updateTupleMatches m m.update.tag := by
  obtain ⟨-, htag, hgen, -⟩ := hi.update.linked h
  exact ⟨hi.update.updating_iff.2 h, hgen.symm, htag.symm, rfl⟩

/-! ## 2. A publication that is under way -/

section Publication

variable (hb : bound ≤ m.publicationCursor) (hr : Running m)

theorem matches_of_inFlight (hi : Inv m) (h : m.publication.state.inFlight) :
    publicationRangeMatches m :=
  (hi.publication.inFlight h).2

theorem inFlight_of_visible (hi : Inv m) (hview : m.viewState = .open)
    (hvis : m.intermediateVisible = true) : m.publication.state.inFlight := by
  rcases (hi.publication.visible hvis).2 with hs | hs | hs
  · exact .inr (.inr (.inr (.inl hs)))
  · exact .inr (.inr (.inr (.inr hs)))
  · simp [hi.publication.quarantined hs] at hview

theorem head_bounds (hi : Inv m) (hopen : m.range.state = .open) :
    m.range.begin ≤ m.range.end ∧ m.range.end < m.limits.sequenceTerminal := by
  obtain ⟨-, hle, hend, -⟩ := hi.range.head_valid.bounds (by simp [hopen])
  exact ⟨hle, hend⟩

include hb hr

theorem exceeds_active (hstate : m.publication.state = .active)
    (hpay : m.publication.payloadApplied = false) : CanPublish bound m := by
  have hflight : m.publication.state.inFlight := .inr (.inr (.inr (.inl hstate)))
  have hmatch := matches_of_inFlight hr.inv hflight
  have htarget := hr.flow.sequence.target hflight hpay
  have hlt : m.publicationCursor + 1 < m.limits.sequenceTerminal := by
    have hle := hr.inv.publication.target_le hflight
    have hend := (head_bounds hr.inv hmatch.1).2
    omega
  have hcall : call m (.applyPublication m.publication.tag) =
      (true, { m.moveCursor m.publication.targetSequence with
        publication := { m.publication with payloadApplied := true }
        intermediateVisible := m.publication.requiresCompensation }) := by
    simp only [call, applyPublication, checkedAdd_eq_some.2 ⟨rfl, hlt⟩]
    exact if_pos ⟨trivial, hstate, hpay, hr.view, hmatch, htarget⟩
  refine hr.proceed _ hcall rfl fun _ => CanReach.here ?_
  change bound < m.publication.targetSequence
  omega

theorem exceeds_linking (hstate : m.publication.state = .linking) : CanPublish bound m := by
  have hmatch := matches_of_inFlight hr.inv (.inr (.inr (.inl hstate)))
  refine hr.proceed (.activatePublication m.publication.tag)
    (if_pos ⟨rfl, hstate, hr.view, hmatch⟩) rfl fun hr' => ?_
  exact exceeds_active hb hr' rfl (hr.flow.sequence.early (.inr (.inr hstate)))

theorem exceeds_prepared (hstate : m.publication.state = .prepared) : CanPublish bound m := by
  refine hr.proceed (.linkPublication m.publication.tag) (if_pos ⟨rfl, hstate⟩) rfl fun hr' => ?_
  exact exceeds_linking hb hr' rfl

theorem exceeds_initializing (hstate : m.publication.state = .initializing) :
    CanPublish bound m := by
  refine hr.proceed (.preparePublication m.publication.tag) (if_pos ⟨rfl, hstate⟩) rfl fun hr' => ?_
  exact exceeds_prepared hb hr' rfl

/-! ## 3. The next publication -/

section

variable (hroom : m.publication.tag + 1 < m.limits.tagTerminal)

include hroom

theorem exceeds_open
    (hidle : m.publication.state.idle) (hhead : m.range.state = .open) : CanPublish bound m := by
  have hfresh := hr.flow.sequence.fresh hidle hhead
  obtain ⟨hle, hend⟩ := head_bounds hr.inv hhead
  have hlt : m.publicationCursor + 1 < m.limits.sequenceTerminal := by omega
  have hmax : max m.range.begin (m.publicationCursor + 1) ≤ m.range.end := by omega
  have hcall : call m (.claimPublication (m.publication.tag + 1) false) =
      (true, { m with
        publication :=
          { tag := m.publication.tag + 1, state := .initializing, rangeTag := m.range.tag
            tokenGeneration := m.range.tokenGeneration, rangeBegin := m.range.begin
            rangeEnd := m.range.end
            targetSequence := max m.range.begin (m.publicationCursor + 1) } }) := by
    simp only [call, claimPublication, currentRangeToken, rangeToken, hhead,
      claimPublicationToken, checkedAdd_eq_some.2 ⟨rfl, hlt⟩]
    exact if_pos ⟨⟨hr.inv.valid, hr.view, rfl, .inl ⟨hhead, rfl, rfl, rfl, rfl, rfl, rfl⟩⟩,
      ⟨rfl, rfl, rfl, rfl, rfl, rfl⟩, hidle, nextTag_iff.2 ⟨rfl, hroom⟩, hmax⟩
  refine hr.proceed _ hcall rfl fun hr' => ?_
  exact exceeds_initializing hb hr' rfl

theorem exceeds_head_prepared (hhead : m.range.state = .prepared) : CanPublish bound m := by
  have hidle := idle_of_head hr.inv hr.flow hr.view (by simp [hhead])
  have hcall : call m (.openRange m.range.tag) = (true, m.openAt .head) := by
    have hslot : initializingRange m m.range.tag = some .head := if_pos ⟨rfl, .inr hhead⟩
    simp only [call, openRange, hslot]
    exact if_pos (hr.inv.openable .head hhead (by rintro ⟨⟩))
  refine hr.proceed _ hcall rfl fun hr' => ?_
  exact exceeds_open hb hr' hroom hidle rfl

theorem exceeds_head_initializing (hhead : m.range.state = .initializing) : CanPublish bound m := by
  have hcall : call m (.prepareRange m.range.tag) =
      (true, { m with range := { m.range with state := .prepared } }) := by
    have hslot : initializingRange m m.range.tag = some .head := if_pos ⟨rfl, .inl hhead⟩
    simp only [call, prepareRange, hslot]
    exact if_pos hhead
  refine hr.proceed _ hcall rfl fun hr' => ?_
  exact exceeds_head_prepared hb hr' hroom rfl

end

/-- The head is free, or can be archived to make place for a new one. -/
theorem exceeds_no_head (hroom : HasRoom m)
    (hplace : m.range.state = .free ∨ m.range.state = .retired ∧ m.followingRange.state = .free) :
    CanPublish bound m := by
  have hfits : m.rangeTokenGeneration + 1 ≤ uint32Max :=
    Nat.le_trans (Nat.le_of_lt hroom.token) hr.fits.1
  have hguard : m.valid = true ∧ 1 ≠ 0 ∧ m.viewState = .open ∧
      nextTag m m.rangeTagHighWater (m.rangeTagHighWater + 1) ∧
      m.rangeTokenGeneration + 1 ≤ uint32Max :=
    ⟨hr.inv.valid, by simp, hr.view, nextTag_iff.2 ⟨rfl, hroom.range⟩, hfits⟩
  have hcall : ∃ archive, call m (.claimRange (m.rangeTagHighWater + 1) 1) =
      (true, { m with
        rangeTagHighWater := m.rangeTagHighWater + 1
        retiredRanges := archive
        range :=
          { tag := m.rangeTagHighWater + 1, state := .initializing
            begin := m.allocationHighWater + 1, «end» := m.allocationHighWater + 1
            tokenGeneration := m.rangeTokenGeneration + 1 } }) := by
    simp only [call, claimRange, checkedAdd_eq_some.2 ⟨rfl, hroom.sequence⟩,
      checkedAdd_eq_some.2 ⟨rfl, hroom.token⟩, if_pos hguard]
    rcases hplace with hfree | ⟨hret, hfree⟩
    · simp [rangeDestination, hfree, setRangeAt]
    · simp [rangeDestination, archiveRetiredRange, hret, hfree, hroom.archive, setRangeAt]
  obtain ⟨archive, hcall⟩ := hcall
  refine hr.proceed _ hcall rfl fun hr' => ?_
  exact exceeds_head_initializing hb hr' hroom.publication rfl

theorem exceeds_behind (harchive : m.retiredRanges.Room)
    (hroom : m.publication.tag + 1 < m.limits.tagTerminal) (hhead : m.range.state = .retired)
    (hfoll : m.followingRange.state = .open) : CanPublish bound m := by
  have hidle := idle_of_head hr.inv hr.flow hr.view (by simp [hhead])
  have hcall : call m .advanceRangeHead =
      (true, { m with
        retiredRanges := m.retiredRanges.push m.range
        range := m.followingRange
        followingRange := {} }) := by
    simp [call, advanceRangeHead, archiveRetiredRange, hhead, hfoll, hidle, harchive]
  refine hr.proceed _ hcall rfl fun hr' => ?_
  exact exceeds_open hb hr' hroom hidle hfoll

/-! ## 4. A publication that is over

It is finished, which retires the head; a range that has been claimed behind the head has to be
opened BEFORE that. -/

omit hb hr in
theorem finish_call (hfinish : m.finishable) (hmatch : publicationRangeMatches m) :
    call m (.finishPublication m.publication.tag) = (true, m.finished) := by
  simp only [call, finishPublication, retireRange, if_pos hmatch, ↓reduceIte]
  exact if_pos ⟨trivial, hfinish⟩

omit hb hr in
theorem finished_retired (m : Model) : m.finished.range.state = .retired :=
  (m.range.retire_frame m.publicationCursor).1

section

variable (harchive : m.retiredRanges.Room) (hroom : m.publication.tag + 1 < m.limits.tagTerminal)
  (hfinish : m.finishable) (hmatch : publicationRangeMatches m)

include harchive hroom hfinish hmatch

theorem exceeds_finish_behind (hfoll : m.followingRange.state = .open) : CanPublish bound m := by
  refine hr.proceed _ (finish_call hfinish hmatch) rfl fun hr' => ?_
  exact exceeds_behind hb hr' harchive hroom (finished_retired m) hfoll

theorem exceeds_following_prepared (hfoll : m.followingRange.state = .prepared) :
    CanPublish bound m := by
  have hcall : call m (.openRange m.followingRange.tag) = (true, m.openAt .following) := by
    simp only [call, openRange, following_slot hmatch.1 (.inr hfoll)]
    exact if_pos (hr.inv.openable .following hfoll fun _ => hmatch.1)
  refine hr.proceed _ hcall rfl fun hr' => ?_
  exact exceeds_finish_behind hb hr' harchive hroom hfinish hmatch rfl

theorem exceeds_following_initializing (hfoll : m.followingRange.state = .initializing) :
    CanPublish bound m := by
  have hcall : call m (.prepareRange m.followingRange.tag) =
      (true, { m with followingRange := { m.followingRange with state := .prepared } }) := by
    simp only [call, prepareRange, following_slot hmatch.1 (.inl hfoll)]
    exact if_pos hfoll
  refine hr.proceed _ hcall rfl fun hr' => ?_
  exact exceeds_following_prepared hb hr' harchive hroom hfinish hmatch rfl

end

theorem exceeds_finishable (hroom : HasRoom m) (hfinish : m.finishable)
    (hmatch : publicationRangeMatches m) : CanPublish bound m := by
  have hsettled := hr.flow.sequence.following
  have hquar := (hr.flow.sequence.quarantined hr.view).2
  cases hs : m.followingRange.state with
  | free =>
    refine hr.proceed _ (finish_call hfinish hmatch) rfl fun hr' => ?_
    refine exceeds_no_head hb hr' ?_ (.inr ⟨finished_retired m, hs⟩)
    exact { hroom with }
  | «open» =>
    exact exceeds_finish_behind hb hr hroom.archive hroom.publication hfinish hmatch hs
  | prepared =>
    exact exceeds_following_prepared hb hr hroom.archive hroom.publication hfinish hmatch hs
  | initializing =>
    exact exceeds_following_initializing hb hr hroom.archive hroom.publication hfinish hmatch hs
  | retired | terminal | quarantined => simp_all

section

variable (hstate : m.publication.state = .published) (hvis : m.intermediateVisible = true)

include hstate hvis

omit hb hr in
/-- The recovery of a publisher whose publication is visible compensates it and finishes it. -/
theorem recover_call {compensated : Model}
    (hcompensate : compensate { m with publication := { m.publication with owner := .dead } } =
      (true, compensated)) (hpublished : compensated.publication.state = .published) :
    recoverDeadPublication m m.publication.tag =
      finishPublication compensated m.publication.tag := by
  have hearly : ¬ (m.publication.state = .initializing ∨ m.publication.state = .prepared) := by
    simp [hstate]
  have haborted : m.publication.state ≠ .aborted := by simp [hstate]
  have hstages : recoverPublicationStages
      { m with publication := { m.publication with owner := .dead } } m.publication.tag =
        .ok compensated := by
    simp only [recoverPublicationStages, recoverPublicationLink, recoverPublicationApply,
      recoverPublicationMark, recoverPublicationCompensate, quarantineUnless, bind, Except.bind]
    rw [if_neg (by simp [hstate])]
    dsimp only
    rw [if_neg (by simp [hstate])]
    dsimp only
    rw [if_neg (by simp [hstate])]
    dsimp only
    rw [if_pos (by simp [hstate, hvis]), hcompensate]
    rfl
  unfold recoverDeadPublication
  rw [if_pos rfl]
  dsimp only
  rw [if_neg hearly, if_neg haborted, hstages]
  exact if_pos hpublished

theorem exceeds_visible (hlt : m.publicationCursor < m.range.end) : CanPublish bound m := by
  have hmatch := matches_of_inFlight hr.inv (.inr (.inr (.inr (.inr hstate))))
  have hend := (head_bounds hr.inv hmatch.1).2
  have hnext : m.publicationCursor + 1 < m.limits.sequenceTerminal := by omega
  have hcompensate : compensate { m with publication := { m.publication with owner := .dead } } =
      (true, { { m with publication := { m.publication with owner := .dead } }.moveCursor
          (m.publicationCursor + 1) with
        intermediateVisible := false
        compensationCount := (m.compensationCount + 1) % 2 ^ 32 }) := by
    simp only [compensate, checkedAdd_eq_some.2 ⟨rfl, hnext⟩]
    exact if_pos ⟨hvis, hr.view, hmatch, hlt⟩
  have hcall := (recover_call hstate hvis hcompensate hstate).trans
    (finish_call (.inr ⟨hstate, rfl⟩) hmatch)
  refine hr.proceed (.recoverDeadPublication m.publication.tag) hcall rfl fun _ => CanReach.here ?_
  change bound < m.publicationCursor + 1
  omega

end

/-- An applied publication is marked, if that has not been done, and finished or compensated. -/
theorem exceeds_published (hroom : HasRoom m)
    (hstate : m.publication.state = .published) (hfree : ¬ Wedged m) : CanPublish bound m := by
  have hmatch := matches_of_inFlight hr.inv (.inr (.inr (.inr (.inr hstate))))
  by_cases hvis : m.intermediateVisible = true
  · have hle := hr.flow.sequence.cursor_le (.inl hmatch.1)
    have hne : m.publicationCursor ≠ m.range.end := fun h => hfree (.inr ⟨hvis, h⟩)
    exact exceeds_visible hb hr hstate hvis (by omega)
  · exact exceeds_finishable hb hr hroom (.inr ⟨hstate, by simpa using hvis⟩) hmatch

theorem exceeds_applied (hroom : HasRoom m)
    (hstate : m.publication.state = .active) (hpay : m.publication.payloadApplied = true)
    (hfree : ¬ Wedged m) : CanPublish bound m := by
  have hmatch := matches_of_inFlight hr.inv (.inr (.inr (.inr (.inl hstate))))
  have hcursor := hr.flow.sequence.reached hstate hpay
  refine hr.proceed (.markPublication m.publication.tag)
    (if_pos ⟨rfl, hstate, hpay, hr.view, hmatch, hcursor⟩) rfl fun hr' => ?_
  refine exceeds_published hb hr' ?_ rfl hfree
  exact { hroom with }

/-- **Publications go on** from every state that is not wedged. -/
theorem exceeds_of_not_wedged (hroom : HasRoom m) (hfree : ¬ Wedged m) : CanPublish bound m := by
  have hflow := hr.flow.sequence
  have hquar := hflow.quarantined hr.view
  cases hs : m.range.state with
  | free => exact exceeds_no_head hb hr hroom (.inl hs)
  | initializing => exact exceeds_head_initializing hb hr hroom.publication hs
  | prepared => exact exceeds_head_prepared hb hr hroom.publication hs
  | «open» =>
    cases hp : m.publication.state with
    | free => exact exceeds_open hb hr hroom.publication (.inl hp) hs
    | terminal => exact exceeds_open hb hr hroom.publication (.inr hp) hs
    | initializing => exact exceeds_initializing hb hr hp
    | prepared => exact exceeds_prepared hb hr hp
    | linking => exact exceeds_linking hb hr hp
    | active =>
      cases hpay : m.publication.payloadApplied with
      | false => exact exceeds_active hb hr hp hpay
      | true => exact exceeds_applied hb hr hroom hp hpay hfree
    | published => exact exceeds_published hb hr hroom hp hfree
    | aborted => exact exceeds_finishable hb hr hroom (.inl hp) (hflow.aborted hr.view hp)
    | quarantined =>
      have hview := hr.view
      simp [hr.inv.publication.quarantined hp] at hview
  | retired =>
    have hopened : ¬ m.followingRange.state.unopened := fun h => hfree (.inl ⟨hs, h⟩)
    cases hf : m.followingRange.state with
    | free => exact exceeds_no_head hb hr hroom (.inr ⟨hs, hf⟩)
    | «open» => exact exceeds_behind hb hr hroom.archive hroom.publication hs hf
    | initializing | prepared => simp [hf, RangeState.unopened] at hopened
    | retired => exact absurd hf hflow.following.1
    | terminal => exact absurd hf hflow.following.2
    | quarantined => exact absurd hf hquar.2
  | terminal => exact absurd hs hflow.head
  | quarantined => exact absurd hs hquar.1

end Publication

/-! ## 5. An admission that is under way -/

section Admission

variable (hb : bound ≤ m.committedAdmissions) (hr : Running m)

theorem lease_controls (hi : Inv m) (hlive : m.lease.state.live = true) :
    controlsMatch m m.lease.viewGeneration m.lease.deviceGeneration := by
  obtain ⟨hview, hdev, hvg, hdg⟩ := hi.lease.live hlive
  exact ⟨hi.valid, hview, hdev, hvg.symm, hdg.symm⟩

include hb hr

/-- The counter does not wrap: every count was on account of another tag. -/
theorem exceeds_committing (hlease : m.lease.state = .committing) : CanAdmit bound m := by
  have hcount := hr.flow.attempt.uncounted (.inr (.inr hlease))
  have htag := hr.inv.lease.lease_lt
  have hfits := hr.fits.2
  refine hr.proceed (.finishLeaseCommit m.lease.tag) (if_pos ⟨rfl, hlease⟩) rfl
    fun _ => CanReach.here ?_
  change bound < (m.committedAdmissions + 1) % 2 ^ 32
  unfold uint32Max at hfits
  omega

theorem exceeds_reserved (hlease : m.lease.state = .reserved) : CanAdmit bound m := by
  have hlive : m.lease.state.live = true := by simp [hlease, LeaseState.live]
  have hready : m.attempt.state = .ready := by simpa [hlease] using (hr.flow.attempt.live hlive).2
  refine hr.proceed (.beginLeaseCommit m.lease.tag)
    (if_pos ⟨rfl, hlease, hready, lease_controls hr.inv hlive⟩) rfl fun hr' => ?_
  exact exceeds_committing hb hr' rfl

theorem exceeds_materialized (hlease : m.lease.state = .initializing) : CanAdmit bound m := by
  have hlive : m.lease.state.live = true := by simp [hlease, LeaseState.live]
  obtain ⟨htarget, hs⟩ := hr.flow.attempt.live hlive
  have hatt : m.attempt.state = .initializing := by simpa [hlease] using hs
  refine hr.proceed (.materializeLease m.attempt.tag m.lease.tag)
    (if_pos ⟨rfl, hatt, htarget, rfl, hlease, lease_controls hr.inv hlive⟩) rfl
    fun hr' => ?_
  exact exceeds_reserved hb hr' rfl

/-! ## 6. The next admission -/

theorem exceeds_entering (hroom : m.lease.tag + 1 < m.limits.tagTerminal)
    (hatt : m.attempt.state = .entering) (hfree : m.lease.state = .free) :
    CanAdmit bound m := by
  obtain ⟨hview, hdev, hvg, hdg⟩ :=
    hr.flow.attempt.under_way (by simp [hatt]) (by simp [hatt])
  refine hr.proceed (.claimLease m.attempt.tag (m.lease.tag + 1))
    (if_pos ⟨rfl, hatt, hfree, nextTag_iff.2 ⟨rfl, hroom⟩, hr.inv.valid, hview, hdev,
      hvg.symm, hdg.symm⟩) rfl fun hr' => ?_
  exact exceeds_materialized hb hr' rfl

theorem exceeds_out (hlease : m.lease.tag + 1 < m.limits.tagTerminal)
    (hroom : m.attempt.tag + 1 < m.limits.tagTerminal) (hdev : m.deviceState = .open)
    (hatt : m.attempt.state = .idle ∨ m.attempt.state = .exited)
    (hfree : m.lease.state = .free) : CanAdmit bound m := by
  refine hr.proceed (.enterAttempt (m.attempt.tag + 1))
    (if_pos ⟨hr.inv.valid, hr.view, hdev, hatt, nextTag_iff.2 ⟨rfl, hroom⟩⟩) rfl
    fun hr' => ?_
  exact exceeds_entering hb hr' hlease rfl hfree

section

variable (hlease : m.lease.tag + 2 < m.limits.tagTerminal)
  (hroom : m.attempt.tag + 1 < m.limits.tagTerminal)

include hlease hroom

theorem exceeds_exited (hdev : m.deviceState = .open)
    (hatt : m.attempt.state = .exited) (hended : m.lease.state.ended) : CanAdmit bound m := by
  have hnext : m.lease.tag + 1 < m.limits.tagTerminal := by omega
  refine hr.proceed (.reclaimLease (m.lease.tag + 1))
    (if_pos ⟨hended, nextTag_iff.2 ⟨rfl, hnext⟩, hatt⟩) rfl fun hr' => ?_
  exact exceeds_out hb hr' hlease hroom hdev (.inr hatt) rfl

theorem exceeds_published_lease (hstate : m.lease.state = .published) : CanAdmit bound m := by
  have hlive : m.lease.state.live = true := by simp [hstate, LeaseState.live]
  obtain ⟨htarget, -⟩ := hr.flow.attempt.live hlive
  have hdev := (hr.inv.lease.live hlive).2.1
  have hcall : call m (.releaseLease m.lease.tag) =
      (true, (m.setLease .released).setAttempt .exited) := by
    simp only [call, releaseLease, hstate, htarget, and_self, ↓reduceIte]
  refine hr.proceed _ hcall rfl fun hr' => ?_
  exact exceeds_exited hb hr' hlease hroom hdev rfl (.inl rfl)

theorem exceeds_committed (hstate : m.lease.state = .committed) : CanAdmit bound m := by
  refine hr.proceed (.publishLease m.lease.tag) (if_pos ⟨rfl, hstate⟩) rfl fun hr' => ?_
  exact exceeds_published_lease hb hr' hlease hroom rfl

/-! ## 7. An admission that waits for the device

While the device is updating nobody is admitted; the update is published and the device reopened.
And an attempt that entered before the lease of the one before it was reclaimed can neither claim
that lease nor leave: it takes a device update to make it exit. -/

section Vacant

variable (hatt : m.attempt.state = .idle ∨ m.attempt.state = .exited)
  (hstate : m.lease.state = .free ∨ m.lease.state.ended)

include hatt hstate

theorem exceeds_vacant (hdev : m.deviceState = .open) : CanAdmit bound m := by
  rcases hstate with hfree | hended
  · exact exceeds_out hb hr (by omega) hroom hdev hatt hfree
  · have hclaimed := hr.flow.attempt.claimed (by rcases hended with h | h | h <;> simp [h])
    exact exceeds_exited hb hr hlease hroom hdev (hatt.resolve_left hclaimed) hended

theorem exceeds_fencePublished (hupdate : m.update.state = .fencePublished) : CanAdmit bound m := by
  have htuple := updateTuple_of_linked hr.inv (.inr hupdate)
  refine hr.proceed (.reopenDeviceUpdate m.update.tag)
    (if_pos ⟨rfl, hupdate, hr.inv.update.fence hupdate, htuple⟩) rfl fun hr' => ?_
  exact exceeds_vacant hb hr' hlease hroom hatt hstate rfl

theorem exceeds_active_update (hupdate : m.update.state = .active) : CanAdmit bound m := by
  have htuple := updateTuple_of_linked hr.inv (.inl hupdate)
  refine hr.proceed (.publishDeviceUpdate m.update.tag)
    (if_pos ⟨rfl, hupdate, htuple⟩) rfl fun hr' => ?_
  exact exceeds_fencePublished hb hr' hlease hroom hatt hstate rfl

end Vacant

section

variable (hatt : m.attempt.state = .entering) (hended : m.lease.state.ended)

include hatt hended

theorem exceeds_linking_update (hupdate : m.update.state = .linking) : CanAdmit bound m := by
  obtain ⟨hdev, hgen, hepoch, -⟩ := hr.flow.update.unlinked (.inr (.inr hupdate))
  have hcall : call m (.completeDeviceUpdateLink m.update.tag) =
      (true, linkDevice m m.update.tag) := by
    have htuple : linkTupleMatches m := ⟨hr.view, hdev, hgen.symm, hepoch.symm⟩
    simp [call, completeDeviceUpdateLink, hupdate, htuple]
  have hsame : m.lease.settle = m.lease := by
    rcases hended with h | h | h <;> simp [LeaseRecord.settle, h]
  have hout : m.attempt.settle = { m.attempt with state := .exited } := by
    simp [AttemptRecord.settle, hatt]
  refine hr.proceed _ hcall rfl fun hr' => ?_
  refine exceeds_active_update hb hr' ?_ ?_ ?_ ?_ rfl
  all_goals simp only [linkDevice, settleLeaseForClose, setUpdate, hsame, hout]
  · exact hlease
  · exact hroom
  · exact .inr trivial
  · exact .inr hended

theorem exceeds_prepared_update (hupdate : m.update.state = .prepared) : CanAdmit bound m := by
  refine hr.proceed (.beginDeviceUpdateLink m.update.tag) (if_pos ⟨rfl, hupdate⟩) rfl fun hr' => ?_
  exact exceeds_linking_update hb hr' hlease hroom hatt hended rfl

theorem exceeds_initializing_update (hupdate : m.update.state = .initializing) :
    CanAdmit bound m := by
  refine hr.proceed (.materializeDeviceUpdate m.update.tag) (if_pos ⟨rfl, hupdate⟩) rfl
    fun hr' => ?_
  exact exceeds_prepared_update hb hr' hlease hroom hatt hended rfl

end

end

section

variable (hroom : HasRoom m) (hatt : m.attempt.state = .entering)
  (hended : m.lease.state.ended)

include hroom hatt hended

theorem exceeds_no_update (hupdate : m.update.state = .free ∨ m.update.state = .terminal) :
    CanAdmit bound m := by
  obtain ⟨-, hdev, -⟩ :=
    hr.flow.attempt.under_way (by simp [hatt]) (by simp [hatt])
  have hfits : m.deviceGeneration + 1 ≤ uint32Max :=
    Nat.le_trans (Nat.le_of_lt hroom.generation) hr.fits.1
  have hcall : call m (.claimDeviceUpdate (m.update.tag + 1)) =
      (true, { m with
        update :=
          { tag := m.update.tag + 1, state := .initializing, oldGeneration := m.deviceGeneration
            newGeneration := m.deviceGeneration + 1, oldEpoch := m.epoch
            newEpoch := m.epoch + 1 } }) := by
    simp only [call, claimDeviceUpdate, checkedAdd_eq_some.2 ⟨rfl, hroom.generation⟩,
      checkedAdd_eq_some.2 ⟨rfl, hroom.epoch⟩]
    exact if_pos ⟨hr.inv.valid, hr.view, hdev, hupdate, nextTag_iff.2 ⟨rfl, hroom.update⟩, hfits⟩
  refine hr.proceed _ hcall rfl fun hr' => ?_
  exact exceeds_initializing_update hb hr' hroom.lease hroom.attempt hatt hended rfl

theorem exceeds_finished_update (hupdate :
    m.update.state = .reopened ∨ m.update.state = .aborted ∨ m.update.state = .closed) :
    CanAdmit bound m := by
  refine hr.proceed (.finishDeviceUpdate m.update.tag) (if_pos ⟨rfl, hupdate⟩) rfl fun hr' => ?_
  exact exceeds_no_update hb hr' { hroom with } hatt hended (.inr rfl)

/-- The attempt entered too early. -/
theorem exceeds_early : CanAdmit bound m := by
  have hlease := hroom.lease
  obtain ⟨-, hdev, -⟩ :=
    hr.flow.attempt.under_way (by simp [hatt]) (by simp [hatt])
  have hlinked : ¬ m.update.state.linked := by
    rw [← hr.inv.update.updating_iff]
    simp [hdev]
  cases hs : m.update.state with
  | free => exact exceeds_no_update hb hr hroom hatt hended (.inl hs)
  | terminal => exact exceeds_no_update hb hr hroom hatt hended (.inr hs)
  | initializing =>
    exact exceeds_initializing_update hb hr hlease hroom.attempt hatt hended hs
  | prepared => exact exceeds_prepared_update hb hr hlease hroom.attempt hatt hended hs
  | linking => exact exceeds_linking_update hb hr hlease hroom.attempt hatt hended hs
  | reopened => exact exceeds_finished_update hb hr hroom hatt hended (.inl hs)
  | aborted => exact exceeds_finished_update hb hr hroom hatt hended (.inr (.inl hs))
  | closed => exact exceeds_finished_update hb hr hroom hatt hended (.inr (.inr hs))
  | active | fencePublished => simp [hs, UpdateState.linked] at hlinked
  | quarantined => exact absurd hr.view (hr.flow.update.quarantined hs)

end

/-- The lease is not live. -/
theorem exceeds_not_live (hroom : HasRoom m) (hdev : m.deviceState ≠ .closed)
    (hstate : m.lease.state = .free ∨ m.lease.state.ended) : CanAdmit bound m := by
  have ha := hr.flow.attempt
  have hdead : m.lease.state.live ≠ true := by
    rcases hstate with h | h | h | h <;> simp [h, LeaseState.live]
  by_cases hopen : m.deviceState = .open
  · cases hs : m.attempt.state with
    | idle => exact exceeds_vacant hb hr hroom.lease hroom.attempt (.inl hs) hstate hopen
    | exited => exact exceeds_vacant hb hr hroom.lease hroom.attempt (.inr hs) hstate hopen
    | entering =>
      rcases hstate with hfree | hended
      · have hlease := hroom.lease
        exact exceeds_entering hb hr (by omega) hs hfree
      · exact exceeds_early hb hr hroom hs hended
    | claiming => exact absurd hs ha.not_claiming
    | initializing => exact absurd (ha.holding (.inl hs)) hdead
    | ready => exact absurd (ha.holding (.inr hs)) hdead
  · have hupd : m.deviceState = .updating := by
      cases hs : m.deviceState <;> simp_all
    have hatt : m.attempt.state = .idle ∨ m.attempt.state = .exited := by
      by_contra hne
      simp only [not_or] at hne
      exact hopen (ha.under_way hne.1 hne.2).2.1
    rcases hr.inv.update.updating_iff.1 hupd with hs | hs
    · exact exceeds_active_update hb hr hroom.lease hroom.attempt hatt hstate hs
    · exact exceeds_fencePublished hb hr hroom.lease hroom.attempt hatt hstate hs

/-- **Admissions go on** as long as the device is not closed. -/
theorem exceeds_admissions (hroom : HasRoom m) (hdev : m.deviceState ≠ .closed) :
    CanAdmit bound m := by
  cases hs : m.lease.state with
  | free => exact exceeds_not_live hb hr hroom hdev (.inl hs)
  | initializing => exact exceeds_materialized hb hr hs
  | reserved => exact exceeds_reserved hb hr hs
  | committing => exact exceeds_committing hb hr hs
  | committed => exact exceeds_committed hb hr hroom.lease hroom.attempt hs
  | published => exact exceeds_published_lease hb hr hroom.lease hroom.attempt hs
  | released => exact exceeds_not_live hb hr hroom hdev (.inr (.inl hs))
  | revoked => exact exceeds_not_live hb hr hroom hdev (.inr (.inr (.inl hs)))
  | tombstoned => exact exceeds_not_live hb hr hroom hdev (.inr (.inr (.inr hs)))
  | quarantined => exact absurd hr.view (hr.flow.attempt.quarantined hs)

end Admission

/-! ## 8. The dead ends -/

/-- A view that has been closed or quarantined is not opened again. -/
theorem Step.view_open (h : Step m m') (hopen : m'.viewState = .open) : m.viewState = .open := by
  cases h with
  | lease h | update h | range h | publication h => cases h <;> exact hopen
  | control h => cases h <;> first | exact hopen | cases hopen

/-- Wedged at this cursor, for as long as the view is open. -/
structure Stuck (cursor : Nat) (m : Model) : Prop where
  inv : Inv m
  flow : Flow m
  wedged : m.viewState = .open → Wedged m ∧ m.publicationCursor = cursor

theorem RangeStep.wedged (h : RangeStep m m') (hi : Inv m) (hview : m.viewState = .open)
    (hw : Wedged m) : Wedged m' ∧ m'.publicationCursor = m.publicationCursor := by
  rcases hw with ⟨hhead, hfoll⟩ | ⟨hvis, hcursor⟩
  · have hnot : m.followingRange.state ≠ .free ∧ m.followingRange.state ≠ .open := by
      rcases hfoll with hs | hs <;> simp [hs]
    cases h with
    | claimHead _ _ _ _ _ _ _ _ hplace =>
      rcases hplace with ⟨hs, -⟩ | ⟨hs, -⟩ | ⟨hs, -⟩
      · simp [hhead] at hs
      · exact absurd hs hnot.1
      · exact absurd hs hnot.1
    | claimFollowing _ _ _ _ _ _ _ _ hfree =>
      exact absurd hfree hnot.1
    | prepareHead hstate => simp [hhead] at hstate
    | prepareFollowing => exact ⟨.inl ⟨hhead, .inr rfl⟩, rfl⟩
    | advance _ hopen => exact absurd hopen hnot.2
  · -- the head is the open one the publication belongs to
    have hhead := (matches_of_inFlight hi (inFlight_of_visible hi hview hvis)).1
    cases h with
    | claimHead _ _ _ _ _ _ _ _ hplace =>
      rcases hplace with ⟨hs, -⟩ | ⟨-, hs, -⟩ | ⟨-, hs, -⟩ <;> simp [hhead] at hs
    | claimFollowing | prepareFollowing => exact ⟨.inr ⟨hvis, hcursor⟩, rfl⟩
    | prepareHead hstate => simp [hhead] at hstate
    | advance hhead' => simp [hhead] at hhead'

theorem PublicationStep.wedged (h : PublicationStep m m') (hi : Inv m) (hf : Flow m)
    (hview : m.viewState = .open) (hw : Wedged m) :
    Wedged m' ∧ m'.publicationCursor = m.publicationCursor := by
  rcases hw with ⟨hhead, hfoll⟩ | ⟨hvis, hcursor⟩
  · -- no publication goes on under a head that is not open
    have hclosed : ¬ publicationRangeMatches m := fun h =>
      absurd (h.1.symm.trans hhead) (by simp)
    have hidle := idle_of_head hi hf hview (by simp [hhead])
    cases h with
    | claim _ _ _ hopen =>
      have hs := head_open_of_claim hi hopen
      simp [hhead] at hs
    | prepare hstate | link hstate => simp [PublishState.idle, hstate] at hidle
    | abort hstate => rcases hstate with hs | hs <;> simp [PublishState.idle, hs] at hidle
    | activate _ _ hrange | apply _ _ _ hrange | mark _ _ _ hrange | finish _ hrange
    | compensate _ _ _ hrange => exact absurd hrange hclosed
    | die | reclaim => exact ⟨.inl ⟨hhead, hfoll⟩, rfl⟩
  · have hpay := (hi.publication.visible hvis).1
    have hflight := inFlight_of_visible hi hview hvis
    cases h with
    | claim _ _ _ _ hidle =>
      exact absurd hflight (PublishState.not_inFlight_of_idle hidle)
    | prepare hstate => simp [hf.sequence.early (.inl hstate)] at hpay
    | link hstate => simp [hf.sequence.early (.inr (.inl hstate))] at hpay
    | activate hstate => simp [hf.sequence.early (.inr (.inr hstate))] at hpay
    | apply _ hpay' => simp [hpay'] at hpay
    | mark | die => exact ⟨.inr ⟨hvis, hcursor⟩, rfl⟩
    | finish hstate =>
      rcases hstate with hs | ⟨-, hs⟩
      · simp [hs, PublishState.inFlight] at hflight
      · simp [hs] at hvis
    | abort hstate =>
      rcases hstate with hs | hs
      · simp [hf.sequence.early (.inl hs)] at hpay
      · simp [hf.sequence.early (.inr (.inl hs))] at hpay
    | compensate => omega
    | reclaim _ hstate => simp [hstate, PublishState.inFlight] at hflight

/-- A step that leaves the view open leaves a wedged publication where it is. -/
theorem Step.wedged (h : Step m m') (hi : Inv m) (hf : Flow m) (hview : m'.viewState = .open)
    (hw : Wedged m) : Wedged m' ∧ m'.publicationCursor = m.publicationCursor := by
  have hview' := h.view_open hview
  cases h with
  | lease h | update h => cases h <;> exact ⟨hw, rfl⟩
  | control h => cases h <;> first | exact ⟨hw, rfl⟩ | cases hview
  | range h => exact h.wedged hi hview' hw
  | publication h => exact h.wedged hi hf hview' hw

theorem openAt_wedged {slot : RangeSlot} (ho : openable m slot) (hi : Inv m)
    (hview : m.viewState = .open) (hw : Wedged m) :
    Wedged (m.openAt slot) ∧ (m.openAt slot).publicationCursor = m.publicationCursor := by
  rcases hw with ⟨hhead, -⟩ | ⟨hvis, hcursor⟩
  · cases slot with
    | head => exact absurd (ho.1.symm.trans hhead) (by simp)
    | following => exact absurd ((ho.2.2.2.2.2 rfl).symm.trans hhead) (by simp)
  · have hhead := (matches_of_inFlight hi (inFlight_of_visible hi hview hvis)).1
    cases slot with
    | head => exact absurd (ho.1.symm.trans hhead) (by simp)
    | following => exact ⟨.inr ⟨hvis, hcursor⟩, rfl⟩

theorem Stuck.step {cursor : Nat} (h : Stuck cursor m) (op : Op) : Stuck cursor (step m op) := by
  refine step_induction ?_ ?_ ?_ op h
  · intro a b hs ha
    refine ⟨hs.inv ha.inv, hs.flow ha.inv ha.flow, fun hview => ?_⟩
    obtain ⟨hw, hc⟩ := ha.wedged (hs.view_open hview)
    obtain ⟨hw', hc'⟩ := hs.wedged ha.inv ha.flow hview hw
    exact ⟨hw', hc'.trans hc⟩
  · intro a hc ha
    exact ⟨countAdmission_inv hc ha.inv, countAdmission_flow hc ha.flow, ha.wedged⟩
  · intro a slot ho ha
    refine ⟨openAt_inv ho ha.inv, openAt_flow ha.inv ha.flow ho, fun hview => ?_⟩
    have hview' : a.viewState = .open := by
      cases slot <;> exact hview
    obtain ⟨hw, hc⟩ := ha.wedged hview'
    obtain ⟨hw', hc'⟩ := openAt_wedged ho ha.inv hview' hw
    exact ⟨hw', hc'.trans hc⟩

/-- **Nothing leads out of a dead end** with the view open. -/
theorem not_canRaise_of_wedged (hr : Running m) (hw : Wedged m) :
    ¬ CanRaise publicationCursor m := by
  unfold CanRaise
  refine not_canReach (P := fun x => Stuck m.publicationCursor x ∧ x.viewState = .open) ?_ ?_
    ⟨⟨hr.inv, hr.flow, fun _ => ⟨hw, rfl⟩⟩, hr.view⟩
  · exact fun x op hx hopen => ⟨hx.1.step op, hopen⟩
  · rintro x ⟨hx, hopen⟩ hlt
    exact absurd (hx.wedged hopen).2 (Nat.ne_of_gt hlt)

/-! ## 9. Progress from every reachable state -/

theorem run_running {limits : Limits} {highWater generation epoch : Nat} {viewId : ViewId}
    (hvalid : (init limits highWater generation epoch viewId).valid = true)
    (hfits : limits.Fits) (ops : List Op)
    (hview : (run step (init limits highWater generation epoch viewId) ops).viewState = .open) :
    Running (run step (init limits highWater generation epoch viewId) ops) := by
  refine ⟨run_inv hvalid ops, run_flow ops (init_inv hvalid) (init_flow ..), hview, ?_⟩
  have hlimits : (run step (init limits highWater generation epoch viewId) ops).limits =
      limits :=
    run_induction (fun m op h => (step_limits m op).trans h) ops rfl
  rwa [hlimits]

/-- **Progress.**  In every state reached from a valid start in which the view is open, the device
is not closed and nothing is exhausted, some calls that keep the view open admit once more; and some
calls that keep it open publish once more exactly if the publications are not wedged. -/
theorem progress_iff (limits : Limits) (highWater generation epoch : Nat) (viewId : ViewId)
    (hvalid : (Model.init limits highWater generation epoch viewId).valid = true)
    (hfits : limits.Fits) (ops : List Op) :
    let reached := run step (init limits highWater generation epoch viewId) ops
    reached.viewState = .open → reached.deviceState ≠ .closed → HasRoom reached →
      CanRaise committedAdmissions reached ∧
        (CanRaise publicationCursor reached ↔ ¬ Wedged reached) := by
  intro reached hview hdev hroom
  have hr : Running reached := run_running hvalid hfits ops hview
  refine ⟨exceeds_admissions .refl hr hroom hdev, ?_, ?_⟩
  · exact fun hcan hw => not_canRaise_of_wedged hr hw hcan
  · exact exceeds_of_not_wedged .refl hr hroom

/-- The next range is claimed, and before it is opened the publication that uses up the head is
finished. -/
def overtakenRange : List Op :=
  [.reserveRange 1 1, .claimRange 2 1, .claimPublication 1 false, .preparePublication 1,
    .linkPublication 1, .activatePublication 1, .applyPublication 1, .markPublication 1,
    .finishPublication 1]

instance (m : Model) : Decidable (HasRoom m) := decidable_of_iff _ (hasRoom_iff m).symm

theorem progress_iff_fresh :
    let reached := run step (init smallLimits 0 1 1 {}) [.reserveRange 1 1, .claimRange 2 1]
    HasRoom reached ∧ CanRaise committedAdmissions reached ∧
      (CanRaise publicationCursor reached ↔ ¬ Wedged reached) :=
  ⟨by decide +kernel,
    progress_iff smallLimits 0 1 1 {} (by decide) (by decide) _ (by decide +kernel)
    (by decide +kernel) (by decide +kernel)⟩

/-- **The overtaken range**: everything has room, the view and the device are open, and no sequence
of calls that keeps the view open moves the cursor. -/
theorem overtakenRange_wedged :
    let reached := run step (init smallLimits 0 1 1 {}) overtakenRange
    reached.viewState = .open ∧ reached.deviceState = .open ∧ HasRoom reached ∧
      ¬ CanRaise publicationCursor reached := by
  have hview : (run step (init smallLimits 0 1 1 {}) overtakenRange).viewState = .open := by
    decide +kernel
  refine ⟨hview, by decide +kernel, by decide +kernel, ?_⟩
  exact not_canRaise_of_wedged (run_running (by decide) (by decide) _ hview) (by decide +kernel)

end MetaFlux.Recovery
