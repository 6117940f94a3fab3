/-
# What a call of the recovery model can do

Each method is reduced to the elementary steps of `Recovery/Step.lean`, by its own guard; the
cascades (`recoverDeadDeviceUpdate`, `recoverDeadPublication`, `closeView`, the `reserve` and
`prepare` pairs) are the steps of their parts, one after the other.

* `call_cases` is the inversion: a call takes steps of the five groups only, or is a
  `finishLeaseCommit` that succeeds, or is an `openRange` that succeeds, or is a `reserveRange` that
  opens its range in an OPEN view;
* `step_induction` is the rule the invariants use.
-/
import MetaFlux.Recovery.Step

namespace MetaFlux.Recovery

open Base

variable {m m' : Model} {guard : Prop}

attribute [local simp] PublishState.inFlight

/-- A refusal changes nothing, and what succeeds takes steps. -/
abbrev Tried (m : Model) (result : Bool × Model) : Prop :=
  result = (false, m) ∨ result.1 = true ∧ Steps m result.2

theorem Tried.steps {result : Bool × Model} (h : Tried m result) : Steps m result.2 := by
  rcases h with rfl | h
  · exact .refl m
  · exact h.2

/-- A method that is one write behind one guard. -/
theorem guarded_tried [Decidable guard] (h : guard → Steps m m') :
    Tried m (if guard then (true, m') else (false, m)) := by
  split_ifs with hguard
  · exact .inr ⟨rfl, h hguard⟩
  · exact .inl rfl

theorem guarded_steps [Decidable guard] (h : guard → Steps m m') :
    Steps m (if guard then (true, m') else (false, m)).2 := (guarded_tried h).steps

/-- A method that runs a second one where the first succeeded takes the steps of both. -/
theorem andThen_steps {first : Bool × Model} {second : Model → Bool × Model}
    (h : Steps m first.2) (h' : ∀ m, Steps m (second m).2) :
    Steps m (andThen first second).2 := by
  unfold andThen
  split
  · exact h.trans (h' _)
  · exact h

/-! ## 1. Attempts and leases -/

variable (m) (a l t u r n p : Nat)

@[simp] theorem enterAttempt_steps : Steps m (enterAttempt m a).2 := by
  refine guarded_steps ?_
  rintro ⟨-, hview, hdev, hidle, htag⟩
  exact (LeaseStep.enter a hview hdev hidle htag).steps

@[simp] theorem claimLease_steps : Steps m (claimLease m a l).2 := by
  refine guarded_steps ?_
  rintro ⟨-, hatt, hfree, htag, hctrl⟩
  exact (LeaseStep.claim l hatt hfree htag hctrl).steps

@[simp] theorem materializeLease_steps : Steps m (materializeLease m a l).2 := by
  refine guarded_steps ?_
  rintro ⟨-, hatt, -, -, hlease, hctrl⟩
  exact (LeaseStep.materialize hatt hlease hctrl).steps

/-- A pair takes the steps of its parts. -/
@[simp] theorem reserveLease_steps : Steps m (reserveLease m a l).2 :=
  andThen_steps (claimLease_steps m a l) fun m => materializeLease_steps m a l

@[simp] theorem beginLeaseCommit_steps : Steps m (beginLeaseCommit m l).2 := by
  refine guarded_steps ?_
  rintro ⟨-, hlease, hatt, hctrl⟩
  exact (LeaseStep.beginCommit hlease hatt hctrl).steps

@[simp] theorem beginLeaseCommitToken_steps (t : AdmissionToken) :
    Steps m (beginLeaseCommitToken m t).2 := by
  unfold beginLeaseCommitToken
  split
  · exact beginLeaseCommit_steps m t.leaseTag
  · exact .refl m

/-- **A `finishLeaseCommit` that succeeds counts the admission**; any other changes nothing. -/
theorem finishLeaseCommit_cases :
    finishLeaseCommit m l = (false, m) ∨
      m.lease.tag = l ∧ m.lease.state = .committing ∧
      finishLeaseCommit m l = (true, m.countAdmission) := by
  unfold finishLeaseCommit
  split_ifs with h
  · exact .inr ⟨h.1, h.2, rfl⟩
  · exact .inl rfl

@[simp] theorem writeLeaseTarget_steps : Steps m (writeLeaseTarget m l).2 :=
  guarded_steps fun h => (LeaseStep.write h.2).steps

@[simp] theorem publishLease_steps : Steps m (publishLease m l).2 :=
  guarded_steps fun h => (LeaseStep.publish h.2).steps

@[simp] theorem releaseLease_steps : Steps m (releaseLease m l).2 := by
  refine guarded_steps ?_
  rintro ⟨rfl, hlease⟩
  have hrelease := (LeaseStep.release hlease).steps
  split_ifs with htarget
  · rwa [if_pos htarget] at hrelease
  · rwa [if_neg htarget] at hrelease

/-- The owner dies even where the recovery is then refused. -/
@[simp] theorem recoverDeadLease_steps : Steps m (recoverDeadLease m l).2 := by
  unfold recoverDeadLease
  split
  · rename_i h
    subst h
    have hdie := (LeaseStep.die (m := m)).steps
    dsimp only
    split
    · exact hdie
    · rename_i lease hlease
      exact hdie.trans (LeaseStep.recover lease hlease).steps
  · exact .refl m

@[simp] theorem reclaimLease_steps : Steps m (reclaimLease m t).2 := by
  refine guarded_steps ?_
  rintro ⟨hlease, htag, hatt⟩
  exact (LeaseStep.reclaim t hlease htag hatt).steps

/-! ## 2. Closing -/

theorem UpdateState.quarantine_of_pending {s : UpdateState} (h : s.pending) :
    s.quarantine = .quarantined := by
  obtain ⟨hfree, haborted, hclosed, hterminal, -⟩ := h
  cases s <;> first | rfl | contradiction

theorem PublishState.quarantine_of_inFlight {s : PublishState} (h : s.inFlight) :
    s.quarantine = .quarantined := by
  rcases h with rfl | rfl | rfl | rfl | rfl <;> rfl

variable {m}

/-- A record that the quarantine settles anyway may be quarantined before it. -/
theorem quarantine_setLease (h : hasLiveLease m = true) :
    quarantine (m.setLease .quarantined) = quarantine m := by
  unfold quarantine
  have hstate : m.lease.state.quarantine = .quarantined := if_pos h
  rw [hstate]
  rfl

/-- So may an update that is pending. -/
theorem quarantine_setUpdate (h : m.update.state.pending) :
    quarantine (m.setUpdate .quarantined) = quarantine m := by
  unfold quarantine
  rw [UpdateState.quarantine_of_pending h]
  rfl

variable (m)

@[simp] theorem expireLiveLease_steps : Steps m (expireLiveLease m l).2 := by
  refine guarded_steps fun h => ?_
  rw [quarantine_setLease h.2.2]
  exact (ControlStep.quarantine (.inl h.2.2)).steps

@[simp] theorem closeDevice_steps : Steps m (closeDevice m) := by
  unfold closeDevice
  split_ifs with h
  · exact .refl m
  · exact (ControlStep.closeDevice fun hd => h (.inr hd)).steps

variable {m}

/-- Closed before or closed now, the device is closed. -/
theorem closeDevice_closed (hvalid : m.valid = true) :
    (closeDevice m).deviceState = .closed ∧
      (closeDevice m).deviceGeneration = (closeDevice m).limits.generationTerminal := by
  unfold closeDevice
  split_ifs with h
  · exact h.resolve_left (by simp [hvalid])
  · exact ⟨rfl, rfl⟩

/-- The device is closed without a look at the view, so the view may be ended after it. -/
theorem closeView_eq (hvalid : m.valid = true)
    (hview : m.viewState ≠ .terminal ∧ m.viewState ≠ .quarantined)
    (hidle : m.publication.state.idle) :
    closeView m = { settleLeaseForClose (closeDevice m) with
      viewState := .terminal, viewGeneration := m.limits.generationTerminal } := by
  unfold closeView
  rw [if_neg (by simp [hvalid, hview]), if_neg (by simpa using hidle)]
  unfold closeDevice
  dsimp only
  split <;> rfl

variable (m)

/-- **A view is closed** after its device, or quarantined. -/
@[simp] theorem closeView_steps : Steps m (closeView m) := by
  by_cases hopen : m.valid = false ∨ m.viewState = .terminal ∨ m.viewState = .quarantined
  · have hsame : closeView m = m := if_pos hopen
    rw [hsame]
    exact .refl m
  simp only [not_or, Bool.not_eq_false] at hopen
  obtain ⟨hvalid, hview⟩ := hopen
  by_cases hidle : m.publication.state.idle
  · rw [closeView_eq hvalid hview hidle]
    refine (closeDevice_steps m).trans ?_
    have hframe : (closeDevice m).viewState = m.viewState ∧
        (closeDevice m).publication = m.publication ∧ (closeDevice m).limits = m.limits := by
      unfold closeDevice
      split <;> exact ⟨rfl, rfl, rfl⟩
    obtain ⟨hv, hp, hl⟩ := hframe
    rw [← hl]
    exact (ControlStep.closeView (by rwa [hv]) (by rwa [hp]) (closeDevice_closed hvalid)).steps
  · have hquarantine : closeView m = quarantine m := by
      simp [closeView, hvalid, hview, hidle]
    rw [hquarantine]
    exact (ControlStep.quarantine (.inr (.inr (.inr hview)))).steps

/-! ## 3. Device updates -/

@[simp] theorem claimDeviceUpdate_steps : Steps m (claimDeviceUpdate m u).2 := by
  unfold claimDeviceUpdate
  split
  · rename_i nextGeneration nextEpoch hgen hepoch
    obtain ⟨rfl, hg⟩ := checkedAdd_eq_some.1 hgen
    obtain ⟨rfl, he⟩ := checkedAdd_eq_some.1 hepoch
    refine guarded_steps ?_
    rintro ⟨-, hview, hdev, hidle, htag, -⟩
    exact (UpdateStep.claim u hview hdev hidle htag hg he).steps
  · exact .refl m

@[simp] theorem materializeDeviceUpdate_steps : Steps m (materializeDeviceUpdate m u).2 :=
  guarded_steps fun h => (UpdateStep.materialize h.2).steps

@[simp] theorem prepareDeviceUpdate_steps : Steps m (prepareDeviceUpdate m u).2 :=
  andThen_steps (claimDeviceUpdate_steps m u) fun m => materializeDeviceUpdate_steps m u

@[simp] theorem beginDeviceUpdateLink_steps : Steps m (beginDeviceUpdateLink m u).2 :=
  guarded_steps fun h => (UpdateStep.beginLink h.2).steps

/-- A link that is refused closes the update, which is a step as well. -/
@[simp] theorem completeDeviceUpdateLink_steps : Steps m (completeDeviceUpdateLink m u).2 := by
  unfold completeDeviceUpdateLink
  split_ifs with h htuple
  · obtain ⟨rfl, hstate⟩ := h
    exact (ControlStep.link hstate htuple).steps
  · exact (UpdateStep.refuseLink h.2 htuple).steps
  · exact .refl m

@[simp] theorem linkDeviceUpdate_steps : Steps m (linkDeviceUpdate m u).2 :=
  andThen_steps (beginDeviceUpdateLink_steps m u) fun m => completeDeviceUpdateLink_steps m u

@[simp] theorem publishDeviceUpdate_steps : Steps m (publishDeviceUpdate m u).2 := by
  refine guarded_steps ?_
  rintro ⟨rfl, hstate, htuple⟩
  exact (UpdateStep.publish hstate htuple).steps

@[simp] theorem reopenDeviceUpdate_steps : Steps m (reopenDeviceUpdate m u).2 := by
  refine guarded_steps ?_
  rintro ⟨rfl, hstate, hfence, htuple⟩
  exact (ControlStep.reopen hstate hfence htuple).steps

@[simp] theorem finishDeviceUpdate_steps : Steps m (finishDeviceUpdate m u).2 :=
  guarded_steps fun h => (UpdateStep.finish h.2).steps

/-- The first stage of a recovery: the update is aborted, or linked, or closed. -/
theorem recoverUpdateLink_steps : Steps m (recoverUpdateLink m m.update.tag) := by
  unfold recoverUpdateLink
  split_ifs with h hstate htuple
  · exact (UpdateStep.abort h).steps
  · exact (ControlStep.link hstate htuple).steps
  · exact (UpdateStep.refuseLink hstate htuple).steps
  · exact .refl m

theorem recoverUpdateLink_tag : (recoverUpdateLink m u).update.tag = m.update.tag := by
  unfold recoverUpdateLink
  split_ifs <;> rfl

/-- Where the operation of a stage is refused, the update is dropped. -/
theorem recoverUpdatePublish_steps : Steps m (recoverUpdatePublish m m.update.tag) := by
  unfold recoverUpdatePublish closeUnless
  split_ifs with hstate hrefused
  · exact publishDeviceUpdate_steps m m.update.tag
  · have hact : m.update.state = .active := of_decide_eq_true hstate
    have hguard : ¬ updateTupleMatches m m.update.tag := fun htuple =>
      hrefused (by simp [publishDeviceUpdate, hact, htuple])
    have hsame : (publishDeviceUpdate m m.update.tag).2 = m := by
      simp [publishDeviceUpdate, hguard]
    rw [hsame]
    exact (UpdateStep.drop (.inl ⟨hact, hguard⟩)).steps
  · exact .refl m

theorem recoverUpdatePublish_tag : (recoverUpdatePublish m u).update.tag = m.update.tag := by
  have hpub : (publishDeviceUpdate m u).2.update.tag = m.update.tag := by
    unfold publishDeviceUpdate
    split <;> rfl
  unfold recoverUpdatePublish closeUnless
  split
  · split <;> exact hpub
  · rfl

theorem recoverUpdateReopen_steps : Steps m (recoverUpdateReopen m m.update.tag) := by
  unfold recoverUpdateReopen closeUnless
  split_ifs with hstate hrefused
  · exact reopenDeviceUpdate_steps m m.update.tag
  · have hpublished : m.update.state = .fencePublished := of_decide_eq_true hstate
    have hguard : ¬ (m.update.fencePublished = true ∧ updateTupleMatches m m.update.tag) :=
      fun h => hrefused (by simp [reopenDeviceUpdate, hpublished, h.1, h.2])
    have hsame : (reopenDeviceUpdate m m.update.tag).2 = m := by
      simp [reopenDeviceUpdate, hguard]
    rw [hsame]
    exact (UpdateStep.drop (.inr ⟨hpublished, hguard⟩)).steps
  · exact .refl m

theorem recoverUpdateFinish_steps : Steps m (recoverUpdateFinish m) := by
  unfold recoverUpdateFinish
  split_ifs with h
  · exact (UpdateStep.finish h).steps
  · exact .refl m

/-- **The recovery of an update** is its owner's death and then the four stages. -/
@[simp] theorem recoverDeadDeviceUpdate_steps : Steps m (recoverDeadDeviceUpdate m u).2 := by
  unfold recoverDeadDeviceUpdate
  split_ifs with h
  · subst h
    dsimp only
    set dead : Model := { m with update := { m.update with owner := .dead } } with hdead
    have hlink := recoverUpdateLink_steps dead
    set linked := recoverUpdateLink dead dead.update.tag with hlinked
    have hlinkedTag : dead.update.tag = linked.update.tag := (recoverUpdateLink_tag dead _).symm
    rw [hlinkedTag]
    have hpub := recoverUpdatePublish_steps linked
    set published := recoverUpdatePublish linked linked.update.tag with hpublished
    have hpublishedTag : linked.update.tag = published.update.tag :=
      (recoverUpdatePublish_tag linked _).symm
    rw [hpublishedTag]
    exact UpdateStep.die.steps.trans (hlink.trans (hpub.trans
      ((recoverUpdateReopen_steps published).trans (recoverUpdateFinish_steps _))))
  · exact .refl m

@[simp] theorem expireLiveDeviceUpdate_steps : Steps m (expireLiveDeviceUpdate m u).2 := by
  refine guarded_steps fun h => ?_
  have hpend : m.update.state.pending := h.2.2
  rw [quarantine_setUpdate hpend]
  exact (ControlStep.quarantine (.inr (.inl hpend))).steps

/-! ## 4. Ranges -/

variable {m} {cleared : Model}

/-- A range is claimed as the head, -/
theorem rangeDestination_head (h : rangeDestination m = some (.head, cleared)) :
    ∃ range archive, cleared = { m with range, retiredRanges := archive } ∧
      m.HeadVacant archive := by
  unfold rangeDestination archiveRetiredRange at h
  split_ifs at h with hfree hspent hret hroom
  all_goals simp at h
  · exact ⟨m.range, m.retiredRanges, h.symm, .inl ⟨hfree, rfl⟩⟩
  · exact ⟨{}, _, h.symm, .inr (.inl ⟨hspent.2, hret, hroom.2, rfl⟩)⟩
  · exact ⟨{}, _, h.symm, .inr (.inr ⟨hspent.2, hspent.1.resolve_left hret, rfl⟩)⟩

/-- or behind a head that is open. -/
theorem rangeDestination_following (h : rangeDestination m = some (.following, cleared)) :
    cleared = m ∧ m.range.state = .open ∧ m.followingRange.state = .free := by
  unfold rangeDestination archiveRetiredRange at h
  split_ifs at h with hfree hspent hret hroom hopen
  all_goals simp at h
  exact ⟨h.symm, hopen⟩

variable (m)

/-- A claim is one step, whichever place the range has. -/
@[simp] theorem claimRange_steps : Steps m (claimRange m r n).2 := by
  unfold claimRange
  split
  · rename_i target nextTokenGeneration htarget htoken
    obtain ⟨rfl, hend⟩ := checkedAdd_eq_some.1 htarget
    obtain ⟨rfl, htoken⟩ := checkedAdd_eq_some.1 htoken
    split_ifs with h
    · obtain ⟨-, hlen, hview, htag, -⟩ := h
      split
      · exact .refl m
      rename_i slot cleared hdest
      cases slot with
      | head =>
        obtain ⟨range, archive, rfl, hplace⟩ := rangeDestination_head hdest
        exact (RangeStep.claimHead r n archive hview hlen htag hend htoken hplace).steps
      | following =>
        obtain ⟨rfl, hhead, hfree⟩ := rangeDestination_following hdest
        exact (RangeStep.claimFollowing r n hview hlen htag hend htoken hhead hfree).steps
    · exact .refl m
  · exact .refl m

@[simp] theorem prepareRange_steps : Steps m (prepareRange m r).2 := by
  unfold prepareRange
  split
  · exact .refl m
  · rename_i slot _
    refine guarded_steps fun hstate => ?_
    cases slot with
    | head => exact (RangeStep.prepareHead hstate).steps
    | following => exact (RangeStep.prepareFollowing hstate).steps

@[simp] theorem advanceRangeHead_steps : Steps m (advanceRangeHead m).2 := by
  unfold advanceRangeHead archiveRetiredRange
  split
  · rename_i h
    obtain ⟨hhead, hfoll, hidle⟩ := h
    by_cases hroom : m.retiredRanges.Room
    · rw [if_pos ⟨hhead, hroom⟩]
      exact (RangeStep.advance hhead hfoll hidle hroom).steps
    · rw [if_neg (fun h => hroom h.2)]
      exact .refl m
  · exact .refl m

/-- **An `openRange` that succeeds opens the record its tag selects**; any other changes nothing. -/
theorem openRange_cases :
    openRange m r = (false, m) ∨
      ∃ slot, initializingRange m r = some slot ∧ openable m slot ∧
        openRange m r = (true, m.openAt slot) := by
  unfold openRange
  split
  · exact .inl rfl
  · rename_i slot hslot
    split_ifs with hopen
    · exact .inr ⟨slot, hslot, hopen, rfl⟩
    · exact .inl rfl

/-! ## 5. Publications -/

@[simp] theorem claimPublicationToken_steps (t : RangeToken) (p : Nat) (c : Bool) :
    Steps m (claimPublicationToken m t p c).2 := by
  unfold claimPublicationToken
  split
  · exact .refl m
  rename_i nextCursor hcursor
  obtain ⟨rfl, hcursor⟩ := checkedAdd_eq_some.1 hcursor
  refine guarded_steps ?_
  rintro ⟨⟨-, hview, -, hopen⟩, ⟨-, -, htoken, hrange, hbegin, hend⟩, hidle, htag, htarget⟩
  have hhead : m.range.state = .open ∨
      (m.followingRange.state = .open ∧ m.followingRange.begin = m.range.begin) := by
    rcases hopen with ⟨hhead, -⟩ | ⟨hfoll, hmatch⟩
    · exact .inl hhead
    · exact .inr ⟨hfoll, by rw [← hbegin, hmatch.2.2.2.2.1]⟩
  rw [htoken, hrange, hbegin, hend]
  exact (PublicationStep.claim p c hview hhead hidle htag hcursor htarget).steps

@[simp] theorem claimPublication_steps (c : Bool) :
    Steps m (claimPublication m p c).2 := by
  unfold claimPublication
  split
  · exact .refl m
  · rename_i token _
    exact claimPublicationToken_steps m token p c

@[simp] theorem preparePublication_steps : Steps m (preparePublication m p).2 :=
  guarded_steps fun h => (PublicationStep.prepare h.2).steps

@[simp] theorem linkPublication_steps : Steps m (linkPublication m p).2 :=
  guarded_steps fun h => (PublicationStep.link h.2).steps

@[simp] theorem abortPublication_steps : Steps m (abortPublication m p).2 :=
  guarded_steps fun h => (PublicationStep.abort h.2).steps

@[simp] theorem reclaimPublication_steps : Steps m (reclaimPublication m t).2 := by
  refine guarded_steps ?_
  rintro ⟨hstate, hhead, htag⟩
  exact (PublicationStep.reclaim t hstate hhead htag).steps

/-! The four operations a recovery may repeat: each takes steps, and a refusal changes nothing. -/

theorem activatePublication_tried : Tried m (activatePublication m p) := by
  refine guarded_tried ?_
  rintro ⟨-, hstate, hview, hrange⟩
  exact (PublicationStep.activate hstate hview hrange).steps

/-- The cursor moves to the target, and the payload counts as applied. -/
theorem applyPublication_tried : Tried m (applyPublication m p) := by
  unfold applyPublication
  split
  · exact .inl rfl
  · rename_i nextCursor hcursor
    obtain ⟨rfl, -⟩ := checkedAdd_eq_some.1 hcursor
    refine guarded_tried ?_
    rintro ⟨-, hstate, hpay, hview, hrange, htarget⟩
    exact (PublicationStep.apply hstate hpay hview hrange htarget).steps

theorem markPublication_tried : Tried m (markPublication m p) := by
  refine guarded_tried ?_
  rintro ⟨-, hstate, hpay, hview, hrange, hcursor⟩
  exact (PublicationStep.mark hstate hpay hview hrange hcursor).steps

theorem compensate_tried (hstate : m.publication.state = .published) : Tried m (compensate m) := by
  unfold compensate
  split
  · exact .inl rfl
  · rename_i target hcursor
    obtain ⟨rfl, -⟩ := checkedAdd_eq_some.1 hcursor
    refine guarded_tried ?_
    rintro ⟨hvis, hview, hrange, htarget⟩
    exact (PublicationStep.compensate hstate hvis hview hrange htarget).steps

@[simp] theorem finishPublication_steps : Steps m (finishPublication m p).2 := by
  unfold finishPublication retireRange
  split
  · rename_i h
    by_cases hrange : publicationRangeMatches m
    · simp only [if_pos hrange]
      exact (PublicationStep.finish h.2 hrange).steps
    · simp only [if_neg hrange]
      exact .refl m
  · exact .refl m

/-- A recovery ends, one way or the other, in a state that steps lead to. -/
def Reaches (m : Model) : Except Model Model → Prop
  | .ok m' => Steps m m'
  | .error m' => Steps m m'

variable {m}

theorem Reaches.bind {e : Except Model Model} {f : Model → Except Model Model}
    (h : Reaches m e) (hf : ∀ m', Reaches m' (f m')) : Reaches m (e >>= f) := by
  cases e with
  | error => exact h
  | ok m' =>
    have hm' := hf m'
    change Reaches m (f m')
    cases hr : f m' with
    | error | ok => rw [hr] at hm'; exact Steps.trans h hm'

theorem quarantine_setPublication (h : m.publication.state.inFlight) :
    (quarantine m).setPublication .quarantined = quarantine m := by
  unfold quarantine
  rw [PublishState.quarantine_of_inFlight h]
  rfl

/-- A stage takes its steps, or ends the recovery in quarantine. -/
theorem quarantineUnless_reaches {guard : Bool} {op : Model → Bool × Model}
    (hguard : guard = true → m.publication.state.inFlight) (hop : guard = true → Tried m (op m)) :
    Reaches m (quarantineUnless guard op m) := by
  unfold quarantineUnless
  split
  · rename_i hg
    rcases hop hg with hop | ⟨hop, hsteps⟩
    · simp only [hop]
      rw [quarantine_setPublication (hguard hg)]
      exact (ControlStep.quarantine (.inr (.inr (.inl (hguard hg))))).steps
    · rw [if_pos hop]
      exact hsteps
  · exact .refl m

variable (m)

theorem recoverPublicationStages_reaches : Reaches m (recoverPublicationStages m p) := by
  refine Reaches.bind ?_ fun activated => Reaches.bind ?_ fun applied =>
    Reaches.bind ?_ fun marked => ?_
  · exact quarantineUnless_reaches (fun h => by simp_all)
      (fun _ => activatePublication_tried m p)
  · exact quarantineUnless_reaches (fun h => by simp_all)
      (fun _ => applyPublication_tried activated p)
  · exact quarantineUnless_reaches (fun h => by simp_all)
      (fun _ => markPublication_tried applied p)
  · exact quarantineUnless_reaches (fun h => by simp_all)
      (fun h => compensate_tried marked (by simp_all))

/-- **The recovery of a publication** is its stages, one after the other. -/
@[simp] theorem recoverDeadPublication_steps : Steps m (recoverDeadPublication m p).2 := by
  unfold recoverDeadPublication
  split
  · have hdie := (PublicationStep.die (m := m)).steps
    dsimp only
    set dead : Model := { m with publication := { m.publication with owner := .dead } }
    have hsettled : Steps dead (if dead.publication.state = .initializing ∨
        dead.publication.state = .prepared then dead.setPublication .aborted else dead) := by
      split_ifs with h
      · exact (PublicationStep.abort h).steps
      · exact .refl dead
    set settled := if dead.publication.state = .initializing ∨
      dead.publication.state = .prepared then dead.setPublication .aborted else dead
    refine hdie.trans (hsettled.trans ?_)
    split
    · exact finishPublication_steps settled p
    have hstages := recoverPublicationStages_reaches settled p
    split
    · rename_i quarantined hres
      rw [hres] at hstages
      exact hstages
    · rename_i recovered hres
      rw [hres] at hstages
      split
      · exact Steps.trans hstages (finishPublication_steps recovered p)
      · exact hstages
  · exact .refl m

@[simp] theorem expireLivePublication_steps : Steps m (expireLivePublication m p).2 := by
  refine guarded_steps ?_
  rintro ⟨-, -, hfree, haborted, hterminal, hquar⟩
  have hflight : m.publication.state.inFlight := by
    cases hs : m.publication.state <;> simp_all
  have hsame : quarantine { m.setPublication .quarantined with
        range := { m.range with state := .quarantined } } =
      quarantine { m with range := { m.range with state := .quarantined } } := by
    unfold quarantine
    rw [PublishState.quarantine_of_inFlight hflight]
    rfl
  rw [hsame]
  exact (ControlStep.expirePublication hflight).steps

/-! ## 6. Calls -/

variable {m}

theorem claimRange_view {r n : Nat} (h : (claimRange m r n).1 = true) : m.viewState = .open := by
  unfold claimRange at h
  split at h
  · split_ifs at h with hguard
    · exact hguard.2.2.1
  · simp at h

variable (m)

/-- A `reserveRange` opens a range only where it first claimed it, in an open view. -/
theorem reserveRange_cases :
    Steps m (reserveRange m r n).2 ∨
      ∃ prepared slot, m.viewState = .open ∧ Steps m prepared ∧ openable prepared slot ∧
        (reserveRange m r n).2 = prepared.openAt slot := by
  have hclaim := claimRange_steps m r n
  unfold reserveRange andThen
  by_cases hclaimed : (claimRange m r n).1 = true
  · have hprepare := hclaim.trans (prepareRange_steps (claimRange m r n).2 r)
    rw [if_pos hclaimed]
    dsimp only
    split
    · rcases openRange_cases (prepareRange (claimRange m r n).2 r).2 r with h | ⟨slot, -, hopen, h⟩
      · rw [h]
        exact .inl hprepare
      · rw [h]
        exact .inr ⟨_, slot, claimRange_view hclaimed, hprepare, hopen, rfl⟩
    · exact .inl hprepare
  · rw [if_neg hclaimed, if_neg hclaimed]
    exact .inl hclaim

/-- **What a call can do**: take steps of the five groups, or count an admission, or open a range by
`openRange`, or open one by `reserveRange` in a view that is open. -/
theorem call_cases (op : Op) :
    Steps m (step m op) ∨
      (op = .finishLeaseCommit m.lease.tag ∧ m.lease.state = .committing ∧
      step m op = m.countAdmission) ∨
      (∃ r slot, op = .openRange r ∧ initializingRange m r = some slot ∧ openable m slot ∧
        step m op = m.openAt slot) ∨
      (∃ r n prepared slot, op = .reserveRange r n ∧ m.viewState = .open ∧ Steps m prepared ∧
        openable prepared slot ∧ step m op = prepared.openAt slot) := by
  cases op with
  | finishLeaseCommit l =>
    rcases finishLeaseCommit_cases m l with h | ⟨rfl, hstate, h⟩
    · refine .inl ?_
      change Steps m (finishLeaseCommit m l).2
      rw [h]
      exact .refl m
    · refine .inr (.inl ⟨rfl, hstate, ?_⟩)
      change (finishLeaseCommit m m.lease.tag).2 = _
      rw [h]
  | openRange r =>
    rcases openRange_cases m r with h | ⟨slot, hslot, hopen, h⟩
    · refine .inl ?_
      change Steps m (openRange m r).2
      rw [h]
      exact .refl m
    · refine .inr (.inr (.inl ⟨r, slot, rfl, hslot, hopen, ?_⟩))
      change (openRange m r).2 = _
      rw [h]
  | reserveRange r n =>
    rcases reserveRange_cases m r n with h | ⟨prepared, slot, h⟩
    · exact .inl h
    · exact .inr (.inr (.inr ⟨r, n, prepared, slot, rfl, h⟩))
  | activatePublication p => exact .inl (activatePublication_tried m p).steps
  | applyPublication p => exact .inl (applyPublication_tried m p).steps
  | markPublication p => exact .inl (markPublication_tried m p).steps
  | _ => exact .inl (by simp [step, call])

variable {m}

/-- **The induction over a call**: what every step, every admission and every opening preserves, the
call preserves. -/
theorem step_induction {P : Model → Prop} (hstep : ∀ {a b}, Step a b → P a → P b)
    (hcount : ∀ {a}, a.lease.state = .committing → P a → P a.countAdmission)
    (hopen : ∀ {a slot}, openable a slot → P a → P (a.openAt slot)) (op : Op) (hm : P m) :
    P (step m op) := by
  rcases call_cases m op with h | ⟨-, hc, heq⟩ | ⟨r, slot, -, -, ho, heq⟩ |
    ⟨r, n, mid, slot, -, -, hs, ho, heq⟩
  · exact h.induction hstep hm
  · rw [heq]
    exact hcount hc hm
  · rw [heq]
    exact hopen ho hm
  · rw [heq]
    exact hopen ho (hs.induction hstep hm)

end MetaFlux.Recovery
