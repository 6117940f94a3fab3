/-
# What an accepted read, or an accepted token, says about the time in between

A read is taken in two halves, `beginRead` and `finishRead`, and an admission or a range is used by
showing a token that was handed out before.  In both cases the second call compares a few words with
the state it finds.  That the comparison speaks for the WHOLE time since the first rests on those
words never coming back to a value they have left:

* every link of a device update raises the epoch and nothing lowers it; a device that was closed
  stays closed (`Passed`);
* the clock of a lease (`Recovery/Admission.lean`) never falls, and shows `reserved` once per tag;
* a range whose tag has been given out and that is not open any more will not be opened again
  (`Spent`): every claim gives out a tag above all tags so far.
-/
import MetaFlux.Recovery.Flow

namespace MetaFlux.Recovery

open Base

variable {m m' : Model}

/-! ## 1. What disturbs a read -/

/-- The call links a device update. -/
def Links (m : Model) : Op → Prop
  | .completeDeviceUpdateLink u => (completeDeviceUpdateLink m u).1 = true
  | .linkDeviceUpdate u => (linkDeviceUpdate m u).1 = true
  | .recoverDeadDeviceUpdate u =>
    m.update.tag = u ∧ m.update.state = .linking ∧ linkTupleMatches m
  | _ => False

/-- The call links a device update, closes the device, closes the view or quarantines it. -/
def Disturbs (m : Model) (op : Op) : Prop :=
  Links m op ∨ op = .closeDevice ∨ op = .closeView ∨ (step m op).viewState = .quarantined

/-- The epoch has moved on, or the device was closed. -/
def Passed (epoch : Nat) (m : Model) : Prop := epoch < m.epoch ∨ m.deviceState = .closed

theorem linkDevice_epoch (hf : Flow m) (hstate : m.update.state = .linking) :
    (linkDevice m m.update.tag).epoch = m.epoch + 1 :=
  (hf.update.unlinked (.inr (.inr hstate))).2.2.2

theorem Step.epoch_le (h : Step m m') (hf : Flow m) : m.epoch ≤ m'.epoch := by
  cases h with
  | lease h | update h | range h | publication h => cases h <;> exact .refl
  | control h =>
    cases h with
    | link hstate =>
      rw [linkDevice_epoch hf hstate]
      exact Nat.le_succ _
    | _ => exact .refl

theorem Step.device_closed (h : Step m m') (hclosed : m.deviceState = .closed) :
    m'.deviceState = .closed := by
  cases h with
  | lease h | update h | range h | publication h => cases h <;> exact hclosed
  | control h =>
    cases h with
    | link _ htuple => exact absurd (hclosed.symm.trans htuple.2.1) (by simp)
    | reopen _ _ htuple => exact absurd (hclosed.symm.trans htuple.1) (by simp)
    | closeView => exact hclosed
    | _ => rfl

/-- The state of a read at this epoch: both invariants, and an epoch that has not fallen. -/
structure ReadFrom (epoch : Nat) (m : Model) : Prop where
  inv : Inv m
  flow : Flow m
  epoch_le : epoch ≤ m.epoch

variable {epoch : Nat} (op : Op)

theorem readFrom_step (h : ReadFrom epoch m) : ReadFrom epoch (step m op) := by
  refine step_induction ?_ ?_ ?_ op h
  · intro a b hs ha
    exact ⟨hs.inv ha.inv, hs.flow ha.inv ha.flow, Nat.le_trans ha.epoch_le (hs.epoch_le ha.flow)⟩
  · intro a hc ha
    exact ⟨countAdmission_inv hc ha.inv, countAdmission_flow hc ha.flow, ha.epoch_le⟩
  · intro a slot ho ha
    refine ⟨openAt_inv ho ha.inv, openAt_flow ha.inv ha.flow ho, ?_⟩
    cases slot <;> exact ha.epoch_le

theorem step_device_closed (h : m.deviceState = .closed) : (step m op).deviceState = .closed := by
  refine step_induction (P := fun m => m.deviceState = .closed) ?_ ?_ ?_ op h
  · exact fun hs ha => hs.device_closed ha
  · exact fun _ ha => ha
  · intro a slot _ ha
    cases slot <;> exact ha

/-- What has been passed stays so. -/
theorem passed_step (hr : ReadFrom epoch m) (h : Passed epoch m) : Passed epoch (step m op) := by
  rcases h with hlt | hclosed
  · have hnext : ReadFrom (epoch + 1) m := ⟨hr.inv, hr.flow, hlt⟩
    exact .inl (readFrom_step op hnext).epoch_le
  · exact .inr (step_device_closed op hclosed)

/-! ## 2. Whatever disturbs a read passes it -/

theorem completeLink_epoch {u : Nat} (hf : Flow m) (h : (completeDeviceUpdateLink m u).1 = true) :
    (completeDeviceUpdateLink m u).2.epoch = m.epoch + 1 := by
  unfold completeDeviceUpdateLink at h ⊢
  split
  · rename_i hguard
    obtain ⟨rfl, hstate⟩ := hguard
    split
    · exact linkDevice_epoch hf hstate
    · rename_i htuple
      simp [hstate, htuple] at h
  · rename_i hguard
    simp [hguard] at h

theorem linkDeviceUpdate_epoch {u : Nat} (hi : Inv m) (hf : Flow m)
    (h : (linkDeviceUpdate m u).1 = true) : (linkDeviceUpdate m u).2.epoch = m.epoch + 1 := by
  have hbegun : Flow (beginDeviceUpdateLink m u).2 := step_flow hi hf (.beginDeviceUpdateLink u)
  have hsame : (beginDeviceUpdateLink m u).2.epoch = m.epoch := by
    unfold beginDeviceUpdateLink
    split <;> rfl
  unfold linkDeviceUpdate andThen at h ⊢
  split
  · rename_i hbegin
    rw [if_pos hbegin] at h
    rw [completeLink_epoch hbegun h, hsame]
  · rename_i hbegin
    rw [if_neg hbegin] at h
    exact absurd h hbegin

theorem closeUnless_epoch {guard : Bool} {op : Model → Bool × Model}
    (hop : (op m).2.epoch = m.epoch) : (closeUnless guard op m).epoch = m.epoch := by
  unfold closeUnless
  split
  · split
    · exact hop
    · exact hop
  · rfl

/-- The recovery goes on from the link without touching the epoch again. -/
theorem recoverLink_epoch (hf : Flow m) (hstate : m.update.state = .linking)
    (htuple : linkTupleMatches m) :
    (recoverDeadDeviceUpdate m m.update.tag).2.epoch = m.epoch + 1 := by
  have hpub : ∀ x u, (recoverUpdatePublish x u).epoch = x.epoch := by
    intro x u
    refine closeUnless_epoch ?_
    simp only [publishDeviceUpdate]
    split <;> rfl
  have hreopen : ∀ x u, (recoverUpdateReopen x u).epoch = x.epoch := by
    intro x u
    refine closeUnless_epoch ?_
    simp only [reopenDeviceUpdate]
    split <;> rfl
  have hfinish : ∀ x : Model, (recoverUpdateFinish x).epoch = x.epoch := by
    intro x
    unfold recoverUpdateFinish
    split <;> rfl
  have hlink : (recoverUpdateLink { m with update := { m.update with owner := .dead } }
      m.update.tag).epoch = m.epoch + 1 := by
    have hguard : ¬ (m.update.state = .initializing ∨ m.update.state = .prepared) := by
      simp [hstate]
    unfold recoverUpdateLink
    rw [if_neg hguard, if_pos hstate]
    split
    · exact (hf.update.unlinked (.inr (.inr hstate))).2.2.2
    · rename_i hrefused
      exact absurd htuple hrefused
  unfold recoverDeadDeviceUpdate
  rw [if_pos rfl]
  rw [hfinish, hreopen, hpub, hlink]

theorem passed_of_links {op : Op} (hr : ReadFrom epoch m) (h : Links m op) :
    Passed epoch (step m op) := by
  have hle := hr.epoch_le
  have hepoch : (step m op).epoch = m.epoch + 1 := by
    cases op with
    | completeDeviceUpdateLink => exact completeLink_epoch hr.flow h
    | linkDeviceUpdate => exact linkDeviceUpdate_epoch hr.inv hr.flow h
    | recoverDeadDeviceUpdate =>
      obtain ⟨rfl, hstate, htuple⟩ := h
      exact recoverLink_epoch hr.flow hstate htuple
    | _ => exact absurd h id
  refine .inl ?_
  omega

theorem closeView_closed (hi : Inv m) : (closeView m).deviceState = .closed := by
  have hvalid := hi.valid
  by_cases hview : m.viewState = .terminal ∨ m.viewState = .quarantined
  · have hsame : closeView m = m := if_pos (.inr hview)
    rw [hsame]
    refine hi.control.device_of_view ?_
    rcases hview with h | h <;> simp [h]
  · by_cases hidle : m.publication.state.idle
    · rw [closeView_eq hvalid (not_or.1 hview) hidle]
      exact (closeDevice_closed hvalid).1
    · have hquarantine : closeView m = quarantine m := by
        simp [closeView, hvalid, hview, hidle]
      rw [hquarantine]
      rfl

theorem passed_of_disturbs {op : Op} (hr : ReadFrom epoch m) (h : Disturbs m op) :
    Passed epoch (step m op) := by
  rcases h with hlinks | rfl | rfl | hquar
  · exact passed_of_links hr hlinks
  · exact .inr (closeDevice_closed hr.inv.valid).1
  · exact .inr (closeView_closed hr.inv)
  · exact .inr ((step_inv op hr.inv).control.device_of_view (by simp [hquar]))

/-- A read that is accepted was not passed. -/
theorem not_passed_of_finishRead {snapshot : ReadSnapshot} (h : finishRead m snapshot = true) :
    ¬ Passed snapshot.epoch m := by
  have hguard := of_decide_eq_true h
  obtain ⟨-, hepoch, -, -, hdev, -⟩ := hguard
  rintro (hlt | hclosed)
  · omega
  · exact absurd (hclosed.symm.trans hdev) (by simp)

/-! ## 3. Leases -/

variable {tag : Nat} {lease : LeaseRecord} (ops : List Op)

/-- The clock shows `reserved` for one state of one lease only. -/
theorem reserved_of_clock (h : lease.clock = 7 * tag + 2) :
    lease.tag = tag ∧ lease.state = .reserved := by
  have hrank := lease.state.rank_le
  unfold LeaseRecord.clock at h
  refine ⟨by omega, ?_⟩
  have htwo : lease.state.rank = 2 := by omega
  cases hs : lease.state <;> simp [hs, LeaseState.rank] at htwo
  rfl

theorem clock_of_reserved (h : lease.state = .reserved) : lease.clock = 7 * lease.tag + 2 := by
  simp [LeaseRecord.clock, h, LeaseState.rank]

/-- A lease reserved under the same tag at both ends of a run was reserved throughout. -/
theorem reserved_throughout (hi : Inv m) (htag : m.lease.tag = tag)
    (hstate : m.lease.state = .reserved) (htag' : (run step m ops).lease.tag = tag)
    (hstate' : (run step m ops).lease.state = .reserved) :
    Throughout step (fun m => m.lease.tag = tag ∧ m.lease.state = .reserved) m ops := by
  have hstart : m.lease.clock = 7 * tag + 2 := htag ▸ clock_of_reserved hstate
  have hend : (run step m ops).lease.clock = 7 * tag + 2 := htag' ▸ clock_of_reserved hstate'
  refine Throughout.imp ?_ ops (throughout_of_absorbing
    (P := fun m => Inv m ∧ 7 * tag + 2 ≤ m.lease.clock) (D := fun m => 7 * tag + 2 < m.lease.clock)
    ?_ ?_ ops ⟨hi, Nat.le_of_eq hstart.symm⟩ (by omega))
  · rintro s ⟨⟨-, hle⟩, hlt⟩
    exact reserved_of_clock (Nat.le_antisymm (Nat.not_lt.1 hlt) hle)
  · rintro s op ⟨his, hle⟩
    exact ⟨step_inv op his, Nat.le_trans hle (step_ages op his).clock_le⟩
  · rintro s op ⟨his, -⟩ hlt
    exact Nat.lt_of_lt_of_le hlt (step_ages op his).clock_le

/-! ## 4. Ranges -/

/-- The tag has been given out, to a range that has been opened since if it is still there. -/
structure GivenOut (tag : Nat) (m : Model) : Prop where
  tag_le : tag ≤ m.rangeTagHighWater
  opened : ∀ slot, (m.rangeAt slot).tag = tag → ¬ (m.rangeAt slot).state.unopened

/-- The range is not open, and will not be. -/
def Spent (tag : Nat) (m : Model) : Prop :=
  ∀ slot, (m.rangeAt slot).tag = tag → (m.rangeAt slot).state ≠ .open

/-- What a step can do to the ranges: leave a record as it is, or end it, or move it up; a record
that is begun has a new tag. -/
structure RangesMove (tag : Nat) (m m' : Model) : Prop where
  grows : m.rangeTagHighWater ≤ m'.rangeTagHighWater
  from_old : ∀ slot, (m'.rangeAt slot).tag = tag → tag ≤ m.rangeTagHighWater →
    (m'.rangeAt slot).state.unopened ∨ (m'.rangeAt slot).state = .open →
      ∃ old, (m.rangeAt old).tag = tag ∧
        ((m.rangeAt old).state = (m'.rangeAt slot).state ∨ (m.rangeAt old).state.unopened)

theorem RangesMove.givenOut (h : RangesMove tag m m') (hg : GivenOut tag m) : GivenOut tag m' := by
  refine ⟨Nat.le_trans hg.tag_le h.grows, fun slot htag hunopened => ?_⟩
  obtain ⟨old, hold, hs | hs⟩ := h.from_old slot htag hg.tag_le (.inl hunopened)
  · exact hg.opened old hold (hs ▸ hunopened)
  · exact hg.opened old hold hs

theorem RangesMove.spent (h : RangesMove tag m m') (hg : GivenOut tag m)
    (hspent : Spent tag m) : Spent tag m' := by
  intro slot htag hopen
  obtain ⟨old, hold, hs | hs⟩ := h.from_old slot htag hg.tag_le (.inr hopen)
  · exact hspent old hold (hs.trans hopen)
  · exact hg.opened old hold hs

theorem RangesMove.of_same (hgrows : m'.rangeTagHighWater = m.rangeTagHighWater)
    (hhead : m'.range = m.range) (hfoll : m'.followingRange = m.followingRange) :
    RangesMove tag m m' := by
  refine ⟨Nat.le_of_eq hgrows.symm, fun slot htag _ _ => ⟨slot, ?_⟩⟩
  have hsame : m'.rangeAt slot = m.rangeAt slot := by
    cases slot
    · exact hhead
    · exact hfoll
  rw [← hsame]
  exact ⟨htag, .inl rfl⟩

theorem RangeState.quarantine_ended (s : RangeState) :
    ¬ s.quarantine.unopened ∧ s.quarantine ≠ .open := by
  cases s <;> simp [RangeState.quarantine, RangeState.unopened]

theorem ControlStep.rangesMove (h : ControlStep m m') : RangesMove tag m m' := by
  have hquarantine : ∀ x :
      Model, RangesMove tag m (Recovery.quarantine { m with range := x.range }) := by
    intro x
    refine ⟨.refl, fun slot htag _ hs => ?_⟩
    cases slot
    · exact absurd hs (not_or.2 (RangeState.quarantine_ended _))
    · exact absurd hs (not_or.2 (RangeState.quarantine_ended _))
  cases h with
  | link | reopen | closeDevice | closeView => exact .of_same rfl rfl rfl
  | quarantine => exact hquarantine m
  | expirePublication =>
    exact hquarantine { m with range := { m.range with state := .quarantined } }

theorem RangeStep.rangesMove (h : RangeStep m m') : RangesMove tag m m' := by
  cases h with
  | claimHead _ _ _ _ _ htag =>
    obtain ⟨rfl, -⟩ := nextTag_iff.1 htag
    refine ⟨Nat.le_succ _, fun slot hslot hle _ => ?_⟩
    cases slot with
    | head =>
      change m.rangeTagHighWater + 1 = tag at hslot
      omega
    | following => exact ⟨.following, hslot, .inl rfl⟩
  | claimFollowing _ _ _ _ htag =>
    obtain ⟨rfl, -⟩ := nextTag_iff.1 htag
    refine ⟨Nat.le_succ _, fun slot hslot hle _ => ?_⟩
    cases slot with
    | head => exact ⟨.head, hslot, .inl rfl⟩
    | following =>
      change m.rangeTagHighWater + 1 = tag at hslot
      omega
  | prepareHead hstate =>
    refine ⟨.refl, fun slot hslot _ _ => ?_⟩
    cases slot with
    | head => exact ⟨.head, hslot, .inr (.inl hstate)⟩
    | following => exact ⟨.following, hslot, .inl rfl⟩
  | prepareFollowing hstate =>
    refine ⟨.refl, fun slot hslot _ _ => ?_⟩
    cases slot with
    | head => exact ⟨.head, hslot, .inl rfl⟩
    | following => exact ⟨.following, hslot, .inr (.inl hstate)⟩
  | advance =>
    refine ⟨.refl, fun slot hslot _ hs => ?_⟩
    cases slot with
    | head => exact ⟨.following, hslot, .inl rfl⟩
    | following => simp [Model.rangeAt, RangeState.unopened] at hs

theorem PublicationStep.rangesMove (h : PublicationStep m m') : RangesMove tag m m' := by
  cases h with
  | finish =>
    refine ⟨.refl, fun slot hslot _ hs => ?_⟩
    cases slot with
    | head =>
      have hret := (m.range.retire_frame m.publicationCursor).1
      simp [Model.rangeAt, Model.setPublication, hret, RangeState.unopened] at hs
    | following => exact ⟨.following, hslot, .inl rfl⟩
  | _ => exact .of_same rfl rfl rfl

theorem Step.rangesMove (h : Step m m') : RangesMove tag m m' := by
  cases h with
  | lease h | update h => cases h <;> exact .of_same rfl rfl rfl
  | control h | range h | publication h => exact h.rangesMove

variable {slot : RangeSlot}

theorem openAt_rangesMove (ho : openable m slot) : RangesMove tag m (m.openAt slot) := by
  have hprep := ho.1
  refine ⟨by cases slot <;> exact .refl, fun s hs _ _ => ?_⟩
  cases slot <;> cases s
  · exact ⟨.head, hs, .inr (.inr hprep)⟩
  · exact ⟨.following, hs, .inl rfl⟩
  · exact ⟨.head, hs, .inl rfl⟩
  · exact ⟨.following, hs, .inr (.inr hprep)⟩

theorem givenOut_step (h : GivenOut tag m) : GivenOut tag (step m op) := by
  refine step_induction ?_ ?_ ?_ op h
  · exact fun hs ha => hs.rangesMove.givenOut ha
  · exact fun _ ha => ⟨ha.tag_le, ha.opened⟩
  · exact fun ho ha => (openAt_rangesMove ho).givenOut ha

theorem spent_step (hg : GivenOut tag m) (h : Spent tag m) : Spent tag (step m op) := by
  refine (step_induction (P := fun m => GivenOut tag m ∧ Spent tag m) ?_ ?_ ?_ op ⟨hg, h⟩).2
  · exact fun hs ha => ⟨hs.rangesMove.givenOut ha.1, hs.rangesMove.spent ha.1 ha.2⟩
  · exact fun _ ha => ⟨⟨ha.1.tag_le, ha.1.opened⟩, ha.2⟩
  · exact fun ho ha =>
      ⟨(openAt_rangesMove ho).givenOut ha.1, (openAt_rangesMove ho).spent ha.1 ha.2⟩

/-- Of two records with one tag neither is unopened while the other is open. -/
theorem givenOut_of_open (hi : Inv m) (hf : Flow m)
    (hopen : (m.rangeAt slot).state = .open) : GivenOut (m.rangeAt slot).tag m := by
  have hr := hi.range
  refine ⟨?_, fun other htag hunopened => ?_⟩
  · cases slot
    · exact hr.head_tag
    · exact hr.following_tag
  · cases slot <;> cases other
    · exact RangeState.not_unopened_of_open hopen hunopened
    · have hlt := hf.sequence.tags fun hs => RangeState.not_unopened_of_free hs hunopened
      change m.followingRange.tag = m.range.tag at htag
      omega
    · have hlt := hf.sequence.tags fun hs => absurd (hopen.symm.trans hs) (by simp)
      change m.range.tag = m.followingRange.tag at htag
      omega
    · exact RangeState.not_unopened_of_open hopen hunopened

/-- A range that is open under the same tag at both ends of a run was open throughout. -/
theorem open_throughout {slot' : RangeSlot} (hi : Inv m) (hf : Flow m)
    (hopen : (m.rangeAt slot).state = .open)
    (htag' : ((run step m ops).rangeAt slot').tag = (m.rangeAt slot).tag)
    (hopen' : ((run step m ops).rangeAt slot').state = .open) :
    Throughout step (fun x => ∃ s, (x.rangeAt s).tag = (m.rangeAt slot).tag ∧
      (x.rangeAt s).state = .open) m ops := by
  refine Throughout.imp ?_ ops (throughout_of_absorbing
    (fun _ op h => givenOut_step op h)
    (fun _ op h hs => spent_step op h hs) ops (givenOut_of_open hi hf hopen)
    fun hs => hs slot' htag' hopen')
  rintro s ⟨-, hnot⟩
  simp only [Spent, not_forall, not_not] at hnot
  obtain ⟨slot, htag, hs⟩ := hnot
  exact ⟨slot, htag, hs⟩

/-! ## 5. Acceptance -/

variable {token : RangeToken}

theorem rangeToken_eq {range : RangeRecord}
    (h : rangeToken m range = some token) : range.state = .open ∧ token.rangeTag = range.tag := by
  unfold rangeToken at h
  split at h
  · rename_i hopen
    cases h
    exact ⟨hopen, rfl⟩
  · cases h

theorem claimed_range {publishTag : Nat} {requiresCompensation : Bool}
    (h : (claimPublicationToken m token publishTag requiresCompensation).1 = true) :
    ∃ slot, (m.rangeAt slot).tag = token.rangeTag ∧ (m.rangeAt slot).state = .open := by
  unfold claimPublicationToken at h
  split at h
  · cases h
  · split at h
    · rename_i hguard
      obtain ⟨⟨-, -, -, hopen⟩, -⟩ := hguard
      rcases hopen with ⟨hopen, hmatch⟩ | ⟨hopen, hmatch⟩
      · exact ⟨.head, hmatch.2.2.2.1.symm, hopen⟩
      · exact ⟨.following, hmatch.2.2.2.1.symm, hopen⟩
    · cases h

theorem captured_lease {token : AdmissionToken} (h : currentAdmissionToken m = some token) :
    m.lease.tag = token.leaseTag ∧ m.lease.state = .reserved := by
  unfold currentAdmissionToken at h
  split at h
  · rename_i hguard
    cases h
    exact ⟨rfl, hguard.2.1⟩
  · cases h

theorem committed_lease {token : AdmissionToken} (h : (beginLeaseCommitToken m token).1 = true) :
    m.lease.tag = token.leaseTag ∧ m.lease.state = .reserved := by
  unfold beginLeaseCommitToken at h
  split at h
  · rename_i hguard
    exact ⟨hguard.2.2.1.symm, hguard.2.2.2.2.2.1⟩
  · cases h

/-- **Validation.**  Between a state reached from a valid start and any later one:

* if a read begun at the first is accepted at the second, no call in between linked a device update,
  closed the device or the view, or quarantined the view;
* if an admission token handed out at the first is accepted at the second, the lease it names was
  reserved all the time;
* if a range token handed out at the first is accepted at the second, the range it names was open
  all the time. -/
theorem validation_run (limits : Limits) (highWater generation epoch : Nat) (viewId : ViewId)
    (hvalid : (Model.init limits highWater generation epoch viewId).valid = true)
    (before later : List Op) :
    let captured := run step (Model.init limits highWater generation epoch viewId) before
    let accepted := run step captured later
    (∀ snapshot, beginRead captured = some snapshot → finishRead accepted snapshot = true →
      Along step (fun m op => ¬ Disturbs m op) captured later) ∧
    (∀ token, currentAdmissionToken captured = some token →
      (beginLeaseCommitToken accepted token).1 = true →
        Throughout step (fun m => m.lease.tag = token.leaseTag ∧ m.lease.state = .reserved)
          captured later) ∧
    (∀ token publishTag requiresCompensation,
      currentRangeToken captured = some token ∨ followingRangeToken captured = some token →
      (claimPublicationToken accepted token publishTag requiresCompensation).1 = true →
        Throughout step (fun m => ∃ slot, (m.rangeAt slot).tag = token.rangeTag ∧
          (m.rangeAt slot).state = .open) captured later) := by
  intro captured accepted
  have hi : Inv captured := run_inv hvalid before
  have hf : Flow captured := run_flow before (init_inv hvalid) (init_flow ..)
  refine ⟨?_, ?_, ?_⟩
  · intro snapshot hbegin hfinish
    have hepoch : snapshot.epoch = captured.epoch := by
      unfold beginRead at hbegin
      split at hbegin
      · cases hbegin
        rfl
      · cases hbegin
    exact along_of_absorbing
      (fun _ op h => readFrom_step op h) (fun _ op h hp => passed_step op h hp)
      (fun _ op h hd => passed_of_disturbs h hd) later ⟨hi, hf, Nat.le_of_eq hepoch⟩
      (not_passed_of_finishRead hfinish)
  · intro token hcaptured haccepted
    obtain ⟨htag, hstate⟩ := captured_lease hcaptured
    obtain ⟨htag', hstate'⟩ := committed_lease haccepted
    exact reserved_throughout later hi htag hstate htag' hstate'
  · intro token publishTag requiresCompensation hcaptured haccepted
    obtain ⟨slot, hopen, htag⟩ : ∃ slot, (captured.rangeAt slot).state = .open ∧
        token.rangeTag = (captured.rangeAt slot).tag :=
      hcaptured.elim (fun h => ⟨.head, rangeToken_eq h⟩) fun h => ⟨.following, rangeToken_eq h⟩
    obtain ⟨slot', htag', hopen'⟩ := claimed_range haccepted
    rw [htag] at htag' ⊢
    exact open_throughout later hi hf hopen htag' hopen'

/-- A read, an admission and a publication that are accepted after other calls. -/
theorem validation_run_small :
    let captured := run step (Model.init smallLimits 0 1 1 {})
      [.enterAttempt 1, .reserveLease 1 1, .reserveRange 1 2]
    let later : List Op := [.prepareDeviceUpdate 1, .claimRange 2 1]
    Along step (fun m op => ¬ Disturbs m op) captured later ∧
      Throughout step (fun m => m.lease.tag = 1 ∧ m.lease.state = .reserved) captured later ∧
      Throughout step (fun m => ∃ slot, (m.rangeAt slot).tag = 1 ∧ (m.rangeAt slot).state = .open)
        captured later := by
  obtain ⟨hread, hadm, hrange⟩ := validation_run smallLimits 0 1 1 {} (by decide)
    [.enterAttempt 1, .reserveLease 1 1, .reserveRange 1 2]
    [.prepareDeviceUpdate 1, .claimRange 2 1]
  refine ⟨hread ⟨{}, 1, 1, 1⟩ (by decide +kernel) (by decide +kernel),
    hadm ⟨{}, 1, 1, 1, 1⟩ (by decide +kernel) (by decide +kernel),
    hrange ⟨{}, 1, 2, 1, 1, 2⟩ 1 false (.inl (by decide +kernel)) (by decide +kernel)⟩

end MetaFlux.Recovery
