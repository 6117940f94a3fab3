/-
# Admission: a lease cannot outlive what it was admitted under

`finishLeaseCommit`, `writeLeaseTarget` and `publishLease` look at the lease record alone; none of
them checks a generation.  That they never succeed for a lease whose view or device has moved on
rests on every step that moves the CONTROLS (the states and generations of the view and the device)
settling the lease at the same time.  The argument is a clock:

* `leaseClock` reads the lease's tag and how far the lease has come.  It never falls
  (`Step.leaseClock`), because a tag is only ever replaced by a greater one;
* a step that changes the controls leaves every lease claimed before it ENDED on that clock, and an
  ended lease is committed, written and published no more (`ended_refuses`);
* the admission counter moves only where the lease goes from `committing` to `committed`, and the
  clock does not come back to that point, so no tag is counted twice (`count_le_one`).
-/
import MetaFlux.Recovery.Invariant

namespace MetaFlux.Recovery

open Base LeaseState

variable {m m' : Model} (lease : LeaseRecord)

/-! ## 1. The clock of a lease -/

/-- How far a lease has come.  All four ways of ending it rank the same. -/
def LeaseState.rank : LeaseState → Nat
  | .free => 0
  | .initializing => 1
  | .reserved => 2
  | .committing => 3
  | .committed => 4
  | .published => 5
  | .released | .revoked | .tombstoned | .quarantined => 6

/-- Tags first, then ranks. -/
def LeaseRecord.clock (lease : LeaseRecord) : Nat :=
  7 * lease.tag + lease.state.rank

/-- What the clock shows once the lease of this tag has ended. -/
def endedClock (tag : Nat) : Nat := 7 * tag + 6

theorem LeaseState.rank_le (s : LeaseState) : s.rank ≤ 6 := by
  cases s <;> simp [rank]

theorem LeaseState.rank_pos {s : LeaseState} (h : s ≠ .free) : 0 < s.rank := by
  cases s <;> simp_all [rank]

/-- A lease that was claimed and is not live has ended. -/
theorem LeaseRecord.clock_of_ended {lease : LeaseRecord} (h : lease.state.live = false)
    (hclaimed : lease.state ≠ .free) : lease.clock = endedClock lease.tag := by
  have hrank : lease.state.rank = 6 := by
    cases hs : lease.state <;> simp_all [rank, live]
  simp [LeaseRecord.clock, endedClock, hrank]

theorem LeaseRecord.clock_le_ended : lease.clock ≤ endedClock lease.tag := by
  have := lease.state.rank_le
  unfold LeaseRecord.clock endedClock
  omega

attribute [local simp] LeaseState.rank LeaseRecord.clock Model.setLease LeaseState.live

theorem LeaseRecord.settle_free : lease.settle.state = .free ↔ lease.state = .free := by
  unfold LeaseRecord.settle
  split <;> simp_all
  split <;> simp

/-- Settling moves the clock of a claimed lease to its end, and leaves a free one alone. -/
theorem LeaseRecord.clock_settle :
    lease.clock ≤ lease.settle.clock ∧
      (lease.state ≠ .free → endedClock lease.tag ≤ lease.settle.clock) := by
  by_cases hfree : lease.state = .free
  · have hsame : lease.settle = lease := by simp [LeaseRecord.settle, hfree]
    rw [hsame]
    exact ⟨.refl, absurd hfree⟩
  · have hended := LeaseRecord.clock_of_ended lease.settle_live
      (fun h => hfree (lease.settle_free.1 h))
    rw [LeaseRecord.settle_tag] at hended
    rw [hended]
    exact ⟨lease.clock_le_ended, fun _ => .refl⟩

/-- The same for a quarantine. -/
theorem LeaseRecord.clock_quarantine :
    lease.clock ≤ { lease with state := lease.state.quarantine }.clock ∧
      (lease.state ≠ .free →
        endedClock lease.tag ≤ { lease with state := lease.state.quarantine }.clock) := by
  cases hs : lease.state <;>
    simp [endedClock, hs, LeaseState.quarantine]

/-! ## 2. Every step respects the clock -/

/-- The states and generations of the view and the device.  A device-update link, a device close, a
view close and a quarantine take effect by changing them. -/
def controls (m : Model) : ViewState × DeviceState × Nat × Nat :=
  (m.viewState, m.deviceState, m.viewGeneration, m.deviceGeneration)

/-- **The clock never falls, and a change of the controls ends every claimed lease.** -/
structure Ages (m m' : Model) : Prop where
  clock_le : m.lease.clock ≤ m'.lease.clock
  ended : controls m' ≠ controls m → m.lease.state ≠ .free →
    endedClock m.lease.tag ≤ m'.lease.clock

theorem Ages.refl (m : Model) : Ages m m := ⟨.refl, absurd rfl⟩

/-- A step that leaves the controls alone has only the clock to respect. -/
theorem Ages.of_clock (hctrl : controls m' = controls m)
    (h : m.lease.clock ≤ m'.lease.clock) : Ages m m' :=
  ⟨h, absurd hctrl⟩

theorem Ages.trans {a b c : Model} (h : Ages a b) (h' : Ages b c) : Ages a c := by
  refine ⟨Nat.le_trans h.clock_le h'.clock_le, fun hctrl hclaimed => ?_⟩
  by_cases hab : controls b = controls a
  · have hpos := rank_pos hclaimed
    have hab' := h.clock_le
    have hbc' := h'.clock_le
    have hbrank := b.lease.state.rank_le
    unfold LeaseRecord.clock at hab'
    by_cases htag : b.lease.tag = a.lease.tag
    · -- the lease is still the same one, so it was claimed when the controls changed
      have hb : b.lease.state ≠ .free := by
        intro hfree
        rw [htag, hfree] at hab'
        change _ ≤ 7 * a.lease.tag + 0 at hab'
        omega
      exact htag ▸ h'.ended (hab ▸ hctrl) hb
    · unfold endedClock LeaseRecord.clock at *
      omega
  · exact Nat.le_trans (h.ended hab hclaimed) h'.clock_le

theorem LeaseStep.ages (h : LeaseStep m m') : Ages m m' := by
  cases h with
  | enter => exact .of_clock rfl .refl
  | claim _ _ hfree htag =>
    obtain ⟨rfl, -⟩ := nextTag_iff.1 htag
    refine .of_clock rfl ?_
    simp only [LeaseRecord.clock, hfree, rank]
    omega
  | materialize _ hlease =>
    refine .of_clock rfl ?_
    simp [Model.setAttempt, hlease]
  | beginCommit hlease | publish hlease | release hlease =>
    refine .of_clock rfl ?_
    simp [hlease]
  | write => exact .of_clock rfl .refl
  | die => exact .of_clock rfl .refl
  | recover _ hafter =>
    refine .of_clock rfl ?_
    obtain ⟨htag, hdead, hclaimed⟩ := LeaseRecord.afterDeath_spec hafter
    rw [LeaseRecord.clock_of_ended hdead hclaimed, htag]
    exact m.lease.clock_le_ended
  | reclaim _ _ htag =>
    obtain ⟨rfl, -⟩ := nextTag_iff.1 htag
    refine .of_clock rfl ?_
    have := m.lease.state.rank_le
    change 7 * m.lease.tag + m.lease.state.rank ≤ 7 * (m.lease.tag + 1) + 0
    omega

theorem UpdateStep.ages (h : UpdateStep m m') : Ages m m' := by
  cases h <;> exact .of_clock rfl .refl

theorem RangeStep.ages (h : RangeStep m m') : Ages m m' := by
  cases h <;> exact .of_clock rfl .refl

theorem PublicationStep.ages (h : PublicationStep m m') : Ages m m' := by
  cases h <;> exact .of_clock rfl .refl

/-- The steps that move the controls settle or quarantine the lease, but for the reopening of the
device, before which no lease was live. -/
theorem ControlStep.ages (h : ControlStep m m') (hi : Inv m) : Ages m m' := by
  have hsettle := m.lease.clock_settle
  have hquar := m.lease.clock_quarantine
  cases h with
  | link | closeDevice | closeView => exact ⟨hsettle.1, fun _ => hsettle.2⟩
  | reopen _ _ htuple =>
    have hdead : m.lease.state.live = false := by
      by_contra hlive
      have hopen := (hi.lease.live (by simpa using hlive)).2.1
      exact absurd (hopen.symm.trans htuple.1) (by simp)
    refine ⟨.refl, fun _ hclaimed => ?_⟩
    exact Nat.le_of_eq (LeaseRecord.clock_of_ended hdead hclaimed).symm
  | quarantine | expirePublication => exact ⟨hquar.1, fun _ => hquar.2⟩

theorem Step.ages (h : Step m m') (hi : Inv m) : Ages m m' := by
  cases h with
  | lease h | update h | range h | publication h => exact h.ages
  | control h => exact h.ages hi

theorem countAdmission_ages (hlease : m.lease.state = .committing) : Ages m m.countAdmission := by
  refine .of_clock rfl ?_
  simp [Model.countAdmission, hlease]

theorem openAt_ages {slot : RangeSlot} : Ages m (m.openAt slot) := by
  cases slot <;> exact .of_clock rfl .refl

/-- A call, and then a run, respects the clock. -/
theorem step_ages (op : Op) (hi : Inv m) : Ages m (step m op) := by
  refine (step_induction (P := fun m' => Inv m' ∧ Ages m m') ?_ ?_ ?_ op ⟨hi, .refl m⟩).2
  · rintro a b hs ⟨hia, ha⟩
    exact ⟨hs.inv hia, ha.trans (hs.ages hia)⟩
  · rintro a hc ⟨hia, ha⟩
    exact ⟨countAdmission_inv hc hia, ha.trans (countAdmission_ages hc)⟩
  · rintro a slot ho ⟨hia, ha⟩
    exact ⟨openAt_inv ho hia, ha.trans openAt_ages⟩

theorem run_ages (ops : List Op) (hi : Inv m) : Ages m (run step m ops) :=
  run_rel Ages.refl Ages.trans (fun _ op h => step_inv op h) (fun _ op h => step_ages op h) ops hi

/-! ## 3. What an ended lease allows -/

/-- **An ended lease is refused**: it is not committed, its target is not written and it is not
published. -/
theorem ended_refuses {tag : Nat} (h : endedClock tag ≤ m.lease.clock) :
    (finishLeaseCommit m tag).1 = false ∧ (writeLeaseTarget m tag).1 = false ∧
      (publishLease m tag).1 = false := by
  have hstate : m.lease.tag = tag → 6 ≤ m.lease.state.rank := by
    intro htag
    unfold endedClock LeaseRecord.clock at h
    omega
  have hcommitting : ¬ (m.lease.tag = tag ∧ m.lease.state = .committing) := by
    rintro ⟨htag, hs⟩
    have := hstate htag
    simp [hs] at this
  have hcomm : ¬ (m.lease.tag = tag ∧ m.lease.state = .committed) := by
    rintro ⟨htag, hs⟩
    have := hstate htag
    simp [hs] at this
  simp [finishLeaseCommit, writeLeaseTarget, publishLease, hcommitting, hcomm]

/-! ## 4. The admission counter -/

theorem Step.kept (h : Step m m') :
    m'.committedAdmissions = m.committedAdmissions ∧ m'.limits = m.limits := by
  cases h with
  | lease h | update h | control h | range h | publication h => cases h <;> exact ⟨rfl, rfl⟩

/-- **Only a commit that finishes is counted.** -/
theorem counted_cases {op : Op} (h : (step m op).committedAdmissions ≠ m.committedAdmissions) :
    op = .finishLeaseCommit m.lease.tag ∧ m.lease.state = .committing ∧
    step m op = m.countAdmission := by
  have hsteps : ∀ {a b : Model}, Steps a b → b.committedAdmissions = a.committedAdmissions :=
    fun hs => hs.induction (fun h hc => h.kept.1.trans hc) rfl
  have hopen : ∀ (a : Model) slot,
      (a.openAt slot).committedAdmissions = a.committedAdmissions := by
    intro a slot
    cases slot <;> rfl
  rcases call_cases m op with hs | hc | ⟨r, slot, -, -, -, heq⟩ |
    ⟨r, n, mid, slot, -, -, hs, -, heq⟩
  · exact absurd (hsteps hs) h
  · exact hc
  · exact absurd (by rw [heq, hopen]) h
  · exact absurd (by rw [heq, hopen, hsteps hs]) h

/-- The counter moves in this call, on account of the lease of this tag. -/
def Admits (tag : Nat) (m : Model) (op : Op) : Prop :=
  (step m op).committedAdmissions ≠ m.committedAdmissions ∧ m.lease.tag = tag
deriving Decidable

theorem admits_at_most_once (tag : Nat) (ops : List Op) (hi : Inv m) :
    count step (Admits tag) m ops ≤ 1 := by
  refine count_le_one (D := fun m => 7 * tag + 4 ≤ m.lease.clock)
    (fun _ op h => step_inv op h) ?_ ?_ ?_ ops hi
  · intro s op his hdone
    exact Nat.le_trans hdone (step_ages op his).clock_le
  · rintro s op his hdone ⟨hmoved, rfl⟩
    obtain ⟨-, hcommitting, -⟩ := counted_cases hmoved
    simp [hcommitting] at hdone
  · rintro s op his ⟨hmoved, rfl⟩
    obtain ⟨-, -, heq⟩ := counted_cases hmoved
    rw [heq]
    exact .refl

/-! ## 5. Admission over whole runs -/

/-- **Admission is safe over every run.**  In every state reached from a valid start:

* a live lease is bound to the current generations of an open view and an open device;
* once the controls have changed in some call after the lease of a tag was claimed, that lease is
  committed, written and published no more;
* and the admission counter moves at most once on account of any one tag, by one each time. -/
theorem admission_run (limits : Limits) (highWater generation epoch : Nat) (viewId : ViewId)
    (hvalid : (Model.init limits highWater generation epoch viewId).valid = true)
    (ops : List Op) :
    let start := Model.init limits highWater generation epoch viewId
    let reached := run step start ops
    (reached.lease.state.live = true →
      reached.viewState = .open ∧ reached.deviceState = .open ∧
        reached.lease.viewGeneration = reached.viewGeneration ∧
        reached.lease.deviceGeneration = reached.deviceGeneration) ∧
    (∀ (before after : List Op) (op : Op),
      let changing := run step reached before
      let later := run step (step changing op) after
      reached.lease.state ≠ .free → controls (step changing op) ≠ controls changing →
        (finishLeaseCommit later reached.lease.tag).1 = false ∧
          (writeLeaseTarget later reached.lease.tag).1 = false ∧
          (publishLease later reached.lease.tag).1 = false) ∧
    (∀ tag, count step (Admits tag) start ops ≤ 1) ∧
    (∀ op, (step reached op).committedAdmissions = reached.committedAdmissions ∨
      (step reached op).committedAdmissions = (reached.committedAdmissions + 1) % 2 ^ 32) := by
  intro start reached
  have hi : Inv reached := run_inv hvalid ops
  refine ⟨hi.lease.live, ?_, fun tag => admits_at_most_once tag ops (init_inv hvalid), ?_⟩
  · intro before after op changing later hclaimed hctrl
    have hchanging : Inv changing := run_induction (fun _ op h => step_inv op h) before hi
    have hbefore : Ages reached changing := run_ages before hi
    have hstep : Ages changing (step changing op) := step_ages op hchanging
    have hafter : Ages (step changing op) later := run_ages after (step_inv op hchanging)
    -- the lease of `reached` ended with the change of the controls, if it had not ended before
    have hended : endedClock reached.lease.tag ≤ (step changing op).lease.clock := by
      by_cases hsame : controls changing = controls reached
      · exact (hbefore.trans hstep).ended (hsame ▸ hctrl) hclaimed
      · exact Nat.le_trans (hbefore.ended hsame hclaimed) hstep.clock_le
    exact ended_refuses (Nat.le_trans hended hafter.clock_le)
  · intro op
    by_cases h : (step reached op).committedAdmissions = reached.committedAdmissions
    · exact .inl h
    · obtain ⟨-, -, heq⟩ := counted_cases h
      exact .inr (by rw [heq]; rfl)

/-- A lease claimed, then the device closed under it. -/
theorem admission_run_closed :
    (Model.init smallLimits 0 1 1 {}).valid = true ∧
      (publishLease (run step (Model.init smallLimits 0 1 1 {})
        [.enterAttempt 1, .reserveLease 1 1, .closeDevice, .finishLeaseCommit 1]) 1).1 = false :=
  ⟨by decide,
    ((admission_run smallLimits 0 1 1 {} (by decide) [.enterAttempt 1, .reserveLease 1 1]).2.1
      [] [.finishLeaseCommit 1] .closeDevice (by decide) (by decide)).2.2⟩

end MetaFlux.Recovery
