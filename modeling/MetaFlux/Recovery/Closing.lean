/-
# Closing is final, except for the opening of a range

Once the view is `terminal` or `quarantined` its control data should never move again.  Most methods
do not test the view: they rely on the closing having settled the records they start from.  For all
steps but one that is enough (`Step.frozen`): the lease is not live, the update is not pending, the
publication is not in flight, and the device is closed at its terminal generation.

The exception is `openRange`.  A range that was `prepared` when the view was closed can still be
opened, which moves the allocation and the token generation of a view that is already terminal
(`openRange_after_close`); `quarantine` settles such a range, `closeView` does not, and neither does
`openRange` ask for an open view as `claimRange` and every publication step do.  `Reopens` names
those calls, and `closing_final_iff` shows that they are the ONLY way a closed view moves: over any
further run its data stay what they were exactly as long as no call is one of them.  Tokens and
snapshots are refused in any case.
-/
import MetaFlux.Recovery.Invariant

namespace MetaFlux.Recovery

open Base

variable {m m' : Model}

/-! ## 1. The data of a closed view -/

def Model.closed (m : Model) : Prop := m.viewState = .terminal ∨ m.viewState = .quarantined
deriving Decidable

/-- The states and counters that a closed view should never change. -/
structure ControlData where
  viewState : ViewState
  deviceState : DeviceState
  viewGeneration : Nat
  deviceGeneration : Nat
  epoch : Nat
  committedAdmissions : Nat
  allocationHighWater : Nat
  publicationCursor : Nat
  compensationCount : Nat
deriving DecidableEq, Repr

def Model.controlData (m : Model) : ControlData :=
  { viewState := m.viewState
    deviceState := m.deviceState
    viewGeneration := m.viewGeneration
    deviceGeneration := m.deviceGeneration
    epoch := m.epoch
    committedAdmissions := m.committedAdmissions
    allocationHighWater := m.allocationHighWater
    publicationCursor := m.publicationCursor
    compensationCount := m.compensationCount }

/-- A call that opens a range left prepared: the head, or the one behind it if the head is open. -/
def Reopens (m : Model) : Op → Prop
  | .openRange tag =>
    (m.range.tag = tag ∧ m.range.state = .prepared) ∨
      (m.followingRange.tag = tag ∧ m.followingRange.state = .prepared ∧ m.range.state = .open)
  | _ => False

/-! ## 2. Steps -/

theorem Model.closed.not_open (h : m.closed) : m.viewState ≠ .open := by
  rcases h with h | h <;> simp [h]

/-- Nothing that a quarantine would settle is left in a closed view. -/
theorem closed_not_quarantineCause (hi : Inv m) (hc : m.closed) : ¬ quarantineCause m := by
  rintro (h | h | h | ⟨h, h'⟩)
  · exact hc.not_open (hi.lease.live h).1
  · exact hi.update.closed (hi.control.device_of_view hc.not_open) h
  · exact hc.not_open (hi.publication.inFlight h).1
  · rcases hc with hc | hc
    · exact h hc
    · exact h' hc

theorem ControlStep.not_closed (h : ControlStep m m') (hi : Inv m) : ¬ m.closed := by
  intro hc
  have hdev := hi.control.device_of_view hc.not_open
  cases h with
  | link _ htuple => exact hc.not_open htuple.1
  | reopen _ _ htuple => exact absurd (hdev.symm.trans htuple.1) (by simp)
  | closeDevice hopen => exact hopen ⟨hdev, hi.control.closed_iff.1 hdev⟩
  | closeView hview =>
    rcases hc with hc | hc
    · exact hview.1 hc
    · exact hview.2 hc
  | quarantine hcause => exact closed_not_quarantineCause hi hc hcause
  | expirePublication hstate => exact hc.not_open (hi.publication.inFlight hstate).1

/-- **No elementary step moves a closed view.** -/
theorem Step.frozen (h : Step m m') (hi : Inv m) (hc : m.closed) :
    m'.controlData = m.controlData := by
  cases h with
  | lease h | update h | range h => cases h <;> rfl
  | control h => exact absurd hc (h.not_closed hi)
  | publication h =>
    cases h with
    | apply _ _ hview | compensate _ _ hview => exact absurd hview hc.not_open
    | _ => rfl

theorem closed_of_controlData (h : m'.controlData = m.controlData) (hc : m.closed) : m'.closed := by
  have hview : m'.viewState = m.viewState := congrArg ControlData.viewState h
  unfold Model.closed
  rw [hview]
  exact hc

theorem Steps.frozen (h : Steps m m') (hi : Inv m) (hc : m.closed) :
    m'.controlData = m.controlData := by
  refine (h.induction (P := fun x => Inv x ∧ x.controlData = m.controlData) ?_ ⟨hi, rfl⟩).2
  rintro a b hs ⟨hia, ha⟩
  exact ⟨hs.inv hia, (hs.frozen hia (closed_of_controlData ha hc)).trans ha⟩

/-! ## 3. The opening of a range -/

theorem openable_iff (hi : Inv m) {tag : Nat} :
    (∃ slot, initializingRange m tag = some slot ∧ openable m slot) ↔
      Reopens m (.openRange tag) := by
  constructor
  · rintro ⟨slot, hslot, ho⟩
    unfold initializingRange at hslot
    split at hslot
    · rename_i hhead
      cases hslot
      exact .inl ⟨hhead.1, ho.1⟩
    · split at hslot
      · rename_i hfoll
        cases hslot
        exact .inr ⟨hfoll.1, ho.1, ho.2.2.2.2.2 rfl⟩
      · cases hslot
  · rintro (⟨htag, hprep⟩ | ⟨htag, hprep, hopen⟩)
    · exact ⟨.head, if_pos ⟨htag, .inr hprep⟩, hi.openable .head hprep nofun⟩
    · have hhead : ¬ (m.range.tag = tag ∧ m.range.state.unopened) := fun h =>
        RangeState.not_unopened_of_open hopen h.2
      refine ⟨.following, ?_, hi.openable .following hprep fun _ => hopen⟩
      rw [initializingRange, if_neg hhead, if_pos ⟨htag, .inr hprep⟩]

/-- The allocation grows with every range opened. -/
theorem openAt_allocation {slot : RangeSlot} (ho : openable m slot) (hi : Inv m) :
    m.allocationHighWater < (m.openAt slot).allocationHighWater := by
  obtain ⟨hprep, hne, hbegin, -⟩ := ho
  obtain ⟨-, hle, -⟩ := (hi.rangeAt_valid slot).bounds (by simp [hprep])
  have hend : (m.openAt slot).allocationHighWater = (m.rangeAt slot).end := by
    cases slot <;> rfl
  omega

/-- **A call moves a closed view exactly if it reopens a range**; and it never opens the view. -/
theorem step_frozen_iff (op : Op) (hi : Inv m) (hc : m.closed) :
    ((step m op).controlData = m.controlData ↔ ¬ Reopens m op) ∧ (step m op).closed := by
  rcases call_cases m op with hs | ⟨rfl, hcommitting, -⟩ | ⟨r, slot, rfl, hslot, ho, heq⟩ |
    ⟨r, n, mid, slot, -, hview, -⟩
  · have hsame := hs.frozen hi hc
    refine ⟨⟨fun _ hreopens => ?_, fun _ => hsame⟩, closed_of_controlData hsame hc⟩
    cases op with
    | openRange tag =>
      -- the call would have opened the range, and its allocation with it
      obtain ⟨slot, hslot, ho⟩ := (openable_iff hi).2 hreopens
      have heq : step m (.openRange tag) = m.openAt slot := by
        simp [step, call, openRange, hslot, ho]
      have hgrows := openAt_allocation ho hi
      have hsame' : (step m (.openRange tag)).allocationHighWater = m.allocationHighWater :=
        congrArg ControlData.allocationHighWater hsame
      rw [heq] at hsame'
      omega
    | _ => exact hreopens
  · have hlive : m.lease.state.live = true := by rw [hcommitting]; rfl
    exact absurd (hi.lease.live hlive).1 hc.not_open
  · have hreopens : Reopens m (.openRange r) := (openable_iff hi).1 ⟨slot, hslot, ho⟩
    refine ⟨⟨fun hsame => ?_, absurd hreopens⟩, ?_⟩
    · have hgrows := openAt_allocation ho hi
      have hsame' : (step m (.openRange r)).allocationHighWater = m.allocationHighWater :=
        congrArg ControlData.allocationHighWater hsame
      rw [heq] at hsame'
      omega
    · rw [heq]
      cases slot <;> exact hc
  · exact absurd hview hc.not_open

/-! ## 4. Runs from a closed view -/

theorem run_closed (ops : List Op) (hi : Inv m) (hc : m.closed) : (run step m ops).closed :=
  (run_induction (P := fun m => Inv m ∧ m.closed)
    (fun _ op h => ⟨step_inv op h.1, (step_frozen_iff op h.1 h.2).2⟩) ops ⟨hi, hc⟩).2

/-- The data stay what they were in every state of the run exactly if no call reopens a range. -/
theorem run_frozen_iff : ∀ (ops : List Op) {m : Model}, Inv m → m.closed →
    ((∀ earlier rest, ops = earlier ++ rest →
        (run step m earlier).controlData = m.controlData) ↔
      Along step (fun m op => ¬ Reopens m op) m ops)
  | [], m, _, _ => by
    refine ⟨fun _ => trivial, fun _ earlier rest h => ?_⟩
    obtain ⟨rfl, -⟩ := List.append_eq_nil_iff.1 h.symm
    rfl
  | op :: ops, m, hi, hc => by
    have hstep := step_frozen_iff op hi hc
    have hrest := run_frozen_iff ops (step_inv op hi) hstep.2
    constructor
    · intro hall
      have hsame : (step m op).controlData = m.controlData := hall [op] ops rfl
      refine ⟨hstep.1.1 hsame, hrest.1 fun earlier rest h => ?_⟩
      have := hall (op :: earlier) rest (by rw [h]; rfl)
      exact this.trans hsame.symm
    · rintro ⟨hop, halong⟩ earlier rest h
      have hsame := hstep.1.2 hop
      cases earlier with
      | nil => rfl
      | cons _ earlier =>
        obtain ⟨rfl, hops⟩ := List.cons_eq_cons.1 h
        exact (hrest.2 halong earlier rest hops).trans hsame

/-- No token and no snapshot is good in a closed view. -/
theorem closed_refuses (hc : m.closed) :
    (∀ token, (beginLeaseCommitToken m token).1 = false) ∧
      (∀ token tag compensation, (claimPublicationToken m token tag compensation).1 = false) ∧
      (∀ snapshot, finishRead m snapshot = false) := by
  have hctrl : ∀ v d, ¬ controlsMatch m v d := fun v d h => hc.not_open h.2.1
  refine ⟨fun token => ?_, fun token tag compensation => ?_, fun snapshot => ?_⟩
  · simp [beginLeaseCommitToken, admissionTokenMatches, hctrl]
  · unfold claimPublicationToken
    have hinvalid : ¬ rangeTokenValid m token := fun h => hc.not_open h.2.1
    split
    · rfl
    · simp [hinvalid]
  · simp [finishRead, hctrl]

/-- **Closing is final but for `openRange`.**  In every run of a valid model, from the moment the
view is terminal or quarantined, its control data are the same in every later state exactly as long
as no call opens a range left prepared; the view stays closed, and no token or snapshot is accepted,
in any case. -/
theorem closing_final_iff (limits : Limits) (highWater generation epoch : Nat) (viewId : ViewId)
    (hvalid : (Model.init limits highWater generation epoch viewId).valid = true)
    (ops later : List Op)
    (hclosed : (run step (Model.init limits highWater generation epoch viewId) ops).closed) :
    let closed := run step (Model.init limits highWater generation epoch viewId) ops
    ((∀ earlier rest, later = earlier ++ rest →
        (run step closed earlier).controlData = closed.controlData) ↔
      Along step (fun m op => ¬ Reopens m op) closed later) ∧
    (run step closed later).closed ∧
    (∀ token, (beginLeaseCommitToken (run step closed later) token).1 = false) ∧
    (∀ token tag compensation,
      (claimPublicationToken (run step closed later) token tag compensation).1 = false) ∧
    (∀ snapshot, finishRead (run step closed later) snapshot = false) := by
  intro closed
  have hi : Inv closed := run_inv hvalid ops
  have hlater := run_closed later hi hclosed
  exact ⟨run_frozen_iff later hi hclosed, hlater, closed_refuses hlater⟩

/-- A view closed with a range claimed but not prepared. -/
theorem closing_final_iff_claimed :
    (Model.init smallLimits 0 1 1 {}).valid = true ∧
      (run step (Model.init smallLimits 0 1 1 {}) [.claimRange 1 2, .closeView]).closed ∧
      finishRead (run step (run step (Model.init smallLimits 0 1 1 {})
        [.claimRange 1 2, .closeView]) [.openRange 1]) { epoch := 1 } = false :=
  ⟨by decide, by decide,
    (closing_final_iff smallLimits 0 1 1 {} (by decide) [.claimRange 1 2, .closeView]
      [.openRange 1] (by decide)).2.2.2.2 _⟩

/-- **A terminal view whose allocation moves**: the range prepared before the close is opened after
it. -/
theorem openRange_after_close :
    let closed := run step (Model.init smallLimits 0 1 1 {})
      [.claimRange 1 2, .prepareRange 1, .closeView]
    (Model.init smallLimits 0 1 1 {}).valid = true ∧ closed.viewState = .terminal ∧
      closed.allocationHighWater = 0 ∧ (call closed (.openRange 1)).1 = true ∧
      (step closed (.openRange 1)).allocationHighWater = 2 ∧
      (step closed (.openRange 1)).controlData ≠ closed.controlData := by
  decide

end MetaFlux.Recovery
