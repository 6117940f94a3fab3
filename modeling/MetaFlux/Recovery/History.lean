/-
# The history of the sequence numbers

Ranges are opened one after the other, but the cursor need not use them up: a head may be retired
half-used, after an abort, after a compensation or by the recovery of a dead publisher, and the next
range is opened before or after that.  This module follows the WHOLE history (`Model.history`) and
proves the accounting:

* the ranges ever opened form a stack from the initial high water to the allocation (`Stacked`), so
  they are disjoint and consecutive;
* the cursor's values strictly increase, and each lies in the range that was then the open head;
* a retired range records exactly what the values used from it leave (`unusedSuffix`), at the time
  it is retired AND for ever after, because later values come from ranges above it.

The invariant that carries this is `HistoryInv`.  Its last clauses place the retired ranges below
the head and below the range that follows it; without them a value published later might fall into a
suffix recorded earlier.
-/
import MetaFlux.Base.Interval
import MetaFlux.Recovery.Invariant

namespace MetaFlux.Recovery

open Base List

variable {m m' : Model} {highWater : Nat}

/-! ## 1. The accounting -/

def RangeRecord.interval (range : RangeRecord) : Nat × Nat := (range.begin, range.end)

def RangeRecord.unused (range : RangeRecord) : Nat × Nat :=
  (range.unusedSuffixBegin, range.unusedSuffixEnd)

namespace History

/-- The values the cursor took, newest first. -/
def values (history : History) : List Nat := history.published.map Prod.fst

/-- The intervals of the ranges opened, newest first. -/
def intervals (history : History) : List (Nat × Nat) := history.opened.map RangeRecord.interval

end History

/-- The head has been opened at some time and may still be in place. -/
def RangeState.opened (s : RangeState) : Prop := s = .open ∨ s = .retired

structure HistoryInv (highWater allocationHighWater publicationCursor : Nat)
    (range followingRange : RangeRecord) (retiredRanges : Table RangeRecord 2)
    (history : History) : Prop where
  stacked : Stacked highWater allocationHighWater history.intervals
  desc : history.values.Pairwise (· > ·)
  cursor : publicationCursor = history.values.head?.getD highWater
  inside : ∀ p ∈ history.published,
    p.2.state = .open ∧ p.2.begin ≤ p.1 ∧ p.1 ≤ p.2.end ∧ p.2.interval ∈ history.intervals
  head_opened : range.state.opened →
    range.interval ∈ history.intervals ∧ publicationCursor ≤ range.end
  following_opened : followingRange.state = .open → followingRange.interval ∈ history.intervals
  retired_opened : ∀ r ∈ history.retired, r.interval ∈ history.intervals
  accounted : ∀ r ∈ history.retired, r.unused = unusedSuffix r.interval history.values
  head_retired : range.state = .retired → range ∈ history.retired
  archived : ∀ r ∈ retiredRanges.rows, r ∈ history.retired
  head_above : range.state = .open → ∀ r ∈ history.retired, r.end < range.begin
  following_above : followingRange.state ≠ .free → ∀ r ∈ history.retired,
    r.end < followingRange.begin

/-- The history of a state, counted from the initial high water. -/
def HistoryOf (highWater : Nat) (m : Model) : Prop :=
  HistoryInv highWater m.allocationHighWater m.publicationCursor m.range m.followingRange
    m.retiredRanges m.history

namespace HistoryInv

variable {allocation cursor : Nat} {range range' following following' : RangeRecord}
  {archive archive' : Table RangeRecord 2} {history : History}

section

variable (h : HistoryInv highWater allocation cursor range following archive history)

include h

/-- No retired range reaches above the allocation. -/
theorem retired_le {r : RangeRecord} (hr : r ∈ history.retired) : r.end ≤ allocation :=
  (h.stacked.bounds _ (h.retired_opened r hr)).2.2

/-- Every value used is positive: ranges start above the initial high water. -/
theorem value_pos {v : Nat} (hv : v ∈ history.values) : highWater < v := by
  obtain ⟨p, hp, rfl⟩ := mem_map.1 hv
  obtain ⟨-, hbegin, -, hmem⟩ := h.inside p hp
  have hbounds := h.stacked.bounds _ hmem
  exact hbounds.1.trans_le hbegin

/-- The range records may change as long as no open or retired record appears. -/
theorem of_records (hopen : range'.state = .open → range' = range)
    (hret : range'.state = .retired → range' = range)
    (hfoll : following'.state = .open → following' = following)
    (habove : following'.state ≠ .free → ∀ r ∈ history.retired, r.end < following'.begin)
    (harchive : ∀ r ∈ archive'.rows, r ∈ history.retired) :
    HistoryInv highWater allocation cursor range' following' archive' history := by
  refine ⟨h.stacked, h.desc, h.cursor, h.inside, ?_, ?_, h.retired_opened, h.accounted, ?_,
    harchive, ?_, habove⟩
  · rintro (hs | hs)
    · obtain rfl := hopen hs
      exact h.head_opened (.inl hs)
    · obtain rfl := hret hs
      exact h.head_opened (.inr hs)
  · intro hs
    obtain rfl := hfoll hs
    exact h.following_opened hs
  · intro hs
    obtain rfl := hret hs
    exact h.head_retired hs
  · intro hs
    obtain rfl := hopen hs
    exact h.head_above hs

/-- **The cursor moves inside the open head.**  Retired ranges lie below the head, so what they
record stays right. -/
theorem move (hopen : range.state = .open) {v : Nat} (hlt : cursor < v) (hbegin : range.begin ≤ v)
    (hend : v ≤ range.end) :
    HistoryInv highWater allocation v range following archive
      { history with published := (v, range) :: history.published } := by
  obtain ⟨hinterval, -⟩ := h.head_opened (.inl hopen)
  have hnewest : ∀ w ∈ history.values, w < v := by
    intro w hw
    have hc := h.cursor
    cases hvalues : history.values with
    | nil => rw [hvalues] at hw; exact absurd hw not_mem_nil
    | cons x =>
      rw [hvalues] at hw hc
      have hx : cursor = x := hc
      rcases mem_cons.1 hw with rfl | hw
      · omega
      · have hdesc := h.desc
        rw [hvalues] at hdesc
        have := (pairwise_cons.1 hdesc).1 w hw
        omega
  refine ⟨h.stacked, pairwise_cons.2 ⟨hnewest, h.desc⟩, rfl, ?_, fun _ => ⟨hinterval, hend⟩,
    h.following_opened, h.retired_opened, ?_, h.head_retired, h.archived, h.head_above,
    h.following_above⟩
  · intro p hp
    rcases mem_cons.1 hp with rfl | hp
    · exact ⟨hopen, hbegin, hend, hinterval⟩
    · exact h.inside p hp
  · intro r hr
    rw [h.accounted r hr]
    have hbelow := h.head_above hopen r hr
    refine (unusedSuffix_cons ?_).symm
    rintro ⟨-, hle⟩
    change v ≤ r.end at hle
    omega

end

end HistoryInv

theorem RangeRecord.retire_spec (range : RangeRecord) (cursor : Nat) :
    (range.retire cursor).interval = range.interval ∧ (range.retire cursor).unused =
      if cursor < range.begin then range.interval
      else if cursor < range.end then (cursor + 1, range.end) else (0, 0) := by
  unfold RangeRecord.retire
  split
  · exact ⟨rfl, rfl⟩
  · split <;> exact ⟨rfl, rfl⟩

/-- **The head is retired**: what it records is what the values used from it leave. -/
theorem HistoryInv.retire {allocation cursor : Nat} {range following : RangeRecord}
    {archive : Table RangeRecord 2} {history : History}
    (h : HistoryInv highWater allocation cursor range following archive history)
    (hopen : range.state = .open)
    (hbehind : following.state ≠ .free → range.end + 1 = following.begin) :
    HistoryInv highWater allocation cursor (range.retire cursor) following archive
      { history with retired := range.retire cursor :: history.retired } := by
  obtain ⟨hstate, -, hend⟩ := range.retire_frame cursor
  obtain ⟨hinterval, hunused⟩ := range.retire_spec cursor
  obtain ⟨hmem, hcursor⟩ := h.head_opened (.inl hopen)
  have hbottom := (h.stacked.bounds _ hmem).1
  refine ⟨h.stacked, h.desc, h.cursor, h.inside, ?_, h.following_opened, ?_, ?_, ?_, ?_, ?_, ?_⟩
  · intro _
    rw [hinterval, hend]
    exact ⟨hmem, hcursor⟩
  · intro r hr
    rcases mem_cons.1 hr with rfl | hr
    · rw [hinterval]
      exact hmem
    · exact h.retired_opened r hr
  · intro r hr
    rcases mem_cons.1 hr with rfl | hr
    · rw [hunused, hinterval]
      exact (unusedSuffix_of_newest h.desc h.cursor hbottom hcursor).symm
    · exact h.accounted r hr
  · exact fun _ => mem_cons_self
  · exact fun r hr => mem_cons_of_mem _ (h.archived r hr)
  · intro hs
    rw [hstate] at hs
    cases hs
  · intro hs r hr
    rcases mem_cons.1 hr with rfl | hr
    · have := hbehind hs
      omega
    · exact h.following_above hs r hr

/-! ## 2. Steps -/

section

variable (hh : HistoryOf highWater m)

include hh

theorem LeaseStep.history (h : LeaseStep m m') : HistoryOf highWater m' := by
  cases h <;> exact hh

theorem UpdateStep.history (h : UpdateStep m m') : HistoryOf highWater m' := by
  cases h <;> exact hh

/-- A quarantined record is neither open nor newly retired. -/
theorem quarantine_history (range : RangeRecord)
    (hret : range.state.quarantine = .retired →
      { range with state := range.state.quarantine } = m.range) :
    HistoryOf highWater (quarantine { m with range }) := by
  have hnotOpen : ∀ s : RangeState, s.quarantine ≠ .open := by
    intro s
    cases s <;> simp [RangeState.quarantine]
  refine HistoryInv.of_records hh (fun hs => absurd hs (hnotOpen _)) hret
    (fun hs => absurd hs (hnotOpen _)) ?_ hh.archived
  intro hne
  refine hh.following_above fun hfree => hne ?_
  change m.followingRange.state.quarantine = .free
  rw [hfree]
  rfl

theorem ControlStep.history (h : ControlStep m m') : HistoryOf highWater m' := by
  cases h with
  | quarantine =>
    refine quarantine_history hh m.range fun hs => ?_
    have hret : m.range.state = .retired := by
      cases hstate : m.range.state <;> simp [hstate, RangeState.quarantine] at hs
      rfl
    rw [hret]
    change { m.range with state := .retired } = m.range
    rw [← hret]
  | expirePublication => exact quarantine_history hh _ nofun
  | _ => exact hh

theorem RangeStep.history (h : RangeStep m m') (hi : Inv m) : HistoryOf highWater m' := by
  have habove : ∀ r ∈ m.history.retired, r.end < m.allocationHighWater + 1 := fun r hr =>
    Nat.lt_succ_of_le (hh.retired_le hr)
  cases h with
  | claimHead _ _ _ _ _ _ _ _ hplace =>
    refine HistoryInv.of_records hh nofun nofun (fun _ => rfl) hh.following_above ?_
    rcases hplace with ⟨-, rfl⟩ | ⟨-, hret, hroom, rfl⟩ | ⟨-, -, rfl⟩
    · exact hh.archived
    · intro r hr
      rcases (Table.mem_push hroom).1 hr with hr | rfl
      · exact hh.archived r hr
      · exact hh.head_retired hret
    · exact hh.archived
  | claimFollowing =>
    exact HistoryInv.of_records hh (fun _ => rfl) (fun _ => rfl) nofun (fun _ => habove) hh.archived
  | prepareHead =>
    exact HistoryInv.of_records hh nofun nofun (fun _ => rfl) hh.following_above hh.archived
  | prepareFollowing hstate =>
    have hne : m.followingRange.state ≠ .free := by simp [hstate]
    exact HistoryInv.of_records hh (fun _ => rfl) (fun _ => rfl) nofun
      (fun _ => hh.following_above hne) hh.archived
  | advance hhead hfoll _ hroom =>
    have hne : m.followingRange.state ≠ .free := by simp [hfoll]
    have hnext := (hi.range.following_behind hne).2
    have hcursor := (hh.head_opened (.inr hhead)).2
    have hbounds := hh.stacked.bounds _ (hh.following_opened hfoll)
    refine ⟨hh.stacked, hh.desc, hh.cursor, hh.inside, ?_, nofun, hh.retired_opened, hh.accounted,
      ?_, ?_, fun _ => hh.following_above hne, absurd rfl⟩
    · intro _
      refine ⟨hh.following_opened hfoll, ?_⟩
      change m.publicationCursor ≤ m.followingRange.end
      have : m.followingRange.begin ≤ m.followingRange.end := hbounds.2.1
      omega
    · intro hs
      rw [hfoll] at hs
      cases hs
    · intro r hr
      rcases (Table.mem_push hroom).1 hr with hr | rfl
      · exact hh.archived r hr
      · exact hh.head_retired hhead

theorem PublicationStep.history (h : PublicationStep m m') (hi : Inv m) :
    HistoryOf highWater m' := by
  cases h with
  | apply hstate _ _ hrange =>
    have hflight : m.publication.state.inFlight := .inr (.inr (.inr (.inl hstate)))
    have hle := hi.publication.target_le hflight
    have hlt : m.publicationCursor < m.publication.targetSequence := by omega
    have hbegin : m.range.begin ≤ m.publication.targetSequence := by omega
    exact HistoryInv.move hh hrange.1 hlt hbegin hle
  | compensate hstate hvis hview hrange htarget =>
    obtain ⟨hpay, hstate⟩ := hi.publication.visible hvis
    -- the payload was applied in this head, so the cursor has reached it
    have hflight : m.publication.state.inFlight := by
      rcases hstate with h | h | h
      · exact .inr (.inr (.inr (.inl h)))
      · exact .inr (.inr (.inr (.inr h)))
      · rw [hi.publication.quarantined h] at hview
        cases hview
    have hbegin := hi.publication.applied hflight hpay
    exact HistoryInv.move hh hrange.1 .refl hbegin.step htarget
  | finish _ hrange =>
    exact HistoryInv.retire hh hrange.1 fun hne => (hi.range.following_behind hne).2
  | _ => exact hh

theorem Step.history (h : Step m m') (hi : Inv m) : HistoryOf highWater m' := by
  cases h with
  | lease h | update h | control h => exact h.history hh
  | range h | publication h => exact h.history hh hi

/-- **The opening of a range puts it on top of the stack.** -/
theorem openAt_history {slot : RangeSlot} (ho : openable m slot) (hi : Inv m) :
    HistoryOf highWater (m.openAt slot) := by
  obtain ⟨hprep, -⟩ := ho
  have hgrow : ∀ {i : Nat × Nat}, i ∈ m.history.intervals →
      i ∈ (m.openAt slot).history.intervals := by
    intro i hmem
    cases slot <;> exact mem_cons_of_mem _ hmem
  have hinside : ∀ p ∈ m.history.published, p.2.state = .open ∧ p.2.begin ≤ p.1 ∧
      p.1 ≤ p.2.end ∧ p.2.interval ∈ (m.openAt slot).history.intervals := by
    intro p hp
    obtain ⟨hopen, hbegin, hend, hmem⟩ := hh.inside p hp
    exact ⟨hopen, hbegin, hend, hgrow hmem⟩
  cases slot with
  | head =>
    replace hprep : m.range.state = .prepared := hprep
    obtain ⟨hbegin, -, hfree⟩ := hi.range.head_unopened (.inr hprep)
    obtain ⟨-, hle, -⟩ := hi.range.head_valid.bounds (by simp [hprep])
    have hcursor := hi.publication.cursor_le
    refine ⟨hh.stacked.push hbegin hle, hh.desc, hh.cursor,
      hinside, fun _ => ⟨mem_cons_self, ?_⟩, fun hs => hgrow (hh.following_opened hs),
      fun r hr => hgrow (hh.retired_opened r hr), hh.accounted, nofun, hh.archived, ?_,
      absurd hfree⟩
    · change m.publicationCursor ≤ m.range.end
      omega
    · intro _ r hr
      have := hh.retired_le hr
      change r.end < m.range.begin
      omega
  | following =>
    replace hprep : m.followingRange.state = .prepared := hprep
    have hne : m.followingRange.state ≠ .free := by simp [hprep]
    obtain ⟨hbegin, -⟩ := hi.range.following_unopened (.inr hprep)
    obtain ⟨-, hle, -⟩ := hi.range.following_valid.bounds hne
    exact ⟨hh.stacked.push hbegin hle, hh.desc,
      hh.cursor, hinside, fun hs => ⟨hgrow (hh.head_opened hs).1, (hh.head_opened hs).2⟩,
      fun _ => mem_cons_self, fun r hr => hgrow (hh.retired_opened r hr), hh.accounted,
      hh.head_retired, hh.archived, hh.head_above, fun _ => hh.following_above hne⟩

/-! ## 3. Every run -/

theorem step_history (op : Op) (hi : Inv m) : HistoryOf highWater (step m op) := by
  refine (step_induction (P := fun m => Inv m ∧ HistoryOf highWater m) ?_ ?_ ?_ op ⟨hi, hh⟩).2
  · rintro a b hs ⟨hia, hha⟩
    exact ⟨hs.inv hia, hs.history hha hia⟩
  · rintro a hc ⟨hia, hha⟩
    exact ⟨countAdmission_inv hc hia, hha⟩
  · rintro a slot ho ⟨hia, hha⟩
    exact ⟨openAt_inv ho hia, openAt_history hha ho hia⟩

end

theorem init_history (limits : Limits) (highWater generation epoch : Nat) (viewId : ViewId) :
    HistoryOf highWater (Model.init limits highWater generation epoch viewId) := by
  refine ⟨rfl, .nil, rfl, ?_, ?_, nofun, ?_, ?_, nofun, ?_, nofun, absurd rfl⟩
  · exact fun p hp => absurd hp not_mem_nil
  · rintro (h | h) <;> cases h
  all_goals exact fun r hr => absurd hr not_mem_nil

theorem run_history {limits : Limits} {generation epoch : Nat} {viewId : ViewId}
    (h : (Model.init limits highWater generation epoch viewId).valid = true) (ops : List Op) :
    HistoryOf highWater (run step (Model.init limits highWater generation epoch viewId) ops) :=
  (run_induction (P := fun m => Inv m ∧ HistoryOf highWater m)
    (fun _ op h => ⟨step_inv op h.1, step_history h.2 op h.1⟩) ops
    ⟨init_inv h, init_history limits highWater generation epoch viewId⟩).2

/-- **The accounting of sequence numbers over every run.**  From a valid start, after any calls,
with `values` the values the cursor took (newest first, all of them above the initial one):

* they strictly increase, the newest is the cursor, and each was taken inside the head as it was
  then, which was open;
* none of them lies in the unused suffix of a range retired at any time;
* the ranges opened are disjoint and consecutive;
* every retired range was opened, and its unused suffix is what the values in it leave: it starts
  right after the newest of them, or at the beginning if there is none, and ends with the range; it
  is empty (`(0, 0)`) exactly where the last value of the range was used;
* and the retired ranges on record, at the head and in the archive, are among these. -/
theorem sequence_accounting (limits : Limits) (highWater generation epoch : Nat)
    (viewId : ViewId)
    (hvalid : (Model.init limits highWater generation epoch viewId).valid = true)
    (ops : List Op) :
    let m := run step (Model.init limits highWater generation epoch viewId) ops
    let values := m.history.values
    (values.Pairwise (· > ·) ∧ (∀ v ∈ values, highWater < v) ∧
      m.publicationCursor = values.head?.getD highWater) ∧
    (∀ p ∈ m.history.published, p.2.state = .open ∧ p.2.begin ≤ p.1 ∧ p.1 ≤ p.2.end) ∧
    (∀ v ∈ values, ∀ r ∈ m.history.retired,
      ¬ (r.unusedSuffixBegin ≤ v ∧ v ≤ r.unusedSuffixEnd)) ∧
    (m.history.opened.Pairwise (fun newer older => older.end < newer.begin) ∧
      m.history.opened.IsChain (fun newer older => older.end + 1 = newer.begin)) ∧
    (∀ r ∈ m.history.retired, r.interval ∈ m.history.intervals ∧
      r.unused = unusedSuffix r.interval values) ∧
    (m.range.state = .retired → m.range ∈ m.history.retired) ∧
    (∀ r ∈ m.retiredRanges.rows, r ∈ m.history.retired) := by
  intro m values
  have hh : HistoryOf highWater m := run_history hvalid ops
  refine ⟨⟨hh.desc, fun v hv => hh.value_pos hv, hh.cursor⟩, ?_, ?_, ⟨?_, ?_⟩, ?_,
    hh.head_retired, hh.archived⟩
  · intro p hp
    obtain ⟨hopen, hbegin, hend, -⟩ := hh.inside p hp
    exact ⟨hopen, hbegin, hend⟩
  · intro v hv r hr
    have hunused := hh.accounted r hr
    have hpos : 0 < v := Nat.lt_of_le_of_lt (Nat.zero_le _) (hh.value_pos hv)
    have hnot := not_mem_unusedSuffix (i := r.interval) hh.desc hv hpos
    rw [← hunused] at hnot
    exact hnot
  · exact pairwise_map.1 hh.stacked.disjoint
  · exact (isChain_map _).1 hh.stacked.consecutive
  · exact fun r hr => ⟨hh.retired_opened r hr, hh.accounted r hr⟩

/-- A range of three numbers of which a compensated publication uses two. -/
theorem sequence_accounting_compensated :
    (Model.init smallLimits 0 1 1 {}).valid = true ∧
      (run step (Model.init smallLimits 0 1 1 {})
        [.reserveRange 1 3, .claimPublication 1 true, .preparePublication 1, .linkPublication 1,
          .recoverDeadPublication 1]).history.values.Pairwise (· > ·) ∧
      (run step (Model.init smallLimits 0 1 1 {})
        [.reserveRange 1 3, .claimPublication 1 true, .preparePublication 1, .linkPublication 1,
          .recoverDeadPublication 1]).history.values = [2, 1] :=
  ⟨by decide, (sequence_accounting smallLimits 0 1 1 {} (by decide) _).1.1, by decide⟩

end MetaFlux.Recovery
