/-
# Coherence of staging memory

Host and device each have their own copy of staging memory that is not coherent: what the host
writes reaches the device when it is flushed, what the device writes reaches the host when it is
invalidated.  The ledger keeps the ranges that wait for one or the other, widened to atoms, and
refuses an access that would meet a stale byte.

It does not look at what the host has written when a range is invalidated, and the write is gone
(`invalidated_write_lost`).  As long as no byte that waits to be flushed is invalidated, every read
that is accepted sees the last write (`reads_see_last_write`).
-/
import MetaFlux.Vulkan.Staging

namespace MetaFlux.Vulkan

open Base Function

/-! ## 1. Ranges -/

structure VisibilityRange where
  offset : Nat
  size : Nat
deriving DecidableEq, Repr

namespace VisibilityRange

def stop (r : VisibilityRange) : Nat := r.offset + r.size

def Mem (r : VisibilityRange) (i : Nat) : Prop := r.offset ≤ i ∧ i < r.stop
deriving Decidable

def overlaps (left right : VisibilityRange) : Bool :=
  left.offset < right.stop && right.offset < left.stop

/-- The loop of `add_range`: `rangeEnd` is the end of the range as it came, which has since grown.
-/
def addFrom (rangeEnd : Nat) : VisibilityRange → Bool → List VisibilityRange → List VisibilityRange
  | range, inserted, [] => if inserted then [] else [range]
  | range, inserted, current :: rest =>
    if current.stop < range.offset then current :: addFrom rangeEnd range inserted rest
    else if rangeEnd < current.offset then
      if inserted then current :: addFrom rangeEnd range true rest
      else range :: current :: addFrom rangeEnd range true rest
    else
      let offset := min range.offset current.offset
      addFrom rangeEnd ⟨offset, max rangeEnd current.stop - offset⟩ inserted rest

def addRange (ranges : List VisibilityRange) (range : VisibilityRange) : List VisibilityRange :=
  if range.size = 0 then ranges else addFrom range.stop range false ranges

/-- What is left of a range. -/
def cut (range current : VisibilityRange) : List VisibilityRange :=
  if current.stop ≤ range.offset ∨ range.stop ≤ current.offset then [current]
  else
    (if current.offset < range.offset then [⟨current.offset, range.offset - current.offset⟩]
      else []) ++
      if range.stop < current.stop then [⟨range.stop, current.stop - range.stop⟩] else []

def removeRange (ranges : List VisibilityRange) (range : VisibilityRange) : List VisibilityRange :=
  if range.size = 0 then ranges else ranges.flatMap (cut range)

/-! ## 2. What they cover -/

open List

def Covers (ranges : List VisibilityRange) (i : Nat) : Prop := ∃ r ∈ ranges, r.Mem i

/-- In order, and apart. -/
def Sorted (ranges : List VisibilityRange) : Prop := ranges.Pairwise fun a b => a.stop ≤ b.offset

/-- In order, with so many bytes or more between them. -/
def Spaced (gap : Nat) (ranges : List VisibilityRange) : Prop :=
  ranges.Pairwise fun a b => a.stop + gap ≤ b.offset

def Proper (r : VisibilityRange) : Prop := 0 < r.size ∧ r.stop < 2 ^ 64

/-- What the lists of the ledger look like: no range touches another. -/
structure Separated (ranges : List VisibilityRange) : Prop where
  spaced : Spaced 1 ranges
  proper : ∀ r ∈ ranges, r.Proper

variable {ranges : List VisibilityRange} {range : VisibilityRange} {g : Nat}

theorem covers_cons {r : VisibilityRange} {i : Nat} :
    Covers (r :: ranges) i ↔ r.Mem i ∨ Covers ranges i := by
  simp [Covers]

theorem not_covers_of_apart
    (h : ranges.any (overlaps · range) = false) {i : Nat} (hi : range.Mem i) :
    ¬ Covers ranges i := by
  rintro ⟨r, hr, hmem⟩
  have hapart := any_eq_false.1 h r hr
  simp only [overlaps, Bool.and_eq_true, decide_eq_true_eq] at hapart
  unfold Mem at hi hmem
  omega

/-- Once the range is inserted, what follows is left as it is. -/
theorem addFrom_inserted {rangeEnd : Nat} (h : range.offset ≤ rangeEnd) :
    ∀ {rest : List VisibilityRange}, (∀ r ∈ rest, rangeEnd < r.offset) →
      addFrom rangeEnd range true rest = rest
  | [], _ => rfl
  | current :: rest, hrest => by
    have hcur := hrest current mem_cons_self
    rw [addFrom, if_neg (by unfold stop; omega), if_pos hcur, if_pos rfl,
      addFrom_inserted h fun r hr => hrest r (mem_cons_of_mem _ hr)]

/-- What holds of the range and of the others holds of all, if it stays when two are merged. -/
theorem addFrom_forall {rangeEnd : Nat} {P : VisibilityRange → Prop}
    (hmerge : ∀ range current : VisibilityRange, P range → P current →
      P ⟨min range.offset current.offset,
      max rangeEnd current.stop - min range.offset current.offset⟩) :
    ∀ {rest : List VisibilityRange} {range : VisibilityRange} {inserted : Bool}, P range →
      (∀ r ∈ rest, P r) → ∀ r ∈ addFrom rangeEnd range inserted rest, P r
  | [], range, inserted, hrange, _ => by
    cases inserted <;> simp [addFrom, hrange]
  | current :: rest, range, inserted, hrange, hall => by
    obtain ⟨hcur, hrest⟩ := forall_mem_cons.1 hall
    rw [addFrom]
    split_ifs
    · exact forall_mem_cons.2 ⟨hcur, addFrom_forall hmerge hrange hrest⟩
    · exact forall_mem_cons.2 ⟨hcur, addFrom_forall hmerge hrange hrest⟩
    · exact forall_mem_cons.2
        ⟨hrange, forall_mem_cons.2 ⟨hcur, addFrom_forall hmerge hrange hrest⟩⟩
    · exact addFrom_forall hmerge (hmerge _ _ hrange hcur) hrest

/-- **The loop of `add_range`.**  A range that has grown past where it ended has grown to the end of
the last one it met, and the next lies beyond. -/
theorem addFrom_spec (hg : g ≤ 1) {rangeEnd : Nat} :
    ∀ {rest : List VisibilityRange} {range : VisibilityRange},
    Spaced g rest → range.offset ≤ rangeEnd → rangeEnd ≤ range.stop →
    (rangeEnd < range.stop → ∀ r ∈ rest, range.stop + g ≤ r.offset) →
    Spaced g (addFrom rangeEnd range false rest) ∧
    ∀ i, Covers (addFrom rangeEnd range false rest) i ↔ range.Mem i ∨ Covers rest i
  | [], range, _, _, _, _ => by
    simp [addFrom, Spaced, Covers]
  | current :: rest, range, hsorted, hoff, hstop, hgrown => by
    obtain ⟨hfirst, hrest⟩ := pairwise_cons.1 hsorted
    rw [addFrom, if_neg (Bool.false_ne_true)]
    split_ifs with hbefore hafter
    · obtain ⟨hs, hcovers⟩ := addFrom_spec hg hrest hoff hstop
        fun h r hr => hgrown h r (mem_cons_of_mem _ hr)
      have hlower :=
        @addFrom_forall rangeEnd (current.stop + g ≤ ·.offset) (fun _ _ => le_min) rest range
        false (by omega) hfirst
      refine ⟨pairwise_cons.2 ⟨hlower, hs⟩, fun i => ?_⟩
      rw [covers_cons, hcovers, covers_cons, or_left_comm]
    · have hbeyond : ∀ r ∈ rest, rangeEnd < r.offset := fun r hr => by
        have := hfirst r hr
        unfold stop at this
        omega
      rw [addFrom_inserted hoff hbeyond]
      have hapart : range.stop + g ≤ current.offset := by
        by_cases hgrew : rangeEnd < range.stop
        · exact hgrown hgrew current mem_cons_self
        · omega
      refine ⟨pairwise_cons.2 ⟨?_, hsorted⟩, fun i => covers_cons⟩
      rw [forall_mem_cons]
      refine ⟨hapart, fun r hr => ?_⟩
      have := hfirst r hr
      unfold stop at this hapart ⊢
      omega
    · -- it has not grown yet, so that the two fill the range from the first to the last of them
      have hexact : range.stop = rangeEnd := by
        by_contra hne
        exact hafter (by have := hgrown (by omega) current mem_cons_self; omega)
      obtain ⟨hs, hcovers⟩ := @addFrom_spec hg rangeEnd rest
        ⟨min range.offset current.offset,
        max rangeEnd current.stop - min range.offset current.offset⟩
        hrest (by simp only; omega) (by simp only [stop]; omega) (fun h r hr => by
          have := hfirst r hr
          simp only [stop] at h this ⊢
          omega)
      refine ⟨hs, fun i => ?_⟩
      rw [hcovers, covers_cons, ← or_assoc]
      refine or_congr_left ?_
      simp only [Mem, stop] at hexact hbefore ⊢
      omega

theorem addRange_spec (hg : g ≤ 1) (h : Spaced g ranges) (range : VisibilityRange) :
    Spaced g (addRange ranges range) ∧
      ∀ i, Covers (addRange ranges range) i ↔ range.Mem i ∨ Covers ranges i := by
  unfold addRange
  split_ifs with hempty
  · refine ⟨h, fun i => ?_⟩
    simp only [Mem, stop]
    exact ⟨.inr, fun hi => hi.resolve_left (by omega)⟩
  · exact addFrom_spec hg h (Nat.le_add_right range.offset range.size) .refl
      fun hlt => absurd hlt (lt_irrefl _)

/-- The pieces lie in order within the range, and cover what is not cut off. -/
theorem cut_spec (hg : g ≤ 1) (hrange : range.size ≠ 0) (current : VisibilityRange) :
    Spaced g (cut range current) ∧
    (∀ r ∈ cut range current, current.offset ≤ r.offset ∧ r.stop ≤ current.stop ∧
      (0 < current.size → 0 < r.size)) ∧
    ∀ i, Covers (cut range current) i ↔ current.Mem i ∧ ¬ range.Mem i := by
  unfold cut
  split_ifs <;> simp [Spaced, Covers, Mem, stop] at *
  · intro i
    omega
  · exact ⟨by omega, by omega, fun i => by omega⟩
  · exact ⟨by omega, fun i => by omega⟩
  · exact ⟨by omega, fun i => by omega⟩
  · intro i
    omega

theorem removeRange_spec (hg : g ≤ 1) (h : Spaced g ranges) (range : VisibilityRange) :
    Spaced g (removeRange ranges range) ∧
      ∀ i, Covers (removeRange ranges range) i ↔ Covers ranges i ∧ ¬ range.Mem i := by
  unfold removeRange
  split_ifs with hempty
  · refine ⟨h, fun i => ?_⟩
    simp only [Mem, stop]
    exact ⟨fun hi => ⟨hi, by omega⟩, And.left⟩
  have hcut := cut_spec hg hempty
  refine ⟨pairwise_flatMap.2 ⟨fun r _ => (hcut r).1, h.imp ?_⟩, fun i => ?_⟩
  · intro a b hab x hx y hy
    have hxa := ((hcut a).2.1 x hx).2.1
    have hyb := ((hcut b).2.1 y hy).1
    omega
  · simp only [Covers, mem_flatMap]
    constructor
    · rintro ⟨x, ⟨r, hr, hx⟩, hi⟩
      obtain ⟨hri, hout⟩ := ((hcut r).2.2 i).1 ⟨x, hx, hi⟩
      exact ⟨⟨r, hr, hri⟩, hout⟩
    · rintro ⟨⟨r, hr, hri⟩, hout⟩
      obtain ⟨x, hx, hi⟩ := ((hcut r).2.2 i).2 ⟨hri, hout⟩
      exact ⟨x, ⟨r, hr, hx⟩, hi⟩

theorem addRange_proper (h : ∀ r ∈ ranges, r.Proper) (hrange : range.Proper) :
    ∀ r ∈ addRange ranges range, r.Proper := by
  unfold addRange
  rw [if_neg hrange.1.ne']
  refine addFrom_forall (fun a b ha hb => ?_) hrange h
  simp only [Proper, stop] at *
  omega

theorem removeRange_proper (h : ∀ r ∈ ranges, r.Proper) (hrange : range.Proper) :
    ∀ r ∈ removeRange ranges range, r.Proper := by
  unfold removeRange
  rw [if_neg hrange.1.ne']
  intro r hr
  obtain ⟨current, hcur, hr⟩ := mem_flatMap.1 hr
  obtain ⟨-, hstop, hsize⟩ := (cut_spec (Nat.zero_le 1) hrange.1.ne' current).2.1 r hr
  obtain ⟨hproper, hbound⟩ := h current hcur
  exact ⟨hsize hproper, hstop.trans_lt hbound⟩

/-- **Ranges are added and removed exactly,** and what comes out is again in order, with no two
ranges that touch. -/
theorem ranges_exact (h : Separated ranges) (hrange : range.Proper) :
    (Separated (addRange ranges range) ∧
      ∀ i, Covers (addRange ranges range) i ↔ Covers ranges i ∨ range.Mem i) ∧
    Separated (removeRange ranges range) ∧
      ∀ i, Covers (removeRange ranges range) i ↔ Covers ranges i ∧ ¬ range.Mem i := by
  obtain ⟨hadd, hunion⟩ := addRange_spec .refl h.spaced range
  obtain ⟨hrem, hdifference⟩ := removeRange_spec .refl h.spaced range
  refine ⟨⟨⟨hadd, addRange_proper h.proper hrange⟩, fun i => ?_⟩,
    ⟨hrem, removeRange_proper h.proper hrange⟩, hdifference⟩
  rw [hunion, or_comm]

/-- A range that touches two others and a range that splits one. -/
theorem ranges_exact_merged :
    Separated [⟨0, 4⟩, ⟨8, 4⟩] ∧ addRange [⟨0, 4⟩, ⟨8, 4⟩] ⟨4, 4⟩ = [⟨0, 12⟩] ∧
      removeRange [⟨0, 12⟩] ⟨4, 4⟩ = [⟨0, 4⟩, ⟨8, 4⟩] ∧
      Separated (addRange [⟨0, 4⟩, ⟨8, 4⟩] ⟨4, 4⟩) := by
  have h : Separated [⟨0, 4⟩, ⟨8, 4⟩] :=
    ⟨by simp [Spaced, stop], by simp [Proper, stop]⟩
  exact ⟨h, rfl, rfl, (ranges_exact h ⟨by decide, by decide⟩).1.1⟩

end VisibilityRange

open VisibilityRange

/-! ## 3. The ledger -/

inductive VisibilityStatus where
  | success | invalidArgument | staleGeneration | notFound | busy | flushRequired
    | invalidateRequired
  | rangeOutOfBounds
deriving DecidableEq, Repr

structure Record where
  hostCoherent : Bool
  inFlightTimeline : Nat := 0
  hostDirty : List VisibilityRange := []
  deviceDirty : List VisibilityRange := []

/-- The records are looked up by every field of their allocation. -/
structure MemoryVisibilityLedger where
  generation : UInt64 := 0
  nonCoherentAtomSize : Nat := 0
  highestSubmittedTimeline : Nat := 0
  completedTimeline : Nat := 0
  records : AList fun _ : StagingAllocation => Record := ∅

namespace MemoryVisibilityLedger

section Model

variable (s : MemoryVisibilityLedger)

def configure (generation : UInt64) (atom : Nat) : VisibilityStatus × MemoryVisibilityLedger :=
  if generation = 0 ∨ atom = 0 then (.invalidArgument, s)
  else if s.records.entries.any fun r => s.completedTimeline < r.2.inFlightTimeline then (.busy, s)
  else (.success, { generation, nonCoherentAtomSize := atom })

def registerAllocation (a : StagingAllocation) (hostCoherent : Bool) :
    VisibilityStatus × MemoryVisibilityLedger :=
  if s.generation = 0 ∨ a.id = 0 ∨ a.generation = 0 ∨ a.generation ≠ s.generation ∨ a.size = 0 ∨
      a.alignment = 0 then
    (if a.generation ≠ 0 ∧ a.generation ≠ s.generation then .staleGeneration
      else .invalidArgument, s)
  else if a ∈ s.records then (.invalidArgument, s)
  else if hostCoherent = false ∧ (a.offset.toNat % s.nonCoherentAtomSize ≠ 0 ∨
      a.size.toNat % s.nonCoherentAtomSize ≠ 0) then (.invalidArgument, s)
  else (.success, { s with records := s.records.insert a { hostCoherent } })

def unregisterAllocation (a : StagingAllocation) : VisibilityStatus × MemoryVisibilityLedger :=
  if a.generation = 0 ∨ a.generation ≠ s.generation then (.staleGeneration, s)
  else
    match s.records.lookup a with
    | none => (.notFound, s)
    | some record =>
      if s.completedTimeline < record.inFlightTimeline then (.busy, s)
      else (.success, { s with records := s.records.erase a })

def checkGeneration (generation : UInt64) : VisibilityStatus :=
  if generation = 0 then .invalidArgument
  else if generation ≠ s.generation then .staleGeneration
  else .success

def submit (generation : UInt64) (timeline : Nat) : VisibilityStatus × MemoryVisibilityLedger :=
  if s.checkGeneration generation ≠ .success then (s.checkGeneration generation, s)
  else if timeline = 0 ∨ timeline ≤ s.highestSubmittedTimeline ∨ timeline ≤ s.completedTimeline then
    (.invalidArgument, s)
  else (.success, { s with highestSubmittedTimeline := timeline })

def complete (generation : UInt64) (timeline : Nat) : VisibilityStatus × MemoryVisibilityLedger :=
  if s.checkGeneration generation ≠ .success then (s.checkGeneration generation, s)
  else if timeline = 0 ∨ timeline > s.highestSubmittedTimeline ∨ timeline < s.completedTimeline then
    (.invalidArgument, s)
  else (.success, { s with completedTimeline := timeline })

def normalizeRange (a : StagingAllocation) (record : Record) (offset size : Nat) :
    Except VisibilityStatus VisibilityRange :=
  let max := 2 ^ 64 - 1
  let start := a.offset.toNat
  let length := a.size.toNat
  if size = 0 ∨ offset < start ∨ start > max - length ∨ offset > max - size ∨
      offset + size > start + length then .error .rangeOutOfBounds
  else if record.hostCoherent then .ok ⟨offset, size⟩
  else
    let atom := s.nonCoherentAtomSize
    if atom = 0 ∨ offset / atom > max / atom then .error .invalidArgument
    else if offset + size > max - (atom - 1) then .error .rangeOutOfBounds
    else
      let alignedOffset := offset / atom * atom
      let alignedEnd := (offset + size + atom - 1) / atom * atom
      if alignedOffset < start ∨ alignedEnd > start + length then .error .rangeOutOfBounds
      else .ok ⟨alignedOffset, alignedEnd - alignedOffset⟩

def checkAccess (a : StagingAllocation) (offset size : Nat) (generation : UInt64) :
    Except VisibilityStatus (VisibilityRange × Record) :=
  if s.checkGeneration generation ≠ .success then .error (s.checkGeneration generation)
  else
    match s.records.lookup a with
    | none => .error (if a.generation ≠ s.generation then .staleGeneration else .notFound)
    | some record =>
      match s.normalizeRange a record offset size with
      | .error status => .error status
      | .ok range => .ok (range, record)

def checkSubmission (generation : UInt64) (timeline : Nat) : VisibilityStatus :=
  if s.checkGeneration generation ≠ .success then s.checkGeneration generation
  else if timeline = 0 ∨ timeline > s.highestSubmittedTimeline ∨ timeline ≤ s.completedTimeline then
    .invalidArgument
  else .success

variable (range : VisibilityRange) (record : Record)

/-- What writes and reads share: nothing is in flight, and no byte of the range waits in `dirty`. -/
def guarded (dirty : List VisibilityRange) (required : VisibilityStatus) (next : Record) :
    Except VisibilityStatus Record :=
  if record.inFlightTimeline > s.completedTimeline then .error .busy
  else if record.hostCoherent = false ∧ dirty.any (overlaps · range) then .error required
  else .ok next

/-- What the device does, it does under a timeline that was submitted and is not over. -/
def submitted (generation : UInt64) (timeline : Nat) (next : Record) :
    Except VisibilityStatus Record :=
  if s.checkSubmission generation timeline ≠ .success then .error
    (s.checkSubmission generation timeline)
  else s.guarded range record record.hostDirty .flushRequired next

/-- What flushes and invalidations share. -/
def settled (next : Record) : Except VisibilityStatus Record :=
  if record.inFlightTimeline > s.completedTimeline then .error .busy
  else .ok (if record.hostCoherent then record else next)

def hostWrite : Except VisibilityStatus Record :=
  s.guarded range record record.deviceDirty .invalidateRequired
    (if record.hostCoherent then record
      else { record with hostDirty := addRange record.hostDirty range })

def flush : Except VisibilityStatus Record :=
  s.settled record { record with hostDirty := removeRange record.hostDirty range }

def deviceRead (generation : UInt64) (timeline : Nat) : Except VisibilityStatus Record :=
  s.submitted range record generation timeline { record with inFlightTimeline := timeline }

def deviceWrite (generation : UInt64) (timeline : Nat) : Except VisibilityStatus Record :=
  s.submitted range record generation timeline
    (if record.hostCoherent then { record with inFlightTimeline := timeline }
      else { record with
        inFlightTimeline := timeline, deviceDirty := addRange record.deviceDirty range })

def invalidate : Except VisibilityStatus Record :=
  s.settled record { record with deviceDirty := removeRange record.deviceDirty range }

def hostRead : Except VisibilityStatus Record :=
  s.guarded range record record.deviceDirty .invalidateRequired record

/-! ## 4. The two copies -/

inductive Access where
  | hostWrite (bytes : Nat → UInt8)
  | flush
  | deviceRead (timeline : Nat)
  | deviceWrite (timeline : Nat) (bytes : Nat → UInt8)
  | invalidate
  | hostRead

def perform (generation : UInt64) : Access → Except VisibilityStatus Record
  | .hostWrite _ => s.hostWrite range record
  | .flush => s.flush range record
  | .deviceRead timeline => s.deviceRead range record generation timeline
  | .deviceWrite timeline _ => s.deviceWrite range record generation timeline
  | .invalidate => s.invalidate range record
  | .hostRead => s.hostRead range record

/-- The widened range of an access that is accepted, and its record before and after it. -/
def access (a : StagingAllocation) (access : Access) (offset size : Nat) (generation : UInt64) :
    Except VisibilityStatus (VisibilityRange × Record × Record) :=
  match s.checkAccess a offset size generation with
  | .error status => .error status
  | .ok (range, record) =>
    match s.perform range record generation access with
    | .error status => .error status
    | .ok next => .ok (range, record, next)

end Model

/-- The bytes of an allocation in the host's cache and in the memory of the device, which of them
the host has written and not flushed, and what was last written to each by either. -/
structure Copies where
  host : Nat → UInt8
  device : Nat → UInt8
  unflushed : Nat → Bool := fun _ => false
  last : Nat → Option UInt8 := fun _ => none

def overwrite {α : Type} (range : VisibilityRange) (new old : Nat → α) : Nat → α := fun i =>
  if range.Mem i then new i else old i

/-- What an access does to the copies: a write changes the bytes it names, a flush and an
invalidation act on the widened range. -/
def Access.effect (exact widened : VisibilityRange) (c : Copies) : Access → Copies
  | .hostWrite bytes =>
    { c with
      host := overwrite exact bytes c.host
      unflushed := overwrite exact (fun _ => true) c.unflushed
      last := overwrite exact (some ∘ bytes) c.last }
  | .flush =>
    { c with
      device := overwrite widened (fun i => if c.unflushed i then c.host i else c.device i) c.device
      unflushed := overwrite widened (fun _ => false) c.unflushed }
  | .deviceWrite _ bytes =>
    { c with
      device := overwrite exact bytes c.device
      last := overwrite exact (some ∘ bytes) c.last }
  | .invalidate =>
    { c with
      host := overwrite widened c.device c.host
      unflushed := overwrite widened (fun _ => false) c.unflushed }
  | .deviceRead _ | .hostRead => c

structure World where
  ledger : MemoryVisibilityLedger := {}
  copies : StagingAllocation → Copies := fun _ => { host := fun _ => 0, device := fun _ => 0 }

/-- An allocation that is registered has whatever bytes it has, and none of them was written. -/
inductive Event where
  | configure (generation : UInt64) (atom : Nat)
  | registerAllocation (a : StagingAllocation) (hostCoherent : Bool) (host device : Nat → UInt8)
  | unregisterAllocation (a : StagingAllocation)
  | submit (generation : UInt64) (timeline : Nat)
  | complete (generation : UInt64) (timeline : Nat)
  | access (a : StagingAllocation) (access : Access) (offset size : Nat) (generation : UInt64)

def World.step (w : World) : Event → World
  | .configure generation atom => { w with ledger := (w.ledger.configure generation atom).2 }
  | .registerAllocation a hostCoherent host device =>
    if (w.ledger.registerAllocation a hostCoherent).1 ≠ .success then w
    else
      { ledger := (w.ledger.registerAllocation a hostCoherent).2
        copies := Function.update w.copies a { host, device } }
  | .unregisterAllocation a => { w with ledger := (w.ledger.unregisterAllocation a).2 }
  | .submit generation timeline => { w with ledger := (w.ledger.submit generation timeline).2 }
  | .complete generation timeline => { w with ledger := (w.ledger.complete generation timeline).2 }
  | .access a access offset size generation =>
    match w.ledger.access a access offset size generation with
    | .error _ => w
    | .ok (range, _, next) =>
      { ledger := { w.ledger with records := w.ledger.records.insert a next }
        copies := Function.update w.copies a
          (access.effect ⟨offset, size⟩ range (w.copies a)) }

/-! ## 5. One access -/

/-- **One byte.**  If it waits to be flushed it is dirty for the host, and then not for the device;
what was last written to it is in the host's copy unless it is dirty for the device, and in the
device's copy unless it waits to be flushed. -/
def Current (unflushed : Bool) (hostDirty deviceDirty : Prop) (host device : UInt8)
    (last : Option UInt8) : Prop :=
  (unflushed = true → hostDirty) ∧ (hostDirty → ¬ deviceDirty) ∧
    ∀ v, last = some v → (¬ deviceDirty → host = v) ∧ (unflushed = false → device = v)

structure Holds (record : Record) (c : Copies) : Prop where
  sortedHost : Sorted record.hostDirty
  sortedDevice : Sorted record.deviceDirty
  current : ∀ i, Current (c.unflushed i) (Covers record.hostDirty i) (Covers record.deviceDirty i)
    (c.host i) (c.device i) (c.last i)

section Accesses

variable {s : MemoryVisibilityLedger} {record next : Record} {c : Copies} {a : StagingAllocation}
  {offset size : Nat} {range exact : VisibilityRange} {access : Access} {generation : UInt64}

theorem normalizeRange_mem (h : s.normalizeRange a record offset size = .ok range) (i : Nat)
    (hi : VisibilityRange.Mem ⟨offset, size⟩ i) : range.Mem i := by
  unfold normalizeRange at h
  dsimp only at h
  split_ifs at h with hbounds hcoherent hatom hend haligned
  · cases h
    exact hi
  cases h
  have hpos : 0 < s.nonCoherentAtomSize := by omega
  have hlow := Nat.div_mul_le_self offset s.nonCoherentAtomSize
  have hhigh := Nat.lt_div_mul_add (a := offset + size + s.nonCoherentAtomSize - 1) hpos
  simp only [Mem, stop] at hi ⊢
  omega

theorem access_ok (h : s.access a access offset size generation = .ok (range, record, next)) :
    s.records.lookup a = some record ∧ (∀ i, VisibilityRange.Mem ⟨offset, size⟩ i → range.Mem i) ∧
      s.perform range record generation access = .ok next := by
  unfold MemoryVisibilityLedger.access at h
  split at h
  · cases h
  rename_i found hcheck
  split at h
  · cases h
  rename_i hperform
  cases h
  unfold checkAccess at hcheck
  split at hcheck
  · cases hcheck
  split at hcheck
  · cases hcheck
  rename_i hlookup
  split at hcheck
  · cases hcheck
  · rename_i hrange
    cases hcheck
    exact ⟨hlookup, normalizeRange_mem hrange, hperform⟩

theorem perform_coherent (h : s.perform range record generation access = .ok next) :
    next.hostCoherent = record.hostCoherent := by
  cases access <;>
    simp only [perform, hostWrite, flush, deviceRead, deviceWrite, invalidate, hostRead, guarded,
      submitted, settled] at h <;>
    split_ifs at h <;> cases h <;> rfl

variable (hrecord : record.hostCoherent = false)

include hrecord

variable {next' : Record}

theorem guarded_ok {dirty : List VisibilityRange} {required : VisibilityStatus}
    (h : s.guarded range record dirty required next' = .ok next) :
    next' = next ∧ ∀ i, range.Mem i → ¬ Covers dirty i := by
  unfold guarded at h
  split_ifs at h with hbusy hdirty
  refine ⟨Except.ok.inj h, fun i => not_covers_of_apart ?_⟩
  simpa [hrecord] using hdirty

theorem submitted_ok {timeline : Nat}
    (h : s.submitted range record generation timeline next' = .ok next) :
    next' = next ∧ ∀ i, range.Mem i → ¬ Covers record.hostDirty i := by
  unfold submitted at h
  split_ifs at h
  exact guarded_ok hrecord h

theorem settled_ok (h : s.settled record next' = .ok next) : next' = next := by
  unfold settled at h
  split_ifs at h with hbusy hcoherent
  · simp [hrecord] at hcoherent
  · exact Except.ok.inj h

/-- **One access.**  An invalidation must not meet a byte that waits to be flushed. -/
theorem Holds.perform (h : Holds record c) (hsub : ∀ i, exact.Mem i → range.Mem i)
    (hok : s.perform range record generation access = .ok next)
    (hkeep : access = .invalidate → ∀ i, range.Mem i → c.unflushed i = false) :
    Holds next (access.effect exact range c) := by
  have hneg : ¬ record.hostCoherent = true := by simp [hrecord]
  cases access
  case' hostWrite =>
    obtain ⟨rfl, hclean⟩ := guarded_ok hrecord hok
    rw [if_neg hneg]
    obtain ⟨hsorted, hcovers⟩ := addRange_spec (Nat.zero_le 1) h.sortedHost range
    refine ⟨hsorted, h.sortedDevice, fun i => ?_⟩
  case' flush =>
    obtain rfl := settled_ok hrecord hok
    obtain ⟨hsorted, hcovers⟩ := removeRange_spec (Nat.zero_le 1) h.sortedHost range
    refine ⟨hsorted, h.sortedDevice, fun i => ?_⟩
  case deviceRead =>
    obtain ⟨rfl, -⟩ := submitted_ok hrecord hok
    exact { h with }
  case' deviceWrite =>
    obtain ⟨rfl, hclean⟩ := submitted_ok hrecord hok
    rw [if_neg hneg]
    obtain ⟨hsorted, hcovers⟩ := addRange_spec (Nat.zero_le 1) h.sortedDevice range
    refine ⟨h.sortedHost, hsorted, fun i => ?_⟩
  case' invalidate =>
    obtain rfl := settled_ok hrecord hok
    obtain ⟨hsorted, hcovers⟩ := removeRange_spec (Nat.zero_le 1) h.sortedDevice range
    refine ⟨h.sortedHost, hsorted, fun i => ?_⟩
  case hostRead =>
    obtain ⟨rfl, -⟩ := guarded_ok hrecord hok
    exact h
  -- what a byte stands for, where one set of ranges has changed
  all_goals
    have hi := h.current i
    simp only [Current, Access.effect, overwrite] at hi ⊢
    split_ifs <;> grind

end Accesses

/-! ## 6. Every run -/

/-- The ledger is right about every allocation that is not coherent. -/
def World.Sound (w : World) : Prop :=
  ∀ a record, w.ledger.records.lookup a = some record → record.hostCoherent = false →
    Holds record (w.copies a)

/-- An invalidation that is accepted meets no byte that waits to be flushed. -/
def KeepsUnflushed (w : World) (e : Event) : Prop :=
  ∀ a offset size generation range record next,
    e = .access a .invalidate offset size generation →
    w.ledger.access a .invalidate offset size generation = .ok (range, record, next) →
    record.hostCoherent = false → ∀ i, range.Mem i → (w.copies a).unflushed i = false

theorem World.Sound.store {w : World} (h : w.Sound) (a : StagingAllocation) {record : Record}
    {c : Copies} (hnew : record.hostCoherent = false → Holds record c) :
    World.Sound { ledger := { w.ledger with records := w.ledger.records.insert a record }
                  copies := update w.copies a c } := by
  intro b found hlookup hcoherent
  by_cases hb : b = a
  · subst hb
    rw [AList.lookup_insert] at hlookup
    cases hlookup
    change Holds record (update w.copies b c b)
    rw [update_self]
    exact hnew hcoherent
  · rw [AList.lookup_insert_ne hb] at hlookup
    change Holds found (update w.copies a c b)
    rw [update_of_ne hb]
    exact h b found hlookup hcoherent

theorem World.Sound.step {w : World} (h : w.Sound) {e : Event} (hkeep : KeepsUnflushed w e) :
    (w.step e).Sound := by
  cases e with
  | configure =>
    simp only [World.step, configure]
    split_ifs
    · exact h
    · exact h
    · intro a record hlookup
      simp at hlookup
  | registerAllocation a hostCoherent =>
    rw [World.step]
    split_ifs with hrefused
    · exact h
    have hinsert : (w.ledger.registerAllocation a hostCoherent).2 =
        { w.ledger with records := w.ledger.records.insert a { hostCoherent } } := by
      unfold registerAllocation at hrefused ⊢
      split_ifs at hrefused ⊢ <;> simp at hrefused ⊢
    rw [hinsert]
    exact h.store a fun _ => ⟨.nil, .nil, fun i => by simp [Current, Covers]⟩
  | unregisterAllocation a =>
    simp only [World.step, unregisterAllocation]
    split_ifs
    · exact h
    split
    · exact h
    split_ifs
    · exact h
    intro b record hlookup
    refine h b record ?_
    by_cases hb : b = a
    · rw [hb, AList.lookup_erase] at hlookup
      cases hlookup
    · rwa [AList.lookup_erase_ne hb] at hlookup
  | submit =>
    simp only [World.step, submit]
    split_ifs <;> exact h
  | complete =>
    simp only [World.step, complete]
    split_ifs <;> exact h
  | access a access offset size generation =>
    simp only [World.step]
    cases haccess : w.ledger.access a access offset size generation with
    | error => exact h
    | ok found =>
      obtain ⟨range, record, next⟩ := found
      obtain ⟨hlookup, hsub, hperform⟩ := access_ok haccess
      refine h.store a fun hnext => ?_
      have hrecord := (perform_coherent hperform).symm.trans hnext
      refine (h a record hlookup hrecord).perform hrecord hsub hperform ?_
      rintro rfl
      exact hkeep a offset size generation range record next rfl haccess hrecord

/-- **Reads see the last write.**  Over every run in which no invalidation meets a byte that waits
to be flushed, a read of memory that is not coherent, if it is accepted, finds in its copy what was
last written to each byte since the allocation was registered. -/
theorem reads_see_last_write (events : List Event) (h : Along World.step KeepsUnflushed {} events)
    (a : StagingAllocation) (offset size : Nat) (generation : UInt64) (range : VisibilityRange)
    (record next : Record) (hrecord : record.hostCoherent = false) :
    let w := run World.step {} events
    (∀ timeline, w.ledger.access a (.deviceRead timeline) offset size generation =
        .ok (range, record, next) →
      ∀ i v, offset ≤ i → i < offset + size → (w.copies a).last i = some v →
        (w.copies a).device i = v) ∧
    (w.ledger.access a .hostRead offset size generation = .ok (range, record, next) →
      ∀ i v, offset ≤ i → i < offset + size → (w.copies a).last i = some v →
        (w.copies a).host i = v) := by
  intro w
  have hsound : w.Sound := by
    refine run_induction_along (fun w e hw hk => hw.step hk) events ?_ h
    intro a record hlookup
    simp at hlookup
  refine ⟨fun timeline haccess i v hlow hhigh hlast => ?_, fun haccess i v hlow hhigh hlast => ?_⟩
  · obtain ⟨hlookup, hsub, hperform⟩ := access_ok haccess
    obtain ⟨hmarked, -, hcur⟩ := (hsound a record hlookup hrecord).current i
    have hclean := (submitted_ok hrecord hperform).2 i (hsub i ⟨hlow, hhigh⟩)
    exact (hcur v hlast).2 (by simpa using mt hmarked hclean)
  · obtain ⟨hlookup, hsub, hperform⟩ := access_ok haccess
    obtain ⟨-, -, hcur⟩ := (hsound a record hlookup hrecord).current i
    exact (hcur v hlast).1 ((guarded_ok hrecord hperform).2 i (hsub i ⟨hlow, hhigh⟩))

/-- Sixty-four bytes that are not coherent, in a ledger with atoms of that size. -/
def oneAtom : StagingAllocation := { id := 1, generation := 7, size := 64, alignment := 64 }

def oneAtomRegistered : List Event :=
  [.configure 7 64, .registerAllocation oneAtom false (fun _ => 0) fun _ => 0,
    .access oneAtom (.hostWrite fun _ => 1) 0 8 7]

/-- What the host has written and flushed, the device reads. -/
theorem reads_see_last_write_flushed :
    let w := run World.step {} (oneAtomRegistered ++ [.access oneAtom .flush 0 8 7, .submit 7 1])
    w.ledger.access oneAtom (.deviceRead 1) 0 8 7 =
        .ok (⟨0, 64⟩, { hostCoherent := false }, { hostCoherent := false, inFlightTimeline := 1 }) ∧
      (w.copies oneAtom).device 3 = 1 := by
  have hread : (run World.step {} (oneAtomRegistered ++
      [.access oneAtom .flush 0 8 7, .submit 7 1])).ledger.access oneAtom (.deviceRead 1) 0 8 7 =
      .ok (⟨0, 64⟩, { hostCoherent := false }, { hostCoherent := false, inFlightTimeline := 1 }) :=
        rfl
  refine ⟨hread, (reads_see_last_write _ ?_ oneAtom 0 8 7 _ _ _ rfl).1 1 hread 3 1 (by decide)
    (by decide) rfl⟩
  exact ⟨nofun, nofun, nofun, nofun, nofun, trivial⟩

/-- **A write that is invalidated before it is flushed is lost.**  The host reads its own write back
as it was before, and the read is accepted. -/
theorem invalidated_write_lost :
    let w := run World.step {} (oneAtomRegistered ++ [.access oneAtom .invalidate 0 8 7])
    (∃ found, w.ledger.access oneAtom .hostRead 0 8 7 = .ok found) ∧
      (w.copies oneAtom).last 3 = some 1 ∧ (w.copies oneAtom).host 3 = 0 :=
  ⟨⟨_, rfl⟩, rfl, rfl⟩

end MemoryVisibilityLedger

end MetaFlux.Vulkan
