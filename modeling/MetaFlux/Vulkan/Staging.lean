/-
# The staging ledger

Staging memory is one range of bytes, as large as the smaller of the device's heap and the visible
heap of the host.  The ledger hands out aligned pieces of it, first fit, and keeps those that are
out in the order of their offsets.

All sizes and offsets are machine words.  None of the sums wraps: a candidate is compared with the
capacity before its end is computed, and what is out fits into the capacity (`Ledger.Inv`).  The
walk over the pieces is then first fit on natural numbers (`scan_eq`).
-/
import MetaFlux.Base.FirstFit
import MetaFlux.Base.Run

namespace MetaFlux.Vulkan

open Base List

/-! ## 1. The ledger -/

inductive MemoryStatus where
  | success | invalidArgument | unsupported | outOfMemory | staleGeneration | notFound | busy
deriving DecidableEq, Repr

/-- What the ledger looks at in a device's profile. -/
structure CapabilityProfile where
  status : UInt32 := 0
  memoryTierFlags : UInt32 := 0
  deviceLocalHeapBytes : UInt64 := 0
  hostVisibleHeapBytes : UInt64 := 0
deriving DecidableEq, Repr

def probeSuccess : UInt32 := 0
def memoryTierStaging : UInt32 := 1

structure StagingAllocation where
  id : UInt64 := 0
  generation : UInt64 := 0
  offset : UInt64 := 0
  size : UInt64 := 0
  alignment : UInt64 := 0
deriving DecidableEq, Repr

structure StagingLedger where
  capacity : UInt64 := 0
  generation : UInt64 := 0
  nextId : UInt64 := 1
  activeBytes : UInt64 := 0
  allocations : List StagingAllocation := []
deriving DecidableEq, Repr

def maximum : UInt64 := 0xffffffffffffffff

def isPowerOfTwo (value : UInt64) : Bool := value ≠ 0 && value &&& (value - 1) = 0

def roundUpWord (value alignment : UInt64) : Option UInt64 :=
  if isPowerOfTwo alignment = false then none
  else
    let remainder := value &&& (alignment - 1)
    let increment := if remainder = 0 then 0 else alignment - remainder
    if value > maximum - increment then none else some (value + increment)

namespace StagingLedger

variable (s : StagingLedger)

def configure (profile : CapabilityProfile) (generation : UInt64) : MemoryStatus × StagingLedger :=
  if profile.status ≠ probeSuccess ∨ generation = 0 ∨
      profile.memoryTierFlags &&& memoryTierStaging = 0 ∨
      profile.deviceLocalHeapBytes = 0 ∨ profile.hostVisibleHeapBytes = 0 then
    (.unsupported, s)
  else
    let capacity := min profile.deviceLocalHeapBytes profile.hostVisibleHeapBytes
    if capacity = 0 then (.unsupported, s)
    else if s.allocations ≠ [] then (.busy, s)
    else (.success, { s with capacity, generation, nextId := 1, activeBytes := 0 })

/-- The candidate, rounded up, if there is room for the size above it. -/
def fit (size alignment candidate : UInt64) : Option UInt64 :=
  match roundUpWord candidate alignment with
  | none => none
  | some rounded =>
    if rounded > s.capacity ∨ size > s.capacity - rounded then none else some rounded

/-- The loop over the allocations and what follows it. -/
def scan (size alignment : UInt64) : UInt64 → List StagingAllocation → Option UInt64
  | candidate, [] => s.fit size alignment candidate
  | candidate, a :: rest =>
    match s.fit size alignment candidate with
    | none => none
    | some rounded =>
      if rounded + size ≤ a.offset then s.fit size alignment rounded
      else if a.offset > maximum - a.size then none
      else scan size alignment (a.offset + a.size) rest

/-- `lower_bound` and `insert`. -/
def place (a : StagingAllocation) : List StagingAllocation :=
  s.allocations.takeWhile (fun b => b.offset < a.offset) ++
    a :: s.allocations.dropWhile fun b => b.offset < a.offset

/-- `hasOut` is whether there is a place for the result. -/
def allocate (size alignment generation : UInt64) (hasOut : Bool) :
    MemoryStatus × Option StagingAllocation × StagingLedger :=
  if hasOut = false ∨ size = 0 ∨ generation = 0 ∨ generation ≠ s.generation ∨ s.capacity = 0 ∨
      isPowerOfTwo alignment = false then
    (if generation ≠ s.generation ∧ generation ≠ 0 then .staleGeneration
      else .invalidArgument, none, s)
  else
    match s.scan size alignment 0 s.allocations with
    | none => (.outOfMemory, none, s)
    | some offset =>
      if s.nextId = 0 ∨ s.nextId = maximum then (.outOfMemory, none, s)
      else
        let allocation : StagingAllocation :=
          { id := s.nextId, generation := s.generation, offset, size, alignment }
        (.success, some allocation,
          { s with nextId := s.nextId + 1, allocations := s.place allocation,
                   activeBytes := s.activeBytes + size })

def release (a : StagingAllocation) : MemoryStatus × StagingLedger :=
  if a.generation = 0 ∨ a.generation ≠ s.generation then (.staleGeneration, s)
  else if a ∉ s.allocations then (.notFound, s)
  else (.success,
    { s with activeBytes := s.activeBytes - a.size, allocations := s.allocations.erase a })

end StagingLedger

/-- A call with its arguments. -/
inductive Call where
  | configure (profile : CapabilityProfile) (generation : UInt64)
  | allocate (size alignment generation : UInt64) (hasOut : Bool)
  | release (a : StagingAllocation)
deriving DecidableEq, Repr

def call (s : StagingLedger) : Call → StagingLedger
  | .configure profile generation => (s.configure profile generation).2
  | .allocate size alignment generation hasOut => (s.allocate size alignment generation hasOut).2.2
  | .release a => (s.release a).2

/-! ## 2. Words as numbers -/

theorem isPowerOfTwo_spec {value : UInt64} (h : isPowerOfTwo value = true) :
    ∃ k, value.toNat = 2 ^ k := by
  simp only [isPowerOfTwo, Bool.and_eq_true, decide_eq_true_eq] at h
  obtain ⟨hne, hand⟩ := h
  have hpos : value.toNat ≠ 0 := fun hzero => hne (UInt64.toNat_inj.1 hzero)
  have hone : 1 ≤ value := UInt64.le_iff_toNat_le.2 (Nat.one_le_iff_ne_zero.2 hpos)
  refine (Nat.and_sub_one_eq_zero_iff_isPowerOfTwo hpos).1 ?_
  have hnat := congrArg UInt64.toNat hand
  rwa [UInt64.toNat_and, UInt64.toNat_sub_of_le _ _ hone] at hnat

section Words

variable {alignment : UInt64}

section

variable (h : isPowerOfTwo alignment = true)

include h

theorem alignment_pos : 0 < alignment.toNat := by
  obtain ⟨k, hk⟩ := isPowerOfTwo_spec h
  rw [hk]
  exact Nat.two_pow_pos k

theorem remainder_eq (value : UInt64) :
    (value &&& (alignment - 1)).toNat = value.toNat % alignment.toNat := by
  have hone : 1 ≤ alignment := UInt64.le_iff_toNat_le.2 (alignment_pos h)
  obtain ⟨k, hk⟩ := isPowerOfTwo_spec h
  rw [UInt64.toNat_and, UInt64.toNat_sub_of_le _ _ hone, hk]
  exact Nat.and_two_pow_sub_one_eq_mod _ _

theorem roundUpWord_eq (value : UInt64) :
    (roundUpWord value alignment).map UInt64.toNat =
      if roundUp alignment.toNat value.toNat < 2 ^ 64 then some
      (roundUp alignment.toNat value.toNat)
      else none := by
  have hmod := remainder_eq h value
  have hlt := Nat.mod_lt value.toNat (alignment_pos h)
  have hincrement :
      (if value &&& (alignment - 1) = 0 then 0 else alignment - (value &&& (alignment - 1))).toNat =
        if value.toNat % alignment.toNat = 0 then 0
        else alignment.toNat - value.toNat % alignment.toNat := by
    have hzero : value &&& (alignment - 1) = 0 ↔ value.toNat % alignment.toNat = 0 := by
      rw [← hmod, ← UInt64.toNat_inj]
      rfl
    simp only [hzero]
    split
    · rfl
    · rw [UInt64.toNat_sub_of_le _ _ (UInt64.le_iff_toNat_le.2 (by omega)), hmod]
  unfold roundUpWord
  rw [if_neg (by simp [h])]
  dsimp only
  generalize (if value &&& (alignment - 1) = 0 then 0
    else alignment - (value &&& (alignment - 1))) =
    increment at hincrement ⊢
  rw [roundUp, ← hincrement]
  have hbelow := increment.toNat_lt
  have hroom : value > maximum - increment ↔ ¬ value.toNat + increment.toNat < 2 ^ 64 := by
    rw [gt_iff_lt, UInt64.lt_iff_toNat_lt, UInt64.toNat_sub_of_le _ _ (UInt64.le_iff_toNat_le.2
      (Nat.le_of_lt_succ hbelow))]
    change 2 ^ 64 - 1 - _ < _ ↔ _
    omega
  simp only [hroom]
  split_ifs with hfits
  · rw [Option.map_some, UInt64.toNat_add, Nat.mod_eq_of_lt hfits]
  · rfl

end

end Words

namespace StagingLedger

def span (a : StagingAllocation) : Nat × Nat := (a.offset.toNat, a.size.toNat)

variable {s : StagingLedger} {size alignment : UInt64}

theorem fit_eq (h : isPowerOfTwo alignment = true) (candidate : UInt64) :
    (s.fit size alignment candidate).map UInt64.toNat =
      if roundUp alignment.toNat candidate.toNat + size.toNat ≤ s.capacity.toNat then
        some (roundUp alignment.toNat candidate.toNat)
      else none := by
  have hcap := s.capacity.toNat_lt
  have hround := roundUpWord_eq h candidate
  unfold fit
  cases hword : roundUpWord candidate alignment with
  | none =>
    rw [hword, Option.map_none] at hround
    split_ifs at hround with hsmall
    rw [if_neg (by omega)]
    rfl
  | some rounded =>
    rw [hword, Option.map_some] at hround
    split_ifs at hround with hsmall
    rw [Option.some.injEq] at hround
    rw [← hround]
    have hroom : (rounded > s.capacity ∨ size > s.capacity - rounded) ↔
        ¬ rounded.toNat + size.toNat ≤ s.capacity.toNat := by
      by_cases hle : rounded ≤ s.capacity
      · have hsub := UInt64.toNat_sub_of_le _ _ hle
        rw [gt_iff_lt, gt_iff_lt, UInt64.lt_iff_toNat_lt, UInt64.lt_iff_toNat_lt]
        omega
      · rw [UInt64.le_iff_toNat_le] at hle
        refine iff_of_true (.inl (UInt64.lt_iff_toNat_lt.2 (by omega))) (by omega)
    simp only [hroom]
    split_ifs <;> rfl

/-- **The walk is first fit.** -/
theorem scan_eq (h : isPowerOfTwo alignment = true) : ∀ (rest : List StagingAllocation)
    (candidate : UInt64), Placed s.capacity.toNat candidate.toNat (rest.map span) →
    (s.scan size alignment candidate rest).map UInt64.toNat =
      firstFit alignment.toNat size.toNat s.capacity.toNat candidate.toNat (rest.map span)
  | [], candidate, _ => fit_eq h candidate
  | a :: rest, candidate, hplaced => by
    have hfit := @fit_eq s size alignment h candidate
    have hcap := s.capacity.toNat_lt
    have hend : a.offset.toNat + a.size.toNat ≤ s.capacity.toNat :=
      (hplaced.bounds (span a) mem_cons_self).2
    rw [scan, map_cons, firstFit]
    cases hfirst : s.fit size alignment candidate with
    | none =>
      rw [hfirst, Option.map_none] at hfit
      split_ifs at hfit with hroom
      rw [if_neg hroom]
      rfl
    | some rounded =>
      rw [hfirst, Option.map_some] at hfit
      split_ifs at hfit with hroom
      rw [Option.some.injEq] at hfit
      rw [if_pos hroom, ← hfit]
      rw [← hfit] at hroom
      have hsum : (rounded + size).toNat = rounded.toNat + size.toNat := by
        rw [UInt64.toNat_add, Nat.mod_eq_of_lt (by omega)]
      have hnext : (a.offset + a.size).toNat = a.offset.toNat + a.size.toNat := by
        rw [UInt64.toNat_add, Nat.mod_eq_of_lt (by omega)]
      have hbefore : rounded + size ≤ a.offset ↔ rounded.toNat + size.toNat ≤ (span a).1 := by
        rw [UInt64.le_iff_toNat_le, hsum]
        rfl
      have hnowrap : ¬ a.offset > maximum - a.size := by
        rw [gt_iff_lt, UInt64.lt_iff_toNat_lt, UInt64.toNat_sub_of_le _ _ (UInt64.le_iff_toNat_le.2
          (Nat.le_of_lt_succ a.size.toNat_lt))]
        change ¬ 2 ^ 64 - 1 - _ < _
        omega
      simp only [hbefore]
      split_ifs
      · -- rounding again changes nothing
        have hdvd : alignment.toNat ∣ rounded.toNat := by
          rw [hfit]
          exact dvd_roundUp (alignment_pos h)
        rw [fit_eq h, roundUp_of_dvd hdvd, if_pos hroom]
      · have ih := scan_eq h rest (a.offset + a.size) (by rw [hnext]; exact hplaced.2)
        rw [hnext] at ih
        exact ih

/-! ## 3. What the calls keep -/

/-- What is out lies in order within the capacity, at multiples of what was asked for. -/
structure Inv (s : StagingLedger) : Prop where
  placed : Placed s.capacity.toNat 0 (s.allocations.map span)
  nonempty : ∀ a ∈ s.allocations, 0 < a.size.toNat
  aligned : ∀ a ∈ s.allocations, a.alignment.toNat ∣ a.offset.toNat
  active : s.activeBytes.toNat = (s.allocations.map fun a => a.size.toNat).sum
  identified : s.nextId ≠ 0

/-- The arguments are ones that the ledger takes. -/
def ValidArguments (s : StagingLedger) (size alignment generation : UInt64) : Prop :=
  size ≠ 0 ∧ generation ≠ 0 ∧ generation = s.generation ∧ isPowerOfTwo alignment = true

/-- The offset is one at which a piece of this size and alignment may be handed out. -/
def Fits (s : StagingLedger) (size alignment : UInt64) (offset : Nat) : Prop :=
  alignment.toNat ∣ offset ∧ offset + size.toNat ≤ s.capacity.toNat ∧
    ∀ a ∈ s.allocations, offset + size.toNat ≤ a.offset.toNat ∨
    a.offset.toNat + a.size.toNat ≤ offset

theorem free_iff {offset : Nat} : Free size.toNat (s.allocations.map span) offset ↔
    ∀ a ∈ s.allocations, offset + size.toNat ≤ a.offset.toNat ∨
      a.offset.toNat + a.size.toNat ≤ offset := by
  simp [Free, span]

theorem scan_spec (hi : s.Inv) (h : isPowerOfTwo alignment = true) :
    (∀ offset, s.scan size alignment 0 s.allocations = some offset →
      IsLeast {o | s.Fits size alignment o} offset.toNat) ∧
    (s.scan size alignment 0 s.allocations = none → ∀ offset, ¬ s.Fits size alignment offset) := by
  have heq := @scan_eq s size alignment h s.allocations 0 hi.placed
  have hspec :=
    @firstFit_spec alignment.toNat size.toNat s.capacity.toNat (alignment_pos h) _ _ hi.placed
  simp only [Gap, Nat.zero_le, true_and, free_iff] at hspec
  refine ⟨fun offset hsome => ?_, fun hnone => ?_⟩
  · rw [hsome] at heq
    exact hspec.1 _ heq.symm
  · rw [hnone] at heq
    exact hspec.2 heq.symm

theorem place_perm (a : StagingAllocation) : (s.place a).Perm (a :: s.allocations) := by
  refine perm_middle.trans ?_
  rw [takeWhile_append_dropWhile]

theorem span_place (a : StagingAllocation) : (s.place a).map span =
    (s.allocations.map span).takeWhile (fun i => i.1 < a.offset.toNat) ++
      (a.offset.toNat, a.size.toNat) ::
        (s.allocations.map span).dropWhile fun i => i.1 < a.offset.toNat := by
  rw [place, map_append, takeWhile_map, dropWhile_map]
  rfl

theorem configure_inv (hi : s.Inv) (profile : CapabilityProfile) (generation : UInt64) :
    (s.configure profile generation).2.Inv := by
  unfold configure
  dsimp only
  split_ifs with _ _ hbusy
  · exact hi
  · exact hi
  · exact hi
  · -- nothing is out
    rw [not_not] at hbusy
    constructor <;> simp [hbusy, Placed]

/-- **What `allocate` does.**  It refuses and changes nothing, or it hands out what the walk found.
-/
theorem allocate_cases (s : StagingLedger) (size alignment generation : UInt64) (hasOut : Bool) :
    (∃ status, status ≠ .success ∧ s.allocate size alignment generation hasOut = (status, none, s) ∧
      (hasOut = true → ValidArguments s size alignment generation → s.nextId ≠ 0 →
      s.nextId ≠ maximum →
        s.capacity = 0 ∨ s.scan size alignment 0 s.allocations = none)) ∨
    ∃ a : StagingAllocation, a.size ≠ 0 ∧ isPowerOfTwo a.alignment = true ∧ s.nextId ≠ maximum ∧
      a.size = size ∧ a.alignment = alignment ∧
      s.scan size alignment 0 s.allocations = some a.offset ∧
      s.allocate size alignment generation hasOut = (.success, some a,
        { s with nextId := s.nextId + 1, allocations := s.place a,
                 activeBytes := s.activeBytes + size }) := by
  by_cases hinvalid : hasOut = false ∨ size = 0 ∨ generation = 0 ∨ generation ≠ s.generation ∨
      s.capacity = 0 ∨ isPowerOfTwo alignment = false
  · refine .inl ⟨_, ?_, by rw [allocate, if_pos hinvalid], fun hout hvalid _ _ => .inl ?_⟩
    · split <;> decide
    rcases hinvalid with h | h | h | h | h | h
    · exact absurd (h.symm.trans hout) (by decide)
    · exact absurd h hvalid.1
    · exact absurd h hvalid.2.1
    · exact absurd hvalid.2.2.1 h
    · exact h
    · exact absurd (h.symm.trans hvalid.2.2.2) (by decide)
  · rw [allocate, if_neg hinvalid]
    simp only [not_or, Bool.not_eq_false] at hinvalid
    cases s.scan size alignment 0 s.allocations with
    | none => exact .inl ⟨_, by decide, rfl, fun _ _ _ _ => .inr rfl⟩
    | some offset =>
      by_cases hids : s.nextId = 0 ∨ s.nextId = maximum
      · refine .inl ⟨.outOfMemory, by decide, if_pos hids, fun _ _ hzero hmax => ?_⟩
        exact absurd hids (by simp [hzero, hmax])
      · rw [not_or] at hids
        exact .inr ⟨{ id := s.nextId, generation := s.generation, offset, size, alignment },
          hinvalid.2.1, hinvalid.2.2.2.2.2, hids.2, rfl, rfl, rfl, if_neg (by simp [hids])⟩

theorem allocate_inv (hi : s.Inv) (generation : UInt64) (hasOut : Bool) :
    (s.allocate size alignment generation hasOut).2.2.Inv := by
  obtain ⟨_, -, hafter, -⟩ | ⟨a, hsize, hpower, hids, rfl, rfl, hscan, hafter⟩ :=
    s.allocate_cases size alignment generation hasOut
  · rw [hafter]
    exact hi
  obtain ⟨hdvd, hend, hfree⟩ := ((scan_spec hi hpower).1 _ hscan).1
  rw [hafter]
  have hperm := place_perm (s := s) a
  have hpos : 0 < a.size.toNat := Nat.pos_of_ne_zero fun hzero => hsize (UInt64.toNat_inj.1 hzero)
  have hplaced : Placed s.capacity.toNat 0 ((s.place a).map span) := by
    rw [span_place]
    refine hi.placed.insert (Nat.zero_le _) hend (free_iff.2 hfree) fun i hmem => ?_
    obtain ⟨b, hb, rfl⟩ := mem_map.1 hmem
    exact hi.nonempty b hb
  have hsum : ((s.place a).map fun b => b.size.toNat).sum =
      a.size.toNat + (s.allocations.map fun b => b.size.toNat).sum :=
    (hperm.map _).sum_eq
  refine ⟨hplaced, fun b hb => ?_, fun b hb => ?_, ?_, ?_⟩
  · rcases mem_cons.1 (hperm.subset hb) with rfl | hb
    · exact hpos
    · exact hi.nonempty b hb
  · rcases mem_cons.1 (hperm.subset hb) with rfl | hb
    · exact hdvd
    · exact hi.aligned b hb
  · -- the sum stays within the capacity, and so it does not wrap
    have htotal := hplaced.sum_le
    rw [map_map, show (Prod.snd ∘ span) = fun b => b.size.toNat from rfl] at htotal
    have hcap := s.capacity.toNat_lt
    have hact := hi.active
    rw [UInt64.toNat_add, hsum]
    omega
  · intro hzero
    refine hids (UInt64.toNat_inj.1 ?_)
    have hnat := congrArg UInt64.toNat hzero
    have hlt := s.nextId.toNat_lt
    change (s.nextId.toNat + 1) % 2 ^ 64 = 0 at hnat
    change s.nextId.toNat = 2 ^ 64 - 1
    omega

theorem release_inv (hi : s.Inv) (a : StagingAllocation) : (s.release a).2.Inv := by
  unfold release
  split_ifs with _ hout
  · exact hi
  · have hsub := erase_sublist (a := a) (l := s.allocations)
    have hsum : (s.allocations.map fun b => b.size.toNat).sum =
        a.size.toNat + ((s.allocations.erase a).map fun b => b.size.toNat).sum :=
      ((perm_cons_erase hout).map _).sum_eq
    refine ⟨hi.placed.sublist (hsub.map span), fun b hb => hi.nonempty b (hsub.subset hb),
      fun b hb => hi.aligned b (hsub.subset hb), ?_, hi.identified⟩
    have hact := hi.active
    change (s.activeBytes - a.size).toNat = ((s.allocations.erase a).map fun b => b.size.toNat).sum
    rw [UInt64.toNat_sub_of_le _ _ (UInt64.le_iff_toNat_le.2 (by omega))]
    omega
  · exact hi

end StagingLedger

theorem call_inv {s : StagingLedger} (hi : s.Inv) (c : Call) : (call s c).Inv := by
  cases c with
  | configure profile generation => exact StagingLedger.configure_inv hi profile generation
  | allocate _ _ generation hasOut => exact StagingLedger.allocate_inv hi generation hasOut
  | release a => exact StagingLedger.release_inv hi a

/-! ## 4. Over every run -/

/-- The pieces that are out. -/
structure Consistent (s : StagingLedger) : Prop where
  sorted : s.allocations.Pairwise fun a b => a.offset < b.offset
  disjoint : s.allocations.Pairwise fun a b =>
    a.offset.toNat + a.size.toNat ≤ b.offset.toNat ∨ b.offset.toNat + b.size.toNat ≤ a.offset.toNat
  aligned : ∀ a ∈ s.allocations, a.alignment.toNat ∣ a.offset.toNat
  inside : ∀ a ∈ s.allocations, a.offset.toNat + a.size.toNat ≤ s.capacity.toNat
  active : s.activeBytes.toNat = (s.allocations.map fun a => a.size.toNat).sum

theorem StagingLedger.Inv.consistent {s : StagingLedger} (hi : s.Inv) : Consistent s := by
  have hordered := pairwise_map.1 hi.placed.pairwise
  refine ⟨?_, hordered.imp .inl, hi.aligned, fun a ha => ?_, hi.active⟩
  · refine (pairwise_iff_forall_sublist.2 fun {a b} hsub => ?_)
    have hmem : a ∈ s.allocations := hsub.subset mem_cons_self
    have hpos := hi.nonempty a hmem
    have hle := pairwise_iff_forall_sublist.1 hordered hsub
    change a.offset.toNat + a.size.toNat ≤ b.offset.toNat at hle
    exact UInt64.lt_iff_toNat_lt.2 (by omega)
  · exact (hi.placed.bounds (StagingLedger.span a) (mem_map_of_mem ha)).2

/-- **The staging ledger over every run.**  What is out is in order, disjoint, aligned, inside and
accounted for; and while there are identities a valid request is met exactly if it can be, at the
lowest offset at which it can. -/
theorem staging_run (calls : List Call) :
    Consistent (run call {} calls) ∧
    ∀ size alignment generation, (run call {} calls).ValidArguments size alignment generation →
      (run call {} calls).nextId ≠ maximum →
      (((run call {} calls).allocate size alignment generation true).1 = .success ↔
        ∃ offset, (run call {} calls).Fits size alignment offset) ∧
      ∀ a, ((run call {} calls).allocate size alignment generation true).2.1 = some a →
        IsLeast {o | (run call {} calls).Fits size alignment o} a.offset.toNat ∧
          a.size = size ∧ a.alignment = alignment ∧
          a ∈ ((run call {} calls).allocate size alignment generation true).2.2.allocations := by
  have hi : (run call {} calls).Inv := by
    refine run_induction (P := StagingLedger.Inv) (fun s c hs => call_inv hs c) calls ?_
    constructor <;> simp [Placed]
  generalize run call {} calls = s at hi
  refine ⟨hi.consistent, fun size alignment generation hvalid hids => ?_⟩
  have hscan := @StagingLedger.scan_spec s size alignment hi hvalid.2.2.2
  obtain ⟨status, hstat, hcall, hwhy⟩ | ⟨a, -, -, -, rfl, rfl, hfound, hcall⟩ :=
    s.allocate_cases size alignment generation true
  · rw [hcall]
    refine ⟨iff_of_false hstat ?_, fun a hnone => by cases hnone⟩
    rintro ⟨offset, hfits⟩
    rcases hwhy rfl hvalid hi.identified hids with hempty | hnone
    · -- no room at all
      have hpos : size.toNat ≠ 0 := fun hzero => hvalid.1 (UInt64.toNat_inj.1 hzero)
      have hend := hfits.2.1
      rw [hempty] at hend
      change _ ≤ 0 at hend
      omega
    · exact hscan.2 hnone offset hfits
  · have hleast := hscan.1 _ hfound
    rw [hcall]
    refine ⟨iff_of_true rfl ⟨_, hleast.1⟩, fun b hb => ?_⟩
    cases hb
    exact ⟨hleast, rfl, rfl, (StagingLedger.place_perm a).mem_iff.2 mem_cons_self⟩

/-- A piece that came back is handed out again, before the one that is still out. -/
theorem staging_run_reuse :
    let calls : List Call :=
      [.configure ⟨0, 1, 64, 128⟩ 7, .allocate 8 8 7 true, .allocate 4 4 7 true,
        .release ⟨1, 7, 0, 8, 8⟩]
    (run call {} calls).ValidArguments 8 8 7 ∧ (run call {} calls).allocations = [⟨2, 7, 8, 4, 4⟩] ∧
      ((run call {} calls).allocate 8 8 7 true).1 = .success := by
  intro calls
  have hvalid : (run call {} calls).ValidArguments 8 8 7 := by
    unfold StagingLedger.ValidArguments
    decide +kernel
  refine ⟨hvalid, by decide +kernel, ?_⟩
  refine (((staging_run calls).2 8 8 7 hvalid (by decide +kernel)).1).2 ⟨0, ?_⟩
  unfold StagingLedger.Fits
  decide +kernel

end MetaFlux.Vulkan
