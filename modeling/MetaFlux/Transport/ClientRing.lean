/-
# The client's side of a ring

Submitting and consuming claim a position with a compare-and-exchange: the slot of the cursor is
looked at, and where it is neither free nor full the cursor is read again.  Nobody else writes
during a call here, so a cursor that is read again is the same one, and a slot that is AHEAD of it
is looked at for ever (`ring_returns_iff`).  In a ring that only these calls have written no slot
is, and a batch is as good as its descriptors one by one (`batch_submits_each`).

A weak exchange that fails for no reason repeats the look, and is left out.
-/
import MetaFlux.Transport.Ring

namespace MetaFlux.Transport

/-! ## 1. The ring and its calls -/

structure RingDescriptor where
  sequence : UInt64 := 0
  opcode : UInt32 := 0
  flags : UInt32 := 0
  requestId : UInt64 := 0
  targetId : UInt64 := 0
  arguments : Vector UInt64 4 := .replicate 4 0
deriving DecidableEq

structure WaitControl where
  waitState : UInt32 := 0
  wakeSequence : UInt32 := 0
  doorbellCount : UInt64 := 0
deriving DecidableEq

/-- A ring as its handle has it: the capacity is the handle's, the rest is shared. -/
structure ClientRing where
  capacity : UInt32
  producer : UInt64 := 0
  consumer : UInt64 := 0
  consumerWait : WaitControl := {}
  producerWait : WaitControl := {}
  slots : UInt64 → RingDescriptor

def WaitControl.wake (wait : WaitControl) : WaitControl :=
  if wait.waitState = 0 then wait
  else { wait with wakeSequence := wait.wakeSequence + 1, doorbellCount := wait.doorbellCount + 1 }

/-- What a slot is to a position: the sequence is compared modulo `2 ^ 64`, as a signed difference.
-/
inductive SlotTurn where
  | free | full | ahead
deriving DecidableEq

def slotTurn (sequence expected : UInt64) : SlotTurn :=
  if sequence = expected then .free
  else if sequence - expected > 0xffffffffffffffff / 2 then .full
  else .ahead

/-- The loop that the three calls share.  The cursor is the shared word, and the position the local
one; `none` is that the fuel has run out, and `some none` that there is no room. -/
def claimPosition (cursor : UInt64) (look : UInt64 → SlotTurn) :
    Nat → UInt64 → Option (Option UInt64)
  | 0, _ => none
  | fuel + 1, position =>
    match look position with
    | .free =>
      if cursor = position then some (some position) else claimPosition cursor look fuel cursor
    | .full => some none
    | .ahead => claimPosition cursor look fuel cursor

namespace ClientRing

variable (ring : ClientRing)

def handleValid : Bool :=
  2 ≤ ring.capacity && ring.capacity ≤ 0x40000000 && ring.capacity &&& (ring.capacity - 1) == 0

def mask : UInt64 := (ring.capacity - 1).toUInt64

def slotAt (position : UInt64) : RingDescriptor :=
  ring.slots (position &&& ring.mask)

/-- The slots that a batch needs, up to the first that is not free. -/
def probe (ring : ClientRing) : UInt64 → Nat → SlotTurn
  | _, 0 => .free
  | candidate, count + 1 =>
    match slotTurn (ring.slotAt candidate).sequence candidate with
    | .free => ring.probe (candidate + 1) count
    | other => other

def storeDescriptors (mask : UInt64) :
    (UInt64 → RingDescriptor) → UInt64 → List RingDescriptor → UInt64 → RingDescriptor
  | slots, _, [] => slots
  | slots, position, descriptor :: rest =>
    storeDescriptors mask
      (Function.update slots (position &&& mask) { descriptor with sequence := position + 1 })
      (position + 1) rest

/-- The positions from the claimed one on are published, and a consumer that waits is woken. -/
def publish (descriptors : List RingDescriptor) :
    Option UInt64 → SharedStatus × ClientRing
  | none => (.wouldBlock, ring)
  | some position =>
    (.success, { ring with
      producer := position + .ofNat descriptors.length
      slots := storeDescriptors ring.mask ring.slots position descriptors
      consumerWait := ring.consumerWait.wake })

def trySubmit (fuel : Nat) (ring : ClientRing) (descriptor : RingDescriptor) :
    Option (SharedStatus × ClientRing) :=
  if ring.handleValid = false then some (.invalidArgument, ring)
  else
    (claimPosition ring.producer (fun position => slotTurn (ring.slotAt position).sequence position)
      fuel ring.producer).map (ring.publish [descriptor])

def trySubmitBatch (fuel : Nat) (ring : ClientRing) (descriptors : List RingDescriptor) :
    Option (SharedStatus × ClientRing) :=
  if ring.handleValid = false ∨ descriptors = [] then some (.invalidArgument, ring)
  else if descriptors.length > ring.capacity.toNat then some (.wouldBlock, ring)
  else
    (claimPosition ring.producer (ring.probe · descriptors.length) fuel ring.producer).map
      (ring.publish descriptors)

def tryConsume (fuel : Nat) (ring : ClientRing) :
    Option ((SharedStatus × Option RingDescriptor) × ClientRing) :=
  if ring.handleValid = false then some ((.invalidArgument, none), ring)
  else
    (claimPosition ring.consumer
      (fun position => slotTurn (ring.slotAt position).sequence (position + 1)) fuel
      ring.consumer).map
      fun
        | none => ((.wouldBlock, none), ring)
        | some position =>
          ((.success, some { ring.slotAt position with sequence := position }),
            { ring with
              consumer := position + 1
              slots := Function.update ring.slots (position &&& ring.mask)
                { ring.slotAt position with sequence := position + ring.capacity.toUInt64 }
              producerWait := ring.producerWait.wake })

end ClientRing

/-! ## 2. When a call returns -/

variable {cursor : UInt64} {look : UInt64 → SlotTurn}

theorem claimPosition_ahead (h : look cursor = .ahead) (fuel : Nat) :
    claimPosition cursor look fuel cursor = none := by
  induction fuel with
  | zero => rfl
  | succ fuel ih => simp [claimPosition, h, ih]

/-- The first look decides. -/
theorem claimPosition_decided (h : look cursor ≠ .ahead) (fuel : Nat) :
    claimPosition cursor look (fuel + 1) cursor =
      some (if look cursor = .free then some cursor else none) := by
  cases hlook : look cursor <;> simp_all [claimPosition]

theorem claimPosition_returns {α : Type} {f : Option UInt64 → α} :
    (∃ fuel, ((claimPosition cursor look fuel cursor).map f).isSome = true) ↔
    look cursor ≠ .ahead := by
  refine ⟨?_, fun h => ⟨1, by simp [claimPosition_decided h]⟩⟩
  rintro ⟨fuel, hsome⟩ hahead
  simp [claimPosition_ahead hahead] at hsome

namespace ClientRing

open Function

variable {ring : ClientRing} {count : Nat}

/-- **A call returns if and only if the slot it stops at is not ahead of it.**  A handle that is not
valid, and a batch that is empty or too large, are answered at once. -/
theorem ring_returns_iff (ring : ClientRing) :
    (∀ descriptor, (∃ fuel, (ring.trySubmit fuel descriptor).isSome = true) ↔
      (ring.handleValid = true →
        slotTurn (ring.slotAt ring.producer).sequence ring.producer ≠ .ahead)) ∧
    (∀ descriptors, (∃ fuel, (ring.trySubmitBatch fuel descriptors).isSome = true) ↔
      (ring.handleValid = true → descriptors.length ≤ ring.capacity.toNat →
        ring.probe ring.producer descriptors.length ≠ .ahead)) ∧
    ((∃ fuel, (ring.tryConsume fuel).isSome = true) ↔
      (ring.handleValid = true →
        slotTurn (ring.slotAt ring.consumer).sequence (ring.consumer + 1) ≠ .ahead)) := by
  refine ⟨fun descriptor => ?_, fun descriptors => ?_, ?_⟩
  · unfold trySubmit
    split_ifs with hvalid
    · simp [hvalid]
    · rw [claimPosition_returns]
      simp [hvalid]
  · unfold trySubmitBatch
    split_ifs with hargs hlarge
    · rcases hargs with hvalid | rfl
      · simp [hvalid]
      · simp [probe]
    · simp [not_le.2 hlarge]
    · rw [claimPosition_returns]
      simp [not_or.1 hargs, not_lt.1 hlarge]
  · unfold tryConsume
    split_ifs with hvalid
    · simp [hvalid]
    · rw [claimPosition_returns]
      simp [hvalid]

/-- **A peer that writes the sequence of a later round** into the slot of the cursor: no submit, no
batch and no consume comes back. -/
theorem ahead_never_returns :
    let ring : ClientRing := { capacity := 2, slots := fun _ => { sequence := 2 } }
    ∀ fuel, ring.trySubmit fuel {} = none ∧ ring.trySubmitBatch fuel [{}] = none ∧
      ring.tryConsume fuel = none := by
  intro ring fuel
  refine ⟨?_, ?_, ?_⟩
  · rw [trySubmit, if_neg (by decide), claimPosition_ahead (by decide)]
    rfl
  · rw [trySubmitBatch, if_neg (by decide), claimPosition_ahead (by decide)]
    rfl
  · rw [tryConsume, if_neg (by decide), claimPosition_ahead (by decide)]
    rfl

/-! ## 3. Rings that whole calls have written -/

def created (capacity : UInt32) : ClientRing :=
  { capacity, slots := fun index => { sequence := index } }

inductive RingCall where
  | submit (descriptor : RingDescriptor)
  | submitBatch (descriptors : List RingDescriptor)
  | consume

def RingCall.run (fuel : Nat) (ring : ClientRing) : RingCall → Option ClientRing
  | .submit descriptor => (ring.trySubmit fuel descriptor).map Prod.snd
  | .submitBatch descriptors => (ring.trySubmitBatch fuel descriptors).map Prod.snd
  | .consume => (ring.tryConsume fuel).map Prod.snd

/-- A call that returns has looked once at least. -/
inductive Reached : ClientRing → Prop
  | created {capacity : UInt32} (h : (created capacity).handleValid = true) :
    Reached (created capacity)
  | call {ring ring' : ClientRing} {fuel : Nat} (call : RingCall) (h : Reached ring)
    (hcall : call.run (fuel + 1) ring = some ring') : Reached ring'

/-- Positions are counted from the consumer's. -/
def position (ring : ClientRing) (i : Nat) : UInt64 := ring.consumer + .ofNat i

/-- So many slots are filled, and the rest of the round is free. -/
structure Filled (ring : ClientRing) (count : Nat) : Prop where
  valid : ring.handleValid = true
  unwatched : ring.consumerWait.waitState = 0
  producer : ring.producer = ring.position count
  le : count ≤ ring.capacity.toNat
  sequence : ∀ i < ring.capacity.toNat, (ring.slotAt (ring.position i)).sequence =
    ring.position (if i < count then i + 1 else i)

theorem position_succ (i : Nat) : ring.position (i + 1) = ring.position i + 1 := by
  rw [position, UInt64.ofNat_add, ← UInt64.add_assoc]
  rfl

theorem position_zero : ring.position 0 = ring.consumer :=
  UInt64.add_zero _

/-- A position is behind those after it. -/
theorem slotTurn_full {i j : Nat} (hij : i < j) (hj : j ≤ 2 ^ 30) :
    slotTurn (ring.position i) (ring.position j) = .full := by
  have hdiff : (ring.position i - ring.position j).toNat = 2 ^ 64 + i - j := by
    simp only [position, UInt64.toNat_sub, UInt64.toNat_add, UInt64.toNat_ofNat']
    omega
  rw [slotTurn, if_neg, if_pos]
  · rw [gt_iff_lt, UInt64.lt_iff_toNat_lt]
    change 0x7fffffffffffffff < _
    omega
  · intro heq
    rw [heq, UInt64.sub_self, UInt64.toNat_zero] at hdiff
    omega

section Index

variable (h : ring.handleValid = true)

include h

theorem capacity_bounds : 2 ≤ ring.capacity.toNat ∧ ring.capacity.toNat ≤ 2 ^ 30 := by
  simp only [handleValid, Bool.and_eq_true, decide_eq_true_eq] at h
  exact h.1

theorem and_mask (i : Nat) :
    (ring.position i &&& ring.mask).toNat = (ring.consumer.toNat + i) % ring.capacity.toNat := by
  obtain ⟨hlow, hhigh⟩ := capacity_bounds h
  have hpred : (ring.capacity - 1).toNat = ring.capacity.toNat - 1 :=
    UInt32.toNat_sub_of_le _ _ (UInt32.le_iff_toNat_le.2 (by simp; omega))
  simp only [handleValid, Bool.and_eq_true, beq_iff_eq] at h
  have hand := congrArg UInt32.toNat h.2
  rw [UInt32.toNat_and, hpred] at hand
  obtain ⟨k, hk⟩ := (Nat.and_sub_one_eq_zero_iff_isPowerOfTwo (by omega)).1 hand
  have hle : k ≤ 30 := (Nat.pow_le_pow_iff_right (by decide)).1 (hk ▸ hhigh)
  have hdvd : 2 ^ k ∣ 2 ^ 64 := Nat.pow_dvd_pow 2 (by omega)
  rw [position, UInt64.toNat_and, mask, UInt32.toNat_toUInt64, hpred, hk,
    Nat.and_two_pow_sub_one_eq_mod,
    UInt64.toNat_add, UInt64.toNat_ofNat', Nat.mod_mod_of_dvd _ hdvd, Nat.add_mod,
    Nat.mod_mod_of_dvd _ hdvd, ← Nat.add_mod]

/-- A round has as many slots as positions, and the next one has the same. -/
theorem index_eq_iff {i j : Nat} :
    ring.position i &&& ring.mask = ring.position j &&& ring.mask ↔
    i ≡ j [MOD ring.capacity.toNat] := by
  rw [← UInt64.toNat_inj, and_mask h, and_mask h]
  exact ⟨Nat.ModEq.add_left_cancel' _, Nat.ModEq.add_left _⟩

theorem index_round :
    ring.position ring.capacity.toNat &&& ring.mask = ring.position 0 &&& ring.mask :=
  (index_eq_iff h).2 (Nat.modEq_zero_iff_dvd.2 (Nat.dvd_refl _))

/-- One descriptor is the least batch. -/
theorem trySubmit_eq (fuel : Nat) (descriptor : RingDescriptor) :
    ring.trySubmit fuel descriptor = ring.trySubmitBatch fuel [descriptor] := by
  have hprobe : (ring.probe · 1) =
      fun position => slotTurn (ring.slotAt position).sequence position := by
    funext position
    unfold probe
    split
    · next hfree => exact hfree.symm
    · rfl
  have hfits : ¬ ring.capacity.toNat < 1 := by
    have := (capacity_bounds h).1
    omega
  simp [trySubmit, trySubmitBatch, hprobe, hfits]

end Index

namespace Filled

variable (h : Filled ring count)

include h

/-- The slot of a position within the round, and the one after it. -/
theorem turn {i : Nat} (hi : count ≤ i) (hle : i ≤ ring.capacity.toNat)
    (hend : i = ring.capacity.toNat → 0 < count) :
    slotTurn (ring.slotAt (ring.position i)).sequence (ring.position i) =
      if i < ring.capacity.toNat then .free else .full := by
  split_ifs with hlt
  · rw [h.sequence i hlt, if_neg (not_lt.2 hi)]
    exact if_pos rfl
  -- the round is over: this is the consumer's slot, which is filled
  obtain rfl : i = ring.capacity.toNat := le_antisymm hle (Nat.le_of_not_lt hlt)
  obtain ⟨hlow, hhigh⟩ := capacity_bounds h.valid
  rw [slotAt, index_round h.valid]
  exact (congrArg (slotTurn · _)
    ((h.sequence 0 (by omega)).trans (by rw [if_pos (hend rfl)]))).trans
    (slotTurn_full hlow hhigh)

theorem submit (descriptor : RingDescriptor) (hlt : count < ring.capacity.toNat) :
    Filled (ring.publish [descriptor] (some ring.producer)).2 (count + 1) where
  valid := h.valid
  unwatched := by simp [publish, WaitControl.wake, h.unwatched]
  producer := by
    rw [h.producer]
    exact (position_succ count).symm
  le := hlt
  sequence i hi := by
    change (update ring.slots (ring.producer &&& ring.mask) _
      (ring.position i &&& ring.mask)).sequence = ring.position _
    rw [h.producer]
    by_cases heq : i = count
    · subst heq
      rw [update_self, if_pos (Nat.lt_succ_self i), position_succ]
    · rw [update_of_ne fun h' => heq (((index_eq_iff h.valid).1 h').eq_of_lt_of_lt hi hlt)]
      exact (h.sequence i hi).trans (by simp only [Nat.lt_succ_iff_lt_or_eq, heq, or_false])

theorem consume (hpos : 0 < count) :
    Filled { ring with
      consumer := ring.consumer + 1
      slots := update ring.slots (ring.consumer &&& ring.mask)
        { ring.slotAt ring.consumer with sequence := ring.consumer + ring.capacity.toUInt64 }
      producerWait := ring.producerWait.wake } (count - 1) := by
  have hnext : ∀ i, ring.consumer + 1 + .ofNat i = ring.position (i + 1) := fun i => by
    rw [position_succ, position, UInt64.add_assoc, UInt64.add_comm 1, UInt64.add_assoc]
  refine ⟨h.valid, h.unwatched, ?_, (Nat.sub_le _ _).trans h.le, fun i hi => ?_⟩
  · rw [position, hnext, Nat.sub_add_cancel hpos]
    exact h.producer
  change (update ring.slots _ _ ((ring.consumer + 1 + .ofNat i) &&& ring.mask)).sequence =
    ring.consumer + 1 + .ofNat _
  replace hi : i < ring.capacity.toNat := hi
  rw [hnext, hnext, ← position_zero]
  by_cases hlast : i + 1 = ring.capacity.toNat
  · rw [hlast, index_round h.valid, update_self, if_neg (by have := h.le; omega), hlast,
      position_zero]
    exact congrArg (ring.consumer + ·) (UInt64.ofNat_uInt32ToNat _).symm
  · rw [update_of_ne fun h' => by
      have := ((index_eq_iff h.valid).1 h').eq_of_lt_of_lt (by omega) (by omega)
      omega]
    refine (h.sequence (i + 1) (by omega)).trans (congrArg _ ?_)
    split_ifs <;> omega

theorem probe_eq (n : Nat) : ∀ {i : Nat}, count ≤ i → i ≤ ring.capacity.toNat →
    (ring.capacity.toNat < i + n → 0 < count) →
    ring.probe (ring.position i) n = if i + n ≤ ring.capacity.toNat then .free else .full := by
  induction n with
  | zero => exact fun _ hle _ => (if_pos hle).symm
  | succ n ih =>
    intro i hi hle hend
    rw [probe, h.turn hi hle (by omega), ← position_succ, Nat.add_comm n, ← Nat.add_assoc]
    split_ifs with hlt hn hn
    · exact (ih (by omega) hlt (by omega)).trans (if_pos hn)
    · exact (ih (by omega) hlt (by omega)).trans (if_neg hn)
    · omega
    · rfl

theorem trySubmitBatch_eq (fuel : Nat) {descriptors : List RingDescriptor} (hne : descriptors ≠ [])
    (hle : descriptors.length ≤ ring.capacity.toNat) :
    ring.trySubmitBatch (fuel + 1) descriptors = some (ring.publish descriptors
      (if count + descriptors.length ≤ ring.capacity.toNat then some ring.producer else none)) := by
  have hprobe := h.probe_eq descriptors.length (Nat.le_refl count) h.le (by omega)
  rw [← h.producer] at hprobe
  rw [trySubmitBatch, if_neg (by simp [h.valid, hne]), if_neg (not_lt.2 hle),
    claimPosition_decided (by rw [hprobe]; split_ifs <;> decide)]
  split_ifs <;> simp_all

end Filled

/-- One call after the other, each of which succeeds. -/
def submitEach (fuel : Nat) : ClientRing → List RingDescriptor → Option ClientRing
  | ring, [] => some ring
  | ring, descriptor :: rest =>
    match ring.trySubmit fuel descriptor with
    | some (.success, ring') => submitEach fuel ring' rest
    | _ => none

theorem submitEach_eq (fuel : Nat) (descriptors : List RingDescriptor) :
    ∀ {ring : ClientRing} {count : Nat}, Filled ring count →
      count + descriptors.length ≤ ring.capacity.toNat →
      submitEach (fuel + 1) ring descriptors =
      some (ring.publish descriptors (some ring.producer)).2 ∧
        Filled (ring.publish descriptors (some ring.producer)).2 (count + descriptors.length) := by
  induction descriptors with
  | nil =>
    intro ring count h _
    have hsame : (ring.publish [] (some ring.producer)).2 = ring := by
      simp [publish, storeDescriptors, WaitControl.wake, h.unwatched]
    rw [hsame]
    exact ⟨rfl, h⟩
  | cons descriptor rest ih =>
    intro ring count h hle
    rw [List.length_cons, Nat.add_comm rest.length, ← Nat.add_assoc] at hle ⊢
    obtain ⟨heach, hfilled⟩ := ih (h.submit descriptor (by omega)) hle
    have hall : ((ring.publish [descriptor] (some ring.producer)).2.publish rest
        (some (ring.publish [descriptor] (some ring.producer)).2.producer)).2 =
          (ring.publish (descriptor :: rest) (some ring.producer)).2 := by
      simp [publish, storeDescriptors, WaitControl.wake, h.unwatched, mask, UInt64.add_assoc,
        UInt64.add_comm 1]
    rw [hall] at heach hfilled
    rw [submitEach, trySubmit_eq h.valid, h.trySubmitBatch_eq fuel (by simp) (by simp; omega),
      if_pos (by simp; omega)]
    exact ⟨heach, hfilled⟩

theorem Filled.call {ring' : ClientRing} {fuel : Nat} (h : Filled ring count) (call : RingCall)
    (hcall : call.run (fuel + 1) ring = some ring') : ∃ count', Filled ring' count' := by
  have hbatch :
      ∀ descriptors, (ring.trySubmitBatch (fuel + 1) descriptors).map Prod.snd = some ring' →
      ∃ count', Filled ring' count' := by
    intro descriptors hcall
    by_cases hargs : descriptors = [] ∨ ring.capacity.toNat < descriptors.length
    · refine ⟨count, ?_⟩
      rw [trySubmitBatch] at hcall
      split_ifs at hcall
      all_goals first | exact Option.some.inj hcall ▸ h | skip
      simp_all
    · obtain ⟨hne, hle⟩ := not_or.1 hargs
      rw [h.trySubmitBatch_eq fuel hne (not_lt.1 hle)] at hcall
      obtain rfl := Option.some.inj hcall
      split_ifs with hfits
      · exact ⟨_, (submitEach_eq 0 descriptors h hfits).2⟩
      · exact ⟨count, h⟩
  cases call with
  | submit descriptor => exact hbatch [descriptor] (trySubmit_eq h.valid .. ▸ hcall)
  | submitBatch descriptors => exact hbatch descriptors hcall
  | consume =>
    have hfirst := h.sequence 0 (by have := (capacity_bounds h.valid).1; omega)
    have hturn : slotTurn (ring.slotAt ring.consumer).sequence (ring.consumer + 1) =
        if 0 < count then .free else .full := by
      rw [position_zero] at hfirst
      rw [hfirst, ← position_zero, ← position_succ]
      split_ifs
      · exact if_pos rfl
      · exact slotTurn_full Nat.zero_lt_one (by decide)
    rw [RingCall.run, tryConsume, if_neg (by simp [h.valid]),
      claimPosition_decided (by rw [hturn]; split_ifs <;> decide), hturn] at hcall
    obtain rfl := Option.some.inj hcall
    by_cases hpos : 0 < count
    · simp only [hpos]
      exact ⟨_, h.consume hpos⟩
    · simp only [hpos]
      exact ⟨count, h⟩

theorem Reached.filled (h : Reached ring) : ∃ count, Filled ring count := by
  induction h with
  | created hvalid =>
    refine ⟨0, hvalid, rfl, rfl, Nat.zero_le _, fun i hi => ?_⟩
    have hindex := and_mask hvalid i
    rw [show (ClientRing.created _).consumer = 0 from rfl, UInt64.toNat_zero, Nat.zero_add,
      Nat.mod_eq_of_lt hi] at hindex
    refine UInt64.toNat_inj.1 (hindex.trans ?_)
    have hmax := (capacity_bounds hvalid).2
    simp [ClientRing.created, position]
    omega
  | call call _ hcall ih =>
    obtain ⟨count, h⟩ := ih
    exact h.call call hcall

/-- The slots that hold nothing. -/
def room (ring : ClientRing) : Nat := ring.capacity.toNat - (ring.producer - ring.consumer).toNat

/-- **A batch is its descriptors one by one**, if there is room for all of them, and otherwise
leaves the ring as it is. -/
theorem batch_submits_each (h : Reached ring) {descriptors : List RingDescriptor}
    (hne : descriptors ≠ []) (hle : descriptors.length ≤ ring.capacity.toNat) (fuel : Nat) :
    (descriptors.length ≤ ring.room → ∃ ring',
      ring.trySubmitBatch (fuel + 1) descriptors = some (.success, ring') ∧
        submitEach (fuel + 1) ring descriptors = some ring') ∧
    (ring.room < descriptors.length →
      ring.trySubmitBatch (fuel + 1) descriptors = some (.wouldBlock, ring)) := by
  obtain ⟨count, h⟩ := h.filled
  have hcount := h.le
  have hroom : ring.room = ring.capacity.toNat - count := by
    have hmax := (capacity_bounds h.valid).2
    rw [room, h.producer, position, UInt64.add_comm, UInt64.add_sub_cancel, UInt64.toNat_ofNat',
      Nat.mod_eq_of_lt (by omega)]
  rw [h.trySubmitBatch_eq fuel hne hle]
  refine ⟨fun hfits => ?_, fun hfull => ?_⟩
  · exact ⟨_, by rw [if_pos (by omega)]; rfl, (submitEach_eq fuel descriptors h (by omega)).1⟩
  · rw [if_neg (by omega)]
    rfl

/-- A batch that fills a new ring. -/
theorem batch_submits_each_new :
    ∃ ring', (created 2).trySubmitBatch 1 [{}, {}] = some (.success, ring') ∧
      submitEach 1 (created 2) [{}, {}] = some ring' :=
  (batch_submits_each (.created (by decide)) (by decide) (by decide) 0).1 (by decide)

end ClientRing

end MetaFlux.Transport
