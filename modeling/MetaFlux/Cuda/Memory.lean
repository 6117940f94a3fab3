/-
# Device memory

An allocation chooses the record it will use, and sees that there is room for the address, BEFORE it
asks the daemon; a release finds its record before it waits for the work that uses it.  While a call
waits the driver's lock is free (`mf_cuda_wait_ring_locked`), and other calls run.

* §1 is the code, cut where the lock can be let go: a call under way is a `Call` of its thread.
* §2 is the invariant, and what a step has to meet for it to be kept (`MemoryMove.Clear`): that no
  other call has chosen the same record, and that there is room when the address is taken.
* §3: then allocations are exact (`allocations_exact`).  The check of the room can pass a range that
  ends beyond the addresses, and two allocations that wait at one time would take the same record,
  so that what the first was given is lost (`allocation_lost`).

How a wait ends is a parameter of the step after it; `Cuda/Waits.lean` has the waits themselves.  A
daemon's object has an id of its own, as `server.cpp` numbers them.
-/
import MetaFlux.Base.Calls
import MetaFlux.Cuda.Handles

open Function

namespace MetaFlux.Cuda

open Base List

/-! ## 1. The calls, cut where they wait -/

def addressBase : Nat := 0x10000000
def addressGuard : Nat := 4096

structure Memory where
  active : Bool := false
  remote : Nat := 0
  address : Nat := 0
  size : Nat := 0
  ownerContext : Nat := 0
deriving DecidableEq, Repr

/-- A call that waits.  A release is a call of its own, or that of a context's destruction. -/
inductive Call where
  | allocating (slot bytes context : Nat)
  | cleaning (remote : Nat)
  | draining (slot : Nat) (destroys : Option Nat)
  | submitting (slot remote : Nat) (destroys : Option Nat)
  | clearing (context : Nat)
deriving DecidableEq, Repr

/-- What a successful allocation has returned, and what the daemon had returned to it. -/
structure Grant where
  address : Nat
  bytes : Nat
  remote : Nat
deriving DecidableEq, Repr

/-- `nextId` is the daemon's counter; `freed` and `refused` are the FREE commands it has answered.
-/
structure Heap where
  memories : Nat → Memory := fun _ => {}
  contexts : Nat → Bool := fun _ => false
  nextAddress : Nat := addressBase
  calls : Nat → Option Call := fun _ => none
  nextId : Nat := 1
  grants : List Grant := []
  freed : List Nat := []
  refused : List Nat := []

/-- The size, up to the next 256; the call has refused sizes for which that would wrap. -/
def alignedBytes (bytes : Nat) : Nat := (bytes + 255) / 256 * 256

/-- The check of the room, in 64 bits: what is left is computed without regard to its sign. -/
def hasRoom (nextAddress bytes : Nat) : Bool :=
  nextAddress ≤ (2 ^ 64 - 1 - alignedBytes bytes + (2 ^ 64 - addressGuard)) % 2 ^ 64

namespace Heap

variable (d : Heap)

def freeSlot : Option Nat :=
  (List.range objectCapacity).find? fun slot => !(d.memories slot).active

/-- The record that has the range, and how far into it the address is. -/
def memoryAt (address bytes : Nat) : Option (Nat × Nat) :=
  ((List.range objectCapacity).find? fun slot =>
    (d.memories slot).active && (d.memories slot).address ≤ address &&
      address - (d.memories slot).address ≤ (d.memories slot).size &&
      bytes ≤ (d.memories slot).size - (address - (d.memories slot).address)).map
    fun slot => (slot, address - (d.memories slot).address)

def setCall (thread : Nat) (call : Option Call) : Heap :=
  { d with calls := update d.calls thread call }

/-- `cuMemAlloc_v2`, up to its command. -/
def allocBegin (thread context bytes : Nat) : Heap :=
  if d.calls thread ≠ none ∨ bytes = 0 ∨ 2 ^ 64 - 1 - 255 < bytes ∨
    d.contexts context = false then d
  else
    match d.freeSlot with
    | none => d
    | some slot =>
      if hasRoom d.nextAddress bytes then d.setCall thread (some (.allocating slot bytes context))
      else d

/-- The daemon's answer to ALLOC: `returns` is that it names an object, `succeeds` that the command
succeeded, and `activates` that the registry makes the record's handle.  An object that ends in no
record is given back. -/
def allocEnd (thread : Nat) (returns succeeds activates : Bool) : Heap :=
  match d.calls thread with
  | some (.allocating slot bytes context) =>
    if returns = false then d.setCall thread none
    else if succeeds && activates then
      { d with
        nextId := d.nextId + 1
        memories := update d.memories slot
          ⟨true, d.nextId, d.nextAddress, bytes, context⟩
        nextAddress := (d.nextAddress + alignedBytes bytes + addressGuard) % 2 ^ 64
        grants := d.grants ++ [⟨d.nextAddress, bytes, d.nextId⟩]
        calls := update d.calls thread none }
    else
      -- a handle that was not made leaves the record inactive, whoever has made it active
      { d with
        nextId := d.nextId + 1
        memories :=
          if succeeds then
            update d.memories slot
              { d.memories slot with active := false, ownerContext := context }
          else d.memories
        calls := update d.calls thread (some (.cleaning d.nextId)) }
  | _ => d

/-- The FREE command of an object that ended in no record. -/
def cleanupEnd (thread : Nat) (accepted : Bool) : Heap :=
  match d.calls thread with
  | some (.cleaning remote) =>
    if accepted then { d.setCall thread none with freed := d.freed ++ [remote] }
    else { d.setCall thread none with refused := d.refused ++ [remote] }
  | _ => d

/-- `cuMemFree_v2`, up to the wait for the work that uses the memory. -/
def freeBegin (thread context address : Nat) (validates : Bool) : Heap :=
  if d.calls thread ≠ none ∨ address = 0 ∨ d.contexts context = false ∨ validates = false then d
  else
    match d.memoryAt address 0 with
    | none => d
    | some (slot, offset) =>
      if (d.memories slot).ownerContext ≠ context ∨ offset ≠ 0 then d
      else d.setCall thread (some (.draining slot none))

/-- The work has ended, or that failed; the command takes the object from the record. -/
def drained (thread : Nat) (succeeds : Bool) : Heap :=
  match d.calls thread with
  | some (.draining slot destroys) =>
    if succeeds then
      d.setCall thread (some (.submitting slot (d.memories slot).remote destroys))
    else d.setCall thread none
  | _ => d

def nextChild (context start : Nat) : Option Nat :=
  (List.range objectCapacity).find? fun slot =>
    decide (start ≤ slot) && (d.memories slot).active && (d.memories slot).ownerContext == context

/-- A context's destruction goes on with its next memory, or ends with the context. -/
def scan (thread context start : Nat) (releases : Bool) : Heap :=
  match d.nextChild context start with
  | some slot => d.setCall thread (some (.draining slot (some context)))
  | none =>
    if releases then
      { d.setCall thread none with contexts := update d.contexts context false }
    else d.setCall thread none

/-- The daemon's answer to FREE. -/
def freeEnd (thread : Nat) (accepted releases : Bool) : Heap :=
  match d.calls thread with
  | some (.submitting slot remote destroys) =>
    if accepted then
      let d' : Heap :=
        { d.setCall thread none with
          freed := d.freed ++ [remote]
          memories := update d.memories slot { d.memories slot with active := false } }
      match destroys with
      | none => d'
      | some context => d'.scan thread context (slot + 1) releases
    else { d.setCall thread none with refused := d.refused ++ [remote] }
  | _ => d

def createContext (activates : Bool) : Heap :=
  match (List.range objectCapacity).find? fun context => !d.contexts context with
  | none => d
  | some context =>
    if activates then { d with contexts := update d.contexts context true } else d

/-- A destruction waits for the context's work, and for that of its modules. -/
def destroyBegin (thread context : Nat) : Heap :=
  if d.calls thread ≠ none ∨ d.contexts context = false then d
  else d.setCall thread (some (.clearing context))

def cleared (thread : Nat) (succeeds releases : Bool) : Heap :=
  match d.calls thread with
  | some (.clearing context) =>
    if succeeds then d.scan thread context 0 releases else d.setCall thread none
  | _ => d

end Heap

inductive MemoryMove where
  | allocBegin (thread context bytes : Nat)
  | allocEnd (thread : Nat) (returns succeeds activates : Bool)
  | cleanupEnd (thread : Nat) (accepted : Bool)
  | freeBegin (thread context address : Nat) (validates : Bool)
  | drained (thread : Nat) (succeeds : Bool)
  | freeEnd (thread : Nat) (accepted releases : Bool)
  | createContext (activates : Bool)
  | destroyBegin (thread context : Nat)
  | cleared (thread : Nat) (succeeds releases : Bool)

def Heap.step (d : Heap) : MemoryMove → Heap
  | .allocBegin thread context bytes => d.allocBegin thread context bytes
  | .allocEnd thread returns succeeds activates => d.allocEnd thread returns succeeds activates
  | .cleanupEnd thread accepted => d.cleanupEnd thread accepted
  | .freeBegin thread context address validates => d.freeBegin thread context address validates
  | .drained thread succeeds => d.drained thread succeeds
  | .freeEnd thread accepted releases => d.freeEnd thread accepted releases
  | .createContext activates => d.createContext activates
  | .destroyBegin thread context => d.destroyBegin thread context
  | .cleared thread succeeds releases => d.cleared thread succeeds releases

/-! ## 2. What the calls under way rely on -/

/-- What a call has chosen: a record to use, a record to release, or an object to give back. -/
inductive Claim where
  | free (slot : Nat)
  | held (slot : Nat)
  | object (remote : Nat)

def Call.claim : Call → Option Claim
  | .allocating slot _ _ => some (.free slot)
  | .cleaning remote => some (.object remote)
  | .draining slot _ | .submitting slot _ _ => some (.held slot)
  | .clearing _ => none

variable {call : Call} {remote : Nat}

theorem Call.claim_object : call.claim = some (.object remote) ↔ call = .cleaning remote := by
  cases call <;> simp [claim]

namespace Heap

/-- No call under way has chosen it. -/
def Unclaimed (d : Heap) (claim : Claim) : Prop :=
  ∀ thread call, d.calls thread = some call → call.claim ≠ some claim

/-- What a call that waits relies on. -/
def Relies (d : Heap) : Call → Prop
  | .allocating slot _ _ => (d.memories slot).active = false ∧ slot < objectCapacity
  | .cleaning remote => 0 < remote ∧ remote < d.nextId ∧ remote ∉ d.freed ∧
    ∀ slot, (d.memories slot).active = true → (d.memories slot).remote ≠ remote
  | .draining slot _ => (d.memories slot).active = true
  | .submitting slot remote _ =>
    (d.memories slot).active = true ∧ (d.memories slot).remote = remote
  | .clearing _ => True

structure Inv (d : Heap) : Prop where
  next : d.nextAddress < 2 ^ 64
  id : 0 < d.nextId
  below : ∀ {i}, (d.memories i).active = true →
    (d.memories i).address + (d.memories i).size < d.nextAddress
  apart : ∀ {i j}, (d.memories i).active = true → (d.memories j).active = true → i ≠ j →
    (d.memories i).address + (d.memories i).size < (d.memories j).address ∨
      (d.memories j).address + (d.memories j).size < (d.memories i).address
  slots : ∀ {i}, (d.memories i).active = true → i < objectCapacity
  known : ∀ {i}, (d.memories i).active = true →
    (d.memories i).remote < d.nextId ∧ (d.memories i).remote ∉ d.freed
  named : ∀ {i j}, (d.memories i).active = true → (d.memories j).active = true →
    (d.memories i).remote = (d.memories j).remote → i = j
  freed : ∀ {remote}, remote ∈ d.freed → remote < d.nextId
  once : d.freed.Nodup
  granted : ∀ g ∈ d.grants, g.remote < d.nextId ∧ (g.remote ∉ d.freed → ∃ i,
    (d.memories i).active = true ∧ (d.memories i).remote = g.remote ∧
      (d.memories i).address = g.address ∧ (d.memories i).size = g.bytes)
  relies : ∀ {thread call}, d.calls thread = some call → d.Relies call
  lone : ∀ {t t' call call' claim}, d.calls t = some call → d.calls t' = some call' →
    call.claim = some claim → call'.claim = some claim → t = t'

/-- The object is in a record, freed, or about to be; or the daemon has refused to free it. -/
def Has (d : Heap) (remote : Nat) : Prop :=
  (∃ i, (d.memories i).active = true ∧ (d.memories i).remote = remote) ∨ remote ∈ d.freed ∨
    remote ∈ d.refused ∨ ∃ thread, d.calls thread = some (.cleaning remote)

/-- No object that the daemon has returned is lost. -/
def Accounted (d : Heap) : Prop := ∀ remote, 0 < remote → remote < d.nextId → d.Has remote

end Heap

/-- What a step has to meet: an allocation chooses a record that no other has chosen, and there is
room when it takes the address; a release chooses a record that no other call releases. -/
def MemoryMove.Clear (d : Heap) : MemoryMove → Prop
  | .allocBegin _ _ _ => ∀ slot, d.freeSlot = some slot → d.Unclaimed (.free slot)
  | .allocEnd thread _ _ _ => ∀ slot bytes context,
    d.calls thread = some (.allocating slot bytes context) →
      d.nextAddress + alignedBytes bytes + addressGuard < 2 ^ 64
  | .freeBegin _ _ address _ => ∀ slot offset, d.memoryAt address 0 = some (slot, offset) →
    d.Unclaimed (.held slot)
  | .freeEnd thread _ _ => ∀ slot remote context,
    d.calls thread = some (.submitting slot remote (some context)) →
      ∀ child, d.nextChild context (slot + 1) = some child → d.Unclaimed (.held child)
  | .cleared thread _ _ => ∀ context, d.calls thread = some (.clearing context) →
    ∀ child, d.nextChild context 0 = some child → d.Unclaimed (.held child)
  | _ => True

namespace Heap

variable {d : Heap}

theorem Inv.start : Inv {} := by
  constructor <;> simp [addressBase]

variable {thread : Nat}

/-- A thread goes on to another wait, or its call ends. -/
theorem Inv.setCall (h : Inv d) {call : Option Call} (hrelies : ∀ c, call = some c → d.Relies c)
    (hlone : ∀ c claim, call = some c → c.claim = some claim → ∀ t c', t ≠ thread →
      d.calls t = some c' → c'.claim ≠ some claim) : Inv (d.setCall thread call) := by
  have hone : Lone Call.claim d.calls := h.lone
  refine { h with relies := fun hc => ?_, lone := hone.update hlone }
  rcases update_eq_some hc with ⟨-, hnew⟩ | ⟨-, hold⟩
  · exact hrelies _ hnew
  · exact h.relies hold

theorem Inv.ended (h : Inv d) (thread : Nat) : Inv (d.setCall thread none) :=
  h.setCall (fun _ hc => by cases hc) (fun _ _ hc => by cases hc)

/-- What a thread had chosen is nobody's once its call has ended. -/
theorem Inv.unclaimed (h : Inv d) {claim : Claim}
    (hcall : d.calls thread = some call) (hclaim : call.claim = some claim) :
    (d.setCall thread none).Unclaimed claim :=
  fun _ _ hc => Lone.ended h.lone hcall hclaim hc

/-- A new object, and a record for it at the next address. -/
def write (d : Heap) (slot bytes context : Nat) : Heap :=
  { d with
    nextId := d.nextId + 1
    memories := update d.memories slot ⟨true, d.nextId, d.nextAddress, bytes, context⟩
    nextAddress := (d.nextAddress + alignedBytes bytes + addressGuard) % 2 ^ 64
    grants := d.grants ++ [⟨d.nextAddress, bytes, d.nextId⟩] }

theorem write_self (d : Heap) (slot bytes context : Nat) :
    (d.write slot bytes context).memories slot = ⟨true, d.nextId, d.nextAddress, bytes, context⟩ :=
  update_self _ _ _

variable {slot : Nat}

theorem write_of_ne (d : Heap) {i : Nat} (bytes context : Nat) (h : i ≠ slot) :
    (d.write slot bytes context).memories i = d.memories i := update_of_ne h _ _

variable {bytes : Nat}

/-- The record is free and nobody else's, and there is room: the new range is above all others. -/
theorem Inv.write (h : Inv d) (context : Nat)
    (hidle : (d.memories slot).active = false) (hslot : slot < objectCapacity)
    (hunclaimed : d.Unclaimed (.free slot))
    (hroom : d.nextAddress + alignedBytes bytes + addressGuard < 2 ^ 64) :
    Inv (d.write slot bytes context) := by
  have hnext : (d.write slot bytes context).nextAddress =
      d.nextAddress + alignedBytes bytes + addressGuard := Nat.mod_eq_of_lt hroom
  have haligned : bytes ≤ alignedBytes bytes := by
    unfold alignedBytes
    omega
  have hguard : addressGuard = 4096 := rfl
  have hold : ∀ {i}, (d.memories i).active = true →
      (d.write slot bytes context).memories i = d.memories i := by
    intro i hi
    refine write_of_ne d bytes context ?_
    rintro rfl
    rw [hidle] at hi
    cases hi
  -- a record is the new one, or active from before
  have hcases : ∀ {i}, ((d.write slot bytes context).memories i).active = true →
      i = slot ∨ (d.memories i).active = true ∧
        (d.write slot bytes context).memories i = d.memories i := by
    intro i hi
    by_cases his : i = slot
    · exact .inl his
    · have hsame := write_of_ne d bytes context his
      rw [hsame] at hi
      exact .inr ⟨hi, hsame⟩
  constructor
  case next => rw [hnext]; exact hroom
  case id => exact Nat.succ_pos _
  case below =>
    intro i hi
    rcases hcases hi with rfl | ⟨hact, hsame⟩
    · rw [write_self]
      dsimp only
      omega
    · rw [hsame]
      have := h.below hact
      omega
  case apart =>
    intro i j hi hj hne
    rcases hcases hi with rfl | ⟨hact, hsame⟩
    · rcases hcases hj with rfl | ⟨hact', hsame'⟩
      · exact absurd rfl hne
      · rw [write_self, hsame']
        exact .inr (h.below hact')
    · rcases hcases hj with rfl | ⟨hact', hsame'⟩
      · rw [write_self, hsame]
        exact .inl (h.below hact)
      · rw [hsame, hsame']
        exact h.apart hact hact' hne
  case slots =>
    intro i hi
    rcases hcases hi with rfl | ⟨hact, -⟩
    · exact hslot
    · exact h.slots hact
  case known =>
    intro i hi
    rcases hcases hi with rfl | ⟨hact, hsame⟩
    · rw [write_self]
      exact ⟨.refl, fun hfreed => absurd (h.freed hfreed) (lt_irrefl _)⟩
    · rw [hsame]
      exact ⟨Nat.lt_succ_of_lt (h.known hact).1, (h.known hact).2⟩
  case named =>
    refine eq_of_alike (P := (·.active = true)) (r := (·.remote = ·.remote))
      (fun _ => write_of_ne d bytes context) Eq.symm ?_ h.named
    rw [write_self]
    exact fun i _ hi _ => (h.known hi).1.ne
  case freed => exact fun hfreed => Nat.lt_succ_of_lt (h.freed hfreed)
  case once => exact h.once
  case granted =>
    intro g hg
    rcases mem_append.1 hg with hbefore | hlast
    · obtain ⟨hknown, hrecord⟩ := h.granted g hbefore
      refine ⟨Nat.le.step hknown, fun hfreed => ?_⟩
      obtain ⟨i, hact, hsame⟩ := hrecord hfreed
      refine ⟨i, ?_⟩
      rw [hold hact]
      exact ⟨hact, hsame⟩
    · cases mem_singleton.1 hlast
      refine ⟨.refl, fun _ => ⟨slot, ?_⟩⟩
      rw [write_self]
      exact ⟨rfl, rfl, rfl, rfl⟩
  case relies =>
    intro t c hc
    have hrelies := h.relies hc
    cases c with
    | allocating s =>
      have hne : s ≠ slot := by
        rintro rfl
        exact hunclaimed t _ hc rfl
      simp only [Relies, write_of_ne d bytes context hne]
      exact hrelies
    | cleaning =>
      obtain ⟨hpos, hlt, hfreed, hnone⟩ := hrelies
      refine ⟨hpos, Nat.le.step hlt, hfreed, fun i hi => ?_⟩
      rcases hcases hi with rfl | ⟨hact, hsame⟩
      · rw [write_self]
        exact hlt.ne'
      · rw [hsame]
        exact hnone i hact
    | draining =>
      simp only [Relies, hold hrelies]
      exact hrelies
    | submitting =>
      simp only [Relies, hold hrelies.1]
      exact hrelies
    | clearing => trivial
  case lone => exact h.lone

/-- An object that ends in no record. -/
theorem Inv.skip (h : Inv d) : Inv { d with nextId := d.nextId + 1 } := by
  refine { h with
    id := Nat.succ_pos _
    known := fun hi => ⟨Nat.lt_succ_of_lt (h.known hi).1, (h.known hi).2⟩
    freed := fun hfreed => Nat.lt_succ_of_lt (h.freed hfreed)
    granted := fun g hg => ⟨Nat.lt_succ_of_lt (h.granted g hg).1, (h.granted g hg).2⟩
    relies := fun {t c} hc => ?_ }
  have hrelies := h.relies hc
  cases c with
  | cleaning =>
    obtain ⟨hpos, hlt, hrest⟩ := hrelies
    exact ⟨hpos, Nat.le.step hlt, hrest⟩
  | _ => exact hrelies

/-- Records are let go of, and objects that none of the others names are freed. -/
theorem Inv.fewer (h : Inv d) (memories : Nat → Memory) (gone : List Nat)
    (hold : ∀ {i}, (memories i).active = true →
      (d.memories i).active = true ∧ memories i = d.memories i ∧ (memories i).remote ∉ gone)
    (hkeep : ∀ {i}, (d.memories i).active = true → (d.memories i).remote ∉ gone →
      (memories i).active = true)
    (hgone : ∀ remote ∈ gone, remote < d.nextId ∧ remote ∉ d.freed ∧ d.Unclaimed (.object remote))
    (honce : gone.Nodup)
    (hheld : ∀ i, (d.memories i).active = true → (d.memories i).remote ∈ gone →
      d.Unclaimed (.held i)) :
    Inv { d with memories := memories, freed := d.freed ++ gone } := by
  have hkept : ∀ {i}, (d.memories i).active = true → (d.memories i).remote ∉ gone →
      (memories i).active = true ∧ memories i = d.memories i := by
    intro i hi hnot
    have hact := hkeep hi hnot
    exact ⟨hact, (hold hact).2.1⟩
  constructor
  case next => exact h.next
  case id => exact h.id
  case below =>
    intro i hi
    obtain ⟨hact, hsame, -⟩ := hold hi
    simp only [hsame]
    exact h.below hact
  case apart =>
    intro i j hi hj hne
    obtain ⟨hact, hsame, -⟩ := hold hi
    obtain ⟨hact', hsame', -⟩ := hold hj
    simp only [hsame, hsame']
    exact h.apart hact hact' hne
  case slots => exact fun hi => h.slots (hold hi).1
  case known =>
    intro i hi
    obtain ⟨hact, hsame, hnot⟩ := hold hi
    simp only [hsame, mem_append, not_or] at hnot ⊢
    exact ⟨(h.known hact).1, (h.known hact).2, hnot⟩
  case named =>
    intro i j hi hj heq
    obtain ⟨hact, hsame, -⟩ := hold hi
    obtain ⟨hact', hsame', -⟩ := hold hj
    simp only [hsame, hsame'] at heq
    exact h.named hact hact' heq
  case freed => exact fun hr => (mem_append.1 hr).elim h.freed fun hlast => (hgone _ hlast).1
  case once =>
    refine nodup_append.2 ⟨h.once, honce, ?_⟩
    rintro r hr _ hlast rfl
    exact (hgone r hlast).2.1 hr
  case granted =>
    intro g hg
    obtain ⟨hlt, hrecord⟩ := h.granted g hg
    refine ⟨hlt, fun hnot => ?_⟩
    obtain ⟨hbefore, hlast⟩ := not_or.1 (mt mem_append.2 hnot)
    obtain ⟨i, hact, hremote, hrest⟩ := hrecord hbefore
    obtain ⟨hstill, hsame⟩ := hkept hact (hremote ▸ hlast)
    refine ⟨i, hstill, ?_⟩
    simp only [hsame]
    exact ⟨hremote, hrest⟩
  case relies =>
    intro t c hc
    have hrelies := h.relies hc
    cases c with
    | allocating =>
      refine ⟨?_, hrelies.2⟩
      by_contra hact
      have hwas := (hold (Bool.eq_true_of_not_eq_false hact)).1
      rw [hrelies.1] at hwas
      cases hwas
    | cleaning r =>
      obtain ⟨hpos, hlt, hnot, hnone⟩ := hrelies
      refine ⟨hpos, hlt, fun hmember => ?_, fun i hi => ?_⟩
      · exact (mem_append.1 hmember).elim hnot fun hlast => (hgone r hlast).2.2 t _ hc rfl
      · obtain ⟨hact, hsame, -⟩ := hold hi
        simp only [hsame]
        exact hnone i hact
    | draining s =>
      exact (hkept hrelies fun hlast => hheld s hrelies hlast t _ hc rfl).1
    | submitting s =>
      obtain ⟨hact, hremote⟩ := hrelies
      obtain ⟨hstill, hsame⟩ := hkept hact fun hlast => hheld s hact hlast t _ hc rfl
      refine ⟨hstill, ?_⟩
      simp only [hsame]
      exact hremote
    | clearing => trivial
  case lone => exact h.lone

/-- An inactive record is written, and stays so. -/
theorem Inv.touch (h : Inv d) (memory : Memory)
    (hidle : (d.memories slot).active = false) (hmemory : memory.active = false) :
    Inv { d with memories := update d.memories slot memory } := by
  have htouched := h.fewer (update d.memories slot memory) [] (fun {i} hi => ?_)
    (fun {i} hi _ => ?_) nofun .nil nofun
  · rwa [append_nil] at htouched
  · by_cases his : i = slot
    · rw [his, update_self, hmemory] at hi
      cases hi
    · rw [update_of_ne his] at hi ⊢
      exact ⟨hi, rfl, not_mem_nil⟩
  · rwa [update_of_ne]
    rintro rfl
    rw [hidle] at hi
    cases hi

variable {d' : Heap}

/-- What has an object keeps it, or it is freed. -/
theorem Has.mono (h : d.Has remote)
    (hrecords : ∀ i, (d.memories i).active = true → (d.memories i).remote = remote →
      d'.memories i = d.memories i ∨ remote ∈ d'.freed)
    (hfreed : d.freed ⊆ d'.freed) (hrefused : d.refused ⊆ d'.refused)
    (hcalls : ∀ t, d.calls t = some (.cleaning remote) →
      d'.calls t = some (.cleaning remote) ∨ remote ∈ d'.freed ∨ remote ∈ d'.refused) :
    d'.Has remote := by
  rcases h with ⟨i, hi, hremote⟩ | hdone | hno | ⟨t, ht⟩
  · rcases hrecords i hi hremote with hsame | hdone
    · refine .inl ⟨i, ?_⟩
      rw [hsame]
      exact ⟨hi, hremote⟩
    · exact .inr (.inl hdone)
  · exact .inr (.inl (hfreed hdone))
  · exact .inr (.inr (.inl (hrefused hno)))
  · rcases hcalls t ht with hstill | hdone | hno
    · exact .inr (.inr (.inr ⟨t, hstill⟩))
    · exact .inr (.inl hdone)
    · exact .inr (.inr (.inl hno))

theorem Accounted.same (h : d.Accounted) (hid : d'.nextId = d.nextId)
    (hold : ∀ remote, d.Has remote → d'.Has remote) : d'.Accounted :=
  fun remote hpos hlt => hold remote (h remote hpos (hid ▸ hlt))

/-- A new object comes in, and what was there stays. -/
theorem Accounted.grown (h : d.Accounted) (hid : d'.nextId = d.nextId + 1)
    (hrecords : ∀ i, (d.memories i).active = true → d'.memories i = d.memories i)
    (hfreed : d.freed ⊆ d'.freed) (hrefused : d.refused ⊆ d'.refused)
    (hcalls : ∀ t remote, d.calls t = some (.cleaning remote) →
    d'.calls t = some (.cleaning remote))
    (hnew : d'.Has d.nextId) : d'.Accounted := by
  intro remote hpos hlt
  rcases Nat.lt_or_ge remote d.nextId with hbefore | hlater
  · exact (h remote hpos hbefore).mono (fun i hi _ => .inl (hrecords i hi)) hfreed hrefused
      fun t ht => .inl (hcalls t remote ht)
  · rw [hid] at hlt
    rw [le_antisymm (Nat.le_of_lt_succ hlt) hlater]
    exact hnew

/-- The thread gives back no object. -/
def Idle (d : Heap) (thread : Nat) : Prop := ∀ remote, d.calls thread ≠ some (.cleaning remote)

theorem idle_of {call : Option Call} (hcall : d.calls thread = call)
    (hnot : ∀ remote, call ≠ some (.cleaning remote)) : d.Idle thread :=
  fun remote h => hnot remote (hcall.symm.trans h)

theorem Idle.update (h : d.Idle thread) (call : Option Call) (t remote : Nat)
    (ht : d.calls t = some (.cleaning remote)) :
    update d.calls thread call t = some (.cleaning remote) := by
  rw [update_of_ne (by rintro rfl; exact h remote ht)]
  exact ht

/-- The invariant, with the account. -/
structure Good (d : Heap) : Prop extends Inv d where
  accounted : d.Accounted

theorem Good.setCall (h : Good d) {call : Option Call} (hidle : d.Idle thread)
    (hrelies : ∀ c, call = some c → d.Relies c)
    (hlone : ∀ c claim, call = some c → c.claim = some claim → ∀ t c', t ≠ thread →
      d.calls t = some c' → c'.claim ≠ some claim) : Good (d.setCall thread call) where
  toInv := h.toInv.setCall hrelies hlone
  accounted := h.accounted.same rfl fun remote hhas =>
    hhas.mono (fun _ _ _ => .inl rfl) (List.Subset.refl _) (List.Subset.refl _) fun t ht =>
      .inl (hidle.update call t remote ht)

theorem Good.ended (h : Good d) (hidle : d.Idle thread) : Good (d.setCall thread none) :=
  h.setCall hidle (fun _ hc => by cases hc) (fun _ _ hc => by cases hc)

variable {context : Nat}

section

variable (h : Good d)

include h

theorem Good.allocBegin (hclear : MemoryMove.Clear d (.allocBegin thread context bytes)) :
    Good (d.allocBegin thread context bytes) := by
  unfold Heap.allocBegin
  by_cases hrefused : d.calls thread ≠ none ∨ bytes = 0 ∨ 2 ^ 64 - 1 - 255 < bytes ∨
      d.contexts context = false
  · rw [if_pos hrefused]
    exact h
  rw [if_neg hrefused]
  have hnone := not_not.1 (not_or.1 hrefused).1
  cases hslot : d.freeSlot with
  | none => exact h
  | some slot =>
    split_ifs with hroom
    · refine h.setCall (idle_of hnone nofun) ?_ ?_
      · rintro c ⟨⟩
        exact ⟨by simpa using find?_some hslot, mem_range.1 (mem_of_find?_eq_some hslot)⟩
      · rintro c claim ⟨⟩ ⟨⟩ t c' - hc'
        exact hclear slot hslot t c' hc'
    · exact h

theorem Good.allocEnd {returns succeeds activates : Bool}
    (hclear : MemoryMove.Clear d (.allocEnd thread returns succeeds activates)) :
    Good (d.allocEnd thread returns succeeds activates) := by
  unfold Heap.allocEnd
  split
  · rename_i slot bytes context hcall
    obtain ⟨hfree, hslot⟩ := h.relies hcall
    have hidle : d.Idle thread := idle_of hcall nofun
    have hended := h.ended hidle
    -- the slot was free: a record that had an object has it still
    have hkeep : ∀ memory i, (d.memories i).active = true →
        update d.memories slot memory i = d.memories i := by
      intro memory i hi
      refine update_of_ne ?_ _ _
      rintro rfl
      rw [hfree] at hi
      cases hi
    -- the object is new, and so nobody's
    have hnew : ∀ memories, Inv { d with memories } →
        (∀ i, (d.memories i).active = true → memories i = d.memories i) →
        Good { d with
          nextId := d.nextId + 1
          memories
          calls := update d.calls thread (some (.cleaning d.nextId)) } := by
      intro memories hinv hsame
      refine ⟨hinv.skip.setCall ?_ ?_, h.accounted.grown rfl hsame (List.Subset.refl _)
        (List.Subset.refl _) (hidle.update _) (.inr (.inr (.inr ⟨thread, update_self _ _ _⟩)))⟩
      · rintro c ⟨⟩
        exact ⟨h.id, .refl, fun hmember => lt_irrefl _ (h.freed hmember),
          fun i hi => (hinv.known hi).1.ne⟩
      · rintro c claim ⟨⟩ ⟨⟩ t c' ht hc' hsame
        obtain rfl := Call.claim_object.1 hsame
        exact lt_irrefl _ (h.relies hc').2.1
    split_ifs with hreturns hgranted hsucceeds
    · exact hended
    · refine ⟨hended.write context hfree hslot (h.unclaimed hcall rfl)
        (hclear slot bytes context hcall),
        hended.accounted.grown rfl (hkeep _) (List.Subset.refl _) (List.Subset.refl _)
          (fun _ _ ht => ht) (.inl ⟨slot, ?_⟩)⟩
      simp [Heap.setCall]
    · exact hnew _ (h.touch _ hfree rfl) (hkeep _)
    · exact hnew _ h.toInv fun _ _ => rfl
  · exact h

theorem Good.cleanupEnd (thread : Nat) (accepted : Bool) : Good (d.cleanupEnd thread accepted) := by
  unfold Heap.cleanupEnd
  split
  · rename_i remote hcall
    obtain ⟨-, hlt, hfreed, hnone⟩ := h.relies hcall
    have hended := h.toInv.ended thread
    -- the object is the one of this thread, or another thread still gives it back
    have hgone : ∀ freed refused, d.freed ⊆ freed → d.refused ⊆ refused →
        remote ∈ freed ∨ remote ∈ refused →
        Accounted { d.setCall thread none with freed, refused } := by
      intro freed refused hfreed hrefused hdone
      refine h.accounted.same rfl fun other hhas =>
        hhas.mono (fun _ _ _ => .inl rfl) hfreed hrefused fun t ht => ?_
      by_cases htt : t = thread
      · rw [htt, hcall] at ht
        cases ht
        exact .inr hdone
      · exact .inl ((update_of_ne htt _ _).trans ht)
    have hlast : ∀ l : List Nat, remote ∈ l ++ [remote] := by simp
    split_ifs with haccepted
    · refine ⟨hended.fewer d.memories [remote] (fun {i} hi => ⟨hi, rfl, ?_⟩) (fun hi _ => hi) ?_
        (nodup_singleton _) fun i hi hlast => ?_,
        hgone _ _ (subset_append_left _ _) (List.Subset.refl _) (.inl (hlast _))⟩
      · exact fun hlast => hnone i hi (mem_singleton.1 hlast)
      · rintro _ hlast
        rw [mem_singleton.1 hlast]
        exact ⟨hlt, hfreed, h.unclaimed hcall rfl⟩
      · exact absurd (mem_singleton.1 hlast) (hnone i hi)
    · exact ⟨{ hended with },
        hgone _ _ (List.Subset.refl _) (subset_append_left _ _) (.inr (hlast _))⟩
  · exact h

theorem Good.freeBegin {address : Nat} {validates : Bool}
    (hclear : MemoryMove.Clear d (.freeBegin thread context address validates)) :
    Good (d.freeBegin thread context address validates) := by
  unfold Heap.freeBegin
  split_ifs with hrefused
  · exact h
  rcases hfound : d.memoryAt address 0 with _ | ⟨slot, offset⟩
  · exact h
  simp only
  split_ifs with hother
  · exact h
  refine h.setCall (idle_of (not_not.1 (not_or.1 hrefused).1) nofun) ?_ ?_
  · rintro c ⟨⟩
    obtain ⟨s, hs, heq⟩ := Option.map_eq_some_iff.1 hfound
    cases heq
    have := find?_some hs
    simp only [Bool.and_eq_true] at this
    exact this.1.1.1
  · rintro c claim ⟨⟩ ⟨⟩ t c' - hc'
    exact hclear slot offset hfound t c' hc'

theorem Good.drained (thread : Nat) (succeeds : Bool) : Good (d.drained thread succeeds) := by
  unfold Heap.drained
  split
  · rename_i slot destroys hcall
    have hidle : d.Idle thread := idle_of hcall nofun
    split_ifs with hsucceeds
    · refine h.setCall hidle ?_ ?_
      · rintro c ⟨⟩
        exact ⟨h.relies hcall, rfl⟩
      · rintro c claim ⟨⟩ ⟨⟩ t c' ht hc' hsame
        exact ht (h.lone hc' hcall hsame rfl)
    · exact h.ended hidle
  · exact h

theorem Good.scan {start : Nat} {releases : Bool} (hidle : d.Idle thread)
    (hclear : ∀ child, d.nextChild context start = some child → ∀ t c, t ≠ thread →
      d.calls t = some c → c.claim ≠ some (.held child)) :
    Good (d.scan thread context start releases) := by
  unfold Heap.scan
  cases hchild : d.nextChild context start with
  | some child =>
    refine h.setCall hidle ?_ ?_
    · rintro c ⟨⟩
      have := find?_some hchild
      simp only [Bool.and_eq_true] at this
      exact this.1.2
    · rintro c claim ⟨⟩ ⟨⟩ t c' ht hc'
      exact hclear child hchild t c' ht hc'
  | none =>
    split_ifs with hreleases
    · exact ⟨{ h.toInv.ended thread with }, (h.ended hidle).accounted⟩
    · exact h.ended hidle

end

/-- Past a record that is let go of, a scan finds what it would have found. -/
theorem nextChild_past (hsame : ∀ i, i ≠ slot → d'.memories i = d.memories i) :
    d'.nextChild context (slot + 1) = d.nextChild context (slot + 1) := by
  unfold nextChild
  congr 1
  funext i
  by_cases hi : i = slot
  · have hpast : decide (slot + 1 ≤ i) = false := by
      rw [hi]
      simp
    rw [hpast, Bool.false_and, Bool.false_and, Bool.false_and, Bool.false_and]
  · rw [hsame i hi]

theorem Good.freeEnd (h : Good d) {accepted releases : Bool}
    (hclear : MemoryMove.Clear d (.freeEnd thread accepted releases)) :
    Good (d.freeEnd thread accepted releases) := by
  unfold Heap.freeEnd
  split
  · rename_i slot remote destroys hcall
    obtain ⟨hact, rfl⟩ := h.relies hcall
    have hended := h.ended (idle_of hcall nofun)
    split_ifs with haccepted
    · have hreleased : Good { d.setCall thread none with
          freed := d.freed ++ [(d.memories slot).remote]
          memories := update d.memories slot { d.memories slot with active := false } } := by
        refine ⟨hended.fewer _ [(d.memories slot).remote] (fun {i} hi => ?_)
          (fun {i} hi hne => ?_) ?_
          (nodup_singleton _) ?_, hended.accounted.same rfl fun remote hhas =>
            hhas.mono (fun i hi hremote => ?_) (subset_append_left _ _) (List.Subset.refl _)
              fun t ht => .inl ht⟩
        · have his : i ≠ slot := by
            rintro rfl
            simp at hi
          rw [update_of_ne his] at hi ⊢
          exact ⟨hi, rfl, fun heq => his (h.named hi hact (mem_singleton.1 heq))⟩
        · have his : i ≠ slot := by
            rintro rfl
            exact hne (mem_singleton.2 rfl)
          rw [update_of_ne his]
          exact hi
        · rintro _ hlast
          rw [mem_singleton.1 hlast]
          -- an object that is being given back is in no record
          refine ⟨(h.known hact).1, (h.known hact).2, fun t c hc hobject => ?_⟩
          obtain rfl := Call.claim_object.1 hobject
          exact (hended.relies hc).2.2.2 slot hact rfl
        · intro i hi hlast
          rw [h.named hi hact (mem_singleton.1 hlast)]
          exact h.unclaimed hcall rfl
        · by_cases his : i = slot
          · subst his
            subst hremote
            exact .inr (mem_append_right _ (mem_singleton.2 rfl))
          · exact .inl (update_of_ne his _ _)
      cases destroys with
      | none => exact hreleased
      | some context =>
        refine hreleased.scan (idle_of (update_self _ _ _) nofun) fun child hchild t c ht hc => ?_
        rw [nextChild_past fun i hi => update_of_ne hi _ _] at hchild
        exact hclear slot _ context hcall child hchild t c ((update_of_ne ht _ _).symm.trans hc)
    · exact ⟨{ hended with }, hended.accounted.same rfl fun remote hhas =>
        hhas.mono (fun _ _ _ => .inl rfl) (List.Subset.refl _) (subset_append_left _ _)
          fun t ht => .inl ht⟩
  · exact h

theorem Good.cleared (h : Good d) {succeeds releases : Bool}
    (hclear : MemoryMove.Clear d (.cleared thread succeeds releases)) :
    Good (d.cleared thread succeeds releases) := by
  unfold Heap.cleared
  split
  · rename_i context hcall
    have hidle : d.Idle thread := idle_of hcall nofun
    split_ifs with hsucceeds
    · exact h.scan hidle fun child hchild t c _ hc => hclear context hcall child hchild t c hc
    · exact h.ended hidle
  · exact h

theorem Good.createContext (h : Good d) (activates : Bool) : Good (d.createContext activates) := by
  unfold Heap.createContext
  split
  · exact h
  · split_ifs with hactivates
    · exact ⟨{ h.toInv with }, h.accounted⟩
    · exact h

theorem Good.destroyBegin (h : Good d) (thread context : Nat) :
    Good (d.destroyBegin thread context) := by
  unfold Heap.destroyBegin
  split_ifs with hrefused
  · exact h
  · refine h.setCall (idle_of (not_not.1 (not_or.1 hrefused).1) nofun) ?_ ?_
    · rintro c ⟨⟩
      trivial
    · rintro c claim ⟨⟩ ⟨⟩

theorem Good.step (h : Good d) (move : MemoryMove) (hclear : move.Clear d) :
    Good (d.step move) := by
  cases move with
  | allocBegin => exact h.allocBegin hclear
  | allocEnd => exact h.allocEnd hclear
  | cleanupEnd thread accepted => exact h.cleanupEnd thread accepted
  | freeBegin => exact h.freeBegin hclear
  | drained thread succeeds => exact h.drained thread succeeds
  | freeEnd => exact h.freeEnd hclear
  | createContext activates => exact h.createContext activates
  | destroyBegin thread context => exact h.destroyBegin thread context
  | cleared => exact h.cleared hclear

/-! ## 3. Exactness -/

structure Exact (d : Heap) : Prop where
  /-- The ranges of live records have no address in common, -/
  disjoint : ∀ i j, (d.memories i).active = true → (d.memories j).active = true → i ≠ j →
    ∀ address, ¬ ((d.memories i).address ≤ address ∧
      address < (d.memories i).address + (d.memories i).size ∧
      (d.memories j).address ≤ address ∧
      address < (d.memories j).address + (d.memories j).size)
  /-- and end below `2 ^ 64`. -/
  below : ∀ i, (d.memories i).active = true →
    (d.memories i).address + (d.memories i).size < 2 ^ 64
  /-- What was returned and not freed resolves to the object that the daemon returned. -/
  resolves : ∀ g ∈ d.grants, g.remote ∉ d.freed → ∀ bytes ≤ g.bytes, ∃ slot,
    d.memoryAt g.address bytes = some (slot, 0) ∧ (d.memories slot).remote = g.remote ∧
      (d.memories slot).size = g.bytes
  /-- An object whose FREE commands are accepted has one live record and was not freed, or it has
  none and was freed once; or its allocation has failed and is about to free it. -/
  owned : ∀ remote, 0 < remote → remote < d.nextId → remote ∉ d.refused →
    (∃! i, (d.memories i).active = true ∧ (d.memories i).remote = remote) ∧
        d.freed.count remote = 0 ∨
      (∀ i, (d.memories i).active = true → (d.memories i).remote ≠ remote) ∧
        d.freed.count remote = 1 ∨
      (∃ thread, d.calls thread = some (.cleaning remote)) ∧ d.freed.count remote = 0

/-- A record is found at its own address: no other reaches there. -/
theorem Inv.memoryAt_eq (h : Inv d) (hact : (d.memories slot).active = true)
    (hbytes : bytes ≤ (d.memories slot).size) :
    d.memoryAt (d.memories slot).address bytes = some (slot, 0) := by
  unfold memoryAt
  generalize hfind : List.find? _ (List.range objectCapacity) = found
  cases found with
  | none =>
    have hnot := find?_eq_none.1 hfind slot (mem_range.2 (h.slots hact))
    simp [hact, hbytes] at hnot
  | some other =>
    have hother := find?_some hfind
    simp only [Bool.and_eq_true, decide_eq_true_eq] at hother
    obtain ⟨⟨⟨hact', hle⟩, hoff⟩, -⟩ := hother
    have heq : other = slot := by
      by_contra hne
      rcases h.apart hact' hact hne with hbefore | hafter
      · omega
      · omega
    simp [heq]

theorem Good.exact (h : Good d) : d.Exact where
  disjoint := by
    rintro i j hi hj hne address ⟨hlow, hhigh, hlow', hhigh'⟩
    rcases h.apart hi hj hne with hbefore | hafter
    · omega
    · omega
  below i hi := (h.below hi).trans h.next
  resolves := by
    intro g hg hfreed bytes hbytes
    obtain ⟨slot, hact, hremote, haddr, hsize⟩ := (h.granted g hg).2 hfreed
    refine ⟨slot, ?_, hremote, hsize⟩
    rw [← haddr]
    exact h.memoryAt_eq hact (by omega)
  owned := by
    intro remote hpos hlt hrefused
    rcases h.accounted remote hpos hlt with ⟨i, hi, hremote⟩ | hfreed | hfalse | ⟨t, ht⟩
    · refine .inl ⟨⟨i, ⟨hi, hremote⟩, ?_⟩, ?_⟩
      · rintro j ⟨hj, hremote'⟩
        exact h.named hj hi (hremote'.trans hremote.symm)
      · rw [← hremote]
        exact count_eq_zero.2 (h.known hi).2
    · refine .inr (.inl ⟨?_, count_eq_one_of_mem h.once hfreed⟩)
      rintro i hi rfl
      exact (h.known hi).2 hfreed
    · exact absurd hfalse hrefused
    · exact .inr (.inr ⟨⟨t, ht⟩, count_eq_zero.2 (h.relies ht).2.2.1⟩)

end Heap

/-- **Allocations are exact**, in every interleaving in which no call chooses a record that another
call under way has chosen, and there is room for each address when it is taken. -/
theorem allocations_exact (moves : List MemoryMove)
    (hclear : Along Heap.step (fun d move => move.Clear d) {} moves) :
    (run Heap.step {} moves).Exact := by
  have hstart : ({} : Heap).Accounted := by
    intro remote hpos hlt
    exact absurd hlt (not_lt.2 hpos)
  have hend := run_induction_along (P := Heap.Good) (fun _ move h hmove => h.step move hmove) moves
    ⟨Heap.Inv.start, hstart⟩ hclear
  exact hend.exact

/-- A memory is allocated, and freed again. -/
theorem allocations_exact_freed :
    let moves : List MemoryMove :=
      [.createContext true, .allocBegin 1 0 100, .allocEnd 1 true true true,
        .freeBegin 1 0 addressBase true, .drained 1 true, .freeEnd 1 true true]
    Along Heap.step (fun d move => move.Clear d) {} moves ∧ (run Heap.step {} moves).Exact ∧
    (run Heap.step {} moves).grants = [⟨addressBase, 100, 1⟩] ∧
    (run Heap.step {} moves).freed = [1] := by
  intro moves
  have hclear : Along Heap.step (fun d move => move.Clear d) {} moves := by
    refine ⟨trivial, ?_, ?_, ?_, trivial, ?_, trivial⟩
    · intro slot _ t call hcall
      cases hcall
    · intro slot bytes context hcall
      cases hcall
      decide
    · -- the only call there was has ended
      intro slot offset _ t call hcall
      change update (update (fun _ => none) 1 _) 1 none t = some call at hcall
      by_cases ht : t = 1
      · rw [ht] at hcall
        cases hcall
      · rw [update_of_ne ht, update_of_ne ht] at hcall
        cases hcall
    · intro slot remote context hcall
      cases hcall
  exact ⟨hclear, allocations_exact moves hclear, by decide +kernel, by decide +kernel⟩

/-- **An allocation is lost.**  The check of the room lets a range pass that ends beyond the
addresses there are. -/
theorem allocation_lost :
    ¬ (run Heap.step {} [.createContext true, .allocBegin 1 0 (2 ^ 64 - 256),
      .allocEnd 1 true true true]).Exact ∧
    -- and two allocations that wait for room in the ring at one time have both chosen record 0:
    -- what the first was given resolves to nothing, and no record has its object, which is not
    -- freed
    let d := run Heap.step {}
      [.createContext true, .allocBegin 1 0 100, .allocBegin 2 0 200, .allocEnd 1 true true true,
        .allocEnd 2 true true true]
    ⟨addressBase, 100, 1⟩ ∈ d.grants ∧ d.freed = [] ∧ d.refused = [] ∧
    d.memoryAt addressBase 0 = none ∧ ¬ d.Exact := by
  refine ⟨fun hexact => ?_, ?_⟩
  · exact absurd (hexact.below 0 (by decide +kernel)) (by decide +kernel)
  intro d
  have hgrant : ⟨addressBase, 100, 1⟩ ∈ d.grants := by decide +kernel
  have hfreed : d.freed = [] := by decide +kernel
  have hlost : d.memoryAt addressBase 0 = none := by decide +kernel
  refine ⟨hgrant, hfreed, by decide +kernel, hlost, fun hexact => ?_⟩
  obtain ⟨slot, hfound, -⟩ :=
    hexact.resolves _ hgrant (by rw [hfreed]; exact not_mem_nil) 0 (Nat.zero_le _)
  cases hfound

end MetaFlux.Cuda
