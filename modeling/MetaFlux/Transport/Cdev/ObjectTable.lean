/-
# The object table resolver

The source's class `CdevObjectTableResolver`, which resolves a region copy for the worker: it looks
up the argument block, then the destination, then the source.  When the source fails it RELEASES the
destination's reference.  A reference that came out of the table is borrowed, and nobody has
retained it: the release is one too many (`unretained_release`).

The worker itself keeps its books in every run (`run_balanced`).  So with this resolver every
release has its retain as long as no source fails after its destination
(`leases_and_references_balance`).
-/
import MetaFlux.Transport.Cdev.Runs

namespace MetaFlux.Transport

open MetaFlux.Lifecycle Base List Watch

/-! ## 1. Objects and argument blocks -/

def objectTypeDeviceMemory : Nat := 3
def objectTypeHostMemory : Nat := 4
def objectTypeArgumentBlock : Nat := 6
def argumentKindBuffer : Nat := 2
def argumentKindU64 : Nat := 3
def argumentBufferRead : UInt32 := 1
def argumentBufferWrite : UInt32 := 2
def argumentBlockFlagCopyRegion : Nat := 2
def sharedArgumentBlockMagic : Nat := 0x3141464d
def sharedDeviceAbiVersion : Nat := 1
def argumentBlockHeaderSize : Nat := 64
def argumentEntrySize : Nat := 32
def copyRegionArgumentEntryCount : Nat := 3

structure ArgumentEntry where
  kind : Nat := 0
  flags : UInt32 := 0
  objectId : Nat := 0
  objectGeneration : Nat := 0
  value : Nat := 0
deriving DecidableEq, Repr

/-- The bytes of an argument block, as far as they are read: a header and three entries. -/
structure ArgumentBlock where
  address : Nat
  magic : Nat := 0
  abiVersion : Nat := 0
  headerSize : Nat := 0
  entrySize : Nat := 0
  entryCount : Nat := 0
  flags : Nat := 0
  totalSize : Nat := 0
  reserved : List Nat := []
  destination : ArgumentEntry := {}
  source : ArgumentEntry := {}
  count : ArgumentEntry := {}
deriving DecidableEq, Repr

structure ObjectView where
  objectId : Nat := 0
  objectGeneration : Nat := 0
  objectKind : Nat := 0
  accessFlags : UInt32 := 0
  data : Option ArgumentBlock := none
  address : Nat := 0
  byteSize : Nat := 0
  backendReference : MemoryReference := {}
deriving DecidableEq, Repr

def validCopyRegionArgumentBlock (block : ArgumentBlock) (byteCount : Nat) : Bool :=
  decide (block.address % argumentBlockHeaderSize = 0 ∧
    byteCount = argumentBlockHeaderSize + 3 * argumentEntrySize ∧
    block.magic = sharedArgumentBlockMagic ∧ block.abiVersion = sharedDeviceAbiVersion ∧
    block.headerSize = argumentBlockHeaderSize ∧ block.entrySize = argumentEntrySize ∧
    block.entryCount = copyRegionArgumentEntryCount ∧ block.flags = argumentBlockFlagCopyRegion ∧
    block.totalSize = byteCount) &&
  block.reserved.all (· == 0) &&
  decide (block.destination.kind = argumentKindBuffer ∧
    block.destination.flags = argumentBufferWrite ∧ block.destination.objectId ≠ 0 ∧
    block.destination.objectGeneration ≠ 0 ∧ block.source.kind = argumentKindBuffer ∧
    block.source.flags = argumentBufferRead ∧ block.source.objectId ≠ 0 ∧
    block.source.objectGeneration ≠ 0 ∧ block.count.kind = argumentKindU64 ∧ block.count.flags = 0 ∧
    block.count.objectId = 0 ∧ block.count.objectGeneration = 0 ∧ block.count.value ≠ 0)

def completeMemoryReference (reference : MemoryReference) : Bool :=
  decide (reference.handle ≠ 0 ∧ reference.retain ≠ 0 ∧ reference.release ≠ 0)

def emptyMemoryReference (reference : MemoryReference) : Bool := decide (reference = {})

/-! ## 2. The resolver -/

/-- A resolver and what its callbacks answer in one call.  It makes at most three lookups, which
differ in what they ask for; of its two imports the first argument only tells which of them it is.
-/
structure ObjectTable where
  lookup : Option (Nat → Nat → Nat → Bool → SharedStatus × ObjectView)
  importer : Option (Bool → Nat → Nat → SharedStatus × MemoryReference) := none
  instanceHandle : Nat := 0
  backendContext : Nat := 0

namespace ObjectTable

variable (table : ObjectTable)

def resolveMemory (entry : ArgumentEntry) (forWrite : Bool) (byteCount : Nat) :
    Except SharedStatus (MemoryReference × Nat) := do
  let some lookup := table.lookup | throw .invalidArgument
  if entry.kind ≠ argumentKindBuffer ∨ entry.objectId = 0 ∨ entry.objectGeneration = 0 ∨
      byteCount = 0 then
    throw .invalidArgument
  let (status, object) := lookup entry.objectId entry.objectGeneration 0 forWrite
  if status ≠ .success then
    throw status
  if object.objectId ≠ entry.objectId ∨ object.objectGeneration ≠ entry.objectGeneration ∨
      (object.objectKind ≠ objectTypeDeviceMemory ∧ object.objectKind ≠ objectTypeHostMemory) then
    throw .malformed
  if object.byteSize = 0 ∨ object.byteSize < entry.value ∨
      object.byteSize - entry.value < byteCount then
    throw .invalidArgument
  if object.objectKind = objectTypeHostMemory ∧
      object.accessFlags &&& (if forWrite then argumentBufferWrite else argumentBufferRead) = 0 then
    throw .invalidArgument
  if emptyMemoryReference object.backendReference = false then
    if completeMemoryReference object.backendReference = false then
      throw .malformed
    return (object.backendReference, entry.value)
  let some importer := table.importer | throw .notSupported
  if object.address = 0 ∨ table.instanceHandle = 0 ∨ table.backendContext = 0 then
    throw .notSupported
  if uint64Max - entry.value < object.address then
    throw .invalidArgument
  let (status, reference) := importer forWrite (object.address + entry.value) byteCount
  if status ≠ .success then
    throw status
  if completeMemoryReference reference = false then
    throw .malformed
  return (reference, 0)

/-- The argument block of a request. -/
def copyBlock (request : Descriptor) : Except SharedStatus ArgumentBlock := do
  let some lookup := table.lookup | throw .invalidArgument
  if request.opcode ≠ .copy ∨ request.flags ≠ copyFlagRegionArgumentBlock ∨ request.targetId = 0 ∨
      getElem request.arguments 0 word0 = 0 ∨ getElem request.arguments 1 word1 ≠ 0 ∨
      getElem request.arguments 2 word2 ≠ 0 ∨ getElem request.arguments 3 word3 ≠ 0 then
    throw .invalidArgument
  let (status, object) :=
    lookup request.targetId (getElem request.arguments 0 word0) objectTypeArgumentBlock false
  if status ≠ .success then
    throw status
  if object.objectId ≠ request.targetId ∨
      object.objectGeneration ≠ getElem request.arguments 0 word0 ∨
      object.objectKind ≠ objectTypeArgumentBlock ∨ object.byteSize = 0 then
    throw .malformed
  let some block := object.data | throw .malformed
  if validCopyRegionArgumentBlock block object.byteSize = false then
    throw .malformed
  return block

/-- The answer to the worker, and the references released on the way to it. -/
structure Resolved where
  status : SharedStatus
  resolution : CopyResolution := {}
  released : List MemoryReference := []

def releaseNow (reference : MemoryReference) : List MemoryReference :=
  if completeMemoryReference reference then [reference] else []

def resolveCopy (request : Descriptor) : Resolved :=
  match table.copyBlock request with
  | .error status => { status }
  | .ok block =>
    match table.resolveMemory block.destination true block.count.value with
    | .error status => { status }
    | .ok (destinationReference, destinationOffset) =>
      match table.resolveMemory block.source false block.count.value with
      | .error status => { status, released := releaseNow destinationReference }
      | .ok (sourceReference, sourceOffset) =>
        { status := .success
          resolution :=
            { destination := destinationReference.handle
              destinationOffset
              destinationReference
              source := sourceReference.handle
              sourceOffset
              sourceReference
              byteCount := block.count.value } }

/-- The sources of the request resolve if its destination does. -/
def Served (request : Descriptor) : Prop :=
  ∀ block, table.copyBlock request = .ok block →
    (table.resolveMemory block.destination true block.count.value).isOk = true →
    (table.resolveMemory block.source false block.count.value).isOk = true

/-- Every object the table shows is one with a reference of its own, which is lent. -/
def Borrowed : Prop :=
  ∀ lookup ∈ table.lookup, ∀ id generation forWrite,
    emptyMemoryReference (lookup id generation 0 forWrite).2.backendReference = false

theorem released_of_served {request : Descriptor} (h : table.Served request) :
    (table.resolveCopy request).released = [] := by
  unfold resolveCopy
  split
  · rfl
  rename_i block hblock
  split
  · rfl
  rename_i hdest
  have hsource := h block hblock (by rw [hdest]; rfl)
  split
  · rename_i hfailed
    rw [hfailed] at hsource
    cases hsource
  · rfl

end ObjectTable

/-! ## 3. Counts -/

def releasesOf (handle : Nat) : ExternalCall → Nat
  | .release reference => if reference.handle = handle then 1 else 0
  | _ => 0

def retainsOf (handle : Nat) : ExternalCall → Nat
  | .retain reference status => if status = .success ∧ reference.handle = handle then 1 else 0
  | _ => 0

def leaseReleases : ExternalCall → Nat
  | .leaseRelease _ => 1
  | _ => 0

def leaseAcquires : ExternalCall → Nat
  | .leaseAcquire _ status => if status = .success then 1 else 0
  | _ => 0

/-- How often, in a history. -/
def times (count : ExternalCall → Nat) (history : List ExternalCall) : Nat :=
  (history.map count).sum

/-- No handle is released more often than it was retained, and no lease given back that was not
taken. -/
structure Covered (history : List ExternalCall) : Prop where
  references : ∀ handle, times (releasesOf handle) history ≤ times (retainsOf handle) history
  leases : times leaseReleases history ≤ times leaseAcquires history

/-- Everything is given back. -/
structure Returned (history : List ExternalCall) : Prop where
  references : ∀ handle, times (releasesOf handle) history = times (retainsOf handle) history
  leases : times leaseReleases history = times leaseAcquires history

def Watch.handles (w : Watch) : Multiset Nat := w.retained.map (·.handle)

/-- The lease that is held. -/
def Watch.leases (w : Watch) : Nat := if w.lease = none then 0 else 1

theorem Watch.handles_next {w : Watch} {call : ExternalCall} (h : w.gives call) (handle : Nat) :
    (w.next call).handles.count handle + releasesOf handle call =
      w.handles.count handle + retainsOf handle call := by
  cases call with
  | retain reference =>
    simp only [next, releasesOf, retainsOf, handles]
    split_ifs with hok hboth hboth
    · simp [hboth.2]
    · have hother : handle ≠ reference.handle := fun heq => hboth ⟨hok, heq.symm⟩
      simp [hother]
    · exact absurd hboth.1 hok
    · rfl
  | release reference =>
    have hback : reference ::ₘ w.retained.erase reference = w.retained := Multiset.cons_erase h
    have hcount : w.handles.count handle =
        ((w.retained.erase reference).map (·.handle)).count handle +
          if handle = reference.handle then 1 else 0 := by
      rw [handles, ← hback, Multiset.map_cons, Multiset.count_cons]
      simp
    simp only [releasesOf, hcount, eq_comm]
    rfl
  | leaseAcquire _ _ | resolveCopy _ _ _ _ | resolveLaunch _ _ _ _ | queryEvent _ _ _ _
  | cancelQueue _ _ | copy _ _ _ | submit _ _ _ =>
    simp only [next, takeOff]
    split_ifs <;> rfl
  | leaseRelease _ | rebind _ _ _ | retire _ => rfl

theorem Watch.leases_next {w : Watch} {call : ExternalCall} (h : w.gives call) :
    (w.next call).leases + leaseReleases call = w.leases + leaseAcquires call := by
  cases call with
  | leaseAcquire =>
    have hnone : w.lease = none := h
    simp only [next, leaseReleases, leaseAcquires, leases]
    split_ifs <;> simp_all
  | leaseRelease backend =>
    have hsome : w.lease = some backend := h
    simp [next, leaseReleases, leaseAcquires, leases, hsome]
  | retain _ _ | resolveCopy _ _ _ _ | resolveLaunch _ _ _ _ | queryEvent _ _ _ _
  | cancelQueue _ _ | copy _ _ _ | submit _ _ _ =>
    simp only [next, takeOff]
    split_ifs <;> rfl
  | release _ | rebind _ _ _ | retire _ => rfl

section Histories

variable {history : List ExternalCall}

section

variable (h : balance.Accepts history)

include h

theorem handles_conserved (handle : Nat) :
    times (releasesOf handle) history + (watch history).handles.count handle =
      times (retainsOf handle) history :=
  @Monitor.conserved _ _ balance _ (retainsOf handle) (releasesOf handle)
    (fun w => w.handles.count handle) rfl (fun _ _ hgives => handles_next hgives handle) h

theorem leases_conserved :
    times leaseReleases history + (watch history).leases = times leaseAcquires history :=
  Monitor.conserved rfl (fun _ _ hgives => leases_next hgives) h

theorem Covered.of_accepts : Covered history := by
  constructor
  · intro handle
    have hkept := handles_conserved h handle
    omega
  · have hkept := leases_conserved h
    omega

theorem Returned.of_accepts (hlease : (watch history).lease = none)
    (hret : (watch history).retained = 0) : Returned history := by
  constructor
  · intro handle
    have hkept := handles_conserved h handle
    rw [handles, hret] at hkept
    simpa using hkept
  · have hkept := leases_conserved h
    rw [Watch.leases, if_pos hlease] at hkept
    exact hkept

end

end Histories

namespace CdevRig

variable {M : Type} (rig : CdevRig M)

/-- **The worker's own calls balance**, whoever resolves for it. -/
theorem run_balanced (coordinator : Coordinator (M × CdevSite)) (others : M) (memory : Memory)
    (moves : List CdevMove) :
    let site := (run rig.turn (rig.start coordinator others memory) moves).world.2
    (∀ history, history <+: site.made → Covered history) ∧
    (site.worker.pending = none → Returned site.made) := by
  intro site
  obtain ⟨w, hs, hbooks⟩ := (rig.run_atRest coordinator others memory moves).resting
  refine ⟨fun history hhistory => .of_accepts (hs.balanced.shorter hhistory), fun hpend => ?_⟩
  rw [show site.worker.pending = none from hpend] at hbooks
  obtain ⟨hlease, hret, -⟩ := hbooks
  have hgrounded := hs.books
  exact .of_accepts hs.balanced ((congrArg lease hgrounded).trans hlease)
    ((congrArg retained hgrounded).trans hret)

end CdevRig

/-! ## 4. The worker with the resolver -/

def ExternalCall.resolvesCopy : ExternalCall → Bool
  | .resolveCopy _ _ _ _ => true
  | _ => false

/-- The history `full` has, beside the worker's calls, the releases its resolver made in answering
them.  Of each call to the resolver, `served` holds. -/
inductive Expands (served : ObjectTable → Descriptor → Prop) :
    List ExternalCall → List ExternalCall → Prop
  | nil : Expands served [] []
  | call {made full : List ExternalCall} {call : ExternalCall} (h : Expands served made full)
    (hcall : call.resolvesCopy = false) : Expands served (made ++ [call]) (full ++ [call])
  | resolved {made full : List ExternalCall} (h : Expands served made full) (table : ObjectTable)
    (backend : BackendBinding) (request : Descriptor) (hserved : served table request) :
    Expands served
      (made ++ [.resolveCopy backend request (table.resolveCopy request).status
        (table.resolveCopy request).resolution])
      (full ++ (table.resolveCopy request).released.map .release ++
        [.resolveCopy backend request (table.resolveCopy request).status
          (table.resolveCopy request).resolution])

variable {made full : List ExternalCall}

/-- Calls that are none to the resolver are there as they are. -/
theorem Expands.calls {served : ObjectTable → Descriptor → Prop}
    (h : Expands served made full) (calls : List ExternalCall) :
    (∀ call ∈ calls, call.resolvesCopy = false) →
    Expands served (made ++ calls) (full ++ calls) := by
  induction calls using reverseRecOn with
  | nil =>
    intro _
    simpa using h
  | append_singleton _ call ih =>
    intro hcalls
    have hbefore := ih fun c hc => hcalls c (mem_append_left _ hc)
    rw [← append_assoc, ← append_assoc]
    exact hbefore.call (hcalls call (by simp))

theorem Expands.eq_of_served (h : Expands ObjectTable.Served made full) : full = made := by
  induction h with
  | nil => rfl
  | call _ _ ih => rw [ih]
  | resolved _ table _ _ hserved ih =>
    rw [ih, table.released_of_served hserved, map_nil, append_nil]

/-- **Leases and references balance** where every source resolves whose destination does. -/
theorem leases_and_references_balance {M : Type} (rig : CdevRig M)
    (coordinator : Coordinator (M × CdevSite)) (others : M) (memory : Memory)
    (moves : List CdevMove)
    {full : List ExternalCall}
    (hfull : Expands ObjectTable.Served
      (run rig.turn (rig.start coordinator others memory) moves).world.2.made full) :
    (∀ history, history <+: full → Covered history) ∧
    ((run rig.turn (rig.start coordinator others memory) moves).world.2.worker.pending = none →
      Returned full) := by
  rw [hfull.eq_of_served]
  exact rig.run_balanced coordinator others memory moves

namespace RegionRig

def destinationReference : MemoryReference := { handle := 5, retain := 1, release := 1 }

def sourceReference : MemoryReference := { handle := 6, retain := 1, release := 1 }

def block : ArgumentBlock :=
  { address := 64, magic := sharedArgumentBlockMagic, abiVersion := 1, headerSize := 64,
    entrySize := 32, entryCount := 3, flags := argumentBlockFlagCopyRegion, totalSize := 160
    reserved := [0, 0, 0, 0]
    destination :=
      { kind := argumentKindBuffer, flags := argumentBufferWrite, objectId := 10,
        objectGeneration := 1 }
    source :=
      { kind := argumentKindBuffer, flags := argumentBufferRead, objectId := 11,
        objectGeneration := 1 }
    count := { kind := argumentKindU64, value := 8 } }

/-- Eight bytes of device memory. -/
def object (objectId : Nat) (backendReference : MemoryReference) : ObjectView :=
  { objectId, objectGeneration := 1, objectKind := objectTypeDeviceMemory, byteSize := 8
    backendReference }

/-- A table with the block and the two objects; the source is as its status says. -/
def table (source : SharedStatus) : ObjectTable :=
  { lookup := some fun _ _ kind forWrite =>
      if kind = objectTypeArgumentBlock then
        (.success, { objectId := 9, objectGeneration := 1, objectKind := objectTypeArgumentBlock
                     data := some block, byteSize := 160 })
      else if forWrite then (.success, object 10 destinationReference)
      else (source, object 11 sourceReference) }

def backend : BackendBinding :=
  { api := some { structSize := 200, capabilities := backendCapCopy, copy := true }
    instanceHandle := 1, queue := 1, copyResolver := 1, leaseAcquire := 1, leaseRelease := 1
    generation := 1 }

def copyRequest : Descriptor :=
  { sequence := 1, opcode := .copy, flags := copyFlagRegionArgumentBlock, requestId := 77
    targetId := 9, arguments := #v[1, 0, 0, 0] }

/-- One region copy is queued. -/
def memory : Memory :=
  { rings := fun address =>
      if address = 1 then CopyRig.ring 1 1 fun i => if i = 0 then copyRequest else { sequence := i }
      else if address = 2 then CopyRig.emptyRing 2 1
      else {} }

def rig : CdevRig MemfdWorker := CopyRig.rig.cdevRig (CopyRig.view 1 1) CopyRig.view_apart backend

def start : Host Transports := rig.start (.init {}) (.start 1 1 1) memory

/-- The resolver's call, as it is answered. -/
def resolves (source : SharedStatus) : ExternalCall :=
  .resolveCopy backend copyRequest ((table source).resolveCopy copyRequest).status
    ((table source).resolveCopy copyRequest).resolution

/-- The copy is served with the answer of the table. -/
def moves (source : SharedStatus) : List CdevMove :=
  [.consumeOnce
    { copyResolutions := [(((table source).resolveCopy copyRequest).status,
        ((table source).resolveCopy copyRequest).resolution)] }]

end RegionRig

open RegionRig in
theorem leases_and_references_balance_copy :
    let full : List ExternalCall :=
      [.leaseAcquire backend .success, resolves .success, .retain destinationReference .success,
        .retain sourceReference .success, .copy backend ⟨5, 0, 6, 0, 8⟩ .success,
        .release destinationReference, .release sourceReference, .leaseRelease backend]
    Expands ObjectTable.Served (run rig.turn start (moves .success)).world.2.made full ∧
    Covered full ∧ Returned full := by
  intro full
  have hserved : (table .success).Served copyRequest := by
    intro block hblock _
    have hfound : (table .success).copyBlock copyRequest = .ok RegionRig.block := by rfl
    cases hfound.symm.trans hblock
    rfl
  have hfull :
      Expands ObjectTable.Served (run rig.turn start (moves .success)).world.2.made full := by
    have hlease : Expands ObjectTable.Served [.leaseAcquire backend .success]
        [.leaseAcquire backend .success] := Expands.nil.call rfl
    exact (hlease.resolved (table .success) backend copyRequest hserved).calls
      [.retain destinationReference .success, .retain sourceReference .success,
        .copy backend ⟨5, 0, 6, 0, 8⟩ .success, .release destinationReference,
        .release sourceReference, .leaseRelease backend] (by decide)
  obtain ⟨hcovered, hreturned⟩ := leases_and_references_balance rig (.init {}) (.start 1 1 1) memory
    (moves .success) hfull
  exact ⟨hfull, hcovered full (prefix_refl _), hreturned (by decide +kernel)⟩

open RegionRig in
/-- **A source that is stale, after its destination.**  The resolver releases the destination's
reference, which the table has lent and nobody has retained. -/
theorem unretained_release :
    let full : List ExternalCall :=
      [.leaseAcquire backend .success, .release destinationReference, resolves .staleHandle,
        .leaseRelease backend]
    (table .staleHandle).Borrowed ∧
    Expands (fun table _ => table.Borrowed)
      (run rig.turn start (moves .staleHandle)).world.2.made full ∧
    times (releasesOf 5) full = 1 ∧ times (retainsOf 5) full = 0 := by
  intro full
  have hborrowed : (table .staleHandle).Borrowed := by
    rintro lookup ⟨⟩ id generation forWrite
    cases forWrite <;> rfl
  refine ⟨hborrowed, ?_, by decide, by decide⟩
  have hlease : Expands (fun table _ => table.Borrowed) [.leaseAcquire backend .success]
      [.leaseAcquire backend .success] := Expands.nil.call rfl
  exact (hlease.resolved (table .staleHandle) backend copyRequest hborrowed).calls
    [.leaseRelease backend] (by decide)

end MetaFlux.Transport
