/-
# Sequence ranges

A range of lifecycle sequence numbers is reserved at the tail of a queue and retired at its head.
The queue is threaded through the range records (`nextTailSlot`); its two ends stand in the control
block.  Every change of the control block is made under the block's latch, by the publisher, in the
name of a view publish record that is claimed for it and finished after it.

The programs of this development are whole calls: nothing else touches the mapping while one runs.
A compare-exchange against the word the same call has just read is therefore a store, and a loop
that repeats until such an exchange goes through takes one turn.  Where the expected word is put
together from something else, the exchange and both its outcomes stand.
-/
import MetaFlux.Registry.Records

namespace MetaFlux.Registry

open Base

abbrev Program : Type → Type := StateM Mapping

/-! ## 1. Records and publishers -/

def claimRecord {α ρ : Type} (t : Slots Mapping α ρ) (capacity : Nat) (reusable : α → Bool)
    (state : α) (auxiliary : Nat) : Program (Except SharedStatus (Nat × Nat)) := do
  match Slots.search recordTagMaxNormal reusable (t.read (← get)) false (List.range capacity) with
  | .error exhausted => return .error (if exhausted then .resourceExhausted else .wouldBlock)
  | .ok (slot, tag) =>
    t.store slot (packRecord tag state auxiliary)
    return .ok (slot, tag)

inductive PublisherKind where
  | view | telemetry
deriving DecidableEq, Repr

def readPublisher : PublisherKind → Mapping → Tagged PublisherState
  | .view, s => s.viewPublisher
  | .telemetry, s => s.telemetryPublisher

def writePublisher : PublisherKind → Tagged PublisherState → Mapping → Mapping
  | .view, word, s => { s with viewPublisher := word }
  | .telemetry, word, s => { s with telemetryPublisher := word }

def acquirePublisher (kind : PublisherKind) (tag slot : Nat) : Program SharedStatus := do
  if (readPublisher kind (← get)).state ≠ .idle then
    return .wouldBlock
  modify (writePublisher kind (packRecord tag .writing slot))
  return .success

def releasePublisher (kind : PublisherKind) (tag slot : Nat) : Program Unit := do
  if readPublisher kind (← get) = packRecord tag .writing slot then
    modify (writePublisher kind (packRecord tag .idle recordSlotNone))

/-- A publish record is brought to the state it is to end in, and its publisher let go. -/
def settlePublication {ρ : Type} (t : Slots Mapping PublishState ρ) (kind : PublisherKind)
    (tag slot auxiliary : Nat) (settled : PublishState) : Program SharedStatus := do
  let current := (← t.cell slot).word
  if current.tag ≠ tag then
    return .staleHandle
  if current.state ≠ .terminal ∧ current.state ≠ settled then
    t.store slot (packRecord tag settled auxiliary)
  releasePublisher kind tag slot
  return .success

def terminalizePublication {ρ : Type} (t : Slots Mapping PublishState ρ)
    (tag slot auxiliary : Nat) (settled : PublishState) : Program SharedStatus := do
  let current := (← t.cell slot).word
  if current.tag ≠ tag then
    return .staleHandle
  if current.state = .terminal then
    return .success
  if current.state ≠ settled then
    return .retry
  t.store slot (packRecord tag .terminal auxiliary)
  return .success

def finishPublication {ρ : Type} (t : Slots Mapping PublishState ρ) (kind : PublisherKind)
    (tag slot auxiliary : Nat) (settled : PublishState) : Program SharedStatus := do
  let status ← settlePublication t kind tag slot auxiliary settled
  if status ≠ .success then
    return status
  terminalizePublication t tag slot auxiliary settled

def settleViewPublication : (tag slot rangeSlot : Nat) → PublishState → Program SharedStatus :=
  settlePublication viewPublicationTable .view

def terminalizeViewPublication : (tag slot rangeSlot : Nat) → PublishState → Program SharedStatus :=
  terminalizePublication viewPublicationTable

def finishViewPublication : (tag slot rangeSlot : Nat) → PublishState → Program SharedStatus :=
  finishPublication viewPublicationTable .view

def finishTelemetryPublication : (tag slot targetBank : Nat) → PublishState →
    Program SharedStatus :=
  finishPublication telemetryPublicationTable .telemetry

def rangeReusable : RangeState → Bool
  | .free | .retired => true
  | _ => false

def publishReusable : PublishState → Bool
  | .free | .terminal => true
  | _ => false

def claimViewPublication (rangeSlot : Nat) : Program (Except SharedStatus (Nat × Nat)) :=
  claimRecord viewPublicationTable ordinaryViewPublishCapacity publishReusable
    .initializing rangeSlot

/-! ## 2. The control block -/

def onControl (f : ViewControl → ViewControl) (s : Mapping) : Mapping :=
  { s with control := f s.control }

def setControlLatch (latch : Nat) : Program Unit := modify (onControl fun c => { c with latch })

/-- A latch that is odd is being written under, and the last two numbers are not given out. -/
def latchUnusable (latch : Nat) : Prop := latch % 2 = 1 ∨ uint64Max - 2 < latch
deriving Decidable

def stableHighWater : Program (Except SharedStatus Nat) := do
  let control := (← get).control
  if control.latch % 2 = 1 then
    return .error .retry
  return .ok control.allocationHighWater

def transactionId (tag slot : Nat) : Nat := tag * 2 ^ 32 + slot

/-- The range is opened at the tail of the queue, right above the high water mark. -/
def linkRange (slot tag rangeEnd : Nat) (s : Mapping) : Mapping :=
  let predecessor := s.control.reservationTailSlot
  let highWater := s.control.allocationHighWater
  let generation := (s.control.gateGeneration + 1) % 2 ^ 64
  let s := rangeTable.amend slot (fun range =>
    { range with
      rangeBegin := highWater + 1
      rangeEnd
      unusedSuffixBegin := 0
      unusedSuffixEnd := 0
      tokenGeneration := generation }) s
  let s :=
    if predecessor ≠ recordSlotNone ∧ predecessor < lifecycleRangeCapacity then
      rangeTable.amend predecessor (fun range => { range with nextTailSlot := slot }) s
    else s
  let s := onControl (fun c =>
    { c with
      allocationHighWater := rangeEnd
      reservationHeadSlot := if predecessor = recordSlotNone then slot else c.reservationHeadSlot
      nextCommittableSlot := if predecessor = recordSlotNone then slot else c.nextCommittableSlot
      reservationTailSlot := slot
      gateGeneration := generation }) s
  rangeTable.restate slot (packRecord tag .open Disposition.none.code) s

def dispositionOf (token : LifecycleRangeToken) (usedThrough : Nat) : Disposition :=
  if usedThrough < token.rangeBegin then .whole
  else if usedThrough < token.rangeEnd then .suffix
  else .complete

/-- The head of the queue is retired, and the cursor moved to its end. -/
def unlinkRange (token : LifecycleRangeToken) (usedThrough : Nat) (s : Mapping) : Mapping :=
  let disposition := dispositionOf token usedThrough
  let s := rangeTable.amend token.rangeSlot (fun range =>
    { range with
      unusedSuffixBegin := if usedThrough < token.rangeEnd then usedThrough + 1 else 0
      unusedSuffixEnd := if usedThrough < token.rangeEnd then token.rangeEnd else 0
      retirementDisposition := disposition }) s
  let next := (s.ranges token.rangeSlot).payload.nextTailSlot
  let s := onControl (fun c =>
    { c with
      publicationCursor := token.rangeEnd
      reservationHeadSlot := next
      nextCommittableSlot := next
      reservationTailSlot :=
        if next = recordSlotNone then recordSlotNone else c.reservationTailSlot }) s
  rangeTable.restate token.rangeSlot (packRecord token.rangeTag .retired disposition.code) s

/-! ## 3. Reserving -/

/-- From the two claimed records to the open range. -/
def reserveClaimed (owner : Owner)
    (length deadlineNs rangeSlot rangeTag publishSlot publishTag : Nat) :
    Program (Except SharedStatus LifecycleRangeToken) := do
  let viewId := (← get).viewId
  let initializing := packRecord rangeTag .initializing Disposition.none.code
  let prepared := packRecord rangeTag .prepared Disposition.none.code
  let retired := packRecord rangeTag .retired Disposition.whole.code
  let finish := finishViewPublication publishTag publishSlot rangeSlot
  rangeTable.fill rangeSlot fun range =>
    { range with
      viewId
      owner
      deadlineNs
      transactionId := transactionId rangeTag rangeSlot
      nextTailSlot := recordSlotNone
      retirementDisposition := .none }
  viewPublicationTable.fill publishSlot fun publication =>
    { publication with
      viewId
      owner
      deadlineNs
      transactionId := transactionId rangeTag rangeSlot
      rangeSlot }
  if let some _ ← rangeTable.exchange rangeSlot initializing prepared then
    let _ ← viewPublicationTable.exchange publishSlot
      (packRecord publishTag .initializing rangeSlot)
      (packRecord publishTag .aborted rangeSlot)
    let _ ← finish .aborted
    return .error .retry
  if let some _ ← viewPublicationTable.exchange publishSlot
      (packRecord publishTag .initializing rangeSlot)
      (packRecord publishTag .prepared rangeSlot) then
    let _ ← rangeTable.exchange rangeSlot prepared retired
    let _ ← finish .aborted
    return .error .retry
  let status ← acquirePublisher .view publishTag publishSlot
  if status ≠ .success then
    let _ ← rangeTable.exchange rangeSlot prepared retired
    let _ ← finish .aborted
    return .error status
  let even := (← get).control.latch
  if latchUnusable even then
    let _ ← rangeTable.exchange rangeSlot prepared retired
    let _ ← finish .aborted
    return .error (if even % 2 = 1 then .retry else .overflow)
  setControlLatch (even + 1)
  let s ← get
  if s.viewAdmission.state ≠ .open then
    setControlLatch (even + 2)
    let _ ← rangeTable.exchange rangeSlot prepared retired
    let _ ← finish .aborted
    return .error .terminalView
  match checkedAddBelowTerminal s.control.allocationHighWater length uint64Max with
  | none =>
    setControlLatch (even + 2)
    let _ ← rangeTable.exchange rangeSlot prepared retired
    let _ ← finish .aborted
    return .error .overflow
  | some rangeEnd =>
    modify (linkRange rangeSlot rangeTag rangeEnd)
    setControlLatch (even + 2)
    let status ← finish .published
    if status ≠ .success then
      return .error status
    let range := ((← get).ranges rangeSlot).payload
    return .ok
      { viewId
        rangeBegin := range.rangeBegin
        rangeEnd := range.rangeEnd
        tokenGeneration := range.tokenGeneration
        rangeSlot
        rangeTag }

def reserveLifecycleRange (owner : Option Owner) (length deadlineNs : Nat) :
    Program (Except SharedStatus LifecycleRangeToken) := do
  if (← get).extended = false then
    return .error .notSupported
  if length = 0 then
    return .error .invalidArgument
  match owner with
  | none => return .error .systemError
  | some owner =>
    match ← claimRecord rangeTable lifecycleRangeCapacity rangeReusable .initializing
        Disposition.none.code with
    | .error status => return .error status
    | .ok (rangeSlot, rangeTag) =>
      match ← claimViewPublication rangeSlot with
      | .error status =>
        let _ ← rangeTable.exchange rangeSlot
          (packRecord rangeTag .initializing Disposition.none.code)
          (packRecord rangeTag .retired Disposition.whole.code)
        return .error status
      | .ok (publishSlot, publishTag) =>
        reserveClaimed owner length deadlineNs rangeSlot rangeTag publishSlot publishTag

/-! ## 4. Retiring -/

/-- The predecessor of the range's first number, as a 64 bit word. -/
def beforeRange (rangeBegin : Nat) : Nat := (rangeBegin + uint64Max) % 2 ^ 64

/-- From the claimed record to the retired range. -/
def retireClaimed (token : LifecycleRangeToken) (usedThrough publishSlot publishTag : Nat) :
    Program SharedStatus := do
  let s ← get
  let range := (s.ranges token.rangeSlot).payload
  let finish := finishViewPublication publishTag publishSlot token.rangeSlot
  viewPublicationTable.fill publishSlot fun publication =>
    { publication with
      viewId := s.viewId
      owner := range.owner
      transactionId := range.transactionId
      rangeSlot := token.rangeSlot }
  if let some _ ← viewPublicationTable.exchange publishSlot
      (packRecord publishTag .initializing token.rangeSlot)
      (packRecord publishTag .prepared token.rangeSlot) then
    let _ ← finish .aborted
    return .retry
  let status ← acquirePublisher .view publishTag publishSlot
  if status ≠ .success then
    let _ ← finish .aborted
    return status
  let even := (← get).control.latch
  if latchUnusable even then
    let _ ← finish .aborted
    return if uint64Max - 2 < even then .overflow else .retry
  setControlLatch (even + 1)
  if (← get).control.reservationHeadSlot ≠ token.rangeSlot then
    setControlLatch (even + 2)
    let _ ← finish .aborted
    return .wouldBlock
  modify (unlinkRange token usedThrough)
  setControlLatch (even + 2)
  finish .published

def retireLifecycleRange (token : LifecycleRangeToken) (usedThrough : Nat) :
    Program SharedStatus := do
  let s ← get
  if s.extended = false then
    return .notSupported
  if token.viewId ≠ s.viewId ∨ lifecycleRangeCapacity ≤ token.rangeSlot ∨
      usedThrough < beforeRange token.rangeBegin ∨ token.rangeEnd < usedThrough then
    return .invalidArgument
  let range := s.ranges token.rangeSlot
  if range.word ≠ packRecord token.rangeTag .open Disposition.none.code ∨
      range.payload.rangeBegin ≠ token.rangeBegin ∨ range.payload.rangeEnd ≠ token.rangeEnd ∨
      range.payload.tokenGeneration ≠ token.tokenGeneration then
    return .staleHandle
  match ← claimViewPublication token.rangeSlot with
  | .error status => return status
  | .ok (publishSlot, publishTag) => retireClaimed token usedThrough publishSlot publishTag

end MetaFlux.Registry
