/-
# The shared registry

The registry is one mapping that the daemon and its clients share: the admission word of the view,
the control block with the queue of sequence ranges, the devices with their admission words and
fences, two banks of telemetry, and, in a mapping with the recovery extension, six tables of tagged
records.

A packed word is a record with a field for each part of it, cut to the width the part has in the
word; `packRecord`, `ViewWord.pack` and `DeviceWord.pack` are the only ways one is made.  Of a
record's payload only the fields are kept that some operation reads.
-/
import MetaFlux.Base.Slots
import MetaFlux.Recovery.Model
import MetaFlux.Transport.Ring

namespace MetaFlux.Registry

open Base
export MetaFlux.Recovery (ViewState DeviceState AttemptState LeaseState UpdateState PublishState
  RangeState ViewId checkedAddBelowTerminal)
export MetaFlux.Transport (SharedStatus)

/-! ## 1. Constants -/

def uint32Max : Nat := 2 ^ 32 - 1

def uint64Max : Nat := 2 ^ 64 - 1

/-- The last tag that a claim gives; the terminal one is that of the records kept for closing. -/
def recordTagMaxNormal : Nat := 0xfffffe

def recordTagTerminal : Nat := 0xffffff

def recordSlotNone : Nat := 0xffffff

def viewGenerationTerminal : Nat := 0xffffffffffffff

def deviceGenerationMaxNormal : Nat := 0xfffffe

def deviceGenerationTerminal : Nat := 0xffffff

def admissionAttemptCapacity : Nat := 16

def admissionLeaseCapacity : Nat := 32

def deviceUpdateCapacity : Nat := 16

def lifecycleRangeCapacity : Nat := 16

/-- Two more view publish records are kept for closing, and one more telemetry publish record. -/
def ordinaryViewPublishCapacity : Nat := 16

def ordinaryTelemetryPublishCapacity : Nat := 8

/-- The records by which the view is closed and then ended. -/
def closeClosingSlot : Nat := ordinaryViewPublishCapacity

def closeTerminalSlot : Nat := ordinaryViewPublishCapacity + 1

def telemetryTerminalSlot : Nat := ordinaryTelemetryPublishCapacity

/-! ## 2. Words -/

inductive PublisherState where
  | idle | writing | quarantined
deriving DecidableEq, Repr

inductive GateState where
  | «open» | closing | terminal
deriving DecidableEq, Repr

inductive TelemetryState where
  | unavailable | ready | terminal
deriving DecidableEq, Repr

/-- The state a fence gives its device. -/
inductive DeviceCondition where
  | offline | online | lost | removed
deriving DecidableEq, Repr

def DeviceCondition.code : DeviceCondition → Nat
  | .offline => 0
  | .online => 1
  | .lost => 2
  | .removed => 3

/-- What became of a range that is retired: nothing of it was used, or a part, or all of it.  It is
the auxiliary part of the range's word. -/
inductive Disposition where
  | none | whole | suffix | complete
deriving DecidableEq, Repr

def Disposition.code : Disposition → Nat
  | .none => 0
  | .whole => 1
  | .suffix => 2
  | .complete => 3

inductive TelemetryPublishKind where
  | normal | terminal
deriving DecidableEq, Repr

/-- Every part is cut to the width it has in the word. -/
def packRecord {α : Type} (tag : Nat) (state : α) (auxiliary : Nat) : Tagged α :=
  ⟨tag % 2 ^ 24, state, auxiliary % 2 ^ 24⟩

/-- The admission word of the view. -/
structure ViewWord where
  generation : Nat
  state : ViewState
deriving DecidableEq, Repr

def ViewWord.pack (generation : Nat) (state : ViewState) : ViewWord := ⟨generation % 2 ^ 56, state⟩

/-- The admission word of a device.  The tag is that of the update that holds it. -/
structure DeviceWord where
  generation : Nat
  state : DeviceState
  updateTag : Nat
deriving DecidableEq, Repr

def DeviceWord.pack (generation : Nat) (state : DeviceState) (updateTag : Nat) : DeviceWord :=
  ⟨generation % 2 ^ 24, state, updateTag % 2 ^ 32⟩

def DeviceWord.closed : DeviceWord := .pack deviceGenerationTerminal .closed 0

/-- Which bank of telemetry is shown, and whether it may be read. -/
structure BankState where
  bank : Nat
  state : TelemetryState
deriving DecidableEq, Repr

/-! ## 3. Records -/

/-- A process: its number may be used again, but not with the same start. -/
structure Owner where
  startTimeTicks : Nat := 0
  pid : Nat := 0
  reserved : Nat := 0
deriving DecidableEq, Repr

/-- An owner with a reserved word that is not zero is nobody. -/
def sameOwner (left right : Owner) : Prop :=
  left.pid = right.pid ∧ left.startTimeTicks = right.startTimeTicks ∧ left.reserved = 0 ∧
    right.reserved = 0
deriving Decidable

/-- What a fence says of its device from a sequence number on. -/
structure FenceSnapshot where
  identityRecordId : Nat
  lifecycleSequence : Nat
  epoch : Nat := 0
  effectiveQuotaBytes : Nat := 0
  policyBits : Nat := 0
  deviceState : DeviceCondition := .online
deriving DecidableEq, Repr

/-- What an update keeps of the fence that it is to publish. -/
def fenceFingerprint (fence : FenceSnapshot) : Nat :=
  fence.identityRecordId ^^^ fence.lifecycleSequence ^^^ fence.epoch ^^^
    ((fence.effectiveQuotaBytes + 0x9e3779b97f4a7c15) % 2 ^ 64) ^^^
    ((fence.policyBits + fence.deviceState.code * 2 ^ 32) % 2 ^ 64)

/-- What the mapping holds of one device: its identity, its admission word and its fence under the
fence's latch. -/
structure Device where
  identityRecordId : Nat
  committedGeneration : Nat
  admission : DeviceWord
  fence : FenceSnapshot
  fenceLatch : Nat := 0
deriving DecidableEq, Repr

structure Counters where
  committedWorkItems : Nat := 0
  completedWorkItems : Nat := 0
  activeTimeNs : Nat := 0
  memoryActiveTimeNs : Nat := 0
  memoryUsedBytes : Nat := 0
  memoryCapacityBytes : Nat := 0
  sampleTimeNs : Nat := 0
deriving DecidableEq, Repr

structure TelemetryRow where
  identityRecordId : Nat
  observedLifecycleSequence : Nat
  counters : Counters := {}
deriving DecidableEq, Repr

structure TelemetryControl where
  latch : Nat := 0
  snapshotSequence : Nat := 0
  activeBank : BankState := ⟨0, .unavailable⟩
  rowCount : Nat := 0
  publishGeneration : Nat := 0
deriving DecidableEq, Repr

/-- The cursor, the queue of ranges by its ends, and the gate. -/
structure ViewControl where
  latch : Nat := 0
  allocationHighWater : Nat := 0
  publicationCursor : Nat := 0
  reservationHeadSlot : Nat := recordSlotNone
  reservationTailSlot : Nat := recordSlotNone
  nextCommittableSlot : Nat := recordSlotNone
  gateGeneration : Nat := 1
  gateState : GateState := .open
  mappingTerminal : Bool := false
deriving DecidableEq, Repr

structure Attempt where
  owner : Owner := {}
  deadlineNs : Nat := 0
deriving DecidableEq, Repr

/-- A lease keeps what it was validated against, and its attempt. -/
structure Lease where
  identityRecordId : Nat := 0
  viewValidationGeneration : Nat := 0
  deviceValidationGeneration : Nat := 0
  owner : Owner := {}
  attemptSlot : Nat := recordSlotNone
  attemptTag : Nat := 0
deriving DecidableEq, Repr

/-- An update keeps what it expects and what it is to write, so that somebody else can finish it. -/
structure DeviceUpdate where
  viewId : ViewId := ⟨0, 0⟩
  owner : Owner := {}
  deadlineNs : Nat := 0
  expectedDeviceControl : DeviceWord := ⟨0, .open, 0⟩
  targetDeviceControl : DeviceWord := ⟨0, .open, 0⟩
  intendedFenceHash : Nat := 0
  viewPublishSlot : Nat := recordSlotNone
  publishTag : Nat := 0
  newValidationGeneration : Nat := 0
  /-- The identity and the words of the fence, which the record keeps one by one. -/
  intended : FenceSnapshot := ⟨0, 0, 0, 0, 0, .offline⟩
  expectedFenceLatch : Nat := 0
  targetFenceLatch : Nat := 0
  deviceIndex : Nat := 0
deriving DecidableEq, Repr

/-- A range is linked to the one behind it. -/
structure LifecycleRange where
  viewId : ViewId := ⟨0, 0⟩
  transactionId : Nat := 0
  owner : Owner := {}
  deadlineNs : Nat := 0
  rangeBegin : Nat := 0
  rangeEnd : Nat := 0
  unusedSuffixBegin : Nat := 0
  unusedSuffixEnd : Nat := 0
  tokenGeneration : Nat := 0
  nextTailSlot : Nat := recordSlotNone
  retirementDisposition : Disposition := .none
deriving DecidableEq, Repr

structure ViewPublication where
  viewId : ViewId := ⟨0, 0⟩
  owner : Owner := {}
  deadlineNs : Nat := 0
  transactionId : Nat := 0
  rangeSlot : Nat := recordSlotNone
deriving DecidableEq, Repr

structure TelemetryPublication where
  viewId : ViewId := ⟨0, 0⟩
  owner : Owner := {}
  deadlineNs : Nat := 0
  expectedLatch : Nat := 0
  targetLatch : Nat := 0
  expectedSnapshotSequence : Nat := 0
  targetSnapshotSequence : Nat := 0
  oldBankState : BankState := ⟨0, .unavailable⟩
  targetBankState : BankState := ⟨0, .unavailable⟩
  expectedControlHash : Nat := 0
  targetControlHash : Nat := 0
  publicationMarker : Bool := false
  operationKind : TelemetryPublishKind := .normal
  targetBank : Nat := 0
deriving DecidableEq, Repr

/-! ## 4. The mapping -/

/-- The whole mapping.  The tables are there with the recovery extension only. -/
structure Mapping where
  /-- Whether the mapping has the recovery extension. -/
  extended : Bool
  viewId : ViewId
  deviceCount : Nat
  viewAdmission : ViewWord
  control : ViewControl := {}
  devices : Nat → Device
  telemetryControl : TelemetryControl
  telemetryBanks : Nat → Nat → TelemetryRow
  viewPublisher : Tagged PublisherState := packRecord 0 .idle recordSlotNone
  telemetryPublisher : Tagged PublisherState := packRecord 0 .idle recordSlotNone
  attempts : Nat → Cell AttemptState Attempt
  leases : Nat → Cell LeaseState Lease
  updates : Nat → Cell UpdateState DeviceUpdate
  ranges : Nat → Cell RangeState LifecycleRange
  viewPublications : Nat → Cell PublishState ViewPublication
  telemetryPublications : Nat → Cell PublishState TelemetryPublication

/-- The tables, each with its own kind of record. -/
def attemptTable : Slots Mapping AttemptState Attempt where
  read := Mapping.attempts
  write s attempts := { s with attempts }

def leaseTable : Slots Mapping LeaseState Lease where
  read := Mapping.leases
  write s leases := { s with leases }

def updateTable : Slots Mapping UpdateState DeviceUpdate where
  read := Mapping.updates
  write s updates := { s with updates }

def rangeTable : Slots Mapping RangeState LifecycleRange where
  read := Mapping.ranges
  write s ranges := { s with ranges }

def viewPublicationTable : Slots Mapping PublishState ViewPublication where
  read := Mapping.viewPublications
  write s viewPublications := { s with viewPublications }

def telemetryPublicationTable : Slots Mapping PublishState TelemetryPublication where
  read := Mapping.telemetryPublications
  write s telemetryPublications := { s with telemetryPublications }

/-! ## 5. Tokens, and who calls -/

/-- What a client shows to commit its lease: the slots and tags of both records. -/
structure AdmissionLeaseToken where
  viewId : ViewId
  identityRecordId : Nat
  viewValidationGeneration : Nat
  deviceValidationGeneration : Nat
  attemptSlot : Nat
  attemptTag : Nat
  leaseSlot : Nat
  leaseTag : Nat
deriving DecidableEq, Repr

structure LifecycleRangeToken where
  viewId : ViewId
  rangeBegin : Nat
  rangeEnd : Nat
  tokenGeneration : Nat
  rangeSlot : Nat
  rangeTag : Nat
deriving DecidableEq, Repr

/-- Of a handle only what a registry checks; the object it names is the client's own business. -/
structure GenerationHandle where
  viewId : ViewId
  identityRecordId : Nat
  deviceGeneration : Nat
deriving DecidableEq, Repr

/-- A process that calls: what `currentOwnerIdentity` answers it, if anything.  Publishing a fence
asks twice. -/
structure Caller where
  owner : Option Owner
  again : Option Owner := owner
deriving DecidableEq, Repr

/-- What the system says of the owner of a record when `recover` comes to it. -/
structure Inquiry where
  alive : Bool
  now : Nat
deriving DecidableEq, Repr

inductive RecordKind where
  | attempt | update | telemetryPublication | viewPublication | range
deriving DecidableEq, Repr

abbrev Inquiries : Type := RecordKind → Nat → Inquiry

/-! ## 6. A new mapping -/

/-- An identity as it is passed in, with what `initializeView` checks of the rest of it. -/
structure DeviceIdentity where
  identityRecordId : Nat
  committedGeneration : Nat
  reservedWordsZero : Bool := true
deriving DecidableEq, Repr

/-- The checks of one device, and that no identity before it is the same. -/
def acceptsDevices : List (DeviceIdentity × FenceSnapshot) → List Nat → Bool
  | [], _ => true
  | (identity, fence) :: rest, earlier =>
    identity.identityRecordId != 0 && identity.committedGeneration != 0 &&
      fence.identityRecordId == identity.identityRecordId && fence.lifecycleSequence != 0 &&
      fence.deviceState == .online && identity.reservedWordsZero &&
      !earlier.contains identity.identityRecordId &&
      acceptsDevices rest (identity.identityRecordId :: earlier)

def highestSequence (fences : List FenceSnapshot) : Nat :=
  fences.foldl (fun highest fence => max highest fence.lifecycleSequence) 0

def unusedDevice : Device := ⟨0, 0, .pack 0 .closed 0, ⟨0, 0, 0, 0, 0, .offline⟩, 0⟩

def initialDevice (entry : DeviceIdentity × FenceSnapshot) : Device where
  identityRecordId := entry.1.identityRecordId
  committedGeneration := entry.1.committedGeneration
  admission := .pack 1 .open 0
  fence := entry.2

def initialRow (entry : DeviceIdentity × FenceSnapshot) : TelemetryRow where
  identityRecordId := entry.1.identityRecordId
  observedLifecycleSequence := entry.2.lifecycleSequence

/-- The records kept for closing are prepared under the terminal tag. -/
def initialPublication {ρ : Type} (ordinary auxiliary : Nat) (payload : ρ) (slot : Nat) :
    Cell PublishState ρ where
  word :=
    if slot < ordinary then packRecord 0 .free auxiliary
    else packRecord recordTagTerminal .prepared auxiliary
  payload

def initialMapping (extended : Bool) (viewId : ViewId)
    (entries : List (DeviceIdentity × FenceSnapshot)) : Mapping where
  extended
  viewId
  deviceCount := entries.length
  viewAdmission := .pack 1 .open
  control :=
    { allocationHighWater := highestSequence (entries.map Prod.snd)
      publicationCursor := highestSequence (entries.map Prod.snd) }
  devices := fun i => (entries.map initialDevice).getD i unusedDevice
  telemetryControl := { rowCount := entries.length }
  telemetryBanks := fun _ i => (entries.map initialRow).getD i ⟨0, 0, {}⟩
  attempts := fun _ => { word := packRecord 0 .idle 0, payload := {} }
  leases := fun _ => { word := packRecord 0 .free 0, payload := {} }
  updates := fun _ => { word := packRecord 0 .free recordSlotNone, payload := {} }
  ranges := fun _ => { word := packRecord 0 .free Disposition.none.code, payload := {} }
  viewPublications := initialPublication ordinaryViewPublishCapacity recordSlotNone {}
  telemetryPublications := initialPublication ordinaryTelemetryPublishCapacity 0 {}

def initializeView (extended : Bool) (viewId : ViewId) (processViewRevision : Nat)
    (identities : List DeviceIdentity) (fences : List FenceSnapshot) :
    Except SharedStatus Mapping :=
  if identities.length ≠ fences.length ∨ uint32Max < identities.length ∨
      viewId.daemonIncarnation = 0 ∨ viewId.viewSerial = 0 ∨ processViewRevision = 0 ∨
      acceptsDevices (identities.zip fences) [] = false then
    .error .invalidArgument
  else .ok (initialMapping extended viewId (identities.zip fences))

end MetaFlux.Registry
