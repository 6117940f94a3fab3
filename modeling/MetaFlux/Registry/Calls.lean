/-
# The calls of a registry view

Admission, fences, identities, telemetry and closing, each as a program on the mapping, and the
whole interface as one type of calls.  A mapping without the recovery extension has its own way of
publishing a fence, of publishing telemetry and of closing; what only the extension supports answers
`notSupported` there.
-/
import MetaFlux.Registry.Recovery

namespace MetaFlux.Registry

open Base

/-! ## 1. Admission -/

def attemptReusable : AttemptState → Bool
  | .idle | .exited => true
  | _ => false

def leaseReusable : LeaseState → Bool
  | .free | .released | .revoked | .tombstoned => true
  | _ => false

/-- The attempt has seen both words open, and asks for a lease. -/
def claimLease (owner : Owner) (index attemptSlot attemptTag : Nat) (view : ViewWord)
    (device : DeviceWord) : Program (Except SharedStatus AdmissionLeaseToken) := do
  let claiming := packRecord attemptTag (.claiming : AttemptState) 0
  let exited := packRecord attemptTag (.exited : AttemptState) 0
  match ← claimRecord leaseTable admissionLeaseCapacity leaseReusable .initializing attemptTag with
  | .error status =>
    let _ ← attemptTable.exchange attemptSlot claiming exited
    return .error status
  | .ok (leaseSlot, leaseTag) =>
    let identityRecordId := ((← get).devices index).identityRecordId
    leaseTable.fill leaseSlot fun _ =>
      { identityRecordId
        viewValidationGeneration := view.generation
        deviceValidationGeneration := device.generation
        owner
        attemptSlot
        attemptTag }
    if let some _ ← leaseTable.exchange leaseSlot (packRecord leaseTag .initializing attemptTag)
        (packRecord leaseTag .reserved attemptTag) then
      let _ ← attemptTable.exchange attemptSlot claiming exited
      return .error .retry
    let s ← get
    if s.viewAdmission ≠ view ∨ (s.devices index).admission ≠ device then
      let _ ← leaseTable.exchange leaseSlot (packRecord leaseTag .reserved attemptTag)
        (packRecord leaseTag .revoked attemptTag)
      let _ ← attemptTable.exchange attemptSlot claiming exited
      return .error .retry
    if let some _ ← attemptTable.exchange attemptSlot claiming (packRecord attemptTag .ready 0) then
      let _ ← leaseTable.exchange leaseSlot (packRecord leaseTag .reserved attemptTag)
        (packRecord leaseTag .revoked attemptTag)
      return .error .retry
    let s ← get
    return .ok
      { viewId := s.viewId
        identityRecordId := (s.leases leaseSlot).payload.identityRecordId
        viewValidationGeneration := (s.leases leaseSlot).payload.viewValidationGeneration
        deviceValidationGeneration := (s.leases leaseSlot).payload.deviceValidationGeneration
        attemptSlot
        attemptTag
        leaseSlot
        leaseTag }

def beginAdmission (caller : Caller) (index deadlineNs operationCookie targetCookie : Nat) :
    Program (Except SharedStatus AdmissionLeaseToken) := do
  let s ← get
  if s.extended = false then
    return .error .notSupported
  if s.deviceCount ≤ index ∨ operationCookie = 0 ∨ targetCookie = 0 then
    return .error .invalidArgument
  if s.viewAdmission.state ≠ .open then
    return .error .terminalView
  if (s.devices index).admission.state ≠ .open then
    return .error (if (s.devices index).admission.state = .closed then .deviceLost else .retry)
  match caller.owner with
  | none => return .error .systemError
  | some owner =>
    match ← claimRecord attemptTable admissionAttemptCapacity attemptReusable .entering 0 with
    | .error status => return .error status
    | .ok (attemptSlot, attemptTag) =>
      attemptTable.fill attemptSlot fun _ => { owner, deadlineNs }
      if let some _ ← attemptTable.exchange attemptSlot (packRecord attemptTag .entering 0)
          (packRecord attemptTag .initializing 0) then
        return .error .retry
      let s ← get
      if s.viewAdmission.state ≠ .open ∨ (s.devices index).admission.state ≠ .open then
        let _ ← attemptTable.exchange attemptSlot (packRecord attemptTag .initializing 0)
          (packRecord attemptTag .exited 0)
        return .error (if s.viewAdmission.state = .open then .retry else .terminalView)
      if let some _ ← attemptTable.exchange attemptSlot (packRecord attemptTag .initializing 0)
          (packRecord attemptTag .claiming 0) then
        return .error .retry
      claimLease owner index attemptSlot attemptTag s.viewAdmission (s.devices index).admission

/-- The first device that carries the identity, or the number of devices. -/
def findIdentity (s : Mapping) (identityRecordId : Nat) : Nat :=
  ((List.range s.deviceCount).find? fun i =>
    decide ((s.devices i).identityRecordId = identityRecordId)).getD s.deviceCount

/-- The token is of this view, and its slots are slots. -/
def AdmissionLeaseToken.fits (token : AdmissionLeaseToken) (s : Mapping) : Prop :=
  token.viewId = s.viewId ∧ token.attemptSlot < admissionAttemptCapacity ∧
    token.leaseSlot < admissionLeaseCapacity
deriving Decidable

def commitAdmission (token : AdmissionLeaseToken) : Program SharedStatus := do
  let s ← get
  if s.extended = false then
    return .notSupported
  if ¬ token.fits s then
    return .staleHandle
  let lease := s.leases token.leaseSlot
  if (s.attempts token.attemptSlot).word ≠ packRecord token.attemptTag .ready 0 ∨
      lease.payload.identityRecordId ≠ token.identityRecordId ∨
      lease.payload.attemptSlot ≠ token.attemptSlot ∨
      lease.payload.attemptTag ≠ token.attemptTag then
    return .staleHandle
  let index := findIdentity s token.identityRecordId
  if index = s.deviceCount then
    return .staleHandle
  let expectedView := ViewWord.pack token.viewValidationGeneration .open
  let expectedDevice := DeviceWord.pack token.deviceValidationGeneration .open 0
  if s.viewAdmission ≠ expectedView ∨ (s.devices index).admission ≠ expectedDevice then
    return .retry
  let committing := packRecord token.leaseTag (.committing : LeaseState) token.attemptTag
  match ← leaseTable.exchange token.leaseSlot
      (packRecord token.leaseTag .reserved token.attemptTag) committing with
  | some found =>
    return if found.tag = token.leaseTag ∧ (found.state = .committed ∨ found.state = .published)
      then .success else .staleHandle
  | none =>
    let s ← get
    if s.viewAdmission ≠ expectedView ∨ (s.devices index).admission ≠ expectedDevice then
      let _ ← leaseTable.exchange token.leaseSlot committing
        (packRecord token.leaseTag .tombstoned token.attemptTag)
      return .retry
    if let some _ ← leaseTable.exchange token.leaseSlot committing
        (packRecord token.leaseTag .committed token.attemptTag) then
      return .staleHandle
    let _ ← leaseTable.exchange token.leaseSlot
      (packRecord token.leaseTag .committed token.attemptTag)
      (packRecord token.leaseTag .published token.attemptTag)
    return .success

def releaseAdmission (token : AdmissionLeaseToken) : Program SharedStatus := do
  let s ← get
  if s.extended = false then
    return .notSupported
  if ¬ token.fits s then
    return .staleHandle
  let word := (s.leases token.leaseSlot).word
  if word.tag ≠ token.leaseTag then
    return .staleHandle
  if word.state ≠ .released ∧ word.state ≠ .revoked ∧ word.state ≠ .tombstoned then
    leaseTable.store token.leaseSlot
      (packRecord token.leaseTag (if word.state = .reserved then .revoked else .released)
        token.attemptTag)
  let attempt := (s.attempts token.attemptSlot).word
  if attempt.tag = token.attemptTag ∧ attempt.state ≠ .exited then
    attemptTable.store token.attemptSlot (packRecord token.attemptTag .exited 0)
  return .success

def helpAdmission (token : AdmissionLeaseToken) (ownerMayStillRun : Bool) :
    Program SharedStatus := do
  let s ← get
  if s.extended = false ∨ admissionLeaseCapacity ≤ token.leaseSlot then
    return .notSupported
  let lease := s.leases token.leaseSlot
  if lease.word.tag ≠ token.leaseTag ∨ token.viewId ≠ s.viewId then
    return .staleHandle
  -- the reference is only held while the owner is read
  if lease.hazards = uint32Max then
    return .retry
  recoverOwner lease.payload.owner ownerMayStillRun

/-! ## 2. Fences -/

/-- The tag under which a device is updated without an update record. -/
def sequenceTag (lifecycleSequence : Nat) : Nat :=
  if lifecycleSequence % 2 ^ 32 = 0 then 1 else lifecycleSequence % 2 ^ 32

def publishFenceLegacy (index expectedGeneration : Nat) (intended : FenceSnapshot) :
    Program SharedStatus := do
  let s ← get
  if s.deviceCount ≤ index ∨ intended.deviceState ≠ .online ∨ expectedGeneration = 0 ∨
      deviceGenerationMaxNormal ≤ expectedGeneration then
    return .invalidArgument
  let updating := DeviceWord.pack (expectedGeneration + 1) .updating
    (sequenceTag intended.lifecycleSequence)
  match ← exchangeAdmission index (.pack expectedGeneration .open 0) updating with
  | some found => return if found.state = .closed then .deviceLost else .retry
  | none =>
    let latch := ((← get).devices index).fenceLatch
    let status ← writeFence index intended updating latch
    if status ≠ .success then
      let _ ← exchangeAdmission index updating (.pack (expectedGeneration + 1) .closed 0)
      return status
    if let some _ ← exchangeAdmission index updating (.pack (expectedGeneration + 1) .open 0) then
      return .deviceLost
    return .success

/-- An update that will not be carried out: publication and range are given back. -/
def cleanupAbortedUpdate (token : LifecycleRangeToken)
    (publishSlot publishTag updateSlot updateTag : Nat) (expected : UpdateState) :
    Program SharedStatus := do
  let aborted := packRecord updateTag (.aborted : UpdateState) publishSlot
  match ← updateTable.exchange updateSlot (packRecord updateTag expected publishSlot) aborted with
  | some found =>
    if found.tag ≠ updateTag ∨ (found.state ≠ .aborted ∧ found.state ≠ .terminal) then
      return .retry
  | none => pure ()
  let status ← settleViewPublication publishTag publishSlot token.rangeSlot .aborted
  if status ≠ .success then
    return status
  let status ← retireLifecycleRange token (beforeRange token.rangeBegin)
  if status ≠ .success ∧ status ≠ .staleHandle then
    return status
  match ← updateTable.exchange updateSlot aborted (packRecord updateTag .terminal publishSlot) with
  | some found =>
    if found.tag ≠ updateTag ∨ found.state ≠ .terminal then
      return .retry
  | none => pure ()
  terminalizeViewPublication publishTag publishSlot token.rangeSlot .aborted

/-- From the open device to the retired range: the device is closed to admissions, the fence
written, the device opened again, and everything given back. -/
def carryOutUpdate (index nextGeneration : Nat) (intended : FenceSnapshot)
    (token : LifecycleRangeToken) (publishSlot publishTag updateSlot updateTag : Nat)
    (target : DeviceWord) (fenceLatch : Nat) : Program SharedStatus := do
  let publication (state : PublishState) := packRecord publishTag state token.rangeSlot
  let update (state : UpdateState) := packRecord updateTag state publishSlot
  viewPublicationTable.store publishSlot (publication .active)
  updateTable.store updateSlot (update .active)
  let status ← writeFence index intended target fenceLatch
  if status ≠ .success then
    return status
  updateTable.store updateSlot (update .fencePublished)
  if let some _ ← exchangeAdmission index target (.pack nextGeneration .open 0) then
    return .deviceLost
  if let some _ ← updateTable.exchange updateSlot (update .fencePublished) (update .reopened) then
    return .retry
  if let some _ ← viewPublicationTable.exchange publishSlot (publication .active)
      (publication .published) then
    return .retry
  releasePublisher .view publishTag publishSlot
  let status ← retireLifecycleRange token token.rangeEnd
  if status ≠ .success then
    return status
  if let some _ ← updateTable.exchange updateSlot (update .reopened) (update .terminal) then
    return .retry
  terminalizeViewPublication publishTag publishSlot token.rangeSlot .published

/-- From the two claimed records to the accepted update. -/
def linkUpdate (owner : Owner) (index expectedGeneration : Nat)
    (intended : FenceSnapshot) (token : LifecycleRangeToken)
    (publishSlot publishTag updateSlot updateTag : Nat) : Program SharedStatus := do
  let s ← get
  let expected := DeviceWord.pack expectedGeneration .open 0
  let target := DeviceWord.pack (expectedGeneration + 1) .updating updateTag
  let latch := (s.devices index).fenceLatch
  let cleanup := cleanupAbortedUpdate token publishSlot publishTag updateSlot updateTag
  updateTable.fill updateSlot fun update =>
    { update with
      viewId := s.viewId
      owner
      deadlineNs := 0
      expectedDeviceControl := expected
      targetDeviceControl := target
      intendedFenceHash := fenceFingerprint intended
      viewPublishSlot := publishSlot
      publishTag
      newValidationGeneration := expectedGeneration + 1
      intended
      expectedFenceLatch := latch
      deviceIndex := index }
  if latchUnusable latch then
    let _ ← cleanup .initializing
    return if latch % 2 = 1 then .retry else .overflow
  updateTable.fill updateSlot fun update => { update with targetFenceLatch := latch + 2 }
  if let some _ ← updateTable.exchange updateSlot (packRecord updateTag .initializing publishSlot)
      (packRecord updateTag .prepared publishSlot) then
    let _ ← viewPublicationTable.exchange publishSlot
      (packRecord publishTag .prepared token.rangeSlot)
      (packRecord publishTag .aborted token.rangeSlot)
    let _ ← retireLifecycleRange token (beforeRange token.rangeBegin)
    let _ ← updateTable.exchange updateSlot (packRecord updateTag .initializing publishSlot)
      (packRecord updateTag .terminal publishSlot)
    let _ ← finishViewPublication publishTag publishSlot token.rangeSlot .aborted
    return .retry
  let status ← acquirePublisher .view publishTag publishSlot
  if status ≠ .success then
    let _ ← cleanup .prepared
    return status
  if let some _ ← updateTable.exchange updateSlot (packRecord updateTag .prepared publishSlot)
      (packRecord updateTag .linking publishSlot) then
    releasePublisher .view publishTag publishSlot
    return .retry
  match ← exchangeAdmission index expected target with
  | some found =>
    let _ ← cleanup .linking
    return if found.state = .closed then .deviceLost else .retry
  | none =>
    carryOutUpdate index (expectedGeneration + 1) intended token publishSlot publishTag
      updateSlot updateTag target latch

def updateReusable : UpdateState → Bool
  | .free | .terminal => true
  | _ => false

/-- From the reserved range to the two claimed records. -/
def prepareUpdate (again : Option Owner) (index expectedGeneration : Nat)
    (intended : FenceSnapshot) (token : LifecycleRangeToken) : Program SharedStatus := do
  match again with
  | none =>
    let _ ← retireLifecycleRange token (beforeRange token.rangeBegin)
    return .systemError
  | some owner =>
    match ← claimViewPublication token.rangeSlot with
    | .error status =>
      let _ ← retireLifecycleRange token (beforeRange token.rangeBegin)
      return status
    | .ok (publishSlot, publishTag) =>
      let s ← get
      let publication (state : PublishState) := packRecord publishTag state token.rangeSlot
      viewPublicationTable.fill publishSlot fun publication =>
        { publication with
          viewId := s.viewId
          owner
          deadlineNs := 0
          transactionId := (s.ranges token.rangeSlot).payload.transactionId
          rangeSlot := token.rangeSlot }
      if let some _ ← viewPublicationTable.exchange publishSlot (publication .initializing)
          (publication .prepared) then
        let _ ← retireLifecycleRange token (beforeRange token.rangeBegin)
        let _ ← finishViewPublication publishTag publishSlot token.rangeSlot .aborted
        return .retry
      match ← claimRecord updateTable deviceUpdateCapacity updateReusable .initializing
        publishSlot with
      | .error status =>
        let _ ← viewPublicationTable.exchange publishSlot (publication .prepared)
          (publication .aborted)
        let _ ← retireLifecycleRange token (beforeRange token.rangeBegin)
        let _ ← finishViewPublication publishTag publishSlot token.rangeSlot .aborted
        return status
      | .ok (updateSlot, updateTag) =>
        linkUpdate owner index expectedGeneration intended token publishSlot publishTag
          updateSlot updateTag

def publishFenceRecovery (caller : Caller)
    (index expectedGeneration : Nat) (intended : FenceSnapshot) : Program SharedStatus := do
  let s ← get
  if s.deviceCount ≤ index ∨ intended.deviceState ≠ .online ∨
      intended.identityRecordId ≠ (s.devices index).identityRecordId ∨ expectedGeneration = 0 ∨
      deviceGenerationMaxNormal ≤ expectedGeneration then
    return .invalidArgument
  match ← stableHighWater with
  | .error status => return status
  | .ok highWater =>
    if intended.lifecycleSequence ≤ highWater then
      return .retry
    match ← reserveLifecycleRange caller.owner (intended.lifecycleSequence - highWater) 0 with
    | .error status => return status
    | .ok token =>
      if token.rangeEnd ≠ intended.lifecycleSequence then
        let _ ← retireLifecycleRange token (beforeRange token.rangeBegin)
        return .retry
      prepareUpdate caller.again index expectedGeneration intended token

/-- The generation that is given back with `success` is the next after the one expected. -/
def publishFence (caller : Caller) (index expectedGeneration : Nat)
    (intended : FenceSnapshot) : Program SharedStatus := do
  if (← get).extended = true then
    publishFenceRecovery caller index expectedGeneration intended
  else
    publishFenceLegacy index expectedGeneration intended

def markDeviceLost (index lifecycleSequence epoch : Nat) : Program SharedStatus := do
  let s ← get
  if s.deviceCount ≤ index ∨ lifecycleSequence = 0 then
    return .invalidArgument
  let device := s.devices index
  let closed :=
    if device.admission.state = .closed then device.admission
    else if deviceGenerationMaxNormal ≤ device.admission.generation then .closed
    else .pack (device.admission.generation + 1) .closed 0
  modify (onDevice index (·.setAdmission closed))
  -- the source tries again for as long as the latch is odd, which nobody changes here
  writeFence index
    { identityRecordId := device.identityRecordId
      lifecycleSequence
      epoch
      effectiveQuotaBytes := 0
      policyBits := 0
      deviceState := .lost }
    closed device.fenceLatch

/-! ## 3. Identities -/

/-- A device takes its new identity, and its fence with it. -/
def Device.relabel (device : Device) (identityRecordId committedGeneration : Nat)
    (fence : FenceSnapshot) (fenceLatch : Nat) : Device :=
  { device with identityRecordId, committedGeneration, fence, fenceLatch }

/-- Both rows of the device take the new labels; what they count is left as it is. -/
def relabelRows (index next sequence : Nat) (s : Mapping) : Mapping :=
  { s with
    telemetryBanks := fun bank i =>
      if bank < 2 ∧ i = index then
        { s.telemetryBanks bank i with
          identityRecordId := next, observedLifecycleSequence := sequence }
      else s.telemetryBanks bank i }

def setTelemetryLatch (latch : Nat) : Program Unit := modify (onTelemetry fun c => { c with latch })

def publishDeviceIdentity (index expectedIdentity expectedGeneration next nextGeneration : Nat)
    (intended : FenceSnapshot) : Program SharedStatus := do
  let s ← get
  if s.deviceCount ≤ index ∨ expectedIdentity = 0 ∨ expectedGeneration = 0 ∨
      next ≤ expectedIdentity ∨ nextGeneration ≤ expectedGeneration ∨
      intended.identityRecordId ≠ next ∨ intended.lifecycleSequence = 0 ∨
      intended.deviceState ≠ .online ∨ s.viewAdmission.state ≠ .open then
    return .invalidArgument
  let device := s.devices index
  if device.identityRecordId ≠ expectedIdentity ∨
      device.committedGeneration ≠ expectedGeneration then
    return .staleHandle
  match stableFence device with
  | none => return .retry
  | some current =>
    if intended.lifecycleSequence ≤ current.lifecycleSequence then
      return .staleHandle
    let admission := device.admission
    if admission.state ≠ .open then
      return if admission.state = .updating then .retry else .deviceLost
    if admission.generation = 0 ∨ deviceGenerationMaxNormal ≤ admission.generation then
      return .resourceExhausted
    let updating := DeviceWord.pack (admission.generation + 1) .updating
      (sequenceTag intended.lifecycleSequence)
    modify (onDevice index (·.setAdmission updating))
    -- on failure the admission word is put back as it was
    let restore := modify (onDevice index (·.setAdmission admission))
    let controlEven := s.control.latch
    if latchUnusable controlEven then
      restore
      return .retry
    setControlLatch (controlEven + 1)
    let fenceEven := device.fenceLatch
    if latchUnusable fenceEven then
      setControlLatch (controlEven + 2)
      restore
      return if uint64Max - 2 < fenceEven then .overflow else .retry
    modify (onDevice index (·.setFenceLatch (fenceEven + 1)))
    let telemetryEven := s.telemetryControl.latch
    if latchUnusable telemetryEven then
      modify (onDevice index (·.setFenceLatch (fenceEven + 2)))
      setControlLatch (controlEven + 2)
      restore
      return if uint64Max - 2 < telemetryEven then .overflow else .retry
    setTelemetryLatch (telemetryEven + 1)
    modify (onDevice index (·.relabel next nextGeneration intended (fenceEven + 2)))
    modify (relabelRows index next intended.lifecycleSequence)
    setTelemetryLatch (telemetryEven + 2)
    setControlLatch (controlEven + 2)
    if let some _ ← exchangeAdmission index updating (.pack (admission.generation + 1) .open 0) then
      return .deviceLost
    return .success

/-- A reader gives up after a few turns on what does not change. -/
def validateDevice (s : Mapping) (handle : GenerationHandle) : Except SharedStatus FenceSnapshot :=
  let index := findIdentity s handle.identityRecordId
  let device := s.devices index
  if handle.viewId ≠ s.viewId then .error .staleHandle
  else if index = s.deviceCount ∨ device.committedGeneration ≠ handle.deviceGeneration then
    .error .staleHandle
  else if s.viewAdmission.state ≠ .open then .error .terminalView
  else if s.control.latch % 2 = 1 then .error .retry
  else if s.control.gateState ≠ .open ∨ s.control.mappingTerminal = true then .error .terminalView
  else if device.admission.state ≠ .open then
    .error (if device.admission.state = .updating then .retry else .deviceLost)
  else
    match stableFence device with
    | none => .error .retry
    | some fence =>
      if fence.identityRecordId ≠ handle.identityRecordId then .error .staleHandle
      else if fence.deviceState ≠ .online then .error .deviceLost
      else .ok fence

/-! ## 4. Telemetry -/

def putRows (bank : Nat) (rows : List TelemetryRow) (s : Mapping) : Mapping :=
  { s with
    telemetryBanks := fun b i =>
      if b = bank ∧ i < s.deviceCount then rows.getD i ⟨0, 0, {}⟩ else s.telemetryBanks b i }

def otherBank (bank : Nat) : Nat := bank ^^^ 1

/-- The checks both ways of publishing begin with. -/
def checkPublication (s : Mapping) (rows : List TelemetryRow) : SharedStatus :=
  if rows.length ≠ s.deviceCount ∨ s.viewAdmission.state ≠ .open then .invalidArgument
  else if (List.range s.deviceCount).any (fun i =>
      decide ((rows.getD i ⟨0, 0, {}⟩).identityRecordId ≠ (s.devices i).identityRecordId ∨
        (rows.getD i ⟨0, 0, {}⟩).observedLifecycleSequence = 0)) then .invalidArgument
  else validateTelemetryRows s rows

def publishTelemetryLegacy (rows : List TelemetryRow) : Program SharedStatus := do
  let s ← get
  let status := checkPublication s rows
  if status ≠ .success then
    return status
  let control := s.telemetryControl
  let even := control.latch
  if even % 2 = 1 then
    return .retry
  if uint64Max - 2 < even ∨ uint64Max - 1 ≤ control.snapshotSequence ∨
      uint64Max - 1 ≤ control.publishGeneration then
    return .overflow
  setTelemetryLatch (even + 1)
  let status := validateTelemetryRows (← get) rows
  if status ≠ .success then
    setTelemetryLatch (even + 2)
    return status
  let bank := otherBank control.activeBank.bank
  modify (putRows bank rows)
  let status := validateTelemetryRows (← get) rows
  if status ≠ .success then
    setTelemetryLatch (even + 2)
    return status
  modify (onTelemetry fun c =>
    { c with
      snapshotSequence := control.snapshotSequence + 1
      activeBank := ⟨bank, .ready⟩
      publishGeneration := control.publishGeneration + 1
      latch := even + 2 })
  return .success

/-- From the claimed record to the published bank. -/
def publishTelemetryClaimed (owner : Owner) (rows : List TelemetryRow) (slot tag : Nat) :
    Program SharedStatus := do
  let s ← get
  let control := s.telemetryControl
  let even := control.latch
  if latchUnusable even ∨ control.snapshotSequence = uint64Max ∨
      control.publishGeneration = uint64Max then
    let _ ← telemetryPublicationTable.exchange slot (packRecord tag .initializing 0)
      (packRecord tag .terminal 0)
    return if even % 2 = 1 then .retry else .overflow
  let bank := otherBank control.activeBank.bank
  let publication : TelemetryPublication :=
    { viewId := s.viewId
      owner
      deadlineNs := 0
      expectedLatch := even
      targetLatch := even + 2
      expectedSnapshotSequence := control.snapshotSequence
      targetSnapshotSequence := control.snapshotSequence + 1
      oldBankState := control.activeBank
      targetBankState := ⟨bank, .ready⟩
      expectedControlHash := control.publishGeneration
      targetControlHash := control.publishGeneration + 1
      publicationMarker := false
      operationKind := .normal
      targetBank := bank }
  let finish := finishTelemetryPublication tag slot bank
  telemetryPublicationTable.fill slot fun _ => publication
  if let some _ ← telemetryPublicationTable.exchange slot (packRecord tag .initializing 0)
      (packRecord tag .prepared bank) then
    return .retry
  let status ← acquirePublisher .telemetry tag slot
  if status ≠ .success then
    let _ ← finish .aborted
    return status
  if let some _ ← telemetryPublicationTable.exchange slot (packRecord tag .prepared bank)
      (packRecord tag .linking bank) then
    let _ ← finish .aborted
    return .retry
  telemetryPublicationTable.store slot (packRecord tag .active bank)
  setTelemetryLatch (even + 1)
  let status := validateTelemetryRows (← get) rows
  if status ≠ .success then
    setTelemetryLatch even
    let _ ← finish .aborted
    return status
  modify (putRows bank rows)
  let status := validateTelemetryRows (← get) rows
  if status ≠ .success then
    setTelemetryLatch even
    let _ ← finish .aborted
    return status
  telemetryPublicationTable.fill slot fun publication =>
    { publication with publicationMarker := true }
  modify publication.carryOut
  finish .published

def publishTelemetryRecovery (caller : Caller) (rows : List TelemetryRow) :
    Program SharedStatus := do
  let status := checkPublication (← get) rows
  if status ≠ .success then
    return status
  match caller.owner with
  | none => return .systemError
  | some owner =>
    match ← claimRecord telemetryPublicationTable ordinaryTelemetryPublishCapacity publishReusable
        .initializing 0 with
    | .error status => return status
    | .ok (slot, tag) => publishTelemetryClaimed owner rows slot tag

def publishTelemetry (caller : Caller) (rows : List TelemetryRow) : Program SharedStatus := do
  if (← get).extended = true then
    publishTelemetryRecovery caller rows
  else
    publishTelemetryLegacy rows

structure TelemetrySnapshot where
  row : TelemetryRow
  snapshotSequence : Nat
deriving DecidableEq, Repr

def readTelemetry (s : Mapping) (handle : GenerationHandle) :
    Except SharedStatus TelemetrySnapshot :=
  match validateDevice s handle with
  | .error status => .error status
  | .ok fence =>
    let control := s.telemetryControl
    let index := findIdentity s handle.identityRecordId
    let row := s.telemetryBanks control.activeBank.bank index
    if control.latch % 2 = 1 then .error .retry
    else if control.activeBank.state ≠ .ready ∨ 1 < control.activeBank.bank ∨
        control.rowCount ≤ index then .error .retry
    else if row.identityRecordId ≠ handle.identityRecordId ∨
        row.observedLifecycleSequence < fence.lifecycleSequence then .error .retry
    else .ok { row, snapshotSequence := control.snapshotSequence }

/-! ## 5. Closing -/

def terminateControl (even : Nat) : Mapping → Mapping :=
  onControl fun c =>
    { c with
      publicationCursor := uint64Max
      gateGeneration := uint64Max
      gateState := .terminal
      mappingTerminal := true
      latch := even + 2 }

def closeLegacy : Program SharedStatus := do
  let s ← get
  if s.viewAdmission.state = .terminal ∨ s.viewAdmission.state = .quarantined then
    return .success
  setViewAdmission (.pack viewGenerationTerminal .closing)
  modify fun s =>
    { s with
      devices := fun i =>
        -- the word is left alone where only its update tag could differ
        if i < s.deviceCount ∧ ((s.devices i).admission.state ≠ .closed ∨
            (s.devices i).admission.generation ≠ deviceGenerationTerminal)
          then (s.devices i).setAdmission .closed else s.devices i }
  let even := (← get).control.latch
  if latchUnusable even then
    setViewAdmission (.pack viewGenerationTerminal .quarantined)
    return .retry
  modify (terminateControl even)
  setViewAdmission (.pack viewGenerationTerminal .terminal)
  return .success

/-- Attempts that are done with get the terminal tag; one that is just entering cannot be judged. -/
def sealAttempt (slot : Nat) : Program (Option SharedStatus) := do
  let word := (← attemptTable.cell slot).word
  if word.state = .entering then
    return some (← quarantine)
  if word.state = .idle ∨ word.state = .exited then
    attemptTable.store slot (packRecord recordTagTerminal .exited 0)
  return none

def sealLease (slot : Nat) : Program (Option SharedStatus) := do
  let word := (← leaseTable.cell slot).word
  if word.state = .initializing then
    return some (← quarantine)
  if leaseReusable word.state = true then
    leaseTable.store slot (packRecord recordTagTerminal .tombstoned word.auxiliary)
  return none

/-- What is left is ended under the terminal tag. -/
def endLease (slot : Nat) : Program (Option SharedStatus) := do
  let word := (← leaseTable.cell slot).word
  if word.tag = recordTagTerminal then
    return none
  match word.state with
  | .initializing => return some (← quarantine)
  | .reserved | .committing =>
    leaseTable.store slot (packRecord recordTagTerminal .tombstoned word.auxiliary)
    return none
  | .committed | .published =>
    leaseTable.store slot (packRecord recordTagTerminal .released word.auxiliary)
    return none
  | .quarantined => return none
  | state =>
    leaseTable.store slot (packRecord recordTagTerminal state word.auxiliary)
    return none

def endAttempt (slot : Nat) : Program (Option SharedStatus) := do
  let word := (← attemptTable.cell slot).word
  if word.tag = recordTagTerminal then
    return none
  if word.state = .entering then
    return some (← quarantine)
  attemptTable.store slot (packRecord recordTagTerminal .exited 0)
  return none

/-- The ranges are retired from the head on.  Every turn takes one off the queue, so there are no
more turns than slots; the source has no other bound. -/
def retireAll : Nat → Program (Option SharedStatus)
  | 0 => return none
  | turns + 1 => do
    let s ← get
    let head := s.control.reservationHeadSlot
    if head = recordSlotNone then
      return none
    if lifecycleRangeCapacity ≤ head then
      return some (← quarantine)
    let range := s.ranges head
    if range.word.state ≠ .open then
      return some (← quarantine)
    let status ← retireLifecycleRange
      { viewId := s.viewId
        rangeBegin := range.payload.rangeBegin
        rangeEnd := range.payload.rangeEnd
        tokenGeneration := range.payload.tokenGeneration
        rangeSlot := head
        rangeTag := range.word.tag }
      (beforeRange range.payload.rangeBegin)
    if status ≠ .success then
      return some status
    retireAll turns

/-- Telemetry ends: no bank is active any more. -/
def closeTelemetry (owner : Owner) : Program (Option SharedStatus) := do
  telemetryPublicationTable.fill telemetryTerminalSlot fun publication => { publication with owner }
  let status ← acquirePublisher .telemetry recordTagTerminal telemetryTerminalSlot
  if status ≠ .success then
    return some status
  telemetryPublicationTable.store telemetryTerminalSlot (packRecord recordTagTerminal .active 0)
  let even := (← get).telemetryControl.latch
  if latchUnusable even then
    releasePublisher .telemetry recordTagTerminal telemetryTerminalSlot
    return some .retry
  modify (onTelemetry fun c =>
    { c with activeBank := ⟨c.activeBank.bank, .terminal⟩, rowCount := 0, latch := even + 2 })
  telemetryPublicationTable.store telemetryTerminalSlot (packRecord recordTagTerminal .terminal 0)
  modify (writePublisher .telemetry
    (packRecord recordTagTerminal .quarantined telemetryTerminalSlot))
  return none

/-- The control block ends, and the view with it. -/
def closeControl (owner : Owner) : Program SharedStatus := do
  let closeWord (state : PublishState) := packRecord recordTagTerminal state recordSlotNone
  viewPublicationTable.fill closeTerminalSlot fun publication => { publication with owner }
  let status ← acquirePublisher .view recordTagTerminal closeTerminalSlot
  if status ≠ .success then
    return status
  viewPublicationTable.store closeTerminalSlot (closeWord .active)
  let even := (← get).control.latch
  if latchUnusable even then
    releasePublisher .view recordTagTerminal closeTerminalSlot
    return .retry
  modify (terminateControl even)
  viewPublicationTable.store closeTerminalSlot (closeWord .terminal)
  modify (writePublisher .view (packRecord recordTagTerminal .quarantined closeTerminalSlot))
  setViewAdmission (.pack viewGenerationTerminal .terminal)
  return .success

/-- From the closing view to the closed one. -/
def drainAndClose (owner : Owner) : Program SharedStatus := do
  if let some status ← scan sealAttempt (List.range admissionAttemptCapacity) then
    return status
  if let some status ← scan sealLease (List.range admissionLeaseCapacity) then
    return status
  if let some status ← scan endLease (List.range admissionLeaseCapacity) then
    return status
  if let some status ← scan endAttempt (List.range admissionAttemptCapacity) then
    return status
  modify closeDevices
  if let some status ← retireAll (lifecycleRangeCapacity + 1) then
    return status
  if let some status ← closeTelemetry owner then
    return status
  closeControl owner

def closeRecovery (caller : Caller) (inquiries : Inquiries) : Program SharedStatus := do
  let s ← get
  if s.viewAdmission.state = .terminal ∨ s.viewAdmission.state = .quarantined then
    return .success
  let recovered ← recover inquiries
  if recovered ≠ .success then
    return recovered
  match caller.owner with
  | none => return .systemError
  | some owner =>
    let closeWord (state : PublishState) := packRecord recordTagTerminal state recordSlotNone
    viewPublicationTable.fill closeClosingSlot fun publication => { publication with owner }
    viewPublicationTable.store closeClosingSlot (closeWord .active)
    let status ← acquirePublisher .view recordTagTerminal closeClosingSlot
    if status ≠ .success then
      return status
    let state := (← get).viewAdmission.state
    if state ≠ .closing ∧ state ≠ .open then
      releasePublisher .view recordTagTerminal closeClosingSlot
      return .terminalView
    if state = .open then
      setViewAdmission (.pack viewGenerationTerminal .closing)
    viewPublicationTable.store closeClosingSlot (closeWord .published)
    releasePublisher .view recordTagTerminal closeClosingSlot
    drainAndClose owner

def close (caller : Caller) (inquiries : Inquiries) : Program SharedStatus := do
  if (← get).extended = true then
    closeRecovery caller inquiries
  else
    closeLegacy

/-! ## 6. Runs -/

/-- The calls that can change the mapping, each with its arguments and with what the system answers
while it runs. -/
inductive Call where
  | beginAdmission (caller : Caller) (index deadlineNs operationCookie targetCookie : Nat)
  | commitAdmission (token : AdmissionLeaseToken)
  | releaseAdmission (token : AdmissionLeaseToken)
  | helpAdmission (token : AdmissionLeaseToken) (ownerMayStillRun : Bool)
  | recoverOwner (owner : Owner) (ownerMayStillRun : Bool)
  | recover (inquiries : Inquiries)
  | reserveLifecycleRange (caller : Caller) (length deadlineNs : Nat)
  | retireLifecycleRange (token : LifecycleRangeToken) (usedThrough : Nat)
  | publishFence (caller : Caller) (index expectedGeneration : Nat) (intended : FenceSnapshot)
  | markDeviceLost (index lifecycleSequence epoch : Nat)
  | publishDeviceIdentity (index expectedIdentity expectedGeneration next nextGeneration : Nat)
      (intended : FenceSnapshot)
  | publishTelemetry (caller : Caller) (rows : List TelemetryRow)
  | close (caller : Caller) (inquiries : Inquiries)

/-- The status of an answer that may be a token. -/
def statusOf {α : Type} : Except SharedStatus α → SharedStatus
  | .ok _ => .success
  | .error status => status

def Call.program : Call → Program SharedStatus
  | .beginAdmission caller index deadlineNs operationCookie targetCookie =>
    statusOf <$> Registry.beginAdmission caller index deadlineNs operationCookie targetCookie
  | .commitAdmission token => Registry.commitAdmission token
  | .releaseAdmission token => Registry.releaseAdmission token
  | .helpAdmission token ownerMayStillRun => Registry.helpAdmission token ownerMayStillRun
  | .recoverOwner owner ownerMayStillRun => Registry.recoverOwner owner ownerMayStillRun
  | .recover inquiries => Registry.recover inquiries
  | .reserveLifecycleRange caller length deadlineNs =>
    statusOf <$> Registry.reserveLifecycleRange caller.owner length deadlineNs
  | .retireLifecycleRange token usedThrough => Registry.retireLifecycleRange token usedThrough
  | .publishFence caller index expectedGeneration intended =>
    Registry.publishFence caller index expectedGeneration intended
  | .markDeviceLost index lifecycleSequence epoch =>
    Registry.markDeviceLost index lifecycleSequence epoch
  | .publishDeviceIdentity index expectedIdentity expectedGeneration next nextGeneration intended =>
    Registry.publishDeviceIdentity index expectedIdentity expectedGeneration next nextGeneration
      intended
  | .publishTelemetry caller rows => Registry.publishTelemetry caller rows
  | .close caller inquiries => Registry.close caller inquiries

def call (s : Mapping) (c : Call) : SharedStatus × Mapping := c.program.run s

/-- One whole call, whatever it answers. -/
def step (s : Mapping) (c : Call) : Mapping := (call s c).2

end MetaFlux.Registry
