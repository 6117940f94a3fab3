/-
# Recovering what an owner left behind

An owner that died may have left leases, an update of a device, a publication of telemetry, publish
records and ranges.  `recoverOwner` brings each of them to an end: from the packed states and the
latches it infers how far the owner came, and carries the rest out or takes it back.  Where what it
finds cannot have come about, or the owner may still be running, the whole view goes to quarantine.

A function that the source leaves in the middle of a scan answers `some status`; `none` goes on with
the next record.
-/
import MetaFlux.Registry.Ranges

namespace MetaFlux.Registry

open Base

/-! ## 1. Devices and fences -/

namespace Device

def setAdmission (device : Device) (admission : DeviceWord) : Device := { device with admission }

def setFence (device : Device) (fence : FenceSnapshot) (fenceLatch : Nat) : Device :=
  { device with fence, fenceLatch }

def setFenceLatch (device : Device) (fenceLatch : Nat) : Device := { device with fenceLatch }

end Device

def onDevice (index : Nat) (f : Device → Device) (s : Mapping) : Mapping :=
  { s with devices := Function.update s.devices index (f (s.devices index)) }

def exchangeAdmission (index : Nat) (expected desired : DeviceWord) :
    Program (Option DeviceWord) := do
  let found := ((← get).devices index).admission
  if found = expected then
    modify (onDevice index (·.setAdmission desired))
    return none
  return some found

def writeFence (index : Nat) (intended : FenceSnapshot) (expectedControl : DeviceWord)
    (expectedLatch : Nat) : Program SharedStatus := do
  let device := (← get).devices index
  if intended.identityRecordId ≠ device.identityRecordId ∨ intended.lifecycleSequence = 0 then
    return .invalidArgument
  if expectedLatch % 2 = 1 then
    return .retry
  if uint64Max - 2 < expectedLatch then
    return .overflow
  if device.admission ≠ expectedControl then
    return .deviceLost
  if device.fenceLatch ≠ expectedLatch then
    return .retry
  modify (onDevice index (·.setFenceLatch (expectedLatch + 1)))
  modify (onDevice index (·.setFence intended (expectedLatch + 2)))
  return .success

/-- The fence as a reader gets it, who gives up on a latch that stays odd. -/
def stableFence (device : Device) : Option FenceSnapshot :=
  if device.fenceLatch % 2 = 1 then none else some device.fence

/-! ## 2. Quarantine -/

def closeDevices (s : Mapping) : Mapping :=
  { s with
    devices := fun i =>
      if i < s.deviceCount then (s.devices i).setAdmission .closed else s.devices i }

def setViewAdmission (word : ViewWord) : Program Unit :=
  modify fun s => { s with viewAdmission := word }

def quarantine : Program SharedStatus := do
  setViewAdmission (.pack viewGenerationTerminal .quarantined)
  modify closeDevices
  let even := (← get).control.latch
  if ¬ latchUnusable even then
    modify (onControl fun c =>
      { c with latch := even + 2, gateState := .terminal, mappingTerminal := true })
  return .success

/-! ## 3. Updates of a device -/

/-- The update record goes from one state to the next; if it is already elsewhere, from there. -/
def advanceUpdate (slot tag publishSlot : Nat) (source target : UpdateState) :
    Program (Except SharedStatus UpdateState) := do
  match ← updateTable.exchange slot (packRecord tag source publishSlot)
      (packRecord tag target publishSlot) with
  | none => return .ok target
  | some found =>
    if found.tag = tag then
      return .ok found.state
    return .error (← quarantine)

def recoverLinking (slot tag : Nat) (update : DeviceUpdate) :
    Program (Except SharedStatus UpdateState) := do
  let admission := ((← get).devices update.deviceIndex).admission
  if admission = update.expectedDeviceControl then
    modify (onDevice update.deviceIndex (·.setAdmission update.targetDeviceControl))
  if admission ≠ update.expectedDeviceControl ∧ admission ≠ update.targetDeviceControl then
    if admission.state = .closed then
      match ← updateTable.exchange slot (packRecord tag .linking update.viewPublishSlot)
          (packRecord tag .closed update.viewPublishSlot) with
      | none => return .ok .closed
      | some _ => return .error (← quarantine)
    return .error (← quarantine)
  advanceUpdate slot tag update.viewPublishSlot .linking .active

/-- The one recorded commit of the fence, wherever it stopped. -/
def recoverActive (slot tag : Nat) (update : DeviceUpdate) :
    Program (Except SharedStatus UpdateState) := do
  if fenceFingerprint update.intended ≠ update.intendedFenceHash ∨
      latchUnusable update.expectedFenceLatch ∨
      update.targetFenceLatch ≠ update.expectedFenceLatch + 2 then
    return .error (← quarantine)
  let device := (← get).devices update.deviceIndex
  if device.fenceLatch = update.expectedFenceLatch then
    let status ← writeFence update.deviceIndex update.intended update.targetDeviceControl
      update.expectedFenceLatch
    if status ≠ .success then
      return .error status
    advanceUpdate slot tag update.viewPublishSlot .active .fencePublished
  else if device.fenceLatch = update.expectedFenceLatch + 1 then
    if device.admission ≠ update.targetDeviceControl then
      return .error (← quarantine)
    modify (onDevice update.deviceIndex (·.setFence update.intended update.targetFenceLatch))
    advanceUpdate slot tag update.viewPublishSlot .active .fencePublished
  else if device.fenceLatch = update.targetFenceLatch then
    if stableFence device ≠ some update.intended then
      return .error (← quarantine)
    advanceUpdate slot tag update.viewPublishSlot .active .fencePublished
  else
    return .error (← quarantine)

def recoverFencePublished (slot tag : Nat) (update : DeviceUpdate) :
    Program (Except SharedStatus UpdateState) := do
  let reopened := DeviceWord.pack update.newValidationGeneration .open 0
  match ← exchangeAdmission update.deviceIndex update.targetDeviceControl reopened with
  | none => advanceUpdate slot tag update.viewPublishSlot .fencePublished .reopened
  | some found =>
    if found ≠ reopened then
      return .error (← quarantine)
    advanceUpdate slot tag update.viewPublishSlot .fencePublished .reopened

/-- What has been retired already must have been retired the way that is expected. -/
def retireUpdateRange (token : LifecycleRangeToken) (usedThrough : Nat) (expected : Disposition) :
    Program SharedStatus := do
  let current := (← rangeTable.cell token.rangeSlot).word
  if current.tag ≠ token.rangeTag then
    quarantine
  else if current.state = .retired then
    if current.auxiliary = expected.code then
      return .success
    quarantine
  else if current.state ≠ .open then
    return .retry
  else
    let retired ← retireLifecycleRange token usedThrough
    if retired = .success then
      return .success
    let after := (← rangeTable.cell token.rangeSlot).word
    return if after.tag = token.rangeTag ∧ after.state = .retired ∧ after.auxiliary = expected.code
      then .success else retired

def finishUpdate (slot tag publishSlot : Nat) (expected : UpdateState) : Program SharedStatus := do
  match ← updateTable.exchange slot (packRecord tag expected publishSlot)
      (packRecord tag .terminal publishSlot) with
  | none => return .success
  | some found => return if found.tag = tag ∧ found.state = .terminal then .success else .retry

/-- A handle that has gone stale here means that the records contradict each other. -/
def orQuarantine (status : SharedStatus) : Program SharedStatus := do
  if status = .staleHandle then quarantine else return status

/-- Publication, range, update and publication again, each only when the one before has succeeded.
-/
def endUpdate (slot tag : Nat) (update : DeviceUpdate) (rangeSlot : Nat)
    (token : LifecycleRangeToken)
    (settled : PublishState) (usedThrough : Nat) (disposition : Disposition) (state : UpdateState) :
    Program (Option SharedStatus) := do
  let status ← orQuarantine
    (← settleViewPublication update.publishTag update.viewPublishSlot rangeSlot settled)
  if status ≠ .success then
    return some status
  let status ← retireUpdateRange token usedThrough disposition
  if status ≠ .success then
    return some status
  let status ← finishUpdate slot tag update.viewPublishSlot state
  if status ≠ .success then
    return some status
  let status ← orQuarantine
    (← terminalizeViewPublication update.publishTag update.viewPublishSlot rangeSlot settled)
  if status ≠ .success then
    return some status
  return none

/-- The program is run in the one state it is for. -/
def inState (state : UpdateState) (program : Program (Except SharedStatus UpdateState)) :
    Except SharedStatus UpdateState → Program (Except SharedStatus UpdateState)
  | .ok current => if current = state then program else return .ok current
  | .error status => return .error status

def resumeUpdate (slot tag : Nat) (state : UpdateState) (update : DeviceUpdate) (rangeSlot : Nat)
    (token : LifecycleRangeToken) : Program (Option SharedStatus) := do
  let reached ← inState .prepared (advanceUpdate slot tag update.viewPublishSlot .prepared .aborted)
    (.ok state)
  let reached ← inState .linking (recoverLinking slot tag update) reached
  let reached ← inState .active (recoverActive slot tag update) reached
  let reached ← inState .fencePublished (recoverFencePublished slot tag update) reached
  match reached with
  | .error status => return some status
  | .ok .reopened =>
    endUpdate slot tag update rangeSlot token .published token.rangeEnd .complete .reopened
  | .ok .aborted =>
    endUpdate slot tag update rangeSlot token .aborted (beforeRange token.rangeBegin)
      .whole .aborted
  | .ok .closed =>
    endUpdate slot tag update rangeSlot token .aborted (beforeRange token.rangeBegin) .whole .closed
  | .ok _ => return none

def updateSettled : UpdateState → Bool
  | .free | .initializing | .terminal => true
  | _ => false

def recoverDeviceUpdate (owner : Owner) (slot : Nat) : Program (Option SharedStatus) := do
  let word := (← updateTable.cell slot).word
  if updateSettled word.state = true then
    return none
  updateTable.guarded uint32Max slot none do
    let s ← get
    let update := (s.updates slot).payload
    if ¬ sameOwner update.owner owner then
      return none
    if ordinaryViewPublishCapacity ≤ update.viewPublishSlot ∨ s.deviceCount ≤ update.deviceIndex ∨
        update.viewId ≠ s.viewId then
      return some (← quarantine)
    viewPublicationTable.guarded uint32Max update.viewPublishSlot none do
      let s ← get
      let publication := s.viewPublications update.viewPublishSlot
      if publication.word.tag ≠ update.publishTag ∨
          lifecycleRangeCapacity ≤ publication.payload.rangeSlot ∨
          publication.payload.viewId ≠ s.viewId then
        return some (← quarantine)
      rangeTable.guarded uint32Max publication.payload.rangeSlot none do
        let s ← get
        let range := s.ranges publication.payload.rangeSlot
        if range.payload.viewId ≠ s.viewId ∨
            range.payload.transactionId ≠ publication.payload.transactionId then
          return some (← quarantine)
        resumeUpdate slot word.tag word.state update publication.payload.rangeSlot
          { viewId := s.viewId
            rangeBegin := range.payload.rangeBegin
            rangeEnd := range.payload.rangeEnd
            tokenGeneration := range.payload.tokenGeneration
            rangeSlot := publication.payload.rangeSlot
            rangeTag := range.word.tag }

def recoverDeviceUpdates (owner : Owner) : Program SharedStatus := do
  return (← scan (recoverDeviceUpdate owner) (List.range deviceUpdateCapacity)).getD .success

/-! ## 4. Publications of telemetry -/

def onTelemetry (f : TelemetryControl → TelemetryControl) (s : Mapping) : Mapping :=
  { s with telemetryControl := f s.telemetryControl }

/-- The checks of one row against its device, in the order in which they are made. -/
def checkRow (s : Mapping) (index : Nat) (row : TelemetryRow) : SharedStatus :=
  let device := s.devices index
  if device.admission.state ≠ .open then
    if device.admission.state = .updating then .retry else .deviceLost
  else
    match stableFence device with
    | none => .retry
    | some fence =>
      if fence.identityRecordId ≠ device.identityRecordId ∨
          row.identityRecordId ≠ fence.identityRecordId ∨ row.observedLifecycleSequence = 0 then
        .invalidArgument
      else if fence.deviceState ≠ .online then .deviceLost
      else if row.observedLifecycleSequence ≠ fence.lifecycleSequence then .retry
      else .success

/-- The first check that fails decides. -/
def checkRows (s : Mapping) (row : Nat → TelemetryRow) : List Nat → SharedStatus
  | [] => .success
  | index :: rest =>
    if checkRow s index (row index) ≠ .success then checkRow s index (row index)
    else checkRows s row rest

def validateTelemetryRows (s : Mapping) (rows : List TelemetryRow) : SharedStatus :=
  if rows.length ≠ s.deviceCount then .invalidArgument
  else checkRows s (fun i => rows.getD i ⟨0, 0, {}⟩) (List.range s.deviceCount)

def validateTelemetryBank (s : Mapping) (bank : Nat) : SharedStatus :=
  if 1 < bank then .invalidArgument
  else checkRows s (s.telemetryBanks bank) (List.range s.deviceCount)

def TelemetryPublication.wellFormed (publication : TelemetryPublication) (viewId : ViewId) : Prop :=
  publication.viewId = viewId ∧ publication.operationKind = .normal ∧ publication.targetBank ≤ 1 ∧
    ¬ latchUnusable publication.expectedLatch ∧
    publication.targetLatch = publication.expectedLatch + 2 ∧
    publication.expectedSnapshotSequence ≠ uint64Max ∧
    publication.targetSnapshotSequence = publication.expectedSnapshotSequence + 1 ∧
    publication.expectedControlHash ≠ uint64Max ∧
    publication.targetControlHash = publication.expectedControlHash + 1 ∧
    publication.targetBankState = ⟨publication.targetBank, .ready⟩
deriving Decidable

/-- The control block is as the publication was to leave it. -/
def TelemetryPublication.isPublished (publication : TelemetryPublication) (c : TelemetryControl) :
    Prop :=
  c.snapshotSequence = publication.targetSnapshotSequence ∧
    c.activeBank = publication.targetBankState ∧ c.publishGeneration = publication.targetControlHash
deriving Decidable

def TelemetryPublication.takeBack (publication : TelemetryPublication) : Mapping → Mapping :=
  onTelemetry fun c =>
    { c with
      snapshotSequence := publication.expectedSnapshotSequence
      activeBank := publication.oldBankState
      publishGeneration := publication.expectedControlHash
      latch := publication.expectedLatch }

def TelemetryPublication.carryOut (publication : TelemetryPublication) : Mapping → Mapping :=
  onTelemetry fun c =>
    { c with
      snapshotSequence := publication.targetSnapshotSequence
      activeBank := publication.targetBankState
      publishGeneration := publication.targetControlHash
      latch := publication.targetLatch }

/-- The state the publication is to end in, after the control block has been brought in line; `none`
where the two contradict each other. -/
def reconcileTelemetry (state : PublishState) (publication : TelemetryPublication) :
    Program (Option PublishState) := do
  let s ← get
  let latch := s.telemetryControl.latch
  match state with
  | .published =>
    return if latch = publication.targetLatch ∧ publication.isPublished s.telemetryControl
      then some .published else none
  | .aborted | .prepared | .linking =>
    return if latch = publication.expectedLatch then some .aborted else none
  | .active =>
    if latch = publication.expectedLatch then
      return some .aborted
    else if latch = publication.expectedLatch + 1 then
      if publication.publicationMarker = true ∧
          validateTelemetryBank s publication.targetBank = .success then
        modify publication.carryOut
        return some .published
      modify publication.takeBack
      return some .aborted
    else if latch = publication.targetLatch then
      return if publication.isPublished s.telemetryControl then some .published else none
    else
      return none
  | _ => return none

def publicationSettled : PublishState → Bool
  | .free | .initializing | .terminal => true
  | _ => false

def recoverTelemetryPublication (owner : Owner) (slot : Nat) : Program (Option SharedStatus) := do
  let word := (← telemetryPublicationTable.cell slot).word
  if publicationSettled word.state = true then
    return none
  telemetryPublicationTable.guarded uint32Max slot none do
    let s ← get
    let publication := (s.telemetryPublications slot).payload
    if ¬ sameOwner publication.owner owner then
      return none
    if ¬ publication.wellFormed s.viewId then
      return some (← quarantine)
    match ← reconcileTelemetry word.state publication with
    | none => return some (← quarantine)
    | some settled =>
      let finished ← finishTelemetryPublication word.tag slot publication.targetBank settled
      if finished = .staleHandle then
        return some (← quarantine)
      if finished ≠ .success then
        return some finished
      return none

def recoverTelemetryPublish (owner : Owner) : Program SharedStatus := do
  return (← scan (recoverTelemetryPublication owner)
    (List.range ordinaryTelemetryPublishCapacity)).getD .success

/-! ## 5. Recovering an owner -/

variable (owner : Owner)

def recoverLease (slot : Nat) : Program Unit :=
  leaseTable.guarded uint32Max slot () do
    let lease := (← get).leases slot
    if sameOwner lease.payload.owner owner then
      match lease.word.state with
      | .reserved | .committing =>
        leaseTable.store slot (packRecord lease.word.tag .tombstoned lease.word.auxiliary)
      | .committed | .published =>
        leaseTable.store slot (packRecord lease.word.tag .released lease.word.auxiliary)
      | _ => return

def recoverAttempt (slot : Nat) : Program Unit :=
  attemptTable.guarded uint32Max slot () do
    let attempt := (← get).attempts slot
    if attempt.word.state ≠ .entering ∧ attempt.word.state ≠ .idle ∧ attempt.word.state ≠ .exited ∧
        sameOwner attempt.payload.owner owner then
      attemptTable.store slot (packRecord attempt.word.tag .exited 0)

def recoverViewPublication (slot : Nat) : Program (Option SharedStatus) := do
  let word := (← viewPublicationTable.cell slot).word
  if publicationSettled word.state = true then
    return none
  viewPublicationTable.guarded uint32Max slot none do
    let s ← get
    let publication := (s.viewPublications slot).payload
    if ¬ sameOwner publication.owner owner then
      return none
    let settled := if word.state = .published then .published else .aborted
    -- a publisher that stopped in the middle of writing the control block leaves it torn
    if word.state ≠ .published ∧ word.state ≠ .aborted ∧
        s.viewPublisher = packRecord word.tag .writing slot ∧ s.control.latch % 2 = 1 then
      return some (← quarantine)
    let status ← finishViewPublication word.tag slot publication.rangeSlot settled
    if status = .staleHandle then
      return some (← quarantine)
    if status ≠ .success then
      return some status
    return none

def recoverRange (slot : Nat) : Program (Option SharedStatus) :=
  rangeTable.guarded uint32Max slot none do
    let s ← get
    let range := s.ranges slot
    if range.word.state = .initializing ∨ ¬ sameOwner range.payload.owner owner then
      return none
    if range.word.state = .open then
      let status ← retireLifecycleRange
        { viewId := s.viewId
          rangeBegin := range.payload.rangeBegin
          rangeEnd := range.payload.rangeEnd
          tokenGeneration := range.payload.tokenGeneration
          rangeSlot := slot
          rangeTag := range.word.tag }
        (beforeRange range.payload.rangeBegin)
      if status ≠ .success ∧ status ≠ .staleHandle then
        return some status
    else if range.word.state = .prepared then
      rangeTable.store slot (packRecord range.word.tag .retired Disposition.whole.code)
    return none

def recoverOwner (ownerMayStillRun : Bool) : Program SharedStatus := do
  if (← get).extended = false then
    return .notSupported
  if owner.pid = 0 ∨ owner.startTimeTicks = 0 ∨ owner.reserved ≠ 0 then
    return .invalidArgument
  if ownerMayStillRun = true then
    quarantine
  else
    (List.range admissionLeaseCapacity).forM (recoverLease owner)
    (List.range admissionAttemptCapacity).forM (recoverAttempt owner)
    let status ← recoverDeviceUpdates owner
    if status ≠ .success then
      return status
    let status ← recoverTelemetryPublish owner
    if status ≠ .success then
      return status
    match ← scan (recoverViewPublication owner) (List.range ordinaryViewPublishCapacity) with
    | some status => return status
    | none =>
      return (← scan (recoverRange owner) (List.range lifecycleRangeCapacity)).getD .success

/-! ## 6. Recovering everybody who is gone -/

def processIsAlive (owner : Owner) (inquiry : Inquiry) : Bool :=
  owner.pid != 0 && owner.reserved == 0 && inquiry.alive

def deadlineExpired (deadlineNs : Nat) (inquiry : Inquiry) : Prop :=
  deadlineNs ≠ 0 ∧ inquiry.now ≠ 0 ∧ deadlineNs ≤ inquiry.now
deriving Decidable

/-- The owner of an unfinished record is recovered when it is gone or its time is up. -/
def recoverHolder {α ρ : Type} (t : Slots Mapping α ρ) (settled : α → Bool) (ownerOf : ρ → Owner)
    (deadlineOf : ρ → Nat) (inquiry : Nat → Inquiry) (slot : Nat) :
    Program (Option SharedStatus) := do
  if settled (← t.cell slot).word.state = true then
    return none
  t.guarded uint32Max slot none do
    let record := (← t.cell slot).payload
    if (ownerOf record).pid = 0 then
      return none
    let alive := processIsAlive (ownerOf record) (inquiry slot)
    if alive = false ∨ deadlineExpired (deadlineOf record) (inquiry slot) then
      let status ← recoverOwner (ownerOf record) alive
      if status ≠ .success then
        return some status
    return none

def attemptSettled : AttemptState → Bool
  | .idle | .entering | .exited => true
  | _ => false

def rangeSettled : RangeState → Bool
  | .free | .initializing | .retired => true
  | _ => false

def recover (inquiries : Inquiries) : Program SharedStatus := do
  if (← get).extended = false then
    return .notSupported
  let attempts := recoverHolder attemptTable attemptSettled (·.owner) (·.deadlineNs)
    (inquiries .attempt)
  if let some status ← scan attempts (List.range admissionAttemptCapacity) then
    return status
  let updates :=
    recoverHolder updateTable updateSettled (·.owner) (·.deadlineNs) (inquiries .update)
  if let some status ← scan updates (List.range deviceUpdateCapacity) then
    return status
  let telemetry := recoverHolder telemetryPublicationTable publicationSettled (·.owner)
    (·.deadlineNs) (inquiries .telemetryPublication)
  if let some status ← scan telemetry (List.range ordinaryTelemetryPublishCapacity) then
    return status
  let publications := recoverHolder viewPublicationTable publicationSettled (·.owner)
    (·.deadlineNs) (inquiries .viewPublication)
  if let some status ← scan publications (List.range ordinaryViewPublishCapacity) then
    return status
  let ranges := recoverHolder rangeTable rangeSettled (·.owner) (·.deadlineNs) (inquiries .range)
  if let some status ← scan ranges (List.range lifecycleRangeCapacity) then
    return status
  return .success

end MetaFlux.Registry
