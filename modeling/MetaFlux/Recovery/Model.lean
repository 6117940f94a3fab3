/-
# The recovery model: state and operations

`Model` is the source's class of the same name, and each definition below is one of its methods: a
method that may be refused returns its answer together with the next state.  The checks of a method
stand in one guard, in the source's order; where the guard fails the state is returned as it was,
except in the methods that first mark the owner dead (`recoverDeadLease`,
`recoverDeadDeviceUpdate`, `recoverDeadPublication`) and in `completeDeviceUpdateLink`, which closes
an update that it finds superseded.

The one thing added is `History`, a GHOST: it collects the cursor values published, the ranges
opened and the ranges retired, newest first.  An operation writes it where the source performs the
event, and none reads it.
-/
import MetaFlux.Base.Table
import MetaFlux.Recovery.Records

namespace MetaFlux.Recovery

open Base

/-! ## 1. The state -/

/-- What happened to the sequence numbers so far, newest first.  A published value is kept with the
head range as it was at that moment. -/
structure History where
  published : List (Nat × RangeRecord) := []
  opened : List RangeRecord := []
  retired : List RangeRecord := []
deriving DecidableEq, Repr

/-- One view with its device.  Of each kind of record there is one, and two of ranges: the head and
the one that follows it. -/
structure Model where
  limits : Limits
  valid : Bool
  viewId : ViewId
  viewState : ViewState
  deviceState : DeviceState
  viewGeneration : Nat
  deviceGeneration : Nat
  rangeTokenGeneration : Nat
  rangeTagHighWater : Nat
  deviceUpdateTag : Nat
  epoch : Nat
  allocationHighWater : Nat
  publicationCursor : Nat
  intermediateVisible : Bool
  committedAdmissions : Nat
  compensationCount : Nat
  attempt : AttemptRecord
  lease : LeaseRecord
  update : UpdateRecord
  range : RangeRecord
  followingRange : RangeRecord
  retiredRanges : Table RangeRecord 2
  publication : PublishRecord
  history : History
deriving DecidableEq

/-- The constructor: a model whose limits or initial values are not usable starts quarantined. -/
def Model.init (limits : Limits) (initialHighWater initialGeneration initialEpoch : Nat)
    (viewId : ViewId) : Model :=
  let valid := decide (3 ≤ limits.sequenceTerminal ∧ 3 ≤ limits.generationTerminal ∧
    3 ≤ limits.tagTerminal ∧ 3 ≤ limits.epochTerminal ∧
    initialHighWater < limits.sequenceTerminal ∧ 0 < initialGeneration ∧
    initialGeneration < limits.generationTerminal ∧ 0 < initialEpoch ∧
    initialEpoch < limits.epochTerminal ∧ viewId.daemonIncarnation ≠ 0 ∧ viewId.viewSerial ≠ 0)
  { limits, valid, viewId
    viewState := if valid then .open else .quarantined
    deviceState := if valid then .open else .closed
    viewGeneration := initialGeneration
    deviceGeneration := initialGeneration
    rangeTokenGeneration := initialGeneration
    rangeTagHighWater := 0
    deviceUpdateTag := 0
    epoch := initialEpoch
    allocationHighWater := initialHighWater
    publicationCursor := initialHighWater
    intermediateVisible := false
    committedAdmissions := 0
    compensationCount := 0
    attempt := {}
    lease := {}
    update := {}
    range := {}
    followingRange := {}
    retiredRanges := .empty
    publication := {}
    history := {} }

namespace Model

/-- The state writes that most methods end with. -/
def setAttempt (m : Model) (state : AttemptState) : Model :=
  { m with attempt := { m.attempt with state } }

def setLease (m : Model) (state : LeaseState) : Model :=
  { m with lease := { m.lease with state } }

def setUpdate (m : Model) (state : UpdateState) : Model :=
  { m with update := { m.update with state } }

def setPublication (m : Model) (state : PublishState) : Model :=
  { m with publication := { m.publication with state } }

end Model

/-! ## 2. Shared checks -/

def uint32Max : Nat := 2 ^ 32 - 1

/-- The sum, unless it would reach the terminal. -/
def checkedAddBelowTerminal (current increment terminal : Nat) : Option Nat :=
  if current ≥ terminal ∨ increment ≥ terminal - current then none else some (current + increment)

theorem checkedAdd_eq_some {current increment terminal value : Nat} :
    checkedAddBelowTerminal current increment terminal = some value ↔
      value = current + increment ∧ value < terminal := by
  unfold checkedAddBelowTerminal
  split
  · simp only [reduceCtorEq, false_iff]
    omega
  · simp only [Option.some.injEq]
    omega

variable (m : Model)

/-- Tags grow by one, and stay below their terminal. -/
def nextTag (current proposed : Nat) : Prop :=
  0 < proposed ∧ proposed < m.limits.tagTerminal ∧ current < proposed ∧ proposed - current = 1
deriving Decidable

/-- The view and the device are open, in these generations. -/
def controlsMatch (viewGeneration deviceGeneration : Nat) : Prop :=
  m.valid = true ∧ m.viewState = .open ∧ m.deviceState = .open ∧
    m.viewGeneration = viewGeneration ∧ m.deviceGeneration = deviceGeneration
deriving Decidable

/-- The token is that of the lease as it is, in a view and a device that have not moved. -/
def admissionTokenMatches (token : AdmissionToken) : Prop :=
  token.viewId = m.viewId ∧ token.attemptTag = m.attempt.tag ∧ token.leaseTag = m.lease.tag ∧
    m.attempt.targetLeaseTag = m.lease.tag ∧ m.attempt.state = .ready ∧
    m.lease.state = .reserved ∧ controlsMatch m token.viewGeneration token.deviceGeneration ∧
    token.viewGeneration = m.attempt.viewGeneration ∧
    token.deviceGeneration = m.attempt.deviceGeneration ∧
    token.viewGeneration = m.lease.viewGeneration ∧
    token.deviceGeneration = m.lease.deviceGeneration
deriving Decidable

def updateTupleMatches (tag : Nat) : Prop :=
  m.deviceState = .updating ∧ m.deviceGeneration = m.update.newGeneration ∧
    m.deviceUpdateTag = tag ∧ m.update.tag = tag
deriving Decidable

/-- The publication is in the head range. -/
def publicationRangeMatches : Prop :=
  m.range.state = .open ∧ m.publication.rangeTag = m.range.tag ∧
    m.publication.tokenGeneration = m.range.tokenGeneration ∧
    m.publication.rangeBegin = m.range.begin ∧ m.publication.rangeEnd = m.range.end
deriving Decidable

def rangeRecordMatches (range : RangeRecord) (token : RangeToken) : Prop :=
  token.viewId = m.viewId ∧ token.viewGeneration = m.viewGeneration ∧
    token.tokenGeneration = range.tokenGeneration ∧ token.rangeTag = range.tag ∧
    token.rangeBegin = range.begin ∧ token.rangeEnd = range.end
deriving Decidable

def rangeTokenValid (token : RangeToken) : Prop :=
  m.valid = true ∧ m.viewState = .open ∧ token.viewGeneration = m.viewGeneration ∧
    ((m.range.state = .open ∧ rangeRecordMatches m m.range token) ∨
      (m.followingRange.state = .open ∧ rangeRecordMatches m m.followingRange token))
deriving Decidable

def LeaseState.live : LeaseState → Bool
  | .initializing | .reserved | .committing | .committed | .published => true
  | .free | .released | .revoked | .tombstoned | .quarantined => false

def hasLiveLease : Bool :=
  m.lease.state.live

/-! ## 3. Closing: settling the lease, the device, quarantine -/

/-- A lease that ends without its owner's release.  A committed lease whose target was written is
released; any other lease that had left `reserved` leaves a tombstone. -/
def LeaseRecord.settle (lease : LeaseRecord) : LeaseRecord :=
  match lease.state with
  | .initializing | .committing => { lease with state := .tombstoned }
  | .reserved => { lease with state := .revoked }
  | .committed =>
    if lease.targetWritten then { lease with publicationMarker := true, state := .released }
    else { lease with state := .tombstoned }
  | .published => { lease with state := .released }
  | .free | .released | .revoked | .tombstoned | .quarantined => lease

/-- An attempt that was under way has exited. -/
def AttemptRecord.settle (attempt : AttemptRecord) : AttemptRecord :=
  if attempt.state ≠ .idle ∧ attempt.state ≠ .exited then { attempt with state := .exited }
  else attempt

/-- Nobody can use the lease or the attempt any more. -/
def settleLeaseForClose : Model :=
  { m with lease := m.lease.settle, attempt := m.attempt.settle }

/-- The update a closing device leaves behind. -/
def UpdateState.settle : UpdateState → UpdateState
  | .initializing | .prepared | .linking | .active | .fencePublished | .reopened => .closed
  | .free => .free
  | .aborted => .aborted
  | .closed => .closed
  | .terminal => .terminal
  | .quarantined => .quarantined

/-- For good: the generation is the terminal one. -/
def closeDevice : Model :=
  if m.valid = false ∨
      (m.deviceState = .closed ∧ m.deviceGeneration = m.limits.generationTerminal) then m
  else
    settleLeaseForClose
      { m with
        deviceState := .closed
        deviceGeneration := m.limits.generationTerminal
        deviceUpdateTag := 0
        update := { m.update with state := m.update.state.settle } }

def LeaseState.quarantine (s : LeaseState) : LeaseState :=
  if s.live then .quarantined else s

def UpdateState.quarantine : UpdateState → UpdateState
  | .free => .free
  | .terminal => .terminal
  | .closed => .closed
  | .aborted => .aborted
  | _ => .quarantined

def PublishState.quarantine : PublishState → PublishState
  | .free => .free
  | .terminal => .terminal
  | .aborted => .aborted
  | _ => .quarantined

def RangeState.quarantine : RangeState → RangeState
  | .initializing | .prepared | .open => .quarantined
  | .free => .free
  | .retired => .retired
  | .terminal => .terminal
  | .quarantined => .quarantined

/-- Everything that is under way is quarantined with the view, and the attempt is out. -/
def quarantine : Model :=
  { m with
    viewState := .quarantined
    viewGeneration := m.limits.generationTerminal
    deviceState := .closed
    deviceGeneration := m.limits.generationTerminal
    deviceUpdateTag := 0
    lease := { m.lease with state := m.lease.state.quarantine }
    update := { m.update with state := m.update.state.quarantine }
    publication := { m.publication with state := m.publication.state.quarantine }
    range := { m.range with state := m.range.state.quarantine }
    followingRange := { m.followingRange with state := m.followingRange.state.quarantine }
    attempt := m.attempt.settle }

def PublishState.idle (s : PublishState) : Prop := s = .free ∨ s = .terminal
deriving Decidable

/-- A publication in flight cannot be settled, so that the view is quarantined instead. -/
def closeView : Model :=
  if m.valid = false ∨ m.viewState = .terminal ∨ m.viewState = .quarantined then m
  else if ¬ m.publication.state.idle then quarantine m
  else
    let closing := { m with
      viewState := .closing, viewGeneration := m.limits.generationTerminal }
    { settleLeaseForClose (closeDevice closing) with viewState := .terminal }

/-! ## 4. Attempts and leases -/

def enterAttempt (attemptTag : Nat) : Bool × Model :=
  if m.valid = true ∧ m.viewState = .open ∧ m.deviceState = .open ∧
      (m.attempt.state = .idle ∨ m.attempt.state = .exited) ∧
      nextTag m m.attempt.tag attemptTag then
    (true, { m with
      attempt :=
        { tag := attemptTag
          state := .entering
          owner := .live
          viewGeneration := m.viewGeneration
          deviceGeneration := m.deviceGeneration
          targetLeaseTag := 0 } })
  else (false, m)

/-- The lease is recorded before it can be used; `materializeLease` makes it usable. -/
def claimLease (attemptTag leaseTag : Nat) : Bool × Model :=
  if m.attempt.tag = attemptTag ∧ m.attempt.state = .entering ∧ m.lease.state = .free ∧
      nextTag m m.lease.tag leaseTag ∧
      controlsMatch m m.attempt.viewGeneration m.attempt.deviceGeneration then
    (true, { m with
      attempt := { m.attempt with state := .initializing, targetLeaseTag := leaseTag }
      lease :=
        { tag := leaseTag
          state := .initializing
          owner := .live
          viewGeneration := m.attempt.viewGeneration
          deviceGeneration := m.attempt.deviceGeneration
          targetWritten := false
          publicationMarker := false } })
  else (false, m)

def materializeLease (attemptTag leaseTag : Nat) : Bool × Model :=
  if m.attempt.tag = attemptTag ∧ m.attempt.state = .initializing ∧
      m.attempt.targetLeaseTag = leaseTag ∧ m.lease.tag = leaseTag ∧
      m.lease.state = .initializing ∧
      controlsMatch m m.lease.viewGeneration m.lease.deviceGeneration then
    (true, (m.setLease .reserved).setAttempt .ready)
  else (false, m)

/-- `a && b` of two methods: the second runs on what the first left, if the first succeeded. -/
def andThen (first : Bool × Model) (second : Model → Bool × Model) : Bool × Model :=
  if first.1 then second first.2 else first

def reserveLease (attemptTag leaseTag : Nat) : Bool × Model :=
  andThen (claimLease m attemptTag leaseTag) fun m => materializeLease m attemptTag leaseTag

def currentAdmissionToken : Option AdmissionToken :=
  if m.attempt.state = .ready ∧ m.lease.state = .reserved ∧
      m.attempt.targetLeaseTag = m.lease.tag then
    some
      { viewId := m.viewId
        viewGeneration := m.lease.viewGeneration
        deviceGeneration := m.lease.deviceGeneration
        attemptTag := m.attempt.tag
        leaseTag := m.lease.tag }
  else none

variable (leaseTag : Nat)

def beginLeaseCommit : Bool × Model :=
  if m.lease.tag = leaseTag ∧ m.lease.state = .reserved ∧ m.attempt.state = .ready ∧
      controlsMatch m m.lease.viewGeneration m.lease.deviceGeneration then
    (true, m.setLease .committing)
  else (false, m)

/-- The overload that takes the token the attempt was given. -/
def beginLeaseCommitToken (token : AdmissionToken) : Bool × Model :=
  if admissionTokenMatches m token then beginLeaseCommit m token.leaseTag else (false, m)

/-- The commit of the lease is counted. -/
def Model.countAdmission : Model :=
  { m.setLease .committed with committedAdmissions := (m.committedAdmissions + 1) % 2 ^ 32 }

def finishLeaseCommit : Bool × Model :=
  if m.lease.tag = leaseTag ∧ m.lease.state = .committing then (true, m.countAdmission)
  else (false, m)

def writeLeaseTarget : Bool × Model :=
  if m.lease.tag = leaseTag ∧ m.lease.state = .committed then
    (true, { m with lease := { m.lease with targetWritten := true } })
  else (false, m)

def publishLease : Bool × Model :=
  if m.lease.tag = leaseTag ∧ m.lease.state = .committed then
    (true, { m with
      lease := { m.lease with
        targetWritten := true, publicationMarker := true, state := .published } })
  else (false, m)

def releaseLease : Bool × Model :=
  if m.lease.tag = leaseTag ∧ m.lease.state = .published then
    let released := m.setLease .released
    (true, if m.attempt.targetLeaseTag = leaseTag then released.setAttempt .exited else released)
  else (false, m)

/-- The lease its dead owner leaves behind; `none` where there is nothing to recover. -/
def LeaseRecord.afterDeath (lease : LeaseRecord) : Option LeaseRecord :=
  match lease.state with
  | .initializing | .reserved | .committing => some { lease with state := .tombstoned }
  | .committed =>
    if lease.targetWritten then some { lease with publicationMarker := true, state := .released }
    else some { lease with state := .tombstoned }
  | .published => some { lease with state := .released }
  | .released | .revoked | .tombstoned => some lease
  | .free | .quarantined => none

/-- The lease ends as `afterDeath` says, and its attempt is out. -/
def recoverDeadLease : Bool × Model :=
  if m.lease.tag = leaseTag then
    -- the owner is marked dead even where the recovery is then refused
    let dead := { m with lease := { m.lease with owner := .dead } }
    match dead.lease.afterDeath with
    | none => (false, dead)
    | some lease =>
      (true, { dead with
        lease
        attempt :=
          if m.attempt.targetLeaseTag = leaseTag then
            { m.attempt with owner := .dead, state := .exited }
          else m.attempt })
  else (false, m)

def expireLiveLease : Bool × Model :=
  if m.lease.tag = leaseTag ∧ m.lease.owner = .live ∧ hasLiveLease m = true then
    (true, quarantine (m.setLease .quarantined))
  else (false, m)

def reclaimLease (newTag : Nat) : Bool × Model :=
  if (m.lease.state = .released ∨ m.lease.state = .revoked ∨ m.lease.state = .tombstoned) ∧
      nextTag m m.lease.tag newTag ∧ m.attempt.state = .exited then
    (true, { m with lease := { tag := newTag } })
  else (false, m)

/-! ## 5. Device updates -/

variable (updateTag : Nat)

/-- The update is recorded against the device as it is. -/
def claimDeviceUpdate : Bool × Model :=
  match checkedAddBelowTerminal m.deviceGeneration 1 m.limits.generationTerminal,
      checkedAddBelowTerminal m.epoch 1 m.limits.epochTerminal with
  | some nextGeneration, some nextEpoch =>
    if m.valid = true ∧ m.viewState = .open ∧ m.deviceState = .open ∧
        (m.update.state = .free ∨ m.update.state = .terminal) ∧
        nextTag m m.update.tag updateTag ∧ nextGeneration ≤ uint32Max then
      (true, { m with
        update :=
          { tag := updateTag
            state := .initializing
            owner := .live
            oldGeneration := m.deviceGeneration
            newGeneration := nextGeneration
            oldEpoch := m.epoch
            newEpoch := nextEpoch
            fencePublished := false } })
    else (false, m)
  | _, _ => (false, m)

def materializeDeviceUpdate : Bool × Model :=
  if m.update.tag = updateTag ∧ m.update.state = .initializing then
    (true, m.setUpdate .prepared)
  else (false, m)

def prepareDeviceUpdate : Bool × Model :=
  andThen (claimDeviceUpdate m updateTag) fun m => materializeDeviceUpdate m updateTag

def beginDeviceUpdateLink : Bool × Model :=
  if m.update.tag = updateTag ∧ m.update.state = .prepared then (true, m.setUpdate .linking)
  else (false, m)

/-- The device still is what the update was prepared against. -/
def linkTupleMatches : Prop :=
  m.viewState = .open ∧ m.deviceState = .open ∧ m.deviceGeneration = m.update.oldGeneration ∧
    m.epoch = m.update.oldEpoch
deriving Decidable

/-- The device moves to the update's generation and epoch, and the lease is settled. -/
def linkDevice : Model :=
  (settleLeaseForClose
    { m with
      deviceState := .updating
      deviceGeneration := m.update.newGeneration
      epoch := m.update.newEpoch
      deviceUpdateTag := updateTag }).setUpdate .active

def completeDeviceUpdateLink : Bool × Model :=
  if m.update.tag = updateTag ∧ m.update.state = .linking then
    if linkTupleMatches m then (true, linkDevice m updateTag)
    else (false, m.setUpdate .closed)
  else (false, m)

def linkDeviceUpdate : Bool × Model :=
  andThen (beginDeviceUpdateLink m updateTag) fun m => completeDeviceUpdateLink m updateTag

def publishDeviceUpdate : Bool × Model :=
  if m.update.tag = updateTag ∧ m.update.state = .active ∧ updateTupleMatches m updateTag then
    (true, { m with update := { m.update with fencePublished := true, state := .fencePublished } })
  else (false, m)

def reopenDeviceUpdate : Bool × Model :=
  if m.update.tag = updateTag ∧ m.update.state = .fencePublished ∧
      m.update.fencePublished = true ∧ updateTupleMatches m updateTag then
    (true, { m.setUpdate .reopened with deviceState := .open, deviceUpdateTag := 0 })
  else (false, m)

def finishDeviceUpdate : Bool × Model :=
  if m.update.tag = updateTag ∧
      (m.update.state = .reopened ∨ m.update.state = .aborted ∨ m.update.state = .closed) then
    (true, m.setUpdate .terminal)
  else (false, m)

/-! The recovery of a dead updater is a cascade: each stage looks at the state the one before it
left, takes the operation the owner would have taken next, and closes the update if refused. -/

/-- `op` if the guard holds; the update is closed where `op` refuses. -/
def closeUnless (guard : Bool) (op : Model → Bool × Model) (m : Model) : Model :=
  if guard then
    if (op m).1 then (op m).2 else (op m).2.setUpdate .closed
  else m

def recoverUpdateLink : Model :=
  if m.update.state = .initializing ∨ m.update.state = .prepared then m.setUpdate .aborted
  else if m.update.state = .linking then
    if linkTupleMatches m then linkDevice m updateTag else m.setUpdate .closed
  else m

def recoverUpdatePublish : Model :=
  closeUnless (m.update.state = .active) (publishDeviceUpdate · updateTag) m

def recoverUpdateReopen : Model :=
  closeUnless (m.update.state = .fencePublished) (reopenDeviceUpdate · updateTag) m

def recoverUpdateFinish : Model :=
  if m.update.state = .reopened ∨ m.update.state = .aborted ∨ m.update.state = .closed then
    m.setUpdate .terminal
  else m

/-- An update whose owner is dead is carried to its end. -/
def recoverDeadDeviceUpdate : Bool × Model :=
  if m.update.tag = updateTag then
    let dead := { m with update := { m.update with owner := .dead } }
    let linked := recoverUpdateLink dead updateTag
    let published := recoverUpdatePublish linked updateTag
    let reopened := recoverUpdateReopen published updateTag
    let finished := recoverUpdateFinish reopened
    (decide (finished.update.state = .terminal), finished)
  else (false, m)

/-- Its owner is alive, so that nobody may finish it: the view is quarantined. -/
def expireLiveDeviceUpdate : Bool × Model :=
  if m.update.tag = updateTag ∧ m.update.owner = .live ∧ m.update.state ≠ .free ∧
      m.update.state ≠ .aborted ∧ m.update.state ≠ .closed ∧ m.update.state ≠ .terminal ∧
      m.update.state ≠ .quarantined then
    (true, quarantine (m.setUpdate .quarantined))
  else (false, m)

end MetaFlux.Recovery
