/-
# The lifecycle coordinator: requests, events and records

The coordinator is the authority over ONE logical device.  A request names the tuple of identity,
generation and epoch it was written against; the coordinator runs it as a transaction across its
mirrors (the transports), each of which sees the same `MirrorEvent` at each stage.

Enumerations of the source are bytes on the wire, and two of them are checked for range
(`is_valid_source`, `is_valid_operation`): `Source` and `Operation` therefore have a constructor for
a byte outside the range.  Identities, generations, epochs and ticks are natural numbers; the
coordinator keeps each of the first three below a terminal of its configuration.
-/
import MetaFlux.Base.Table

namespace MetaFlux.Lifecycle

open Base

/-! ## 1. Enumerations -/

inductive State where
  | absent | present | online | quiescing | draining | resetting | lost
deriving DecidableEq, Repr

/-- A byte outside the range is kept, to be refused. -/
inductive Operation where
  | add | remove | reset | transportLoss | recover
  | outOfRange (value : Nat)
deriving DecidableEq, Repr

inductive Source where
  | admin | memfd | cdev | vfioUser | qmp | disconnect | restart
  | outOfRange (value : Nat)
deriving DecidableEq, Repr

inductive Result where
  | accepted | duplicate | stale | conflict | invalid | resourceExhausted | callbackRejected
  | deviceLost | timeout
deriving DecidableEq, Repr

/-- What is said of a generation that somebody still names. -/
inductive ResolveResult where
  | online | deviceLost | absent | unknown
deriving DecidableEq, Repr

inductive MirrorKind where
  | memfd | cdev | vfioUser
deriving DecidableEq, Repr

/-- A transaction goes through the first four.  `abort` undoes one, and `publishLost` tells that the
device is lost. -/
inductive MirrorStage where
  | prepare | quiesce | drain | commit | abort | publishLost
deriving DecidableEq, Repr

def isValidSource : Source → Bool
  | .outOfRange _ => false
  | _ => true

def isValidOperation : Operation → Bool
  | .outOfRange _ => false
  | _ => true

/-! ## 2. Requests and events -/

/-- A request names the tuple it was written against.  A deadline of zero is none. -/
structure Request where
  requestId : Nat := 0
  logicalDeviceId : Nat := 0
  daemonIncarnation : Nat := 0
  expectedIdentityRecordId : Nat := 0
  expectedGeneration : Nat := 0
  expectedEpoch : Nat := 0
  deadlineTick : Nat := 0
  source : Source := .admin
  operation : Operation := .add
deriving DecidableEq, Repr

/-- What a transaction is to bring online. -/
structure Candidate where
  generation : Nat := 0
  identityRecordId : Nat := 0
  epoch : Nat := 0
deriving DecidableEq, Repr

structure Snapshot where
  state : State := .absent
  logicalDeviceId : Nat := 0
  identityRecordId : Nat := 0
  generation : Nat := 0
  epoch : Nat := 0
  generationHighWater : Nat := 0
  identityHighWater : Nat := 0
  daemonIncarnation : Nat := 0
deriving DecidableEq, Repr

/-- What every mirror is told at a stage. -/
structure MirrorEvent where
  request : Request := {}
  stage : MirrorStage := .prepare
  stateBefore : State := .absent
  stateAfter : State := .absent
  oldGeneration : Nat := 0
  oldIdentityRecordId : Nat := 0
  oldEpoch : Nat := 0
  candidate : Candidate := {}
deriving DecidableEq, Repr

structure ResultDetails where
  result : Result := .invalid
  snapshot : Snapshot := {}
  candidateGeneration : Nat := 0
  candidateIdentityRecordId : Nat := 0
deriving DecidableEq, Repr

/-! ## 3. The coordinator's records -/

/-- A request that was answered, by which a duplicate is told from a conflict. -/
structure RequestRecord where
  request : Request
  result : Result
  candidateGeneration : Nat
  candidateIdentityRecordId : Nat
deriving DecidableEq, Repr

/-- A generation that is gone. -/
structure Tombstone where
  generation : Nat
  identityRecordId : Nat
  epoch : Nat
deriving DecidableEq, Repr

/-- A transaction under way: what it was started from, what it aims at, which mirrors it has reached
(one bit each) and which of them have committed. -/
structure Transaction where
  request : Request
  candidate : Candidate := {}
  targetState : State
  oldState : State
  oldGeneration : Nat
  oldIdentityRecordId : Nat
  oldEpoch : Nat
  hasCandidate : Bool := false
  touchedMask : Nat := 0
  committedMask : Nat := 0
  committedCount : Nat := 0
  timedOut : Bool := false
deriving DecidableEq, Repr

/-- The state a mirror is told it goes to, by operation and stage. -/
def eventState (transaction : Transaction) (stage : MirrorStage) : State :=
  match stage, transaction.request.operation with
  | .abort, _ => transaction.targetState
  | .publishLost, _ => .lost
  | .prepare, .add => .present
  | .quiesce, .add => .quiescing
  | .drain, .add => .draining
  | .commit, .add => .online
  | .prepare, .remove => .quiescing
  | .quiesce, .remove => .draining
  | .drain, .remove => .absent
  | .commit, .remove => .absent
  | .prepare, .reset => .quiescing
  | .quiesce, .reset => .draining
  | .drain, .reset => .resetting
  | .commit, .reset => .online
  | .prepare, .recover => .quiescing
  | .quiesce, .recover => .draining
  | .drain, .recover => .resetting
  | .commit, .recover => .online
  | _, _ => transaction.targetState

def Transaction.event (transaction : Transaction) (stage : MirrorStage) : MirrorEvent :=
  { request := transaction.request
    stage := stage
    stateBefore := transaction.oldState
    stateAfter := eventState transaction stage
    oldGeneration := transaction.oldGeneration
    oldIdentityRecordId := transaction.oldIdentityRecordId
    oldEpoch := transaction.oldEpoch
    candidate := transaction.candidate }

end MetaFlux.Lifecycle
