/-
# The lifecycle coordinator

The source's class `Coordinator`, as functions of an explicit state.  Mirrors are callbacks into
code the coordinator does not know, and a callback may call the coordinator back: so a callback here
is a function of the whole `Host`, which holds the coordinator next to the `world` the callbacks
act on.  The registered mirrors are a parameter of every function that calls them.

The clock is a callback too: a reading is a function of the world and may change it, so it may
answer anything whatever.  It is read exactly where the source reads it: only where both a clock is
configured and the request has a deadline (`expired`).

`Host.calls` is a GHOST: it keeps each callback made, in order, with its answer.
-/
import MetaFlux.Lifecycle.Types

namespace MetaFlux.Lifecycle

open Base

/-! ## 1. State -/

def requestCapacity : Nat := 4096
def tombstoneCapacity : Nat := 2048

variable {W : Type}

structure Config (W : Type) where
  logicalDeviceId : Nat := 1
  daemonIncarnation : Nat := 1
  initialIdentityRecordId : Nat := 1
  initialGeneration : Nat := 1
  initialEpoch : Nat := 1
  initialState : State := .online
  identityRecordTerminal : Nat := 2 ^ 64 - 1
  generationTerminal : Nat := 2 ^ 64 - 1
  epochTerminal : Nat := 2 ^ 64 - 1
  clock : Option (W → Nat × W) := none

structure Coordinator (W : Type) where
  config : Config W
  valid : Bool
  state : State
  logicalDeviceId : Nat
  daemonIncarnation : Nat
  identityRecordId : Nat
  generation : Nat
  epoch : Nat
  identityHighWater : Nat
  generationHighWater : Nat
  requests : Table RequestRecord requestCapacity
  tombstones : Table Tombstone tombstoneCapacity

/-- The constructor.  It accepts any state but `absent` for a device that has an identity.  The high
waters start at the initial values, so only their distance to the terminals is left to check. -/
def Coordinator.init (config : Config W) : Coordinator W :=
  let terminalsValid := decide (1 < config.identityRecordTerminal ∧
    1 < config.generationTerminal ∧ 1 < config.epochTerminal)
  let initialValuesValid := decide (config.logicalDeviceId ≠ 0 ∧ config.daemonIncarnation ≠ 0 ∧
    config.initialEpoch ≠ 0 ∧ config.initialEpoch < config.epochTerminal)
  let stateValuesValid := decide (
    (config.initialState = .absent ∧ config.initialGeneration = 0 ∧
      config.initialIdentityRecordId = 0) ∨
    (config.initialState ≠ .absent ∧ config.initialGeneration ≠ 0 ∧
      config.initialGeneration < config.generationTerminal ∧
      config.initialIdentityRecordId ≠ 0 ∧
      config.initialIdentityRecordId < config.identityRecordTerminal))
  let highWaterValid := decide (config.initialGeneration < config.generationTerminal ∧
    config.initialIdentityRecordId < config.identityRecordTerminal)
  { config
    valid := terminalsValid && initialValuesValid && stateValuesValid && highWaterValid
    state := config.initialState
    logicalDeviceId := config.logicalDeviceId
    daemonIncarnation := config.daemonIncarnation
    identityRecordId := config.initialIdentityRecordId
    generation := config.initialGeneration
    epoch := config.initialEpoch
    identityHighWater := config.initialIdentityRecordId
    generationHighWater := config.initialGeneration
    requests := .empty
    tombstones := .empty }

/-- A callback that was made, by the index of its mirror. -/
structure Call where
  mirror : Nat
  event : MirrorEvent
  answer : Bool
deriving DecidableEq, Repr

structure Host (W : Type) where
  coordinator : Coordinator W
  world : W
  calls : List Call := []

def Host.update (h : Host W) (f : Coordinator W → Coordinator W) : Host W :=
  { h with coordinator := f h.coordinator }

structure Mirror (W : Type) where
  kind : MirrorKind
  name : String := ""
  context : Nat := 0
  prepare : Option (MirrorEvent → Host W → Bool × Host W) := none
  quiesce : Option (MirrorEvent → Host W → Bool × Host W) := none
  drain : Option (MirrorEvent → Host W → Bool × Host W) := none
  commit : Option (MirrorEvent → Host W → Bool × Host W) := none
  abort : Option (MirrorEvent → Host W → Bool × Host W) := none
  publishLost : Option (MirrorEvent → Host W → Host W) := none

/-- The callback `invoke` selects for a stage. -/
def Mirror.callback (mirror : Mirror W) :
    MirrorStage → Option (MirrorEvent → Host W → Bool × Host W)
  | .prepare => mirror.prepare
  | .quiesce => mirror.quiesce
  | .drain => mirror.drain
  | .commit => mirror.commit
  | .abort => mirror.abort
  | .publishLost => none

/-! ## 2. Requests -/

def sameRequest (left right : Request) : Bool :=
  decide (left.requestId = right.requestId ∧ left.logicalDeviceId = right.logicalDeviceId ∧
    left.daemonIncarnation = right.daemonIncarnation ∧
    left.expectedIdentityRecordId = right.expectedIdentityRecordId ∧
    left.expectedGeneration = right.expectedGeneration ∧
    left.expectedEpoch = right.expectedEpoch ∧ left.deadlineTick = right.deadlineTick ∧
    left.source = right.source ∧ left.operation = right.operation)

/-- Whether the deadline has passed.  Without a clock or without a deadline it never does, and the
clock is not read. -/
def expired (deadlineTick : Nat) (h : Host W) : Bool × Host W :=
  match h.coordinator.config.clock with
  | none => (false, h)
  | some clock =>
    if deadlineTick = 0 then (false, h)
    else (decide (deadlineTick ≤ (clock h.world).1), { h with world := (clock h.world).2 })

variable (c : Coordinator W)

/-- The checks that read nothing but the request and the device's names. -/
def Coordinator.wellFormed (request : Request) : Bool :=
  decide (request.requestId ≠ 0 ∧ request.logicalDeviceId = c.logicalDeviceId ∧
    request.daemonIncarnation = c.daemonIncarnation) &&
    isValidSource request.source && isValidOperation request.operation

/-- The request was written against the tuple the coordinator holds. -/
def Coordinator.matchesTuple (request : Request) : Bool :=
  decide (request.expectedEpoch = c.epoch ∧
    request.expectedIdentityRecordId = c.identityRecordId ∧
    request.expectedGeneration = c.generation)

def validRequest (request : Request) (h : Host W) : Bool × Host W :=
  if h.coordinator.wellFormed request = false then (false, h)
  else
    let checked := expired request.deadlineTick h
    if checked.1 then (false, checked.2)
    else (checked.2.coordinator.matchesTuple request, checked.2)

def Coordinator.findRequest (requestId : Nat) : Option RequestRecord :=
  c.requests.rows.find? fun record => record.request.requestId = requestId

def Coordinator.rememberRequest (request : Request) (details : ResultDetails) : Coordinator W :=
  { c with
    requests := c.requests.push
      { request
        result := details.result
        candidateGeneration := details.candidateGeneration
        candidateIdentityRecordId := details.candidateIdentityRecordId } }

/-! ## 3. Reservations -/

def Coordinator.reserveCandidate : Option (Candidate × Coordinator W) :=
  if c.generationHighWater ≥ c.config.generationTerminal - 1 ∨
      c.identityHighWater ≥ c.config.identityRecordTerminal - 1 then none
  else
    some (
      { generation := c.generationHighWater + 1
        identityRecordId := c.identityHighWater + 1
        epoch := c.epoch },
      { c with
        generationHighWater := c.generationHighWater + 1
        identityHighWater := c.identityHighWater + 1 })

def Coordinator.reserveEpoch : Option Nat :=
  if c.epoch ≥ c.config.epochTerminal - 1 then none else some (c.epoch + 1)

def Coordinator.appendTombstone (generation identityRecordId epoch : Nat) : Coordinator W :=
  { c with tombstones := c.tombstones.push { generation, identityRecordId, epoch } }

/-- The candidate becomes the tuple of the device. -/
def Coordinator.install (candidate : Candidate) (state : State) : Coordinator W :=
  { c with
    generation := candidate.generation
    identityRecordId := candidate.identityRecordId
    state }

/-- The tuple of the device is retired at the epoch. -/
def Coordinator.retire (nextEpoch : Nat) : Coordinator W :=
  { c.appendTombstone c.generation c.identityRecordId nextEpoch with
    epoch := nextEpoch
    generation := 0
    identityRecordId := 0
    state := .absent }

/-- The tuple of the device is retired and the candidate takes its place. -/
def Coordinator.replace (nextEpoch : Nat) (candidate : Candidate) (state : State) : Coordinator W :=
  { c.appendTombstone c.generation c.identityRecordId nextEpoch with epoch := nextEpoch }.install
    candidate state

def Coordinator.setState (state : State) : Coordinator W :=
  { c with state }

def Coordinator.snapshot : Snapshot :=
  { state := c.state
    logicalDeviceId := c.logicalDeviceId
    identityRecordId := c.identityRecordId
    generation := c.generation
    epoch := c.epoch
    generationHighWater := c.generationHighWater
    identityHighWater := c.identityHighWater
    daemonIncarnation := c.daemonIncarnation }

def Coordinator.resolve (generation : Nat) : ResolveResult :=
  if generation = 0 then .absent
  else if generation = c.generation then
    if c.state = .online then .online else .deviceLost
  else if c.tombstones.rows.any fun tombstone => tombstone.generation = generation then .deviceLost
  else .unknown

def Coordinator.generationConsumed (generation : Nat) : Bool :=
  decide (generation ≠ 0 ∧ generation ≤ c.generationHighWater)

end MetaFlux.Lifecycle
