/-
# Transactions of the lifecycle coordinator

A transaction asks every mirror to prepare, then every mirror to quiesce, to drain and to commit, in
the order of registration; the deadline is checked before each mirror.  The first refusal, or a
deadline that has passed, ends it: the mirrors it had reached and that have not committed are told
to abort.  What the coordinator itself then settles on depends on the operation and on whether any
mirror has committed:

* `applyAdd` and `applyResetOrRecover` roll back while no mirror has committed, and settle on the
  candidate as LOST as soon as one has;
* `applyRemove` never rolls back: a removal once begun ends in `absent`;
* `applyTransportLoss` asks nobody.

`apply` puts the checks of the request in front: replay, room, deadline, tuple.  Only a request that
passes them all is recorded.
-/
import MetaFlux.Lifecycle.Coordinator

namespace MetaFlux.Lifecycle

open Base

variable {W : Type}

/-! ## 1. Calling the mirrors -/

/-- One callback, kept in the log once it has answered. -/
def Host.call (h : Host W) (index : Nat) (callback : MirrorEvent → Host W → Bool × Host W)
    (event : MirrorEvent) : Bool × Host W :=
  let answered := callback event h
  (answered.1, { answered.2 with
    calls := answered.2.calls ++ [{ mirror := index, event, answer := answered.1 }] })

def Transaction.touch (transaction : Transaction) (index : Nat) : Transaction :=
  { transaction with touchedMask := transaction.touchedMask ||| 1 <<< index }

def Transaction.commitAt (transaction : Transaction) (index : Nat) : Transaction :=
  { transaction with
    committedMask := transaction.committedMask ||| 1 <<< index
    committedCount := transaction.committedCount + 1 }

/-- What a stage leaves: its answer, the transaction with its masks, and the host. -/
structure Invoked (W : Type) where
  ok : Bool
  transaction : Transaction
  host : Host W

def invokeFrom (stage : MirrorStage) : Nat → List (Mirror W) → Transaction → Host W → Invoked W
  | _, [], transaction, h => ⟨true, transaction, h⟩
  | index, mirror :: rest, transaction, h =>
    let checked := expired transaction.request.deadlineTick h
    if checked.1 then ⟨false, { transaction with timedOut := true }, checked.2⟩
    else
      match mirror.callback stage with
      | none => invokeFrom stage (index + 1) rest transaction checked.2
      | some callback =>
        let touched := transaction.touch index
        let called := checked.2.call index callback (touched.event stage)
        if called.1 then
          invokeFrom stage (index + 1) rest
            (if stage = .commit then touched.commitAt index else touched) called.2
        else ⟨false, touched, called.2⟩

def invoke (mirrors : List (Mirror W)) (stage : MirrorStage) (transaction : Transaction)
    (h : Host W) : Invoked W :=
  invokeFrom stage 0 mirrors transaction h

/-- The three stages before the commit, the second and third only where the one before succeeded. -/
def invokeToDrain (mirrors : List (Mirror W)) (transaction : Transaction) (h : Host W) :
    Invoked W :=
  let prepared := invoke mirrors .prepare transaction h
  if prepared.ok then
    let quiesced := invoke mirrors .quiesce prepared.transaction prepared.host
    if quiesced.ok then invoke mirrors .drain quiesced.transaction quiesced.host
    else quiesced
  else prepared

def abortFrom (transaction : Transaction) : Nat → List (Mirror W) → Host W → Host W
  | _, [], h => h
  | index, mirror :: rest, h =>
    if transaction.touchedMask.testBit index = false ∨
        transaction.committedMask.testBit index = true then
      abortFrom transaction (index + 1) rest h
    else
      match mirror.abort with
      | none => abortFrom transaction (index + 1) rest h
      | some callback =>
        abortFrom transaction (index + 1) rest
          (h.call index callback (transaction.event .abort)).2

def abort (mirrors : List (Mirror W)) (transaction : Transaction) (h : Host W) : Host W :=
  abortFrom transaction 0 mirrors h

/-- The callback that tells a mirror of the loss answers nothing; the log counts it as `true`. -/
def publishLostFrom (transaction : Transaction) : Nat → List (Mirror W) → Host W → Host W
  | _, [], h => h
  | index, mirror :: rest, h =>
    match mirror.publishLost with
    | none => publishLostFrom transaction (index + 1) rest h
    | some callback =>
      publishLostFrom transaction (index + 1) rest
        (h.call index (fun event h => (true, callback event h)) (transaction.event .publishLost)).2

def publishLost (mirrors : List (Mirror W)) (transaction : Transaction) (h : Host W) : Host W :=
  publishLostFrom transaction 0 mirrors h

/-! ## 2. The operations -/

def fillDetails (result : Result) (transaction : Transaction) (h : Host W) : ResultDetails :=
  { result
    snapshot := h.coordinator.snapshot
    candidateGeneration := transaction.candidate.generation
    candidateIdentityRecordId := transaction.candidate.identityRecordId }

/-- An answer given before any transaction was begun. -/
def refusal (result : Result) (h : Host W) : ResultDetails :=
  { result, snapshot := h.coordinator.snapshot }

/-- How a transaction that failed is reported. -/
def Transaction.failure (transaction : Transaction) : Result :=
  if transaction.timedOut then .timeout else .callbackRejected

/-- A transaction as it stands before the first stage. -/
def Coordinator.begin (c : Coordinator W) (request : Request) (targetState : State)
    (candidate : Candidate) (hasCandidate : Bool) : Transaction :=
  { request
    candidate
    targetState
    oldState := c.state
    oldGeneration := c.generation
    oldIdentityRecordId := c.identityRecordId
    oldEpoch := c.epoch
    hasCandidate }

/-- How a transaction across the mirrors ends: it stops before the commit, or every mirror refuses
the commit before one has taken it, or the commit is TORN between mirrors, or it is taken by all. -/
inductive Ending where
  | stopped | refused | torn | committed
deriving DecidableEq, Repr

structure Transacted (W : Type) where
  ending : Ending
  transaction : Transaction
  host : Host W

/-- The four stages, which `apply_add`, `apply_remove` and `apply_reset_or_recover` share.  A
transaction that does not commit is aborted where it stands. -/
def transact (mirrors : List (Mirror W)) (transaction : Transaction) (h : Host W) : Transacted W :=
  let drained := invokeToDrain mirrors transaction h
  if drained.ok = false then
    ⟨.stopped, drained.transaction, abort mirrors drained.transaction drained.host⟩
  else
    let committed := invoke mirrors .commit drained.transaction drained.host
    if committed.ok = false then
      ⟨if committed.transaction.committedCount = 0 then .refused else .torn,
        committed.transaction, abort mirrors committed.transaction committed.host⟩
    else ⟨.committed, committed.transaction, committed.host⟩

/-- The answer to a transaction that did not commit. -/
def failed (transaction : Transaction) (h : Host W) : ResultDetails × Host W :=
  (fillDetails transaction.failure transaction h, h)

def accepted (transaction : Transaction) (h : Host W) : ResultDetails × Host W :=
  (fillDetails .accepted transaction h, h)

variable (mirrors : List (Mirror W)) (request : Request) (h : Host W)

def applyAdd : ResultDetails × Host W :=
  if h.coordinator.state ≠ .absent ∨ h.coordinator.generation ≠ 0 ∨
      h.coordinator.identityRecordId ≠ 0 then
    (refusal .invalid h, h)
  else
    match h.coordinator.reserveCandidate with
    | none => (refusal .resourceExhausted h, h)
    | some (candidate, reserved) =>
      let ended := transact mirrors (reserved.begin request .online candidate true)
        { h with coordinator := reserved }
      match ended.ending with
      | .stopped | .refused => failed ended.transaction ended.host
      | .torn =>
        failed ended.transaction
          (publishLost mirrors ended.transaction (ended.host.update (·.install candidate .lost)))
      | .committed =>
        accepted ended.transaction (ended.host.update (·.install candidate .online))

def applyRemove : ResultDetails × Host W :=
  if (h.coordinator.state ≠ .online ∧ h.coordinator.state ≠ .lost) ∨
      h.coordinator.generation = 0 ∨ ¬ h.coordinator.tombstones.Room then
    (refusal (if h.coordinator.state = .lost then .deviceLost else .invalid) h, h)
  else
    match h.coordinator.reserveEpoch with
    | none => (refusal .resourceExhausted h, h)
    | some nextEpoch =>
      let ended := transact mirrors
        (h.coordinator.begin request .absent { epoch := nextEpoch } false) h
      match ended.ending with
      | .stopped =>
        -- the authority is fenced before the mirrors are told, and then settled as absent
        failed ended.transaction
          ((publishLost mirrors ended.transaction (ended.host.update (·.setState .lost))).update
            (·.retire nextEpoch))
      | .refused | .torn =>
        failed ended.transaction
          ((publishLost mirrors ended.transaction ended.host).update (·.retire nextEpoch))
      | .committed => accepted ended.transaction (ended.host.update (·.retire nextEpoch))

def applyResetOrRecover : ResultDetails × Host W :=
  if (if request.operation = .recover then h.coordinator.state ≠ .lost
      else h.coordinator.state ≠ .online) ∨
      h.coordinator.generation = 0 ∨ ¬ h.coordinator.tombstones.Room then
    (refusal (if h.coordinator.state = .lost then .deviceLost else .invalid) h, h)
  else
    match h.coordinator.reserveEpoch with
    | none => (refusal .resourceExhausted h, h)
    | some nextEpoch =>
      match h.coordinator.reserveCandidate with
      | none => (refusal .resourceExhausted h, h)
      | some (reservedCandidate, reserved) =>
        let candidate := { reservedCandidate with epoch := nextEpoch }
        let ended := transact mirrors (reserved.begin request .online candidate true)
          { h with coordinator := reserved }
        match ended.ending with
        | .stopped | .refused => failed ended.transaction ended.host
        | .torn =>
          failed ended.transaction (publishLost mirrors ended.transaction
            (ended.host.update (·.replace nextEpoch candidate .lost)))
        | .committed =>
          accepted ended.transaction (ended.host.update (·.replace nextEpoch candidate .online))

def applyTransportLoss : ResultDetails × Host W :=
  if h.coordinator.state = .absent ∨ h.coordinator.generation = 0 then (refusal .invalid h, h)
  else if h.coordinator.state = .lost then (refusal .deviceLost h, h)
  else
    let transaction := h.coordinator.begin request .lost {} false
    let lost := publishLost mirrors transaction (h.update (·.setState .lost))
    (fillDetails .accepted transaction lost, lost)

/-! ## 3. `apply` -/

/-- The checks in front of an operation: an answer, or leave to go on.  Both may have read the
clock. -/
def screen (request : Request) (h : Host W) : Except ResultDetails Unit × Host W :=
  if h.coordinator.valid = false then (.error (refusal .invalid h), h)
  else
    match h.coordinator.findRequest request.requestId with
    | some previous =>
      if sameRequest previous.request request then
        (.error { refusal .duplicate h with
          candidateGeneration := previous.candidateGeneration
          candidateIdentityRecordId := previous.candidateIdentityRecordId }, h)
      else (.error (refusal .conflict h), h)
    | none =>
      if ¬ h.coordinator.requests.Room then (.error (refusal .resourceExhausted h), h)
      else
        let checked := expired request.deadlineTick h
        if checked.1 then (.error (refusal .timeout checked.2), checked.2)
        else
          let validated := validRequest request checked.2
          if validated.1 then (.ok (), validated.2)
          else
            let c := validated.2.coordinator
            let stale := request.daemonIncarnation ≠ c.daemonIncarnation ∨
              request.expectedIdentityRecordId ≠ c.identityRecordId ∨
              request.expectedGeneration ≠ c.generation ∨ request.expectedEpoch ≠ c.epoch
            (.error (refusal (if stale then .stale else .invalid) validated.2), validated.2)

/-- The operation the request names.  A byte outside the range does not pass the screen. -/
def dispatch : ResultDetails × Host W :=
  match request.operation with
  | .add => applyAdd mirrors request h
  | .remove => applyRemove mirrors request h
  | .reset | .recover => applyResetOrRecover mirrors request h
  | .transportLoss => applyTransportLoss mirrors request h
  | .outOfRange _ => ({}, h)

def apply : ResultDetails × Host W :=
  match screen request h with
  | (.error answer, h) => (answer, h)
  | (.ok (), h) =>
    let performed := dispatch mirrors request h
    (performed.1, performed.2.update (·.rememberRequest request performed.1))

end MetaFlux.Lifecycle
