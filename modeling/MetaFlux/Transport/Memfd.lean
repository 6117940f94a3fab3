/-
# The memfd worker

The source's class `MemfdWorker`: the transport that counts the requests in flight and holds a copy
of the coordinator's tuple.  A lifecycle transaction is staged by `lifecyclePrepare`, which keeps
the tuple to go back to, and ends in `lifecycleCommit` or `lifecycleAbort`.

The worker is the first component of the world its host lives in, next to whatever else there is;
the callbacks of `lifecycleMirror` act on that component alone.
-/
import MetaFlux.Lifecycle.Fencing

namespace MetaFlux.Transport

open MetaFlux.Lifecycle

/-! ## 1. State -/

inductive SubmitResult where
  | accepted | deviceLost | staleGeneration | quiescing
deriving DecidableEq, Repr

structure MemfdWorker where
  identityRecordId : Nat := 0
  generation : Nat := 0
  epoch : Nat := 0
  inFlight : Nat := 0
  online : Bool := false
  accepting : Bool := false
  transactionActive : Bool := false
  transactionQuiesced : Bool := false
  transactionDrained : Bool := false
  previousOnline : Bool := false
  previousAccepting : Bool := false
  previousIdentityRecordId : Nat := 0
  previousGeneration : Nat := 0
  previousEpoch : Nat := 0
  stagedCandidate : Candidate := {}
  stagedOperation : Operation := .add
deriving DecidableEq, Repr

namespace MemfdWorker

/-- The constructor. -/
def start (identityRecordId generation epoch : Nat) : MemfdWorker :=
  let online := decide (identityRecordId ≠ 0 ∧ generation ≠ 0)
  { identityRecordId, generation, epoch, online, accepting := online }

/-! ## 2. Requests -/

/-- The counter is 32 bits wide; a request that would wrap it is turned away. -/
def submit (w : MemfdWorker) (requestGeneration : Nat) : SubmitResult × MemfdWorker :=
  if w.online = false then (.deviceLost, w)
  else if requestGeneration ≠ w.generation then (.staleGeneration, w)
  else if w.accepting = false then (.quiescing, w)
  else if w.inFlight = 2 ^ 32 - 1 then (.quiescing, w)
  else (.accepted, { w with inFlight := w.inFlight + 1 })

def completeOne (w : MemfdWorker) : Bool × MemfdWorker :=
  if w.inFlight = 0 then (false, w) else (true, { w with inFlight := w.inFlight - 1 })

/-! ## 3. Lifecycle callbacks -/

/-- The event was made from the tuple the worker holds. -/
def matchesOld (w : MemfdWorker) (event : MirrorEvent) : Bool :=
  decide (event.oldIdentityRecordId = w.identityRecordId ∧ event.oldGeneration = w.generation ∧
    event.oldEpoch = w.epoch)

def validateCandidate (w : MemfdWorker) (event : MirrorEvent) : Bool :=
  let candidate := event.candidate
  w.matchesOld event &&
    match event.request.operation with
    | .add =>
      decide (event.stateBefore = .absent ∧ w.online = false ∧ w.identityRecordId = 0 ∧
        w.generation = 0 ∧ candidate.identityRecordId ≠ 0 ∧ candidate.generation ≠ 0 ∧
        candidate.epoch = w.epoch)
    | .remove =>
      decide ((event.stateBefore = .online ∨ event.stateBefore = .lost) ∧ w.generation ≠ 0 ∧
        candidate.identityRecordId = 0 ∧ candidate.generation = 0 ∧ w.epoch < candidate.epoch)
    | .reset =>
      decide (event.stateBefore = .online ∧ w.online = true ∧ candidate.identityRecordId ≠ 0 ∧
        w.generation < candidate.generation ∧ w.epoch < candidate.epoch)
    | .recover =>
      decide (event.stateBefore = .lost ∧ w.online = false ∧ w.generation ≠ 0 ∧
        candidate.identityRecordId ≠ 0 ∧ w.generation < candidate.generation ∧
        w.epoch < candidate.epoch)
    | _ => false

def clearTransaction (w : MemfdWorker) : MemfdWorker :=
  { w with
    transactionActive := false
    transactionQuiesced := false
    transactionDrained := false
    stagedCandidate := {}
    stagedOperation := .add }

def lifecyclePrepare (event : MirrorEvent) (w : MemfdWorker) : Bool × MemfdWorker :=
  if w.transactionActive = true ∨ w.validateCandidate event = false then (false, w)
  else
    (true, { w with
      previousIdentityRecordId := w.identityRecordId
      previousGeneration := w.generation
      previousEpoch := w.epoch
      previousOnline := w.online
      previousAccepting := w.accepting
      stagedCandidate := event.candidate
      stagedOperation := event.request.operation
      transactionActive := true })

def lifecycleQuiesce (_ : MirrorEvent) (w : MemfdWorker) : Bool × MemfdWorker :=
  if w.transactionActive = false ∨ w.transactionQuiesced = true then (false, w)
  else (true, { w with accepting := false, transactionQuiesced := true })

def lifecycleDrain (_ : MirrorEvent) (w : MemfdWorker) : Bool × MemfdWorker :=
  if w.transactionActive = false ∨ w.transactionQuiesced = false ∨
      w.transactionDrained = true then (false, w)
  else if w.inFlight ≠ 0 then (false, w)
  else (true, { w with transactionDrained := true })

def lifecycleCommit (event : MirrorEvent) (w : MemfdWorker) : Bool × MemfdWorker :=
  if w.transactionActive = false ∨ w.transactionDrained = false ∨
      event.request.operation ≠ w.stagedOperation ∨
      event.candidate.generation ≠ w.stagedCandidate.generation ∨
      event.candidate.identityRecordId ≠ w.stagedCandidate.identityRecordId ∨
      event.candidate.epoch ≠ w.stagedCandidate.epoch then (false, w)
  else if event.stateAfter = .absent then
    if w.stagedOperation ≠ .remove ∨ w.stagedCandidate.generation ≠ 0 ∨
        w.stagedCandidate.identityRecordId ≠ 0 then (false, w)
    else
      (true, { w with
        identityRecordId := 0
        generation := 0
        epoch := w.stagedCandidate.epoch
        online := false
        accepting := false }.clearTransaction)
  else if w.stagedCandidate.generation = 0 ∨ w.stagedCandidate.identityRecordId = 0 then (false, w)
  else
    (true, { w with
      identityRecordId := w.stagedCandidate.identityRecordId
      generation := w.stagedCandidate.generation
      epoch := w.stagedCandidate.epoch
      online := decide (event.stateAfter = State.online)
      accepting := decide (event.stateAfter = State.online) }.clearTransaction)

def lifecycleAbort (_ : MirrorEvent) (w : MemfdWorker) : Bool × MemfdWorker :=
  if w.transactionActive = true then
    (true, { w with
      identityRecordId := w.previousIdentityRecordId
      generation := w.previousGeneration
      epoch := w.previousEpoch
      online := w.previousOnline
      accepting := w.previousAccepting }.clearTransaction)
  else (true, w)

def lifecycleLost (_ : MirrorEvent) (w : MemfdWorker) : MemfdWorker :=
  { w with online := false, accepting := false }

/-! ## 4. The mirror -/

variable {V : Type}

/-- A callback on the worker, where it stands in the host. -/
def callback (f : MirrorEvent → MemfdWorker → Bool × MemfdWorker) (event : MirrorEvent)
    (h : Host (MemfdWorker × V)) : Bool × Host (MemfdWorker × V) :=
  let answered := f event h.world.1
  (answered.1, { h with world := (answered.2, h.world.2) })

def lifecycleMirror : Mirror (MemfdWorker × V) :=
  { kind := .memfd
    name := "memfd"
    context := 1
    prepare := some (callback lifecyclePrepare)
    quiesce := some (callback lifecycleQuiesce)
    drain := some (callback lifecycleDrain)
    commit := some (callback lifecycleCommit)
    abort := some (callback lifecycleAbort)
    publishLost := some fun event h =>
      { h with world := (lifecycleLost event h.world.1, h.world.2) } }

end MemfdWorker

end MetaFlux.Transport
