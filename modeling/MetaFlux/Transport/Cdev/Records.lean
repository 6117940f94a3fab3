/-
# The cdev worker: bindings, resolutions and state

The worker serves the requests of one ring pair (its view) with a backend it borrows (its binding).
Pointers, to functions and to contexts, are numbers with zero for the null pointer: the worker only
tests and compares them, and what a call through one does is up to the outside.

Where the source pairs a flag with the data it guards, the two are an `Option` here: the staged view
and binding (`staged_rebind_`), the pending operation (`active`), and the references and the event
it holds.  The worker clears them together, so that nothing is ever read behind a flag that is down.
-/
import MetaFlux.Lifecycle.Normalizer
import MetaFlux.Transport.Ring

namespace MetaFlux.Transport

open MetaFlux.Lifecycle

/-! ## 1. The backend -/

inductive BackendStatus where
  | success | invalidArgument | unsupported | outOfMemory | deviceLost | timeout | busy
  | compilationFailed | internalError
  | outOfRange (value : Nat)
deriving DecidableEq, Repr

def backendAbiVersion : Nat := 1
def backendCapCopy : Nat := 1 <<< 1
def backendCapEvents : Nat := 1 <<< 2
def backendCapCancellation : Nat := 1 <<< 3
def backendCapLaunch : Nat := 1 <<< 6

/-- A backend's table of functions, with whether each one the worker calls is there. -/
structure BackendApi where
  address : Nat := 1
  abiVersion : Nat := backendAbiVersion
  structSize : Nat := 0
  capabilities : Nat := 0
  submit : Bool := false
  copy : Bool := false
  queryEvent : Bool := false
  cancelQueue : Bool := false
deriving DecidableEq, Repr

/-- How far into the table each function ends: `offsetof` and `sizeof` of a pointer. -/
def backendLaunchRequiredSize : Nat := 128
def backendCopyRequiredSize : Nat := 136
def backendEventRequiredSize : Nat := 160
def backendCancellationRequiredSize : Nat := 184

def backendApiValidate (api : BackendApi) (requiredSize requiredCapabilities : Nat) : Bool :=
  decide (api.abiVersion = backendAbiVersion ∧ requiredSize ≤ api.structSize ∧
    api.capabilities &&& requiredCapabilities = requiredCapabilities)

/-- What a backend is asked to copy. -/
structure BackendCopy where
  destination : Nat
  destinationOffset : Nat
  source : Nat
  sourceOffset : Nat
  byteCount : Nat
deriving DecidableEq, Repr

/-- What a backend is asked to launch. -/
structure BackendLaunch where
  module : Nat
  kernelId : Nat
  argumentBytes : Nat
  argumentSize : Nat
  grid : Vector Nat 3
  block : Vector Nat 3
  dynamicSharedBytes : Nat
deriving DecidableEq, Repr

/-! ## 2. Bindings and resolutions -/

structure MemoryReference where
  handle : Nat := 0
  retain : Nat := 0
  release : Nat := 0
  context : Nat := 0
deriving DecidableEq, Repr

structure QueueView where
  submission : Nat := 0
  completion : Nat := 0
  payload : Nat := 0
  payloadSize : Nat := 0
  generation : Nat := 0
deriving DecidableEq, Repr

structure BackendBinding where
  api : Option BackendApi := none
  instanceHandle : Nat := 0
  queue : Nat := 0
  memory : Nat := 0
  memoryReference : MemoryReference := {}
  completionEvent : Nat := 0
  copyResolver : Nat := 0
  copyContext : Nat := 0
  launchResolver : Nat := 0
  launchContext : Nat := 0
  leaseAcquire : Nat := 0
  leaseRelease : Nat := 0
  leaseContext : Nat := 0
  retire : Nat := 0
  retireContext : Nat := 0
  generation : Nat := 0
  rebind : Nat := 0
  rebindContext : Nat := 0
deriving DecidableEq, Repr

structure CopyResolution where
  destination : Nat := 0
  destinationOffset : Nat := 0
  destinationReference : MemoryReference := {}
  source : Nat := 0
  sourceOffset : Nat := 0
  sourceReference : MemoryReference := {}
  byteCount : Nat := 0
  reservedWord : Nat := 0
deriving DecidableEq, Repr

theorem axis0 : 0 < 3 := by decide
theorem axis1 : 1 < 3 := by decide
theorem axis2 : 2 < 3 := by decide

/-- The references are the first `memory_reference_count` of the source's array. -/
structure LaunchResolution where
  module : Nat := 0
  kernelId : Nat := 0
  argumentOffset : Nat := 0
  argumentSize : Nat := 0
  grid : Vector Nat 3 := .replicate 3 0
  block : Vector Nat 3 := .replicate 3 0
  dynamicSharedBytes : Nat := 0
  reservedWord : Nat := 0
  memoryReferences : List MemoryReference := []
deriving DecidableEq, Repr

/-- The queues and the binding a rebind offers for a generation, with the rings it has set up. -/
structure Rebind where
  granted : Bool := false
  view : QueueView := {}
  backend : BackendBinding := {}
  rings : List (Nat × Ring) := []

/-! ## 3. Validity -/

def uint64Max : Nat := 2 ^ 64 - 1
def cdevSubmissionQueueId : Nat := 1
def cdevCompletionQueueId : Nat := 2
def launchMemoryReferenceCapacity : Nat := 64
def kernelPrimaryEntryId : Nat := 1

def validWorkerQueueView (memory : Memory) (view : QueueView) : Bool :=
  let submission := (memory.rings view.submission).metadata
  let completion := (memory.rings view.completion).metadata
  decide (view.generation ≠ 0) && validQueue memory view.submission &&
    validQueue memory view.completion &&
    decide (¬ (view.payload = 0 ∧ view.payloadSize ≠ 0) ∧
      ¬ (view.payload ≠ 0 ∧ view.payloadSize = 0) ∧
      submission.queueId = cdevSubmissionQueueId ∧ completion.queueId = cdevCompletionQueueId ∧
      submission.queueGeneration = view.generation ∧
      completion.queueGeneration = view.generation ∧
      submission.capacity = completion.capacity ∧
      submission.registryViewId = completion.registryViewId)

def validMemoryReference (memory : Nat) (reference : MemoryReference) : Bool :=
  decide (memory ≠ 0 ∧ reference.handle = memory ∧ reference.retain ≠ 0 ∧ reference.release ≠ 0)

def validOptionalMemoryReference (memory : Nat) (reference : MemoryReference) : Bool :=
  decide (reference = {}) || validMemoryReference memory reference

def validCopyResolution (resolution : CopyResolution) : Bool :=
  validMemoryReference resolution.destination resolution.destinationReference &&
    validMemoryReference resolution.source resolution.sourceReference &&
    decide (resolution.byteCount ≠ 0 ∧
      resolution.destinationOffset ≤ uint64Max - resolution.byteCount ∧
      resolution.sourceOffset ≤ uint64Max - resolution.byteCount ∧ resolution.reservedWord = 0)

def validLaunchResolution (resolution : LaunchResolution) : Bool :=
  decide (resolution.memoryReferences.length ≤ launchMemoryReferenceCapacity) &&
    resolution.memoryReferences.all fun reference => validMemoryReference reference.handle reference

namespace BackendBinding

variable (backend : BackendBinding)

/-- The binding has a table that reaches as far as asked and has the capabilities. -/
def provides (requiredSize requiredCapabilities : Nat) (function : BackendApi → Bool) : Bool :=
  backend.api.any fun api =>
    backendApiValidate api requiredSize requiredCapabilities && function api

def validEvent : Bool :=
  decide (backend.completionEvent = 0) ||
    backend.provides backendEventRequiredSize backendCapEvents (·.queryEvent)

def validCopy : Bool :=
  decide (backend.instanceHandle ≠ 0 ∧ backend.queue ≠ 0 ∧ backend.memory ≠ 0) &&
    validOptionalMemoryReference backend.memory backend.memoryReference && backend.validEvent &&
    backend.provides backendCopyRequiredSize backendCapCopy (·.copy)

def validRegionCopy : Bool :=
  decide (backend.instanceHandle ≠ 0 ∧ backend.queue ≠ 0 ∧ backend.copyResolver ≠ 0) &&
    backend.validEvent && backend.provides backendCopyRequiredSize backendCapCopy (·.copy)

def validLaunch : Bool :=
  decide (backend.instanceHandle ≠ 0 ∧ backend.queue ≠ 0 ∧ backend.memory ≠ 0 ∧
    backend.launchResolver ≠ 0) && backend.validEvent &&
    backend.provides backendLaunchRequiredSize backendCapLaunch (·.submit)

def validCancellation : Bool :=
  backend.provides backendCancellationRequiredSize backendCapCancellation (·.cancelQueue)

def validLease : Bool :=
  decide (backend.leaseAcquire ≠ 0 ∧ backend.leaseRelease ≠ 0)

def valid : Bool :=
  decide (backend.generation ≠ 0) && backend.validLease &&
    (backend.validCopy || backend.validRegionCopy || backend.validLaunch)

end BackendBinding

/-! ## 4. The worker -/

inductive WorkerResult where
  | idle | completed | backpressure | malformed
deriving DecidableEq, Repr

/-- The event the worker reports a loss with. -/
structure DisconnectEvent where
  event : ExternalEvent
  kind : event.kind = .cdevDisconnect
deriving DecidableEq, Repr

def captureDisconnect (requestId : Nat) (snapshot : Snapshot) : DisconnectEvent :=
  ⟨captureExternalEvent .cdevDisconnect requestId snapshot, rfl⟩

/-- An operation the backend has accepted and whose event is not complete. -/
structure PendingOperation where
  request : Descriptor
  backend : BackendBinding
  resolution : Option CopyResolution := none
  memoryReference : Option MemoryReference := none
  launchResolution : Option LaunchResolution := none
  cancellationRequested : Bool := false
  forceDeviceLost : Bool := false
  retireBackend : Bool := false
  event : Nat
  disconnectEvent : Option DisconnectEvent := none
deriving DecidableEq, Repr

/-- The worker as its constructor leaves it, with a view and a binding. -/
structure CdevWorker where
  view : QueueView
  backend : BackendBinding := {}
  timeline : Nat := 0
  online : Bool := true
  accepting : Bool := true
  staged : Option (QueueView × BackendBinding) := none
  pending : Option PendingOperation := none
  attached : Bool := false
deriving DecidableEq, Repr

namespace CdevWorker

def backendMatchesGeneration (worker : CdevWorker) : Bool :=
  decide (worker.backend.api = none ∨
    worker.backend.generation ≠ 0 ∧ worker.backend.generation = worker.view.generation)

def backendBound (worker : CdevWorker) : Bool :=
  worker.backend.valid && worker.backendMatchesGeneration

end CdevWorker

end MetaFlux.Transport
