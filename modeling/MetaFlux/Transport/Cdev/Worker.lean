/-
# The cdev worker

The source's class `CdevWorker`, as programs on its site, and where the coordinator can be called
back on its host.  One step of the worker, `consumeOnce`, finishes a pending operation or takes a
descriptor from the submission ring and serves it; what it serves ends in a completion or, where the
backend works asynchronously, stays pending.

The coordinator is called back in one place.  A backend that answers `deviceLost` to an online
worker makes it submit a `TransportLoss` (`reportBackendLoss`), also from inside the drain of a
transaction.  What that call does is the parameter `apply`.
-/
import MetaFlux.Transport.Cdev.Site

namespace MetaFlux.Transport

open MetaFlux.Lifecycle

/-- The host of a coordinator, with the site behind the rest of its world. -/
abbrev CdevHost (M : Type) := Host (M × CdevSite)

namespace CdevWorker

open CdevSite

/-! ## 1. Bindings -/

def retireBackendBinding (backend : BackendBinding) : StateM CdevSite Unit :=
  if backend.retire ≠ 0 then notify (.retire backend) else pure ()

/-- A binding that is still in use by the pending operation is retired with it. -/
def bindBackend (backend : BackendBinding) : StateM CdevSite Bool := do
  let worker ← readWorker
  if worker.staged.isSome = true ∨ worker.online = false ∨ worker.view.generation = 0 ∨
      backend.valid = false ∨ backend.generation ≠ worker.view.generation then
    return false
  if worker.backend = backend then
    return true
  match worker.pending with
  | some pending =>
    if worker.backend ≠ pending.backend then
      retireBackendBinding worker.backend
    update fun worker =>
      { worker with
        backend
        pending := worker.pending.map fun pending =>
          { pending with retireBackend := decide (backend ≠ pending.backend) } }
  | none =>
    update fun worker => { worker with backend }
    retireBackendBinding worker.backend
  return true

/-- The rebind may leave the binding empty, but not half filled. -/
def acceptsStaged (memory : Memory) (generation : Nat) (view : QueueView)
    (backend : BackendBinding) : Bool :=
  decide (view.generation = generation) && validWorkerQueueView memory view &&
    (decide (backend = {}) || backend.valid && decide (backend.generation = generation))

def stageRebind (generation : Nat) : StateM CdevSite Bool := do
  let worker ← readWorker
  if worker.staged.isSome = true ∨ generation = 0 ∨ worker.backend.rebind = 0 then
    return false
  let rebind ← callRebind worker.backend generation
  let memory := (← get).memory
  if rebind.granted = false ∨
    acceptsStaged memory generation rebind.view rebind.backend = false then
    retireBackendBinding rebind.backend
    return false
  update fun worker => { worker with staged := some (rebind.view, rebind.backend) }
  return true

def discardStagedRebind : StateM CdevSite Unit := do
  match (← readWorker).staged with
  | none => return
  | some (_, backend) =>
    update fun worker => { worker with staged := none }
    retireBackendBinding backend

/-! ## 2. Leases and references -/

def acquireBackendLease : StateM CdevSite SharedStatus := do
  let worker ← readWorker
  if worker.backend.api = none then
    return .success
  if worker.backendBound = false then
    return .notSupported
  leaseAcquire worker.backend

def releaseBackendLease (backend : BackendBinding) : StateM CdevSite Unit :=
  if backend.api.isSome = true ∧ backend.validLease = true then
    notify (.leaseRelease backend)
  else pure ()

/-- The references are retained in order; at the first that is refused, those retained so far are
released, the last first. -/
def retainReferences (retained : List MemoryReference) :
    List MemoryReference → StateM CdevSite SharedStatus
  | [] => return .success
  | reference :: rest => do
    let status ← retain reference
    if status ≠ .success then
      retained.forM fun reference => notify (.release reference)
      return status
    retainReferences (reference :: retained) rest

def retainCopyReferences (resolution : CopyResolution) : StateM CdevSite SharedStatus :=
  retainReferences [] [resolution.destinationReference, resolution.sourceReference]

def retainLaunchReferences (resolution : LaunchResolution) : StateM CdevSite SharedStatus :=
  retainReferences [] resolution.memoryReferences

def releaseMemoryReference (reference : MemoryReference) : StateM CdevSite Unit :=
  if reference.handle ≠ 0 ∧ reference.release ≠ 0 then notify (.release reference) else pure ()

def releaseCopyReferences (resolution : CopyResolution) : StateM CdevSite Unit :=
  [resolution.destinationReference, resolution.sourceReference].forM releaseMemoryReference

def releaseLaunchReferences (resolution : LaunchResolution) : StateM CdevSite Unit :=
  resolution.memoryReferences.forM fun reference => notify (.release reference)

/-- Everything an operation holds but the lease. -/
def releaseReferences (resolution : Option CopyResolution)
    (memoryReference : Option MemoryReference)
    (launchResolution : Option LaunchResolution) : StateM CdevSite Unit := do
  resolution.forM releaseCopyReferences
  memoryReference.forM releaseMemoryReference
  launchResolution.forM releaseLaunchReferences

/-! ## 3. Dispatch -/

def mapBackendStatus : BackendStatus → SharedStatus
  | .success => .success
  | .invalidArgument => .invalidArgument
  | .unsupported => .notSupported
  | .outOfMemory => .resourceExhausted
  | .deviceLost => .deviceLost
  | .timeout => .timeout
  | .busy => .wouldBlock
  | .compilationFailed | .internalError | .outOfRange _ => .systemError

def dispatchCopy (base destination source byteCount : Nat) : StateM CdevSite BackendStatus := do
  let worker ← readWorker
  if worker.backendBound = false ∨ uint64Max - destination < base ∨ uint64Max - source < base then
    return .unsupported
  backendCopy worker.backend
    { destination := worker.backend.memory
      destinationOffset := base + destination
      source := worker.backend.memory
      sourceOffset := base + source
      byteCount }

def dispatchRegionCopy (resolution : CopyResolution) : StateM CdevSite BackendStatus := do
  let worker ← readWorker
  if worker.backendBound = false ∨ worker.backend.validRegionCopy = false ∨
      validCopyResolution resolution = false then
    return .invalidArgument
  backendCopy worker.backend
    { destination := resolution.destination
      destinationOffset := resolution.destinationOffset
      source := resolution.source
      sourceOffset := resolution.sourceOffset
      byteCount := resolution.byteCount }

/-- The launch the resolver describes is one the worker can pass on. -/
def launchable (view : QueueView) (resolution : LaunchResolution) : Bool :=
  decide (resolution.module ≠ 0 ∧ resolution.kernelId = kernelPrimaryEntryId ∧
    resolution.argumentSize ≠ 0 ∧ resolution.argumentOffset ≤ view.payloadSize ∧
    resolution.argumentSize ≤ view.payloadSize - resolution.argumentOffset ∧
    getElem resolution.grid 0 axis0 ≠ 0 ∧ getElem resolution.grid 1 axis1 ≠ 0 ∧
    getElem resolution.grid 2 axis2 = 1 ∧
    getElem resolution.block 0 axis0 ≠ 0 ∧ getElem resolution.block 1 axis1 ≠ 0 ∧
    getElem resolution.block 2 axis2 = 1 ∧
    resolution.reservedWord = 0) && validLaunchResolution resolution

def dispatchLaunch (request : Descriptor) : StateM CdevSite (SharedStatus × LaunchResolution) := do
  let worker ← readWorker
  if worker.backendBound = false ∨ worker.backend.validLaunch = false then
    return (.notSupported, {})
  let (status, resolution) ← resolveLaunch worker.backend request
  if status ≠ .success then
    return (status, resolution)
  if launchable worker.view resolution = false then
    return (.invalidArgument, resolution)
  let status ← backendSubmit worker.backend
    { module := resolution.module
      kernelId := resolution.kernelId
      argumentBytes := worker.view.payload + resolution.argumentOffset
      argumentSize := resolution.argumentSize
      grid := resolution.grid
      block := resolution.block
      dynamicSharedBytes := resolution.dynamicSharedBytes }
  return (mapBackendStatus status, resolution)

def cancelPending : StateM CdevSite Bool := do
  match (← readWorker).pending with
  | none => return false
  | some pending =>
    if pending.cancellationRequested = true then
      return true
    if pending.backend.validCancellation = false then
      return false
    let status ← backendCancelQueue pending.backend
    if status = .success ∨ status = .deviceLost then
      update fun worker =>
        { worker with
          pending := worker.pending.map fun pending =>
            { pending with cancellationRequested := true } }
      return true
    return false

/-! ## 4. Completion -/

def complete (request : Descriptor) (status : SharedStatus) : StateM CdevSite WorkerResult := do
  let site ← get
  if site.worker.timeline = uint64Max then
    return .malformed
  let timeline := site.worker.timeline + 1
  let completion : Descriptor :=
    { opcode := .completion
      requestId := request.requestId
      targetId := request.targetId
      arguments := #v[status.code, timeline, 0, 0] }
  match produce site.memory site.worker.view.completion completion with
  | none => return .backpressure
  | some memory =>
    set { site with memory, worker := { site.worker with timeline } }
    return .completed

/-- What a pending operation holds is given back, once it is no longer pending. -/
def releasePending (pending : PendingOperation) : StateM CdevSite Unit := do
  releaseReferences pending.resolution pending.memoryReference pending.launchResolution
  releaseBackendLease pending.backend
  if pending.retireBackend = true then
    retireBackendBinding pending.backend

/-! ## 5. The step

From here on the coordinator may be called back, and the programs are on the host: the worker's site
is the second component of its world. -/

section Host

variable {M : Type} (apply : Request → CdevHost M → ResultDetails × CdevHost M)

/-- A program on the site, where it stands in the host. -/
def onSite {α : Type} (x : StateM CdevSite α) : StateM (CdevHost M) α := fun h =>
  let ran := x.run h.world.2
  (ran.1, { h with world := (h.world.1, ran.2) })

def reportBackendLoss (disconnect : DisconnectEvent) : StateM (CdevHost M) Unit := do
  let worker ← onSite readWorker
  if worker.attached = false ∨ worker.online = false then
    return
  modify fun h => (submitExternalEvent apply disconnect.event h).2

def finishBackendRequest (request : Descriptor) (status : SharedStatus)
    (resolution : Option CopyResolution := none) (memoryReference : Option MemoryReference := none)
    (launchResolution : Option LaunchResolution := none) :
    StateM (CdevHost M) WorkerResult := do
  let h ← get
  let worker := h.world.2.worker
  let disconnect := captureDisconnect request.requestId h.coordinator.snapshot
  if status ≠ .success ∨ worker.backend.completionEvent = 0 then
    if status = .deviceLost ∧ worker.attached = true ∧ worker.online = true then
      reportBackendLoss apply disconnect
    onSite do
      releaseReferences resolution memoryReference launchResolution
      releaseBackendLease (← readWorker).backend
      complete request status
  else
    onSite do
      update fun worker =>
        { worker with
          pending := some
            { request
              backend := worker.backend
              resolution
              memoryReference
              launchResolution := launchResolution.filter (·.memoryReferences ≠ [])
              event := worker.backend.completionEvent
              disconnectEvent := if worker.attached then some disconnect else none } }
      return .idle

/-- The pending operation is left only where its completion could be written. -/
def finishPending (pending : PendingOperation) (status : SharedStatus) :
    StateM CdevSite WorkerResult := do
  let result ← complete pending.request status
  if result ≠ .backpressure then
    update fun worker => { worker with pending := none }
    releasePending pending
  return result

def progressPending (pending : PendingOperation) : StateM (CdevHost M) WorkerResult := do
  if pending.cancellationRequested = true then
    onSite (finishPending pending .deviceLost)
  else if pending.backend.valid = false ∨ pending.backend.completionEvent ≠ pending.event ∨
      pending.backend.api.any (·.queryEvent) = false then
    onSite do
      update fun worker => { worker with pending := none }
      releasePending pending
      complete pending.request (if pending.forceDeviceLost then .deviceLost else .notSupported)
  else
    let (status, flag) ← onSite (backendQueryEvent pending.backend pending.event)
    if (status = .success ∧ flag = 0) ∨ status = .busy then
      return .idle
    let status := if pending.forceDeviceLost then .deviceLost else mapBackendStatus status
    if status = .deviceLost then
      pending.disconnectEvent.forM (reportBackendLoss apply)
    onSite do
      -- a loss that was reported has marked the operation, and changed nothing else of it
      let current := (← readWorker).pending.getD pending
      finishPending { current with backend := pending.backend } status

variable (request : Descriptor)

/-- A kernel launch. -/
def serveLaunch : StateM (CdevHost M) WorkerResult := do
  if request.flags ≠ 0 then
    return ← onSite (complete request .malformed)
  let leaseStatus ← onSite acquireBackendLease
  if leaseStatus ≠ .success then
    return ← onSite (complete request leaseStatus)
  let (status, resolution) ← onSite (dispatchLaunch request)
  if status ≠ .success then
    return ← finishBackendRequest apply request status
  let retainStatus ← onSite (retainLaunchReferences resolution)
  if retainStatus ≠ .success then
    return ← finishBackendRequest apply request retainStatus
  finishBackendRequest apply request status none none (some resolution)

/-- A copy between regions the resolver looks up. -/
def serveRegionCopy : StateM (CdevHost M) WorkerResult := do
  if request.targetId = 0 ∨ request.arguments[0] = 0 ∨ request.arguments[2] ≠ 0 ∨
      request.arguments[3] ≠ 0 then
    return ← onSite (complete request .malformed)
  let worker ← onSite readWorker
  if worker.backend.validRegionCopy = false then
    return ← onSite (complete request .notSupported)
  let leaseStatus ← onSite acquireBackendLease
  if leaseStatus ≠ .success then
    return ← onSite (complete request leaseStatus)
  let (resolveStatus, resolution) ← onSite (resolveCopy worker.backend request)
  if resolveStatus ≠ .success then
    return ← finishBackendRequest apply request resolveStatus
  if validCopyResolution resolution = false then
    return ← finishBackendRequest apply request .invalidArgument
  let retainStatus ← onSite (retainCopyReferences resolution)
  if retainStatus ≠ .success then
    return ← finishBackendRequest apply request retainStatus
  let status ← onSite (dispatchRegionCopy resolution)
  finishBackendRequest apply request (mapBackendStatus status) (some resolution)

/-- A copy inside the payload, by the backend if there is one and by the worker itself if not. -/
def servePayloadCopy : StateM (CdevHost M) WorkerResult := do
  let worker ← onSite readWorker
  let view := worker.view
  if request.flags ≠ 0 ∨ view.payloadSize < request.arguments[3] then
    return ← onSite (complete request .notSupported)
  let base := request.arguments[3]
  let destination := request.arguments[0]
  let source := request.arguments[1]
  let byteCount := request.arguments[2]
  if byteCount = 0 then
    return ← onSite (complete request .invalidArgument)
  if view.payloadSize - base < destination ∨ view.payloadSize - base < source ∨
      view.payloadSize - base - destination < byteCount ∨
      view.payloadSize - base - source < byteCount then
    return ← onSite (complete request .invalidArgument)
  if worker.backend.api.isSome = true then
    if worker.backend.validCopy = false then
      return ← onSite (complete request .notSupported)
    let leaseStatus ← onSite acquireBackendLease
    if leaseStatus ≠ .success then
      return ← onSite (complete request leaseStatus)
    let reference := worker.backend.memoryReference
    if reference.handle ≠ 0 then
      let retainStatus ← onSite (retain reference)
      if retainStatus ≠ .success then
        -- not even a loss is reported from here
        return ← onSite do
          releaseBackendLease worker.backend
          complete request retainStatus
    let status ← onSite (dispatchCopy base destination source byteCount)
    finishBackendRequest apply request (mapBackendStatus status) none
      (if reference.handle = 0 then none else some reference)
  else
    onSite do
      modify fun site =>
        { site with
          memory := site.memory.move (view.payload + base + destination)
            (view.payload + base + source) byteCount }
      complete request .success

/-- A descriptor that has been taken from the ring. -/
def serve : StateM (CdevHost M) WorkerResult := do
  let worker ← onSite readWorker
  let regionCopy := decide (request.opcode = .copy ∧ request.flags = copyFlagRegionArgumentBlock)
  let payloadAvailable := decide (worker.view.payload ≠ 0 ∧ worker.view.payloadSize ≠ 0)
  if payloadAvailable = false ∧ request.opcode ≠ .noop ∧ regionCopy = false then
    return ← onSite (complete request .notSupported)
  if regionCopy = false ∧ request.targetId ≠ worker.view.generation then
    return ← onSite (complete request .staleHandle)
  if request.opcode = .noop then
    return ← onSite (complete request .success)
  if worker.backend.api.isSome = true ∧ worker.backend.valid = true ∧
      worker.backendMatchesGeneration = false then
    return ← onSite (complete request .staleHandle)
  if request.opcode = .launch then
    return ← serveLaunch apply request
  if request.opcode ≠ .copy then
    return ← onSite (complete request .notSupported)
  if request.flags &&& ~~~copyKnownFlags ≠ 0 then
    return ← onSite (complete request .malformed)
  if request.flags &&& (copyFlagDirectHostSource ||| copyFlagDirectHostDestination) ≠ 0 then
    return ← onSite (complete request .notSupported)
  if request.flags = copyFlagRegionArgumentBlock then
    serveRegionCopy apply request
  else servePayloadCopy apply request

/-- The next descriptor of the submission ring, if there is one. -/
def takeRequest : StateM CdevSite (Option Descriptor) := do
  let site ← get
  match consume site.memory site.worker.view.submission with
  | none => return none
  | some (request, memory) =>
    set { site with memory }
    return some request

def consumeOnce : StateM (CdevHost M) WorkerResult := do
  let site := (← get).world.2
  let worker := site.worker
  if validQueue site.memory worker.view.submission = false ∨
      validQueue site.memory worker.view.completion = false then
    return .malformed
  match worker.pending with
  | some pending => progressPending apply pending
  | none =>
    if worker.online = false then
      if queueReadable site.memory worker.view.submission = false then
        return .idle
      if queueWritable site.memory worker.view.completion = false then
        return .backpressure
      match ← onSite takeRequest with
      | none => return .backpressure
      | some request => onSite (complete request .deviceLost)
    else
      if worker.view.generation = 0 then
        return .malformed
      if worker.accepting = false ∨ queueReadable site.memory worker.view.submission = false then
        return .idle
      if queueWritable site.memory worker.view.completion = false then
        return .backpressure
      match ← onSite takeRequest with
      | none => return .idle
      | some request => serve apply request

/-- How many of at most `maximum` steps completed a request, before one did not. -/
def drain : Nat → StateM (CdevHost M) Nat
  | 0 => return 0
  | maximum + 1 => do
    if (← consumeOnce apply) = .completed then
      return (← drain maximum) + 1
    return 0

/-! ## 6. Lifecycle callbacks -/

def lifecyclePrepare (event : MirrorEvent) : StateM CdevSite Bool := do
  let site ← get
  let worker := site.worker
  let payloadAvailable := decide (worker.view.payload ≠ 0 ∧ worker.view.payloadSize ≠ 0)
  if validWorkerQueueView site.memory worker.view = false then
    return false
  if event.candidate.generation = 0 then
    return decide (event.request.operation = .remove)
  if payloadAvailable = false ∧ worker.backend.validRegionCopy = false then
    return false
  stageRebind event.candidate.generation

def lifecycleQuiesce (event : MirrorEvent) : StateM CdevSite Bool := do
  let worker ← readWorker
  if event.request.operation = .reset ∧ worker.online = false then
    return false
  update fun worker => { worker with accepting := false }
  if worker.pending = none then
    return true
  cancelPending

/-- The steps of a drain: until the submission ring is empty, at most a full ring of them. -/
def drainSteps : Nat → StateM (CdevHost M) Bool
  | 0 => onSite do
    let site ← get
    return !queueReadable site.memory site.worker.view.submission
  | count + 1 => do
    let site := (← get).world.2
    if queueReadable site.memory site.worker.view.submission = false then
      return true
    if (← consumeOnce apply) ≠ .completed then
      return false
    drainSteps count

/-- What is pending first, then what is queued. -/
def drainAll : StateM (CdevHost M) Bool := do
  if (← get).world.2.worker.pending.isSome = true then
    if (← consumeOnce apply) ≠ .completed then
      return false
  let site := (← get).world.2
  drainSteps apply (site.memory.rings site.worker.view.submission).metadata.capacity

/-- The worker accepts for as long as it drains, so that `consumeOnce` serves what is left. -/
def drainLifecycle : StateM (CdevHost M) Bool := do
  let site := (← get).world.2
  if validQueue site.memory site.worker.view.submission = false ∨
      validQueue site.memory site.worker.view.completion = false then
    return false
  onSite (update fun worker => { worker with accepting := true })
  let drained ← drainAll apply
  onSite (update fun worker => { worker with accepting := site.worker.accepting })
  return drained

def lifecycleCommit (event : MirrorEvent) : StateM CdevSite Bool := do
  let site ← get
  let worker := site.worker
  if worker.pending.isSome = true then
    return false
  let online := decide (event.stateAfter = State.online)
  if event.candidate.generation ≠ 0 then
    match worker.staged with
    | none => return false
    | some (view, backend) =>
      if acceptsStaged site.memory event.candidate.generation view backend = false then
        return false
      update fun worker =>
        { worker with view, backend, staged := none, online, accepting := online }
  else
    if event.stateAfter ≠ State.absent then
      return false
    update fun worker =>
      { worker with
        backend := {}
        view := { worker.view with generation := 0 }
        online
        accepting := online }
  retireBackendBinding worker.backend
  return true

def lifecycleAbort (event : MirrorEvent) : StateM CdevSite Bool := do
  discardStagedRebind
  let online := decide (event.stateBefore = State.online)
  update fun worker => { worker with online, accepting := online }
  return true

def lifecycleLost (_ : MirrorEvent) : StateM CdevSite Unit := do
  discardStagedRebind
  update fun worker =>
    { worker with
      online := false
      accepting := false
      pending := worker.pending.map fun pending => { pending with forceDeviceLost := true } }
  let _ ← cancelPending

/-! ## 7. The mirror -/

def lifecycleMirror : Mirror (M × CdevSite) :=
  { kind := .cdev
    name := "cdev"
    context := 2
    prepare := some fun event => (onSite (lifecyclePrepare event)).run
    quiesce := some fun event => (onSite (lifecycleQuiesce event)).run
    drain := some fun _ => (drainLifecycle apply).run
    commit := some fun event => (onSite (lifecycleCommit event)).run
    abort := some fun event => (onSite (lifecycleAbort event)).run
    publishLost := some fun event h => ((onSite (lifecycleLost event)).run h).2 }

/-- The worker's part in being registered. -/
def attachLifecycle (snapshot : Snapshot) (worker : CdevWorker) : CdevWorker :=
  { worker with
    attached := true
    pending := worker.pending.map fun pending =>
      { pending with
        disconnectEvent := some (captureDisconnect pending.request.requestId snapshot) } }

end Host

end CdevWorker

end MetaFlux.Transport
