/-
# The cdev worker's site

The worker calls out: to its backend, to resolvers, leases and references, and to the owner of its
binding.  What it is answered is a SCRIPT, with one list of answers for each kind of call, from
which each call takes the next; a list that has run out answers by default.  Statements about the
worker hold for every script.

Two ghosts record what was called, and the code never reads them: `made` is every call with its
answer, in order, and `lossAnswered` whether one of those that can report a loss has said
`deviceLost` since the script was laid out.
-/
import MetaFlux.Base.Program
import MetaFlux.Transport.Cdev.Records

namespace MetaFlux.Transport

/-! ## 1. Calls -/

inductive ExternalCall where
  | leaseAcquire (backend : BackendBinding) (status : SharedStatus)
  | leaseRelease (backend : BackendBinding)
  | retain (reference : MemoryReference) (status : SharedStatus)
  | release (reference : MemoryReference)
  | resolveCopy (backend : BackendBinding) (request : Descriptor) (status : SharedStatus)
      (resolution : CopyResolution)
  | resolveLaunch (backend : BackendBinding) (request : Descriptor) (status : SharedStatus)
      (resolution : LaunchResolution)
  | copy (backend : BackendBinding) (copy : BackendCopy) (status : BackendStatus)
  | submit (backend : BackendBinding) (launch : BackendLaunch) (status : BackendStatus)
  | queryEvent (backend : BackendBinding) (event : Nat) (status : BackendStatus) (complete : Nat)
  | cancelQueue (backend : BackendBinding) (status : BackendStatus)
  | rebind (backend : BackendBinding) (generation : Nat) (granted : Bool)
  | retire (backend : BackendBinding)
deriving DecidableEq, Repr

/-- The call reports that the device is lost.  A lease that is refused and a queue that cannot be
cancelled do not, whatever their status. -/
def ExternalCall.saysLost : ExternalCall → Bool
  | .retain _ status | .resolveCopy _ _ status _ | .resolveLaunch _ _ status _ =>
    decide (status = .deviceLost)
  | .copy _ _ status | .submit _ _ status | .queryEvent _ _ status _ =>
    decide (status = .deviceLost)
  | _ => false

structure Script where
  leases : List SharedStatus := []
  retains : List SharedStatus := []
  copyResolutions : List (SharedStatus × CopyResolution) := []
  launchResolutions : List (SharedStatus × LaunchResolution) := []
  copies : List BackendStatus := []
  submits : List BackendStatus := []
  queries : List (BackendStatus × Nat) := []
  cancellations : List BackendStatus := []
  rebinds : List Rebind := []
  ticks : List Nat := []

/-- No answer of the script reports a loss. -/
structure Script.Quiet (script : Script) : Prop where
  retains : .deviceLost ∉ script.retains
  copyResolutions : ∀ answer ∈ script.copyResolutions, answer.1 ≠ .deviceLost
  launchResolutions : ∀ answer ∈ script.launchResolutions, answer.1 ≠ .deviceLost
  copies : .deviceLost ∉ script.copies
  submits : .deviceLost ∉ script.submits
  queries : ∀ answer ∈ script.queries, answer.1 ≠ .deviceLost

structure CdevSite where
  worker : CdevWorker
  memory : Memory := {}
  script : Script := {}
  made : List ExternalCall := []
  lossAnswered : Bool := false

namespace CdevSite

def update (f : CdevWorker → CdevWorker) : StateM CdevSite Unit :=
  modify fun site => { site with worker := f site.worker }

def readWorker : StateM CdevSite CdevWorker := return (← get).worker

/-- A call whose answer is the next that `next` finds in the script. -/
def ask {α : Type} (next : Script → α × Script) (call : α → ExternalCall) : StateM CdevSite α := do
  let site ← get
  let answer := (next site.script).1
  set { site with
    script := (next site.script).2
    made := site.made ++ [call answer]
    lossAnswered := site.lossAnswered || (call answer).saysLost }
  return answer

/-- A call that is answered by nothing. -/
def notify (call : ExternalCall) : StateM CdevSite Unit :=
  modify fun site => { site with made := site.made ++ [call] }

variable (backend : BackendBinding)

def leaseAcquire : StateM CdevSite SharedStatus :=
  ask (fun script => (script.leases.headD .success, { script with leases := script.leases.tail }))
    (.leaseAcquire backend)

def retain (reference : MemoryReference) : StateM CdevSite SharedStatus :=
  ask (fun script =>
    (script.retains.headD .success, { script with retains := script.retains.tail }))
    (.retain reference)

def resolveCopy (request : Descriptor) : StateM CdevSite (SharedStatus × CopyResolution) :=
  ask (fun script => (script.copyResolutions.headD (.success, {}),
      { script with copyResolutions := script.copyResolutions.tail }))
    fun answer => .resolveCopy backend request answer.1 answer.2

def resolveLaunch (request : Descriptor) : StateM CdevSite (SharedStatus × LaunchResolution) :=
  ask (fun script => (script.launchResolutions.headD (.success, {}),
      { script with launchResolutions := script.launchResolutions.tail }))
    fun answer => .resolveLaunch backend request answer.1 answer.2

def backendCopy (copy : BackendCopy) : StateM CdevSite BackendStatus :=
  ask (fun script => (script.copies.headD .success, { script with copies := script.copies.tail }))
    (.copy backend copy)

def backendSubmit (launch : BackendLaunch) : StateM CdevSite BackendStatus :=
  ask (fun script =>
    (script.submits.headD .success, { script with submits := script.submits.tail }))
    (.submit backend launch)

def backendQueryEvent (event : Nat) : StateM CdevSite (BackendStatus × Nat) :=
  ask (fun script => (script.queries.headD (.success, 0),
      { script with queries := script.queries.tail }))
    fun answer => .queryEvent backend event answer.1 answer.2

def backendCancelQueue : StateM CdevSite BackendStatus :=
  ask (fun script => (script.cancellations.headD .success,
      { script with cancellations := script.cancellations.tail }))
    (.cancelQueue backend)

/-- The rings of the new generation are in place when the call comes back. -/
def callRebind (generation : Nat) : StateM CdevSite Rebind := do
  let rebind ← ask (fun script => (script.rebinds.headD {},
      { script with rebinds := script.rebinds.tail }))
    fun rebind => .rebind backend generation rebind.granted
  modify fun site =>
    { site with
      memory := rebind.rings.foldl (fun memory ring => memory.setRing ring.1 ring.2) site.memory }
  return rebind

/-- A reading of the clock. -/
def readClock (site : CdevSite) : Nat × CdevSite :=
  (site.script.ticks.headD 0,
    { site with script := { site.script with ticks := site.script.ticks.tail } })

end CdevSite

end MetaFlux.Transport
