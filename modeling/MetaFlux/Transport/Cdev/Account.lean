/-
# What the cdev worker holds

The worker's calls, in the order it makes them, are a history, and a `Watch` keeps the books on it:
the lease and the references that are held, the references the last resolution has named, and the
event under which a backend is at work.  Two monitors read the same books.  `balance` lets the
worker give back only what it holds; `guarding` keeps everything in place for as long as a backend
is at work.

The programs of the worker are gone through once, with an assertion that has the books (`At`): what
each does to them is said in the lemma about it.  Between two of its operations the worker is at
rest (`Rest`), and holds what the pending operation holds, or nothing.

A launch is submitted before the references it names are retained.  `guarding` is therefore only
kept where no launch names any (`Bare`); `balance` is kept in any case.
-/
import MetaFlux.Base.Monitor
import MetaFlux.Transport.Cdev.Events
import MetaFlux.Transport.Cdev.Worker

namespace MetaFlux.Transport

open MetaFlux.Lifecycle Base List Triple

/-! ## 1. The books -/

structure Watch where
  lease : Option BackendBinding := none
  retained : Multiset MemoryReference := 0
  named : List MemoryReference := []
  flight : Option Nat := none
deriving DecidableEq

/-- The backend has said that the event is over, one way or the other. -/
def observed (status : BackendStatus) (complete : Nat) : Prop :=
  ¬ ((status = .success ∧ complete = 0) ∨ status = .busy)
deriving Decidable

def cancelled (status : BackendStatus) : Prop := status = .success ∨ status = .deviceLost
deriving Decidable

namespace Watch

/-- Work that has been accepted under an event goes on. -/
def takeOff (w : Watch) (backend : BackendBinding) (status : BackendStatus) : Watch :=
  if status = .success ∧ backend.completionEvent ≠ 0 then
    { w with flight := some backend.completionEvent }
  else w

theorem takeOff_success (w : Watch) (backend : BackendBinding) : w.takeOff backend .success =
    { w with flight :=
        if backend.completionEvent = 0 then w.flight else some backend.completionEvent } := by
  unfold takeOff
  split_ifs <;> simp_all

def next (w : Watch) : ExternalCall → Watch
  | .leaseAcquire backend status =>
    if status = .success then { w with lease := some backend, named := [] } else w
  | .leaseRelease _ => { w with lease := none }
  | .retain reference status =>
    if status = .success then { w with retained := reference ::ₘ w.retained } else w
  | .release reference => { w with retained := w.retained.erase reference }
  | .resolveCopy _ _ status resolution =>
    if status = .success then
      { w with named := [resolution.destinationReference, resolution.sourceReference] }
    else w
  | .resolveLaunch _ _ status resolution =>
    if status = .success then { w with named := resolution.memoryReferences } else w
  | .copy backend _ status | .submit backend _ status => w.takeOff backend status
  | .queryEvent _ event status complete =>
    if w.flight = some event ∧ observed status complete then { w with flight := none } else w
  | .cancelQueue _ status => if cancelled status then { w with flight := none } else w
  | .rebind _ _ _ | .retire _ => w

/-- Only what is held is given back, and to where it is from. -/
def gives (w : Watch) : ExternalCall → Prop
  | .leaseAcquire _ _ => w.lease = none
  | .leaseRelease backend => w.lease = some backend
  | .release reference => reference ∈ w.retained
  | _ => True

/-- While a backend is at work, the lease and every handle that was named are held. -/
def Safe (w : Watch) : Prop :=
  w.flight ≠ none →
    w.lease ≠ none ∧ ∀ reference ∈ w.named, reference.handle ∈ w.retained.map (·.handle)

def guards (w : Watch) (call : ExternalCall) : Prop :=
  (w.next call).Safe ∧
    match call with
    | .copy _ _ _ | .submit _ _ _ => w.flight = none
    | _ => True

/-- Apart from the flight, the books do not depend on it. -/
def grounded (w : Watch) : Watch := { w with flight := none }

theorem next_grounded (w : Watch) (call : ExternalCall) :
    (w.next call).grounded = (w.grounded.next call).grounded := by
  cases call <;> simp only [next, takeOff, grounded] <;> split_ifs <;> rfl

end Watch

def balance : Monitor Watch ExternalCall := ⟨{}, Watch.next, Watch.gives⟩

def guarding : Monitor Watch ExternalCall := ⟨{}, Watch.next, Watch.guards⟩

/-- The books after a history. -/
def watch (made : List ExternalCall) : Watch := balance.after made

theorem watch_snoc (made : List ExternalCall) (call : ExternalCall) :
    watch (made ++ [call]) = (watch made).next call := balance.after_snoc made call

/-- No launch has named a reference. -/
def Bare (made : List ExternalCall) : Prop :=
  ∀ backend request resolution, .resolveLaunch backend request .success resolution ∈ made →
    resolution.memoryReferences = []

variable {made : List ExternalCall} {w w' : Watch} {K : Prop} {core : CdevWorker} {memory : Memory}

theorem Bare.shorter {call : ExternalCall} (h : Bare (made ++ [call])) :
    Bare made := fun backend request resolution hmem =>
  h backend request resolution (mem_append_left _ hmem)

/-! ## 2. The assertion -/

/-- The same worker, up to what a loss changes of it. -/
structure Alike (core worker : CdevWorker) : Prop where
  view : worker.view = core.view
  backend : worker.backend = core.backend
  timeline : worker.timeline = core.timeline
  pending : worker.pending = core.pending

theorem Alike.refl (worker : CdevWorker) : Alike worker worker := ⟨rfl, rfl, rfl, rfl⟩

theorem Alike.bound {worker : CdevWorker} (h : Alike core worker) :
    worker.backendBound = core.backendBound := by
  simp only [CdevWorker.backendBound, CdevWorker.backendMatchesGeneration, h.backend, h.view]

/-- The worker is as in `core`, its memory is as said, and so are the books.  In a history of bare
launches the flight is as said too, and `K` holds. -/
structure At (K : Prop) (core : CdevWorker) (memory : Memory) (w : Watch)
    (s : CdevSite) : Prop where
  worker : Alike core s.worker
  memory : s.memory = memory
  books : (watch s.made).grounded = w.grounded
  flight : Bare s.made → (watch s.made).flight = w.flight
  known : Bare s.made → K
  balanced : balance.Accepts s.made
  guarded : Bare s.made → guarding.Accepts s.made

theorem safe_of_accepts (h : guarding.Accepts made) : (watch made).Safe := by
  induction made using reverseRecOn with
  | nil => exact absurd rfl
  | append_singleton =>
    rw [watch_snoc]
    exact (guarding.accepts_snoc.1 h).2.1

section Rules

variable {s : CdevSite} {α : Type} {x : StateM CdevSite α}

theorem At.watch_eq (h : At K core memory w s) (hbare : Bare s.made) : watch s.made = w := by
  have hbooks := h.books
  have hflight := h.flight hbare
  cases hw : watch s.made
  cases w
  simp only [hw, Watch.grounded, Watch.mk.injEq] at hbooks hflight ⊢
  exact ⟨hbooks.1, hbooks.2.1, hbooks.2.2.1, hflight⟩

theorem Watch.gives_grounded (h : w.grounded = w'.grounded) (call : ExternalCall) :
    w.gives call ↔ w'.gives call := by
  simp only [grounded, Watch.mk.injEq] at h
  obtain ⟨hlease, hret, -⟩ := h
  cases call <;> simp [gives, hlease, hret]

section

variable (h : At K core memory w s)

include h

/-- A call goes into the books.  Where launches are bare, what `K` says may be used. -/
theorem At.call {call : ExternalCall} {script : Script} {heard : Bool}
    (hmade : made = s.made ++ [call]) (hgives : w.gives call)
    (hguards : K → w.Safe → w.guards call) :
    At K core memory (w.next call) { s with script, made, lossAnswered := heard } := by
  subst hmade
  refine ⟨h.worker, h.memory, ?_, fun hbare => ?_,
    fun hbare => h.known hbare.shorter, ?_, fun hbare => ?_⟩
  · rw [watch_snoc, Watch.next_grounded, h.books, ← Watch.next_grounded]
  · rw [watch_snoc, h.watch_eq hbare.shorter]
  · exact balance.accepts_snoc.2 ⟨h.balanced, (Watch.gives_grounded h.books call).2 hgives⟩
  have haccepts := h.guarded hbare.shorter
  have hsafe := safe_of_accepts haccepts
  refine guarding.accepts_snoc.2 ⟨haccepts, ?_⟩
  rw [h.watch_eq hbare.shorter] at hsafe
  have hnext := hguards (h.known hbare.shorter) hsafe
  rwa [← h.watch_eq hbare.shorter] at hnext

theorem At.learn {L : Prop} (hknown : Bare s.made → K → L) :
    At L core memory w s := { h with known := fun hbare => hknown hbare (h.known hbare) }

theorem At.outside (script : Script) (lossAnswered : Bool) :
    At K core memory w { s with script, lossAnswered } := { h with }

/-- A flight that only is where launches are not bare. -/
theorem At.ground (hflight : K → w.flight = none) : At K core memory w.grounded s :=
  { h with
    books := h.books
    flight := fun hbare => (h.flight hbare).trans (hflight (h.known hbare)) }

end

end Rules

/-- A program leads from an assertion to another. -/
abbrev Leads {σ α : Type} (P : σ → Prop) (x : StateM σ α) (Q : α → σ → Prop) : Prop :=
  Triple (fun _ _ => True) P x Q

theorem Watch.safe_of_grounded (h : w.flight = none) : w.Safe := fun hflight =>
  absurd h hflight

namespace CdevSite

variable {α : Type} {next : Script → α × Script} {call : α → ExternalCall}

theorem ask_at (hgives : ∀ a, w.gives (call a)) (hguards : ∀ a, K → w.Safe → w.guards (call a)) :
    Leads (At K core memory w) (ask next call) fun a => At K core memory (w.next (call a)) :=
  fun _ hs => ⟨trivial, hs.call rfl (hgives _) (hguards _)⟩

theorem ask_made
    {P : CdevSite → Prop} : Leads P (ask next call) fun a s => call a ∈ s.made := fun _ _ =>
  ⟨trivial, mem_append_right _ mem_cons_self⟩

theorem notify_at {call : ExternalCall} (hgives : w.gives call)
    (hguards : K → w.Safe → w.guards call) :
    Leads (At K core memory w) (notify call) fun _ => At K core memory (w.next call) := fun _ hs =>
  ⟨trivial, hs.call rfl hgives hguards⟩

theorem readWorker_bind_at {f : CdevWorker → StateM CdevSite α} {Q : α → CdevSite → Prop}
    (h : ∀ worker, Alike core worker → Leads (At K core memory w) (f worker) Q) :
    Leads (At K core memory w) (readWorker >>= f) Q := fun s hs => h s.worker hs.worker s hs

end CdevSite

namespace CdevWorker

open CdevSite

/-! ## 3. Leases and references -/

section Holdings

/-- What a binding with an interface is leased as. -/
def leased (backend : BackendBinding) : Option BackendBinding := backend.api.map fun _ => backend

variable {backend : BackendBinding} {reference : MemoryReference}
    (references : List MemoryReference)

theorem leased_of_isSome (h : backend.api.isSome = true) : leased backend = some backend := by
  obtain ⟨api, hapi⟩ := Option.isSome_iff_exists.1 h
  simp [leased, hapi]

theorem leased_of_none (h : backend.api = none) : leased backend = none := by
  simp [leased, h]

/-- A lease that is granted is the binding's, if it has an interface at all. -/
theorem acquireBackendLease_at (hlease : w.lease = none) (hflight : w.flight = none) :
    Leads (At K core memory w) acquireBackendLease fun status s =>
      if status = .success then
        ∃ named, (core.backend.api.isSome = true → core.backendBound = true ∧ named = []) ∧
          At K core memory { w with lease := leased core.backend, named } s
      else At K core memory w s := by
  refine readWorker_bind_at fun worker hworker => .ite (fun hapi => ?_) fun hapi =>
    .ite (fun _ => ?_) fun hbound => ?_
  · rw [hworker.backend] at hapi
    refine .pure fun s hs => ?_
    refine ⟨w.named, fun h => by simp [hapi] at h, ?_⟩
    rw [leased_of_none hapi, ← hlease]
    exact hs
  · exact .pure fun s hs => hs
  · rw [hworker.backend] at hapi ⊢
    rw [hworker.bound, Bool.not_eq_false] at hbound
    have hleased : leased core.backend = some core.backend :=
      leased_of_isSome (Option.isSome_iff_ne_none.2 hapi)
    refine post (ask_at (fun _ => hlease) ?_) fun status s hs => ?_
    · refine fun status _ _ => ⟨Watch.safe_of_grounded ?_, trivial⟩
      simp only [Watch.next]
      split_ifs <;> exact hflight
    · simp only [Watch.next] at hs
      split_ifs at hs ⊢ with hstat
      · exact ⟨[], fun _ => ⟨hbound, rfl⟩, by rw [hleased]; exact hs⟩
      · exact hs

theorem releaseBackendLease_at (hlease : w.lease = leased backend)
    (hvalid : backend.api.isSome = true → backend.validLease = true)
    (hflight : K → w.flight = none) :
    Leads (At K core memory w) (releaseBackendLease backend) fun _ =>
      At K core memory { w with lease := none } := by
  refine .ite (fun hlive => ?_) fun hidle => .pure fun s hs => ?_
  · refine notify_at (hlease.trans (leased_of_isSome hlive.1)) fun hK _ => ⟨?_, trivial⟩
    exact Watch.safe_of_grounded (hflight hK)
  have hapi : backend.api = none := by
    by_contra hsome
    have hisSome := Option.isSome_iff_ne_none.2 hsome
    exact hidle ⟨hisSome, hvalid hisSome⟩
  rw [leased_of_none hapi] at hlease
  rw [← hlease]
  exact hs

/-- References that are held are given back one by one. -/
theorem releaseAll_at :
    ∀ {w : Watch}, w.retained = references → (K → w.flight = none) →
      Leads (At K core memory w)
      (references.forM fun reference => notify (.release reference)) fun _ =>
        At K core memory { w with retained := 0 } := by
  induction references with
  | nil =>
    intro w hret _
    have hnone : w.retained = 0 := hret
    refine .pure fun s hs => ?_
    rw [← hnone]
    exact hs
  | cons reference references ih =>
    intro w hret hflight
    have hnext : (w.next (.release reference)).retained = references := by
      simp only [Watch.next, hret]
      exact congrArg _ (erase_cons_head ..)
    refine (notify_at ?_ fun hK _ => ⟨?_, trivial⟩).bind fun _ => ih hnext hflight
    · change reference ∈ w.retained
      rw [hret]
      exact mem_cons_self
    · exact Watch.safe_of_grounded (hflight hK)

theorem retain_at (hflight : K → w.flight = none) :
    Leads (At K core memory w) (retain reference) fun status =>
      At K core memory (w.next (.retain reference status)) := by
  refine ask_at (fun _ => trivial) fun status hK _ => ⟨Watch.safe_of_grounded ?_, trivial⟩
  simp only [Watch.next]
  split_ifs <;> exact hflight hK

/-- Either all references are retained or none is. -/
theorem retainReferences_at :
    ∀ {w : Watch} {retained : List MemoryReference}, w.retained = retained →
      (K → references = [] ∨ w.flight = none) →
      Leads (At K core memory w) (retainReferences retained references) fun status s =>
        (references = [] → status = .success) ∧
          At K core memory
            { w with
              retained :=
                if status = .success then w.retained + (references : Multiset _) else 0 } s := by
  induction references with
  | nil =>
    intro w retained hret _
    refine .pure fun s hs => ⟨fun _ => rfl, ?_⟩
    simpa using hs
  | cons reference references ih =>
    intro w retained hret hflight
    have hgrounded : K → w.flight = none := fun hK => (hflight hK).resolve_left (cons_ne_nil _ _)
    refine (retain_at hgrounded).bind fun status => .if_ne (fun hstat => ?_) ?_
    · simp only [Watch.next, if_neg hstat]
      refine (releaseAll_at retained hret hgrounded).bind fun _ => .pure fun s hs => ?_
      rw [if_neg hstat]
      exact ⟨fun h => absurd h (cons_ne_nil _ _), hs⟩
    · rintro rfl
      refine (ih (w := { w with retained := reference ::ₘ w.retained }) ?_
        fun hK => .inr (hgrounded hK)).post fun status s h => ?_
      · simp [hret]
      refine ⟨fun h => absurd h (cons_ne_nil _ _), ?_⟩
      have heq : w.retained + ((reference :: references) : Multiset MemoryReference) =
          reference ::ₘ w.retained + references := by
        rw [← Multiset.cons_coe, Multiset.cons_add, Multiset.add_cons]
      rw [heq]
      exact h.2

/-- The references an operation holds. -/
def heldReferences (resolution : Option CopyResolution) (memoryReference : Option MemoryReference)
    (launchResolution : Option LaunchResolution) : List MemoryReference :=
  resolution.elim []
    (fun resolution => [resolution.destinationReference, resolution.sourceReference]) ++
    memoryReference.toList ++ launchResolution.elim [] (·.memoryReferences)

/-- The worker does call the release of the reference. -/
def Releasable (reference : MemoryReference) : Prop := reference.handle ≠ 0 ∧ reference.release ≠ 0

theorem releaseMemoryReference_eq (h : Releasable reference) :
    releaseMemoryReference reference = notify (.release reference) := if_pos h

theorem releaseReferences_eq {resolution : Option CopyResolution}
    {memoryReference : Option MemoryReference} {launchResolution : Option LaunchResolution}
    (h : ∀ reference ∈ heldReferences resolution memoryReference none, Releasable reference) :
    releaseReferences resolution memoryReference launchResolution =
      (heldReferences resolution memoryReference launchResolution).forM fun reference =>
        notify (.release reference) := by
  have hcopy : resolution.forM releaseCopyReferences =
      (resolution.elim [] fun resolution =>
        [resolution.destinationReference, resolution.sourceReference]).forM fun reference =>
          notify (.release reference) := by
    cases resolution with
    | none => rfl
    | some resolution =>
      have hdest :=
        releaseMemoryReference_eq (h resolution.destinationReference (by simp [heldReferences]))
      have hsource :=
        releaseMemoryReference_eq (h resolution.sourceReference (by simp [heldReferences]))
      change ([resolution.destinationReference, resolution.sourceReference].forM
        releaseMemoryReference) = _
      simp [hdest, hsource]
  have hmemory : memoryReference.forM releaseMemoryReference =
      memoryReference.toList.forM fun reference => notify (.release reference) := by
    cases memoryReference with
    | none => rfl
    | some reference =>
      have href := releaseMemoryReference_eq (h reference (by simp [heldReferences]))
      simp [href]
  have hlaunch : launchResolution.forM releaseLaunchReferences =
      (launchResolution.elim [] (·.memoryReferences)).forM fun reference =>
        notify (.release reference) := by
    cases launchResolution <;> rfl
  unfold releaseReferences heldReferences
  rw [hcopy, hmemory, hlaunch]
  simp only [forM_eq_forM, forM_append, bind_assoc]

end Holdings

/-! ## 4. Completion, and the worker at rest -/

/-- What completing a request comes to. -/
inductive Completes (request : Descriptor) (core : CdevWorker) (memory : Memory) :
    WorkerResult → CdevWorker → Memory → Prop
  | exhausted (hmax : core.timeline = uint64Max) :
    Completes request core memory .malformed core memory
  | full (hfull : queueWritable memory core.view.completion = false) :
    Completes request core memory .backpressure core memory
  | written {completion : Descriptor} {memory' : Memory} (hmore : core.timeline ≠ uint64Max)
    (horigin : completion.origin = request.origin)
    (htime : getElem completion.arguments 1 word1 = core.timeline + 1)
    (hproduce : produce memory core.view.completion completion = some memory') :
    Completes request core memory .completed { core with timeline := core.timeline + 1 } memory'

/-- The place of a worker with a request in hand. -/
def place (core : CdevWorker) (memory : Memory) (atHand : Option Descriptor) : Place :=
  ⟨core.view, core.timeline, atHand, memory⟩

section

variable {request : Descriptor} {core' : CdevWorker} {memory' : Memory} {result : WorkerResult}
  (h : Completes request core memory result core' memory')

include h

/-- A request that is completed, or that finds the timeline at its end, is no longer at hand. -/
theorem Completes.turn (hres : result ≠ .backpressure) :
    ∃ events, Turn (place core memory (some request)) events (place core' memory' none) := by
  cases h with
  | exhausted hmax =>
    refine ⟨[], rfl, by simp, Replays.refl, fun htally => ?_⟩
    rw [append_nil]
    exact htally.drop hmax
  | full => exact absurd rfl hres
  | written hmore horigin htime hproduce =>
    exact ⟨[.completed core.view.completion _], rfl, by simp [RingEvent.On, place],
      Replays.refl.completed hproduce,
      fun htally => htally.answer hmore horigin htime⟩

theorem Completes.pending :
    core'.pending = core.pending ∧ core'.backend = core.backend ∧ core'.view = core.view := by
  cases h <;> exact ⟨rfl, rfl, rfl⟩

end

theorem complete_at (request : Descriptor) (status : SharedStatus) :
    Leads (At K core memory w) (complete request status) fun result s =>
      ∃ core' memory', Completes request core memory result core' memory' ∧
        At K core' memory' w s := by
  refine .get_bind fun s hs => .ite (fun hmax => ?_) fun hmore => ?_
  · exact .answer ⟨core, memory, .exhausted (hs.worker.timeline ▸ hmax), hs⟩
  dsimp only
  rw [hs.worker.timeline] at hmore
  rw [hs.memory, hs.worker.view, hs.worker.timeline]
  cases hproduce : produce memory core.view.completion _ with
  | none =>
    refine .answer ⟨core, memory, .full ?_, hs⟩
    unfold produce at hproduce
    by_contra hwrite
    rw [if_neg hwrite] at hproduce
    cases hproduce
  | some memory' =>
    refine bind ?_ fun _ => .pure fun _ h => h
    refine .set trivial ⟨_, memory', .written hmore (by rfl) (by rfl) hproduce, ?_⟩
    exact { hs with
      worker := ⟨rfl, hs.worker.backend, rfl, hs.worker.pending⟩
      memory := rfl }

/-- What the worker knows of an operation that is pending. -/
structure Sound (pending : PendingOperation) : Prop where
  valid : pending.backend.valid = true
  event : pending.backend.completionEvent = pending.event
  asks : pending.backend.api.any (·.queryEvent) = true
  releasable : ∀ reference ∈ heldReferences pending.resolution pending.memoryReference none,
    Releasable reference

def PendingReferences (pending : PendingOperation) : List MemoryReference :=
  heldReferences pending.resolution pending.memoryReference pending.launchResolution

/-- The books between two operations of the worker: nothing is held but for what is pending. -/
def Books (w : Watch) : Option PendingOperation → Prop
  | none => w.lease = none ∧ w.retained = 0 ∧ w.flight = none
  | some pending =>
    Sound pending ∧ w.lease = some pending.backend ∧ w.retained = PendingReferences pending ∧
      (w.flight = none ∨ w.flight = some pending.event ∧ pending.cancellationRequested = false)

def Resting (core : CdevWorker) (memory : Memory) (s : CdevSite) : Prop :=
  ∃ w, At True core memory w s ∧ Books w core.pending

/-- The place of a worker at rest. -/
def restPlace (core : CdevWorker) (memory : Memory) : Place :=
  place core memory (core.pending.map (·.request))

/-- The worker has come from a place to rest. -/
def Settles (p : Place) (s : CdevSite) : Prop :=
  ∃ core memory events, Resting core memory s ∧ Turn p events (restPlace core memory)

theorem Settles.of_turn {p p' : Place} {events : List RingEvent} {s : CdevSite} (h : Settles p' s)
    (u : Turn p events p') : Settles p s := by
  obtain ⟨core, memory, events', hrest, v⟩ := h
  exact ⟨core, memory, events ++ events', hrest, u.trans v⟩

section Settling

variable {request : Descriptor}

/-- A request that only has to be completed. -/
theorem complete_settles (hpend : core.pending = none) (hbooks : Books w none)
    (hwrite : queueWritable memory core.view.completion = true) (status : SharedStatus) :
    Leads (At K core memory w) (complete request status) fun _ s =>
      Settles (place core memory (some request)) s := by
  refine (complete_at request status).post ?_
  rintro result s ⟨core', memory', hcompletes, hs⟩
  have hres : result ≠ .backpressure := by
    rintro rfl
    cases hcompletes with
    | full hfull => simp [hwrite] at hfull
  obtain ⟨events, hturn⟩ := hcompletes.turn hres
  have hnone : core'.pending = none := hcompletes.pending.1.trans hpend
  refine ⟨core', memory', events, ⟨w, hs.learn fun _ _ => trivial, ?_⟩, ?_⟩
  · rw [hnone]
    exact hbooks
  · rw [restPlace, hnone]
    exact hturn

end Settling

/-! ## 5. Losses that are reported -/

/-- What a report of a loss can do to the worker that makes it. -/
inductive Told : CdevSite → CdevSite → Prop
  | refl (s : CdevSite) : Told s s
  | outside {s s' : CdevSite} (h : Told s s') (script : Script) (lossAnswered : Bool) :
    Told s { s' with script, lossAnswered }
  | lost {s s' : CdevSite} (h : Told s s') (event : MirrorEvent) :
    Told s ((lifecycleLost event).run s').2

section Lost

theorem retireBackendBinding_at (backend : BackendBinding) :
    Leads (At K core memory w) (retireBackendBinding backend) fun _ => At K core memory w :=
  .either (notify_at trivial fun _ hsafe => ⟨hsafe, trivial⟩) <| .skip

/-- A change of the worker that leaves it alike. -/
theorem update_at {f : CdevWorker → CdevWorker} {c : CdevWorker}
    (hf : ∀ worker, Alike core worker → Alike c (f worker)) :
    Leads (At K core memory w) (update f) fun _ => At K c memory w := fun _ hs =>
  ⟨trivial, { hs with worker := hf _ hs.worker }⟩

theorem discardStagedRebind_at :
    Leads (At K core memory w) discardStagedRebind fun _ => At K core memory w := by
  refine readWorker_bind_at fun worker _ => ?_
  cases worker.staged with
  | none => exact .skip
  | some =>
    refine bind (update_at ?_) fun _ => retireBackendBinding_at _
    exact fun _ h => { h with }

/-- An operation, but for the marks that are left on it. -/
structure Marks (pending pending' : PendingOperation) : Prop where
  request : pending'.request = pending.request
  backend : pending'.backend = pending.backend
  event : pending'.event = pending.event
  references : PendingReferences pending' = PendingReferences pending
  sound : Sound pending → Sound pending'

theorem Marks.refl (pending : PendingOperation) : Marks pending pending := ⟨rfl, rfl, rfl, rfl, id⟩

variable {p p' p'' : PendingOperation}

theorem Marks.trans (u : Marks p p') (v : Marks p' p'') : Marks p p'' :=
  ⟨v.request.trans u.request, v.backend.trans u.backend, v.event.trans u.event,
    v.references.trans u.references, fun h => v.sound (u.sound h)⟩

/-- A pending operation that has been marked, and the books on it: at most the flight has ended. -/
structure Marked (p : PendingOperation) (w : Watch) (p' : PendingOperation)
    (w' : Watch) : Prop where
  marks : Marks p p'
  books : w'.grounded = w.grounded
  flight : w'.flight = w.flight ∨ w'.flight = none
  requested : p'.cancellationRequested = true → p.cancellationRequested = true ∨ w'.flight = none

theorem Marked.refl (p : PendingOperation) (w : Watch) : Marked p w p w :=
  ⟨.refl p, rfl, .inl rfl, .inl⟩

theorem Marked.trans {w'' : Watch} (u : Marked p w p' w')
    (v : Marked p' w' p'' w'') : Marked p w p'' w'' := by
  refine ⟨u.marks.trans v.marks, v.books.trans u.books, ?_, fun h => ?_⟩
  · rcases v.flight with heq | hnone
    · rw [heq]
      exact u.flight
    · exact .inr hnone
  · rcases v.requested h with hbefore | hnone
    · rcases u.requested hbefore with hfirst | hended
      · exact .inl hfirst
      · rcases v.flight with heq | hnone
        · exact .inr (heq.trans hended)
        · exact .inr hnone
    · exact .inr hnone

theorem Marked.booked (u : Marked p w p' w') (h : Books w (some p)) : Books w' (some p') := by
  obtain ⟨hsound, hlease, hret, hflight⟩ := h
  have hbooks := u.books
  simp only [Watch.grounded, Watch.mk.injEq] at hbooks
  refine ⟨u.marks.sound hsound, ?_, ?_, ?_⟩
  · rw [hbooks.1, hlease, u.marks.backend]
  · rw [hbooks.2.1, hret, u.marks.references]
  rcases u.flight with heq | hnone
  · rcases hflight with hnone | ⟨hsome, hrequested⟩
    · exact .inl (heq.trans hnone)
    refine .inr ⟨by rw [heq, hsome, u.marks.event], ?_⟩
    by_contra hcancelled
    rw [Bool.not_eq_false] at hcancelled
    rcases u.requested hcancelled with hbefore | hnone
    · simp [hrequested] at hbefore
    · simp [heq, hsome] at hnone
  · exact .inl hnone

theorem cancelPending_idle (hpend : core.pending = none) :
    Leads (At K core memory w) cancelPending fun _ => At K core memory w := by
  refine readWorker_bind_at fun worker hworker => ?_
  rw [hworker.pending, hpend]
  exact .skip

theorem cancelPending_at (hpend : core.pending = some p) :
    Leads (At K core memory w) cancelPending fun _ s =>
      ∃ p' w', Marked p w p' w' ∧ At K { core with pending := some p' } memory w' s := by
  have hsame : ∀ s, At K core memory w s →
      ∃ p' w', Marked p w p' w' ∧ At K { core with pending := some p' } memory w' s := fun s hs =>
    ⟨p, w, .refl p w,
      { hs with worker := { hs.worker with pending := hs.worker.pending.trans hpend } }⟩
  refine readWorker_bind_at fun worker hworker => ?_
  rw [hworker.pending, hpend]
  refine .either (.pure hsame) <| .either (.pure hsame) ?_
  have hask : Leads (At K core memory w) (backendCancelQueue p.backend) fun status =>
      At K core memory (w.next (.cancelQueue p.backend status)) := by
    refine ask_at (fun _ => trivial) fun status _ hsafe => ⟨?_, trivial⟩
    simp only [Watch.next]
    split_ifs
    · exact Watch.safe_of_grounded rfl
    · exact hsafe
  refine hask.bind fun status => .ite (fun haccepted => ?_) fun hrefused => .pure fun s hs => ?_
  · have hnext : w.next (.cancelQueue p.backend status) = { w with flight := none } :=
      if_pos haccepted
    rw [hnext]
    refine bind (update_at
      ?_)
      fun _ => .pure fun s hs =>
      ⟨{ p with cancellationRequested := true }, { w with flight := none },
        ⟨⟨rfl, rfl, rfl, rfl, fun h => { h with }⟩, rfl, .inr rfl, fun _ => .inr rfl⟩, hs⟩
    intro worker h
    refine ⟨h.view, h.backend, h.timeline, ?_⟩
    simp [h.pending, hpend]
  · have hnext : w.next (.cancelQueue p.backend status) = w := if_neg hrefused
    rw [hnext] at hs
    exact hsame s hs

/-- A loss leaves the worker as it is, and a pending operation marked. -/
theorem lifecycleLost_idle (hpend : core.pending = none) (event : MirrorEvent) :
    Leads (At K core memory w) (lifecycleLost event) fun _ => At K core memory w := by
  refine discardStagedRebind_at.bind fun _ => bind (update_at ?_) fun _ =>
    (cancelPending_idle hpend).bind fun _ => .skip
  intro worker h
  refine ⟨h.view, h.backend, h.timeline, ?_⟩
  simp [h.pending, hpend]

theorem lifecycleLost_at (hpend : core.pending = some p) (event : MirrorEvent) :
    Leads (At K core memory w) (lifecycleLost event) fun _ s =>
      ∃ p' w', Marked p w p' w' ∧ At K { core with pending := some p' } memory w' s := by
  have hmarked : Marked p w { p with forceDeviceLost := true } w :=
    ⟨⟨rfl, rfl, rfl, rfl, fun h => { h with }⟩, rfl, .inl rfl, .inl⟩
  refine discardStagedRebind_at.bind fun _ => bind (update_at
    (c := { core with pending := some { p with forceDeviceLost := true } }) ?_) fun _ =>
    (cancelPending_at rfl).bind fun _ => .pure ?_
  · intro worker h
    refine ⟨h.view, h.backend, h.timeline, ?_⟩
    simp [h.pending, hpend]
  · rintro s ⟨p', w', hafter, hs⟩
    exact ⟨p', w', hmarked.trans hafter, hs⟩

end Lost

end CdevWorker

end MetaFlux.Transport
