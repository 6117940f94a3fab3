/-
# Synchronization

A call that synchronizes reads a mark, the id of the last request that was submitted on its context
or stream, and waits until no request up to the mark is left (`mf_cuda_drain_through_locked`).  So
it is as good as the mark.

* §1 is the table of pending requests with the marks.  A request gets its id BEFORE it waits for
  room in the ring, and the marks when it is submitted; a primary context's flags are kept in its
  mark.
* §2 is the invariant: the marks are not below what is submitted and pending.  It is kept as long as
  no request is submitted while a later one of its context is pending, and no flags are set below
  what is pending (`SyncMove.Kept`).
* §3: then synchronization is complete (`synchronize_complete`).  With either of the two it is not
  (`synchronize_early`).
* §4: the driver's loop over its table of slots is a run of these steps
  (`Driven.Shows.processReady`).

Contexts, streams and events stand for their slot in one generation of it, in which they are live.
The daemon answers within the driver's time limit, so that no request is abandoned.
-/
import MetaFlux.Base.Run
import MetaFlux.Cuda.Pending

open Function

namespace MetaFlux.Cuda

open Base List

/-! ## 1. Requests and marks -/

/-- Each thread has a default stream of its own beside that of the context. -/
inductive StreamKey where
  | default
  | named (stream : Nat)
  | perThread (thread : Nat)
deriving DecidableEq, Repr

/-- A request that has its id; `event` is the event that it records, and `readsBack` that it is a
copy to the host, whose bytes are delivered when it is finished. -/
structure Request where
  id : Nat
  context : Nat
  stream : StreamKey
  event : Option Nat := none
  readsBack : Bool := false
  submitted : Bool := false
deriving DecidableEq, Repr

/-- A request whose completion was consumed, and whether its bytes were delivered. -/
structure Finished where
  id : Nat
  readsBack : Bool
  succeeds : Bool
  delivered : Bool
deriving DecidableEq, Repr

/-- The event's `aux`. -/
inductive EventPhase where
  | unrecorded | recorded | complete
deriving DecidableEq, Repr

/-- `due` are the requests that were submitted on the stream up to the latest record. -/
structure EventRecord where
  phase : EventPhase := .unrecorded
  lastRequest : Nat := 0
  context : Nat := 0
  due : List Request := []
deriving DecidableEq, Repr

/-- A call that drains; `due` are the requests that it is to wait for. -/
structure Draining where
  target : Nat
  due : List Request
deriving DecidableEq, Repr

/-- A call that has returned success, with the requests that were finished by then. -/
structure Returned where
  due : List Request
  finished : List Finished
deriving DecidableEq, Repr

structure Driven where
  nextRequest : Nat := 0
  pending : List Request := []
  contextLast : Nat → Nat := fun _ => 0
  streamLast : Nat → StreamKey → Nat := fun _ _ => 0
  events : Nat → EventRecord := fun _ => {}
  calls : Nat → Option Draining := fun _ => none
  /-- What was submitted, what was finished, and what calls have returned. -/
  submitted : List Request := []
  finished : List Finished := []
  returned : List Returned := []

namespace Driven

variable (d : Driven)

/-- The slot of a request gets its id, and counts as submitted from there on. -/
def assign (context : Nat) (stream : StreamKey) (event : Option Nat) (readsBack : Bool) : Driven :=
  { d with
    nextRequest := d.nextRequest + 1
    pending := d.pending ++ [{ id := d.nextRequest + 1, context, stream, event, readsBack }] }

def onContext (context : Nat) : List Request :=
  d.submitted.filter (·.context = context)

def onStream (context : Nat) (stream : StreamKey) : List Request :=
  d.submitted.filter fun r => r.context = context ∧ r.stream = stream

/-- The ring takes the command: the marks are set to its id, whatever they were. -/
def noteSubmission (r : Request) : Driven :=
  { d with
    pending := d.pending.map fun p => if p = r then { r with submitted := true } else p
    submitted := d.submitted ++ [r]
    contextLast := update d.contextLast r.context r.id
    streamLast := update d.streamLast r.context
      (update (d.streamLast r.context) r.stream r.id) }

/-- An event's record is set when its request is submitted. -/
def recordEvent (r : Request) : Driven :=
  match r.event with
  | none => d
  | some event =>
    { d with
      events := update d.events event
        ⟨.recorded, r.id, r.context, d.onStream r.context r.stream⟩ }

def findUnsubmitted (id : Nat) : Option Request :=
  d.pending.find? fun r => r.id = id ∧ r.submitted = false

def submit (id : Nat) : Driven :=
  match d.findUnsubmitted id with
  | none => d
  | some r => (d.noteSubmission r).recordEvent r

/-- A request that the ring did not take gives back its slot. -/
def fail (id : Nat) : Driven :=
  { d with pending := d.pending.filter fun r => !(r.id = id ∧ r.submitted = false) }

/-- Its completion is there, and it is the first of its context: its bytes are delivered if it
succeeded, its event is complete if it was not recorded again, and its slot is given back. -/
def finish (id : Nat) (succeeds : Bool) : Driven :=
  match d.pending.find? fun r => r.id = id ∧ r.submitted = true with
  | none => d
  | some r =>
    if d.pending.all fun p => p.context ≠ r.context ∨ r.id ≤ p.id then
      { d with
        pending := d.pending.filter (·.id ≠ id)
        finished := d.finished ++ [⟨id, r.readsBack, succeeds, r.readsBack && succeeds⟩]
        events :=
          match r.event with
          | none => d.events
          | some event =>
            if (d.events event).lastRequest = id then
              update d.events event { d.events event with phase := .complete }
            else d.events }
    else d

/-- The flags of a primary context are kept where its mark is. -/
def cuDevicePrimaryCtxSetFlags (context flags : Nat) : Driven :=
  { d with contextLast := update d.contextLast context flags }

def drain (thread target : Nat) (due : List Request) : Driven :=
  match d.calls thread with
  | none => { d with calls := update d.calls thread (some ⟨target, due⟩) }
  | some _ => d

def cuCtxSynchronize (thread context : Nat) : Driven :=
  d.drain thread (d.contextLast context) (d.onContext context)

def cuStreamSynchronize (thread context : Nat) (stream : StreamKey) : Driven :=
  d.drain thread (d.streamLast context stream) (d.onStream context stream)

def returnSuccess (due : List Request) : Driven :=
  { d with returned := d.returned ++ [⟨due, d.finished⟩] }

/-- An event that was never recorded is not waited for. -/
def cuEventSynchronize (thread event : Nat) : Driven :=
  if (d.events event).phase = .unrecorded then d
  else d.drain thread (d.events event).lastRequest (d.events event).due

/-- Nothing up to the target is left. -/
def drained (thread : Nat) : Driven :=
  match d.calls thread with
  | none => d
  | some call =>
    if d.pending.all fun r => call.target < r.id then
      { d.returnSuccess call.due with calls := update d.calls thread none }
    else d

/-- A query looks through the table. -/
def cuStreamQuery (context : Nat) (stream : StreamKey) : Driven :=
  if d.pending.any fun r => r.context = context ∧ r.stream = stream then d
  else d.returnSuccess (d.onStream context stream)

def cuEventQuery (event : Nat) : Driven :=
  if (d.events event).phase = .complete then d.returnSuccess (d.events event).due else d

end Driven

inductive SyncMove where
  | assign (context : Nat) (stream : StreamKey) (event : Option Nat) (readsBack : Bool)
  | submit (id : Nat)
  | fail (id : Nat)
  | finish (id : Nat) (succeeds : Bool)
  | setFlags (context flags : Nat)
  | ctxSynchronize (thread context : Nat)
  | streamSynchronize (thread context : Nat) (stream : StreamKey)
  | eventSynchronize (thread event : Nat)
  | drained (thread : Nat)
  | streamQuery (context : Nat) (stream : StreamKey)
  | eventQuery (event : Nat)

def Driven.step (d : Driven) : SyncMove → Driven
  | .assign context stream event readsBack => d.assign context stream event readsBack
  | .submit id => d.submit id
  | .fail id => d.fail id
  | .finish id succeeds => d.finish id succeeds
  | .setFlags context flags => d.cuDevicePrimaryCtxSetFlags context flags
  | .ctxSynchronize thread context => d.cuCtxSynchronize thread context
  | .streamSynchronize thread context stream => d.cuStreamSynchronize thread context stream
  | .eventSynchronize thread event => d.cuEventSynchronize thread event
  | .drained thread => d.drained thread
  | .streamQuery context stream => d.cuStreamQuery context stream
  | .eventQuery event => d.cuEventQuery event

/-! ## 2. The marks -/

/-- No request is submitted while a later one of its context is submitted and pending, and no flags
are set that are below one of those. -/
def SyncMove.Kept (d : Driven) : SyncMove → Prop
  | .submit id => ∀ r, d.findUnsubmitted id = some r → ∀ p ∈ d.pending, p.submitted = true →
    p.context = r.context → p.id < id
  | .setFlags context flags => ∀ p ∈ d.pending, p.submitted = true → p.context = context →
    p.id ≤ flags
  | _ => True

namespace Driven

/-- The request was finished, with its bytes delivered if it is a copy to the host that succeeded.
-/
def IsDone (finished : List Finished) (r : Request) : Prop :=
  ∃ f ∈ finished, f.id = r.id ∧ f.readsBack = r.readsBack ∧
    (r.readsBack = true → f.succeeds = true → f.delivered = true)

/-- The request is done, or it is submitted and pending as one of those. -/
def Awaits (d : Driven) (P : Request → Prop) (r : Request) : Prop :=
  IsDone d.finished r ∨
    ∃ p ∈ d.pending, p.id = r.id ∧ p.readsBack = r.readsBack ∧ p.submitted = true ∧ P p

variable {r : Request}

theorem IsDone.mono {finished finished' : List Finished} (h : IsDone finished r)
    (hsub : ∀ f ∈ finished, f ∈ finished') : IsDone finished' r := by
  obtain ⟨f, hf, hrest⟩ := h
  exact ⟨f, hsub f hf, hrest⟩

structure Inv (d : Driven) : Prop where
  ids : ∀ p ∈ d.pending, p.id ≤ d.nextRequest
  unique : ∀ p ∈ d.pending, ∀ q ∈ d.pending, p.id = q.id → p = q
  kept : ∀ r ∈ d.submitted, d.Awaits (fun p => p.context = r.context ∧ p.stream = r.stream) r
  marks : ∀ p ∈ d.pending, p.submitted = true →
    p.id ≤ d.contextLast p.context ∧ p.id ≤ d.streamLast p.context p.stream
  calls : ∀ {thread call}, d.calls thread = some call →
    ∀ r ∈ call.due, d.Awaits (fun p => p.id ≤ call.target) r
  recorded : ∀ event, ∀ r ∈ (d.events event).due, d.Awaits (fun p =>
    p.context = (d.events event).context ∧ p.id ≤ (d.events event).lastRequest) r
  last : ∀ event, (d.events event).lastRequest ≤ d.nextRequest
  linked : ∀ p ∈ d.pending, p.submitted = true → ∀ event, p.event = some event →
    (d.events event).lastRequest = p.id → (d.events event).context = p.context
  fresh : ∀ p ∈ d.pending, p.submitted = false → ∀ event, (d.events event).lastRequest ≠ p.id
  complete : ∀ event, (d.events event).phase = .complete → ∀ p ∈ d.pending,
    p.context = (d.events event).context → (d.events event).lastRequest < p.id
  returned : ∀ call ∈ d.returned, ∀ r ∈ call.due, IsDone call.finished r

theorem Inv.start : Inv {} := by
  constructor <;> simp

variable {d : Driven} {P : Request → Prop}

/-- What is awaited stays so, in a step that gives up no submitted request before it is done. -/
theorem Awaits.mono {d' : Driven} (h : d.Awaits P r) (hfinished : ∀ f ∈ d.finished, f ∈ d'.finished)
    (hpend : ∀ p ∈ d.pending, p.submitted = true → IsDone d'.finished p ∨ p ∈ d'.pending) :
    d'.Awaits P r := by
  rcases h with hdone | ⟨p, hp, hid, hreads, hsent, hP⟩
  · exact .inl (hdone.mono hfinished)
  · rcases hpend p hp hsent with ⟨f, hf, hfid, hfreads, hbytes⟩ | hstill
    · rw [hid] at hfid
      rw [hreads] at hfreads hbytes
      exact .inl ⟨f, hf, hfid, hfreads, hbytes⟩
    · exact .inr ⟨p, hstill, hid, hreads, hsent, hP⟩

theorem Awaits.imp {Q : Request → Prop} (h : d.Awaits P r)
    (himp : ∀ p ∈ d.pending, p.submitted = true → P p → Q p) : d.Awaits Q r := by
  rcases h with hdone | ⟨p, hp, hid, hreads, hsent, hP⟩
  · exact .inl hdone
  · exact .inr ⟨p, hp, hid, hreads, hsent, himp p hp hsent hP⟩

/-- Where nothing like it is pending, it is done. -/
theorem Awaits.isDone (h : d.Awaits P r) (hnone : ∀ p ∈ d.pending, ¬ P p) :
    IsDone d.finished r := by
  rcases h with hdone | ⟨p, hp, -, -, -, hP⟩
  · exact hdone
  · exact absurd hP (hnone p hp)

/-- Requests leave the table, once they are finished or because they never came to be submitted. -/
theorem Inv.leave (h : Inv d) {pending : List Request} {finished : List Finished}
    (hsub : ∀ p ∈ pending, p ∈ d.pending) (hfinished : ∀ f ∈ d.finished, f ∈ finished)
    (hpend : ∀ p ∈ d.pending, p.submitted = true → IsDone finished p ∨ p ∈ pending) :
    Inv { d with pending := pending, finished := finished } where
  ids p hp := h.ids p (hsub p hp)
  unique p hp q hq := h.unique p (hsub p hp) q (hsub q hq)
  kept r hr := (h.kept r hr).mono hfinished hpend
  marks p hp := h.marks p (hsub p hp)
  calls hcall id hid := (h.calls hcall id hid).mono hfinished hpend
  recorded event id hid := (h.recorded event id hid).mono hfinished hpend
  last := h.last
  linked p hp := h.linked p (hsub p hp)
  fresh p hp := h.fresh p (hsub p hp)
  complete event hcompl p hp := h.complete event hcompl p (hsub p hp)
  returned := h.returned

theorem Inv.assign (h : Inv d) (context : Nat) (stream : StreamKey) (event : Option Nat)
    (readsBack : Bool) :
    Inv (d.assign context stream event readsBack) := by
  have hmem : ∀ {p}, p ∈ (d.assign context stream event readsBack).pending →
      p ∈ d.pending ∨ p = { id := d.nextRequest + 1, context, stream, event, readsBack } := by
    intro p hp
    simpa [Driven.assign] using hp
  have hkeep : ∀ p ∈ d.pending, p.submitted = true → IsDone d.finished p ∨
      p ∈ (d.assign context stream event readsBack).pending :=
    fun p hp _ => .inr (mem_append_left _ hp)
  constructor
  case ids =>
    intro p hp
    rcases hmem hp with hold | rfl
    · exact Nat.le_succ_of_le (h.ids p hold)
    · exact .refl
  case unique =>
    intro p hp q hq heq
    rcases hmem hp with hold | rfl
    · rcases hmem hq with hold' | rfl
      · exact h.unique p hold q hold' heq
      · exact absurd (h.ids p hold) (by rw [heq]; exact Nat.not_succ_le_self _)
    · rcases hmem hq with hold' | rfl
      · exact absurd (h.ids q hold') (by rw [← heq]; exact Nat.not_succ_le_self _)
      · rfl
  case kept => exact fun r hr => (h.kept r hr).mono (fun _ => id) hkeep
  case marks =>
    intro p hp hsent
    rcases hmem hp with hold | rfl
    · exact h.marks p hold hsent
    · cases hsent
  case calls => exact fun hcall i hi => (h.calls hcall i hi).mono (fun _ => id) hkeep
  case recorded => exact fun e i hi => (h.recorded e i hi).mono (fun _ => id) hkeep
  case last => exact fun e => Nat.le_succ_of_le (h.last e)
  case linked =>
    intro p hp hsent
    rcases hmem hp with hold | rfl
    · exact h.linked p hold hsent
    · cases hsent
  case fresh =>
    intro p hp hsent e
    rcases hmem hp with hold | rfl
    · exact h.fresh p hold hsent e
    · exact Nat.ne_of_lt (Nat.lt_succ_of_le (h.last e))
  case complete =>
    intro e hcompl p hp hctx
    rcases hmem hp with hold | rfl
    · exact h.complete e hcompl p hold hctx
    · exact Nat.lt_succ_of_le (h.last e)
  case returned => exact h.returned

theorem findUnsubmitted_spec {id : Nat} (hfound : d.findUnsubmitted id = some r) :
    r ∈ d.pending ∧ r.id = id ∧ r.submitted = false := by
  have hmem := mem_of_find?_eq_some hfound
  have hspec := find?_some hfound
  simp only [decide_eq_true_eq] at hspec
  exact ⟨hmem, hspec⟩

/-- A request is in the table after it was submitted as it was, or it is that one. -/
theorem mem_noteSubmission {p : Request} (hp : p ∈ (d.noteSubmission r).pending) :
    p = { r with submitted := true } ∨ p ∈ d.pending ∧ p ≠ r := by
  obtain ⟨q, hq, heq⟩ := mem_map.1 hp
  by_cases hqr : q = r
  · rw [if_pos hqr] at heq
    exact .inl heq.symm
  · rw [if_neg hqr] at heq
    subst heq
    exact .inr ⟨hq, hqr⟩

theorem Inv.noteSubmission (h : Inv d) (hr : r ∈ d.pending) (hunsubmitted : r.submitted = false)
    (hlater : ∀ p ∈ d.pending, p.submitted = true → p.context = r.context → p.id < r.id) :
    Inv (d.noteSubmission r) := by
  have hself : { r with submitted := true } ∈ (d.noteSubmission r).pending :=
    mem_map.2 ⟨r, hr, if_pos rfl⟩
  have hkeep : ∀ p ∈ d.pending, p.submitted = true → IsDone d.finished p ∨
      p ∈ (d.noteSubmission r).pending := by
    intro p hp hsent
    refine .inr (mem_map.2 ⟨p, hp, if_neg ?_⟩)
    rintro rfl
    rw [hunsubmitted] at hsent
    cases hsent
  constructor
  case ids =>
    intro p hp
    rcases mem_noteSubmission hp with rfl | ⟨hold, -⟩
    · exact h.ids r hr
    · exact h.ids p hold
  case unique =>
    intro p hp q hq heq
    rcases mem_noteSubmission hp with rfl | ⟨hold, hne⟩
    · rcases mem_noteSubmission hq with rfl | ⟨hold', hne'⟩
      · rfl
      · exact absurd (h.unique q hold' r hr heq.symm) hne'
    · rcases mem_noteSubmission hq with rfl | ⟨hold', -⟩
      · exact absurd (h.unique p hold r hr heq) hne
      · exact h.unique p hold q hold' heq
  case kept =>
    intro x hx
    rcases mem_append.1 hx with hold | hlast
    · exact (h.kept x hold).mono (fun _ => id) hkeep
    · cases mem_singleton.1 hlast
      exact .inr ⟨_, hself, rfl, rfl, rfl, rfl, rfl⟩
  case marks =>
    -- the marks are this request's, and no other of its context is later
    intro p hp hsent
    rcases mem_noteSubmission hp with rfl | ⟨hold, -⟩
    · simp [Driven.noteSubmission]
    obtain ⟨hctx, hstream⟩ := h.marks p hold hsent
    by_cases hc : p.context = r.context
    · have hlt := hlater p hold hsent hc
      refine ⟨?_, ?_⟩
      · simp only [Driven.noteSubmission, hc, update_self]
        exact Nat.le_of_lt hlt
      by_cases hs : p.stream = r.stream
      · simp only [Driven.noteSubmission, hc, hs, update_self]
        exact Nat.le_of_lt hlt
      · simp only [Driven.noteSubmission, hc, update_self, update_of_ne hs]
        rw [← hc]
        exact hstream
    · simp only [Driven.noteSubmission, update_of_ne hc]
      exact ⟨hctx, hstream⟩
  case calls => exact fun hcall i hi => (h.calls hcall i hi).mono (fun _ => id) hkeep
  case recorded => exact fun e i hi => (h.recorded e i hi).mono (fun _ => id) hkeep
  case last => exact h.last
  case linked =>
    intro p hp hsent e he hlast
    rcases mem_noteSubmission hp with rfl | ⟨hold, -⟩
    · exact absurd hlast (h.fresh r hr hunsubmitted e)
    · exact h.linked p hold hsent e he hlast
  case fresh =>
    intro p hp hsent
    rcases mem_noteSubmission hp with rfl | ⟨hold, -⟩
    · cases hsent
    · exact h.fresh p hold hsent
  case complete =>
    intro e hcompl p hp hctx
    rcases mem_noteSubmission hp with rfl | ⟨hold, -⟩
    · exact h.complete e hcompl r hr hctx
    · exact h.complete e hcompl p hold hctx
  case returned => exact h.returned

variable {context : Nat} {due : List Request}

section

variable (h : Inv d)

include h

/-- What was submitted on a context is awaited up to its mark, and so it is on a stream. -/
theorem Inv.awaits_onContext
    (hr : r ∈ d.onContext context) : d.Awaits (fun p => p.id ≤ d.contextLast context) r := by
  obtain ⟨hsent, hctx⟩ := mem_filter.1 hr
  simp only [decide_eq_true_eq] at hctx
  refine (h.kept r hsent).imp fun p hp hps hsame => ?_
  rw [← hctx, ← hsame.1]
  exact (h.marks p hp hps).1

theorem Inv.awaits_onStream {stream : StreamKey}
    (hr : r ∈ d.onStream context stream) : d.Awaits (fun p => p.context = context ∧
      p.stream = stream ∧ p.id ≤ d.streamLast context stream) r := by
  obtain ⟨hsent, hsame⟩ := mem_filter.1 hr
  simp only [decide_eq_true_eq] at hsame
  obtain ⟨rfl, rfl⟩ := hsame
  refine (h.kept r hsent).imp fun p hp hps hsame => ⟨hsame.1, hsame.2, ?_⟩
  rw [← hsame.1, ← hsame.2]
  exact (h.marks p hp hps).2

/-- What is asked of one event. -/
structure EventInv (d : Driven) (event : Nat) (e : EventRecord) : Prop where
  recorded : ∀ r ∈ e.due, d.Awaits (fun p => p.context = e.context ∧ p.id ≤ e.lastRequest) r
  last : e.lastRequest ≤ d.nextRequest
  linked : ∀ p ∈ d.pending, p.submitted = true → p.event = some event → e.lastRequest = p.id →
    e.context = p.context
  fresh : ∀ p ∈ d.pending, p.submitted = false → e.lastRequest ≠ p.id
  complete : e.phase = .complete → ∀ p ∈ d.pending, p.context = e.context → e.lastRequest < p.id

theorem Inv.event (event : Nat) : EventInv d event (d.events event) :=
  ⟨h.recorded _, h.last _, fun p hp hps => h.linked p hp hps _, fun p hp hps => h.fresh p hp hps _,
    h.complete _⟩

theorem Inv.setEvent {event : Nat} {e : EventRecord} (he : EventInv d event e) :
    Inv { d with events := update d.events event e } := by
  have hall := (forall_update_iff d.events (EventInv d)).2 ⟨he, fun e _ => h.event e⟩
  exact { h with
    recorded := fun e => (hall e).recorded
    last := fun e => (hall e).last
    linked := fun p hp hps e => (hall e).linked p hp hps
    fresh := fun p hp hps e => (hall e).fresh p hp hps
    complete := fun e => (hall e).complete }

/-- An event is recorded by a request that is submitted, up to which its stream's mark is. -/
theorem Inv.recordEvent (hr : r ∈ d.pending) (hsent : r.submitted = true)
    (hmark : d.streamLast r.context r.stream = r.id) : Inv (d.recordEvent r) := by
  unfold Driven.recordEvent
  cases hevent : r.event with
  | none => exact h
  | some event =>
    refine h.setEvent ⟨fun id hid => ?_, h.ids r hr, fun p hp _ _ hlast => ?_,
      fun p hp hps hlast => ?_, nofun⟩
    · refine (h.awaits_onStream hid).imp fun p _ _ hp => ⟨hp.1, ?_⟩
      rw [← hmark]
      exact hp.2.2
    · rw [h.unique r hr p hp hlast]
    · rw [h.unique r hr p hp hlast, hps] at hsent
      cases hsent

theorem Inv.submit {id : Nat} (hkept : SyncMove.Kept d (.submit id)) : Inv (d.submit id) := by
  unfold Driven.submit
  cases hfound : d.findUnsubmitted id with
  | none => exact h
  | some r =>
    obtain ⟨hr, rfl, hunsubmitted⟩ := findUnsubmitted_spec hfound
    have hnoted := h.noteSubmission hr hunsubmitted (hkept r hfound)
    change Inv ((d.noteSubmission r).recordEvent { r with submitted := true })
    refine hnoted.recordEvent (mem_map.2 ⟨r, hr, if_pos rfl⟩) rfl ?_
    simp [Driven.noteSubmission]

theorem Inv.fail (id : Nat) : Inv (d.fail id) := by
  refine h.leave (fun p hp => (mem_filter.1 hp).1) (fun _ hi => hi) ?_
  intro p hp hsent
  refine .inr (mem_filter.2 ⟨hp, ?_⟩)
  simp [hsent]

theorem Inv.finish (id : Nat) (succeeds : Bool) : Inv (d.finish id succeeds) := by
  unfold Driven.finish
  cases hfound : d.pending.find? fun r => r.id = id ∧ r.submitted = true with
  | none => exact h
  | some r =>
    have hr := mem_of_find?_eq_some hfound
    have hspec := find?_some hfound
    simp only [decide_eq_true_eq] at hspec
    obtain ⟨rfl, hsent⟩ := hspec
    simp only
    split_ifs with hfirst
    · have hleft : Inv { d with
          pending := d.pending.filter (·.id ≠ r.id)
          finished := d.finished ++ [⟨r.id, r.readsBack, succeeds, r.readsBack && succeeds⟩] } := by
        refine h.leave (fun p hp => (mem_filter.1 hp).1)
          (fun i hi => mem_append_left _ hi) fun p hp _ => ?_
        by_cases hid : p.id = r.id
        · rw [h.unique p hp r hr hid]
          refine .inl ⟨_, mem_append_right _ (mem_singleton.2 rfl), rfl, rfl, ?_⟩
          intro hreads hsucceeds
          simp only at hsucceeds ⊢
          rw [hreads, hsucceeds]
          rfl
        · exact .inr (mem_filter.2 ⟨hp, by simpa using hid⟩)
      cases hevent : r.event with
      | none => exact hleft
      | some event =>
        simp only
        split_ifs with hlast
        · -- what is left of the context came after it
          refine hleft.setEvent { hleft.event event with complete := fun _ p hp hctx => ?_ }
          obtain ⟨hpend, hne⟩ := mem_filter.1 hp
          rw [h.linked r hr hsent event hevent hlast] at hctx
          have hle := all_eq_true.1 hfirst p hpend
          simp only [decide_eq_true_eq] at hle hne
          rcases hle with hother | hle
          · exact absurd hctx hother
          · change (d.events event).lastRequest < p.id
            omega
        · exact hleft
    · exact h

theorem Inv.setFlags {flags : Nat} (hkept : SyncMove.Kept d (.setFlags context flags)) :
    Inv (d.cuDevicePrimaryCtxSetFlags context flags) := by
  refine { h with marks := ?_ }
  intro p hp hsent
  refine ⟨?_, (h.marks p hp hsent).2⟩
  by_cases hctx : p.context = context
  · simp only [cuDevicePrimaryCtxSetFlags, hctx, update_self]
    exact hkept p hp hsent hctx
  · simp only [cuDevicePrimaryCtxSetFlags, update_of_ne hctx]
    exact (h.marks p hp hsent).1

theorem Inv.drain (thread : Nat) {target : Nat}
    (hdue : ∀ r ∈ due, d.Awaits (fun p => p.id ≤ target) r) : Inv (d.drain thread target due) := by
  unfold Driven.drain
  split
  · refine { h with calls := ?_ }
    intro t call hcall
    by_cases ht : t = thread
    · subst ht
      simp only [update_self, Option.some.injEq] at hcall
      subst hcall
      exact hdue
    · simp only [update_of_ne ht] at hcall
      exact h.calls hcall
  · exact h

theorem Inv.returnSuccess (hdue : ∀ r ∈ due, IsDone d.finished r) : Inv (d.returnSuccess due) := by
  refine { h with returned := ?_ }
  intro call hcall
  rcases mem_append.1 hcall with hold | hlast
  · exact h.returned call hold
  · cases mem_singleton.1 hlast
    exact hdue

theorem Inv.drained (thread : Nat) : Inv (d.drained thread) := by
  unfold Driven.drained
  cases hcall : d.calls thread with
  | none => exact h
  | some call =>
    simp only
    split_ifs with hnone
    · have hdue : ∀ r ∈ call.due, IsDone d.finished r := by
        refine fun r hr => (h.calls hcall r hr).isDone fun p hp hle => ?_
        have hlt := all_eq_true.1 hnone p hp
        simp only [decide_eq_true_eq] at hlt
        omega
      refine { h.returnSuccess hdue with calls := ?_ }
      intro t c hc
      by_cases ht : t = thread
      · simp [ht] at hc
      · simp only [update_of_ne ht] at hc
        exact h.calls hc
    · exact h

theorem Inv.step (move : SyncMove) (hkept : move.Kept d) : Inv (d.step move) := by
  cases move with
  | assign context stream event readsBack => exact h.assign context stream event readsBack
  | submit => exact h.submit hkept
  | fail id => exact h.fail id
  | finish id succeeds => exact h.finish id succeeds
  | setFlags => exact h.setFlags hkept
  | ctxSynchronize thread => exact h.drain thread fun r hr => h.awaits_onContext hr
  | streamSynchronize thread =>
    exact h.drain thread fun id hid => (h.awaits_onStream hid).imp fun _ _ _ hp => hp.2.2
  | eventSynchronize thread event =>
    simp only [Driven.step, cuEventSynchronize]
    split_ifs with hunrecorded
    · exact h
    · exact h.drain thread fun id hid => (h.recorded event id hid).imp fun _ _ _ hp => hp.2
  | drained thread => exact h.drained thread
  | streamQuery =>
    simp only [Driven.step, cuStreamQuery]
    split_ifs with hany
    · exact h
    · refine h.returnSuccess fun id hid => (h.awaits_onStream hid).isDone fun p hp hsame => ?_
      exact hany (any_eq_true.2 ⟨p, hp, by simpa using ⟨hsame.1, hsame.2.1⟩⟩)
  | eventQuery event =>
    simp only [Driven.step, cuEventQuery]
    split_ifs with hcompl
    · refine h.returnSuccess fun id hid => (h.recorded event id hid).isDone fun p hp hsame => ?_
      have := h.complete event hcompl p hp hsame.1
      omega
    · exact h

end

end Driven

/-! ## 3. Synchronization -/

/-- **Synchronization is complete**, in every run in which no request is submitted while a later one
of its context is pending and no flags are set below a pending one: when a call returns success, the
requests that it was to wait for are finished, and the bytes of copies to the host delivered. -/
theorem synchronize_complete (moves : List SyncMove)
    (hkept : Along Driven.step (fun d move => move.Kept d) {} moves) :
    ∀ call ∈ (run Driven.step {} moves).returned, ∀ r ∈ call.due, Driven.IsDone call.finished r :=
  (run_induction_along (fun _ move h hmove => h.step move hmove) moves
    Driven.Inv.start hkept).returned

/-- A copy to the host is waited for. -/
theorem synchronize_complete_copy :
    let moves : List SyncMove :=
      [.assign 0 .default none true, .submit 1, .ctxSynchronize 7 0, .drained 7, .finish 1 true,
        .drained 7]
    Along Driven.step (fun d move => move.Kept d) {} moves ∧
    (∀ call ∈ (run Driven.step {} moves).returned, ∀ r ∈ call.due,
      Driven.IsDone call.finished r) ∧
    (run Driven.step {} moves).returned =
      [⟨[{ id := 1, context := 0, stream := .default, readsBack := true }],
        [⟨1, true, true, true⟩]⟩] := by
  intro moves
  have hkept : Along Driven.step (fun d move => move.Kept d) {} moves := by
    refine ⟨trivial, ?_, trivial, trivial, trivial, trivial, trivial⟩
    intro r _ p hp hsent
    cases mem_singleton.1 hp
    cases hsent
  exact ⟨hkept, synchronize_complete moves hkept, by decide +kernel⟩

/-- **A call returns early.**  Setting the flags of a primary context sets its mark back, and then
nothing up to the mark is left while a request is pending. -/
theorem synchronize_early :
    let request : Nat → Request := fun id => { id, context := 0, stream := .default }
    (run Driven.step {}
      [.assign 0 .default none false, .submit 1, .setFlags 0 0, .ctxSynchronize 7 0,
        .drained 7]).returned = [⟨[request 1], []⟩] ∧ ¬ Driven.IsDone [] (request 1) ∧
    -- so does a request that waited for room in the ring, if there ever is none: it has an earlier
    -- id
    (run Driven.step {}
      [.assign 0 .default none false, .assign 0 .default none false, .submit 2, .submit 1,
        .finish 1 true, .ctxSynchronize 7 0, .drained 7]).returned =
      [⟨[request 2, request 1], [⟨1, false, true, false⟩]⟩] ∧
    ¬ Driven.IsDone [⟨1, false, true, false⟩] (request 2) ∧
    -- and that on the stream too
    (run Driven.step {}
      [.assign 0 .default none false, .assign 0 .default none false, .submit 2, .submit 1,
        .finish 1 true, .streamSynchronize 7 0 .default, .drained 7]).returned =
      [⟨[request 2, request 1], [⟨1, false, true, false⟩]⟩] := by
  refine ⟨by decide +kernel, ?_, by decide +kernel, ?_, by decide +kernel⟩
  · rintro ⟨f, hf, -⟩
    cases hf
  · rintro ⟨f, hf, hid, -⟩
    cases mem_singleton.1 hf
    cases hid

/-! ## 4. The driver's loop

A call that drains finishes what is ready in the table of pending slots (`processReady`), and each
time round it takes the step `finish`. -/

section Loop

variable {α : Type} [DecidableEq α] {covers : Option Nat → Bool} {slots : List (Slot α)}

/-- The requests that are pending are those in the table that are not completed. -/
structure Driven.Shows (d : Driven) (slots : List (Slot α)) : Prop where
  unique : (slots.map Slot.id).Nodup
  request : ∀ r ∈ d.pending, ∃ s ∈ slots,
    s.id = r.id ∧ s.context = some r.context ∧ s.state ≠ .completed
  slot : ∀ s ∈ slots, s.state ≠ .completed → ∃ r ∈ d.pending,
    r.id = s.id ∧ (s.state = .ready → r.submitted = true)

variable {d : Driven}

theorem Driven.Shows.finish (h : d.Shows slots) {s : Slot α} (hs : nextReady covers slots = some s)
    (succeeds : Bool) :
    (d.finish s.id succeeds).Shows (retire slots s) ∧
      (d.finish s.id succeeds).finished.map Finished.id = d.finished.map Finished.id ++ [s.id] := by
  obtain ⟨hmem, hready, -, hfirst⟩ := nextReady_eq_some hs
  have heq : ∀ {s'}, s' ∈ slots → s'.id = s.id → s' = s := fun hs' hid =>
    inj_on_of_nodup_map h.unique hs' hmem hid
  obtain ⟨r, hr⟩ : ∃ r, d.pending.find? (fun r => r.id = s.id ∧ r.submitted = true) = some r := by
    obtain ⟨r, hr, hid, hsub⟩ := h.slot s hmem (by rw [hready]; nofun)
    exact Option.isSome_iff_exists.1 (find?_isSome.2 ⟨r, hr, by simp [hid, hsub hready]⟩)
  have hrid : r.id = s.id := by
    have hfound := find?_some hr
    simp only [decide_eq_true_eq] at hfound
    exact hfound.1
  -- it is the first of its context in the table, and so among what is pending
  have hall : d.pending.all (fun p => p.context ≠ r.context ∨ r.id ≤ p.id) = true := by
    refine all_eq_true.2 fun p hp => decide_eq_true (or_iff_not_imp_left.2 fun hcontext => ?_)
    obtain ⟨sp, hsp, hid, hctx, -⟩ := h.request p hp
    obtain ⟨sr, hsr, hid', hctx', -⟩ := h.request r (mem_of_find?_eq_some hr)
    cases heq hsr (hid'.trans hrid)
    rw [hrid, ← hid]
    exact (first_eq_some hfirst).2.2 sp hsp (by rw [hctx, hctx', not_not.1 hcontext])
  simp only [Driven.finish, hr, hall, if_true]
  refine ⟨⟨h.unique.sublist (retire_ids slots s), ?_, ?_⟩, by simp⟩
  · intro p hp
    obtain ⟨hold, hne⟩ := mem_filter.1 hp
    obtain ⟨sp, hsp, hid, hrest⟩ := h.request p hold
    refine ⟨sp, mem_retire.2 (.inl ⟨hsp, ?_⟩), hid, hrest⟩
    rintro rfl
    exact of_decide_eq_true hne hid.symm
  · intro s' hs' hstate
    rcases mem_retire.1 hs' with ⟨hold, hne⟩ | ⟨-, -, rfl⟩
    · obtain ⟨p, hp, hid, hrest⟩ := h.slot s' hold hstate
      refine ⟨p, mem_filter.2 ⟨hp, decide_eq_true fun hsame => ?_⟩, hid, hrest⟩
      exact hne (heq hold (hid.symm.trans hsame))
    · exact absurd rfl hstate

/-- **The loop is a run of these steps**, and finishes what it says. -/
theorem Driven.Shows.processReady (succeeds : Nat → Bool) (fuel : Nat) :
    ∀ {d : Driven} {slots : List (Slot α)}, d.Shows slots →
    let next := processReady covers fuel slots
    let d' := run Driven.step d (next.1.map fun s => .finish s.id (succeeds s.id))
    d'.Shows next.2 ∧
      d'.finished.map Finished.id = d.finished.map Finished.id ++ next.1.map Slot.id := by
  induction fuel with
  | zero => exact fun h => ⟨h, by simp [Cuda.processReady, run]⟩
  | succ fuel ih =>
    intro d slots h
    simp only [Cuda.processReady]
    split
    · exact ⟨h, by simp [run]⟩
    next s hs =>
      obtain ⟨hshows, hfinished⟩ := h.finish hs (succeeds s.id)
      obtain ⟨hrest, hids⟩ := ih hshows
      refine ⟨hrest, hids.trans ?_⟩
      rw [hfinished, map_cons, append_assoc, singleton_append]

end Loop

end MetaFlux.Cuda
