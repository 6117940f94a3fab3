/-
# What the cdev worker does to its rings

The worker takes descriptors from one ring and writes completions to another.  What it has done is a
list of events, and the list is no matter of opinion: run on the rings as they were, the events give
the rings as they are (`Replays`).  The TALLY of such a list says that the completions answer the
descriptors that were taken, one by one and in order, and how many are still to be answered.

`Turn` is what any number of the worker's operations amount to: some events, and a tally that goes
on.
-/
import MetaFlux.Transport.Cdev.Records

namespace MetaFlux.Transport

open List

/-! ## 1. Events -/

inductive RingEvent where
  | took (header : Nat) (request : Descriptor)
  | completed (header : Nat) (completion : Descriptor)
deriving DecidableEq, Repr

/-- The event is on the worker's own ring of its kind. -/
def RingEvent.On (view : QueueView) : RingEvent → Prop
  | .took header _ => header = view.submission
  | .completed header _ => header = view.completion

/-- The rings of the first memory, after the events, are those of the second. -/
inductive Replays (memory : Memory) : List RingEvent → Memory → Prop
  | refl : Replays memory [] memory
  | bytes {events : List RingEvent} {memory' memory'' : Memory} (h : Replays memory events memory')
    (hrings : memory''.rings = memory'.rings) : Replays memory events memory''
  | took {events : List RingEvent} {memory' memory'' : Memory} {header : Nat} {request : Descriptor}
    (h : Replays memory events memory')
    (hconsume : consume memory' header = some (request, memory'')) :
    Replays memory (events ++ [.took header request]) memory''
  | completed {events : List RingEvent} {memory' memory'' : Memory} {header : Nat}
    {completion : Descriptor} (h : Replays memory events memory')
    (hproduce : produce memory' header completion = some memory'') :
    Replays memory (events ++ [.completed header completion]) memory''

theorem Replays.trans {memory memory' memory'' : Memory} {events events' : List RingEvent}
    (h : Replays memory events memory') (h' : Replays memory' events' memory'') :
    Replays memory (events ++ events') memory'' := by
  induction h' with
  | refl => simpa using h
  | bytes _ hrings ih => exact ih.bytes hrings
  | took _ hconsume ih =>
    rw [← append_assoc]
    exact ih.took hconsume
  | completed _ hproduce ih =>
    rw [← append_assoc]
    exact ih.completed hproduce

/-- The descriptors that were taken. -/
def taken : List RingEvent → List Descriptor :=
  List.filterMap fun
    | .took _ request => some request
    | .completed _ _ => none

/-- The completions that were written. -/
def answered : List RingEvent → List Descriptor :=
  List.filterMap fun
    | .took _ _ => none
    | .completed _ completion => some completion

section Lists

variable (events : List RingEvent) (header : Nat) (descriptor : Descriptor)

@[simp] theorem taken_took :
    taken (events ++ [.took header descriptor]) = taken events ++ [descriptor] := by
  simp [taken]

@[simp] theorem taken_completed :
    taken (events ++ [.completed header descriptor]) = taken events := by
  simp [taken]

@[simp] theorem answered_took :
    answered (events ++ [.took header descriptor]) = answered events := by
  simp [answered]

@[simp] theorem answered_completed :
    answered (events ++ [.completed header descriptor]) = answered events ++ [descriptor] := by
  simp [answered]

end Lists

/-! ## 2. The tally -/

/-- What a completion repeats of the descriptor it answers. -/
def Descriptor.origin (descriptor : Descriptor) : Nat × Nat :=
  (descriptor.requestId, descriptor.targetId)

/-- Completions answer descriptors in order, under timeline values that count up; and while the
timeline can go on, what has not been answered is what is still at hand. -/
structure Tally (events : List RingEvent) (timeline : Nat) (atHand : Option Descriptor) : Prop where
  origins : (answered events).map (·.origin) <+: (taken events).map (·.origin)
  timelines :
    (answered events).map (getElem ·.arguments 1 word1) = (List.range timeline).map (· + 1)
  complete : timeline ≠ uint64Max →
    (taken events).map (·.origin) = (answered events).map (·.origin) ++
    (atHand.map (·.origin)).toList

namespace Tally

variable {events : List RingEvent} {timeline header : Nat} {request completion : Descriptor}
  {atHand : Option Descriptor}

theorem start : Tally [] 0 none := ⟨prefix_refl _, rfl, fun _ => rfl⟩

theorem took (h : Tally events timeline none) :
    Tally (events ++ [.took header request]) timeline (some request) := by
  constructor
  · simpa using h.origins.trans (prefix_append _ _)
  · simpa using h.timelines
  · intro hmore
    have hdone := h.complete hmore
    simp [hdone]

theorem answer (h : Tally events timeline (some request)) (hmore : timeline ≠ uint64Max)
    (horigin : completion.origin = request.origin)
    (htime : getElem completion.arguments 1 word1 = timeline + 1) :
    Tally (events ++ [.completed header completion]) (timeline + 1) none := by
  have hall : (taken events).map (·.origin) =
      (answered events).map (·.origin) ++ [request.origin] := by
    simpa using h.complete hmore
  constructor
  · simp [hall, horigin]
  · simp [h.timelines, htime, range_succ]
  · intro _
    simp [hall, horigin]

/-- At the end of the timeline nothing is answered any more. -/
theorem drop (h : Tally events timeline atHand) (hmax : timeline = uint64Max) :
    Tally events timeline none :=
  ⟨h.origins, h.timelines, absurd hmax⟩

end Tally

/-! ## 3. Turns -/

/-- Where a worker stands with its rings. -/
structure Place where
  view : QueueView
  timeline : Nat
  atHand : Option Descriptor
  memory : Memory

/-- The events of one turn, and the tally over it. -/
structure Turn (p : Place) (events : List RingEvent) (p' : Place) : Prop where
  view : p'.view = p.view
  own : ∀ event ∈ events, event.On p.view
  replays : Replays p.memory events p'.memory
  tally : ∀ {log : List RingEvent}, Tally log p.timeline p.atHand →
    Tally (log ++ events) p'.timeline p'.atHand

namespace Turn

variable {p p' p'' : Place} {events events' : List RingEvent}

/-- Nothing happened to the rings. -/
theorem still (hview : p'.view = p.view) (hrings : p'.memory.rings = p.memory.rings)
    (htime : p'.timeline = p.timeline) (hatHand : p'.atHand = p.atHand) : Turn p [] p' where
  view := hview
  own := by simp
  replays := Replays.refl.bytes hrings
  tally h := by
    rw [append_nil, htime, hatHand]
    exact h

theorem refl (p : Place) : Turn p [] p := still rfl rfl rfl rfl

theorem trans (u : Turn p events p') (v : Turn p' events' p'') :
    Turn p (events ++ events') p'' where
  view := v.view.trans u.view
  own event hevent := by
    rcases mem_append.1 hevent with hfirst | hsecond
    · exact u.own event hfirst
    · rw [← u.view]
      exact v.own event hsecond
  replays := u.replays.trans v.replays
  tally h := by
    rw [← append_assoc]
    exact v.tally (u.tally h)

end Turn

end MetaFlux.Transport
