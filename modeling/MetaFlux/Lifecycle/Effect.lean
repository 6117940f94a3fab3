/-
# What one call can do to the coordinator, and runs

`Effect` lists everything an executed request can make of the coordinator, each with the guards
under which it happens: `apply_effect` reduces every call to it, whatever the mirrors answered.  The
results on runs are case analyses of `Effect` and use nothing else of the transactions.

A RUN is a list of moves from a fresh coordinator: calls of `apply`, each with the mirrors that are
registered at that time, and drifts of the world the mirrors and the clock live in.
-/
import MetaFlux.Lifecycle.Atomicity

namespace MetaFlux.Lifecycle

open Base

variable {W : Type} {made : List Call} {m : LocalMirrors W} {c : Coordinator W} {request : Request}

/-! ## 1. Effects -/

/-- The operation passes a candidate to the mirrors. -/
def Operation.carries (operation : Operation) : Prop :=
  operation = .add ∨ operation = .reset ∨ operation = .recover
deriving Decidable

/-- The calls tell the mirrors of this request, and of the candidate it was given. -/
def CallsFor (c : Coordinator W) (request : Request) (made : List Call) : Prop :=
  ∀ x ∈ made, x.event.request = request ∧ x.event.candidate = (c.planned request).candidate

inductive Effect (c : Coordinator W) (request : Request) : Coordinator W → List Call → Prop
  | refused : Effect c request c []
  | lost {made : List Call} : request.operation = .transportLoss → c.generation ≠ 0 →
      CallsFor c request made → Effect c request (c.setState .lost) made
  | rolledBack {made : List Call} : request.operation.carries → c.reserveCandidate.isSome →
      CallsFor c request made → Effect c request c.reserved made
  | installed {made : List Call} (state : State) : request.operation = .add → c.generation = 0 →
      c.reserveCandidate.isSome → CallsFor c request made →
      Effect c request (c.reserved.install (c.nextCandidate c.epoch) state) made
  | retired {made : List Call} : request.operation = .remove → c.generation ≠ 0 →
      c.tombstones.Room → CallsFor c request made → Effect c request (c.retire (c.epoch + 1)) made
  | replaced {made : List Call} (state : State) :
      request.operation = .reset ∨ request.operation = .recover → c.generation ≠ 0 →
      c.tombstones.Room → c.reserveCandidate.isSome → CallsFor c request made →
      Effect c request
        (c.reserved.replace (c.epoch + 1) (c.nextCandidate (c.epoch + 1)) state) made

theorem callsFor_of_event (h : ∀ x ∈ made, ∃ stage, x.event = (c.planned request).event stage) :
    CallsFor c request made := by
  intro x hx
  obtain ⟨stage, hevent⟩ := h x hx
  rw [hevent]
  exact ⟨c.planned_request request, rfl⟩

theorem Performed.callsFor {o : Outcome} {result : Result} {asked aborted told : List Call}
    (p : Performed m (c.planned request) o result asked aborted told) :
    CallsFor c request (asked ++ aborted ++ told) := by
  refine callsFor_of_event fun x hx => ?_
  rcases List.mem_append.1 hx with hx | hx
  · rcases List.mem_append.1 hx with hx | hx
    · obtain ⟨stage, -, hevent⟩ := p.askedEvents x hx
      exact ⟨stage, hevent⟩
    · exact ⟨_, p.abortEvents x hx⟩
  · exact ⟨_, p.toldEvents x hx⟩

section

variable (hstart : c.Startable request.operation)
  (hloss : request.operation ≠ .transportLoss)

include hstart hloss

/-- The operation went through, at the state the outcome gives it. -/
theorem Effect.of_advance (hmade : CallsFor c request made) (state : State) :
    Effect c request (c.advance request.operation state (c.prepared request.operation)) made := by
  cases hop : request.operation <;> rw [hop] at hstart hloss
  case add => exact .installed state hop hstart.2.1 hstart.2.2.2 hmade
  case remove => exact .retired hop hstart.2.1 hstart.2.2.1 hmade
  case reset => exact .replaced state (.inl hop) hstart.2.1 hstart.2.2.1 hstart.2.2.2.2 hmade
  case recover => exact .replaced state (.inr hop) hstart.2.1 hstart.2.2.1 hstart.2.2.2.2 hmade
  case transportLoss => exact absurd rfl hloss
  case outOfRange => exact absurd hstart id

theorem Effect.of_rollback
    (hrem : request.operation ≠ .remove) (hmade : CallsFor c request made) :
    Effect c request (c.prepared request.operation) made := by
  cases hop : request.operation <;> rw [hop] at hstart hloss hrem
  case add => exact .rolledBack (.inl hop) hstart.2.2.2 hmade
  case remove => exact absurd rfl hrem
  case reset => exact .rolledBack (.inr (.inl hop)) hstart.2.2.2.2 hmade
  case recover => exact .rolledBack (.inr (.inr hop)) hstart.2.2.2.2 hmade
  case transportLoss => exact absurd rfl hloss
  case outOfRange => exact absurd hstart id

theorem Settled.effect {calls : List Call} {answer : ResultDetails × Host W}
    (hsettled : Settled m c request calls answer) :
    ∃ d made, Effect c request d made ∧ answer.2.coordinator = d ∧
      answer.2.calls = calls ++ made := by
  obtain ⟨o, asked, aborted, told, p, hcoord, hcalls⟩ := hsettled
  refine ⟨_, _, ?_, hcoord, hcalls⟩
  cases o with
  | accepted => exact .of_advance hstart hloss p.callsFor .online
  | rolledBack =>
    have hrem := p.notRemove (.inl rfl)
    rw [c.planned_request] at hrem
    exact .of_rollback hstart hloss hrem p.callsFor
  | lost | removed => exact .of_advance hstart hloss p.callsFor .lost

end

/-- What `dispatch` can do, for local mirrors. -/
theorem dispatch_effect (m : LocalMirrors W) (request : Request) (h : Host W) :
    ∃ d made, Effect h.coordinator request d made ∧
      (dispatch m.mirrors request h).2.coordinator = d ∧
      (dispatch m.mirrors request h).2.calls = h.calls ++ made := by
  by_cases hstart : h.coordinator.Startable request.operation
  · by_cases hloss : request.operation = .transportLoss
    · obtain ⟨told, hquiet, hevents, -⟩ := publishLost_local m (h.coordinator.planned request)
        (h.update (·.setState .lost))
      rw [dispatch_of_loss m.mirrors hstart hloss]
      rw [hloss] at hstart
      exact ⟨_, told, .lost hloss hstart.2.1 (callsFor_of_event fun x hx => ⟨_, hevents x hx⟩),
        hquiet.coordinator, hquiet.calls⟩
    · exact (dispatch_outcome m hstart hloss).effect hstart hloss
  · obtain ⟨-, hhost⟩ := dispatch_of_not_startable m.mirrors hstart
    rw [hhost]
    exact ⟨_, [], .refused, rfl, (List.append_nil _).symm⟩

/-- **What a call can do**: nothing but read the clock, or an effect that is then recorded. -/
theorem apply_effect (m : LocalMirrors W) (request : Request) (h : Host W) :
    (∃ world, (apply m.mirrors request h).2 = { h with world }) ∨
    (h.coordinator.Passes request ∧ ∃ d made, Effect h.coordinator request d made ∧
      (apply m.mirrors request h).2.coordinator =
        d.rememberRequest request (apply m.mirrors request h).1 ∧
      (apply m.mirrors request h).2.calls = h.calls ++ made) := by
  obtain ⟨world, -, ⟨answer, hscreen, -⟩ | ⟨hpass, hscreen⟩⟩ := screen_cases request h
  · rw [apply_of_error m.mirrors hscreen]
    exact .inl ⟨world, rfl⟩
  · obtain ⟨d, made, heffect, hcoord, hcalls⟩ := dispatch_effect m request { h with world }
    rw [apply_of_ok m.mirrors hscreen]
    exact .inr ⟨hpass, d, made, heffect,
      congrArg (Coordinator.rememberRequest · request _) hcoord, hcalls⟩

/-! ## 2. Runs -/

inductive Move (W : Type) where
  | apply (mirrors : LocalMirrors W) (request : Request)
  | drift (f : W → W)

def turn (h : Host W) : Move W → Host W
  | .apply m request => (apply m.mirrors request h).2
  | .drift f => { h with world := f h.world }

def Host.start (config : Config W) (world : W) : Host W := { coordinator := .init config, world }

/-- A move, as the coordinator and the log see it. -/
theorem turn_cases (h : Host W) (move : Move W) :
    ((turn h move).coordinator = h.coordinator ∧ (turn h move).calls = h.calls) ∨
    (∃ request d made details, h.coordinator.Passes request ∧
      Effect h.coordinator request d made ∧
      (turn h move).coordinator = d.rememberRequest request details ∧
      (turn h move).calls = h.calls ++ made) := by
  cases move with
  | drift => exact .inl ⟨rfl, rfl⟩
  | apply m request =>
    rcases apply_effect m request h with ⟨world, hhost⟩ | ⟨hpass, d, made, heffect, hc, hcalls⟩
    · simp only [turn, hhost]
      exact .inl ⟨trivial, trivial⟩
    · exact .inr ⟨request, d, made, _, hpass, heffect, hc, hcalls⟩

end MetaFlux.Lifecycle
