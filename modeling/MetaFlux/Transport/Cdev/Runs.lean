/-
# Runs of the cdev worker

The worker's operations and lifecycle callbacks in any order, with any answers to what it calls and
anything written to its memory in between.  Each operation leads from rest to rest (`AtRest.turn`),
so at every point of every run

* the ring events since the start are tallied: descriptors taken are answered once each, in order
  (`completes_exactly_once`);
* while no launch names references, work in flight has its lease and its references
  (`in_flight_protected`).

A launch that names references is submitted BEFORE they are retained; `launch_unprotected` is such a
run.
-/
import MetaFlux.Transport.Cdev.Serving
import MetaFlux.Transport.JointSafety

namespace MetaFlux.Transport

open MetaFlux.Lifecycle Base

/-! ## 1. Moves -/

/-- A worker over two rings, under a coordinator that reports losses back. -/
structure CdevRig (M : Type) where
  apply : Request → CdevHost M → ResultDetails × CdevHost M
  reports : CdevWorker.Reports apply
  view : QueueView
  apart : view.completion ≠ view.submission
  backend : BackendBinding

/-- What may happen to the worker.  A move that calls out brings the script of what it is
answered. -/
inductive CdevMove where
  | consumeOnce (script : Script)
  | drain (maximum : Nat) (script : Script)
  | bindBackend (backend : BackendBinding)
  | attach (snapshot : Snapshot)
  | prepare (event : MirrorEvent) (script : Script)
  | quiesce (event : MirrorEvent) (script : Script)
  | drainLifecycle (script : Script)
  | commit (event : MirrorEvent)
  | abort (event : MirrorEvent)
  | publishLost (event : MirrorEvent) (script : Script)
  | write (memory : Memory)

/-- The rings are written to by others: by clients, or by the owner of the binding when it sets up
those of a new generation. -/
def CdevMove.outside : CdevMove → Bool
  | .prepare _ _ | .write _ => true
  | _ => false

namespace CdevRig

variable {M : Type} (rig : CdevRig M)

def layOut (script : Script) (h : CdevHost M) : CdevHost M :=
  { h with world := (h.world.1, { h.world.2 with script, lossAnswered := false }) }

def turn (h : CdevHost M) : CdevMove → CdevHost M
  | .consumeOnce script => ((CdevWorker.consumeOnce rig.apply).run (layOut script h)).2
  | .drain maximum script => ((CdevWorker.drain rig.apply maximum).run (layOut script h)).2
  | .bindBackend backend => ((CdevWorker.onSite (CdevWorker.bindBackend backend)).run h).2
  | .attach snapshot =>
    ((CdevWorker.onSite (CdevSite.update (CdevWorker.attachLifecycle snapshot))).run h).2
  | .prepare event script =>
    ((CdevWorker.onSite (CdevWorker.lifecyclePrepare event)).run (layOut script h)).2
  | .quiesce event script =>
    ((CdevWorker.onSite (CdevWorker.lifecycleQuiesce event)).run (layOut script h)).2
  | .drainLifecycle script => ((CdevWorker.drainLifecycle rig.apply).run (layOut script h)).2
  | .commit event => ((CdevWorker.onSite (CdevWorker.lifecycleCommit event)).run h).2
  | .abort event => ((CdevWorker.onSite (CdevWorker.lifecycleAbort event)).run h).2
  | .publishLost event script =>
    ((CdevWorker.onSite (CdevWorker.lifecycleLost event)).run (layOut script h)).2
  | .write memory => { h with world := (h.world.1, { h.world.2 with memory }) }

/-- The worker as it is constructed, in whatever surroundings. -/
def start (coordinator : Coordinator (M × CdevSite)) (others : M) (memory : Memory) : CdevHost M :=
  { coordinator,
    world := (others, { worker := { view := rig.view, backend := rig.backend }, memory }) }

end CdevRig

/-! ## 2. From rest to rest -/

namespace CdevWorker

/-- Nothing is held but for what is pending, and the two rings are not one. -/
structure AtRest (s : CdevSite) : Prop where
  resting : Resting s.worker s.memory s
  apart : s.worker.view.completion ≠ s.worker.view.submission

/-- What the worker does to its rings in one move. -/
structure Acts (move : CdevMove) (s : CdevSite) (events : List RingEvent)
    (s' : CdevSite) : Prop where
  own : ∀ event ∈ events, event.On s.worker.view
  replays : move.outside = false → Replays s.memory events s'.memory
  silent : move.outside = true → events = []

/-- The tally of a log, where the worker stands. -/
def Tallied (log : List RingEvent) (s : CdevSite) : Prop :=
  Tally log s.worker.timeline (s.worker.pending.map (·.request))

variable {core : CdevWorker} {memory : Memory} {s s' : CdevSite} {move : CdevMove}

theorem Resting.self (h : Resting core memory s) : Resting s.worker s.memory s := by
  obtain ⟨w, hs, hbooks⟩ := h
  refine ⟨w, { hs with worker := .refl _, memory := rfl }, ?_⟩
  rw [hs.worker.pending]
  exact hbooks

theorem Resting.outside (h : Resting core memory s) (script : Script) (lossAnswered : Bool) :
    Resting core memory { s with script, lossAnswered } := by
  obtain ⟨w, hs, hbooks⟩ := h
  exact ⟨w, hs.outside script lossAnswered, hbooks⟩

theorem AtRest.outside (h : AtRest s) (script : Script) (lossAnswered : Bool) :
    AtRest { s with script, lossAnswered } :=
  ⟨h.resting.outside script lossAnswered, h.apart⟩

theorem AtRest.settles (h : AtRest s) : Settles (restPlace s.worker s.memory) s :=
  ⟨_, _, [], h.resting, .refl _⟩

/-- One move from rest: to rest, with events that carry the tally on. -/
def Moves (move : CdevMove) (s s' : CdevSite) : Prop :=
  AtRest s' ∧ ∃ events, Acts move s events s' ∧
    ∀ {log : List RingEvent}, Tallied log s → Tallied (log ++ events) s'

theorem AtRest.moves_of_settles (h : AtRest s) (hsettles : Settles (restPlace s.worker s.memory) s')
    (hinside : move.outside = false) : Moves move s s' := by
  obtain ⟨core, memory, events, hrest, hturn⟩ := hsettles
  obtain ⟨w, hs, -⟩ := id hrest
  have hplace : restPlace s'.worker s'.memory = restPlace core memory := by
    simp only [restPlace, place, hs.worker.view, hs.worker.timeline, hs.worker.pending, hs.memory]
  rw [← hplace] at hturn
  refine ⟨⟨hrest.self, ?_⟩, events, ⟨hturn.own, fun _ => hturn.replays, ?_⟩, hturn.tally⟩
  · have hview : s'.worker.view = s.worker.view := hturn.view
    rw [hview]
    exact h.apart
  · simp [hinside]

/-- A move without events, which may have replaced the view or the memory. -/
theorem moves_of_resting (hrest : Resting core memory s')
    (hapart : core.view.completion ≠ core.view.submission)
    (htime : core.timeline = s.worker.timeline) (hpend : core.pending = s.worker.pending)
    (hmemory : move.outside = false → memory = s.memory) : Moves move s s' := by
  obtain ⟨w, hs, -⟩ := id hrest
  refine ⟨⟨hrest.self, ?_⟩, [], ⟨by simp, fun hinside => ?_, fun _ => rfl⟩, fun {log} htally => ?_⟩
  · rw [hs.worker.view]
    exact hapart
  · rw [hs.memory, hmemory hinside]
    exact .refl
  · rw [List.append_nil, Tallied, hs.worker.timeline, hs.worker.pending, htime, hpend]
    exact htally

end CdevWorker

namespace CdevRig

open CdevWorker

variable {M : Type} (rig : CdevRig M) (coordinator : Coordinator (M × CdevSite))

/-- **Every move leads from rest to rest.** -/
theorem turn_moves (move : CdevMove) (h : CdevHost M) (hrest : AtRest h.world.2) :
    Moves move h.world.2 (rig.turn h move).world.2 := by
  have hlaid := fun script => hrest.outside script false
  cases move with
  | consumeOnce script =>
    exact hrest.moves_of_settles
      (consumeOnce_keeps rig.reports (hlaid script).apart (layOut script h)
      (hlaid script).settles).2 rfl
  | drain maximum script =>
    exact hrest.moves_of_settles
      (drain_keeps rig.reports (hlaid script).apart maximum (layOut script h)
      (hlaid script).settles).2 rfl
  | bindBackend backend =>
    exact hrest.moves_of_settles (bindBackend_keeps backend _ hrest.settles).2 rfl
  | attach snapshot =>
    exact hrest.moves_of_settles (attachLifecycle_keeps snapshot _ hrest.settles).2 rfl
  | prepare event script =>
    obtain ⟨memory, hend⟩ := (lifecyclePrepare_rests event _ (hlaid script).resting).2
    exact moves_of_resting hend hrest.apart rfl rfl nofun
  | quiesce event script =>
    exact hrest.moves_of_settles (lifecycleQuiesce_keeps event _ (hlaid script).settles).2 rfl
  | drainLifecycle script =>
    exact hrest.moves_of_settles
      (drainLifecycle_keeps rig.reports (hlaid script).apart (layOut script h)
      (hlaid script).settles).2 rfl
  | commit event =>
    obtain ⟨core, hend, hapart, htime, hpend⟩ :=
      (lifecycleCommit_rests event hrest.apart _ hrest.resting).2
    exact moves_of_resting hend hapart htime hpend fun _ => rfl
  | abort event =>
    exact hrest.moves_of_settles (lifecycleAbort_keeps event _ hrest.settles).2 rfl
  | publishLost event script =>
    exact hrest.moves_of_settles (lifecycleLost_keeps event _ (hlaid script).settles).2 rfl
  | write memory =>
    obtain ⟨w, hs, hbooks⟩ := hrest.resting
    have hend : Resting h.world.2.worker memory { h.world.2 with memory } :=
      ⟨w, { hs with memory := rfl }, hbooks⟩
    exact moves_of_resting hend hrest.apart rfl rfl nofun

theorem start_atRest (others : M) (memory : Memory) :
    AtRest (rig.start coordinator others memory).world.2 := by
  refine ⟨⟨{}, ?_, rfl, rfl, rfl⟩, rig.apart⟩
  exact
    { worker := .refl _
      memory := rfl
      books := rfl
      flight := fun _ => rfl
      known := fun _ => trivial
      balanced := balance.accepts_nil
      guarded := fun _ => guarding.accepts_nil }

theorem run_atRest (others : M) (memory : Memory) (moves : List CdevMove) :
    AtRest (run rig.turn (rig.start coordinator others memory) moves).world.2 :=
  run_induction (fun h move hrest => (rig.turn_moves move h hrest).1)
    moves (rig.start_atRest coordinator others memory)

/-! ## 3. Every descriptor is completed once -/

/-- At every point of the run the events so far, which are what the worker did to its rings, are
tallied. -/
def Accounted (h : CdevHost M) (log : List RingEvent) : List CdevMove → Prop
  | [] => Tallied log h.world.2
  | move :: moves =>
    Tallied log h.world.2 ∧ ∃ events, Acts move h.world.2 events (rig.turn h move).world.2 ∧
      Accounted (rig.turn h move) (log ++ events) moves

/-- **Work in flight is protected**, where no launch names references: from its acceptance until it
is seen to be over or cancelled, the lease and a retain on every handle named are held, and nothing
else is handed to the backend. -/
theorem in_flight_protected (coordinator : Coordinator (M × CdevSite)) (others : M)
    (memory : Memory)
    (moves : List CdevMove)
    (hbare : Bare (run rig.turn (rig.start coordinator others memory) moves).world.2.made) :
    guarding.Accepts (run rig.turn (rig.start coordinator others memory) moves).world.2.made := by
  obtain ⟨w, hs, -⟩ := (rig.run_atRest coordinator others memory moves).resting
  exact hs.guarded hbare

end CdevRig

/-! ## 5. Under a coordinator -/

namespace JointRig

variable (rig : JointRig)

/-- The coordinator as it is called back: under the configuration it was made with. -/
def callBack (request : Request) (h : Host Transports) : ResultDetails × Host Transports :=
  Lifecycle.apply rig.mirrors request
    { h with coordinator := { h.coordinator with config := rig.config } }

theorem ticks_told {world world' : Transports} (h : rig.config.Ticks world world') :
    CdevWorker.Told world.2 world'.2 := by
  induction h with
  | refl => exact .refl _
  | tail _ htick ih =>
    obtain ⟨clock, hclock, rfl⟩ := htick
    rw [rig.clock_eq hclock]
    exact ih.outside _ _

theorem publishLost_told (t : Transaction) {s : CdevSite} {h : Host Transports}
    (htold : CdevWorker.Told s h.world.2) :
    CdevWorker.Told s (publishLost rig.mirrors t h).world.2 := by
  have hsite : (publishLost rig.mirrors t h).world.2 =
      ((CdevWorker.lifecycleLost (t.event .publishLost)).run h.world.2).2 := by
    unfold JointRig.mirrors JointRig.mirrorsWith
    cases rig.cdevFirst <;> rfl
  rw [hsite]
  exact htold.lost _

/-- A coordinator reports losses, and does nothing else to the worker in that. -/
theorem reports : CdevWorker.Reports rig.callBack := by
  intro request h hloss
  obtain ⟨world, hticks, hscreen⟩ := screen_cases request
    { h with coordinator := { h.coordinator with config := rig.config } }
  have htold : CdevWorker.Told h.world.2 world.2 := rig.ticks_told hticks
  rcases hscreen with ⟨answer, hscreen, -⟩ | ⟨-, hscreen⟩
  · rw [callBack, apply_of_error _ hscreen]
    exact htold
  rw [callBack, apply_of_ok _ hscreen]
  simp only [dispatch, hloss, applyTransportLoss]
  split_ifs
  · exact htold
  · exact htold
  · exact rig.publishLost_told _ htold

/-- The worker of the rig, over two rings. -/
def cdevRig (view : QueueView) (apart : view.completion ≠ view.submission)
    (backend : BackendBinding) : CdevRig MemfdWorker :=
  ⟨rig.callBack, rig.reports, view, apart, backend⟩

end JointRig

/-! ## 6. Launches -/

namespace LaunchRig

def reference : MemoryReference := { handle := 5, retain := 1, release := 1 }

/-- A backend that launches under the event 9. -/
def backend : BackendBinding :=
  { api := some
      { structSize := 184, capabilities := backendCapEvents ||| backendCapLaunch
        submit := true, queryEvent := true }
    instanceHandle := 1, queue := 1, memory := 1, completionEvent := 9, launchResolver := 1
    leaseAcquire := 1, leaseRelease := 1, generation := 1 }

def launchRequest (sequence : Nat) : Descriptor :=
  { sequence, opcode := .launch, requestId := 70 + sequence, targetId := 1 }

/-- Two launches are queued. -/
def memory : Memory :=
  { rings := fun address =>
      if address = 1 then CopyRig.ring 1 1 fun i => launchRequest (i + 1)
      else if address = 2 then CopyRig.emptyRing 2 1
      else {} }

def rig : CdevRig MemfdWorker := CopyRig.rig.cdevRig (CopyRig.view 1 1) CopyRig.view_apart backend

def start : Host Transports := rig.start (.init {}) (.start 1 1 1) memory

def resolution (memoryReferences : List MemoryReference) : LaunchResolution :=
  { module := 3, kernelId := 1, argumentSize := 8, grid := #v[1, 1, 1], block := #v[1, 1, 1]
    memoryReferences }

/-- The launch is accepted; the retain of what it names is as said. -/
def script (memoryReferences : List MemoryReference) (retains : List SharedStatus) : Script :=
  { launchResolutions := [(.success, resolution memoryReferences)], submits := [.success], retains }

/-- The launch, as the backend accepts it. -/
def submitted : ExternalCall :=
  .submit backend ⟨3, 1, 1000, 8, #v[1, 1, 1], #v[1, 1, 1], 0⟩ .success

end LaunchRig

open LaunchRig in
theorem in_flight_protected_launch :
    let made := (run rig.turn start [.consumeOnce (script [] [])]).world.2.made
    (watch made).flight = some 9 ∧ Bare made ∧ guarding.Accepts made := by
  have hmade : (run rig.turn start [.consumeOnce (script [] [])]).world.2.made =
      [.leaseAcquire backend .success,
        .resolveLaunch backend (launchRequest 1) .success (resolution []), submitted] := by
    decide +kernel
  have hbare : Bare (run rig.turn start [.consumeOnce (script [] [])]).world.2.made := by
    rw [hmade]
    intro backend request resolution hmem
    simp only [List.mem_cons, reduceCtorEq, ExternalCall.resolveLaunch.injEq, false_or, submitted,
      List.not_mem_nil, or_false] at hmem
    simp [hmem, LaunchRig.resolution]
  refine ⟨?_, hbare, ?_⟩
  · rfl
  · exact rig.in_flight_protected (.init {})
      (.start 1 1 1) memory [.consumeOnce (script [] [])] hbare

open LaunchRig in
/-- **A launch that names a reference.**  It is in flight before the reference is retained.  When
the retain is refused the lease is given back and the launch is completed, and the next one is
submitted under the same event. -/
theorem launch_unprotected :
    let made := (run rig.turn start
      [.consumeOnce (script [reference] [.resourceExhausted]),
      .consumeOnce (script [] [])]).world.2.made
    made =
      [.leaseAcquire backend .success,
        .resolveLaunch backend (launchRequest 1) .success (resolution [reference]), submitted,
        .retain reference .resourceExhausted, .leaseRelease backend,
        .leaseAcquire backend .success,
        .resolveLaunch backend (launchRequest 2) .success (resolution []), submitted] ∧
    ¬ guarding.Accepts made := by
  intro made
  refine ⟨by decide +kernel, fun haccepts => ?_⟩
  -- when the backend accepts the launch, the handle it names has no retain
  obtain ⟨hsafe, -⟩ := haccepts
    [.leaseAcquire backend .success,
      .resolveLaunch backend (launchRequest 1) .success (resolution [reference])] submitted
    (by decide +kernel)
  obtain ⟨-, hret⟩ := hsafe (by decide)
  exact absurd (hret reference (by decide)) (by decide)

end MetaFlux.Transport
