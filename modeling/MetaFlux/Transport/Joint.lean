/-
# Two transports under one coordinator

A memfd worker and a cdev worker, registered with one coordinator in either order, and everything
that can happen to the three: requests to the coordinator, work on either transport, new bindings,
and whatever the clients write.  The cdev worker calls the coordinator back from inside a callback;
the call it makes is a `TransportLoss`, which asks the mirrors nothing (`apply_loss_mirrors`), so
that one level of it is all there is.
-/
import MetaFlux.Transport.Cdev.Steps
import MetaFlux.Transport.MemfdAgreement

namespace MetaFlux.Transport

open MetaFlux.Lifecycle Base

/-! ## 1. The system -/

abbrev Transports : Type := MemfdWorker × CdevSite

def readClock (world : Transports) : Nat × Transports :=
  (world.2.readClock.1, (world.1, world.2.readClock.2))

/-- The order of registration, and a configuration whose clock, if it has one, is the world's. -/
structure JointRig where
  cdevFirst : Bool
  config : Config Transports
  clock : config.clock = none ∨ config.clock = some readClock

namespace JointRig

theorem clock_eq (rig : JointRig) {clock : Transports → Nat × Transports}
    (h : rig.config.clock = some clock) : clock = readClock := by
  rcases rig.clock with hnone | hsome
  · rw [hnone] at h
    cases h
  · exact (Option.some.inj (hsome.symm.trans h)).symm

/-- The mirrors, given what a call back into the coordinator does. -/
def mirrorsWith (rig : JointRig)
    (apply : Request → Host Transports → ResultDetails × Host Transports) :
    List (Mirror Transports) :=
  if rig.cdevFirst then [CdevWorker.lifecycleMirror apply, MemfdWorker.lifecycleMirror]
  else [MemfdWorker.lifecycleMirror, CdevWorker.lifecycleMirror apply]

/-- The mirrors as a call from inside a callback finds them. -/
def lossMirrors (rig : JointRig) : List (Mirror Transports) := rig.mirrorsWith fun _ h => ({}, h)

def mirrors (rig : JointRig) : List (Mirror Transports) :=
  rig.mirrorsWith (Lifecycle.apply rig.lossMirrors)

end JointRig

/-- What may happen between two states of the system.  A move that calls out brings the script of
what it is answered. -/
inductive JointMove where
  | apply (request : Request) (script : Script)
  | submit (requestGeneration : Nat)
  | completeOne
  | consumeOnce (script : Script)
  | bindBackend (backend : BackendBinding)
  | write (memory : Memory)

/-- The script is laid out. -/
def layOut (script : Script) (h : Host Transports) : Host Transports :=
  { h with world := (h.world.1, { h.world.2 with script, lossAnswered := false }) }

def JointRig.turn (rig : JointRig) (h : Host Transports) : JointMove → Host Transports
  | .apply request script => (Lifecycle.apply rig.mirrors request (layOut script h)).2
  | .submit requestGeneration =>
    { h with world := ((h.world.1.submit requestGeneration).2, h.world.2) }
  | .completeOne => { h with world := (h.world.1.completeOne.2, h.world.2) }
  | .consumeOnce script =>
    ((CdevWorker.consumeOnce (Lifecycle.apply rig.mirrors)).run (layOut script h)).2
  | .bindBackend backend => ((CdevWorker.onSite (CdevWorker.bindBackend backend)).run h).2
  | .write memory => { h with world := (h.world.1, { h.world.2 with memory }) }

/-- Both workers as they are when they are attached, the cdev worker with a view and a binding. -/
def JointRig.start (rig : JointRig) (view : QueueView) (backend : BackendBinding)
    (memory : Memory) : Host Transports :=
  let c : Coordinator Transports := .init rig.config
  { coordinator := c
    world :=
      (.start c.identityRecordId c.generation c.epoch,
        { worker := CdevWorker.attachLifecycle c.snapshot { view, backend }, memory }) }

/-- No transport takes work for a generation that is not online. -/
structure NoStaleWork (h : Host Transports) : Prop where
  memfd : ∀ generation, (h.world.1.submit generation).1 = .accepted →
    h.coordinator.resolve generation = .online
  cdev : h.world.2.worker.online = true →
    h.coordinator.resolve h.world.2.worker.view.generation = .online

/-- A reset is not answered with a loss by anything the cdev worker calls in the course of it. -/
def JointMove.Quiet : JointMove → Prop
  | .apply request script => request.operation = .reset → script.Quiet
  | _ => True

/-! ## 2. At rest -/

/-- What holds between two moves.  A transport that is online is so under an online coordinator, and
at its generation. -/
structure Settled (rig : JointRig) (h : Host Transports) : Prop where
  config : h.coordinator.config = rig.config
  idle : h.world.1.transactionActive = false
  memfd : h.world.1.online = true →
    h.coordinator.state = .online ∧ h.world.1.generation = h.coordinator.generation
  cdev : h.world.2.worker.online = true → h.coordinator.state = .online
  live : h.coordinator.state = .online →
    h.coordinator.generation ≠ 0 ∧
      h.world.2.worker.view.generation = h.coordinator.generation ∧
      h.world.2.worker.forced = false

/-- Under a coordinator that is not online the cdev worker is offline, and has no loss to report. -/
theorem Settled.calm {rig : JointRig} {h : Host Transports} (s : Settled rig h)
    (hstate : h.coordinator.state ≠ .online) : CdevWorker.Calm h.world.2 :=
  .inl (Bool.eq_false_iff.2 fun honline => hstate (s.cdev honline))

theorem resolve_of_online {c : Coordinator Transports} (hstate : c.state = .online)
    (hgen : c.generation ≠ 0) : c.resolve c.generation = .online := by
  rw [Coordinator.resolve, if_neg hgen, if_pos rfl, if_pos hstate]

theorem submit_accepted {w : MemfdWorker} {generation : Nat}
    (h : (w.submit generation).1 = .accepted) : w.online = true ∧ generation = w.generation := by
  unfold MemfdWorker.submit at h
  split_ifs at h with honline hgen
  exact ⟨by simpa using honline, not_not.1 hgen⟩

theorem Settled.noStaleWork {rig : JointRig} {h : Host Transports} (s : Settled rig h) :
    NoStaleWork h := by
  constructor
  · intro generation haccepted
    obtain ⟨honline, rfl⟩ := submit_accepted haccepted
    obtain ⟨hstate, hgen⟩ := s.memfd honline
    rw [hgen]
    exact resolve_of_online hstate (s.live hstate).1
  · intro honline
    have hstate := s.cdev honline
    obtain ⟨hgen, hview, -⟩ := s.live hstate
    rw [hview]
    exact resolve_of_online hstate hgen

end MetaFlux.Transport
