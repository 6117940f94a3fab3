/-
# No transport takes work for a generation that is not online

A transaction settles the coordinator and the two workers together: at the candidate, where they
were, or offline.  That is `Settled`, and it is kept by every call of the coordinator
(`apply_settled`) and by every move of the system (`turn_settled`), with one exception.

The exception is a RESET in the course of which the cdev worker reports a loss.  The loss takes the
coordinator out of `online` in the middle of the transaction; the transaction then fails, and the
abort puts the workers back online, since that is what they were before.  In a removal the same
report does no harm, as a removal that fails takes the workers offline after the abort; in an
addition or a recovery the cdev worker is offline and reports nothing.  `joint_safety` excludes the
exception and `reset_loss_splits` exhibits it.
-/
import MetaFlux.Transport.JointParticipants

namespace MetaFlux.Transport

open MetaFlux.Lifecycle Base

/-! ## 1. One call of `apply` -/

section Calls

variable {rig : JointRig} {h : Host Transports} {c : Coordinator Transports} (t : Transaction)

/-- Both workers are told of a loss, and nobody calls back. -/
theorem publishLost_offline (rig : JointRig) (t : Transaction) (h : Host Transports) :
    (publishLost rig.mirrors t h).coordinator = h.coordinator ∧
    (publishLost rig.mirrors t h).world.1.transactionActive = h.world.1.transactionActive ∧
    (publishLost rig.mirrors t h).world.1.online = false ∧
    (publishLost rig.mirrors t h).world.2.worker.online = false := by
  have htold : ∃ calls, publishLost rig.mirrors t h =
      { coordinator := h.coordinator
        world := (h.world.1.lifecycleLost (t.event .publishLost),
          ((CdevWorker.lifecycleLost (t.event .publishLost)).run h.world.2).2)
        calls } := by
    unfold JointRig.mirrors JointRig.mirrorsWith
    cases rig.cdevFirst <;> exact ⟨_, rfl⟩
  obtain ⟨calls, htold⟩ := htold
  rw [htold]
  exact ⟨rfl, rfl, rfl, CdevWorker.lifecycleLost_offline h.world.2 (t.event .publishLost)⟩

/-- Nobody is online. -/
theorem Settled.offline (hconfig : h.coordinator.config = rig.config)
    (hidle : h.world.1.transactionActive = false) (hmemfd : h.world.1.online = false)
    (hcdev : h.world.2.worker.online = false) (hstate : h.coordinator.state ≠ .online) :
    Settled rig h :=
  ⟨hconfig, hidle, fun honline => absurd honline (by simp [hmemfd]),
    fun honline => absurd honline (by simp [hcdev]), fun h => absurd h hstate⟩

/-- The workers are told of a loss, and the coordinator is not online. -/
theorem Settled.told (hidle : h.world.1.transactionActive = false)
    (hconfig : c.config = rig.config) (hstate : c.state ≠ .online) :
    Settled rig { publishLost rig.mirrors t h with coordinator := c } := by
  obtain ⟨-, hact, hmemfd, hcdev⟩ := publishLost_offline rig t h
  exact .offline hconfig (hact.trans hidle) hmemfd hcdev hstate

theorem Settled.then_told (hidle : h.world.1.transactionActive = false)
    (hconfig : h.coordinator.config = rig.config) (hstate : h.coordinator.state ≠ .online) :
    Settled rig (publishLost rig.mirrors t h) := by
  have hcoord := (publishLost_offline rig t h).1
  rw [← hcoord] at hconfig hstate
  exact .told t hidle hconfig hstate

theorem Settled.within (s : Settled rig h) {site : CdevSite} (u : Within h.world.2 site) :
    Settled rig { h with world := (h.world.1, site) } := by
  refine ⟨s.config, s.idle, s.memfd, fun honline => s.cdev (u.online ▸ honline), fun hstate => ?_⟩
  obtain ⟨hgen, hview, hforced⟩ := s.live hstate
  exact ⟨hgen, (congrArg QueueView.generation u.view).trans hview, u.unforced hforced⟩

/-- The state an operation leaves when it is settled forward. -/
theorem advance_frame (c d : Coordinator Transports) (operation : Operation) (state : State) :
    (c.advance operation state d).config = d.config ∧
    (c.advance operation state d).state = if operation = .remove then .absent else state := by
  cases operation <;> exact ⟨rfl, rfl⟩

/-- An operation that is forced forward does not leave the coordinator online. -/
theorem advance_lost (c d : Coordinator Transports) (operation : Operation) :
    (c.advance operation .lost d).state ≠ .online := by
  rw [(advance_frame c d operation .lost).2]
  split <;> decide

theorem planned_candidate_ne_zero {request : Request}
    (hstart : c.Startable request.operation) (hloss : request.operation ≠ .transportLoss)
    (hrem : request.operation ≠ .remove) : (c.planned request).candidate.generation ≠ 0 := by
  unfold Coordinator.planned
  cases hop : request.operation <;> rw [hop] at hstart hloss hrem
  case add | reset | recover => exact Nat.succ_ne_zero _
  case remove => exact absurd rfl hrem
  case transportLoss => exact absurd rfl hloss
  case outOfRange => exact absurd hstart id

theorem planned_fields (c : Coordinator Transports) (request : Request) :
    (c.planned request).request = request ∧ (c.planned request).oldState = c.state := by
  unfold Coordinator.planned
  split <;> exact ⟨rfl, rfl⟩

section Settle

variable {request : Request} {h₀ : Host Transports}

/-- Both workers are in phase `p` of the transaction. -/
structure Stand (rig : JointRig) (t₀ : Transaction) (h₀ : Host Transports) (p : Phase)
    (h : Host Transports) : Prop where
  course : rig.Course t₀ h₀ h
  memfd : h.world.1.Standing t₀ h₀.world.1 p
  cdev : h.world.2.Standing t₀ h₀.world.2 p

variable (rig) in
/-- The two workers end their transaction together, or the commit is torn between them. -/
theorem transact_stand {t₀ : Transaction} (hnew : t₀.committedMask = 0) (hhushed : rig.Hushed t₀ h₀)
    (hstand : Stand rig t₀ h₀ .idle h₀) :
    (transact rig.mirrors t₀ h₀).Satisfies (fun _ h => Stand rig t₀ h₀ .idle h)
      (fun t h => rig.Course t₀ h₀ h ∧ h.world.1.transactionActive = false ∧
        (t.committedCount = 0 → Stand rig t₀ h₀ .idle h))
      (fun _ h => Stand rig t₀ h₀ .done h) := by
  have hmemfd := transact_participant (rig.memfd_participant t₀ h₀) hnew hhushed
    ⟨hstand.course, hstand.memfd⟩
  have hcdev := transact_participant (rig.cdev_participant t₀ h₀) hnew hhushed
    ⟨hstand.course, hstand.cdev⟩
  refine (hmemfd.and hcdev).mono ?_ ?_ ?_
  · rintro t h ⟨⟨-, c, m⟩, -, -, d⟩
    exact ⟨c, m, d⟩
  · rintro t h ⟨⟨-, ⟨c, m⟩ | ⟨⟨c, m⟩, hcount⟩⟩, -, hcdev⟩
    · refine ⟨c, m.1, fun hnone => ⟨c, m, ?_⟩⟩
      rcases hcdev with ⟨-, d⟩ | ⟨-, hcount⟩
      · exact d
      · exact absurd hnone hcount
    · exact ⟨c, m.1, fun hnone => absurd hnone hcount⟩
  · rintro t h ⟨⟨-, c, m⟩, -, -, d⟩
    exact ⟨c, m, d⟩

/-- The transaction has gone through. -/
theorem Stand.committed (hstart : c.Startable request.operation)
    (hloss : request.operation ≠ .transportLoss)
    (hprep : h₀.coordinator = c.prepared request.operation)
    (stand : Stand rig (c.planned request) h₀ .done h) :
    Settled rig (h.update (c.advance request.operation .online)) := by
  obtain ⟨hcourse, hmemfd, hcdev⟩ := stand
  obtain ⟨hreq, -⟩ := planned_fields c request
  obtain ⟨hconfig, hstate⟩ := advance_frame c h.coordinator request.operation .online
  by_cases hrem : request.operation = .remove
  · have hop : (c.planned request).request.operation = .remove := by rwa [hreq]
    refine .offline (hconfig.trans hcourse.config) hmemfd.1 (hmemfd.2.2 hop) (hcdev.2.2 hop) ?_
    change (c.advance request.operation .online h.coordinator).state ≠ .online
    rw [hstate, if_pos hrem]
    decide
  · have hop : (c.planned request).request.operation ≠ .remove := by rwa [hreq]
    have htuple : h.coordinator.tuple = c.tuple := by
      rw [hcourse.kept hop, hprep]
      exact (prepared_tuple c request.operation).1
    have hgen : (c.advance request.operation .online h.coordinator).generation =
        (c.planned request).candidate.generation :=
      congrArg Tuple.generation (advance_tuple hstart hloss htuple .online).1
    rw [if_neg hrem] at hstate
    refine ⟨hconfig.trans hcourse.config, hmemfd.1,
      fun _ => ⟨hstate, hmemfd.2.1.trans hgen.symm⟩, fun _ => hstate,
      fun _ => ⟨?_, hcdev.2.1.trans hgen.symm, hcdev.1⟩⟩
    change (c.advance request.operation .online h.coordinator).generation ≠ 0
    rw [hgen]
    exact planned_candidate_ne_zero hstart hloss hrem

/-- The transaction has failed before anybody committed, and is not a removal: all is as it was. -/
theorem Stand.kept (hrem : request.operation ≠ .remove)
    (hprep : h₀.coordinator = c.prepared request.operation)
    (s : Settled rig { h₀ with coordinator := c })
    (stand : Stand rig (c.planned request) h₀ .idle h) : Settled rig h := by
  obtain ⟨hcourse, hmemfd, hcdev⟩ := stand
  obtain ⟨hreq, hold⟩ := planned_fields c request
  have hop : (c.planned request).request.operation ≠ .remove := by rwa [hreq]
  have hcoord := (hcourse.kept hop).trans hprep
  have hstate : (c.prepared request.operation).state = c.state := by cases request.operation <;> rfl
  have hgen : (c.prepared request.operation).generation = c.generation :=
    congrArg Tuple.generation (prepared_tuple c request.operation).1
  rw [← hcoord] at hstate hgen
  obtain ⟨hview, hforced, honline⟩ := hcdev hop
  refine ⟨hcourse.config, hmemfd.1, fun h => ?_, fun h => ?_, fun h => ?_⟩
  · obtain ⟨honline₀, hsame⟩ := hmemfd.2 h
    obtain ⟨hstate₀, hgen₀⟩ := s.memfd honline₀
    exact ⟨hstate.trans hstate₀, (hsame.trans hgen₀).trans hgen.symm⟩
  · exact (hstate.trans hold.symm).trans (honline h)
  · obtain ⟨hgen₀, hview₀, hforced₀⟩ := s.live (hstate.symm.trans h)
    refine ⟨?_, (hview.trans hview₀).trans hgen.symm, ?_⟩
    · rw [hgen]
      exact hgen₀
    · exact Bool.eq_false_iff.2 fun h => Bool.eq_false_iff.1 hforced₀ (hforced h)

variable (h₀) in
/-- The transaction is settled, by its ending. -/
theorem settle_settled {ended : Transacted Transports} (hstart : c.Startable request.operation)
    (hloss : request.operation ≠ .transportLoss)
    (hprep : h₀.coordinator = c.prepared request.operation)
    (s : Settled rig { h₀ with coordinator := c })
    (hended : ended.Satisfies (fun _ h => Stand rig (c.planned request) h₀ .idle h)
      (fun t h => rig.Course (c.planned request) h₀ h ∧ h.world.1.transactionActive = false ∧
        (t.committedCount = 0 → Stand rig (c.planned request) h₀ .idle h))
      (fun _ h => Stand rig (c.planned request) h₀ .done h)) :
    Settled rig (settle rig.mirrors c request.operation ended).2 := by
  -- a removal that fails tells the workers, whatever has happened to them
  have hremoved : ∀ (t : Transaction) (g : Host Transports),
      g.coordinator.config = rig.config → g.world.1.transactionActive = false →
      Settled rig ((publishLost rig.mirrors t g).update (c.advance request.operation .lost)) := by
    intro t g hconfig hidle
    refine .told t hidle ?_ (advance_lost _ _ _)
    rw [(advance_frame _ _ _ _).1, (publishLost_offline rig t g).1]
    exact hconfig
  obtain ⟨ending, t, g⟩ := ended
  cases ending with
  | committed => exact hended.committed hstart hloss hprep
  | stopped =>
    simp only [settle]
    split_ifs with hrem
    · exact hremoved t (g.update (·.setState .lost)) hended.course.config hended.memfd.1
    · exact hended.kept hrem hprep s
  | refused =>
    obtain ⟨⟨hcourse, hidle, hstand⟩, hnone⟩ := hended
    simp only [settle]
    split_ifs with hrem
    · exact hremoved t g hcourse.config hidle
    · exact (hstand hnone).kept hrem hprep s
  | torn =>
    obtain ⟨⟨hcourse, hidle, -⟩, -⟩ := hended
    simp only [settle]
    split_ifs with hrem
    · exact hremoved t g hcourse.config hidle
    · exact .then_told t hidle ((advance_frame _ _ _ _).1.trans hcourse.config) (advance_lost _ _ _)

end Settle

theorem startable_offline {operation : Operation}
    (hstart : c.Startable operation) (hrem : operation ≠ .remove) (hreset : operation ≠ .reset)
    (hloss : operation ≠ .transportLoss) : c.state ≠ .online := by
  cases operation with
  | add | recover =>
    rw [hstart.1]
    decide
  | remove => exact absurd rfl hrem
  | reset => exact absurd rfl hreset
  | transportLoss => exact absurd rfl hloss
  | outOfRange => exact absurd hstart id

section

variable (s : Settled rig h) (request : Request)
  (hcalm : request.operation = .reset → CdevWorker.Calm h.world.2)

include s request hcalm

theorem dispatch_settled : Settled rig (dispatch rig.mirrors request h).2 := by
  by_cases hstart : h.coordinator.Startable request.operation
  · by_cases hloss : request.operation = .transportLoss
    · rw [dispatch_of_loss rig.mirrors hstart hloss]
      exact .then_told _ s.idle s.config nofun
    rw [dispatch_of_startable rig.mirrors hstart hloss]
    obtain ⟨hreq, hold⟩ := planned_fields h.coordinator request
    have hconfig := (prepared_tuple h.coordinator request.operation).2.trans s.config
    set h₀ : Host Transports :=
      { h with coordinator := h.coordinator.prepared request.operation } with hh₀
    have hhushed : rig.Hushed (h.coordinator.planned request) h₀ := by
      refine ⟨hconfig, fun hrem => ?_⟩
      rw [hreq] at hrem
      by_cases hreset : request.operation = .reset
      · exact hcalm hreset
      · -- what starts offline finds a worker with nothing to report
        exact s.calm (startable_offline hstart hrem hreset hloss)
    have hbegin : Stand rig (h.coordinator.planned request) h₀ .idle h₀ :=
      ⟨⟨hconfig, fun _ => rfl⟩, ⟨s.idle, fun honline => ⟨honline, rfl⟩⟩,
        fun _ => ⟨rfl, id, fun honline => hold.trans (s.cdev honline)⟩⟩
    have hended := transact_stand rig (h.coordinator.planned_new request).2.1 hhushed hbegin
    exact settle_settled h₀ hstart hloss rfl s hended
  · rw [(dispatch_of_not_startable rig.mirrors hstart).2]
    exact s

/-- **One call of `apply`.** -/
theorem apply_settled : Settled rig (apply rig.mirrors request h).2 := by
  obtain ⟨⟨memfd, site⟩, hticks, hscreen⟩ := screen_cases request h
  rw [s.config] at hticks
  obtain ⟨hmemfd, hsite⟩ := rig.ticks_site hticks
  subst hmemfd
  have hticked := s.within hsite
  rcases hscreen with ⟨answer, hscreen, -⟩ | ⟨-, hscreen⟩
  · rw [apply_of_error rig.mirrors hscreen]
    exact hticked
  · rw [apply_of_ok rig.mirrors hscreen]
    have hdone := dispatch_settled hticked request fun hreset => (hcalm hreset).within hsite
    exact { hdone with }

end

end Calls

/-! ## 2. Over whole runs -/

section Runs

variable {rig : JointRig} {h h' : Host Transports}

section

variable (s : Settled rig h)

include s

/-- The worker on its own: whatever it does, and whatever loss it reports, leaves things settled. -/
theorem Settled.steps
    (hsteps : CdevWorker.Steps (Lifecycle.apply rig.mirrors) h h') : Settled rig h' := by
  induction hsteps with
  | refl => exact s
  | tail _ hstep ih =>
    cases hstep with
    | within hsite => exact ih.within hsite
    | loss _ _ hreq =>
      exact apply_settled ih _ fun hreset => by rw [hreq] at hreset; cases hreset

theorem Settled.layOut (script : Script) : Settled rig (layOut script h) :=
  { s with }

/-- A quiet script leaves the worker with nothing to report. -/
theorem Settled.calm_layOut {script : Script} (hquiet : script.Quiet) :
    CdevWorker.Calm (MetaFlux.Transport.layOut script h).world.2 := by
  by_cases hstate : h.coordinator.state = .online
  · exact .inr ⟨hquiet, rfl, (s.live hstate).2.2⟩
  · exact (s.layOut script).calm hstate

/-- A change to the memfd worker's count of work. -/
theorem Settled.of_memfd {w : MemfdWorker} (hbooks : w.books = h.world.1.books)
    (honline : w.online = h.world.1.online) : Settled rig { h with world := (w, h.world.2) } := by
  have hgen : w.generation = h.world.1.generation :=
    (congrArg MemfdWorker.generation hbooks :)
  refine ⟨s.config, (MemfdWorker.active_of_books hbooks).trans s.idle, fun h => ?_, s.cdev, s.live⟩
  rw [hgen]
  exact s.memfd (honline ▸ h)

/-- **One move.** -/
theorem turn_settled (move : JointMove) (hquiet : move.Quiet) : Settled rig (rig.turn h move) := by
  cases move with
  | apply request script =>
    exact apply_settled (s.layOut script) request fun hreset => s.calm_layOut (hquiet hreset)
  | submit =>
    refine s.of_memfd (submit_books _ _) ?_
    unfold MemfdWorker.submit
    split_ifs <;> rfl
  | completeOne =>
    refine s.of_memfd (completeOne_books _) ?_
    unfold MemfdWorker.completeOne
    split <;> rfl
  | consumeOnce script => exact (s.layOut script).steps (CdevWorker.consumeOnce_steps _)
  | bindBackend backend => exact s.within (CdevWorker.bindBackend_within backend h.world.2)
  | write memory => exact s.within (.of_memory h.world.2 memory)

end

end Runs

theorem start_settled (rig : JointRig) (hvalid : (Coordinator.init rig.config).valid = true)
    (honline : rig.config.initialState = .online) (view : QueueView) (backend : BackendBinding)
    (memory : Memory) (hview : view.generation = rig.config.initialGeneration) :
    Settled rig (rig.start view backend memory) := by
  have hgen : rig.config.initialGeneration ≠ 0 := by
    simp only [Coordinator.init, Bool.and_eq_true, decide_eq_true_eq, honline] at hvalid
    tauto
  exact ⟨rfl, rfl, fun _ => ⟨honline, rfl⟩, fun _ => honline, fun _ => ⟨hgen, hview, rfl⟩⟩

/-- **No transport takes work for a generation that is not online**: not in any run of the two under
an online coordinator, in either order, whatever is requested, submitted, answered and written, as
long as no call made in the course of a reset is answered with a loss. -/
theorem joint_safety (rig : JointRig) (hvalid : (Coordinator.init rig.config).valid = true)
    (honline : rig.config.initialState = .online) (view : QueueView) (backend : BackendBinding)
    (memory : Memory) (hview : view.generation = rig.config.initialGeneration)
    (moves : List JointMove) (hquiet : ∀ move ∈ moves, move.Quiet) :
    NoStaleWork (run rig.turn (rig.start view backend memory) moves) := by
  have hstart := start_settled rig hvalid honline view backend memory hview
  have hend := run_induction_along (P := Settled rig)
    (fun _ move s hquiet => turn_settled s move hquiet) moves hstart (along_of_forall moves hquiet)
  exact hend.noStaleWork

/-! ## 3. A reset, with and without a loss -/

namespace CopyRig

def rig : JointRig := { cdevFirst := true, config := {}, clock := .inl rfl }

def ring (queueId generation : Nat) (slots : Nat → Descriptor) : Ring :=
  { metadata := { capacity := 2, queueId, queueGeneration := generation }, slots }

def emptyRing (queueId generation : Nat) : Ring := ring queueId generation ({ sequence := · })

/-- A view of the rings at `address` and after. -/
def view (address generation : Nat) : QueueView :=
  { submission := address, completion := address + 1, payload := 1000, payloadSize := 64,
    generation }

theorem view_apart : (view 1 1).completion ≠ (view 1 1).submission := by decide

def backend (generation : Nat) : BackendBinding :=
  { api := some { structSize := 200, capabilities := 2, copy := true }
    instanceHandle := 1, queue := 1, memory := 1, leaseAcquire := 1, leaseRelease := 1, rebind := 1
    generation }

def copyRequest : Descriptor :=
  { sequence := 1, opcode := .copy, requestId := 77, targetId := 1, arguments := #v[0, 8, 8, 0] }

/-- One copy is queued at generation 1. -/
def memory : Memory :=
  { rings := fun address =>
      if address = 1 then ring 1 1 fun i => if i = 0 then copyRequest else { sequence := i }
      else if address = 2 then emptyRing 2 1
      else {} }

/-- The backend is bound anew at generation 2, and answers the copy as it is told. -/
def script (copies : List BackendStatus) : Script :=
  { copies
    rebinds := [{ granted := true, view := view 3 2, backend := backend 2
                  rings := [(3, emptyRing 1 2), (4, emptyRing 2 2)] }] }

def start : Host Transports := rig.start (view 1 1) (backend 1) memory

end CopyRig

open CopyRig in
theorem joint_safety_reset :
    let moves : List JointMove := [.submit 1, .completeOne, .apply resetRequest (script [.success])]
    (∀ move ∈ moves, move.Quiet) ∧ NoStaleWork (run rig.turn start moves) ∧
    ((run rig.turn start moves).world.1.submit 2).1 = .accepted := by
  intro moves
  have hquiet : ∀ move ∈ moves, move.Quiet := by
    simp only [moves, List.mem_cons, List.not_mem_nil, or_false]
    rintro move (rfl | rfl | rfl)
    · trivial
    · trivial
    · exact fun _ => ⟨by decide, by decide, by decide, by decide, by decide, by decide⟩
  exact ⟨hquiet, joint_safety rig (by decide) rfl (view 1 1) (backend 1) memory rfl moves hquiet,
    by decide +kernel⟩

open CopyRig in
/-- **A reset in which the backend answers the queued copy with a loss.**  The loss is accepted and
the coordinator is lost; the cdev worker refuses the commit, as its staged binding is gone; and the
abort puts both workers back online at generation 1, which the coordinator resolves to a lost
device. -/
theorem reset_loss_splits :
    (Coordinator.init rig.config).valid = true ∧ rig.config.initialState = .online ∧
    (view 1 1).generation = rig.config.initialGeneration ∧
    let h := run rig.turn start [.apply resetRequest (script [.deviceLost])]
    (h.world.1.submit 1).1 = .accepted ∧ h.world.2.worker.online = true ∧
    h.world.2.worker.view.generation = 1 ∧ h.coordinator.resolve 1 = .deviceLost := by
  decide +kernel

end MetaFlux.Transport
