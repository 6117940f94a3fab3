/-
# What a step of the cdev worker can do

A program on the worker's site that is not a lifecycle transition keeps to a small part of it
(`Within`): the view stays, the worker does not change sides, no pending operation is marked as
lost, and a loss that was answered was on the script.  A step of the worker is a sequence of those,
and of losses that it reports (`Step`); it reports one only while online, and only where a call has
answered `deviceLost` or the pending operation is marked (`consumeOnce_steps`,
`drainLifecycle_steps`).

So a worker that is offline, or whose script is quiet, never calls the coordinator back
(`Steps.within`).  The lifecycle transitions themselves, the commit and the abort, are in the last
section.
-/
import MetaFlux.Transport.Cdev.Worker

namespace MetaFlux.Transport

open MetaFlux.Lifecycle Base List Bool Triple

/-! ## 1. Programs on the site -/

/-- The pending operation is marked: whatever its backend says, the device is lost. -/
def CdevWorker.forced (worker : CdevWorker) : Bool := worker.pending.any (·.forceDeviceLost)

structure Within (s s' : CdevSite) : Prop where
  view : s'.worker.view = s.worker.view
  online : s'.worker.online = s.worker.online
  forced : s'.worker.forced = true → s.worker.forced = true
  quiet : s.script.Quiet → s'.script.Quiet
  heard : s.script.Quiet → s'.lossAnswered = true → s.lossAnswered = true
  remembered : s.lossAnswered = true → s'.lossAnswered = true

instance : IsPreorder CdevSite Within where
  refl _ := ⟨rfl, rfl, id, id, fun _ => id, id⟩
  trans _ _ _ u v :=
    ⟨v.view.trans u.view, v.online.trans u.online, fun h => u.forced (v.forced h),
      fun h => v.quiet (u.quiet h), fun h hheard => u.heard h (v.heard (u.quiet h) hheard),
      fun h => v.remembered (u.remembered h)⟩

variable (s : CdevSite)

theorem Within.refl : Within s s := Std.Refl.refl s

theorem Within.trans {s s' s'' : CdevSite} (u : Within s s') (v : Within s' s'') : Within s s'' :=
  IsTrans.trans _ _ _ u v

theorem Within.unforced {s s' : CdevSite} (u : Within s s') (h : s.worker.forced = false) :
    s'.worker.forced = false :=
  eq_false_iff.2 fun hforced => eq_false_iff.1 h (u.forced hforced)

/-- A change of the worker that leaves its view, its side and its marks alone. -/
theorem Within.of_worker {worker : CdevWorker} (hview : worker.view = s.worker.view)
    (honline : worker.online = s.worker.online)
    (hforced : worker.forced = true → s.worker.forced = true) :
    Within s { s with worker } :=
  ⟨hview, honline, hforced, id, fun _ => id, id⟩

variable {α : Type}

/-- An answer that is a loss has been heard. -/
abbrev Hears (lost : α → Prop) (a : α) (s : CdevSite) : Prop := lost a → s.lossAnswered = true

theorem Within.of_memory (memory : Memory) : Within s { s with memory } :=
  ⟨rfl, rfl, id, id, fun _ => id, id⟩

variable {P : CdevSite → Prop} {list : List α} (reference : MemoryReference) (generation : Nat)

namespace CdevSite

theorem readWorker_within : Respects Within readWorker := .refl

theorem update_within {f : CdevWorker → CdevWorker} (hview : ∀ w, (f w).view = w.view)
    (honline : ∀ w, (f w).online = w.online)
    (hforced : ∀ w, (f w).forced = true → w.forced = true) : Respects Within (update f) := fun s =>
  .of_worker s (hview _) (honline _) (hforced _)

theorem notify_within (call : ExternalCall) : Respects Within (notify call) := fun _ =>
  ⟨rfl, rfl, id, id, fun _ => id, id⟩

/-- An answer that reports a loss is heard, and comes from the script. -/
theorem ask_within {next : Script → α × Script} {call : α → ExternalCall}
    {L : α → Prop} [DecidablePred L] (hanswered : ∀ a, (call a).saysLost = decide (L a))
    (hnext : ∀ script : Script, script.Quiet → (next script).2.Quiet ∧ ¬ L (next script).1) :
    Triple Within P (ask next call) (Hears L) := by
  intro s _
  refine ⟨⟨rfl, rfl, id, fun hquiet => (hnext _ hquiet).1, fun hquiet hheard => ?_,
    fun hheard => or_eq_true_iff.2 (.inl hheard)⟩, fun hlost => ?_⟩
  · change (s.lossAnswered || (call (next s.script).1).saysLost) = true at hheard
    rwa [hanswered, decide_eq_false (hnext _ hquiet).2, Bool.or_false] at hheard
  · change (s.lossAnswered || (call (next s.script).1).saysLost) = true
    rw [hanswered, decide_eq_true (show L (next s.script).1 from hlost), Bool.or_true]

/-- The next answer of a list that has a property, or the default. -/
theorem headD_of_forall {p : α → Prop} {default : α}
    (h : ∀ a ∈ list, p a) (hdefault : p default) : p (list.headD default) := by
  cases list with
  | nil => exact hdefault
  | cons a => exact h a mem_cons_self

theorem headD_ne {a default : α} (h : a ∉ list) (hdefault : default ≠ a) : list.headD default ≠ a :=
  headD_of_forall (fun _ hb => ne_of_mem_of_not_mem hb h) hdefault

section Calls

variable (backend : BackendBinding) (request : Descriptor)

theorem leaseAcquire_within : Respects Within (leaseAcquire backend) :=
  (ask_within (L := fun _ => False) (fun _ => rfl) fun _ hquiet => ⟨{ hquiet with }, id⟩).respects

theorem backendCancelQueue_within : Respects Within (backendCancelQueue backend) :=
  (ask_within (L := fun _ => False) (fun _ => rfl) fun _ hquiet => ⟨{ hquiet with }, id⟩).respects

theorem callRebind_within : Respects Within (callRebind backend generation) :=
  .bind (ask_within (L := fun _ => False)
    (fun _ => rfl) fun _ hquiet => ⟨{ hquiet with }, id⟩).respects
    fun _ => .bind (.modify fun s => .of_memory s _) fun _ => .pure _

theorem retain_within : Triple Within P (retain reference) (Hears (· = .deviceLost)) := by
  refine ask_within (fun _ => rfl) fun _ hquiet => ⟨?_, ?_⟩
  · exact { hquiet with
      retains := fun h => hquiet.retains (mem_of_mem_tail h) }
  · exact headD_ne hquiet.retains nofun

theorem resolveCopy_within :
    Triple Within P (resolveCopy backend request) (Hears (·.1 = .deviceLost)) := by
  refine ask_within (fun _ => rfl) fun _ hquiet => ⟨?_, ?_⟩
  · exact { hquiet with
      copyResolutions := fun a ha => hquiet.copyResolutions a (mem_of_mem_tail ha) }
  · exact headD_of_forall hquiet.copyResolutions nofun

theorem resolveLaunch_within :
    Triple Within P (resolveLaunch backend request) (Hears (·.1 = .deviceLost)) := by
  refine ask_within (fun _ => rfl) fun _ hquiet => ⟨?_, ?_⟩
  · exact { hquiet with
      launchResolutions := fun a ha => hquiet.launchResolutions a (mem_of_mem_tail ha) }
  · exact headD_of_forall hquiet.launchResolutions nofun

theorem backendCopy_within (copy : BackendCopy) :
    Triple Within P (backendCopy backend copy) (Hears (· = .deviceLost)) := by
  refine ask_within (fun _ => rfl) fun _ hquiet => ⟨?_, ?_⟩
  · exact { hquiet with
      copies := fun h => hquiet.copies (mem_of_mem_tail h) }
  · exact headD_ne hquiet.copies nofun

theorem backendSubmit_within (launch : BackendLaunch) :
    Triple Within P (backendSubmit backend launch) (Hears (· = .deviceLost)) := by
  refine ask_within (fun _ => rfl) fun _ hquiet => ⟨?_, ?_⟩
  · exact { hquiet with
      submits := fun h => hquiet.submits (mem_of_mem_tail h) }
  · exact headD_ne hquiet.submits nofun

theorem backendQueryEvent_within (event : Nat) :
    Triple Within P (backendQueryEvent backend event) (Hears (·.1 = .deviceLost)) := by
  refine ask_within (fun _ => rfl) fun _ hquiet => ⟨?_, ?_⟩
  · exact { hquiet with
      queries := fun a ha => hquiet.queries a (mem_of_mem_tail ha) }
  · exact headD_of_forall hquiet.queries nofun

end Calls

end CdevSite

namespace CdevWorker

open CdevSite

variable (backend : BackendBinding)

theorem retireBackendBinding_within : Respects Within (retireBackendBinding backend) :=
  .either (notify_within _) <| .pure _

theorem bindBackend_within : Respects Within (bindBackend backend) := by
  refine .bind readWorker_within fun worker => .either (.pure _) <| .either (.pure _) ?_
  have hdone : Respects Within (pure true) := .pure _
  cases worker.pending with
  | none =>
    refine .bind (update_within (fun _ => rfl) (fun _ => rfl) fun _ => id) fun _ => ?_
    exact .bind (retireBackendBinding_within _) fun _ => hdone
  | some pending =>
    have hupdate : Respects Within (update fun worker : CdevWorker =>
        { worker with
          backend
          pending := worker.pending.map fun pending =>
            { pending with retireBackend := decide (backend ≠ pending.backend) } }) :=
      update_within (fun _ => rfl) (fun _ => rfl) fun w h => by
        simpa only [forced, Option.any_map, Function.comp_def] using h
    refine .either ?_ <| .bind hupdate fun _ => hdone
    exact .bind (retireBackendBinding_within _) fun _ => .bind hupdate fun _ => hdone

theorem stageRebind_within : Respects Within (stageRebind generation) := by
  refine .bind readWorker_within fun worker => .either (.pure _) ?_
  refine .bind (callRebind_within _ _) fun rebind => .bind .get fun site => .either ?_ ?_
  · exact .bind (retireBackendBinding_within _) fun _ => .pure _
  · exact .bind (update_within (fun _ => rfl) (fun _ => rfl) fun _ => id) fun _ => .pure _

theorem discardStagedRebind_within : Respects Within discardStagedRebind := by
  refine .bind readWorker_within fun worker => ?_
  cases worker.staged with
  | none => exact .pure _
  | some =>
    refine .bind (update_within (fun _ => rfl) (fun _ => rfl) fun _ => id) fun _ => ?_
    exact retireBackendBinding_within _

theorem acquireBackendLease_within : Respects Within acquireBackendLease :=
  .bind readWorker_within fun _ => .either (.pure _) <|
    .either (.pure _) <| leaseAcquire_within _

theorem releaseBackendLease_within : Respects Within (releaseBackendLease backend) :=
  .either (notify_within _) <| .pure _

theorem retainReferences_within (references : List MemoryReference) :
    ∀ (retained : List MemoryReference) {P : CdevSite → Prop},
      Triple Within P (retainReferences retained references) (Hears (· = .deviceLost)) := by
  induction references with
  | nil =>
    intro retained P
    exact .pure fun _ _ hlost => nomatch hlost
  | cons reference _ ih =>
    intro retained P
    refine .bind (retain_within reference) fun status => .either ?_ <| ih _
    have hreleased := Respects.forM (fun r => notify_within (.release r)) retained
    -- what has been heard stays heard
    exact .bind (Q := fun _ s => _ → s.lossAnswered = true)
      (fun s hs => ⟨hreleased s, fun hp => (hreleased s).remembered (hs hp)⟩) fun _ => .skip

theorem releaseMemoryReference_within : Respects Within (releaseMemoryReference reference) :=
  .either (notify_within _) <| .pure _

theorem option_forM_within {f : α → StateM CdevSite Unit}
    (h : ∀ a, Respects Within (f a)) : ∀ option : Option α, Respects Within (option.forM f)
  | none => .pure _
  | some a => h a

theorem releaseReferences_within (resolution : Option CopyResolution)
    (memoryReference : Option MemoryReference) (launchResolution : Option LaunchResolution) :
    Respects Within (releaseReferences resolution memoryReference launchResolution) :=
  .bind (option_forM_within (fun _ => .forM releaseMemoryReference_within _) _) fun _ =>
    .bind (option_forM_within releaseMemoryReference_within _) fun _ =>
      option_forM_within (fun _ => .forM (fun _ => notify_within _) _) _

theorem dispatchCopy_within (base destination source byteCount : Nat) :
    Triple Within P (dispatchCopy base destination source byteCount) (Hears (· = .deviceLost)) :=
  .bind readWorker_within.triple fun _ =>
    .either (.pure fun _ _ hlost => nomatch hlost) <| backendCopy_within _ _

theorem dispatchRegionCopy_within (resolution : CopyResolution) :
    Triple Within P (dispatchRegionCopy resolution) (Hears (· = .deviceLost)) :=
  .bind readWorker_within.triple fun _ =>
    .either (.pure fun _ _ hlost => nomatch hlost) <| backendCopy_within _ _

theorem mapBackendStatus_lost {status : BackendStatus} :
    mapBackendStatus status = .deviceLost ↔ status = .deviceLost := by
  cases status <;> simp [mapBackendStatus]

variable (request : Descriptor) (pending : PendingOperation) (status : SharedStatus)

theorem dispatchLaunch_within :
    Triple Within P (dispatchLaunch request) (Hears (·.1 = .deviceLost)) := by
  refine .bind readWorker_within.triple fun worker =>
    .either (.pure fun _ _ hlost => nomatch hlost) ?_
  refine .bind (resolveLaunch_within _ _) fun answer => .either .skip ?_
  refine .either (.pure fun _ _ hlost => nomatch hlost) ?_
  refine .bind (backendSubmit_within _ _) fun status => .pure fun _ h hlost => ?_
  exact h (mapBackendStatus_lost.1 hlost)

theorem cancelPending_within : Respects Within cancelPending := by
  refine .bind readWorker_within fun worker => ?_
  cases worker.pending with
  | none => exact .pure _
  | some =>
    refine .either (.pure _) <| .either (.pure _) ?_
    refine .bind (backendCancelQueue_within _) fun status => .either ?_ <| .pure _
    refine .bind (update_within (fun _ => rfl) (fun _ => rfl) fun w h => ?_) fun _ => .pure _
    simpa only [forced, Option.any_map, Function.comp_def] using h

theorem complete_within : Respects Within (complete request status) := by
  refine respects (Q := fun _ _ => True) (.get_bind fun s _ => ?_)
  refine .either (.pure fun _ _ => trivial) ?_
  dsimp only
  split
  · exact .pure fun _ _ => trivial
  · refine .bind (Q := fun _ _ => True) (.set ?_ trivial) fun _ => .pure fun _ _ => trivial
    exact (Within.of_memory s _).trans (.of_worker _ rfl rfl id)

theorem takeRequest_within : Respects Within takeRequest := by
  refine respects (Q := fun _ _ => True) (.get_bind fun s _ => ?_)
  split
  · exact .pure fun _ _ => trivial
  · exact .bind (Q := fun _ _ => True) (.set (.of_memory s _) trivial) fun _ =>
      .pure fun _ _ => trivial

theorem clearPending_within : Respects Within
    (update fun worker : CdevWorker => { worker with pending := none }) :=
  update_within (fun _ => rfl) (fun _ => rfl) fun _ h => nomatch h

theorem releasePending_within : Respects Within (releasePending pending) :=
  .bind (releaseReferences_within _ _ _) fun _ => .bind (releaseBackendLease_within _) fun _ =>
    .either (retireBackendBinding_within _) <| .pure _

theorem finishPending_within : Respects Within (finishPending pending status) := by
  refine .bind (complete_within _ _) fun result => .either ?_ <| .pure _
  exact .bind clearPending_within fun _ => .bind (releasePending_within _) fun _ => .pure _

/-! ## 2. Programs on the host -/

section Host

variable {M : Type} {apply : Request → CdevHost M → ResultDetails × CdevHost M}
  {P : CdevHost M → Prop} {x : StateM CdevSite α}

variable (apply) in
inductive Step : CdevHost M → CdevHost M → Prop
  | within {h : CdevHost M} {site : CdevSite} (hsite : Within h.world.2 site) :
    Step h { h with world := (h.world.1, site) }
  | loss {h : CdevHost M} {request : Request} (honline : h.world.2.worker.online = true)
    (hheard : h.world.2.lossAnswered = true ∨ h.world.2.worker.forced = true)
    (hreq : request.operation = .transportLoss) : Step h (apply request h).2

variable (apply) in
def Steps : CdevHost M → CdevHost M → Prop := Relation.ReflTransGen (Step apply)

instance : IsPreorder (CdevHost M) (Steps apply) where
  refl _ := .refl
  trans _ _ _ := .trans

theorem onSite_triple {Q : α → CdevSite → Prop} (hx : Triple Within (fun _ => True) x Q) :
    Triple (Steps apply) P (onSite x) fun a h => Q a h.world.2 := fun h _ =>
  ⟨.single (.within (hx h.world.2 trivial).1), (hx h.world.2 trivial).2⟩

theorem onSite_respects (hx : Respects Within x) :
    Respects (Steps apply) (onSite (M := M) x) := fun h => .single (.within (hx h.world.2))

/-- Reading the worker changes nothing. -/
theorem readWorker_reads :
    Triple (Steps apply) P (onSite readWorker) fun worker h => P h ∧ worker = h.world.2.worker :=
  fun _ hP => ⟨.refl, hP, rfl⟩

theorem reportBackendLoss_steps (disconnect : DisconnectEvent) :
    Triple (Steps apply)
      (fun h => h.world.2.lossAnswered = true ∨ h.world.2.worker.forced = true)
      (reportBackendLoss apply disconnect) fun _ _ => True := by
  refine .bind readWorker_reads fun worker =>
    .ite (fun _ => .pure fun _ _ => trivial) fun hlive => ?_
  refine .modify fun h ⟨hheard, hworker⟩ => ⟨?_, trivial⟩
  have honline : h.world.2.worker.online = true := by
    rw [← hworker]
    exact of_not_eq_false (not_or.1 hlive).2
  rcases submitExternalEvent_cases apply (congrArg mappingFor disconnect.kind) h with
    heq | ⟨request, hreq, heq⟩
  · rw [heq]
    exact Relation.ReflTransGen.refl
  · rw [heq]
    exact .single (.loss honline hheard hreq)

theorem finishBackendRequest_steps {status : SharedStatus}
    {resolution : Option CopyResolution} {memoryReference : Option MemoryReference}
    {launchResolution : Option LaunchResolution} :
    Triple (Steps apply) (fun h => status = .deviceLost → h.world.2.lossAnswered = true)
      (finishBackendRequest apply request status resolution memoryReference launchResolution)
      fun _ _ => True := by
  refine .get_bind fun h hheard => .either ?_ ?_
  · have hrest : Respects (Steps apply) _ := onSite_respects
      (.bind (releaseReferences_within resolution memoryReference launchResolution) fun _ =>
        .bind readWorker_within fun worker => .bind (releaseBackendLease_within worker.backend)
          fun _ => complete_within request status)
    refine .ite (fun hlost => ?_) fun _ => hrest.triple
    exact ((reportBackendLoss_steps _).start (.inl (hheard hlost.1))).bind_respects fun _ => hrest
  · refine (onSite_respects (.bind ?_ fun _ => .pure _)).triple
    exact update_within (fun _ => rfl) (fun _ => rfl) fun _ h => nomatch h

/-- The loss a pending operation is found to be is one that was answered, or that marks it. -/
theorem progressPending_steps :
    Triple (Steps apply) (fun h => h.world.2.worker.pending = some pending)
      (progressPending apply pending) fun _ _ => True := by
  refine .either ((onSite_respects (finishPending_within _ _)).triple) <| .either ?_ ?_
  · exact (onSite_respects (.bind clearPending_within fun _ =>
      .bind (releasePending_within _) fun _ => complete_within _ _)).triple
  have hquery : Triple (Steps apply) (fun h => h.world.2.worker.pending = some pending)
      (onSite (backendQueryEvent pending.backend pending.event)) fun answer h =>
        h.world.2.worker.pending = some pending ∧
          (answer.1 = .deviceLost → h.world.2.lossAnswered = true) := fun h hpend =>
    have hasked := backendQueryEvent_within (P := fun _ => True) pending.backend pending.event
      h.world.2 trivial
    ⟨.single (.within hasked.1), hpend, hasked.2⟩
  refine hquery.bind fun answer => .either (.pure fun _ _ => trivial) ?_
  have hrest status : Respects (Steps apply) _ := onSite_respects (.bind readWorker_within
    fun worker => finishPending_within
      { worker.pending.getD pending with backend := pending.backend } status)
  refine .ite (fun hlost => ?_) fun _ => (hrest _).triple
  refine bind_respects (Q := fun _ _ => True) ?_ fun _ => hrest _
  cases pending.disconnectEvent with
  | none => exact .pure fun _ _ => trivial
  | some disconnect =>
    refine (reportBackendLoss_steps disconnect).pre fun h ⟨hpend, hheard⟩ => ?_
    by_cases hforced : pending.forceDeviceLost = true
    · refine .inr ?_
      rw [forced, hpend]
      exact hforced
    · rw [if_neg hforced, mapBackendStatus_lost] at hlost
      exact .inl (hheard hlost)

variable {request} in
theorem answered : Respects (Steps apply) (onSite (M := M) (complete request status)) :=
  onSite_respects (complete_within request status)

theorem serveLaunch_steps : Respects (Steps apply) (serveLaunch apply request) := by
  refine .either (answered _) ?_
  refine .bind (onSite_respects acquireBackendLease_within) fun leaseStatus =>
    .either (answered _) <| respects (Q := fun _ _ => True) ?_
  refine .bind (onSite_triple (dispatchLaunch_within request)) fun answer =>
    .ite (fun _ => finishBackendRequest_steps _) fun hok => ?_
  refine .bind (onSite_triple (retainReferences_within _ _))
    fun retainStatus => .either (finishBackendRequest_steps _) ?_
  refine (finishBackendRequest_steps _).pre fun _ _ hlost => ?_
  rw [not_not.1 hok] at hlost
  cases hlost

theorem serveRegionCopy_steps : Respects (Steps apply) (serveRegionCopy apply request) := by
  refine .either (answered _) ?_
  refine .bind (onSite_respects readWorker_within) fun worker =>
    .either (answered _) ?_
  refine .bind (onSite_respects acquireBackendLease_within) fun leaseStatus =>
    .either (answered _) <| respects (Q := fun _ _ => True) ?_
  refine .bind (onSite_triple (resolveCopy_within _ request)) fun answer =>
    .either (finishBackendRequest_steps _) <| .either ?_ ?_
  · exact (finishBackendRequest_steps _).pre fun _ _ hlost => nomatch hlost
  · refine .bind (onSite_triple (retainReferences_within _ _))
      fun retainStatus => .either (finishBackendRequest_steps _) ?_
    refine .bind (onSite_triple (dispatchRegionCopy_within _)) fun status => ?_
    exact (finishBackendRequest_steps _).pre
      (fun _ hheard hlost => hheard (mapBackendStatus_lost.1 hlost))

theorem servePayloadCopy_steps : Respects (Steps apply) (servePayloadCopy apply request) := by
  refine .bind (onSite_respects readWorker_within) fun worker =>
    .either (answered _) <| .either (answered _) <|
      .either (answered _) <| .either ?_ ?_
  · refine .either (answered _) ?_
    refine .bind (onSite_respects acquireBackendLease_within) fun leaseStatus =>
      .either (answered _) ?_
    have hcopy : Respects (Steps apply) (do
        let status ← onSite (dispatchCopy request.arguments[3] request.arguments[0]
          request.arguments[1] request.arguments[2])
        finishBackendRequest apply request (mapBackendStatus status) none
          (if worker.backend.memoryReference.handle = 0 then none
          else some worker.backend.memoryReference)) := by
      refine respects (Q := fun _ _ => True) ?_
      refine .bind (onSite_triple (dispatchCopy_within _ _ _ _)) fun status => ?_
      exact (finishBackendRequest_steps _).pre
        (fun _ hheard hlost => hheard (mapBackendStatus_lost.1 hlost))
    refine .either ?_ hcopy
    refine .bind (onSite_respects (retain_within _).respects) fun retainStatus =>
      .either ?_ hcopy
    exact onSite_respects (.bind (releaseBackendLease_within _) fun _ => complete_within _ _)
  · exact onSite_respects (.bind (.modify fun s => .of_memory s _) fun _ =>
      complete_within _ _)

theorem serve_steps : Respects (Steps apply) (serve apply request) := by
  refine .bind (onSite_respects readWorker_within) fun worker =>
    .either (answered _) <| .either (answered _) <|
      .either (answered _) <| .either (answered _) <|
        .either (serveLaunch_steps request) <| .either (answered _) <|
          .either (answered _) <| .either (answered _) <|
            .either (serveRegionCopy_steps request) <| servePayloadCopy_steps request

/-- **A step of the worker.** -/
theorem consumeOnce_steps : Respects (Steps apply) (consumeOnce apply) := by
  refine respects (Q := fun _ _ => True) (.get_bind fun h _ => ?_)
  refine .either (.pure fun _ _ => trivial) ?_
  cases hpend : h.world.2.worker.pending with
  | some pending =>
    exact (progressPending_steps pending).start hpend
  | none =>
    refine Respects.triple (.either ?_ ?_)
    · refine .either (.pure _) <| .either (.pure _) ?_
      refine .bind (onSite_respects takeRequest_within) fun taken => ?_
      cases taken with
      | none => exact .pure _
      | some => exact onSite_respects (complete_within _ _)
    · refine .either (.pure _) <| .either (.pure _) <| .either (.pure _) ?_
      refine .bind (onSite_respects takeRequest_within) fun taken => ?_
      cases taken with
      | none => exact .pure _
      | some request => exact serve_steps request

theorem drainSteps_steps (count : Nat) : Respects (Steps apply) (drainSteps apply count) := by
  induction count with
  | zero =>
    exact onSite_respects (.bind .get fun _ => .pure _)
  | succ _ ih =>
    exact .bind .get fun _ => .either (.pure _) <|
      .bind consumeOnce_steps fun _ => .either (.pure _) ih

/-- The worker's switch to accept requests. -/
theorem setAccepting_within (accepting : Bool) : Respects Within
    (update fun worker : CdevWorker => { worker with accepting }) :=
  update_within (fun _ => rfl) (fun _ => rfl) fun _ => id

theorem drainAll_steps : Respects (Steps apply) (drainAll apply) := by
  have hqueue : Respects (Steps apply) (do
      let site := (← get).world.2
      drainSteps apply (site.memory.rings site.worker.view.submission).metadata.capacity) :=
    .bind .get fun _ => drainSteps_steps _
  refine .bind .get fun h => .either ?_ hqueue
  exact .bind consumeOnce_steps fun _ => .either (.pure _) hqueue

/-- **A drain of the worker.** -/
theorem drainLifecycle_steps : Respects (Steps apply) (drainLifecycle apply) :=
  .bind .get fun _ => .either (.pure _) <|
    .bind (onSite_respects (setAccepting_within _)) fun _ =>
      .bind drainAll_steps fun _ =>
        .bind (onSite_respects (setAccepting_within _)) fun _ => .pure _

/-! ## 3. When the coordinator is not called back -/

/-- The worker has no loss to report: it is offline, or nothing will say so and nothing has. -/
def Calm (site : CdevSite) : Prop :=
  site.worker.online = false ∨
    site.script.Quiet ∧ site.lossAnswered = false ∧ site.worker.forced = false

theorem Calm.within {s s' : CdevSite} (hcalm : Calm s) (u : Within s s') : Calm s' := by
  rcases hcalm with hoffline | ⟨hquiet, hheard, hforced⟩
  · exact .inl (u.online.trans hoffline)
  · refine .inr ⟨u.quiet hquiet, ?_, ?_⟩
    · exact eq_false_iff.2 fun h => eq_false_iff.1 hheard (u.heard hquiet h)
    · exact u.unforced hforced

/-- **A worker with no loss to report keeps to itself.** -/
theorem Steps.within {h h' : CdevHost M} (hsteps : Steps apply h h')
    (hcalm : Calm h.world.2) :
    ∃ site, Within h.world.2 site ∧ h' = { h with world := (h.world.1, site) } := by
  induction hsteps with
  | refl => exact ⟨h.world.2, .refl _, rfl⟩
  | tail _ hstep ih =>
    obtain ⟨site, hsite, rfl⟩ := ih
    cases hstep with
    | within hsite' => exact ⟨_, hsite.trans hsite', rfl⟩
    | loss honline hheard =>
      rcases hcalm.within hsite with hoffline | ⟨-, hunheard, hunforced⟩
      · exact absurd honline (by simp [hoffline])
      · exact absurd hheard (by simp [hunheard, hunforced])

end Host

/-! ## 4. The lifecycle callbacks -/

variable (event : MirrorEvent)

theorem lifecyclePrepare_within : Respects Within (lifecyclePrepare event) :=
  .bind .get fun _ => .either (.pure _) <| .either (.pure _) <|
    .either (.pure _) <| stageRebind_within _

theorem lifecycleQuiesce_within : Respects Within (lifecycleQuiesce event) :=
  .bind readWorker_within fun _ => .either (.pure _) <|
    .bind (setAccepting_within false) fun _ => .either (.pure _) cancelPending_within

/-- Nothing pending, a view of the candidate's generation, online as the event says. -/
abbrev Took (event : MirrorEvent) (worker : CdevWorker) : Prop :=
  worker.pending = none ∧ worker.view.generation = event.candidate.generation ∧
    worker.online = decide (event.stateAfter = State.online)

/-- A commit that is refused changes nothing.  One that is taken finds nothing pending, and leaves a
view of the candidate's generation, online as the event says. -/
theorem lifecycleCommit_spec (s₀ : CdevSite) :
    Triple (fun _ _ => True) (· = s₀) (lifecycleCommit event) fun answer s =>
      if answer then Took event s.worker else s = s₀ := by
  refine .get_bind fun s hs => .ite (fun _ => .pure fun _ h => h.trans hs) fun hpend => ?_
  have hnone : s.worker.pending = none := by simpa using hpend
  have htaken : ∀ f : CdevWorker → CdevWorker, Took event (f s.worker) →
      Triple (fun _ _ => True) (· = s)
        (do update f; retireBackendBinding s.worker.backend; return true) fun answer s =>
          if answer then Took event s.worker else s = s₀ := by
    intro f htook
    refine .bind (.modify ?_) fun _ => .bind
      (.either (.modify fun _ h => ⟨trivial, h⟩) <| .skip) fun _ => .pure fun _ h => h
    rintro _ rfl
    exact ⟨trivial, htook⟩
  refine .ite (fun hgen => ?_) fun hgen => .either (.pure fun _ h => h.trans hs) ?_
  · cases s.worker.staged with
    | none => exact .pure fun _ h => h.trans hs
    | some staged =>
      refine .ite (fun _ => .pure fun _ h => h.trans hs) fun haccepts => ?_
      have hview : staged.1.generation = event.candidate.generation := by
        simp only [acceptsStaged, not_eq_false, and_eq_true, decide_eq_true_eq] at haccepts
        exact haccepts.1.1
      exact htaken _ ⟨hnone, hview, rfl⟩
  · exact htaken _ ⟨hnone, (not_not.1 hgen).symm, rfl⟩

/-- An abort goes by the state before the transaction, and by nothing that has happened since. -/
theorem lifecycleAbort_spec :
    ((lifecycleAbort event).run s).2.worker.view = s.worker.view ∧
    (((lifecycleAbort event).run s).2.worker.forced = true → s.worker.forced = true) ∧
    ((lifecycleAbort event).run s).2.worker.online = decide (event.stateBefore = State.online) :=
  have u := discardStagedRebind_within s
  ⟨u.view, u.forced, rfl⟩

theorem lifecycleLost_offline : ((lifecycleLost event).run s).2.worker.online = false :=
  (cancelPending_within _).online

end CdevWorker

end MetaFlux.Transport
