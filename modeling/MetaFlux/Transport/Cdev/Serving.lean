/-
# What the cdev worker serves

The programs of the worker, one after the other, with the books of `Account` as their assertion.
A request that has been taken is completed or stays pending, and what was acquired for it is given
back or stays with it (`serve_settles`); what is pending is completed once it is over
(`progressPending_settles`).  So a step of the worker leads from rest to rest, and so do a drain and
the lifecycle callbacks (`consumeOnce_keeps`, `drainLifecycle_keeps`, the last section).
-/
import MetaFlux.Transport.Cdev.Account

namespace MetaFlux.Transport

open MetaFlux.Lifecycle Base Triple Watch Option

namespace CdevWorker

open CdevSite

attribute [local simp] heldReferences

/-! ## 1. Losses that are reported -/

/-- A call back into the coordinator tells the worker of a loss, and does nothing else to it. -/
def Reports {M : Type}
    (apply : Request → CdevHost M → ResultDetails × CdevHost M) :
    Prop :=
  ∀ request h, request.operation = .transportLoss → Told h.world.2 (apply request h).2.world.2

section Host

variable {M : Type} {apply : Request → CdevHost M → ResultDetails × CdevHost M}
  {K : Prop} {core : CdevWorker} {memory : Memory} {w : Watch} {request : Descriptor} {α : Type}
  {Q : α → CdevSite → Prop} {x : StateM CdevSite α} {P : CdevSite → Prop} {s s' : CdevSite}

theorem onSite_leads (hx : Leads P x Q) :
    Leads (fun h : CdevHost M => P h.world.2) (onSite x) fun a h => Q a h.world.2 :=
  fun h hP => ⟨trivial, (hx h.world.2 hP).2⟩

theorem onSite_readWorker_bind {f : CdevWorker → StateM (CdevHost M) α}
    {Q : α → CdevHost M → Prop}
    (h : ∀ worker, Alike core worker → Leads (fun h => At K core memory w h.world.2) (f worker) Q) :
    Leads (fun h => At K core memory w h.world.2) (onSite readWorker >>= f) Q := fun h' hh =>
  h h'.world.2.worker hh.worker h' hh

/-- A loss that is reported is submitted as one. -/
theorem reportBackendLoss_told (hreports : Reports apply) (disconnect : DisconnectEvent)
    (h : CdevHost M) :
    Leads (· = h) (reportBackendLoss apply disconnect) fun _ h' => Told h.world.2 h'.world.2 := by
  have hread : Leads (· = h) (onSite readWorker) fun _ h' => h' = h :=
    fun _ hh => ⟨trivial, hh⟩
  refine hread.bind fun worker => .either (.answer (.refl _)) <| .modify_at trivial ?_
  rcases submitExternalEvent_cases apply (congrArg mappingFor disconnect.kind) h with
    heq | ⟨request, hreq, heq⟩
  · rw [heq]
    exact .refl _
  · rw [heq]
    exact hreports request h hreq

theorem told_idle (h : Told s s') (hpend : core.pending = none)
    (hs : At K core memory w s) : At K core memory w s' := by
  induction h with
  | refl => exact hs
  | outside _ script lossAnswered ih => exact ih.outside script lossAnswered
  | lost _ event ih => exact (lifecycleLost_idle hpend event _ ih).2

variable {p : PendingOperation}

theorem told_at (h : Told s s') (hpend : core.pending = some p) (hs : At K core memory w s) :
    ∃ p' w', Marked p w p' w' ∧ At K { core with pending := some p' } memory w' s' := by
  induction h with
  | refl =>
    exact ⟨p, w, .refl p w,
      { hs with worker := { hs.worker with pending := hs.worker.pending.trans hpend } }⟩
  | outside _ script lossAnswered ih =>
    obtain ⟨p', w', hmarked, hs'⟩ := ih
    exact ⟨p', w', hmarked, hs'.outside script lossAnswered⟩
  | lost _ event ih =>
    obtain ⟨p', w', hmarked, hs'⟩ := ih
    obtain ⟨p'', w'', hmarked', hs''⟩ := (lifecycleLost_at rfl event _ hs').2
    exact ⟨p'', w'', hmarked.trans hmarked', hs''⟩

variable {backend : BackendBinding} {memoryReference : Option MemoryReference}
  {f : CdevWorker → StateM CdevSite α} {resolution : Option CopyResolution} {status : BackendStatus}

/-- A binding with an event can be asked about it. -/
theorem asks_of_valid (hvalid : backend.valid = true)
    (hevent : backend.completionEvent ≠ 0) : backend.api.any (·.queryEvent) = true := by
  have hprovides : backend.validEvent = true := by
    simp only [BackendBinding.valid, BackendBinding.validCopy, BackendBinding.validRegionCopy,
      BackendBinding.validLaunch, Bool.and_eq_true, Bool.or_eq_true] at hvalid
    tauto
  simp only [BackendBinding.validEvent, hevent, decide_false, Bool.false_or,
    BackendBinding.provides, any_eq_true, Bool.and_eq_true] at hprovides ⊢
  obtain ⟨api, hapi, -, hquery⟩ := hprovides
  exact ⟨api, hapi, hquery⟩

theorem valid_of_bound (h : core.backendBound = true) : core.backend.valid = true := by
  simp only [backendBound, Bool.and_eq_true] at h
  exact h.1

theorem api_of_valid (h : backend.valid = true) : backend.api.isSome = true := by
  simp only [BackendBinding.valid, BackendBinding.validCopy, BackendBinding.validRegionCopy,
    BackendBinding.validLaunch, Bool.and_eq_true, Bool.or_eq_true] at h
  have hany : ∃ f, backend.api.any f = true := by
    rcases h.2 with (hcopy | hregion) | hlaunch
    · exact ⟨_, hcopy.2⟩
    · exact ⟨_, hregion.2⟩
    · exact ⟨_, hlaunch.2⟩
  obtain ⟨f, hf⟩ := hany
  cases hapi : backend.api with
  | none => simp [hapi] at hf
  | some => rfl

theorem validLease_of_valid (h : backend.valid = true) : backend.validLease = true := by
  simp only [BackendBinding.valid, Bool.and_eq_true] at h
  exact h.1.2

theorem heldReferences_filter (resolution : Option CopyResolution)
    (memoryReference : Option MemoryReference) (launchResolution : Option LaunchResolution) :
    heldReferences resolution memoryReference
        (launchResolution.filter (·.memoryReferences ≠ [])) =
      heldReferences resolution memoryReference launchResolution := by
  cases launchResolution with
  | none => rfl
  | some launch =>
    by_cases hnone : launch.memoryReferences = []
    · simp [Option.filter, hnone]
    · simp [Option.filter, hnone]

/-! ## 2. The end of a request -/

/-- **The end of a request that has gone to the backend.**  It is completed, or stays pending with
what it holds. -/
theorem finishBackendRequest_settles (hreports : Reports apply) {status : SharedStatus}
    {launchResolution : Option LaunchResolution} (hpend : core.pending = none)
    (hwrite : queueWritable memory core.view.completion = true)
    (hbound : core.backend.api.isSome = true → core.backendBound = true)
    (hlease : w.lease = leased core.backend)
    (hret : w.retained = heldReferences resolution memoryReference launchResolution)
    (hreleasable : ∀ reference ∈ heldReferences resolution memoryReference none,
    Releasable reference)
    (hgrounded : K → status ≠ .success ∨ core.backend.completionEvent = 0 → w.flight = none)
    (hflown : status = .success → core.backend.completionEvent ≠ 0 →
      core.backendBound = true ∧ w.flight = some core.backend.completionEvent) :
    Leads (fun h => At K core memory w h.world.2)
      (finishBackendRequest apply request status resolution memoryReference launchResolution)
      fun _ h => Settles (place core memory (some request)) h.world.2 := by
  refine .get_bind fun h hh => ?_
  have hevent : h.world.2.worker.backend.completionEvent = core.backend.completionEvent := by
    rw [hh.worker.backend]
  refine .ite (fun hdone => ?_) fun hmore => ?_
  · rw [hevent] at hdone
    have hfinish : Leads (At K core memory w)
        (do
          releaseReferences resolution memoryReference launchResolution
          releaseBackendLease (← readWorker).backend
          complete request status) fun _ s => Settles (place core memory (some request)) s := by
      rw [releaseReferences_eq hreleasable]
      refine pre ?_ (fun s hs => hs.ground fun hK => hgrounded hK hdone)
      refine bind (releaseAll_at _ hret fun _ => rfl) fun _ => ?_
      refine readWorker_bind_at fun worker hworker => ?_
      rw [hworker.backend]
      refine bind (releaseBackendLease_at hlease
        (fun hapi => validLease_of_valid (valid_of_bound (hbound hapi))) fun _ => rfl) fun _ => ?_
      exact complete_settles hpend ⟨rfl, rfl, rfl⟩ hwrite status
    refine .either ?_ <| (onSite_leads hfinish).start hh
    refine (reportBackendLoss_told hreports _ h).bind fun _ => ?_
    exact (onSite_leads hfinish).pre fun h' htold => told_idle htold hpend hh
  · rw [hevent] at hmore
    simp only [not_or, not_not] at hmore
    obtain ⟨hbound, hflight⟩ := hflown hmore.1 hmore.2
    have hvalid := valid_of_bound hbound
    refine start (onSite_leads ?_) hh
    refine bind ?_ fun _ => .skip
    refine .modify fun s hs => ⟨trivial, ?_⟩
    have hleft := hs.learn fun _ _ => trivial
    refine ⟨{ core with pending := some _ }, memory, [], ⟨w, { hleft with
      worker := ⟨hs.worker.view, hs.worker.backend, hs.worker.timeline, rfl⟩ }, ?_⟩,
      .still rfl rfl rfl rfl⟩
    rw [hs.worker.backend]
    refine ⟨⟨hvalid, rfl, asks_of_valid hvalid hmore.2, hreleasable⟩, ?_, ?_, .inr ⟨hflight, rfl⟩⟩
    · rw [hlease, leased_of_isSome (api_of_valid hvalid)]
    · rw [hret, PendingReferences, heldReferences_filter]

/-! ## 3. Serving a request -/

/-- A request that is in hand when the program starts is completed by it, or stays pending. -/
abbrev Serves (core : CdevWorker) (memory : Memory) (w : Watch) (request : Descriptor) {α : Type}
    (x : StateM (CdevHost M) α) : Prop :=
  Leads (fun h => At True core memory w h.world.2) x
    fun _ h => Settles (place core memory (some request)) h.world.2

section Dispatch

variable {copy : BackendCopy}

section

variable (hlease : w.lease ≠ none) (hflight : w.flight = none)
  (hnamed : K → ∀ reference ∈ w.named, reference.handle ∈ w.retained.map (·.handle))

include hlease hflight hnamed

theorem takeOff_safe (hK : K) (status : BackendStatus) : (w.takeOff backend status).Safe := by
  unfold takeOff
  split_ifs
  · exact fun _ => ⟨hlease, hnamed hK⟩
  · exact safe_of_grounded hflight

theorem backendCopy_at :
    Leads (At K core memory w) (backendCopy backend copy) fun status =>
      At K core memory (w.takeOff backend status) :=
  ask_at (fun _ => trivial) fun status hK _ =>
    ⟨takeOff_safe hlease hflight hnamed hK status, hflight⟩

theorem backendSubmit_at {launch : BackendLaunch} :
    Leads (At K core memory w) (backendSubmit backend launch) fun status =>
      At K core memory (w.takeOff backend status) :=
  ask_at (fun _ => trivial) fun status hK _ =>
    ⟨takeOff_safe hlease hflight hnamed hK status, hflight⟩

end

/-- Where a copy that is dispatched leaves the worker: in the air, if it was accepted under an
event. -/
def Dispatched (core : CdevWorker) (memory : Memory) (w : Watch) (status : BackendStatus)
    (s : CdevSite) : Prop :=
  At True core memory (w.takeOff core.backend status) s ∧
    (status = .success → core.backendBound = true)

theorem lease_ne_none (hlease : w.lease = leased core.backend) (hbound : core.backendBound = true) :
    w.lease ≠ none := by
  rw [hlease, leased_of_isSome (api_of_valid (valid_of_bound hbound))]
  exact some_ne_none _

/-- What is only done with a binding of the worker's generation. -/
theorem bound_bind_at {c : CdevWorker → Prop}
    [∀ worker : CdevWorker, Decidable (worker.backendBound = false ∨ c worker)] {a : α}
    (hrefused : ∀ s, At K core memory w s → Q a s)
    (h : ∀ worker, Alike core worker → core.backendBound = true →
    Leads (At K core memory w) (f worker) Q) :
    Leads (At K core memory w) (do
      let worker ← readWorker
      if worker.backendBound = false ∨ c worker then return a else f worker) Q := by
  refine readWorker_bind_at fun worker hworker => .ite (fun _ => .pure hrefused) fun hlive =>
    h worker hworker ?_
  rw [← hworker.bound]
  simpa using (not_or.1 hlive).1

section

variable (hlease : w.lease = leased core.backend) (hflight : w.flight = none)
  (hnamed : ∀ reference ∈ w.named, reference.handle ∈ w.retained.map (·.handle))

include hlease hflight hnamed

theorem dispatched_at (hbound : core.backendBound = true) :
    Leads (At True core memory w) (backendCopy core.backend copy) (Dispatched core memory w) :=
  (backendCopy_at (lease_ne_none hlease hbound) hflight fun _ => hnamed).post
    fun _ _ hs => ⟨hs, fun _ => hbound⟩

theorem dispatchCopy_at (base destination source byteCount : Nat) :
    Leads (At True core memory w) (dispatchCopy base destination source byteCount)
      (Dispatched core memory w) := by
  refine bound_bind_at (fun s hs => ⟨hs, nofun⟩) fun worker hworker hbound => ?_
  rw [hworker.backend]
  exact dispatched_at hlease hflight hnamed hbound

theorem dispatchRegionCopy_at (resolution : CopyResolution) :
    Leads (At True core memory w) (dispatchRegionCopy resolution) (Dispatched core memory w) := by
  refine bound_bind_at (fun s hs => ⟨hs, nofun⟩) fun worker hworker hbound => ?_
  rw [hworker.backend]
  exact dispatched_at hlease hflight hnamed hbound

end

theorem mapBackendStatus_success : mapBackendStatus status = .success ↔ status = .success := by
  cases status <;> simp [mapBackendStatus]

/-- A launch is in the air before anything is retained for it. -/
theorem dispatchLaunch_at {named : List MemoryReference} (request : Descriptor) :
    Leads (At True core memory ⟨leased core.backend, 0, named, none⟩) (dispatchLaunch request)
      fun answer s =>
        if answer.1 = .success then
          core.backendBound = true ∧
            At (answer.2.memoryReferences = []) core memory
              ⟨leased core.backend, 0, answer.2.memoryReferences,
                if core.backend.completionEvent = 0 then none else core.backend.completionEvent⟩ s
        else ∃ named, At True core memory ⟨leased core.backend, 0, named, none⟩ s := by
  refine bound_bind_at (fun s hs => ⟨named, hs⟩) fun worker hworker hbound => ?_
  rw [hworker.backend]
  have hresolve : Leads (At True core memory ⟨leased core.backend, 0, named, none⟩)
      (resolveLaunch core.backend request) fun answer s =>
        if answer.1 = .success then
          At (answer.2.memoryReferences = []) core memory
            ⟨leased core.backend, 0, answer.2.memoryReferences, none⟩ s
        else At True core memory ⟨leased core.backend, 0, named, none⟩ s := by
    refine post (.and (ask_at (fun _ => trivial) fun answer _ _ =>
      ⟨safe_of_grounded ?_, trivial⟩) ask_made) ?_
    · simp only [next]
      split_ifs <;> rfl
    rintro ⟨status, resolution⟩ s ⟨hs, hmade⟩
    simp only [next] at hs
    split_ifs at hs ⊢ with hstat
    · subst hstat
      exact hs.learn fun hbare _ => hbare _ _ _ hmade
    · exact hs
  refine hresolve.bind ?_
  rintro ⟨status, resolution⟩
  refine .if_ne (fun hstat => .pure fun s hs => ?_) ?_
  · rw [if_neg hstat] at hs ⊢
    exact ⟨named, hs⟩
  rintro rfl
  refine .either (.pure fun s hs => ?_) ?_
  · exact ⟨_, hs.learn fun _ _ => trivial⟩
  refine bind (backendSubmit_at (lease_ne_none rfl hbound) rfl ?_) fun status =>
    .pure fun s hs => ?_
  · intro hnone reference hmem
    rw [hnone] at hmem
    cases hmem
  split
  · obtain rfl := mapBackendStatus_success.1 ‹_›
    rw [takeOff_success] at hs
    exact ⟨hbound, hs⟩
  · rename_i hok
    rw [takeOff, if_neg fun h => hok (mapBackendStatus_success.2 h.1)] at hs
    exact ⟨resolution.memoryReferences, hs.learn fun _ _ => trivial⟩

end Dispatch

/-! The programs that serve a request start with nothing held and nothing pending, and with room for
one completion. -/

section Serve

variable (hreports : Reports apply) (hpend : core.pending = none)
  (hwrite : queueWritable memory core.view.completion = true) (hbooks : Books w none)

include hpend hwrite hbooks

/-- A lease that is not granted ends the request; one that is leads on. -/
theorem leased_settles {f : SharedStatus → StateM (CdevHost M) WorkerResult}
    (hrefused : ∀ status, status ≠ .success →
      f status = onSite (complete request status))
    (hgranted : ∀ named, (core.backend.api.isSome = true → core.backendBound = true ∧ named = []) →
      Serves core memory ⟨leased core.backend, 0, named, none⟩ request (f .success)) :
    Serves core memory w request (onSite acquireBackendLease >>= f) := by
  obtain ⟨hlease, hret, hflight⟩ := id hbooks
  refine (onSite_leads (acquireBackendLease_at hlease hflight)).bind fun status => ?_
  by_cases hstat : status = .success
  · subst hstat
    intro h hh
    obtain ⟨named, hbound, hs⟩ := hh
    have hw : { w with lease := leased core.backend, named } =
        ⟨leased core.backend, 0, named, none⟩ := by
      rw [hret, hflight]
    rw [hw] at hs
    exact hgranted named hbound h hs
  · simp only [if_neg hstat]
    rw [hrefused status hstat]
    exact onSite_leads (complete_settles hpend hbooks hwrite status)

theorem completed_settles (request : Descriptor) (status : SharedStatus) :
    Serves (M := M) core memory w request (onSite (complete request status)) :=
  onSite_leads (complete_settles hpend hbooks hwrite status)

include hreports

theorem serveLaunch_settles : Serves core memory w request (serveLaunch apply request) := by
  have hcompl := completed_settles (M := M) hpend hwrite hbooks request
  refine .either (hcompl _) ?_
  refine leased_settles hpend hwrite hbooks (fun status hstat => if_pos hstat)
    fun named hgranted => ?_
  have hbound := fun hapi => (hgranted hapi).1
  refine (onSite_leads (dispatchLaunch_at request)).bind ?_
  rintro ⟨status, resolution⟩
  refine .if_ne (fun hstat => ?_) ?_
  · simp only [if_neg hstat]
    rintro h ⟨named, hs⟩
    refine finishBackendRequest_settles hreports hpend hwrite hbound rfl rfl ?_ (fun _ _ => rfl)
      (fun h => absurd h hstat) h hs
    simp
  · rintro rfl
    refine .extract (fun _ h => h.1) fun hlive => .pre ?_ (fun _ h => h.2)
    -- where launches are bare there is nothing to retain, so that retaining cannot fail
    refine (onSite_leads (retainReferences_at resolution.memoryReferences (by rfl) .inl)).bind
      fun retainStatus => .if_ne (fun hrefused => ?_) ?_
    · simp only [if_neg hrefused]
      refine .extract (fun _ h => h.1) fun hvoid => .pre ?_ (fun _ h => h.2)
      refine finishBackendRequest_settles hreports hpend hwrite hbound rfl rfl ?_
        (fun hbare => absurd (hvoid hbare) hrefused) fun h => absurd h hrefused
      simp
    · rintro rfl
      refine pre ?_ (fun _ h => h.2)
      refine finishBackendRequest_settles hreports hpend hwrite hbound rfl ?_ ?_ ?_ ?_
      · simp
      · simp
      · rintro - (hfailed | hevent)
        · exact absurd rfl hfailed
        · exact if_pos hevent
      · exact fun _ hevent => ⟨hlive, if_neg hevent⟩

omit hbooks in
/-- A copy that has been dispatched with what it holds. -/
theorem dispatched_settles (hbound : core.backend.api.isSome = true → core.backendBound = true)
    (hlease : w.lease = leased core.backend)
    (hret : w.retained = heldReferences resolution memoryReference none)
    (hreleasable : ∀ reference ∈ heldReferences resolution memoryReference none,
    Releasable reference)
    (hflight : w.flight = none) :
    Leads (fun h => Dispatched core memory w status h.world.2)
      (finishBackendRequest apply request (mapBackendStatus status) resolution memoryReference)
      fun _ h => Settles (place core memory (some request)) h.world.2 := by
  refine .extract (fun _ h => h.2) fun hlive => .pre ?_ (fun _ h => h.1)
  by_cases hflown : status = .success ∧ core.backend.completionEvent ≠ 0
  · obtain ⟨rfl, hevent⟩ := hflown
    rw [takeOff, if_pos ⟨rfl, hevent⟩]
    refine finishBackendRequest_settles hreports hpend hwrite hbound hlease hret hreleasable
      ?_ fun _ _ => ⟨hlive rfl, rfl⟩
    rintro - (hfailed | hnone)
    · exact absurd rfl hfailed
    · exact absurd hnone hevent
  · rw [takeOff, if_neg hflown]
    refine finishBackendRequest_settles hreports hpend hwrite hbound hlease hret hreleasable
      (fun _ _ => hflight) fun hok hevent => ?_
    exact absurd ⟨mapBackendStatus_success.1 hok, hevent⟩ hflown

omit hreports hpend hwrite hbooks in
theorem release_of_validCopy (h : backend.validCopy = true)
    (hhandle : backend.memoryReference.handle ≠ 0) : backend.memoryReference.release ≠ 0 := by
  simp only [BackendBinding.validCopy, validOptionalMemoryReference, validMemoryReference,
    Bool.and_eq_true, Bool.or_eq_true, decide_eq_true_eq] at h
  rcases h.1.1.2 with hempty | href
  · rw [hempty] at hhandle
    exact absurd rfl hhandle
  · exact href.2.2.2

omit hreports hpend hwrite hbooks in
theorem releasable_of_valid {resolution : CopyResolution}
    (h : validCopyResolution resolution = true) :
    ∀ reference ∈ heldReferences (some resolution) none none, Releasable reference := by
  simp only [validCopyResolution, validMemoryReference, Bool.and_eq_true, decide_eq_true_eq] at h
  obtain ⟨⟨⟨hdest, hdhandle, -, hdrelease⟩, hsource, hshandle, -, hsrelease⟩, -⟩ := h
  intro reference hmem
  simp only [heldReferences, elim_some, toList_none, elim_none, List.append_nil,
    List.mem_cons, List.not_mem_nil, or_false] at hmem
  rcases hmem with rfl | rfl
  · exact ⟨by rw [hdhandle]; exact hdest, hdrelease⟩
  · exact ⟨by rw [hshandle]; exact hsource, hsrelease⟩

theorem serveRegionCopy_settles : Serves core memory w request (serveRegionCopy apply request) := by
  have hcompl := completed_settles (M := M) hpend hwrite hbooks request
  refine .either (hcompl _) ?_
  refine onSite_readWorker_bind fun worker hworker => .either (hcompl _) ?_
  refine leased_settles hpend hwrite hbooks (fun status hstat => if_pos hstat)
    fun named hgranted => ?_
  have hbound := fun hapi => (hgranted hapi).1
  rw [hworker.backend]
  have hresolve : Leads (At True core memory ⟨leased core.backend, 0, named, none⟩)
      (resolveCopy core.backend request) fun answer s =>
        ∃ named, (answer.1 = .success →
            named = [answer.2.destinationReference, answer.2.sourceReference]) ∧
          At True core memory ⟨leased core.backend, 0, named, none⟩ s := by
    refine post (ask_at (fun _ => trivial) fun answer _ _ =>
      ⟨safe_of_grounded ?_, trivial⟩) ?_
    · simp only [next]
      split_ifs <;> rfl
    · rintro ⟨status, resolution⟩ s hs
      simp only [next] at hs
      split_ifs at hs with hstat
      · exact ⟨_, fun _ => rfl, hs⟩
      · exact ⟨named, fun h => absurd h hstat, hs⟩
  refine (onSite_leads hresolve).bind ?_
  rintro ⟨status, resolution⟩
  have hfailed : ∀ status ≠ .success, ∀ named,
      Serves core memory ⟨leased core.backend, 0, named, none⟩ request
        (finishBackendRequest apply request status) := by
    intro status hstat named
    refine finishBackendRequest_settles hreports hpend hwrite hbound rfl rfl ?_ (fun _ _ => rfl)
      fun h => absurd h hstat
    simp
  refine .if_ne (fun hstat => ?_) fun hstat => .ite (fun _ => ?_) fun hvalid => ?_
  · rintro h ⟨named, -, hs⟩
    exact hfailed status hstat named h hs
  · rintro h ⟨named, -, hs⟩
    exact hfailed _ (by decide) named h hs
  subst hstat
  refine pre (P := fun h => At True core memory ⟨leased core.backend, 0,
    [resolution.destinationReference, resolution.sourceReference], none⟩ h.world.2) ?_ ?_
  · refine (onSite_leads (retainReferences_at _ (by rfl) fun _ => .inr rfl)).bind
      fun retainStatus => .if_ne (fun hrefused => ?_) ?_
    · simp only [if_neg hrefused]
      exact (hfailed _ hrefused _).pre fun _ h => h.2
    rintro rfl
    refine pre ?_ (fun _ h => h.2)
    refine (onSite_leads (dispatchRegionCopy_at rfl rfl ?_ resolution)).bind fun status => ?_
    · intro reference hmem
      exact Multiset.mem_map_of_mem _ (by simpa using hmem)
    · refine dispatched_settles hreports hpend hwrite hbound rfl ?_ ?_ rfl
      · simp
      · exact releasable_of_valid (by simpa using hvalid)
  · rintro h ⟨named, hnamed, hs⟩
    rw [hnamed rfl] at hs
    exact hs

/-- A copy in the payload.  Without a backend the worker moves the bytes, and no ring. -/
theorem servePayloadCopy_settles :
    Serves core memory w request (servePayloadCopy apply request) := by
  have hcompl := completed_settles (M := M) hpend hwrite hbooks request
  refine onSite_readWorker_bind fun worker hworker => .either (hcompl _) <|
    .either (hcompl _) <| .either (hcompl _) ?_
  rw [hworker.backend, hworker.view]
  refine .ite (fun hapi => .ite (fun _ => hcompl _) fun hvalid => ?_) fun _ => ?_
  · rw [Bool.not_eq_false] at hvalid
    refine leased_settles hpend hwrite hbooks (fun status hstat => if_pos hstat)
      fun named hgranted => ?_
    rw [if_neg (by simp)]
    obtain ⟨hlive, rfl⟩ := hgranted hapi
    refine .ite (fun hhandle => ?_) fun hhandle => ?_
    · rw [if_neg hhandle]
      have hreleasable : Releasable core.backend.memoryReference :=
        ⟨hhandle, release_of_validCopy hvalid hhandle⟩
      refine (onSite_leads (retain_at fun _ => rfl)).bind fun status =>
        .if_ne (fun hrefused => ?_) ?_
      · simp only [next, if_neg hrefused]
        refine onSite_leads (bind (releaseBackendLease_at rfl ?_ fun _ => rfl) fun _ => ?_)
        · exact fun _ => validLease_of_valid (valid_of_bound hlive)
        · exact complete_settles hpend ⟨rfl, rfl, rfl⟩ hwrite status
      · rintro rfl
        simp only [next]
        refine (onSite_leads (dispatchCopy_at rfl rfl ?_ _ _ _ _)).bind fun status => ?_
        · exact fun _ hmem => absurd hmem List.not_mem_nil
        · refine dispatched_settles hreports hpend hwrite (fun _ => hlive) rfl ?_ ?_ rfl
          · simp
          · simpa using hreleasable
    · rw [not_not] at hhandle
      rw [if_pos hhandle]
      refine (onSite_leads (dispatchCopy_at rfl rfl ?_ _ _ _ _)).bind fun status => ?_
      · exact fun _ hmem => absurd hmem List.not_mem_nil
      · exact dispatched_settles hreports hpend hwrite (fun _ => hlive) rfl rfl (by simp) rfl
  · set moved := memory.move (core.view.payload + request.arguments[3] + request.arguments[0])
      (core.view.payload + request.arguments[3] + request.arguments[1]) request.arguments[2]
    have hroom : queueWritable moved core.view.completion = true := hwrite
    refine onSite_leads (bind (Q := fun _ => At True core moved w) (.modify fun s hs =>
      ⟨trivial, { hs with memory := by rw [hs.memory] }⟩) fun _ => ?_)
    refine (complete_settles hpend hbooks hroom _).post fun _ s hs => ?_
    exact hs.of_turn (.still rfl rfl rfl rfl)

/-- **A request that has been taken** is completed, or stays pending. -/
theorem serve_settles : Serves core memory w request (serve apply request) := by
  have hcompl := completed_settles (M := M) hpend hwrite hbooks request
  refine onSite_readWorker_bind fun worker _ =>
    .either (hcompl _) <| .either (hcompl _) <|
      .either (hcompl _) <| .either (hcompl _) <|
        .either ?_ <| .either (hcompl _) <|
          .either (hcompl _) <| .either (hcompl _) <|
            .either ?_ ?_
  · exact serveLaunch_settles hreports hpend hwrite hbooks
  · exact serveRegionCopy_settles hreports hpend hwrite hbooks
  · exact servePayloadCopy_settles hreports hpend hwrite hbooks

end Serve

/-! ## 4. What is pending -/

/-- What is pending is given back once nothing is in the air. -/
theorem releasePending_at (hsound : Sound p)
    (hlease : w.lease = some p.backend) (hret : w.retained = PendingReferences p)
    (hflight : w.flight = none) :
    Leads (At K core memory w) (releasePending p) fun _ =>
    At K core memory ⟨none, 0, w.named, none⟩ := by
  have hapi := api_of_valid hsound.valid
  unfold releasePending
  rw [releaseReferences_eq hsound.releasable]
  refine bind (releaseAll_at _ hret fun _ => hflight) fun _ => ?_
  refine bind (releaseBackendLease_at
    (hlease.trans (leased_of_isSome hapi).symm) (fun _ => validLease_of_valid hsound.valid)
    fun _ => hflight) fun _ => ?_
  rw [hflight]
  exact .either (retireBackendBinding_at _) <| .skip

/-- **The end of a pending operation.**  Without room for its completion it stays. -/
theorem finishPending_settles (hpend : core.pending = some p)
    (hbooks : Books w (some p)) (hflight : w.flight = none) (status : SharedStatus) :
    Leads (At K core memory w) (finishPending p status) fun _ s =>
      Settles (restPlace core memory) s := by
  obtain ⟨hsound, hlease, hret, -⟩ := id hbooks
  have hrelease : ∀ {core' : CdevWorker} {memory' : Memory},
      Leads (At K core' memory' w)
        (do update fun worker : CdevWorker => { worker with pending := none }; releasePending p)
        fun _ s => Resting { core' with pending := none } memory' s := by
    intro core' memory'
    refine bind (update_at (c := { core' with pending := none }) fun worker h =>
      ⟨h.view, h.backend, h.timeline, rfl⟩) fun _ => ?_
    refine (releasePending_at hsound hlease hret hflight).post fun _ s hs => ?_
    exact ⟨_, hs.learn fun _ _ => trivial, rfl, rfl, rfl⟩
  refine (complete_at p.request status).bind fun result => .if_ne (fun hres => ?_) fun hfull =>
    .pure ?_
  · rintro s ⟨core', memory', hcompletes, hs⟩
    obtain ⟨events, hturn⟩ := hcompletes.turn hres
    refine ⟨trivial, { core' with pending := none }, memory', events, ?_, ?_⟩
    · exact (hrelease s hs).2
    · rw [restPlace, hpend]
      exact hturn
  · rintro s ⟨core', memory', hcompletes, hs⟩
    subst hfull
    cases hcompletes
    refine ⟨core, memory, [], ⟨w, hs.learn fun _ _ => trivial, ?_⟩, .refl _⟩
    rw [hpend]
    exact hbooks

/-- **A step with an operation pending.** -/
theorem progressPending_settles (hreports : Reports apply)
    (hpend : core.pending = some p) (hbooks : Books w (some p)) :
    Leads (fun h => At True core memory w h.world.2) (progressPending apply p)
      fun _ h => Settles (restPlace core memory) h.world.2 := by
  obtain ⟨hsound, hlease, hret, hflight⟩ := id hbooks
  refine .ite (fun hrequested => ?_) fun _ => .ite (fun hinvalid => ?_) fun _ => ?_
  · have hgrounded : w.flight = none := by
      rcases hflight with hnone | ⟨-, hunrequested⟩
      · exact hnone
      · simp [hrequested] at hunrequested
    exact onSite_leads (finishPending_settles hpend hbooks hgrounded _)
  · -- what is pending was bound, and its event can be asked about
    simp [hsound.valid, hsound.event, hsound.asks] at hinvalid
  · have hquery : Leads (At True core memory w) (backendQueryEvent p.backend p.event) fun answer =>
        At True core memory (if observed answer.1 answer.2 then w.grounded else w) := by
      refine post (ask_at (fun _ => trivial) fun answer _ hsafe => ⟨?_, trivial⟩) ?_
      · simp only [next]
        split_ifs
        · exact safe_of_grounded rfl
        · exact hsafe
      · rintro ⟨status, flag⟩ s hs
        change At True core memory
          (if w.flight = some p.event ∧ observed status flag then w.grounded else w) s at hs
        by_cases hobserved : observed status flag
        · rw [if_pos hobserved]
          rcases hflight with hnone | ⟨hsome, -⟩
          · rw [if_neg (by simp [hnone])] at hs
            exact hs.ground fun _ => hnone
          · rwa [if_pos ⟨hsome, hobserved⟩] at hs
        · rw [if_neg hobserved]
          rwa [if_neg fun h => hobserved h.2] at hs
    refine (onSite_leads hquery).bind ?_
    rintro ⟨status, flag⟩
    refine .ite (fun hunobserved => .pure fun h hs => ?_) fun hobserved => ?_
    · have hflying : ¬ observed status flag := not_not.2 hunobserved
      simp only [if_neg hflying] at hs
      refine ⟨core, memory, [], ⟨w, hs, ?_⟩, .refl _⟩
      rw [hpend]
      exact hbooks
    · simp only [if_pos (show observed status flag from hobserved)]
      have hbooks : Books w.grounded (some p) := ⟨hsound, hlease, hret, .inl rfl⟩
      have hend : ∀ status {core' : CdevWorker} {p' : PendingOperation} {w' : Watch},
          core'.pending = some p' → p'.backend = p.backend → Books w' (some p') → w'.flight = none →
          restPlace core' memory = restPlace core memory →
          Leads (At True core' memory w')
            (do
              let current := (← readWorker).pending.getD p
              finishPending { current with backend := p.backend } status)
            fun _ s => Settles (restPlace core memory) s := by
        intro status core' p' w' hpend' hbackend hbooks' hflight' hplace
        refine readWorker_bind_at fun worker hworker => ?_
        rw [hworker.pending, hpend', ← hbackend, ← hplace]
        exact finishPending_settles hpend' hbooks' hflight' status
      refine .either ?_ <| onSite_leads (hend _ hpend rfl hbooks rfl rfl)
      cases p.disconnectEvent with
      | none => exact onSite_leads (hend _ hpend rfl hbooks rfl rfl)
      | some disconnect =>
        refine bind (Q := fun _ h => ∃ p' w', Marked p w.grounded p' w' ∧
          At True { core with pending := some p' } memory w' h.world.2) ?_ fun _ => ?_
        · intro h hs
          exact ⟨trivial,
            told_at (reportBackendLoss_told hreports disconnect h h rfl).2 hpend hs⟩
        · rintro h ⟨p', w', hmarked, hs⟩
          have hflight' : w'.flight = none := hmarked.flight.elim id id
          refine onSite_leads
            (hend _ rfl hmarked.marks.backend (hmarked.booked hbooks) hflight' ?_) h hs
          simp [restPlace, place, hpend, hmarked.marks.request]

/-! ## 5. Steps and drains -/

theorem takeRequest_at :
    Leads (At K core memory w) takeRequest fun taken s =>
      match taken with
      | none => At K core memory w s
      | some request =>
        ∃ memory', consume memory core.view.submission = some (request, memory') ∧
          At K core memory' w s := by
  refine .get_bind fun s hs => ?_
  rw [hs.memory, hs.worker.view]
  cases hconsume : consume memory core.view.submission with
  | none =>
    exact .answer hs
  | some consumed =>
    refine bind (.set trivial { hs with memory := rfl })
      fun _ => .pure fun s hs => ⟨consumed.2, rfl, hs⟩

/-- Taking from one ring leaves another as it is. -/
theorem consume_rings {memory' : Memory} {header other : Nat}
    (h : consume memory header = some (request, memory')) (hother : other ≠ header) :
    memory'.rings other = memory.rings other := by
  unfold consume at h
  split_ifs at h
  cases h
  exact if_neg hother

/-- A request that is taken is at hand until it has been served. -/
theorem takeRequest_settles (hapart : core.view.completion ≠ core.view.submission)
    (hpend : core.pending = none) (hbooks : Books w none)
    (hwrite : queueWritable memory core.view.completion = true)
    {f : Descriptor → StateM (CdevHost M) WorkerResult} {otherwise : WorkerResult}
    (hf : ∀ {request : Descriptor} {memory' : Memory},
      queueWritable memory' core.view.completion = true →
      Serves core memory' w request (f request)) :
    Leads (fun h => At True core memory w h.world.2)
      (do
        match ← onSite takeRequest with
        | none => return otherwise
        | some request => f request)
      fun _ h => Settles (restPlace core memory) h.world.2 := by
  refine (onSite_leads takeRequest_at).bind fun taken => ?_
  cases taken with
  | none =>
    refine .pure fun h hh => ⟨core, memory, [], ⟨w, hh, ?_⟩, .refl _⟩
    rw [hpend]
    exact hbooks
  | some request =>
    rintro h ⟨memory', hconsume, hh⟩
    have hroom : queueWritable memory' core.view.completion = true := by
      simpa only [queueWritable, validQueue, consume_rings hconsume hapart] using hwrite
    have hturn : Turn (restPlace core memory) [.took core.view.submission request]
        (place core memory' (some request)) := by
      refine ⟨rfl, by simp [RingEvent.On, restPlace, place], Replays.refl.took hconsume,
        fun htally => Tally.took ?_⟩
      simpa [restPlace, place, hpend] using htally
    exact ⟨trivial, (hf hroom h hh).2.of_turn hturn⟩

/-- **A step of the worker** leads from rest to rest. -/
theorem consumeOnce_settles (hreports : Reports apply)
    (hapart : core.view.completion ≠ core.view.submission) :
    Leads (fun h => Resting core memory h.world.2) (consumeOnce apply)
      fun _ h => Settles (restPlace core memory) h.world.2 := by
  refine .get_bind fun h hrest => ?_
  obtain ⟨w, hs, hbooks⟩ := hrest
  refine start (P := fun h => At True core memory w h.world.2) ?_ hs
  have hsame : ∀ h : CdevHost M, At True core memory w h.world.2 →
      Settles (restPlace core memory) h.world.2 :=
        fun h hh => ⟨core, memory, [], ⟨w, hh, hbooks⟩, .refl _⟩
  dsimp only
  rw [hs.worker.view, hs.memory, hs.worker.pending]
  refine .either (.pure hsame) ?_
  cases hpend : core.pending with
  | some =>
    rw [hpend] at hbooks
    exact progressPending_settles hreports hpend hbooks
  | none =>
    rw [hpend] at hbooks
    have hroom : ¬ queueWritable memory core.view.completion = false →
        queueWritable memory core.view.completion = true := fun h => by simpa using h
    refine .either ?_ <| .either (.pure hsame) ?_
    · refine .either (.pure hsame) <| .ite (fun _ => .pure hsame) fun hwrite => ?_
      exact takeRequest_settles hapart hpend hbooks (hroom hwrite)
        fun hroom => onSite_leads (complete_settles hpend hbooks hroom _)
    · refine .either (.pure hsame) <| .ite (fun _ => .pure hsame) fun hwrite => ?_
      exact takeRequest_settles hapart hpend hbooks (hroom hwrite)
        fun hroom => serve_settles hreports hpend hroom hbooks

section

variable {p : Place} (hreports : Reports apply) (hapart : p.view.completion ≠ p.view.submission)

include hreports hapart

/-- Steps go on from where the worker has come to rest. -/
theorem consumeOnce_keeps :
    Leads (fun h => Settles p h.world.2) (consumeOnce apply) fun _ h => Settles p h.world.2 := by
  rintro h ⟨core, memory, events, hrest, hturn⟩
  have hview : core.view = p.view := hturn.view
  refine ⟨trivial, ((consumeOnce_settles hreports ?_ h hrest).2).of_turn hturn⟩
  rw [hview]
  exact hapart

theorem drain_keeps (maximum : Nat) :
    Leads (fun h => Settles p h.world.2) (drain apply maximum) fun _ h => Settles p h.world.2 := by
  induction maximum with
  | zero => exact .skip
  | succ _ ih =>
    refine (consumeOnce_keeps hreports hapart).bind fun result => .either ?_ <| .skip
    exact ih.bind fun _ => .skip

theorem drainSteps_keeps (count : Nat) :
    Leads (fun h => Settles p h.world.2) (drainSteps apply count) fun _ h =>
    Settles p h.world.2 := by
  induction count with
  | zero => exact fun h hh => ⟨trivial, hh⟩
  | succ _ ih =>
    refine .look_bind fun _ _ => .either .skip ?_
    exact (consumeOnce_keeps hreports hapart).bind fun result =>
      .either .skip ih

end

variable {p : Place} (event : MirrorEvent)

/-- A change of the worker's switches and of the marks on what is pending. -/
theorem update_keeps {f : CdevWorker → CdevWorker}
    {g : PendingOperation → PendingOperation} (hview : ∀ worker, (f worker).view = worker.view)
    (htime : ∀ worker, (f worker).timeline = worker.timeline)
    (hpend : ∀ worker, (f worker).pending = worker.pending.map g)
    (hmarks : ∀ pending, Marks pending (g pending) ∧
      (g pending).cancellationRequested = pending.cancellationRequested) :
    Leads (Settles p) (update f) fun _ => Settles p := by
  rintro s ⟨core, memory, events, ⟨w, hs, hbooks⟩, hturn⟩
  refine ⟨trivial, f s.worker, memory, events, ⟨w, { hs with worker := .refl _ }, ?_⟩, ?_⟩
  · rw [hpend, hs.worker.pending]
    cases hcore : core.pending with
    | none =>
      rw [hcore] at hbooks
      exact hbooks
    | some pending =>
      rw [hcore] at hbooks
      refine Marked.booked ⟨(hmarks pending).1, rfl, .inl rfl, fun h => .inl ?_⟩ hbooks
      exact (hmarks pending).2 ▸ h
  · have hplace : restPlace (f s.worker) memory = restPlace core memory := by
      simp only [restPlace, place, hview, htime, hpend, hs.worker.view, hs.worker.timeline,
        hs.worker.pending, map_map]
      congr 2
      exact funext fun pending => (hmarks pending).1.request
    rw [hplace]
    exact hturn

/-- The worker's switches alone. -/
theorem switch_keeps {f : CdevWorker → CdevWorker} (hview : ∀ worker, (f worker).view = worker.view)
    (htime : ∀ worker, (f worker).timeline = worker.timeline)
    (hpend : ∀ worker, (f worker).pending = worker.pending) :
    Leads (Settles p) (update f) fun _ => Settles p :=
  update_keeps (g := id) hview htime (fun worker => by rw [hpend, map_id]; rfl)
    fun pending => ⟨.refl pending, rfl⟩

/-- **A drain of the worker** leads from rest to rest. -/
theorem drainLifecycle_keeps (hreports : Reports apply)
    (hapart : p.view.completion ≠ p.view.submission) :
    Leads (fun h => Settles p h.world.2) (drainLifecycle apply) fun _ h => Settles p h.world.2 := by
  have hswitch := fun accepting => onSite_leads (M := M) (switch_keeps (p := p)
    (f := fun worker : CdevWorker => { worker with accepting }) (fun _ => rfl) (fun _ => rfl)
    fun _ => rfl)
  have hqueue : Leads (fun h => Settles p h.world.2) (do
      let site := (← get).world.2
      drainSteps apply (site.memory.rings site.worker.view.submission).metadata.capacity)
      fun _ h => Settles p h.world.2 := .look_bind fun _ _ => drainSteps_keeps hreports hapart _
  have hall : Leads (fun h => Settles p h.world.2) (drainAll apply) fun _ h =>
      Settles p h.world.2 := by
    refine .look_bind fun _ _ => .either ?_ hqueue
    exact (consumeOnce_keeps hreports hapart).bind fun _ => .either .skip hqueue
  refine .look_bind fun _ _ => .either .skip ?_
  exact (hswitch _).bind fun _ => hall.bind fun _ => (hswitch _).bind fun _ => .skip

/-! ## 6. The other operations -/

section Keeps

/-- What holds of the books and leaves place and memory alone goes on from where the worker rests.
-/
theorem keeps_of_at
    (hx : ∀ {core : CdevWorker} {memory : Memory} {w : Watch},
      Leads (At True core memory w) x fun _ => At True core memory w) :
    Leads (Settles p) x fun _ => Settles p := by
  rintro s ⟨core, memory, events, ⟨w, hs, hbooks⟩, hturn⟩
  exact ⟨trivial, core, memory, events, ⟨w, (hx s hs).2, hbooks⟩, hturn⟩

theorem readWorker_bind_keeps (h : ∀ worker, Leads P (f worker) Q) :
    Leads P (readWorker >>= f) Q := fun s hs => h s.worker s hs

theorem attachLifecycle_keeps (snapshot : Snapshot) :
    Leads (Settles p) (update (attachLifecycle snapshot)) fun _ => Settles p :=
  update_keeps (fun _ => rfl) (fun _ => rfl) (fun _ => rfl)
    fun _ => ⟨⟨rfl, rfl, rfl, rfl, fun h => { h with }⟩, rfl⟩

/-- A new binding leaves the pending operation with its own. -/
theorem bindBackend_keeps (backend : BackendBinding) :
    Leads (Settles p) (bindBackend backend) fun _ => Settles p := by
  have hdone : Leads (Settles p) (pure true) fun _ => Settles p :=
    .skip
  have hretire := fun backend => keeps_of_at (p := p) (retireBackendBinding_at backend)
  refine readWorker_bind_keeps fun worker => .either .skip <| .either hdone ?_
  cases worker.pending with
  | none =>
    refine bind (switch_keeps (fun _ => rfl) (fun _ => rfl) fun _ => rfl) fun _ => ?_
    exact (hretire _).bind fun _ => hdone
  | some pending =>
    have hbind : Leads (Settles p) (update fun worker : CdevWorker =>
        { worker with
          backend
          pending := worker.pending.map fun pending =>
            { pending with retireBackend := decide (backend ≠ pending.backend) } })
        fun _ => Settles p :=
      update_keeps (fun _ => rfl) (fun _ => rfl) (fun _ => rfl)
        fun _ => ⟨⟨rfl, rfl, rfl, rfl, fun h => { h with }⟩, rfl⟩
    refine .either ?_ <| hbind.bind fun _ => hdone
    exact (hretire _).bind fun _ => hbind.bind fun _ => hdone

/-- Marks on what is pending are no turn. -/
theorem keeps_of_marked
    (hidle : ∀ {core : CdevWorker} {memory : Memory} {w : Watch}, core.pending = none →
      Leads (At True core memory w) x fun _ => At True core memory w)
    (hmarked : ∀ {core : CdevWorker} {memory : Memory} {w : Watch} {pending : PendingOperation},
      core.pending = some pending → Leads (At True core memory w) x fun _ s =>
        ∃ p' w', Marked pending w p' w' ∧ At True { core with pending := some p' } memory w' s) :
    Leads (Settles p) x fun _ => Settles p := by
  rintro s ⟨core, memory, events, ⟨w, hs, hbooks⟩, hturn⟩
  refine ⟨trivial, ?_⟩
  cases hpend : core.pending with
  | none => exact ⟨core, memory, events, ⟨w, (hidle hpend s hs).2, hbooks⟩, hturn⟩
  | some pending =>
    obtain ⟨p', w', hafter, hs'⟩ := (hmarked hpend s hs).2
    rw [hpend] at hbooks
    refine ⟨{ core with pending := some p' }, memory, events, ⟨w', hs', hafter.booked hbooks⟩, ?_⟩
    have hplace : restPlace { core with pending := some p' } memory = restPlace core memory := by
      simp [restPlace, place, hpend, hafter.marks.request]
    rw [hplace]
    exact hturn

theorem lifecycleLost_keeps : Leads (Settles p) (lifecycleLost event) fun _ => Settles p :=
  keeps_of_marked (fun hpend => lifecycleLost_idle hpend event)
    fun hpend => lifecycleLost_at hpend event

theorem lifecycleQuiesce_keeps : Leads (Settles p) (lifecycleQuiesce event) fun _ => Settles p := by
  refine readWorker_bind_keeps fun worker => .either .skip ?_
  refine bind (switch_keeps (fun _ => rfl) (fun _ => rfl) fun _ => rfl) fun _ =>
    .either .skip ?_
  exact keeps_of_marked (cancelPending_idle) cancelPending_at

theorem lifecycleAbort_keeps : Leads (Settles p) (lifecycleAbort event) fun _ => Settles p := by
  refine (keeps_of_at discardStagedRebind_at).bind fun _ => ?_
  exact bind (switch_keeps (fun _ => rfl) (fun _ => rfl) fun _ => rfl) fun _ =>
    .skip

end Keeps

section Views

/-- Rings that are set up for a new generation are not the worker's doing. -/
theorem lifecyclePrepare_rests :
    Leads (Resting core memory) (lifecyclePrepare event) fun _ s =>
      ∃ memory', Resting core memory' s := by
  rintro s ⟨w, hs, hbooks⟩
  have hsame : ∀ s, At True core memory w s → ∃ memory', Resting core memory' s := fun s hs =>
    ⟨memory, w, hs, hbooks⟩
  have hstage : Leads (At True core memory w) (stageRebind event.candidate.generation) fun _ s =>
      ∃ memory', Resting core memory' s := by
    refine readWorker_bind_at fun worker hworker => .either (.pure hsame) ?_
    have hrebind : Leads (At True core memory w)
        (callRebind worker.backend event.candidate.generation) fun _ s =>
          ∃ memory', At True core memory' w s := by
      refine bind (Q := fun _ => At True core memory w) ?_ fun rebind => ?_
      · exact ask_at (fun _ => trivial) fun _ _ hsafe => ⟨hsafe, trivial⟩
      · refine bind
          (.modify fun s hs => ⟨trivial, _, { hs with memory := rfl }⟩) fun _ => .skip
    refine hrebind.bind fun rebind => .look_bind fun site _ => .either ?_ ?_
    · rintro s ⟨memory', hs⟩
      exact ⟨trivial, memory', w, (retireBackendBinding_at rebind.backend s hs).2, hbooks⟩
    · rintro s ⟨memory', hs⟩
      exact ⟨trivial, memory', w, { hs with worker := { hs.worker with } }, hbooks⟩
  have hprepare : Leads (At True core memory w) (lifecyclePrepare event) fun _ s =>
      ∃ memory', Resting core memory' s :=
    .look_bind fun _ _ => .either (.pure hsame) <| .either (.pure hsame) <|
      .either (.pure hsame) hstage
  exact hprepare s hs

/-- The two rings of a view that is accepted have different numbers. -/
theorem apart_of_accepts {generation : Nat} {view : QueueView}
    (h : acceptsStaged memory generation view backend = true) :
    view.completion ≠ view.submission := by
  simp only [acceptsStaged, validWorkerQueueView, Bool.and_eq_true, decide_eq_true_eq] at h
  obtain ⟨⟨-, -, -, -, hsubmission, hcompletion, -⟩, -⟩ := h
  intro heq
  rw [heq, hsubmission] at hcompletion
  exact absurd hcompletion (by decide)

/-- At rest, perhaps over other rings, with the timeline and the pending request it had. -/
abbrev Rested (core : CdevWorker) (memory : Memory) (s : CdevSite) : Prop :=
  ∃ core', Resting core' memory s ∧ core'.view.completion ≠ core'.view.submission ∧
    core'.timeline = core.timeline ∧ core'.pending = core.pending

/-- A commit that is taken finds nothing pending, and rings that are apart. -/
theorem lifecycleCommit_rests (hapart : core.view.completion ≠ core.view.submission) :
    Leads (Resting core memory) (lifecycleCommit event) fun _ => Rested core memory := by
  rintro s ⟨w, hs, hbooks⟩
  have hcommit : Leads (At True core memory w) (lifecycleCommit event) fun _ =>
      Rested core memory := by
    have hsame : ∀ s, At True core memory w s → Rested core memory s := fun s hs =>
      ⟨core, ⟨w, hs, hbooks⟩, hapart, rfl, rfl⟩
    -- what takes the view over leaves timeline and books alone
    have htaken : ∀ view backend previous f,
        view.completion ≠ view.submission →
        (∀ worker, Alike core worker → Alike { core with view, backend } (f worker)) →
        Leads (At True core memory w) (do update f; retireBackendBinding previous; return true)
          fun _ => Rested core memory := by
      intro view backend previous f hview hf
      refine bind (update_at hf) fun _ => (retireBackendBinding_at previous).bind fun _ =>
        .pure fun s hs => ?_
      exact ⟨{ core with view, backend }, ⟨w, hs, hbooks⟩, hview, rfl, rfl⟩
    refine .get_bind fun site hsite => start ?_ hsite
    refine .either (.pure hsame) <| .either ?_ <| .either (.pure hsame) ?_
    · cases site.worker.staged with
      | none => exact .pure hsame
      | some staged =>
        refine .ite (fun _ => .pure hsame) fun haccepts => ?_
        rw [Bool.not_eq_false] at haccepts
        exact htaken staged.1 staged.2 _ _ (apart_of_accepts haccepts) fun worker h =>
          ⟨rfl, rfl, h.timeline, h.pending⟩
    · exact htaken { core.view with generation := 0 } {} _ _ hapart fun worker h =>
        ⟨by rw [← h.view], rfl, h.timeline, h.pending⟩
  exact hcommit s hs

end Views

end Host

end CdevWorker

end MetaFlux.Transport
