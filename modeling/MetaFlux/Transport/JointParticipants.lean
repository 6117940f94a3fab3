/-
# The two workers through a transaction

Each worker goes through its own phases (`MemfdWorker.Standing`, `CdevSite.Standing`), and is a
participant of the transaction (`JointRig.memfd_participant`, `JointRig.cdev_participant`).  What
the two have to know of each other is little.  The memfd worker calls nobody.  The cdev worker may
report a loss from inside its drain, and that leaves the memfd worker undisturbed but for taking it
offline (`JointRig.report_undisturbed`); but it takes the coordinator out of its state in the middle
of the transaction, so that the results are about transactions in which it cannot happen (`Hushed`),
or which go on to tell the workers that the device is lost anyway, the removals.
-/
import MetaFlux.Transport.Joint

namespace MetaFlux.Transport

open MetaFlux.Lifecycle Base CdevWorker

/-! ## 1. The cdev worker beside the memfd worker -/

/-- Whatever happens on the site leaves the memfd worker undisturbed. -/
theorem Undisturbed.of_site (h : Host Transports) (site : CdevSite) :
    Undisturbed h { h with world := (h.world.1, site) } :=
  ⟨rfl, rfl, rfl, id, [], by simp⟩

variable {f : MirrorEvent → Host Transports → Bool × Host Transports} {stage : MirrorStage}

section Beside

variable {apply : Request → Host Transports → ResultDetails × Host Transports}
  {config : Config Transports}

/-- The steps of the cdev worker, if the losses it reports leave the memfd worker undisturbed. -/
theorem steps_undisturbed
    (happly : ∀ request h, request.operation = .transportLoss → h.coordinator.config = config →
      Undisturbed h (apply request h).2)
    {h h' : Host Transports} (hsteps : CdevWorker.Steps apply h h')
    (hconfig : h.coordinator.config = config) : Undisturbed h h' := by
  induction hsteps with
  | refl => exact .refl h
  | tail _ hstep ih =>
    cases hstep with
    | within => exact ih.trans (.of_site _ _)
    | loss _ _ hreq => exact ih.trans (happly _ _ hreq (ih.config.trans hconfig))

variable (apply) in
/-- Up to the drain, a callback is a sequence of steps of the worker. -/
theorem cdev_callback_steps (hbefore : stage.beforeCommit)
    (hf : (lifecycleMirror apply).callback stage = some f) (event : MirrorEvent)
    (h : Host Transports) : CdevWorker.Steps apply h (f event h).2 := by
  rcases hbefore with rfl | rfl | rfl
  · cases hf
    exact onSite_respects (lifecyclePrepare_within event) h
  · cases hf
    exact onSite_respects (lifecycleQuiesce_within event) h
  · cases hf
    exact drainLifecycle_steps h

variable (apply) in
/-- From the commit on, a callback stays on the site. -/
theorem cdev_callback_site (hafter : ¬ stage.beforeCommit)
    (hf : (lifecycleMirror apply).callback stage = some f) (event : MirrorEvent)
    (h : Host Transports) : ∃ site, (f event h).2 = { h with world := (h.world.1, site) } := by
  cases stage with
  | prepare => exact absurd (.inl rfl) hafter
  | quiesce => exact absurd (.inr (.inl rfl)) hafter
  | drain => exact absurd (.inr (.inr rfl)) hafter
  | commit | abort =>
    cases hf
    exact ⟨_, rfl⟩
  | publishLost => cases hf

theorem cdev_foreign
    (happly : ∀ request h, request.operation = .transportLoss → h.coordinator.config = config →
      Undisturbed h (apply request h).2) :
    Foreign config (lifecycleMirror apply) where
  callback := by
    intro stage f hf event h hconfig
    by_cases hbefore : stage.beforeCommit
    · exact steps_undisturbed happly (cdev_callback_steps apply hbefore hf event h) hconfig
    · obtain ⟨site, hsite⟩ := cdev_callback_site apply hbefore hf event h
      rw [hsite]
      exact .of_site h site
  publishLost := by
    intro f hf event h _
    cases hf
    exact .of_site h _

end Beside

namespace JointRig

variable (rig : JointRig)

def memfdIndex : Nat := if rig.cdevFirst then 1 else 0

def cdevIndex : Nat := if rig.cdevFirst then 0 else 1

section Mirrors

variable (apply : Request → Host Transports → ResultDetails × Host Transports)

theorem mirrorsWith_memfd :
    (rig.mirrorsWith apply)[rig.memfdIndex]? = some MemfdWorker.lifecycleMirror := by
  unfold mirrorsWith memfdIndex
  cases rig.cdevFirst <;> rfl

/-- There are two mirrors. -/
theorem mirrorsWith_cases {i : Nat} {mirror : Mirror Transports}
    (h : (rig.mirrorsWith apply)[i]? = some mirror) :
    (i = rig.memfdIndex ∧ mirror = MemfdWorker.lifecycleMirror) ∨
      (i = rig.cdevIndex ∧ mirror = lifecycleMirror apply) := by
  revert h
  unfold mirrorsWith memfdIndex cdevIndex
  cases rig.cdevFirst <;> intro h <;> rcases i with _ | _ | i <;> cases h <;> simp

/-- A rig of the memfd worker, with the cdev worker as the other mirror. -/
def memfdRig (happly : ∀ request h, request.operation = .transportLoss →
    h.coordinator.config = rig.config → Undisturbed h (apply request h).2) : MemfdRig CdevSite where
  mirrors := rig.mirrorsWith apply
  index := rig.memfdIndex
  attached := rig.mirrorsWith_memfd apply
  config := rig.config
  others := by
    intro i mirror hi hmirror
    rcases rig.mirrorsWith_cases apply hmirror with ⟨hmemfd, -⟩ | ⟨-, rfl⟩
    · exact absurd hmemfd hi
    · exact cdev_foreign happly
  clockApart := by
    intro clock hclock world
    rw [rig.clock_eq hclock]
    rfl

end Mirrors

/-- A loss that the cdev worker reports leaves the memfd worker undisturbed. -/
theorem report_undisturbed (request : Request) (h : Host Transports)
    (hloss : request.operation = .transportLoss) (hconfig : h.coordinator.config = rig.config) :
    Undisturbed h (Lifecycle.apply rig.lossMirrors request h).2 :=
  loss_undisturbed (rig.memfdRig (fun _ h => ({}, h)) fun _ h _ _ => .refl h) hconfig hloss

/-- The clock is read on the site. -/
theorem ticks_site {world world' : Transports} (h : rig.config.Ticks world world') :
    world'.1 = world.1 ∧ Within world.2 world'.2 := by
  have hread : ∀ site : CdevSite, Within site site.readClock.2 := fun _ =>
    ⟨rfl, rfl, id, fun hquiet => { hquiet with }, fun _ => id, id⟩
  induction h with
  | refl => exact ⟨rfl, .refl _⟩
  | tail _ htick ih =>
    obtain ⟨clock, hclock, rfl⟩ := htick
    rw [rig.clock_eq hclock]
    exact ⟨ih.1, ih.2.trans (hread _)⟩

variable {rig} in
theorem expired_site {h : Host Transports} (hconfig : h.coordinator.config = rig.config)
    (deadlineTick : Nat) : ∃ site, Within h.world.2 site ∧
      (expired deadlineTick h).2 = { h with world := (h.world.1, site) } := by
  obtain ⟨⟨memfd, site⟩, hworld, hticks⟩ := expired_frame deadlineTick h
  rw [hconfig] at hticks
  obtain ⟨rfl, hsite⟩ := rig.ticks_site hticks
  exact ⟨site, hsite, hworld⟩

end JointRig

/-! ## 2. The workers through a transaction -/

/-- The memfd worker in the transaction `t₀`, from the worker `w₀`.  It is not brought online but by
a commit, and an abort brings back no more than there was. -/
def MemfdWorker.Standing (w : MemfdWorker) (t₀ : Transaction) (w₀ : MemfdWorker) : Phase → Prop
  | .idle => w.transactionActive = false ∧
      (w.online = true → w₀.online = true ∧ w.generation = w₀.generation)
  | .active => w.transactionActive = true ∧
      (w.previousOnline = true → w₀.online = true ∧ w.previousGeneration = w₀.generation)
  | .done => w.transactionActive = false ∧ w.generation = t₀.candidate.generation ∧
      (t₀.request.operation = .remove → w.online = false)

/-- The cdev worker likewise, from the site `s₀`.  What a removal that has not committed leaves does
not matter: the worker is told that the device is lost. -/
def CdevSite.Standing (s : CdevSite) (t₀ : Transaction) (s₀ : CdevSite) : Phase → Prop
  | .done => s.worker.forced = false ∧ s.worker.view.generation = t₀.candidate.generation ∧
      (t₀.request.operation = .remove → s.worker.online = false)
  | _ => t₀.request.operation ≠ .remove →
      s.worker.view.generation = s₀.worker.view.generation ∧
      (s.worker.forced = true → s₀.worker.forced = true) ∧
      (s.worker.online = true → t₀.oldState = .online)

namespace MemfdWorker.Standing

variable {t₀ : Transaction} {w₀ w w' : MemfdWorker} {p : Phase}

theorem undisturbed (h : w.Standing t₀ w₀ p) (hbooks : w'.books = w.books)
    (honline : w'.online = true → w.online = true) : w'.Standing t₀ w₀ p := by
  have hact : w'.transactionActive = w.transactionActive := active_of_books hbooks
  have hgen : w'.generation = w.generation := (congrArg MemfdWorker.generation hbooks :)
  have hpreviousOnline : w'.previousOnline = w.previousOnline :=
    (congrArg MemfdWorker.previousOnline hbooks :)
  have hprev : w'.previousGeneration = w.previousGeneration :=
    (congrArg MemfdWorker.previousGeneration hbooks :)
  cases p with
  | idle =>
    refine ⟨hact.trans h.1, fun h' => ?_⟩
    rw [hgen]
    exact h.2 (honline h')
  | active =>
    refine ⟨hact.trans h.1, fun h' => ?_⟩
    rw [hprev]
    exact h.2 (hpreviousOnline ▸ h')
  | done =>
    refine ⟨hact.trans h.1, hgen.trans h.2.1, fun hrem => ?_⟩
    exact Bool.eq_false_iff.2 fun h' => Bool.eq_false_iff.1 (h.2.2 hrem) (honline h')

theorem prepare (h : w.Standing t₀ w₀ .idle) (event : MirrorEvent) :
    (w.lifecyclePrepare event).2.Standing t₀ w₀
      (if (w.lifecyclePrepare event).1 then .active else .idle) := by
  unfold lifecyclePrepare
  split
  · exact h
  · exact ⟨rfl, h.2⟩

section

variable (h : w.Standing t₀ w₀ .active)

include h

theorem quiesce (event : MirrorEvent) : (w.lifecycleQuiesce event).2.Standing t₀ w₀ .active := by
  unfold lifecycleQuiesce
  split <;> exact h

theorem drain (event : MirrorEvent) : (w.lifecycleDrain event).2.Standing t₀ w₀ .active := by
  unfold lifecycleDrain
  split
  · exact h
  · split <;> exact h

theorem commit :
    (w.lifecycleCommit (t₀.event .commit)).2.Standing t₀ w₀
      (if (w.lifecycleCommit (t₀.event .commit)).1 then .done else .active) := by
  have hrem : t₀.request.operation = .remove → (t₀.event .commit).stateAfter = .absent := by
    intro hop
    simp [Transaction.event, eventState, hop]
  unfold lifecycleCommit
  split
  · exact h
  rename_i hstaged
  simp only [not_or, not_not] at hstaged
  obtain ⟨-, -, -, hgen, -⟩ := hstaged
  split
  · split
    · exact h
    · rename_i hnone
      simp only [not_or, not_not] at hnone
      exact ⟨rfl, (hgen.trans hnone.2.1).symm, fun _ => rfl⟩
  · rename_i hpresent
    split
    · exact h
    · exact ⟨rfl, hgen.symm, fun hop => absurd (hrem hop) hpresent⟩

end

theorem abort (h : w.Standing t₀ w₀ p) (hp : p ≠ .done) (event : MirrorEvent) :
    (w.lifecycleAbort event).2.Standing t₀ w₀ .idle := by
  unfold lifecycleAbort
  cases p with
  | idle => rwa [if_neg (by simp [h.1])]
  | active =>
    rw [if_pos h.1]
    exact ⟨rfl, h.2⟩
  | done => exact absurd rfl hp

end MemfdWorker.Standing

namespace CdevSite.Standing

variable {t₀ : Transaction} {s₀ s s' : CdevSite} {p q : Phase}

theorem within (h : s.Standing t₀ s₀ p) (u : Within s s') : s'.Standing t₀ s₀ p := by
  cases p with
  | idle | active =>
    intro hop
    obtain ⟨hview, hforced, honline⟩ := h hop
    rw [u.view, u.online]
    exact ⟨hview, fun h => hforced (u.forced h), honline⟩
  | done =>
    refine ⟨u.unforced h.1, ?_, ?_⟩
    · rw [u.view]
      exact h.2.1
    · rw [u.online]
      exact h.2.2

/-- Short of the commit the phases say the same of the site. -/
theorem before (h : s.Standing t₀ s₀ p) (hp : p ≠ .done) (hq : q ≠ .done) : s.Standing t₀ s₀ q := by
  cases p with
  | done => exact absurd rfl hp
  | idle | active =>
    cases q with
    | done => exact absurd rfl hq
    | idle | active => exact h

theorem commit (h : s.Standing t₀ s₀ .active) :
    ((lifecycleCommit (t₀.event .commit)).run s).2.Standing t₀ s₀
      (if ((lifecycleCommit (t₀.event .commit)).run s).1 then .done else .active) := by
  have hspec := (lifecycleCommit_spec (t₀.event .commit) s s rfl).2
  dsimp only at hspec
  split at hspec
  · rename_i htaken
    obtain ⟨hpend, hview, honline⟩ := hspec
    rw [if_pos htaken]
    refine ⟨?_, hview, fun hop => ?_⟩
    · rw [forced, hpend]
      rfl
    · rw [honline]
      simp [Transaction.event, eventState, hop]
  · rename_i hrefused
    rw [if_neg hrefused, hspec]
    exact h

theorem abort (h : s.Standing t₀ s₀ p) (hp : p ≠ .done) :
    ((lifecycleAbort (t₀.event .abort)).run s).2.Standing t₀ s₀ .idle := by
  intro hop
  obtain ⟨hview, hforced, honline⟩ := lifecycleAbort_spec s (t₀.event .abort)
  obtain ⟨hview₀, hforced₀, -⟩ := h.before (q := .idle) hp (by decide) hop
  rw [hview]
  exact ⟨hview₀, fun h => hforced₀ (hforced h), of_decide_eq_true⟩

end CdevSite.Standing

/-! ## 3. The workers as participants -/

namespace JointRig

variable (rig : JointRig) (t₀ : Transaction) (h₀ : Host Transports)

/-- The coordinator in the course of the transaction: if that is not a removal, nobody has called
it. -/
structure Course (h : Host Transports) : Prop where
  config : h.coordinator.config = rig.config
  kept : t₀.request.operation ≠ .remove → h.coordinator = h₀.coordinator

/-- Up to the commit: if the transaction is not a removal, the cdev worker has no loss to report. -/
structure Hushed (h : Host Transports) : Prop where
  config : h.coordinator.config = rig.config
  calm : t₀.request.operation ≠ .remove → CdevWorker.Calm h.world.2

variable {rig t₀ h₀} {h h' : Host Transports} {p : Phase}

theorem Course.of_coordinator (c : Course rig t₀ h₀ h) (heq : h'.coordinator = h.coordinator) :
    Course rig t₀ h₀ h' := by
  constructor
  · rw [heq]
    exact c.config
  · rw [heq]
    exact c.kept

theorem Hushed.within (u : Hushed rig t₀ h) {site : CdevSite} (hsite : Within h.world.2 site) :
    Hushed rig t₀ { h with world := (h.world.1, site) } :=
  ⟨u.config, fun hop => (u.calm hop).within hsite⟩

/-- A step of the cdev worker up to the commit. -/
theorem Hushed.steps (u : Hushed rig t₀ h)
    (hsteps : CdevWorker.Steps (Lifecycle.apply rig.lossMirrors) h h') :
    Undisturbed h h' ∧ Hushed rig t₀ h' ∧
      (t₀.request.operation ≠ .remove → ∃ site, Within h.world.2 site ∧
        h' = { h with world := (h.world.1, site) }) := by
  have hundisturbed := steps_undisturbed rig.report_undisturbed hsteps u.config
  refine ⟨hundisturbed, ⟨hundisturbed.config.trans u.config, fun hop => ?_⟩,
    fun hop => hsteps.within (u.calm hop)⟩
  obtain ⟨site, hsite, rfl⟩ := hsteps.within (u.calm hop)
  exact (u.calm hop).within hsite

theorem Course.steps (c : Course rig t₀ h₀ h) (u : Hushed rig t₀ h)
    (hsteps : CdevWorker.Steps (Lifecycle.apply rig.lossMirrors) h h') : Course rig t₀ h₀ h' := by
  obtain ⟨hundisturbed, -, hsite⟩ := u.steps hsteps
  refine ⟨hundisturbed.config.trans c.config, fun hop => ?_⟩
  obtain ⟨site, -, rfl⟩ := hsite hop
  exact c.kept hop

/-- A callback of the memfd worker, whatever it does to that. -/
theorem memfd_callback
    (hf : (MemfdWorker.lifecycleMirror (V := CdevSite)).callback stage = some f)
    (event : MirrorEvent)
    (h : Host Transports) :
    (f event h).2.coordinator = h.coordinator ∧ (f event h).2.world.2 = h.world.2 := by
  cases stage with
  | publishLost => cases hf
  | _ =>
    cases hf
    exact ⟨rfl, rfl⟩

theorem clock_hushed (tick : Nat) (u : Hushed rig t₀ h) : Hushed rig t₀ (expired tick h).2 := by
  obtain ⟨site, hsite, heq⟩ := expired_site u.config tick
  rw [heq]
  exact u.within hsite

/-- Every callback up to the drain leaves the cdev worker with nothing to report. -/
theorem callback_hushed {i : Nat} {m : Mirror Transports} (hm : rig.mirrors[i]? = some m)
    (hf : m.callback stage = some f) (hbefore : stage.beforeCommit) (u : Hushed rig t₀ h)
    (event : MirrorEvent) : Hushed rig t₀ (h.call i f event).2 := by
  rcases rig.mirrorsWith_cases _ hm with ⟨-, rfl⟩ | ⟨-, rfl⟩
  · obtain ⟨hcoord, hsite⟩ := memfd_callback hf event h
    constructor
    · exact (congrArg Coordinator.config hcoord).trans u.config
    · change _ → CdevWorker.Calm (f event h).2.world.2
      rw [hsite]
      exact u.calm
  · have hnext := (u.steps (cdev_callback_steps _ hbefore hf event h)).2.1
    exact ⟨hnext.config, hnext.calm⟩

variable (rig t₀ h₀)

/-- **The memfd worker takes part.** -/
theorem memfd_participant :
    Participant rig.mirrors MemfdWorker.lifecycleMirror rig.memfdIndex t₀ (Hushed rig t₀) fun p h =>
      Course rig t₀ h₀ h ∧ h.world.1.Standing t₀ h₀.world.1 p where
  attached := rig.mirrorsWith_memfd _
  total := memfd_total
  clock := by
    refine fun tick h => ⟨clock_hushed tick, fun p ⟨c, hstand⟩ => ?_⟩
    obtain ⟨site, -, heq⟩ := expired_site c.config tick
    rw [heq]
    exact ⟨c.of_coordinator rfl, hstand⟩
  early := fun _ _ _ _ hm hf hbefore _ u => callback_hushed hm hf hbefore u _
  own := by
    rintro stage f hasks hf h - ⟨c, hstand⟩
    refine ⟨c.of_coordinator (memfd_callback hf _ h).1, ?_⟩
    cases stage with
    | prepare =>
      cases hf
      exact hstand.prepare _
    | quiesce =>
      cases hf
      have hnext := hstand.quiesce (t₀.event .quiesce)
      split <;> exact hnext
    | drain =>
      cases hf
      have hnext := hstand.drain (t₀.event .drain)
      split <;> exact hnext
    | commit =>
      cases hf
      exact hstand.commit
    | abort => exact absurd rfl hasks.1
    | publishLost => exact absurd rfl hasks.2
  ownAbort := by
    rintro f hf p h hp ⟨c, hstand⟩
    cases hf
    exact ⟨c.of_coordinator rfl, hstand.abort hp _⟩
  other := by
    rintro i m stage f hi hm hf p h u ⟨c, hstand⟩
    rcases rig.mirrorsWith_cases _ hm with ⟨hmemfd, -⟩ | ⟨-, rfl⟩
    · exact absurd hmemfd hi
    by_cases hbefore : stage.beforeCommit
    · have hsteps := cdev_callback_steps _ hbefore hf (t₀.event stage) h
      obtain ⟨hundisturbed, -⟩ := (u hbefore).steps hsteps
      exact ⟨(c.steps (u hbefore) hsteps).of_coordinator rfl,
        hstand.undisturbed hundisturbed.books hundisturbed.online⟩
    · obtain ⟨site, hsite⟩ := cdev_callback_site _ hbefore hf (t₀.event stage) h
      rw [Host.call, hsite]
      exact ⟨c.of_coordinator rfl, hstand⟩

/-- **The cdev worker takes part.** -/
theorem cdev_participant :
    Participant rig.mirrors (lifecycleMirror (Lifecycle.apply rig.lossMirrors))
      rig.cdevIndex t₀ (Hushed rig t₀) fun p h =>
        Course rig t₀ h₀ h ∧ h.world.2.Standing t₀ h₀.world.2 p where
  attached := by
    unfold JointRig.mirrors JointRig.mirrorsWith JointRig.cdevIndex
    cases rig.cdevFirst <;> rfl
  total stage hstage := by
    cases stage with
    | publishLost => exact absurd rfl hstage
    | _ => exact Option.some_ne_none _
  clock := by
    refine fun tick h => ⟨clock_hushed tick, fun p ⟨c, hstand⟩ => ?_⟩
    obtain ⟨site, hsite, heq⟩ := expired_site c.config tick
    rw [heq]
    exact ⟨c.of_coordinator rfl, hstand.within hsite⟩
  early := fun _ _ _ _ hm hf hbefore _ u => callback_hushed hm hf hbefore u _
  own := by
    rintro stage f hasks hf h u ⟨c, hstand⟩
    by_cases hbefore : stage.beforeCommit
    · have hsteps := cdev_callback_steps _ hbefore hf (t₀.event stage) h
      refine ⟨(c.steps (u hbefore) hsteps).of_coordinator rfl, ?_⟩
      have hanswered : (if (h.call rig.cdevIndex f (t₀.event stage)).1 then stage.exit
          else stage.entry) ≠ .done := fun hdone =>
        MirrorStage.beforeCommit_ne_commit hbefore (MirrorStage.answered_eq_done.1 hdone).1
      suffices hnext : (f (t₀.event stage) h).2.world.2.Standing t₀ h₀.world.2 .idle from
        hnext.before (by decide) hanswered
      intro hop
      obtain ⟨site, hsite, heq⟩ := ((u hbefore).steps hsteps).2.2 hop
      rw [heq]
      exact (hstand.within hsite).before (q := .idle) stage.entry_ne_done (by decide) hop
    · cases MirrorStage.eq_commit_of_asks hasks hbefore
      cases hf
      exact ⟨c.of_coordinator rfl, hstand.commit⟩
  ownAbort := by
    rintro f hf p h hp ⟨c, hstand⟩
    cases hf
    exact ⟨c.of_coordinator rfl, hstand.abort hp⟩
  other := by
    rintro i m stage f hi hm hf p h - ⟨c, hstand⟩
    rcases rig.mirrorsWith_cases _ hm with ⟨-, rfl⟩ | ⟨hcdev, -⟩
    · obtain ⟨hcoord, hsite⟩ := memfd_callback hf (t₀.event stage) h
      refine ⟨c.of_coordinator hcoord, ?_⟩
      change CdevSite.Standing (f (t₀.event stage) h).2.world.2 _ _ _
      rw [hsite]
      exact hstand
    · exact absurd hcdev hi

end JointRig

end MetaFlux.Transport
