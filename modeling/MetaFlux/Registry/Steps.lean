/-
# One call

What every call of the interface can do (`step_cases`): moves of the parts it is about, or a device
under a new identity.  The calls keep what they rely on (`Sound`): nothing is under way and no
reference held between two of them, the queue is in order, the tags fit their words, and a view that
has ended has no device open.
-/
import MetaFlux.Base.Run
import MetaFlux.Registry.Closing
import MetaFlux.Registry.Identity
import MetaFlux.Registry.Telemetry

namespace MetaFlux.Registry

open Base

variable {K : Part → Prop} {s s' : Mapping}

/-! ## 1. What each call writes -/

/-- What marking a device lost writes. -/
def losing (index lifecycleSequence epoch : Nat) : Part → Prop
  | .admission i => i = index
  | .fenceLatch i => i = index
  | .fence i fence => i = index ∧ fence.lifecycleSequence = lifecycleSequence ∧
      fence.epoch = epoch ∧ fence.deviceState = .lost
  | _ => False

def footprint : Call → Part → Prop
  | .beginAdmission .. | .commitAdmission _ | .releaseAdmission _ => Eq .admissions
  | .helpAdmission .. | .recoverOwner .. | .recover _ => recovering
  | .reserveLifecycleRange .. | .retireLifecycleRange .. => queueing
  | .publishFence _ index _ intended => fencing index intended
  | .markDeviceLost index lifecycleSequence epoch => losing index lifecycleSequence epoch
  | .publishDeviceIdentity index .. => latching index
  | .publishTelemetry .. => telemetering
  | .close .. => closing

/-! ## 2. What the calls rely on -/

structure Sound (s : Mapping) : Prop where
  calm : Calm s
  queued : ∃ q, Queued s q
  attemptTags : ∀ slot, (s.attempts slot).word.tag < 2 ^ 24
  leaseTags : ∀ slot, (s.leases slot).word.tag < 2 ^ 24
  unheld : ∀ table slot, held s table slot = 0
  ended : ViewState.ended s.viewAdmission.state → AllClosed s

theorem SlotStep.tag_lt {α ρ : Type} {rank : α → Nat} {initial : α} {old new : Cell α ρ}
    (h : SlotStep rank initial old new) (hold : old.word.tag < 2 ^ 24) : new.word.tag < 2 ^ 24 := by
  have hmax : recordTagMaxNormal < 2 ^ 24 := by decide
  have hterminal : recordTagTerminal < 2 ^ 24 := by decide
  cases h with
  | refer hword => rwa [hword]
  | fill hword => rwa [hword]
  | advance htag _ _ =>
    rw [htag]
    exact Nat.mod_lt _ (by decide)
  | claim => omega
  | terminal htag => rwa [htag]

theorem Move.attemptTags (m : Move K s s') (h : ∀ slot, (s.attempts slot).word.tag < 2 ^ 24) :
    ∀ slot, (s'.attempts slot).word.tag < 2 ^ 24 := fun slot => (m.attemptStep slot).tag_lt (h slot)

theorem Move.leaseTags (m : Move K s s') (h : ∀ slot, (s.leases slot).word.tag < 2 ^ 24) :
    ∀ slot, (s'.leases slot).word.tag < 2 ^ 24 := fun slot => (m.leaseStep slot).tag_lt (h slot)

theorem Move.ended (m : Move K s s') (h : ViewState.ended s.viewAdmission.state → AllClosed s) :
    ViewState.ended s'.viewAdmission.state → AllClosed s' := by
  have hstays : AllClosed s → AllClosed s' := fun hclosed i hi =>
    m.closed_stays (hclosed i (m.kept.deviceCount ▸ hi))
  cases m with
  | view _ _ hended => exact hended
  | link =>
    rw [linkRange_eq] at hstays ⊢
    exact fun hend => hstays (h hend)
  | _ => exact fun hend => hstays (h hend)

theorem Does.sound (d : Does K s s') (h : Sound s) (hcalm : Calm s') : Sound s' where
  calm := hcalm
  queued := by
    obtain ⟨q, hq⟩ := h.queued
    obtain ⟨q', hq', -⟩ := d.queued hq
    exact ⟨q', hq'⟩
  attemptTags := Moves.keeps (fun _ _ m => m.attemptTags) d.moves h.attemptTags
  leaseTags := Moves.keeps (fun _ _ m => m.leaseTags) d.moves h.leaseTags
  unheld := by
    rw [d.held]
    exact h.unheld
  ended := Moves.keeps (fun _ _ m => m.ended) d.moves h.ended

theorem relabelled_sound {index next nextGeneration : Nat} {intended : FenceSnapshot}
    (hview : s.viewAdmission.state = .open) (h : Sound s) :
    Sound (relabelled index next nextGeneration intended s) where
  calm := ⟨h.calm.updates, h.calm.telemetry⟩
  queued := by
    obtain ⟨q, hq⟩ := h.queued
    exact ⟨q, And.left (hq.same ⟨rfl, rfl, rfl, rfl⟩ id rfl rfl rfl)⟩
  attemptTags := h.attemptTags
  leaseTags := h.leaseTags
  unheld := h.unheld
  ended hended := by
    change ViewState.ended s.viewAdmission.state at hended
    rw [hview] at hended
    exact hended.elim

/-! ## 3. One call -/

def Succeeds (s : Mapping) (c : Call) : Prop := (call s c).1 = .success
deriving Decidable

/-- The call changes what it is about and nothing else, and leaves nothing under way. -/
structure Ordinary (s : Mapping) (c : Call) : Prop where
  does : Does (footprint c) s (step s c)
  calm : Calm (step s c)
  names : ∀ index next nextGeneration intended, ¬ Renames index next nextGeneration intended s c

/-- **What a call can do.** -/
theorem step_does (h : Sound s) (c : Call) :
    Ordinary s c ∨ ∃ index next nextGeneration intended,
      Renames index next nextGeneration intended s c ∧
        step s c = relabelled index next nextGeneration intended s := by
  -- what leaves nothing under way by its footprint alone
  have hcalm : ∀ {c : Call}, Does (footprint c) s (step s c) → ¬ footprint c .pendingUpdate →
      ¬ footprint c .pendingTelemetry → Calm (step s c) := fun hdoes hupdate htel =>
    hdoes.calm hupdate htel h.calm
  cases c with
  | publishDeviceIdentity =>
    rcases (publishDeviceIdentity_cases s rfl).2 with ⟨-, hrel, hafter⟩ | ⟨-, hnot, hdoes⟩
    · exact .inr ⟨_, _, _, _, ⟨_, _, rfl, hrel⟩, hafter⟩
    · refine .inl ⟨hdoes, hcalm hdoes id id, ?_⟩
      rintro _ _ _ _ ⟨_, _, ⟨⟩, hrel⟩
      exact hnot hrel
  | beginAdmission caller index deadlineNs operationCookie targetCookie =>
    obtain ⟨hdoes, -⟩ :=
      (beginAdmission_does rfl caller index deadlineNs operationCookie targetCookie
      s).map statusOf s rfl
    exact .inl ⟨hdoes, hcalm hdoes (by simp [footprint]) (by simp [footprint]), nofun⟩
  | commitAdmission token =>
    obtain ⟨hdoes, -⟩ := commitAdmission_does rfl token s s rfl
    exact .inl ⟨hdoes, hcalm hdoes (by simp [footprint]) (by simp [footprint]), nofun⟩
  | releaseAdmission token =>
    obtain ⟨hdoes, -⟩ := releaseAdmission_does rfl token s s rfl
    exact .inl ⟨hdoes, hcalm hdoes (by simp [footprint]) (by simp [footprint]), nofun⟩
  | helpAdmission token ownerMayStillRun =>
    obtain ⟨hdoes, hafter⟩ := helpAdmission_does token ownerMayStillRun s h.calm
    exact .inl ⟨hdoes, hafter, nofun⟩
  | recoverOwner owner ownerMayStillRun =>
    obtain ⟨hdoes, hafter⟩ := recoverOwner_recovering owner ownerMayStillRun s h.calm
    exact .inl ⟨hdoes, hafter, nofun⟩
  | recover inquiries =>
    obtain ⟨hdoes, hafter⟩ := recover_recovering inquiries s h.calm
    exact .inl ⟨hdoes, hafter, nofun⟩
  | reserveLifecycleRange caller length deadlineNs =>
    obtain ⟨hdoes, -⟩ := (reserveLifecycleRange_does (K := queueing) trivial trivial trivial
      caller.owner length deadlineNs (P := fun _ => True)).map statusOf s trivial
    exact .inl ⟨hdoes, hcalm hdoes id id, nofun⟩
  | retireLifecycleRange token usedThrough =>
    have hdoes :=
      retireLifecycleRange_does (K := queueing) trivial trivial trivial token usedThrough s
    exact .inl ⟨hdoes, hcalm hdoes id id, nofun⟩
  | publishFence caller _ expectedGeneration =>
    obtain ⟨hdoes, hafter, -⟩ := publishFence_does caller expectedGeneration s ⟨h.calm.updates, rfl⟩
    exact .inl ⟨hdoes, ⟨hafter, hdoes.noTelemetry id h.calm.telemetry⟩, nofun⟩
  | markDeviceLost index lifecycleSequence epoch =>
    obtain ⟨hdoes, -⟩ := markDeviceLost_does (K := losing index lifecycleSequence epoch) rfl rfl
      (fun _ => ⟨rfl, rfl, rfl, rfl⟩) s s rfl
    exact .inl ⟨hdoes, hcalm hdoes id id, nofun⟩
  | publishTelemetry caller rows =>
    obtain ⟨hdoes, -, hafter, -⟩ := publishTelemetry_does caller rows s h.calm.telemetry s rfl
    exact .inl ⟨hdoes, ⟨hdoes.noUpdate id h.calm.updates, hafter⟩, nofun⟩
  | close caller inquiries =>
    obtain ⟨hdoes, -⟩ := close_does caller inquiries s ⟨h.calm, h.queued⟩
    exact .inl ⟨hdoes, hcalm hdoes id id, nofun⟩

theorem step_sound (s : Mapping) (c : Call) (h : Sound s) : Sound (step s c) := by
  rcases step_does h c with hord | ⟨_, _, _, _, ⟨_, _, -, hrel⟩, hafter⟩
  · exact hord.does.sound h hord.calm
  · rw [hafter]
    exact relabelled_sound hrel.view.2 h

/-- A mapping as `initializeView` makes it.  A sequence number is a word of 64 bits. -/
def Fresh (s : Mapping) : Prop :=
  ∃ extended viewId processViewRevision identities fences,
    initializeView extended viewId processViewRevision identities fences = .ok s ∧
      ∀ fence ∈ fences, fence.lifecycleSequence ≤ uint64Max

theorem highestSequence_le {fences : List FenceSnapshot} {bound : Nat}
    (h : ∀ fence ∈ fences, fence.lifecycleSequence ≤ bound) : highestSequence fences ≤ bound := by
  have hfold : ∀ (fences : List FenceSnapshot) highest, highest ≤ bound →
      (∀ fence ∈ fences, fence.lifecycleSequence ≤ bound) →
      fences.foldl (fun highest fence => max highest fence.lifecycleSequence) highest ≤ bound := by
    intro fences
    induction fences with
    | nil => exact fun _ hle _ => hle
    | cons fence _ ih =>
      intro highest hle hall
      refine ih _ ?_ fun other hother => hall other (List.mem_cons_of_mem _ hother)
      exact Nat.max_le.2 ⟨hle, hall fence List.mem_cons_self⟩
  exact hfold fences 0 (Nat.zero_le _) h

theorem Fresh.sound (h : Fresh s) : Sound s := by
  obtain ⟨extended, viewId, revision, identities, fences, hinit, hwords⟩ := h
  unfold initializeView at hinit
  split_ifs at hinit
  cases hinit
  have hhigh : highestSequence ((identities.zip fences).map Prod.snd) ≤ uint64Max := by
    refine highestSequence_le fun fence hfence => hwords fence ?_
    obtain ⟨⟨identity, fence'⟩, hmem, rfl⟩ := List.mem_map.1 hfence
    exact (List.of_mem_zip hmem).2
  have htag : 0 % 2 ^ 24 < 2 ^ 24 := by decide
  refine ⟨⟨fun _ => rfl, fun slot hslot => ?_⟩, ⟨[], ?_⟩, fun _ => htag, fun _ => htag,
    fun table slot => ?_, fun hended => hended.elim⟩
  · simp [initialMapping, initialPublication, hslot, packRecord, publicationSettled]
  · exact ⟨rfl, rfl, .nil, fun slot => ⟨fun hin => (by cases hin), fun hopen => by cases hopen.2⟩,
      ⟨_, rfl, .inl .refl⟩, fun _ => rfl, hhigh, hhigh, fun _ => htag⟩
  · cases table <;> rfl

/-- **Every state that calls lead to is sound.** -/
theorem run_sound (h : Fresh s) (calls : List Call) : Sound (run step s calls) :=
  run_induction step_sound calls h.sound

/-! ## 4. A small mapping -/

def plainFence (identityRecordId lifecycleSequence : Nat) : FenceSnapshot :=
  { identityRecordId, lifecycleSequence }

/-- Two devices, and the recovery extension. -/
def twoDevices : Mapping :=
  initialMapping true ⟨1, 1⟩ [(⟨1, 1, true⟩, plainFence 1 1), (⟨2, 1, true⟩, plainFence 2 1)]

theorem twoDevices_fresh : Fresh twoDevices :=
  ⟨true, ⟨1, 1⟩, 1, [⟨1, 1, true⟩, ⟨2, 1, true⟩], [plainFence 1 1, plainFence 2 1], rfl, by decide⟩

/-- A process that calls. -/
def someCaller : Caller := { owner := some ⟨7, 7, 0⟩ }

end MetaFlux.Registry
