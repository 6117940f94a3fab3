/-
# Publishing an identity

A device is given a new identity under three latches, with its admission word taken up and opened
again at the next generation.  When one of the latches is not to be had, the word is put back, so
the call is not a sequence of moves.  It is described as a whole instead: it relabels the device if
and only if everything that it asks for holds (`Relabels`), and otherwise changes nothing but
latches.
-/
import MetaFlux.Registry.Effects

namespace MetaFlux.Registry

open Base Function

/-- What publishing an identity asks of its arguments and of the mapping. -/
structure Relabels (index expectedIdentity expectedGeneration next nextGeneration : Nat)
    (intended : FenceSnapshot) (s : Mapping) : Prop where
  view : index < s.deviceCount ∧ s.viewAdmission.state = .open
  arguments : expectedIdentity ≠ 0 ∧ expectedGeneration ≠ 0 ∧ expectedIdentity < next ∧
    expectedGeneration < nextGeneration
  fence : intended.identityRecordId = next ∧ intended.lifecycleSequence ≠ 0 ∧
    intended.deviceState = .online
  current : (s.devices index).identityRecordId = expectedIdentity ∧
    (s.devices index).committedGeneration = expectedGeneration
  sequence : (s.devices index).fence.lifecycleSequence < intended.lifecycleSequence
  admission : (s.devices index).admission.state = .open ∧
    (s.devices index).admission.generation ≠ 0 ∧
    (s.devices index).admission.generation < deviceGenerationMaxNormal
  latches : ¬ latchUnusable s.control.latch ∧ ¬ latchUnusable (s.devices index).fenceLatch ∧
    ¬ latchUnusable s.telemetryControl.latch

/-- The call gives the device a new identity. -/
def Renames (index next nextGeneration : Nat) (intended : FenceSnapshot) (s : Mapping) (c : Call) :
    Prop :=
  ∃ expectedIdentity expectedGeneration,
    c = .publishDeviceIdentity index expectedIdentity expectedGeneration
    next nextGeneration intended ∧
      Relabels index expectedIdentity expectedGeneration next nextGeneration intended s

/-- The mapping with the device under its new identity. -/
def relabelled (index next nextGeneration : Nat) (intended : FenceSnapshot)
    (s : Mapping) : Mapping :=
  let s := onDevice index (fun device =>
    (device.relabel next nextGeneration intended (device.fenceLatch + 2)).setAdmission
      (.pack (device.admission.generation + 1) .open 0)) s
  let s := relabelRows index next intended.lifecycleSequence s
  let s := onTelemetry (fun c => { c with latch := c.latch + 2 }) s
  onControl (fun c => { c with latch := c.latch + 2 }) s

theorem relabelled_self (index next nextGeneration : Nat) (intended : FenceSnapshot) (s : Mapping) :
    (relabelled index next nextGeneration intended s).devices index =
      ((s.devices index).relabel next nextGeneration intended
        ((s.devices index).fenceLatch + 2)).setAdmission
          (.pack ((s.devices index).admission.generation + 1) .open 0) :=
  update_self ..

theorem relabelled_other {index i : Nat} (hi : i ≠ index) (next nextGeneration : Nat)
    (intended : FenceSnapshot) (s : Mapping) :
    (relabelled index next nextGeneration intended s).devices i = s.devices i :=
  update_of_ne hi ..

/-- What a publication that fails may write. -/
def latching (index : Nat) : Part → Prop
  | .control => True
  | .fenceLatch i => i = index
  | _ => False

section Cases

variable {index expectedIdentity expectedGeneration next nextGeneration : Nat}
  {intended : FenceSnapshot} {s : Mapping}

/-- What an answer to the publication means. -/
def Relabelled (index expectedIdentity expectedGeneration next nextGeneration : Nat)
    (intended : FenceSnapshot) (s : Mapping) (status : SharedStatus) (s' : Mapping) : Prop :=
  (status = .success ∧
      Relabels index expectedIdentity expectedGeneration next nextGeneration intended s ∧
      s' = relabelled index next nextGeneration intended s) ∨
    (status ≠ .success ∧
      ¬ Relabels index expectedIdentity expectedGeneration next nextGeneration intended s ∧
      Does (latching index) s s')

theorem onDevice_onDevice (f g : Device → Device) :
    onDevice index g (onDevice index f s) = onDevice index (fun device => g (f device)) s := by
  simp only [onDevice, update_self, update_idem]

theorem onDevice_of_eq {f : Device → Device} (h : f (s.devices index) = s.devices index) :
    onDevice index f s = s := by
  simp only [onDevice, h, update_eq_self]

/-- A change of the mapping, from the one state the program starts from. -/
theorem modify_then {α : Type} {f : Mapping → Mapping} {x : Program α}
    {Q : α → Mapping → Prop} (h : Triple (fun _ _ => True) (· = f s) x Q) :
    Triple (fun _ _ => True) (· = s) (do modify f; x) Q :=
  .bind (.modify_at trivial rfl) fun _ => h

theorem publishDeviceIdentity_cases :
    Triple (fun _ _ => True) (· = s)
    (publishDeviceIdentity index expectedIdentity expectedGeneration
      next nextGeneration intended)
      (Relabelled index expectedIdentity expectedGeneration next nextGeneration intended s) := by
  have hrefuse : ∀ {status : SharedStatus} {s' : Mapping}, status ≠ .success →
      ¬ Relabels index expectedIdentity expectedGeneration next nextGeneration intended s →
      Does (latching index) s s' → Triple (fun _ _ => True) (· = s') (pure status)
      (Relabelled index expectedIdentity expectedGeneration next nextGeneration intended s) :=
    fun hstat hnot hdoes => .answer (.inr ⟨hstat, hnot, hdoes⟩)
  have hrefl : Does (latching index) s s := ⟨.refl, rfl⟩
  refine .get_at (.ite (fun hbad => hrefuse (by decide) ?_ hrefl) fun hargs =>
    .ite (fun hbad => hrefuse (by decide) ?_ hrefl) fun hexp => ?_)
  · intro h
    obtain ⟨⟨hindex, hview⟩, ⟨hident, hgen, hnext, hnextGeneration⟩, ⟨hid, hseq, hon⟩⟩ :=
      And.intro h.view (And.intro h.arguments h.fence)
    simp only [hon, hview, ne_eq, not_true, or_false] at hbad
    omega
  · intro h
    exact hbad.elim (fun hb => hb h.current.1) fun hb => hb h.current.2
  simp only [not_or, not_not, Nat.not_le] at hargs hexp
  obtain ⟨hindex, hident, hgen, hnext, hnextGeneration, hid, hseq, hon, hview⟩ := hargs
  by_cases hodd : (s.devices index).fenceLatch % 2 = 1
  · simp only [stableFence, if_pos hodd]
    exact hrefuse (by decide) (fun h => h.latches.2.1 (.inl hodd)) hrefl
  simp only [stableFence, if_neg hodd]
  refine .ite (fun hbad => hrefuse (by decide) (fun h => ?_) hrefl) fun hsequence => ?_
  · have := h.sequence
    omega
  refine .ite (fun hbad => hrefuse (by split_ifs <;> decide) (fun h => hbad h.admission.1) hrefl)
    fun hopen => .ite (fun hbad => hrefuse (by decide) (fun h => ?_) hrefl) fun hroom => ?_
  · have := h.admission.2
    omega
  have hcommute : ∀ f g s,
      onDevice index f (onControl g s) = onControl g (onDevice index f s) := fun _ _ _ => rfl
  have hlatched : ∀ s latch latch', Does (latching index) s
      (onControl (fun c => { c with latch := latch' }) (onControl (fun c => { c with latch }) s)) :=
    fun _ _ _ => IsTrans.trans _ _ _ (does_control trivial ⟨rfl, rfl, rfl, rfl⟩)
      (does_control trivial ⟨rfl, rfl, rfl, rfl⟩)
  refine modify_then (.ite (fun hbad => modify_then (hrefuse (by decide)
    (fun h => h.latches.1 hbad) ?_)) fun hcontrol => modify_then ?_)
  · rw [onDevice_onDevice, onDevice_of_eq rfl]
    exact hrefl
  refine .ite (fun hbad => modify_then (modify_then (hrefuse (by split_ifs <;> decide)
    (fun h => h.latches.2.1 hbad) ?_))) fun hfence => modify_then ?_
  · rw [hcommute, hcommute, onDevice_onDevice, onDevice_of_eq rfl]
    exact hlatched ..
  refine .ite (fun hbad => modify_then (modify_then (modify_then (hrefuse (by split_ifs <;> decide)
    (fun h => h.latches.2.2 hbad) ?_)))) fun htel => ?_
  · simp only [hcommute, onDevice_onDevice]
    exact IsTrans.trans _ _ _ (.of_move (.fenceLatch rfl) rfl) (hlatched ..)
  refine modify_then (modify_then (modify_then (modify_then (modify_then ?_))))
  refine .bind (Q := fun found s' => found = none ∧
    s' = relabelled index next nextGeneration intended s) ?_ fun found => ?_
  · refine .get_at (.ite (fun _ => modify_then (.pure ?_)) fun hlost => absurd ?_ hlost)
    · simp [relabelled, onDevice, onControl, onTelemetry, relabelRows, Device.relabel,
        Device.setAdmission]
    · simp [onDevice, onControl, onTelemetry, relabelRows, Device.relabel, Device.setAdmission,
        Device.setFenceLatch]
  · refine .extract (fun _ h => h.1) ?_
    rintro rfl
    refine .pure fun _ h => .inl ⟨rfl, ⟨⟨hindex, hview⟩, ⟨hident, hgen, hnext,
      hnextGeneration⟩, ⟨hid, hseq, hon⟩, hexp, Nat.lt_of_not_le hsequence, ?_,
      ⟨hcontrol, hfence, htel⟩⟩, h.2⟩
    exact ⟨not_not.1 hopen, by omega, by omega⟩

end Cases

end MetaFlux.Registry
