/-
# The sequence numbers of fences

Three calls write a device's fence.  Publishing an identity compares the new sequence number with
the stored one; publishing a fence compares it with the high water mark of the ranges at most, which
the other two do not move, and marking a device lost compares it with nothing.  So the stored
numbers rise exactly as long as the callers see to it (`fence_sequences_iff`).
-/
import MetaFlux.Registry.Identities

namespace MetaFlux.Registry

open Base

variable {s s' : Mapping}

/-- From one state to a later one no device's number has fallen, and where it is the same the whole
fence is. -/
def Risen (s s' : Mapping) : Prop :=
  ∀ i < s.deviceCount,
    (s.devices i).fence.lifecycleSequence ≤ (s'.devices i).fence.lifecycleSequence ∧
      ((s.devices i).fence.lifecycleSequence = (s'.devices i).fence.lifecycleSequence →
        (s.devices i).fence = (s'.devices i).fence)

theorem Risen.refl (s : Mapping) : Risen s s := fun _ _ => ⟨.refl, fun _ => rfl⟩

theorem Risen.trans {a b c : Mapping} (hcount : b.deviceCount = a.deviceCount) (h : Risen a b)
    (h' : Risen b c) : Risen a c := by
  intro i hi
  obtain ⟨hle, hsame⟩ := h i hi
  obtain ⟨hle', hsame'⟩ := h' i (hcount ▸ hi)
  refine ⟨hle.trans hle', fun heq => ?_⟩
  exact (hsame (by omega)).trans (hsame' (by omega))

/-- What the call writes is above the stored number, or is what is stored. -/
def Raises (s : Mapping) : Call → Prop
  | .publishFence _ index _ intended =>
    (s.devices index).fence.lifecycleSequence < intended.lifecycleSequence ∨
      (s.devices index).fence = intended
  | .markDeviceLost index lifecycleSequence epoch =>
    (s.devices index).fence.lifecycleSequence < lifecycleSequence ∨ (s.devices index).fence =
      ⟨(s.devices index).identityRecordId, lifecycleSequence, epoch, 0, 0, .lost⟩
  | _ => True

/-- One fence is replaced by another. -/
theorem risen_of_written {index : Nat} (hindex : index < s.deviceCount)
    (hothers : ∀ i, i ≠ index → (s'.devices i).fence = (s.devices i).fence) :
    Risen s s' ↔ (s.devices index).fence.lifecycleSequence <
        (s'.devices index).fence.lifecycleSequence ∨
      (s.devices index).fence = (s'.devices index).fence := by
  constructor
  · intro h
    obtain ⟨hle, hsame⟩ := h index hindex
    rcases Nat.lt_or_eq_of_le hle with hlt | heq
    · exact .inl hlt
    · exact .inr (hsame heq)
  · intro h i _
    by_cases hi : i = index
    · subst hi
      rcases h with hlt | heq
      · exact ⟨hlt.le, fun heq => absurd heq hlt.ne⟩
      · exact ⟨by rw [heq], fun _ => heq⟩
    · rw [hothers i hi]
      exact ⟨.refl, fun _ => rfl⟩

/-- A call that writes no fence. -/
theorem risen_of_kept (h : ∀ i, (s'.devices i).fence = (s.devices i).fence) : Risen s s' := by
  intro i _
  rw [h i]
  exact ⟨.refl, fun _ => rfl⟩

theorem step_risen_iff (h : Sound s) {c : Call} (hok : Succeeds s c) :
    Risen s (step s c) ↔ Raises s c := by
  rcases step_does h c with hord | ⟨index, next, nextGeneration, intended, hrenames, hafter⟩
  · have hfence := hord.does.kept.fence
    cases c with
    | publishFence caller index expectedGeneration intended =>
      have hindex : index < s.deviceCount := by
        by_contra hbeyond
        exact publishFence_refused h.calm.updates (.inl (Nat.le_of_not_lt hbeyond)) caller
          expectedGeneration hok
      have hwritten : ((step s (.publishFence caller index expectedGeneration intended)).devices
          index).fence = intended :=
        ((publishFence_does caller expectedGeneration s ⟨h.calm.updates, rfl⟩).2.2 hok).fence
      rw [risen_of_written hindex fun i hi => (hfence i).resolve_right fun hk => hi hk.1, hwritten]
      exact Iff.rfl
    | markDeviceLost index lifecycleSequence epoch =>
      obtain ⟨hindex, -, hwritten⟩ := (markDeviceLost_does
        (K := losing index lifecycleSequence epoch) rfl rfl (fun _ => ⟨rfl, rfl, rfl, rfl⟩) s s
        rfl).2 hok
      change ((step s (.markDeviceLost index lifecycleSequence epoch)).devices index).fence = _
        at hwritten
      rw [risen_of_written hindex fun i hi => (hfence i).resolve_right fun hk => hi hk.1, hwritten]
      exact Iff.rfl
    | beginAdmission | commitAdmission | releaseAdmission =>
      exact iff_of_true (risen_of_kept fun i => (hfence i).resolve_right nofun) trivial
    | _ => exact iff_of_true (risen_of_kept fun i => (hfence i).resolve_right id) trivial
  · obtain ⟨_, _, rfl, hrel⟩ := hrenames
    refine iff_of_true ?_ trivial
    rw [hafter, risen_of_written hrel.view.1 fun i hi => by rw [relabelled_other hi],
      relabelled_self]
    exact .inl hrel.sequence

/-- **The sequence numbers of fences.**  Over a run of calls that all succeed, no device's stored
number falls and none comes again with another fence, exactly if every fence that is published and
every device that is marked lost brings a number above the stored one, or what is stored. -/
theorem fence_sequences_iff {s₀ : Mapping} (hfresh : Fresh s₀) (calls : List Call)
    (hsucceed : Along step Succeeds s₀ calls) :
    (∀ before between after, calls = before ++ between ++ after →
        Risen (run step s₀ before) (run step s₀ (before ++ between))) ↔
      Along step Raises s₀ calls := by
  have hrun : ∀ calls {s : Mapping}, Sound s → Along step Succeeds s calls →
      ((∀ before between after, calls = before ++ between ++ after →
          Risen (run step s before) (run step s (before ++ between))) ↔
        Along step Raises s calls) := by
    intro calls
    induction calls with
    | nil =>
      refine fun _ _ => ⟨fun _ => trivial, fun _ before between after hsplit => ?_⟩
      simp only [List.nil_eq, List.append_eq_nil_iff] at hsplit
      obtain ⟨⟨rfl, rfl⟩, rfl⟩ := hsplit
      exact .refl _
    | cons c calls ih =>
      intro s hsound hsucceed
      have hstep := step_risen_iff hsound hsucceed.1
      have hrest := ih (step_sound s c hsound) hsucceed.2
      constructor
      · intro hall
        refine ⟨hstep.1 (hall [] [c] calls rfl), hrest.1 fun before between after hsplit => ?_⟩
        exact hall (c :: before) between after (by simp [hsplit])
      rintro ⟨hraises, halong⟩ before between after hsplit
      cases before with
      | cons _ before =>
        cases hsplit
        exact hrest.2 halong before between after rfl
      | nil =>
        cases between with
        | nil => exact .refl _
        | cons _ between =>
          cases hsplit
          exact .trans (step_deviceCount hsound _) (hstep.2 hraises)
            (hrest.2 halong [] between after rfl)
  exact hrun calls hfresh.sound hsucceed

/-- A fence above the stored one. -/
theorem fence_sequences_iff_rising :
    Along step Raises twoDevices [.publishFence someCaller 0 1 (plainFence 1 4)] ∧
      Risen (run step twoDevices [])
        (run step twoDevices [.publishFence someCaller 0 1 (plainFence 1 4)]) := by
  have halong : Along step Raises twoDevices [.publishFence someCaller 0 1 (plainFence 1 4)] :=
    ⟨.inl (by decide), trivial⟩
  have hsucceed : Along step Succeeds twoDevices [.publishFence someCaller 0 1 (plainFence 1 4)] :=
    ⟨by decide +kernel, trivial⟩
  exact ⟨halong, (fence_sequences_iff twoDevices_fresh _ hsucceed).2 halong [] _ [] rfl⟩

/-- An identity is published with the number 9, which no range was reserved for; then a fence with
the number 4 goes through, and the device after it is marked lost under the number it already has.
-/
theorem fence_sequence_falls :
    let calls : List Call := [.publishDeviceIdentity 0 1 1 3 2 (plainFence 3 9),
      .publishFence someCaller 0 2 (plainFence 3 4), .markDeviceLost 0 4 0]
    Along step Succeeds twoDevices calls ∧
      ((run step twoDevices (calls.take 1)).devices 0).fence.lifecycleSequence = 9 ∧
      ((run step twoDevices (calls.take 2)).devices 0).fence = plainFence 3 4 ∧
      ((run step twoDevices calls).devices 0).fence = ⟨3, 4, 0, 0, 0, .lost⟩ := by
  refine ⟨⟨?_, ?_, ?_, trivial⟩, ?_, ?_, ?_⟩ <;> decide +kernel

end MetaFlux.Registry
