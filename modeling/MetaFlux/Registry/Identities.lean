/-
# Identities

Every lookup goes from an identity to the first device that carries it.  A new mapping carries every
identity once; giving a device a new identity compares it with the device's own old one and with
nothing else.  So the index is sound exactly as long as no accepted call gives a device the identity
of another (`identity_index_iff`).
-/
import MetaFlux.Registry.Steps

namespace MetaFlux.Registry

open Base List

variable {s : Mapping} {handle : GenerationHandle}

/-! ## 1. Renaming -/

theorem relabelled_identity (index next nextGeneration : Nat) (intended : FenceSnapshot)
    (s : Mapping) (i : Nat) :
    ((relabelled index next nextGeneration intended s).devices i).identityRecordId =
      if i = index then next else (s.devices i).identityRecordId := by
  by_cases hi : i = index
  · subst hi
    rw [relabelled_self, if_pos rfl]
    rfl
  · rw [relabelled_other hi, if_neg hi]

theorem Renames.identity (h : Sound s) {i next nextGeneration : Nat} {intended : FenceSnapshot}
    {c : Call} (hrenames : Renames i next nextGeneration intended s c) :
    (s.devices i).identityRecordId < next ∧ ((step s c).devices i).identityRecordId = next := by
  rcases step_does h c with hord | ⟨_, _, _, _, ⟨_, _, hc, -⟩, hafter⟩
  · exact absurd hrenames (hord.names i next nextGeneration intended)
  · obtain ⟨_, _, rfl, hrel⟩ := hrenames
    cases hc
    rw [hafter, relabelled_identity, if_pos rfl, hrel.current.1]
    exact ⟨hrel.arguments.2.2.1, rfl⟩

/-- A device keeps its identity, or is given a larger one. -/
theorem step_identity (h : Sound s) (c : Call) (i : Nat) :
    ((step s c).devices i).identityRecordId = (s.devices i).identityRecordId ∨
      ∃ next nextGeneration intended, Renames i next nextGeneration intended s c := by
  rcases step_does h c with hord | ⟨index, next, nextGeneration, intended, hrenames, hafter⟩
  · exact .inl (hord.does.kept.identity i)
  · by_cases hi : i = index
    · subst hi
      exact .inr ⟨next, nextGeneration, intended, hrenames⟩
    · rw [hafter, relabelled_identity, if_neg hi]
      exact .inl rfl

/-- Identities only grow. -/
theorem identity_le_step (h : Sound s) (c : Call) (i : Nat) :
    (s.devices i).identityRecordId ≤ ((step s c).devices i).identityRecordId := by
  rcases step_identity h c i with hid | ⟨_, _, _, hrenames⟩
  · rw [hid]
  · rw [(hrenames.identity h).2]
    exact le_of_lt (hrenames.identity h).1

theorem step_deviceCount (h : Sound s) (c : Call) : (step s c).deviceCount = s.deviceCount := by
  rcases step_does h c with hord | ⟨_, _, _, _, -, hafter⟩
  · exact hord.does.kept.deviceCount
  · rw [hafter]
    rfl

/-! ## 2. Lookups -/

/-- No two devices carry one identity. -/
def Distinct (s : Mapping) : Prop :=
  ∀ i < s.deviceCount, ∀ j < s.deviceCount,
    (s.devices i).identityRecordId = (s.devices j).identityRecordId → i = j

/-- A lookup finds the device that carries the identity, and answers with what is its own. -/
structure Indexed (s : Mapping) : Prop where
  distinct : Distinct s
  find : ∀ i < s.deviceCount, findIdentity s (s.devices i).identityRecordId = i
  validate : ∀ handle fence, validateDevice s handle = .ok fence → ∀ i < s.deviceCount,
    (s.devices i).identityRecordId = handle.identityRecordId → fence = (s.devices i).fence
  telemetry : ∀ handle snapshot, readTelemetry s handle = .ok snapshot → ∀ i < s.deviceCount,
    (s.devices i).identityRecordId = handle.identityRecordId →
      snapshot.row = s.telemetryBanks s.telemetryControl.activeBank.bank i

theorem Distinct.find (h : Distinct s) {i : Nat} (hi : i < s.deviceCount) :
    findIdentity s (s.devices i).identityRecordId = i := by
  unfold findIdentity
  cases hfound : (List.range s.deviceCount).find? fun j =>
      decide ((s.devices j).identityRecordId = (s.devices i).identityRecordId) with
  | none =>
    have hnone := find?_eq_none.1 hfound i (mem_range.2 hi)
    simp at hnone
  | some j =>
    obtain ⟨hsame, hj, -⟩ := find?_range_eq_some.1 hfound
    exact h j (mem_range.1 hj) i hi (of_decide_eq_true hsame)

/-- A device that is found carries the identity. -/
theorem findIdentity_found {identityRecordId : Nat}
    (h : findIdentity s identityRecordId ≠ s.deviceCount) :
    findIdentity s identityRecordId < s.deviceCount ∧
      (s.devices (findIdentity s identityRecordId)).identityRecordId = identityRecordId := by
  unfold findIdentity at h ⊢
  cases hfound : (List.range s.deviceCount).find? fun j =>
      decide ((s.devices j).identityRecordId = identityRecordId) with
  | none => simp [hfound] at h
  | some j =>
    obtain ⟨hsame, hj, -⟩ := find?_range_eq_some.1 hfound
    exact ⟨mem_range.1 hj, of_decide_eq_true hsame⟩

/-- What a validation that succeeds has read. -/
theorem validateDevice_ok {fence : FenceSnapshot} (h : validateDevice s handle = .ok fence) :
    fence = (s.devices (findIdentity s handle.identityRecordId)).fence ∧
      findIdentity s handle.identityRecordId ≠ s.deviceCount := by
  unfold validateDevice at h
  simp only at h
  split_ifs at h with hview hfound
  unfold stableFence at h
  by_cases hodd : (s.devices (findIdentity s handle.identityRecordId)).fenceLatch % 2 = 1
  · simp [hodd] at h
  · simp only [if_neg hodd] at h
    split_ifs at h
    cases h
    exact ⟨rfl, fun hc => hfound (.inl hc)⟩

/-- What a reading of telemetry that succeeds has read. -/
theorem readTelemetry_ok {snapshot : TelemetrySnapshot}
    (h : readTelemetry s handle = .ok snapshot) :
    snapshot.row = s.telemetryBanks s.telemetryControl.activeBank.bank
        (findIdentity s handle.identityRecordId) ∧
      s.telemetryControl.activeBank.state = .ready ∧
      snapshot.row.identityRecordId = handle.identityRecordId ∧
      findIdentity s handle.identityRecordId ≠ s.deviceCount := by
  unfold readTelemetry at h
  cases hvalid : validateDevice s handle with
  | error => simp [hvalid] at h
  | ok =>
    simp only [hvalid] at h
    split_ifs at h with hodd hready hlabel
    cases h
    simp only [not_or, not_not] at hready hlabel
    exact ⟨rfl, hready.1, hlabel.1, (validateDevice_ok hvalid).2⟩

theorem Distinct.indexed (h : Distinct s) : Indexed s where
  distinct := h
  find _ hi := h.find hi
  validate handle fence hok i hi hcarries := by
    rw [(validateDevice_ok hok).1, ← hcarries, h.find hi]
  telemetry handle snapshot hok i hi hcarries := by
    rw [(readTelemetry_ok hok).1, ← hcarries, h.find hi]

/-! ## 3. Runs -/

/-- The identities of a list of devices that is accepted are distinct. -/
theorem acceptsDevices_nodup :
    ∀ {entries : List (DeviceIdentity × FenceSnapshot)} {earlier : List Nat},
    acceptsDevices entries earlier = true →
      (entries.map fun entry => entry.1.identityRecordId).Nodup ∧
        ∀ entry ∈ entries, entry.1.identityRecordId ∉ earlier
  | [], _, _ => ⟨.nil, nofun⟩
  | (identity, fence) :: rest, earlier, h => by
    simp only [acceptsDevices, Bool.and_eq_true, Bool.not_eq_true', contains_eq_mem,
      decide_eq_false_iff_not] at h
    obtain ⟨⟨-, hnew⟩, hrest⟩ := h
    obtain ⟨hnodup, hothers⟩ := acceptsDevices_nodup hrest
    constructor
    · rw [map_cons, nodup_cons]
      refine ⟨fun hmem => ?_, hnodup⟩
      obtain ⟨entry, hentry, hsame⟩ := mem_map.1 hmem
      exact hothers entry hentry (hsame ▸ mem_cons_self)
    · intro entry hentry
      rcases mem_cons.1 hentry with rfl | hentry
      · exact hnew
      · exact fun hmem => hothers entry hentry (mem_cons_of_mem _ hmem)

theorem Fresh.distinct (h : Fresh s) : Distinct s := by
  obtain ⟨extended, viewId, revision, identities, fences, hinit, -⟩ := h
  unfold initializeView at hinit
  split_ifs at hinit with hrefused
  cases hinit
  simp only [not_or, Bool.not_eq_false] at hrefused
  obtain ⟨hnodup, -⟩ := acceptsDevices_nodup hrefused.2.2.2.2.2
  generalize identities.zip fences = entries at hnodup
  have hget : ∀ i (hi : i < entries.length),
      ((initialMapping extended viewId entries).devices i).identityRecordId =
        (entries.map fun entry => entry.1.identityRecordId).get ⟨i, by simpa using hi⟩ := by
    intro i hi
    simp [initialMapping, hi, initialDevice]
  intro i hi j hj hsame
  rw [hget i hi, hget j hj] at hsame
  simpa using (hnodup.get_inj_iff).1 hsame

/-- No device is given the identity of another. -/
def KeepsApart (s : Mapping) (c : Call) : Prop :=
  ∀ index next nextGeneration intended, Renames index next nextGeneration intended s c →
    ∀ i < s.deviceCount, i ≠ index → (s.devices i).identityRecordId ≠ next

theorem step_distinct_iff (h : Sound s) (hdistinct : Distinct s) (c : Call) :
    Distinct (step s c) ↔ KeepsApart s c := by
  have hcount := step_deviceCount h c
  rcases step_does h c with hord | ⟨index, next, nextGeneration, intended, hrenames, hafter⟩
  · have hsame := hord.does.kept.identity
    constructor
    · intro _ index next nextGeneration intended hrenames
      exact absurd hrenames (hord.names index next nextGeneration intended)
    · intro _ i hi j hj hij
      rw [hsame, hsame] at hij
      exact hdistinct i (hcount ▸ hi) j (hcount ▸ hj) hij
  · have hids := relabelled_identity index next nextGeneration intended s
    obtain ⟨_, _, hc, hrel⟩ := id hrenames
    constructor
    · rintro hafter' _ _ _ _ ⟨_, _, hc', -⟩ i hi hne htaken
      rw [hc] at hc'
      cases hc'
      refine hne (hafter' i (hcount ▸ hi) index (hcount ▸ hrel.view.1) ?_)
      rw [hafter, hids, hids, if_neg hne, if_pos rfl, htaken]
    · intro hapart i hi j hj hij
      have hfree := hapart index next nextGeneration intended hrenames
      rw [hafter, hids, hids] at hij
      rw [hcount] at hi hj
      by_cases hii : i = index <;> by_cases hjj : j = index
      · rw [hii, hjj]
      · rw [if_pos hii, if_neg hjj] at hij
        exact absurd hij.symm (hfree j hj hjj)
      · rw [if_neg hii, if_pos hjj] at hij
        exact absurd hij (hfree i hi hii)
      · rw [if_neg hii, if_neg hjj] at hij
        exact hdistinct i hi j hj hij

/-- **The identity index.**  Over a run of calls, lookups go to the one device that carries the
identity throughout, exactly if no accepted call gives a device the identity of another. -/
theorem identity_index_iff {s₀ : Mapping} (hfresh : Fresh s₀) (calls : List Call) :
    Throughout step Indexed s₀ calls ↔ Along step KeepsApart s₀ calls := by
  have hrun : ∀ calls {s : Mapping}, Sound s → Distinct s →
      (Throughout step Indexed s calls ↔ Along step KeepsApart s calls) := by
    intro calls
    induction calls with
    | nil => exact fun _ hdistinct => ⟨fun _ => trivial, fun _ => hdistinct.indexed⟩
    | cons c calls ih =>
      intro s hsound hdistinct
      have hstep := step_distinct_iff hsound hdistinct c
      constructor
      · rintro ⟨-, hrest⟩
        have hafter : Distinct (step s c) := by
          cases calls with
          | nil => exact hrest.distinct
          | cons => exact hrest.1.distinct
        exact ⟨hstep.1 hafter, (ih (step_sound s c hsound) hafter).1 hrest⟩
      · rintro ⟨hapart, hrest⟩
        exact ⟨hdistinct.indexed, (ih (step_sound s c hsound) (hstep.2 hapart)).2 hrest⟩
  exact hrun calls hfresh.sound hfresh.distinct

/-- Nothing is published under an identity of another device, and the index holds. -/
theorem identity_index_iff_apart :
    Along step KeepsApart twoDevices [.publishDeviceIdentity 0 1 1 3 2 (plainFence 3 2)] ∧
      Throughout step Indexed twoDevices [.publishDeviceIdentity 0 1 1 3 2 (plainFence 3 2)] := by
  have halong : Along step KeepsApart twoDevices
      [.publishDeviceIdentity 0 1 1 3 2 (plainFence 3 2)] := by
    refine ⟨?_, trivial⟩
    rintro _ _ _ _ ⟨_, _, ⟨⟩, -⟩ i hi hne
    change i < 2 at hi
    obtain rfl : i = 1 := by omega
    decide
  exact ⟨halong, (identity_index_iff twoDevices_fresh _).2 halong⟩

/-- The first device is given the identity of the second: the call succeeds, and the second device
is not found any more. -/
theorem published_identity_taken :
    (call twoDevices (.publishDeviceIdentity 0 1 1 2 2 (plainFence 2 2))).1 = .success ∧
      ¬ Distinct (step twoDevices (.publishDeviceIdentity 0 1 1 2 2 (plainFence 2 2))) ∧
      findIdentity (step twoDevices (.publishDeviceIdentity 0 1 1 2 2 (plainFence 2 2))) 2 = 0 := by
  refine ⟨by decide, fun hdistinct => ?_, by decide⟩
  have hone : 0 = 1 := hdistinct 0 (by decide) 1 (by decide) (by decide)
  cases hone

end MetaFlux.Registry
