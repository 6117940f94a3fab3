/-
# Where telemetry comes from

A reading of telemetry that succeeds shows the row of its device in the active bank.  Publishing
telemetry makes the other bank the active one, with new rows; nothing else writes counters.  But
giving a device a new identity relabels its rows and leaves the counters in them, so a reading shows
what was published under the labels it carries exactly if the device has not been renamed since
(`telemetry_attribution_iff`).
-/
import MetaFlux.Registry.Identities

namespace MetaFlux.Registry

open Base

variable {s : Mapping} {index : Nat}

/-! ## 1. One call -/

/-- What is shown of a device. -/
def shownRow (s : Mapping) (index : Nat) : TelemetryRow :=
  s.telemetryBanks s.telemetryControl.activeBank.bank index

def showing (s : Mapping) : Prop := s.telemetryControl.activeBank.state = .ready

/-- The call publishes telemetry. -/
def PublishesRows (s : Mapping) (c : Call) : Prop :=
  ∃ caller rows, c = .publishTelemetry caller rows ∧ (call s c).1 = .success

/-- The call publishes the row for the device. -/
def PublishesRow (index : Nat) (row : TelemetryRow) (s : Mapping) (c : Call) : Prop :=
  ∃ caller rows, c = .publishTelemetry caller rows ∧ (call s c).1 = .success ∧
    rowOf rows index = row

/-- The call gives the device a new identity. -/
def RenamesDevice (index : Nat) (s : Mapping) (c : Call) : Prop :=
  ∃ next nextGeneration intended, Renames index next nextGeneration intended s c

/-- Where neither the active bank nor its rows change. -/
theorem shown_of_kept {s' : Mapping} (hbank : BankKept s.telemetryControl s'.telemetryControl)
    (hrows : s'.telemetryBanks = s.telemetryBanks) (hshowing : showing s') :
    showing s ∧ shownRow s' index = shownRow s index := by
  have hsame := hbank hshowing
  unfold showing at hshowing
  unfold shownRow
  rw [hsame] at hshowing ⊢
  rw [hrows]
  exact ⟨hshowing, rfl⟩

/-- What is shown afterwards was published by the call, or was shown before it. -/
theorem step_shown (h : Sound s) (c : Call) (hindex : index < s.deviceCount)
    (hrenames : ¬ RenamesDevice index s c) (hshowing : showing (step s c)) :
    PublishesRow index (shownRow (step s c) index) s c ∨
      ¬ PublishesRows s c ∧ showing s ∧ shownRow (step s c) index = shownRow s index := by
  rcases step_does h c with hord | ⟨i, next, nextGeneration, intended, hrenamed, hafter⟩
  · have hkept := hord.does.kept
    cases c with
    | publishTelemetry caller rows =>
      obtain ⟨-, -, -, hanswered⟩ := publishTelemetry_does caller rows s h.calm.telemetry s rfl
      rcases hanswered with ⟨hok, hshown⟩ | ⟨hfailed, hsame⟩
      · refine .inl ⟨caller, rows, rfl, hok, ?_⟩
        change rowOf rows index = shownRow ((publishTelemetry caller rows).run s).2 index
        rw [shownRow, hshown.bank, hshown.rows index hindex]
      refine .inr ⟨?_, ?_⟩
      · rintro ⟨_, _, ⟨⟩, hok⟩
        exact hfailed hok
      change showing ((publishTelemetry caller rows).run s).2 at hshowing
      change showing s ∧ shownRow ((publishTelemetry caller rows).run s).2 index = _
      unfold showing at hshowing
      rw [hsame.bank] at hshowing
      rw [shownRow, hsame.bank, hsame.rows]
      exact ⟨hshowing, rfl⟩
    | beginAdmission | commitAdmission | releaseAdmission =>
      exact .inr ⟨nofun, shown_of_kept (hkept.bank nofun) (hkept.telemetryRows nofun) hshowing⟩
    | _ => exact .inr ⟨nofun, shown_of_kept (hkept.bank id) (hkept.telemetryRows id) hshowing⟩
  · obtain ⟨_, _, rfl, -⟩ := id hrenamed
    rw [hafter] at hshowing ⊢
    have hi : index ≠ i := by
      rintro rfl
      exact hrenames ⟨next, nextGeneration, intended, hrenamed⟩
    -- rows of other devices keep their labels
    exact .inr ⟨nofun, hshowing, if_neg fun h => hi h.2⟩

/-- A row that is published carries the identity of its device. -/
theorem PublishesRow.identity (h : Sound s) {row : TelemetryRow} {c : Call}
    (hindex : index < s.deviceCount) (hpublishes : PublishesRow index row s c) :
    row.identityRecordId = (s.devices index).identityRecordId ∧
      ((step s c).devices index).identityRecordId = (s.devices index).identityRecordId := by
  obtain ⟨caller, rows, rfl, hok, rfl⟩ := hpublishes
  obtain ⟨hdoes, hchecked, -⟩ := publishTelemetry_does caller rows s h.calm.telemetry s rfl
  exact ⟨(checkPublication_success (hchecked hok)).2 index hindex, hdoes.kept.identity index⟩

/-! ## 2. Runs -/

theorem run_deviceCount (h : Sound s) (calls : List Call) :
    (run step s calls).deviceCount = s.deviceCount :=
  run_rel (R := fun s s' : Mapping => s'.deviceCount = s.deviceCount) (fun _ => rfl)
    (fun hab hbc => hbc.trans hab) step_sound (fun _ c h => step_deviceCount h c) calls h

/-- A device that has its identity still has not been renamed. -/
theorem not_renamed (h : Sound s) (calls : List Call)
    (hsame : ((run step s calls).devices index).identityRecordId =
      (s.devices index).identityRecordId) :
    Along step (fun s c => ¬ RenamesDevice index s c) s calls := by
  -- identities only grow
  refine along_of_absorbing
    (P := fun s' => Sound s' ∧
      (s.devices index).identityRecordId ≤ (s'.devices index).identityRecordId)
    (D := fun s' => (s.devices index).identityRecordId < (s'.devices index).identityRecordId)
    ?_ ?_ ?_ calls ⟨h, .refl⟩ (by omega)
  · rintro s' c ⟨hsound, hle⟩
    exact ⟨step_sound s' c hsound, hle.trans (identity_le_step hsound c index)⟩
  · rintro s' c ⟨hsound, -⟩ hlt
    exact hlt.trans_le (identity_le_step hsound c index)
  · rintro s' c ⟨hsound, hle⟩ ⟨next, nextGeneration, intended, hrenames⟩
    have hid := hrenames.identity hsound
    omega

/-- With telemetry published since the device was renamed, what is shown was published. -/
theorem shown_published {s₀ : Mapping} (hfresh : Fresh s₀) (hindex : index < s₀.deviceCount)
    (calls : List Call) (hshowing : showing (run step s₀ calls))
    (hsince : Since step PublishesRows (fun s c => ¬ RenamesDevice index s c) s₀ calls) :
    Since step (PublishesRow index (shownRow (run step s₀ calls) index)) (fun _ _ => True) s₀
      calls := by
  induction calls using List.reverseRecOn with
  | nil =>
    obtain ⟨before, c, after, hsplit, -⟩ := hsince
    simp at hsplit
  | append_singleton calls c ih =>
    have hsound := run_sound hfresh calls
    have hcount : index < (run step s₀ calls).deviceCount := by
      rwa [run_deviceCount hfresh.sound]
    have hrun : run step s₀ (calls ++ [c]) = step (run step s₀ calls) c := run_append ..
    rw [hrun] at hshowing ⊢
    rw [since_snoc] at hsince ⊢
    have hrenames : ¬ RenamesDevice index (run step s₀ calls) c := by
      rcases hsince with ⟨caller, rows, rfl, -⟩ | ⟨-, hnot⟩
      · rintro ⟨_, _, _, _, _, ⟨⟩, -⟩
      · exact hnot
    rcases step_shown hsound c hcount hrenames hshowing with hpublishes | ⟨hnone, hbefore, hsame⟩
    · exact .inl hpublishes
    · rw [hsame]
      exact .inr ⟨ih hbefore (hsince.resolve_left hnone).1, trivial⟩

/-- **Telemetry is attributed.**  What a reading of telemetry shows, labels and counters, was
published for its device by a call that succeeded, exactly if telemetry has been published since the
device was last given a new identity. -/
theorem telemetry_attribution_iff {s₀ : Mapping} (hfresh : Fresh s₀) (calls : List Call)
    (handle : GenerationHandle) (snapshot : TelemetrySnapshot)
    (hread : readTelemetry (run step s₀ calls) handle = .ok snapshot) :
    let index := findIdentity (run step s₀ calls) handle.identityRecordId
    Since step (PublishesRow index snapshot.row) (fun _ _ => True) s₀ calls ↔
      Since step PublishesRows (fun s c => ¬ RenamesDevice index s c) s₀ calls := by
  intro index
  obtain ⟨hrow, hshowing, hlabel, hfound⟩ := readTelemetry_ok hread
  obtain ⟨hindex, hcarries⟩ := findIdentity_found hfound
  have hcount := run_deviceCount hfresh.sound calls
  constructor
  · rintro ⟨before, c, after, rfl, hpublishes, -⟩
    have hsound := run_sound hfresh before
    obtain ⟨hpublished, hkept⟩ := hpublishes.identity hsound (by
      rw [run_deviceCount hfresh.sound]
      rwa [hcount] at hindex)
    obtain ⟨caller, rows, hc, hok, -⟩ := hpublishes
    refine ⟨before, c, after, rfl, ⟨caller, rows, hc, hok⟩, ?_⟩
    refine not_renamed (run_sound hfresh _) after ?_
    rw [← run_append, List.append_assoc, List.singleton_append, hcarries, run_append,
      run_cons, run_nil,
      hkept, ← hpublished, hlabel]
  · intro hsince
    rw [hrow]
    exact shown_published hfresh (hcount ▸ hindex) calls hshowing hsince

/-- Some row of telemetry. -/
def sampleRow (identityRecordId lifecycleSequence completedWorkItems : Nat) : TelemetryRow :=
  { identityRecordId, observedLifecycleSequence := lifecycleSequence,
    counters := { completedWorkItems } }

/-- The rows are read back under the identity they were published under. -/
theorem telemetry_attribution_iff_unchanged :
    let calls : List Call := [.publishTelemetry someCaller [sampleRow 1 1 5, sampleRow 2 1 6]]
    readTelemetry (run step twoDevices calls) ⟨⟨1, 1⟩, 1, 1⟩ = .ok ⟨sampleRow 1 1 5, 1⟩ ∧
      Since step (PublishesRow 0 (sampleRow 1 1 5)) (fun _ _ => True) twoDevices calls := by
  have hread : readTelemetry (run step twoDevices
      [.publishTelemetry someCaller [sampleRow 1 1 5, sampleRow 2 1 6]]) ⟨⟨1, 1⟩, 1, 1⟩ =
        .ok ⟨sampleRow 1 1 5, 1⟩ := by rfl
  refine ⟨hread, (telemetry_attribution_iff twoDevices_fresh _ _ _ hread).2 ?_⟩
  exact ⟨[], _, [], rfl, ⟨_, _, rfl, by decide +kernel⟩, trivial⟩

/-- The first device is renamed after telemetry was published for it: the counters are read back
under the identity and the sequence number it has now, which no telemetry was published under. -/
theorem telemetry_relabelled :
    let calls : List Call := [.publishTelemetry someCaller [sampleRow 1 1 5, sampleRow 2 1 6],
      .publishDeviceIdentity 0 1 1 3 2 (plainFence 3 2)]
    readTelemetry (run step twoDevices calls) ⟨⟨1, 1⟩, 3, 2⟩ = .ok ⟨sampleRow 3 2 5, 1⟩ ∧
      ¬ Since step (PublishesRow 0 (sampleRow 3 2 5)) (fun _ _ => True) twoDevices calls := by
  refine ⟨by rfl, ?_⟩
  rintro ⟨before, c, after, hsplit, ⟨caller, rows, rfl, -, hrow⟩, -⟩
  -- telemetry is published once, with the identity the device had then
  rcases before with - | ⟨_, - | ⟨_, before⟩⟩
  · cases hsplit
    exact absurd hrow (by decide)
  · cases hsplit
  · simp at hsplit

end MetaFlux.Registry
