/-
# Recovery between two calls

Between two calls there is nothing under way that recovery would have to carry on with (`Calm`), so
it only gives back what is left: it touches no fence and no telemetry, and leaves nothing under way
itself.
-/
import MetaFlux.Registry.Effects

namespace MetaFlux.Registry

open Base

variable {K : Part → Prop} {s s' : Mapping} (owner : Owner) (token : LifecycleRangeToken)
  (slot usedThrough : Nat)

/-! ## 1. Nothing under way -/

/-- What recovery writes. -/
def recovering : Part → Prop
  | .admissions | .updates | .publications | .telemetryRecords | .ranges | .control | .view
  | .admission _ => True
  | _ => False

/-- No update is under way. -/
def NoUpdate (s : Mapping) : Prop := ∀ slot, updatePending (s.updates slot).word.state = false

/-- No publication of telemetry is under way. -/
def NoTelemetry (s : Mapping) : Prop := ∀ slot < ordinaryTelemetryPublishCapacity,
  publicationSettled (s.telemetryPublications slot).word.state = true

structure Calm (s : Mapping) : Prop where
  updates : NoUpdate s
  telemetry : NoTelemetry s

theorem Move.noUpdate (hk : ¬ K .pendingUpdate) (m : Move K s s') (h : NoUpdate s) :
    NoUpdate s' := by
  intro slot
  cases m with
  | update hupdates hpend =>
    rename_i i cell
    change updatePending (updateTable.read (updateTable.put i cell s) slot).word.state = false
    by_cases hi : slot = i
    · subst hi
      rw [Slots.read_put_self, ← Bool.not_eq_true]
      intro hnew
      rcases hpend hnew with hold | hallowed
      · simp [h slot] at hold
      · exact hk hallowed
    · rw [Slots.read_put_of_ne _ hi]
      exact h slot
  | link =>
    rw [linkRange_eq]
    exact h slot
  | _ => exact h slot

theorem Move.noTelemetry (hk : ¬ K .pendingTelemetry) (m : Move K s s')
    (h : NoTelemetry s) : NoTelemetry s' := by
  intro slot hslot
  cases m with
  | telemetryRecord hrecords hpend =>
    rename_i i cell
    change publicationSettled
      (telemetryPublicationTable.read (telemetryPublicationTable.put i cell s) slot).word.state =
      true
    by_cases hi : slot = i
    · subst hi
      rw [Slots.read_put_self, ← Bool.not_eq_false]
      intro hnew
      rcases hpend hnew hslot with hold | hallowed
      · simp [h slot hslot] at hold
      · exact hk hallowed
    · rw [Slots.read_put_of_ne _ hi]
      exact h slot hslot
  | link =>
    rw [linkRange_eq]
    exact h slot hslot
  | _ => exact h slot hslot

theorem Does.noUpdate (hk : ¬ K .pendingUpdate) (d : Does K s s') (h : NoUpdate s) :
    NoUpdate s' := Moves.keeps (fun _ _ m => m.noUpdate hk) d.moves h

theorem Does.noTelemetry (hk : ¬ K .pendingTelemetry) (d : Does K s s')
    (h : NoTelemetry s) : NoTelemetry s' := Moves.keeps (fun _ _ m => m.noTelemetry hk) d.moves h

theorem Does.calm (hupdate : ¬ K .pendingUpdate) (htel : ¬ K .pendingTelemetry)
    (d : Does K s s') (h : Calm s) : Calm s' :=
  ⟨d.noUpdate hupdate h.updates, d.noTelemetry htel h.telemetry⟩

/-! ## 2. Quarantine -/

theorem closeDevices_does (hk : ∀ i, K (.admission i)) (s : Mapping) :
    Does K s (closeDevices s) := by
  refine .of_move (.shut hk fun i => ?_) rfl
  by_cases hi : i < s.deviceCount
  · exact .inr (if_pos hi)
  · exact .inl (if_neg hi)

theorem closeDevices_closed (s : Mapping) : AllClosed (closeDevices s) := by
  intro i hi
  have hdev : (closeDevices s).devices i = (s.devices i).setAdmission .closed := if_pos hi
  rw [hdev]
  rfl

/-- The source writes the view's word first; the outcome is the same the other way round. -/
theorem quarantine_does (hv : K .view) (hd : ∀ i, K (.admission i)) (hc : K .control) :
    Respects (Does K) quarantine := by
  have hquar : ∀ s, Does K s (closeDevices { s with
      viewAdmission := .pack viewGenerationTerminal .quarantined }) := by
    intro s
    refine IsTrans.trans _ _ _ (closeDevices_does hd s) ?_
    exact .of_move (.view hv nofun fun _ => closeDevices_closed s) rfl
  refine .modify_modify_bind hquar (.bind .get fun s => ?_)
  exact .either (.bind (.modify fun _ => does_control hc ⟨rfl, rfl, rfl, rfl⟩) fun _ => .pure _) <|
    .pure _

/-! ## 3. Updates -/

theorem quarantine_recovering : Respects (Does recovering) quarantine :=
  quarantine_does trivial (fun _ => trivial) trivial

theorem retire_recovering : Respects (Does recovering) (retireLifecycleRange token usedThrough) :=
  retireLifecycleRange_does trivial trivial trivial token usedThrough

theorem retireUpdateRange_recovering (expected : Disposition) :
    Respects (Does recovering) (retireUpdateRange token usedThrough expected) := by
  refine .bind (.cell _) fun c => .either quarantine_recovering ?_
  refine .either (.either (.pure _) quarantine_recovering) ?_
  refine .either (.pure _) <| .bind (retire_recovering _ _) fun _ => ?_
  exact .either (.pure _) <| .bind (.cell _) fun _ => .pure _

theorem finishUpdate_recovering (tag publishSlot : Nat) (expected : UpdateState) :
    Respects (Does recovering) (finishUpdate slot tag publishSlot expected) := by
  refine .bind (.exchange fun s _ => does_update trivial (nofun) rfl) fun found => ?_
  cases found <;> exact .pure _

theorem orQuarantine_recovering (status : SharedStatus) :
    Respects (Does recovering) (orQuarantine status) :=
  .either quarantine_recovering <| .pure _

theorem endUpdate_recovering (tag : Nat) (update : DeviceUpdate) (rangeSlot : Nat)
    (settled : PublishState) (disposition : Disposition) (state : UpdateState) :
    Respects (Does recovering)
      (endUpdate slot tag update rangeSlot token settled usedThrough disposition state) := by
  have hpub : Publishes recovering viewPublicationTable .view := viewPublishes trivial
  refine .bind (hpub.settle _ _ _ _) fun _ => .bind (orQuarantine_recovering _) fun _ => ?_
  refine .either (.pure _) <| .bind (retireUpdateRange_recovering _ _ _) fun _ => ?_
  refine .either (.pure _) <| .bind (finishUpdate_recovering _ _ _ _) fun _ => ?_
  refine .either (.pure _) <| .bind (hpub.terminalize _ _ _ _) fun _ => ?_
  exact .bind (orQuarantine_recovering _) fun _ => .either (.pure _) <| .pure _

/-- An update that is not under way is only brought to its end. -/
theorem resumeUpdate_recovering {slot tag : Nat} {state : UpdateState} {update : DeviceUpdate}
    {rangeSlot : Nat} {token : LifecycleRangeToken} (hstate : updatePending state = false) :
    Respects (Does recovering) (resumeUpdate slot tag state update rangeSlot token) := by
  cases state with
  | prepared | linking | active | fencePublished => cases hstate
  | reopened | aborted | closed => exact endUpdate_recovering _ _ _ _ _ _ _ _ _
  | _ => exact .pure _

theorem recoverDeviceUpdate_recovering :
    Triple (Does recovering) Calm (recoverDeviceUpdate owner slot) fun _ _ => True := by
  refine .bind
    (.cell (Q := fun c _ => updatePending c.word.state = false) fun s hs => hs.updates slot)
    fun c => .extract (fun _ h => h) fun hstate => Respects.triple ?_
  refine .either (.pure _) ?_
  refine .guarded (does_bracket updateTable_holds (update_move trivial) _) (.bind .get fun s => ?_)
  refine .either (.pure _) <| .either (.bind quarantine_recovering fun _ => .pure _) ?_
  refine .guarded (does_bracket viewPublicationTable_holds (publication_move trivial) _)
    (.bind .get fun s => ?_)
  refine .either (.bind quarantine_recovering fun _ => .pure _) ?_
  refine .guarded (does_bracket rangeTable_holds (range_move trivial) _) (.bind .get fun s => ?_)
  exact .either (.bind quarantine_recovering fun _ => .pure _) <| resumeUpdate_recovering hstate

/-! ## 4. Owners -/

/-- A program that writes nothing but what recovery writes leaves nothing under way. -/
theorem calm_after {α : Type} {x : Program α} {Q : α → Mapping → Prop}
    (h : Triple (Does recovering) Calm x Q) : Triple (Does recovering) Calm x fun _ => Calm :=
  fun s hs => ⟨(h s hs).1, (h s hs).1.calm id id hs⟩

theorem scan_recovering {body : Nat → Program (Option SharedStatus)}
    (h : ∀ slot, Triple (Does recovering) Calm (body slot) fun _ _ => True) (slots : List Nat) :
    Triple (Does recovering) Calm (scan body slots) fun _ => Calm :=
  .scan (fun slot _ => (calm_after (h slot)).post fun answer _ h => by
    cases answer <;> exact h) fun _ h => h

/-- No publication of telemetry is found. -/
theorem recoverTelemetryPublication_recovering {slot : Nat}
    (hslot : slot < ordinaryTelemetryPublishCapacity) :
    Triple (Does recovering) Calm (recoverTelemetryPublication owner slot) fun answer s =>
      answer = none ∧ Calm s := by
  refine .bind (.cell (Q := fun c s => publicationSettled c.word.state = true ∧ Calm s)
    fun s hs => ⟨hs.telemetry slot hslot, hs⟩) fun c => ?_
  exact .extract (fun _ h => h.1) fun hsettled =>
    .ite (fun _ => .pure fun s h => ⟨rfl, h.2⟩) fun h => absurd hsettled h

theorem recoverTelemetryPublish_recovering :
    Triple (Does recovering) Calm (recoverTelemetryPublish owner) fun _ => Calm := by
  refine .bind (.scan (fun slot hslot => ?_) fun _ h => h) fun _ =>
    .skip
  refine (recoverTelemetryPublication_recovering owner (List.mem_range.1 hslot)).post ?_
  rintro _ s ⟨rfl, h⟩
  exact h

theorem recoverLease_does (hk : K .admissions) (owner : Owner) (slot : Nat) :
    Respects (Does K) (recoverLease owner slot) := by
  refine .guarded (does_bracket leaseTable_holds (lease_move hk) _) ?_
  refine Triple.respects (Q := fun _ _ => True) (.get_bind fun s _ => ?_)
  refine .either ?_ <| (Respects.pure _).triple
  split
  all_goals first
    | exact (Respects.pure _).triple
    | rename_i hstate
      exact .modify_at (advance_lease hk rfl (by rw [hstate]; decide)) trivial

theorem recoverAttempt_does (hk : K .admissions) (owner : Owner) (slot : Nat) :
    Respects (Does K) (recoverAttempt owner slot) := by
  refine .guarded (does_bracket attemptTable_holds (attempt_move hk) _) ?_
  refine Triple.respects (Q := fun _ _ => True) (.get_bind fun s _ => ?_)
  refine .ite (fun hstate => ?_) fun _ => (Respects.pure _).triple
  exact .modify_at (advance_attempt hk rfl (attemptRank_lt hstate.2.2.1)) trivial

theorem recoverViewPublication_recovering :
    Respects (Does recovering) (recoverViewPublication owner slot) := by
  refine .bind (.cell _) fun c => .either (.pure _) ?_
  refine .guarded (does_bracket viewPublicationTable_holds (publication_move trivial) _)
    (.bind .get fun s => ?_)
  refine .either (.pure _) <| .either (.bind quarantine_recovering fun _ => .pure _) ?_
  refine .bind (finishViewPublication_does trivial _ _ _ _) fun status => ?_
  exact .either (.bind quarantine_recovering fun _ => .pure _) <| .either (.pure _) <| .pure _

theorem recoverRange_recovering : Respects (Does recovering) (recoverRange owner slot) := by
  refine .guarded (does_bracket rangeTable_holds (range_move trivial) _) ?_
  refine Triple.respects (Q := fun _ _ => True) (.get_bind fun s _ => ?_)
  refine .either ((Respects.pure _).triple) <| .either ?_ ?_
  · exact (Respects.bind (retire_recovering _ _) fun status =>
      .either (.pure _) <| .pure _).triple
  · refine .ite (fun hprep => ?_) fun _ => (Respects.pure _).triple
    refine .bind (.modify_at (Q := fun _ _ => True) (does_range trivial ?_ rfl) trivial) fun _ =>
      (Respects.pure _).triple
    exact .outside (by rw [hprep]; decide) (by simp [packRecord, Cell.setWord]) (.inr (.inl rfl))

/-- What comes after the leases. -/
theorem recoverRecords_recovering :
    Triple (Does recovering) Calm (do
      (List.range admissionAttemptCapacity).forM (recoverAttempt owner)
      let status ← recoverDeviceUpdates owner
      if status ≠ .success then
        return status
      let status ← recoverTelemetryPublish owner
      if status ≠ .success then
        return status
      match ← scan (recoverViewPublication owner) (List.range ordinaryViewPublishCapacity) with
      | some status => return status
      | none =>
        return (← scan (recoverRange owner) (List.range lifecycleRangeCapacity)).getD .success)
      fun _ => Calm := by
  refine .bind (calm_after (Respects.forM (recoverAttempt_does trivial owner) _).triple) fun _ => ?_
  refine .bind (.bind (scan_recovering (recoverDeviceUpdate_recovering owner) _) fun _ =>
    .skip) fun status => .either .skip ?_
  refine .bind (recoverTelemetryPublish_recovering owner) fun status =>
    .either .skip ?_
  refine .bind_option (scan_recovering (fun slot =>
    (recoverViewPublication_recovering owner slot).triple) _) (fun _ => .skip) ?_
  exact .bind (scan_recovering (fun slot => (recoverRange_recovering owner slot).triple) _) fun _ =>
    .skip

theorem recoverOwner_recovering (ownerMayStillRun : Bool) :
    Triple (Does recovering) Calm (recoverOwner owner ownerMayStillRun) fun _ => Calm := by
  refine .look_bind fun s _ => .either .skip <|
    .either .skip <|
    .either (calm_after quarantine_recovering.triple) ?_
  exact .bind (calm_after (Respects.forM (recoverLease_does trivial owner) _).triple) fun _ =>
    recoverRecords_recovering owner

theorem recoverHolder_recovering {α ρ : Type} {t : Slots Mapping α ρ} {table : Table}
    (ht : Holds t table) (hmove : Counts recovering t)
    (settled : α → Bool) (ownerOf : ρ → Owner) (deadlineOf : ρ → Nat) (inquiry : Nat → Inquiry)
    (slot : Nat) :
    Triple (Does recovering) Calm (recoverHolder t settled ownerOf deadlineOf inquiry slot)
      fun _ _ => True := by
  have hcalm : ∀ s i c, c.word = (t.read s i).word → c.payload = (t.read s i).payload → Calm s →
      Calm (t.put i c s) := fun s i c hword hpay h =>
    ⟨(hmove s i c hword hpay).noUpdate id h.updates,
      (hmove s i c hword hpay).noTelemetry id h.telemetry⟩
  refine .bind (.cell (Q := fun _ => Calm) fun _ h => h) fun c =>
    .either (.pure fun _ _ => trivial) ?_
  refine .guarded (does_bracket ht hmove _) (fun _ _ _ => trivial)
    (fun s h => hcalm s slot _ rfl rfl h) ?_ fun _ _ (_ : True) => trivial
  refine .bind (.cell (Q := fun _ => Calm) fun _ h => h) fun c =>
    .either (.pure fun _ _ => trivial) ?_
  refine .either (.bind (recoverOwner_recovering _ _) fun status => ?_) <| .pure fun _ _ => trivial
  exact .either (.pure fun _ _ => trivial) <| .pure fun _ _ => trivial

theorem recover_recovering (inquiries : Inquiries) :
    Triple (Does recovering) Calm (recover inquiries) fun _ => Calm := by
  have hattempts := scan_recovering (recoverHolder_recovering attemptTable_holds
    (attempt_move trivial) attemptSettled (·.owner) (·.deadlineNs) (inquiries .attempt))
  have hupdates := scan_recovering (recoverHolder_recovering updateTable_holds
    (update_move trivial) updateSettled (·.owner) (·.deadlineNs) (inquiries .update))
  have htel := scan_recovering (recoverHolder_recovering telemetryPublicationTable_holds
    (telemetryRecord_move trivial) publicationSettled (·.owner) (·.deadlineNs)
    (inquiries .telemetryPublication))
  have hpublications := scan_recovering (recoverHolder_recovering viewPublicationTable_holds
    (publication_move trivial) publicationSettled (·.owner) (·.deadlineNs)
    (inquiries .viewPublication))
  have hranges := scan_recovering (recoverHolder_recovering rangeTable_holds
    (range_move trivial) rangeSettled (·.owner) (·.deadlineNs) (inquiries .range))
  refine .look_bind fun s _ => .either .skip ?_
  have hstop : ∀ status : SharedStatus, Triple (Does recovering) Calm (pure status) fun _ => Calm :=
    fun _ => .skip
  exact .bind_option (hattempts _) hstop <| .bind_option (hupdates _) hstop <|
    .bind_option (htel _) hstop <| .bind_option (hpublications _) hstop <|
      .bind_option (hranges _) hstop <| hstop _

end MetaFlux.Registry
