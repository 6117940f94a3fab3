/-
# Closing

Closing ends every admission, retires the ranges that are left, and writes off the telemetry and the
control block.  A queue has no more members than there are slots, so the loop that empties it comes
to its end (`retireAll_does`), and the control block is only written off when the queue is empty.
-/
import MetaFlux.Registry.Fences
import MetaFlux.Registry.Queue

namespace MetaFlux.Registry

open Base

variable {K K' : Part → Prop} {s s' : Mapping} (slot : Nat) (owner : Owner) (caller : Caller)
  (inquiries : Inquiries)

/-- What closing writes. -/
def closing : Part → Prop
  | .telemetryControl => True
  | p => recovering p

theorem closing_of_recovering (p : Part) (h : recovering p) : closing p := by
  cases p <;> first | exact h | trivial

theorem Does.mono (hle : ∀ p, K p → K' p) (d : Does K s s') :
    Does K' s s' := ⟨Relation.ReflTransGen.mono (fun _ _ => Move.mono hle) _ _ d.moves, d.held⟩

theorem quarantine_closing : Respects (Does closing) quarantine :=
  quarantine_does trivial (fun _ => trivial) trivial

/-! ## 1. Admissions -/

theorem seal_attempt (hk : K .admissions) (slot : Nat) :
    Respects (Does K) (attemptTable.store slot (packRecord recordTagTerminal .exited 0)) :=
  .modify fun _ => does_attempt hk (.terminal rfl) rfl

theorem seal_lease (hk : K .admissions) (slot auxiliary : Nat) (state : LeaseState) :
    Respects (Does K) (leaseTable.store slot (packRecord recordTagTerminal state auxiliary)) :=
  .modify fun _ => does_lease hk (.terminal rfl) rfl

theorem sealAttempt_does : Respects (Does closing) (sealAttempt slot) :=
  .bind (.cell _) fun _ => .either (.bind quarantine_closing fun _ => .pure _) <|
    .either (.bind (seal_attempt trivial _) fun _ => .pure _) <| .pure _

theorem sealLease_does : Respects (Does closing) (sealLease slot) :=
  .bind (.cell _) fun _ => .either (.bind quarantine_closing fun _ => .pure _) <|
    .either (.bind (seal_lease trivial _ _ _) fun _ => .pure _) <| .pure _

theorem endLease_does : Respects (Does closing) (endLease slot) := by
  refine .bind (.cell _) fun c => .either (.pure _) ?_
  cases c.word.state with
  | initializing => exact .bind quarantine_closing fun _ => .pure _
  | quarantined => exact .pure _
  | _ => exact .bind (seal_lease trivial _ _ _) fun _ => .pure _

theorem endAttempt_does : Respects (Does closing) (endAttempt slot) :=
  .bind (.cell _) fun _ => .either (.pure _) <|
    .either (.bind quarantine_closing fun _ => .pure _) <|
    .bind (seal_attempt trivial _) fun _ => .pure _

/-! ## 2. Ranges -/

/-- **The loop ends with an empty queue**, unless it answers before. -/
theorem retireAll_does (turns : Nat) :
    Triple (Does closing) (fun s => ∃ q, Queued s q ∧ q.length < turns) (retireAll turns)
      fun answer s => answer = none → s.control.reservationHeadSlot = recordSlotNone := by
  induction turns with
  | zero =>
    rintro s ⟨q, -, hlen⟩
    simp at hlen
  | succ turns ih =>
    refine .get_bind fun s ⟨q, hqueued, hlen⟩ => .ite (fun hnone => .pure ?_) fun _ => ?_
    · rintro _ rfl _
      exact hnone
    have hquar : ∀ {P : Mapping → Prop}, Triple (Does closing) P (do
        return some (← quarantine)) fun answer s =>
          answer = none → s.control.reservationHeadSlot = recordSlotNone :=
      .bind quarantine_closing.triple fun _ => .pure fun _ _ h => nomatch h
    refine .either hquar <| .either hquar ?_
    refine .bind (Q := fun status s' => status = .success → ∃ q, Queued s' q ∧ q.length < turns) ?_
      fun status => .ite (fun _ => .pure fun _ _ h => nomatch h) fun hok =>
        ih.pre (fun _ h => h (not_not.1 hok))
    intro s' hs'
    rw [hs']
    obtain ⟨hdoes, htaken⟩ := retireLifecycleRange_takes (K := queueing) trivial trivial trivial
      _ _ s s rfl
    refine ⟨hdoes.mono fun p _ => by cases p <;> trivial, fun hok => ?_⟩
    obtain ⟨hopened, htaken⟩ := htaken hok
    obtain ⟨rest, rfl, hrest, -⟩ := hqueued.taken hopened htaken hdoes.kept
    exact ⟨rest, hrest, by simpa using hlen⟩

/-! ## 3. Telemetry and the control block -/

/-- A view that is being closed, with nothing left in it. -/
structure Drained (s : Mapping) : Prop where
  view : s.viewAdmission.state ≠ .open
  devices : AllClosed s
  queue : s.control.reservationHeadSlot = recordSlotNone

theorem AllClosed.keep (hk : ∀ i, ¬ K' (.admission i))
    (hkept : Kept K' s s') (h : AllClosed s) : AllClosed s' := by
  intro i hi
  rw [hkept.admission i (hk i)]
  exact h i (hkept.deviceCount ▸ hi)

theorem Drained.keep (hr : ¬ K' .ranges) (hv : ¬ K' .view)
    (hk : ∀ i, ¬ K' (.admission i)) (hkept : Kept K' s s') (h : Drained s) :
    Drained s' :=
  ⟨hkept.view hv ▸ h.view, h.devices.keep hk hkept, (hkept.queue hr hv).1.trans h.queue⟩

/-- What ending the telemetry writes. -/
def silencing : Part → Prop
  | .telemetryRecords | .telemetryControl => True
  | _ => False

theorem closeTelemetry_silencing : Respects (Does silencing) (closeTelemetry owner) := by
  -- the record is one of those kept for closing
  have hslot : ¬ telemetryTerminalSlot < ordinaryTelemetryPublishCapacity := by decide
  have hput : ∀ s c, c.hazards = (s.telemetryPublications telemetryTerminalSlot).hazards →
      Does silencing s (telemetryPublicationTable.put telemetryTerminalSlot c s) := fun s c hc =>
    .of_move (.telemetryRecord trivial fun _ h => absurd h hslot)
      (telemetryPublicationTable_holds.put_same hc)
  have hpublisher : ∀ s word, Does silencing s (writePublisher .telemetry word s) := fun _ _ =>
    .of_move (.telemetryPublisher trivial) rfl
  refine .bind (.modify fun s => hput s _ rfl) fun _ => ?_
  refine .bind (acquirePublisher_does hpublisher _ _) fun _ => .either (.pure _) ?_
  refine .bind (.modify fun s => hput s _ rfl) fun _ => .bind .get fun _ => ?_
  refine .either (.bind (releasePublisher_does hpublisher _ _) fun _ => .pure _) ?_
  refine .bind (.modify fun s => .of_move (.telemetryControl trivial (.inr nofun)) rfl) fun _ => ?_
  exact .bind (.modify fun s => hput s _ rfl) fun _ =>
    .bind (.modify fun s => hpublisher s _) fun _ => .pure _

theorem closeControl_does : Triple (Does closing) Drained (closeControl owner) fun _ _ => True := by
  have hpub : Publishes recording viewPublicationTable .view := viewPublishes (.inl rfl)
  have hkeep : ∀ s s', Kept recording s s' → Drained s → Drained s' := fun _ _ =>
    Drained.keep (by simp [recording]) (by simp [recording]) (by simp [recording])
  refine .bind (aside trivial trivial hkeep (hpub.fill _ _)) fun _ => ?_
  refine .bind (aside trivial trivial hkeep (hpub.acquire _ _)) fun _ =>
    .either (.pure fun _ _ => trivial) ?_
  refine .bind (aside trivial trivial hkeep (hpub.store _ _)) fun _ => .look_bind fun _ _ => ?_
  refine .either (.bind ((viewPublishes trivial).release _ _).triple fun _ =>
    .pure fun _ _ => trivial) ?_
  refine .bind (.modify (Q := fun _ => AllClosed) fun s hs =>
    ⟨.of_move (.terminate trivial hs.view fun _ => hs.queue) rfl, hs.devices⟩) fun _ => ?_
  have hclosed : ∀ s s', Kept recording s s' → AllClosed s → AllClosed s' := fun _ _ =>
    AllClosed.keep (by simp [recording])
  refine .bind (aside trivial trivial hclosed (hpub.store _ _)) fun _ => ?_
  refine .bind (aside trivial trivial hclosed (.modify fun s => hpub.publisher s _)) fun _ => ?_
  refine .bind (.modify (Q := fun _ _ => True) fun s hs =>
    ⟨.of_move (.view trivial (fun h => by cases h) fun _ => hs) rfl, trivial⟩) fun _ => .pure
      fun _ _ => trivial

/-! ## 4. Closing the view -/

/-- A view that is being closed, and has its queue in order. -/
structure Closing (s : Mapping) : Prop where
  view : s.viewAdmission.state ≠ .open
  queued : ∃ q, Queued s q

theorem Move.view_stays (m : Move K s s') (h : s.viewAdmission.state ≠ .open) :
    s'.viewAdmission.state ≠ .open := by
  rcases m.viewStep with hsame | hnot
  · rwa [hsame]
  · exact hnot

theorem Does.view_stays (d : Does K s s') (h : s.viewAdmission.state ≠ .open) :
    s'.viewAdmission.state ≠ .open := Moves.keeps (fun _ _ m => m.view_stays) d.moves h

theorem WordStep.closed_stays {old new : DeviceWord} (h : WordStep old new)
    (hold : old.state = .closed) :
    new.state = .closed := by
  cases h with
  | up hnot => exact absurd hold hnot
  | close hclosed => exact hclosed

/-- A device that is closed stays closed. -/
theorem Move.closed_stays (m : Move K s s') {i : Nat}
    (h : (s.devices i).admission.state = .closed) : (s'.devices i).admission.state = .closed := by
  cases m.deviceStep i with
  | same hword => rwa [hword]
  | word hstep => exact hstep.closed_stays h
  | fence hword => rwa [hword]

theorem Does.allClosed (d : Does K s s') (h : AllClosed s) : AllClosed s' := by
  intro i hi
  rw [d.kept.deviceCount] at hi
  exact Moves.keeps (fun _ _ m => m.closed_stays) d.moves (h i hi)

/-- Nothing a program does opens the view again or breaks the queue. -/
theorem closing_after {α : Type} {x : Program α} (hx : Respects (Does closing) x) :
    Triple (Does closing) Closing x fun _ => Closing := by
  rintro s ⟨hview, q, hq⟩
  obtain ⟨q', hq', -⟩ := (hx s).queued hq
  exact ⟨hx s, (hx s).view_stays hview, q', hq'⟩

theorem drainAndClose_does :
    Triple (Does closing) Closing (drainAndClose owner) fun _ _ => True := by
  have hscan : ∀ {body : Nat → Program (Option SharedStatus)} slots,
      (∀ slot, Respects (Does closing) (body slot)) →
      Triple (Does closing) Closing (scan body slots) fun _ => Closing := fun slots h =>
    closing_after (Respects.scan h slots)
  have hstop : ∀ {P : Mapping → Prop} (status : SharedStatus),
      Triple (Does closing) P (pure status) fun _ _ => True := fun _ => .pure fun _ _ => trivial
  refine .bind_option (hscan _ sealAttempt_does) hstop <|
    .bind_option (hscan _ sealLease_does) hstop <|
    .bind_option (hscan _ endLease_does) hstop <| .bind_option (hscan _ endAttempt_does) hstop ?_
  refine .bind (.modify (Q := fun _ s => Closing s ∧ AllClosed s) fun s hs =>
    ⟨closeDevices_does (fun _ => trivial) s, ?_, closeDevices_closed s⟩) fun _ => ?_
  · exact (closing_after (.modify (closeDevices_does fun _ => trivial)) s hs).2
  refine .bind (Q := fun answer s => answer = none → Drained s) ?_ fun answer => ?_
  · rintro s ⟨⟨hview, q, hq⟩, hclosed⟩
    have hlen := hq.length_le
    obtain ⟨hdoes, hempty⟩ := retireAll_does (lifecycleRangeCapacity + 1) s ⟨q, hq, by omega⟩
    exact ⟨hdoes, fun hnone => ⟨hdoes.view_stays hview, hdoes.allClosed hclosed, hempty hnone⟩⟩
  cases answer with
  | some _ => exact hstop _
  | none =>
    refine .bind_option ((unaffected (closeTelemetry_silencing owner) ?_ fun _ _ =>
      Drained.keep id id fun _ => id).pre fun _ h => h rfl) hstop (closeControl_does owner)
    intro p hp
    cases p <;> trivial

abbrev Shut (status : SharedStatus) (s : Mapping) : Prop :=
  status = .success → s.viewAdmission.state ≠ .open

/-- **Closing is moves of what it may write.**  A view that has been closed does not stay open. -/
theorem closeRecovery_does :
    Triple (Does closing) (fun s => Calm s ∧ ∃ q, Queued s q)
    (closeRecovery caller inquiries) Shut := by
  have hfails : ∀ {P : Mapping → Prop} {status : SharedStatus}, status ≠ .success →
      Triple (Does closing) P (pure status) Shut := fun hstat =>
    .pure fun _ _ h => absurd h hstat
  refine .get_bind fun s hs => .ite (fun hended => .pure ?_) fun _ => ?_
  · rintro _ rfl _ hopen
    rw [hopen] at hended
    simp at hended
  refine .bind (Q := fun _ s => ∃ q, Queued s q) ?_ fun recovered => .ite hfails fun _ => ?_
  · rintro s rfl
    obtain ⟨hcalm, q, hq⟩ := hs
    have hdoes := (recover_recovering inquiries s hcalm).1
    obtain ⟨q', hq', -⟩ := hdoes.queued hq
    exact ⟨hdoes.mono closing_of_recovering, q', hq'⟩
  cases caller.owner with
  | none => exact hfails nofun
  | some owner =>
    have hpub : Publishes closing viewPublicationTable .view := viewPublishes trivial
    have hkeep : ∀ {α : Type} {x : Program α}, Respects (Does closing) x →
        Triple (Does closing) (fun s => ∃ q, Queued s q) x fun _ s => ∃ q, Queued s q := by
      rintro α x hx s ⟨q, hq⟩
      obtain ⟨q', hq', -⟩ := (hx s).queued hq
      exact ⟨hx s, q', hq'⟩
    refine .bind (hkeep (hpub.fill _ _)) fun _ => .bind (hkeep (hpub.store _ _)) fun _ => ?_
    refine .bind (hkeep (hpub.acquire _ _)) fun status => .ite hfails fun _ => ?_
    refine .get_bind fun s ⟨q, hq⟩ => .ite (fun _ => ?_) fun hstate => ?_
    · exact .bind (hpub.release _ _).triple fun _ => hfails nofun
    have hrest : Triple (Does closing) Closing (do
        viewPublicationTable.store closeClosingSlot
          (packRecord recordTagTerminal .published recordSlotNone)
        releasePublisher .view recordTagTerminal closeClosingSlot
        drainAndClose owner) Shut := by
      refine .bind (closing_after (hpub.store _ _)) fun _ =>
        .bind (closing_after (hpub.release _ _)) fun _ s hs => ?_
      have hdoes := (drainAndClose_does owner s hs).1
      exact ⟨hdoes, fun _ => hdoes.view_stays hs.view⟩
    refine .ite (fun _ => ?_) fun hnot => hrest.start ⟨hnot, q, hq⟩
    refine .bind (.modify_at ?_ ?_) fun _ => hrest
    · exact .of_move (.view trivial nofun fun h => h.elim) rfl
    · refine ⟨nofun, q, And.left (hq.same ⟨rfl, rfl, rfl, rfl⟩ ?_ rfl rfl rfl)⟩
      exact fun _ => nofun

theorem closeLegacy_does :
    Triple (Does closing) (fun s => s.extended = false) closeLegacy Shut := by
  refine .get_bind fun s hs => .ite (fun hended => .pure ?_) fun _ => ?_
  · rintro _ rfl _ hopen
    rw [hopen] at hended
    simp at hended
  refine .start (P := fun s => s.extended = false) ?_ hs
  refine .bind (.modify (Q := fun _ s => s.extended = false ∧ s.viewAdmission.state = .closing)
    fun s hs => ⟨.of_move (.view trivial nofun fun h => h.elim) rfl, hs, rfl⟩) fun _ => ?_
  refine .bind (.modify (Q := fun _ s => (s.extended = false ∧ s.viewAdmission.state = .closing) ∧
    AllClosed s) fun s hs => ⟨.of_move (.shut (fun _ => trivial) fun i => ?_) rfl, hs, ?_⟩)
    fun _ => .look_bind fun s _ => ?_
  · split
    · exact .inr rfl
    · exact .inl rfl
  · intro i hi
    by_cases hopen : (s.devices i).admission.state ≠ .closed ∨
        (s.devices i).admission.generation ≠ deviceGenerationTerminal
    · simp only [if_pos (And.intro hi hopen)]
      rfl
    · simp only [if_neg fun h : i < s.deviceCount ∧ _ => hopen h.2]
      exact not_not.1 (not_or.1 hopen).1
  refine .either ?_ ?_
  · exact .bind (.modify (Q := fun _ _ => True) fun s hs =>
      ⟨.of_move (.view trivial nofun fun _ => hs.2) rfl, trivial⟩) fun _ => .pure
        fun _ _ h => nomatch h
  refine .bind
    (.modify (Q := fun _ => AllClosed) fun s hs => ⟨.of_move (.terminate trivial ?_ ?_) rfl,
    hs.2⟩) fun _ => ?_
  · simp [hs.1.2]
  · simp [hs.1.1]
  refine .bind (.modify (Q := fun _ s => s.viewAdmission.state = .terminal) fun s hs =>
    ⟨.of_move (.view trivial nofun fun _ => hs) rfl, rfl⟩) fun _ => .pure fun _ h _ => ?_
  rw [h]
  decide

theorem close_does :
    Triple (Does closing) (fun s => Calm s ∧ ∃ q, Queued s q) (close caller inquiries) Shut := by
  refine .get_bind fun s hs => .ite (fun _ => ?_) fun hlegacy => ?_
  · exact (closeRecovery_does caller inquiries).start hs
  · exact closeLegacy_does.start (by simpa using hlegacy)

end MetaFlux.Registry
