/-
# Publishing telemetry, call by call

The rows go to the bank that is not active, and the bank is made the active one when they are in
place.  So a call that fails leaves the active bank and its rows as they were (`Untouched`), one
that succeeds has made a bank with exactly its rows the active one (`Shown`), and no publication is
left under way, whatever the call answers (`publishTelemetry_does`).
-/
import MetaFlux.Registry.Fences

namespace MetaFlux.Registry

open Base

variable {K : Part → Prop}

/-! ## 1. Finishing a publication -/

variable {slot : Nat}

/-- **A publication under its own tag is always finished.** -/
theorem finishPublication_does {ρ : Type} {t : Slots Mapping PublishState ρ} {kind : PublisherKind}
    (h : Publishes K t kind) {tag auxiliary : Nat} {settled : PublishState}
    (htag : tag ≤ recordTagMaxNormal) {P : Mapping → Prop} (hput : ∀ s c, P s → P (t.put slot c s))
    (hpublisher : ∀ s word, P s → P (writePublisher kind word s))
    (hread : ∀ s word, t.read (writePublisher kind word s) = t.read s) :
    Triple (Does K) (fun s => P s ∧ (t.read s slot).word.tag = tag)
      (finishPublication t kind tag slot auxiliary settled)
      fun status s => status = .success ∧ P s ∧ (t.read s slot).word.state = .terminal := by
  have hrelease : ∀ Q : Tagged PublishState → Prop, Triple (Does K)
      (fun s => P s ∧ Q (t.read s slot).word) (releasePublisher kind tag slot)
      fun _ s => P s ∧ Q (t.read s slot).word := by
    intro Q
    refine .look_bind fun s _ => .either (.modify fun s hs => ⟨h.publisher s _, ?_, ?_⟩) <| .skip
    · exact hpublisher s _ hs.1
    · rw [hread]
      exact hs.2
  refine .bind_known (a := .success) (A := fun s => P s ∧ (t.read s slot).word.tag = tag ∧
    ((t.read s slot).word.state = .terminal ∨ (t.read s slot).word.state = settled)) ?_ ?_
  · refine .bind (.cell (Q := fun c s => c = t.read s slot ∧ P s ∧ (t.read s slot).word.tag = tag)
      fun s hs => ⟨rfl, hs⟩) fun c => ?_
    refine .ite (fun hstale => .extract ?_ False.elim) fun _ => .ite (fun _ => ?_) fun hstate => ?_
    · rintro s ⟨rfl, -, hsame⟩
      exact hstale hsame
    · refine .bind (.modify (Q := fun _ s => P s ∧
        (t.read s slot).word = packRecord tag settled auxiliary) fun s hs =>
        ⟨h.put s slot _ rfl, hput s _ hs.2.1, t.restate_word ..⟩) fun _ => ?_
      refine .bind (hrelease (· = packRecord tag settled auxiliary)) fun _ =>
        .pure fun s hs => ⟨rfl, hs.1, ?_⟩
      rw [hs.2]
      exact ⟨packRecord_tag htag _ _, .inr rfl⟩
    · refine .bind ((hrelease fun word => word.tag = tag ∧
        (word.state = .terminal ∨ word.state = settled)).pre ?_) fun _ =>
        .pure fun _ h => ⟨rfl, h⟩
      rintro s ⟨rfl, hp, hsame⟩
      refine ⟨hp, hsame, ?_⟩
      by_contra hneither
      exact hstate (not_or.1 hneither)
  refine .bind (.cell (Q := fun c s => c = t.read s slot ∧ P s ∧ (t.read s slot).word.tag = tag ∧
    ((t.read s slot).word.state = .terminal ∨ (t.read s slot).word.state = settled))
    fun s hs => ⟨rfl, hs⟩) fun c => ?_
  refine .ite (fun hstale => .extract ?_ False.elim) fun _ => .ite (fun hdone => ?_) fun hnot =>
    .ite (fun hother => .extract ?_ False.elim) fun _ => ?_
  · rintro s ⟨rfl, -, hsame, -⟩
    exact hstale hsame
  · refine .pure ?_
    rintro s ⟨rfl, hp, -⟩
    exact ⟨rfl, hp, hdone⟩
  · rintro s ⟨rfl, -, -, hstate⟩
    exact hstate.elim hnot hother
  · refine .bind (.modify fun s hs =>
      ⟨h.put s slot _ rfl, hput s _ hs.2.1, ?_⟩) fun _ => .pure fun _ h => ⟨rfl, h⟩
    rw [t.restate_word]
    rfl

/-! ## 2. Banks and records -/

/-- What publishing telemetry writes. -/
def telemetering : Part → Prop
  | .telemetryRecords | .pendingTelemetry | .telemetryControl | .telemetryRows => True
  | _ => False

/-- The row of a device in what is passed in. -/
def rowOf (rows : List TelemetryRow) (index : Nat) : TelemetryRow := rows.getD index ⟨0, 0, {}⟩

/-- The active bank and its rows are as they were. -/
structure Untouched (s s' : Mapping) : Prop where
  bank : s'.telemetryControl.activeBank = s.telemetryControl.activeBank
  rows : s'.telemetryBanks s.telemetryControl.activeBank.bank =
    s.telemetryBanks s.telemetryControl.activeBank.bank

/-- The other bank is the active one, with the rows that were passed in. -/
structure Shown (rows : List TelemetryRow) (s s' : Mapping) : Prop where
  bank : s'.telemetryControl.activeBank = ⟨otherBank s.telemetryControl.activeBank.bank, .ready⟩
  rows : ∀ i < s.deviceCount,
    s'.telemetryBanks (otherBank s.telemetryControl.activeBank.bank) i = rowOf rows i

/-- What an answer to a publication means. -/
def Answered (rows : List TelemetryRow) (s : Mapping) (status : SharedStatus)
    (s' : Mapping) : Prop :=
  (status = .success ∧ Shown rows s s') ∨ (status ≠ .success ∧ Untouched s s')

theorem otherBank_ne (bank : Nat) : otherBank bank ≠ bank := by
  intro h
  have hzero : bank ^^^ (bank ^^^ 1) = bank ^^^ bank := congrArg (bank ^^^ ·) h
  simp at hzero

variable {s s' : Mapping}

theorem Untouched.latch (h : Untouched s s') (latch : Nat) :
    Untouched s (onTelemetry (fun c => { c with latch }) s') := ⟨h.bank, h.rows⟩

theorem Untouched.putRows (h : Untouched s s') (rows : List TelemetryRow) :
    Untouched s (putRows (otherBank s.telemetryControl.activeBank.bank) rows s') := by
  refine ⟨h.bank, ?_⟩
  rw [← h.rows]
  funext i
  exact if_neg fun hi => otherBank_ne _ hi.1.symm

/-- No other publication than that of the slot is under way. -/
def OthersSettled (slot : Nat) (s : Mapping) : Prop :=
  ∀ other < ordinaryTelemetryPublishCapacity, other ≠ slot →
    publicationSettled (s.telemetryPublications other).word.state = true

theorem OthersSettled.put (h : OthersSettled slot s) (c : Cell PublishState TelemetryPublication) :
    OthersSettled slot (telemetryPublicationTable.put slot c s) := by
  intro other hcap hother
  change publicationSettled
    (telemetryPublicationTable.read (telemetryPublicationTable.put slot c s) other).word.state =
    true
  rw [Slots.read_put_of_ne _ hother]
  exact h other hcap hother

theorem OthersSettled.noTelemetry (h : OthersSettled slot s)
    (hslot : publicationSettled (s.telemetryPublications slot).word.state = true) :
    NoTelemetry s := by
  intro other hcap
  by_cases hother : other = slot
  · subst hother
    exact hslot
  · exact h other hcap hother

/-- The record of the publication is in a state, no other is under way, and a fact beside it. -/
structure Recorded (slot tag : Nat) (state : PublishState) (auxiliary : Nat) (B : Mapping → Prop)
    (s : Mapping) : Prop where
  word : (s.telemetryPublications slot).word = packRecord tag state auxiliary
  others : OthersSettled slot s
  fact : B s

/-- A fact that has nothing to do with publish records. -/
structure Apart (B : Mapping → Prop) : Prop where
  put : ∀ s i c, B s → B (telemetryPublicationTable.put i c s)
  publisher : ∀ s word, B s → B (writePublisher .telemetry word s)

section Records

variable {slot tag a b : Nat} {state target : PublishState} {B : Mapping → Prop} (hB : Apart B)
include hB

theorem recorded_put {c : Cell PublishState TelemetryPublication}
    (h : Recorded slot tag state a B s) (hword : c.word = packRecord tag target b) :
    Recorded slot tag target b B (telemetryPublicationTable.put slot c s) :=
  ⟨(congrArg Cell.word (telemetryPublicationTable.read_put_self ..)).trans hword, h.others.put c,
    hB.put s slot c h.fact⟩

theorem recordExchange_does :
    Triple (Does telemetering) (Recorded slot tag state a B)
      (telemetryPublicationTable.exchange slot (packRecord tag state a) (packRecord tag target b))
      fun found s => found = none ∧ Recorded slot tag target b B s := by
  refine .exchange (fun s hs _ => ⟨?_, rfl, recorded_put hB hs rfl⟩)
    fun s hs hother => absurd hs.word hother
  exact (telemetryPublishes trivial trivial).put s slot _ rfl

theorem recordStore_does :
    Triple (Does telemetering) (Recorded slot tag state a B)
      (telemetryPublicationTable.store slot (packRecord tag target b))
      fun _ => Recorded slot tag target b B :=
  .modify fun s hs =>
    ⟨(telemetryPublishes trivial trivial).put s slot _ rfl, recorded_put hB hs rfl⟩

theorem recordFill_does (f : TelemetryPublication → TelemetryPublication) :
    Triple (Does telemetering) (Recorded slot tag state a B) (telemetryPublicationTable.fill slot f)
      fun _ => Recorded slot tag state a B :=
  .modify fun s hs => ⟨(telemetryPublishes trivial trivial).put s slot _ rfl,
    recorded_put hB hs hs.word⟩

theorem recordAcquire_does :
    Triple (Does telemetering) (Recorded slot tag state a B) (acquirePublisher .telemetry tag slot)
      fun _ => Recorded slot tag state a B :=
  .look_bind fun _ _ => .either .skip <|
    .bind (.modify fun s hs =>
      ⟨(telemetryPublishes trivial trivial).publisher s _, hs.word, hs.others,
        hB.publisher s _ hs.fact⟩) fun _ => .skip

/-- The publication is finished, and nothing is under way any more. -/
theorem recordFinish_does (htag : tag ≤ recordTagMaxNormal) (settled : PublishState) :
    Triple (Does telemetering) (Recorded slot tag state a B)
      (finishTelemetryPublication tag slot b settled)
      fun status s => status = .success ∧ NoTelemetry s ∧ B s := by
  refine ((finishPublication_does (telemetryPublishes trivial trivial) htag
    (P := fun s => OthersSettled slot s ∧ B s) ?_ ?_ fun _ _ => rfl).conseq
    (fun s hs => ⟨⟨hs.others, hs.fact⟩, ?_⟩) fun status s hs => ⟨hs.1, ?_, hs.2.1.2⟩)
  · exact fun s c hs => ⟨hs.1.put c, hB.put s slot c hs.2⟩
  · exact fun s word hs => ⟨hs.1, hB.publisher s word hs.2⟩
  · exact (congrArg Tagged.tag hs.word).trans (packRecord_tag htag _ _)
  · refine hs.2.1.1.noTelemetry ?_
    rw [show (s.telemetryPublications slot).word.state = .terminal from hs.2.2]
    rfl

end Records

/-! ## 3. The way with publish records -/

/-- What is left alone while the rows are being written. -/
theorem untouched_apart (s : Mapping) : Apart fun s' =>
    Untouched s s' ∧ s'.deviceCount = s.deviceCount :=
  ⟨fun _ _ _ h => ⟨⟨h.1.bank, h.1.rows⟩, h.2⟩, fun _ _ h => ⟨⟨h.1.bank, h.1.rows⟩, h.2⟩⟩

theorem shown_apart (rows : List TelemetryRow) (s : Mapping) : Apart (Shown rows s) :=
  ⟨fun _ _ _ h => ⟨h.bank, h.rows⟩, fun _ _ h => ⟨h.bank, h.rows⟩⟩

variable {rows : List TelemetryRow}

theorem publishTelemetryClaimed_does {owner : Owner} {tag : Nat}
    (htag : tag ≤ recordTagMaxNormal) (s : Mapping) : Triple (Does telemetering)
      (Recorded slot tag .initializing 0 fun s' => s'.telemetryControl = s.telemetryControl ∧
        s'.telemetryBanks = s.telemetryBanks ∧ s'.deviceCount = s.deviceCount)
      (publishTelemetryClaimed owner rows slot tag)
      fun status s' => NoTelemetry s' ∧ Answered rows s status s' := by
  have hU := untouched_apart s
  -- the latch is written beside everything else
  have hlatch : ∀ {state : PublishState} {a : Nat} latch, Triple (Does telemetering)
      (Recorded slot tag state a fun s' => Untouched s s' ∧ s'.deviceCount = s.deviceCount)
      (setTelemetryLatch latch) fun _ =>
        Recorded slot tag state a fun s' => Untouched s s' ∧ s'.deviceCount = s.deviceCount :=
    fun latch => .modify fun s' hs' =>
      ⟨.of_move (.telemetryControl trivial (.inl trivial)) rfl, hs'.word, hs'.others,
      hs'.fact.1.latch latch, hs'.fact.2⟩
  have habort : ∀ {state : PublishState} {a b : Nat} {status : SharedStatus}, status ≠ .success →
      Triple (Does telemetering)
        (Recorded slot tag state a fun s' => Untouched s s' ∧ s'.deviceCount = s.deviceCount) (do
        let _ ← finishTelemetryPublication tag slot b .aborted
        return status) fun status s' => NoTelemetry s' ∧ Answered rows s status s' := fun hstat =>
    .bind (recordFinish_does hU htag _) fun _ => .pure fun _ h => ⟨h.2.1, .inr ⟨hstat, h.2.2.1⟩⟩
  refine .get_bind fun s₁ hs₁ => ?_
  obtain ⟨hword, hothers, hcontrol, hbanks, hcount⟩ := hs₁
  simp only [hcontrol]
  refine .start (P := Recorded slot tag .initializing 0 fun s' => Untouched s s' ∧
    s'.deviceCount = s.deviceCount) ?_
    ⟨hword, hothers, ⟨congrArg _ hcontrol, congrFun hbanks _⟩, hcount⟩
  refine .either ?_ ?_
  · refine .bind (recordExchange_does hU) fun found => .pure fun s' h => ⟨?_, .inr ⟨?_, h.2.fact.1⟩⟩
    · refine h.2.others.noTelemetry ?_
      rw [h.2.word]
      rfl
    · split_ifs <;> decide
  refine .bind (recordFill_does hU _) fun _ => ?_
  refine .bind_known (recordExchange_does hU) ?_
  refine .bind (recordAcquire_does hU) fun status =>
    .ite (habort) fun _ => ?_
  refine .bind_known (recordExchange_does hU) ?_
  refine .bind (recordStore_does hU) fun _ => ?_
  refine .bind (hlatch _) fun _ => .look_bind fun s₂ _ => .ite (fun hinvalid => ?_) fun _ => ?_
  · exact .bind (hlatch _) fun _ => habort hinvalid
  refine .bind (.modify (Q := fun _ => Recorded slot tag .active
    (otherBank s.telemetryControl.activeBank.bank) fun s' => (Untouched s s' ∧
      s'.deviceCount = s.deviceCount) ∧ ∀ i < s.deviceCount,
      s'.telemetryBanks (otherBank s.telemetryControl.activeBank.bank) i = rowOf rows i)
    fun s' hs' => ⟨.of_move (.telemetryRows trivial) rfl, hs'.word, hs'.others,
      ⟨hs'.fact.1.putRows rows, hs'.fact.2⟩, fun i hi => ?_⟩) fun _ => ?_
  · exact if_pos ⟨rfl, hs'.fact.2.symm ▸ hi⟩
  refine .look_bind fun s₃ _ => .ite (fun hinvalid => ?_) fun _ => ?_
  · refine .pre (P := Recorded slot tag .active (otherBank s.telemetryControl.activeBank.bank)
      fun s' => Untouched s s' ∧ s'.deviceCount = s.deviceCount) ?_ ?_
    · exact .bind (hlatch _) fun _ => habort hinvalid
    · exact fun _ h => ⟨h.word, h.others, h.fact.1⟩
  refine .bind (recordFill_does ?_ _) fun _ => ?_
  · exact ⟨fun s' i c h => ⟨hU.put s' i c h.1, h.2⟩, fun s' w h => ⟨hU.publisher s' w h.1, h.2⟩⟩
  refine .bind (.modify (Q := fun _ => Recorded slot tag .active
    (otherBank s.telemetryControl.activeBank.bank) (Shown rows s)) fun s' hs' =>
    ⟨.of_move (.telemetryControl trivial (.inl trivial)) rfl, hs'.word, hs'.others, rfl,
    hs'.fact.2⟩) fun _ => ?_
  exact (recordFinish_does (shown_apart rows s) htag _).post fun _ _ h =>
    ⟨h.2.1, .inl ⟨h.1, h.2.2⟩⟩

/-! ## 4. Both ways -/

/-- A publication that is let through is for the devices there are, row by row. -/
theorem checkPublication_success (h : checkPublication s rows = .success) :
    s.viewAdmission.state = .open ∧ ∀ i < s.deviceCount,
      (rowOf rows i).identityRecordId = (s.devices i).identityRecordId := by
  unfold checkPublication at h
  split_ifs at h with hargs hlabels
  simp only [not_or, not_not] at hargs
  refine ⟨hargs.2, fun i hi => ?_⟩
  by_contra hlabel
  exact hlabels (List.any_eq_true.2 ⟨i, List.mem_range.2 hi, decide_eq_true (.inl hlabel)⟩)

/-- What publishing `rows` answers, from `s`. -/
abbrev Telemetered (rows : List TelemetryRow) (s : Mapping) (status : SharedStatus) (s' : Mapping) :
    Prop :=
  (status = .success → checkPublication s rows = .success) ∧ NoTelemetry s' ∧
    Answered rows s status s'

abbrev Unshown (s s' : Mapping) : Prop :=
  NoTelemetry s' ∧ Untouched s s' ∧ s'.deviceCount = s.deviceCount

/-- What claiming a record for `s` answers. -/
abbrev Noted (s : Mapping) : Except SharedStatus (Nat × Nat) → Mapping → Prop
  | .error status, s' => status ≠ .success ∧ s' = s
  | .ok claim, s' =>
    claim.2 ≤ recordTagMaxNormal ∧ Recorded claim.1 claim.2 .initializing 0 (fun s' =>
      s'.telemetryControl = s.telemetryControl ∧ s'.telemetryBanks = s.telemetryBanks ∧
        s'.deviceCount = s.deviceCount) s'

theorem publishTelemetryRecovery_does {caller : Caller} (s : Mapping) (hs : NoTelemetry s) :
    Triple (Does telemetering) (· = s) (publishTelemetryRecovery caller rows)
    (Telemetered rows s) := by
  have hrefuse : ∀ {status : SharedStatus}, status ≠ .success → Triple (Does telemetering) (· = s)
      (pure status) (Telemetered rows s) := fun hstat =>
    .answer ⟨fun h => absurd h hstat, hs, .inr ⟨hstat, rfl, rfl⟩⟩
  refine .get_at (.ite (hrefuse) fun hchecked => ?_)
  split
  · exact hrefuse (by decide)
  refine .bind (Q := Noted s) ?_ fun claimed => ?_
  · refine claimRecord_rule (fun s' status h hstat => ⟨hstat, h⟩) ?_
    rintro _ slot tag rfl _ _ _ hmax
    refine ⟨(telemetryPublishes trivial trivial).put _ _ _ rfl, hmax, ?_, ?_, rfl, rfl, rfl⟩
    · exact telemetryPublicationTable.restate_word ..
    · exact OthersSettled.put (fun other hcap _ => hs other hcap) _
  cases claimed with
  | error =>
    exact .extract (fun _ h => h.1) fun hstat =>
      (hrefuse hstat).pre fun _ h => h.2
  | ok =>
    refine .extract (fun _ h => h.1) fun hmax => ?_
    exact (publishTelemetryClaimed_does hmax s).conseq (fun _ h => h.2) fun _ _ h =>
      ⟨fun _ => not_not.1 hchecked, h⟩

theorem publishTelemetryLegacy_does (s : Mapping) (hs : NoTelemetry s) :
    Triple (Does telemetering) (· = s) (publishTelemetryLegacy rows) (Telemetered rows s) := by
  have hrefuse : ∀ {status : SharedStatus}, status ≠ .success → Triple (Does telemetering)
      (Unshown s)
      (pure status) (Telemetered rows s) := fun hstat =>
    .pure fun _ h => ⟨fun hok => absurd hok hstat, h.1, .inr ⟨hstat, h.2.1⟩⟩
  have hlatch : ∀ latch, Triple (Does telemetering)
      (Unshown s)
      (setTelemetryLatch latch) fun _ => Unshown s := fun latch =>
    .modify fun s' h =>
      ⟨.of_move (.telemetryControl trivial (.inl trivial)) rfl, h.1, h.2.1.latch latch, h.2.2⟩
  refine .get_at (.start (P := Unshown s) ?_ ⟨hs, ⟨rfl, rfl⟩, rfl⟩)
  refine .ite (hrefuse) fun hchecked => .either (hrefuse (by decide)) <|
    .either (hrefuse (by decide)) ?_
  refine .bind (hlatch _) fun _ => .look_bind fun s₁ _ => .ite (fun hinvalid => ?_) fun _ => ?_
  · exact .bind (hlatch _) fun _ => hrefuse hinvalid
  refine .bind (.modify (Q := fun _ s' => Unshown s s' ∧ ∀ i < s.deviceCount,
    s'.telemetryBanks (otherBank s.telemetryControl.activeBank.bank) i = rowOf rows i) fun s' h =>
    ⟨.of_move (.telemetryRows trivial) rfl, ⟨h.1, h.2.1.putRows rows, h.2.2⟩, fun i hi => ?_⟩)
    fun _ => ?_
  · exact if_pos ⟨rfl, h.2.2.symm ▸ hi⟩
  refine .look_bind fun s₂ _ => .ite (fun hinvalid => ?_) fun _ => ?_
  · exact (Triple.bind (hlatch _) fun _ => hrefuse hinvalid).pre fun _ h => h.1
  refine .bind (.modify (Q := fun _ s' => NoTelemetry s' ∧ Shown rows s s') fun s' h =>
    ⟨.of_move (.telemetryControl trivial (.inl trivial)) rfl, h.1.1, rfl, h.2⟩) fun _ => .pure
      fun _ h => ?_
  exact ⟨fun _ => not_not.1 hchecked, h.1, .inl ⟨rfl, h.2⟩⟩

/-- **Publishing telemetry** shows the rows it was given, for the devices as they are labelled now,
or leaves what is shown as it is; and no publication is left under way. -/
theorem publishTelemetry_does (caller : Caller) (rows : List TelemetryRow) (s : Mapping)
    (hs : NoTelemetry s) :
    Triple (Does telemetering) (· = s) (publishTelemetry caller rows) (Telemetered rows s) :=
  .get_at (.either (publishTelemetryRecovery_does s hs) <|
    publishTelemetryLegacy_does s hs)

end MetaFlux.Registry
