/-
# The programs of the registry are moves

For every program but the publication of an identity: it is a sequence of moves of the parts that it
is about, and the references it takes to a slot it gives back (`Does`).  Closing needs to know that
the queue is short, and has its turn in `Registry/Queue`.
-/
import MetaFlux.Registry.Moves

namespace MetaFlux.Registry

open Base Function Slots

/-! ## 1. References -/

inductive Table where
  | attempt | lease | update | range | viewPublication | telemetryPublication
deriving DecidableEq

/-- How many references are held to each slot of each table. -/
def held (s : Mapping) : Table → Nat → Nat
  | .attempt, i => (s.attempts i).hazards
  | .lease, i => (s.leases i).hazards
  | .update, i => (s.updates i).hazards
  | .range, i => (s.ranges i).hazards
  | .viewPublication, i => (s.viewPublications i).hazards
  | .telemetryPublication, i => (s.telemetryPublications i).hazards

/-- Moves, after which every reference that was taken has been given back. -/
structure Does (K : Part → Prop) (s s' : Mapping) : Prop where
  moves : Moves K s s'
  held : held s' = held s

instance (K : Part → Prop) : IsPreorder Mapping (Does K) where
  refl _ := ⟨.refl, rfl⟩
  trans _ _ _ h h' := ⟨h.moves.trans h'.moves, h'.held.trans h.held⟩

variable {K : Part → Prop} {s s' : Mapping}

theorem Does.of_move (m : Move K s s') (h : Registry.held s' = Registry.held s) :
    Does K s s' := ⟨.single m, h⟩

theorem Does.kept (h : Does K s s') : Kept K s s' := h.moves.kept

variable {K' : Part → Prop} {α : Type} {A : Mapping → Prop} {x : Program α}

/-- An assertion about parts that a program does not touch. -/
theorem unaffected
    (hx : Respects (Does K') x) (hle : ∀ p, K' p → K p) (hA : ∀ s s', Kept K' s s' → A s → A s') :
    Triple (Does K) A x fun _ => A := fun s hs =>
  ⟨⟨Relation.ReflTransGen.mono (fun _ _ => Move.mono hle) _ _ (hx s).moves, (hx s).held⟩,
    hA _ _ (hx s).kept hs⟩

/-- What a publication writes for itself. -/
def recording (p : Part) : Prop := p = .publications ∨ p = .control

theorem aside (hp : K .publications) (hc : K .control)
    (hA : ∀ s s', Kept recording s s' → A s → A s') (hx : Respects (Does recording) x) :
    Triple (Does K) A x fun _ => A := unaffected hx (by rintro _ (rfl | rfl) <;> assumption) hA

/-- Which of the tables it is. -/
structure Holds {α ρ : Type} (t : Slots Mapping α ρ) (table : Table) : Prop where
  read : ∀ s i, held s table i = (t.read s i).hazards
  put : ∀ s i c, held (t.put i c s) =
    Function.update (held s) table (Function.update (held s table) i c.hazards)

variable {i : Nat} {table : Table} {ρ : Type} {t : Slots Mapping α ρ}

theorem Holds.put_same (h : Holds t table)
    {c : Cell α ρ} (hc : c.hazards = (t.read s i).hazards) : held (t.put i c s) = held s := by
  rw [h.put, hc, ← h.read, update_eq_self, update_eq_self]

theorem holds_of (hread : ∀ s i, held s table i = (t.read s i).hazards)
    (hother : ∀ s i c, ∃ row, held (t.put i c s) = update (held s) table row) : Holds t table where
  read := hread
  put s i c := by
    obtain ⟨row, hrow⟩ := hother s i c
    rw [hrow]
    congr
    have hself : row = held (t.put i c s) table := by rw [hrow, update_self]
    funext j
    rw [hself, hread, t.read_put]
    by_cases hj : j = i
    · subst hj
      rw [update_self, update_self]
    · rw [update_of_ne hj, update_of_ne hj, hread]

theorem attemptTable_holds : Holds attemptTable .attempt :=
  holds_of (fun _ _ => rfl) fun _ _ _ => ⟨_, by funext table; cases table <;> rfl⟩

theorem leaseTable_holds : Holds leaseTable .lease :=
  holds_of (fun _ _ => rfl) fun _ _ _ => ⟨_, by funext table; cases table <;> rfl⟩

theorem updateTable_holds : Holds updateTable .update :=
  holds_of (fun _ _ => rfl) fun _ _ _ => ⟨_, by funext table; cases table <;> rfl⟩

theorem rangeTable_holds : Holds rangeTable .range :=
  holds_of (fun _ _ => rfl) fun _ _ _ => ⟨_, by funext table; cases table <;> rfl⟩

theorem viewPublicationTable_holds : Holds viewPublicationTable .viewPublication :=
  holds_of (fun _ _ => rfl) fun _ _ _ => ⟨_, by funext table; cases table <;> rfl⟩

theorem telemetryPublicationTable_holds : Holds telemetryPublicationTable .telemetryPublication :=
  holds_of (fun _ _ => rfl) fun _ _ _ => ⟨_, by funext table; cases table <;> rfl⟩

/-- Counting the references to a record is a move. -/
def Counts (K : Part → Prop) (t : Slots Mapping α ρ) : Prop :=
  ∀ s i c, c.word = (t.read s i).word → c.payload = (t.read s i).payload → Move K s (t.put i c s)

/-- Taking a reference and giving it back around something that gives back its own. -/
theorem does_bracket (ht : Holds t table) (hmove : Counts K t) (i : Nat) (s s' : Mapping)
    (h : Does K (t.put i (t.read s i).hold s) s') :
    Does K s (t.put i (t.read s' i).drop s') := by
  have hheld : Move K s (t.put i (t.read s i).hold s) := hmove s i _ rfl rfl
  have hdropped : Move K s' (t.put i (t.read s' i).drop s') := hmove s' i _ rfl rfl
  refine ⟨.head hheld (h.moves.tail hdropped), ?_⟩
  have hinside : (t.read s' i).hazards = (t.read s i).hazards + 1 := by
    rw [← ht.read, h.held, ht.put, update_self, update_self]
    rfl
  have hdrop : (t.read s' i).drop.hazards = (t.read s i).hazards := by
    change (t.read s' i).hazards - 1 = _
    omega
  rw [ht.put, hdrop, h.held, ht.put, update_self, update_idem, update_idem,
    ← ht.read, update_eq_self, update_eq_self]

theorem attempt_move (hk : K .admissions) : Counts K attemptTable := fun _ _ _ hword hpay =>
  .attempt hk (.refer hword hpay)

theorem lease_move (hk : K .admissions) : Counts K leaseTable := fun _ _ _ hword hpay =>
  .lease hk (.refer hword hpay)

theorem update_move (hk : K .updates) : Counts K updateTable := fun _ _ _ hword _ =>
  .update hk fun h => .inl (hword ▸ h)

theorem publication_move (hk : K .publications) : Counts K viewPublicationTable := fun _ _ _ _ _ =>
  .publication hk

theorem telemetryRecord_move (hk : K .telemetryRecords) : Counts K telemetryPublicationTable :=
  fun _ _ _ hword _ => .telemetryRecord hk fun h _ => .inl (hword ▸ h)

theorem range_move (hk : K .ranges) : Counts K rangeTable := fun _ _ _ hword hpay =>
  .range hk (.refer hword hpay)

/-! ## 2. Single steps -/

variable {auxiliary capacity : Nat} {state : AttemptState} {P : Mapping → Prop} {viewId : ViewId}

section

variable (hk : K .admissions)

include hk

theorem does_attempt {c : Cell AttemptState Attempt}
    (h : AttemptStep (s.attempts i) c) (hc : c.hazards = (s.attempts i).hazards) :
    Does K s (attemptTable.put i c s) := .of_move (.attempt hk h) (attemptTable_holds.put_same hc)

theorem does_lease {c : Cell LeaseState Lease}
    (h : LeaseStep (s.leases i) c) (hc : c.hazards = (s.leases i).hazards) :
    Does K s (leaseTable.put i c s) := .of_move (.lease hk h) (leaseTable_holds.put_same hc)

/-- A slot goes on to a later state under its tag. -/
theorem advance_attempt {tag : Nat} (htag : tag % 2 ^ 24 = (s.attempts i).word.tag % 2 ^ 24)
    (hrank : attemptRank (s.attempts i).word.state < attemptRank state) :
    Does K s (attemptTable.restate i (packRecord tag state auxiliary) s) :=
  does_attempt hk (.advance htag hrank rfl) rfl

theorem advance_lease {tag : Nat} {state : LeaseState}
    (htag : tag % 2 ^ 24 = (s.leases i).word.tag % 2 ^ 24)
    (hrank : leaseRank (s.leases i).word.state < leaseRank state) :
    Does K s (leaseTable.restate i (packRecord tag state auxiliary) s) :=
  does_lease hk (.advance htag hrank rfl) rfl

theorem onward_attempt {tag a b : Nat}
    {source target : AttemptState} (hword : (attemptTable.read s i).word = packRecord tag source a)
    (hrank : attemptRank source < attemptRank target) :
    Does K s (attemptTable.restate i (packRecord tag target b) s) := by
  change (s.attempts i).word = _ at hword
  exact advance_attempt hk (by simp [hword, packRecord]) (by rw [hword]; exact hrank)

theorem onward_lease {tag a b : Nat} {source target : LeaseState}
    (hword : (leaseTable.read s i).word = packRecord tag source a)
    (hrank : leaseRank source < leaseRank target) :
    Does K s (leaseTable.restate i (packRecord tag target b) s) := by
  change (s.leases i).word = _ at hword
  exact advance_lease hk (by simp [hword, packRecord]) (by rw [hword]; exact hrank)

end

theorem attemptRank_lt (h : state ≠ .exited) : attemptRank state < attemptRank .exited := by
  cases state <;> first | decide | exact absurd rfl h

theorem does_update (hk : K .updates) {c : Cell UpdateState DeviceUpdate}
    (h : updatePending c.word.state = true →
      updatePending (s.updates i).word.state = true ∨ K .pendingUpdate)
    (hc : c.hazards = (s.updates i).hazards) : Does K s (updateTable.put i c s) :=
  .of_move (.update hk h) (updateTable_holds.put_same hc)

theorem does_range (hk : K .ranges) {c : Cell RangeState LifecycleRange}
    (h : RangeStep (s.ranges i) c) (hc : c.hazards = (s.ranges i).hazards) :
    Does K s (rangeTable.put i c s) := .of_move (.range hk h) (rangeTable_holds.put_same hc)

theorem does_control (hk : K .control) {f : ViewControl → ViewControl}
    (h : QueueKept s.control (f s.control)) : Does K s (onControl f s) :=
  .of_move (.control hk h) rfl

theorem setControlLatch_does (hk : K .control) (latch : Nat) :
    Respects (Does K) (setControlLatch latch) :=
  .modify fun _ => does_control hk ⟨rfl, rfl, rfl, rfl⟩

/-- Publish records of one kind, which may be written freely, and their publisher. -/
structure Publishes {ρ : Type} (K : Part → Prop) (t : Slots Mapping PublishState ρ)
    (kind : PublisherKind) : Prop where
  put : ∀ s i c, c.hazards = (t.read s i).hazards → Does K s (t.put i c s)
  publisher : ∀ s word, Does K s (writePublisher kind word s)

theorem viewPublishes (hk : K .publications) : Publishes K viewPublicationTable .view where
  put _ _ _ hc := .of_move (.publication hk) (viewPublicationTable_holds.put_same hc)
  publisher _ _ := .of_move (.viewPublisher hk) rfl

theorem telemetryPublishes (hk : K .telemetryRecords) (hpend : K .pendingTelemetry) :
    Publishes K telemetryPublicationTable .telemetry where
  put _ _ _ hc := .of_move (.telemetryRecord hk fun _ _ => .inr hpend)
    (telemetryPublicationTable_holds.put_same hc)
  publisher _ _ := .of_move (.telemetryPublisher hk) rfl

/-! ## 3. Publications -/

section

variable {kind : PublisherKind} (h : ∀ s word, Does K s (writePublisher kind word s))
    (tag slot : Nat)

include h tag slot

theorem acquirePublisher_does : Respects (Does K) (acquirePublisher kind tag slot) :=
  .bind .get fun _ => .either (.pure _) <| .bind (.modify fun s => h s _) fun _ => .pure _

theorem releasePublisher_does : Respects (Does K) (releasePublisher kind tag slot) :=
  .bind .get fun _ => .either (.modify fun s => h s _) <| .pure _

end

section Publications

variable {t : Slots Mapping PublishState ρ} {kind : PublisherKind} (h : Publishes K t kind)
  (tag slot auxiliary : Nat) (settled : PublishState)
include h

theorem Publishes.store (i : Nat) (word : Tagged PublishState) :
    Respects (Does K) (t.store i word) :=
  .modify fun s => h.put s i _ rfl

theorem Publishes.fill (i : Nat) (f : ρ → ρ) : Respects (Does K) (t.fill i f) :=
  .modify fun s => h.put s i _ rfl

theorem Publishes.exchange (i : Nat) (expected desired : Tagged PublishState) :
    Respects (Does K) (t.exchange i expected desired) :=
  .exchange fun s _ => h.put s i _ rfl

theorem Publishes.acquire : Respects (Does K) (acquirePublisher kind tag slot) :=
  acquirePublisher_does h.publisher tag slot

theorem Publishes.release : Respects (Does K) (releasePublisher kind tag slot) :=
  releasePublisher_does h.publisher tag slot

theorem Publishes.settle :
    Respects (Does K) (settlePublication t kind tag slot auxiliary settled) := by
  refine .bind (.cell slot) fun c => .either (.pure _) ?_
  exact .either (.bind (h.store _ _) fun _ => .bind (h.release _ _) fun _ => .pure _) <|
    .bind (h.release _ _) fun _ => .pure _

theorem Publishes.terminalize :
    Respects (Does K) (terminalizePublication t tag slot auxiliary settled) :=
  .bind (.cell slot) fun _ => .either (.pure _) <| .either (.pure _) <|
    .either (.pure _) <| .bind (h.store _ _) fun _ => .pure _

theorem Publishes.finish :
    Respects (Does K) (finishPublication t kind tag slot auxiliary settled) :=
  .bind (h.settle tag slot auxiliary settled) fun _ => .either (.pure _) <|
    h.terminalize tag slot auxiliary settled

end Publications

theorem finishViewPublication_does (hk : K .publications) (tag slot rangeSlot : Nat)
    (settled : PublishState) :
    Respects (Does K) (finishViewPublication tag slot rangeSlot settled) :=
  (viewPublishes hk).finish _ _ _ _

/-! ## 4. Claims -/

theorem packRecord_tag {tag : Nat} (htag : tag ≤ recordTagMaxNormal) (state : α)
    (auxiliary : Nat) : (packRecord tag state auxiliary).tag = tag := by
  have hmax : recordTagMaxNormal < 2 ^ 24 := by decide
  exact Nat.mod_eq_of_lt (Nat.lt_of_le_of_lt htag hmax)

/-- **The rule of claims.**  A slot that is found was reusable, and stands under its next tag. -/
theorem claimRecord_rule {reusable : α → Bool}
    {state : α} {Q : Except SharedStatus (Nat × Nat) → Mapping → Prop}
    (herror : ∀ s status, P s → status ≠ .success → Q (.error status) s)
    (hok : ∀ s slot tag, P s → slot < capacity → Slots.Claimable reusable (t.read s slot) →
      tag = (t.read s slot).word.tag + 1 → tag ≤ recordTagMaxNormal →
      Does K s (t.restate slot (packRecord tag state auxiliary) s) ∧
        Q (.ok (slot, tag)) (t.restate slot (packRecord tag state auxiliary) s)) :
    Triple (Does K) P (claimRecord t capacity reusable state auxiliary) Q := by
  refine .get_bind fun s hs => ?_
  split
  · exact .answer (herror _ _ hs (by split_ifs <;> decide))
  · rename_i slot tag hfound
    obtain ⟨hslot, hclaim, hlimit, htag⟩ := search_ok hfound
    obtain ⟨hdoes, hafter⟩ := hok s slot tag hs (List.mem_range.1 hslot) hclaim htag (htag ▸ hlimit)
    exact .bind (.modify_at (Q := fun _ => Q (.ok (slot, tag))) hdoes hafter) fun _ =>
      .skip

/-- A publication is claimed beside whatever does not depend on it. -/
theorem claimPublication_bind (hp : K .publications) {reusable : PublishState → Bool}
    {state : PublishState} {f : Except SharedStatus (Nat × Nat) → Program α}
    {Q : α → Mapping → Prop} (hA : ∀ s i c, A s → A (viewPublicationTable.put i c s))
    (herror : ∀ status, status ≠ .success → Triple (Does K) A (f (.error status)) Q)
    (hok : ∀ claim, Triple (Does K) A (f (.ok claim)) Q) : Triple (Does K) A
      (claimRecord viewPublicationTable capacity reusable state auxiliary >>= f) Q := by
  refine .bind (Q := fun answer s => A s ∧ ∀ status, answer = .error status → status ≠ .success)
    (claimRecord_rule (fun s status hs hstat => ⟨hs, ?_⟩) fun s _ _ hs _ _ _ _ =>
      ⟨(viewPublishes hp).put _ _ _ rfl, hA _ _ _ hs, nofun⟩) fun answer => ?_
  · rintro _ ⟨⟩
    exact hstat
  cases answer with
  | error => exact .extract (fun _ h => h.2 _ rfl) fun hstat =>
    (herror _ hstat).pre fun _ h => h.1
  | ok => exact (hok _).pre fun _ h => h.1

theorem claimRange_does (hk : K .ranges) :
    Triple (Does K) (·.extended = true) (claimRecord rangeTable lifecycleRangeCapacity rangeReusable
      .initializing Disposition.none.code) fun answer s =>
        match answer with
        | .error status => status ≠ .success
        | .ok (slot, tag) => (slot < lifecycleRangeCapacity ∧ tag ≤ recordTagMaxNormal) ∧
            s.extended = true ∧ (s.ranges slot).word =
              packRecord tag .initializing Disposition.none.code := by
  refine claimRecord_rule (fun _ _ _ h => h) fun s slot tag hext hslot hclaim htag hmax =>
    ⟨does_range hk (.outside ?_ nofun (.inr (.inr ⟨?_, ?_⟩))) rfl, ⟨hslot, hmax⟩, hext,
      rangeTable.restate_word ..⟩
  · intro hopen
    have hreusable := hclaim.1
    rw [show (rangeTable.read s slot).word.state = .open from hopen] at hreusable
    cases hreusable
  · exact (packRecord_tag hmax _ _).trans htag
  · change (rangeTable.read s slot).word.tag < _
    omega

/-! ## 5. Ranges -/

/-- The word of a range is exchanged outside of the queue. -/
theorem rangeExchange_does (hk : K .ranges) {tag a b : Nat} {source target : RangeState}
    (hsource : source ≠ .open) (htarget : target ≠ .open) :
    Respects (Does K)
    (rangeTable.exchange i (packRecord tag source a) (packRecord tag target b)) := by
  refine .exchange fun s hword => does_range hk (.outside ?_ htarget (.inl ?_)) rfl
  · change (rangeTable.read s i).word.state ≠ _
    rw [hword]
    exact hsource
  · change _ = (rangeTable.read s i).word.tag
    rw [hword]
    rfl

theorem held_restate (i : Nat) (word : Tagged RangeState) (s : Mapping) :
    held (rangeTable.restate i word s) = held s := rangeTable_holds.put_same rfl

theorem held_amend (i : Nat) (f : LifecycleRange → LifecycleRange) (s : Mapping) :
    held (rangeTable.amend i f s) = held s := rangeTable_holds.put_same rfl

theorem held_onControl (f : ViewControl → ViewControl) (s : Mapping) :
    held (onControl f s) = held s := rfl

theorem held_linkRange (slot tag rangeEnd : Nat) (s : Mapping) :
    held (linkRange slot tag rangeEnd s) = held s := by
  unfold linkRange
  simp only [held_restate, held_onControl]
  split <;> simp only [held_amend]

theorem held_unlinkRange (token : LifecycleRangeToken) (usedThrough : Nat) (s : Mapping) :
    held (unlinkRange token usedThrough s) = held s := by
  simp only [unlinkRange, held_restate, held_onControl, held_amend]

/-- The record of a range that is filled in and not linked yet. -/
structure Staged (viewId : ViewId) (state : RangeState) (slot tag : Nat) (s : Mapping) : Prop where
  extended : s.extended = true
  viewId : s.viewId = viewId
  word : (s.ranges slot).word = packRecord tag state Disposition.none.code
  next : (s.ranges slot).payload.nextTailSlot = recordSlotNone

theorem Staged.keep {state : RangeState} {slot tag : Nat} (s s' : Mapping)
    (hkept : Kept recording s s') (h : Staged viewId state slot tag s) :
    Staged viewId state slot tag s' := by
  have hranges : ¬ recording .ranges := by simp [recording]
  constructor
  · rw [hkept.extended, h.extended]
  · rw [hkept.viewId, h.viewId]
  · rw [hkept.ranges hranges, h.word]
  · rw [hkept.ranges hranges, h.next]

/-- The token is the one of the range that stands in its slot. -/
structure Opened (token : LifecycleRangeToken) (s : Mapping) : Prop where
  viewId : token.viewId = s.viewId
  slot : token.rangeSlot < lifecycleRangeCapacity
  word : (s.ranges token.rangeSlot).word = packRecord token.rangeTag .open Disposition.none.code
  rangeBegin : (s.ranges token.rangeSlot).payload.rangeBegin = token.rangeBegin
  rangeEnd : (s.ranges token.rangeSlot).payload.rangeEnd = token.rangeEnd
  generation : (s.ranges token.rangeSlot).payload.tokenGeneration = token.tokenGeneration

/-- What an answer to a reservation means. -/
def Reserves : Except SharedStatus LifecycleRangeToken → Mapping → Prop
  | .error status, _ => status ≠ .success
  | .ok token, s => token.rangeTag ≤ recordTagMaxNormal ∧ s.viewAdmission.state = .open ∧
      Opened token s

/-- The range has been linked, under an open view. -/
structure Standing (viewId : ViewId) (slot tag : Nat) (s : Mapping) : Prop where
  viewId : s.viewId = viewId
  view : s.viewAdmission.state = .open
  word : (s.ranges slot).word = packRecord tag .open Disposition.none.code

theorem Standing.keep {slot tag : Nat} (s s' : Mapping) (hkept : Kept recording s s')
    (h : Standing viewId slot tag s) : Standing viewId slot tag s' := by
  constructor
  · rw [hkept.viewId, h.viewId]
  · rw [hkept.view (by simp [recording]), h.view]
  · rw [hkept.ranges (by simp [recording]), h.word]

theorem linkRange_word (slot tag rangeEnd : Nat) (s : Mapping) :
    ((linkRange slot tag rangeEnd s).ranges slot).word =
      packRecord tag .open Disposition.none.code := rangeTable.restate_word ..

theorem reserveClaimed_does (hr : K .ranges) (hp : K .publications) (hc : K .control)
    {owner : Owner} {length deadlineNs rangeSlot rangeTag publishSlot publishTag : Nat}
    (hlen : length ≠ 0) (hslot : rangeSlot < lifecycleRangeCapacity)
    (htag : rangeTag ≤ recordTagMaxNormal) :
    Triple (Does K)
      (fun s => s.extended = true ∧
        (s.ranges rangeSlot).word = packRecord rangeTag .initializing Disposition.none.code)
      (reserveClaimed owner length deadlineNs rangeSlot rangeTag publishSlot publishTag)
      Reserves := by
  have hpub : Publishes recording viewPublicationTable .view := viewPublishes (.inl rfl)
  have hlatch := setControlLatch_does (K := recording) (.inr rfl)
  -- every way out after the range was prepared
  have habort : ∀ {P : Mapping → Prop} {status : SharedStatus}, status ≠ .success →
      Triple (Does K) P (do
        let _ ← rangeTable.exchange rangeSlot (packRecord rangeTag .prepared Disposition.none.code)
          (packRecord rangeTag .retired Disposition.whole.code)
        let _ ← finishViewPublication publishTag publishSlot rangeSlot .aborted
        return .error status) Reserves := fun hstat =>
    .bind (rangeExchange_does hr (by decide) (by decide)).triple fun _ =>
      .bind (finishViewPublication_does hp _ _ _ _).triple fun _ => .pure fun _ _ => hstat
  refine .get_bind fun s hstart => ?_
  obtain ⟨hext, hs⟩ := hstart
  refine .bind (.modify_at (Q := fun _ => Staged s.viewId .initializing rangeSlot rangeTag) ?_ ?_)
    fun _ => ?_
  · refine does_range hr (.outside ?_ ?_ (.inl rfl)) rfl
    · simp [hs, packRecord]
    · simp [Cell.setPayload, rangeTable, hs, packRecord]
  · constructor <;> simp [amend, put, rangeTable, Cell.setPayload, hext, hs]
  refine .bind (aside hp hc Staged.keep (hpub.fill _ _)) fun _ => ?_
  refine .bind
    (Q := fun found s' => found = none → Staged s.viewId .prepared rangeSlot rangeTag s') ?_
    fun found => ?_
  · refine .exchange
      (fun s' hs' _ => ⟨does_range hr (.outside ?_ (fun h => by cases h) (.inl ?_)) rfl,
      fun _ => ⟨hs'.extended, hs'.viewId, ?_, ?_⟩⟩) fun _ _ _ h => by cases h
    · simp [hs'.word, packRecord]
    · simp [hs'.word, packRecord, Cell.setWord]
    · exact rangeTable.restate_word ..
    · exact (congrArg _ (rangeTable.restate_payload ..)).trans hs'.next
  cases found with
  | some _ =>
    exact .bind ((viewPublishes hp).exchange _ _ _).triple fun _ =>
      .bind (finishViewPublication_does hp _ _ _ _).triple fun _ => .pure fun _ _ h => by cases h
  | none =>
    refine .pre ?_ (fun _ h => h rfl)
    refine .bind (aside hp hc Staged.keep (hpub.exchange _ _ _)) fun found => ?_
    cases found with
    | some => exact habort (by decide)
    | none =>
      refine .bind (aside hp hc Staged.keep (hpub.acquire _ _)) fun status =>
        .ite (habort) fun _ => ?_
      refine .look_bind fun _ _ => .either (habort (by split_ifs <;> decide)) ?_
      refine .bind (aside hp hc Staged.keep (hlatch _)) fun _ => ?_
      refine .get_bind fun s' hs' => .ite (fun _ => ?_) fun hopen => ?_
      · exact .bind (setControlLatch_does hc _).triple fun _ => habort (by decide)
      split
      · exact .bind (setControlLatch_does hc _).triple fun _ => habort (by decide)
      rename_i rangeEnd hend
      obtain ⟨rfl, hbelow⟩ := Recovery.checkedAdd_eq_some.1 hend
      have hlink :=
        Move.link hr hs'.extended hslot hs'.word hs'.next (not_not.1 hopen) (by omega) hbelow
      refine .bind (.modify_at (Q := fun _ => Standing s.viewId rangeSlot rangeTag)
        (.of_move hlink (held_linkRange _ _ _ _)) ⟨hlink.kept.viewId.trans hs'.viewId, ?_,
          linkRange_word _ _ _ _⟩) fun _ => ?_
      · rw [linkRange_eq]
        exact not_not.1 hopen
      refine .bind (aside hp hc Standing.keep (hlatch _)) fun _ => ?_
      refine .bind (aside hp hc Standing.keep (finishViewPublication_does (.inl rfl) _ _ _ _))
        fun status => .ite (fun hstat => .pure fun _ _ => hstat) fun _ => ?_
      refine .get_bind fun s'' hs'' => .answer ?_
      exact ⟨htag, hs''.view, hs''.viewId.symm, hslot, hs''.word, rfl, rfl, rfl⟩

theorem reserveLifecycleRange_does (hr : K .ranges) (hp : K .publications) (hc : K .control)
    (owner : Option Owner) (length deadlineNs : Nat) :
    Triple (Does K) P (reserveLifecycleRange owner length deadlineNs) Reserves := by
  refine .get_bind fun s _ => .ite (fun _ => .pure fun _ _ => nofun) fun hext =>
    .ite (fun _ => .pure fun _ _ => nofun) fun hlen => ?_
  cases owner with
  | none => exact .pure fun _ _ => nofun
  | some =>
    refine .bind ((claimRange_does hr).start (by simpa using hext)) fun claimed => ?_
    cases claimed with
    | error => exact .skip
    | ok claim =>
      refine .extract (fun s h => h.1) fun ⟨hslot, htag⟩ => ?_
      refine .pre (claimPublication_bind hp (fun _ _ _ h => h) (fun status hstat => ?_) fun _ =>
        reserveClaimed_does hr hp hc hlen hslot htag) fun _ h => h.2
      exact .bind (rangeExchange_does hr (by decide) (by decide)).triple fun _ =>
        .pure fun _ _ => hstat

/-- The ranges and the ends of their queue are as they were. -/
structure SameQueue (s s' : Mapping) : Prop where
  ranges : s'.ranges = s.ranges
  control : QueueKept s.control s'.control

theorem SameQueue.keep (a b : Mapping) (hkept : Kept recording a b) (h : SameQueue s a) :
    SameQueue s b := by
  have hranges : ¬ recording .ranges := by simp [recording]
  exact ⟨(hkept.ranges hranges).trans h.ranges,
    h.control.trans (hkept.queue hranges (by simp [recording]))⟩

section

variable (token : LifecycleRangeToken) (usedThrough : Nat)

include token usedThrough

theorem unlinkRange_ranges (s : Mapping) :
    (unlinkRange token usedThrough s).ranges = update s.ranges token.rangeSlot
      (((s.ranges token.rangeSlot).setPayload { (s.ranges token.rangeSlot).payload with
          unusedSuffixBegin := if usedThrough < token.rangeEnd then usedThrough + 1 else 0
          unusedSuffixEnd := if usedThrough < token.rangeEnd then token.rangeEnd else 0
          retirementDisposition := dispositionOf token usedThrough }).setWord
        (packRecord token.rangeTag .retired (dispositionOf token usedThrough).code)) := by
  simp [unlinkRange, onControl, restate, put, amend, rangeTable]

theorem unlinkRange_control (s : Mapping) :
    (unlinkRange token usedThrough s).control.allocationHighWater = s.control.allocationHighWater ∧
      (unlinkRange token usedThrough s).control.publicationCursor = token.rangeEnd ∧
      (unlinkRange token usedThrough s).control.reservationHeadSlot =
        (s.ranges token.rangeSlot).payload.nextTailSlot ∧
      (unlinkRange token usedThrough s).control.reservationTailSlot =
        if (s.ranges token.rangeSlot).payload.nextTailSlot = recordSlotNone then recordSlotNone
        else s.control.reservationTailSlot := by
  simp [unlinkRange, onControl, restate, put, amend, rangeTable, Cell.setPayload]

theorem SameQueue.unlink (h : SameQueue s s') :
    SameQueue (unlinkRange token usedThrough s) (unlinkRange token usedThrough s') := by
  obtain ⟨hhigh, hcursor, hhead, htail⟩ := unlinkRange_control token usedThrough s
  obtain ⟨hhigh', hcursor', hhead', htail'⟩ := unlinkRange_control token usedThrough s'
  obtain ⟨-, hsameTail, hsameHigh, -⟩ := h.control
  refine ⟨by rw [unlinkRange_ranges, unlinkRange_ranges, h.ranges], ?_, ?_, ?_, ?_⟩
  · rw [hhead', hhead, h.ranges]
  · rw [htail', htail, h.ranges, hsameTail]
  · rw [hhigh', hhigh, hsameHigh]
  · rw [hcursor', hcursor]

end

/-- The token names an open range, and the range it was given for. -/
def Names (token : LifecycleRangeToken) (s : Mapping) : Prop :=
  token.rangeSlot < lifecycleRangeCapacity ∧
    (s.ranges token.rangeSlot).word = packRecord token.rangeTag .open Disposition.none.code ∧
    (s.ranges token.rangeSlot).payload.rangeEnd = token.rangeEnd

/-- The range was at the head of the queue, and has been taken from it. -/
structure Taken (token : LifecycleRangeToken) (usedThrough : Nat) (s s' : Mapping) : Prop where
  head : s.control.reservationHeadSlot = token.rangeSlot
  queue : SameQueue (unlinkRange token usedThrough s) s'

section

variable (hr : K .ranges) (hp : K .publications) (hc : K .control)

include hr hp hc

theorem retireClaimed_does {token : LifecycleRangeToken} (usedThrough publishSlot publishTag : Nat)
    (hnames : Names token s) :
    Triple (Does K) (SameQueue s) (retireClaimed token usedThrough publishSlot publishTag)
      fun status s' => status = .success → Taken token usedThrough s s' := by
  have hpub : Publishes recording viewPublicationTable .view := viewPublishes (.inl rfl)
  have hlatch := setControlLatch_does (K := recording) (.inr rfl)
  have habort : ∀ {P : Mapping → Prop} {answer : SharedStatus}, answer ≠ .success →
      Triple (Does K) P (do
        let _ ← finishViewPublication publishTag publishSlot token.rangeSlot .aborted
        return answer) fun status s' => status = .success → Taken token usedThrough s s' :=
    fun hanswer => .bind (finishViewPublication_does hp _ _ _ _).triple fun _ =>
      .pure fun _ _ hsuccess => absurd hsuccess hanswer
  refine .look_bind fun _ _ => ?_
  refine .bind (aside hp hc SameQueue.keep (hpub.fill _ _)) fun _ => ?_
  refine .bind (aside hp hc SameQueue.keep (hpub.exchange _ _ _)) fun found => ?_
  cases found with
  | some => exact habort (by decide)
  | none =>
    refine .bind (aside hp hc SameQueue.keep (hpub.acquire _ _)) fun status =>
      .ite (habort) fun _ => ?_
    refine .look_bind fun _ _ => .either (habort (by split_ifs <;> decide)) ?_
    refine .bind (aside hp hc SameQueue.keep (hlatch _)) fun _ => ?_
    refine .get_bind fun s' hs' => .ite (fun _ => ?_) fun hhead => ?_
    · exact .bind (setControlLatch_does hc _).triple fun _ => habort (by decide)
    have hhead' : s'.control.reservationHeadSlot = token.rangeSlot := not_not.1 hhead
    have hunlink : Move K s' (unlinkRange token usedThrough s') := by
      refine .unlink hr hnames.1 ?_ ?_ hhead' <;> rw [hs'.ranges]
      exacts [hnames.2.1, hnames.2.2]
    refine .bind (.modify_at (Q := fun _ => SameQueue (unlinkRange token usedThrough s))
      (.of_move hunlink (held_unlinkRange _ _ _)) (hs'.unlink token usedThrough)) fun _ => ?_
    refine .bind (aside hp hc SameQueue.keep (hlatch _)) fun _ => ?_
    exact (aside hp hc SameQueue.keep (finishViewPublication_does (.inl rfl) _ _ _ _)).post
      fun _ _ h _ => ⟨hs'.control.1.symm.trans hhead', h⟩

/-- **Only the head of the queue is retired**, and only by the token that names it. -/
theorem retireLifecycleRange_takes (token : LifecycleRangeToken) (usedThrough : Nat) (s : Mapping) :
    Triple (Does K) (· = s) (retireLifecycleRange token usedThrough) fun status s' =>
      status = .success → Opened token s ∧ Taken token usedThrough s s' := by
  refine .get_at (.either (.pure fun _ _ h => nomatch h) <|
    .ite (fun _ => .pure fun _ _ h => nomatch h) fun hargs =>
    .ite (fun _ => .pure fun _ _ h => nomatch h) fun hfound => ?_)
  simp only [not_or, not_not, Nat.not_le] at hargs hfound
  obtain ⟨hview, hslot, -⟩ := hargs
  obtain ⟨hword, hbegin, hend, hgen⟩ := hfound
  have hopened : Opened token s := ⟨hview, hslot, hword, hbegin, hend, hgen⟩
  refine .start (P := SameQueue s) (.post (Q := fun status s' => status = .success →
    Taken token usedThrough s s') ?_ fun _ _ h hsuccess => ⟨hopened, h hsuccess⟩)
    ⟨rfl, rfl, rfl, rfl, rfl⟩
  exact claimPublication_bind hp (fun _ _ _ h => ⟨h.ranges, h.control⟩)
    (fun _ hstat => .pure fun _ _ hsuccess => absurd hsuccess hstat) fun _ =>
    retireClaimed_does hr hp hc _ _ _ ⟨hslot, hword, hend⟩

theorem retireLifecycleRange_does (token : LifecycleRangeToken) (usedThrough : Nat) :
    Respects (Does K) (retireLifecycleRange token usedThrough) := fun s =>
  (retireLifecycleRange_takes hr hp hc token usedThrough s s rfl).1

end

end MetaFlux.Registry
