/-
# Rules for transactions

Pre- and postconditions for the loops of a transaction, for ANY mirrors: those that answer as they
like, those that call the coordinator back, and those whose own state is followed.  An assertion of
a loop carries the index it has come to, so that it can say which mirrors have been passed:

* `StageRule`, `invoke_rule`: a stage, which goes on while the mirrors agree and the deadline holds;
* `AbortRule`, `abort_rule` and `LostRule`, `publishLost_rule`: the loops that ask for no answer;
* `TransactRule`, `transact_rule`: the four stages and the abort, by the ending;
* `Startable`, `dispatch_of_not_startable`, `dispatch_of_startable`: an operation either does
  nothing or is a transaction, fixed by the coordinator it starts from, that is then settled by its
  ending.

Each loop and each operation is unfolded here and nowhere else.
-/
import MetaFlux.Base.Run
import MetaFlux.Lifecycle.Transaction

namespace MetaFlux.Lifecycle

open Base

variable {W : Type} {mirrors : List (Mirror W)} (t : Transaction)

/-! ## 1. A stage -/

theorem Transaction.touchedMask_touch (i j : Nat) :
    (t.touch i).touchedMask.testBit j = (t.touchedMask.testBit j || decide (i = j)) := by
  simp [Transaction.touch, Nat.shiftLeft_eq, Nat.testBit_two_pow]

theorem Transaction.committedMask_commitAt (i j : Nat) :
    (t.commitAt i).committedMask.testBit j = (t.committedMask.testBit j || decide (i = j)) := by
  simp [Transaction.commitAt, Nat.shiftLeft_eq, Nat.testBit_two_pow]

/-- The transaction after the mirror at the index has agreed. -/
def Transaction.agreed (transaction : Transaction) (stage : MirrorStage) (index : Nat) :
    Transaction :=
  if stage = .commit then (transaction.touch index).commitAt index else transaction.touch index

/-- The bits of one mirror are not those of another. -/
theorem Transaction.touch_other {i j : Nat} (h : i ≠ j) :
    (t.touch i).touchedMask.testBit j = t.touchedMask.testBit j := by
  rw [t.touchedMask_touch, decide_eq_false h, Bool.or_false]

theorem Transaction.agreed_other (stage : MirrorStage) {i j : Nat} (h : i ≠ j) :
    (t.agreed stage i).touchedMask.testBit j = t.touchedMask.testBit j ∧
      (t.agreed stage i).committedMask.testBit j = t.committedMask.testBit j ∧
      t.committedCount ≤ (t.agreed stage i).committedCount := by
  unfold Transaction.agreed
  split
  · refine ⟨t.touch_other h, ?_, Nat.le_succ _⟩
    rw [Transaction.committedMask_commitAt, decide_eq_false h, Bool.or_false]
    rfl
  · exact ⟨t.touch_other h, rfl, .refl⟩

/-- `P i` is kept by every mirror that agrees, and a mirror that refuses or a deadline that has
passed takes it to `F`. -/
structure StageRule (mirrors : List (Mirror W)) (stage : MirrorStage)
    (P : Nat → Transaction → Host W → Prop) (F : Transaction → Host W → Prop) : Prop where
  clock : ∀ i t h, P i t h → P i t (expired t.request.deadlineTick h).2
  late : ∀ i t h, P i t h → F { t with timedOut := true } h
  skip : ∀ i m t h, mirrors[i]? = some m → m.callback stage = none → P i t h → P (i + 1) t h
  agree : ∀ i m f t h, mirrors[i]? = some m → m.callback stage = some f → P i t h →
    (h.call i f ((t.touch i).event stage)).1 = true →
    P (i + 1) (t.agreed stage i) (h.call i f ((t.touch i).event stage)).2
  refuse : ∀ i m f t h, mirrors[i]? = some m → m.callback stage = some f → P i t h →
    (h.call i f ((t.touch i).event stage)).1 = false →
    F (t.touch i) (h.call i f ((t.touch i).event stage)).2

variable {F : Transaction → Host W → Prop} {P : Nat → Transaction → Host W → Prop}
  {stage : MirrorStage}

theorem StageRule.weaken {F' : Transaction → Host W → Prop} (rule : StageRule mirrors stage P F)
    (hF : ∀ t h, F t h → F' t h) : StageRule mirrors stage P F' :=
  { rule with
    late := fun i t h hP => hF _ _ (rule.late i t h hP)
    refuse := fun i m f t h hm hf hP hno => hF _ _ (rule.refuse i m f t h hm hf hP hno) }

/-- What a stage that has run satisfies. -/
def Invoked.Satisfies (result : Invoked W) (Q F : Transaction → Host W → Prop) : Prop :=
  if result.ok then Q result.transaction result.host else F result.transaction result.host

theorem Invoked.Satisfies.mono {result : Invoked W} {Q Q' F' : Transaction → Host W → Prop}
    (h : result.Satisfies Q F) (hq : ∀ t h, Q t h → Q' t h) (hf : ∀ t h, F t h → F' t h) :
    result.Satisfies Q' F' := by
  unfold Invoked.Satisfies at h ⊢
  split_ifs at h ⊢
  · exact hq _ _ h
  · exact hf _ _ h

variable {t}

theorem invoke_rule (rule : StageRule mirrors stage P F) {h : Host W} (hP : P 0 t h) :
    (invoke mirrors stage t h).Satisfies (P mirrors.length) F := by
  refine walk_induction (Q := fun i rest => ∀ t h, P i t h →
    (invokeFrom stage i rest t h).Satisfies (P mirrors.length) F) (fun _ _ hP => hP) ?_ t h hP
  intro i m rest hm ih t h hP
  have hclock := rule.clock _ _ _ hP
  unfold invokeFrom
  dsimp only
  split
  · exact rule.late _ _ _ hclock
  split
  · rename_i hnone
    exact ih _ _ (rule.skip _ m _ _ hm hnone hclock)
  rename_i f hsome
  split
  · rename_i hyes
    exact ih _ _ (rule.agree _ m f _ _ hm hsome hclock hyes)
  · rename_i hno
    exact rule.refuse _ m f _ _ hm hsome hclock (Bool.eq_false_iff.2 hno)

/-! ## 2. The loops that ask for no answer -/

structure AbortRule (mirrors : List (Mirror W)) (t : Transaction) (A : Nat → Host W → Prop) :
    Prop where
  skip : ∀ i m h, mirrors[i]? = some m →
    (t.touchedMask.testBit i = false ∨ t.committedMask.testBit i = true ∨ m.abort = none) →
    A i h → A (i + 1) h
  call : ∀ i m f h, mirrors[i]? = some m → t.touchedMask.testBit i = true →
    t.committedMask.testBit i = false → m.abort = some f → A i h →
    A (i + 1) (h.call i f (t.event .abort)).2

variable {A : Nat → Host W → Prop} (c : Coordinator W) (request : Request)

theorem abort_rule (rule : AbortRule mirrors t A)
    {h : Host W} (hA : A 0 h) : A mirrors.length (abort mirrors t h) := by
  refine walk_induction (Q := fun i rest => ∀ h, A i h → A mirrors.length (abortFrom t i rest h))
    (fun _ hA => hA) ?_ h hA
  intro i m rest hm ih h hA
  unfold abortFrom
  split_ifs with hmask
  · refine ih _ (rule.skip _ m _ hm ?_ hA)
    rcases hmask with h1 | h2
    · exact .inl h1
    · exact .inr (.inl h2)
  · obtain ⟨htouched, hcomm⟩ := not_or.1 hmask
    split
    · rename_i hnone
      exact ih _ (rule.skip _ m _ hm (.inr (.inr hnone)) hA)
    · rename_i f hsome
      refine ih _ (rule.call _ m f _ hm ?_ ?_ hsome hA)
      · simpa using htouched
      · simpa using hcomm

structure LostRule (mirrors : List (Mirror W)) (t : Transaction) (A : Nat → Host W → Prop) :
    Prop where
  skip : ∀ i m h, mirrors[i]? = some m → m.publishLost = none → A i h → A (i + 1) h
  call : ∀ i m f h, mirrors[i]? = some m → m.publishLost = some f → A i h →
    A (i + 1) (h.call i (fun event h => (true, f event h)) (t.event .publishLost)).2

theorem publishLost_rule (rule : LostRule mirrors t A)
    {h : Host W} (hA : A 0 h) : A mirrors.length (publishLost mirrors t h) := by
  refine walk_induction (Q := fun i rest => ∀ h, A i h →
    A mirrors.length (publishLostFrom t i rest h)) (fun _ hA => hA) ?_ h hA
  intro i m rest hm ih h hA
  unfold publishLostFrom
  split
  · rename_i hnone
    exact ih _ (rule.skip _ m _ hm hnone hA)
  · rename_i f hsome
    exact ih _ (rule.call _ m f _ hm hsome hA)

/-! ## 3. The whole transaction -/

/-- The four stages run one after the other on `P stage`; what fails before the commit satisfies
`F`, what fails in it `G`, and the abort takes either to `A`, `B`. -/
structure TransactRule (mirrors : List (Mirror W))
    (P : MirrorStage → Nat → Transaction → Host W → Prop)
    (F G A B : Transaction → Host W → Prop) : Prop where
  prepare : StageRule mirrors .prepare (P .prepare) F
  quiesce : StageRule mirrors .quiesce (P .quiesce) F
  drain : StageRule mirrors .drain (P .drain) F
  commit : StageRule mirrors .commit (P .commit) G
  prepared : ∀ t h, P .prepare mirrors.length t h → P .quiesce 0 t h
  quiesced : ∀ t h, P .quiesce mirrors.length t h → P .drain 0 t h
  drained : ∀ t h, P .drain mirrors.length t h → P .commit 0 t h
  stopped : ∀ t h, F t h → A t (abort mirrors t h)
  failed : ∀ t h, G t h → B t (abort mirrors t h)

/-- What each ending of the transaction satisfies. -/
def Transacted.Satisfies (result : Transacted W) (A B C : Transaction → Host W → Prop) : Prop :=
  match result.ending with
  | .stopped => A result.transaction result.host
  | .refused => B result.transaction result.host ∧ result.transaction.committedCount = 0
  | .torn => B result.transaction result.host ∧ result.transaction.committedCount ≠ 0
  | .committed => C result.transaction result.host

section

variable {result : Transacted W} {A A' B B' C C' : Transaction → Host W → Prop}
    (h : result.Satisfies A B C)

include h

theorem Transacted.Satisfies.mono
    (ha : ∀ t h, A t h → A' t h) (hb : ∀ t h, B t h → B' t h) (hc : ∀ t h, C t h → C' t h) :
    result.Satisfies A' B' C' := by
  obtain ⟨ending, t, host⟩ := result
  cases ending with
  | stopped => exact ha _ _ h
  | refused | torn => exact ⟨hb _ _ h.1, h.2⟩
  | committed => exact hc _ _ h

theorem Transacted.Satisfies.and (h' : result.Satisfies A' B' C') :
    result.Satisfies (fun t h => A t h ∧ A' t h) (fun t h => B t h ∧ B' t h)
      (fun t h => C t h ∧ C' t h) := by
  obtain ⟨ending, t, host⟩ := result
  cases ending with
  | stopped | committed => exact ⟨h, h'⟩
  | refused | torn => exact ⟨⟨h.1, h'.1⟩, h.2⟩

end

section

variable {P : MirrorStage → Nat → Transaction → Host W → Prop} {G A B : Transaction → Host W → Prop}
  (rule : TransactRule mirrors P F G A B) {h : Host W} (hP : P .prepare 0 t h)

include rule hP

theorem invokeToDrain_rule : (invokeToDrain mirrors t h).Satisfies (P .commit 0) F := by
  have hprep := invoke_rule rule.prepare hP
  unfold invokeToDrain
  dsimp only
  split
  · rename_i hok
    rw [Invoked.Satisfies, if_pos hok] at hprep
    have hquiesced := invoke_rule rule.quiesce (rule.prepared _ _ hprep)
    split
    · rename_i hok
      rw [Invoked.Satisfies, if_pos hok] at hquiesced
      exact (invoke_rule rule.drain (rule.quiesced _ _ hquiesced)).mono rule.drained
        fun _ _ hF => hF
    · rename_i hok
      rw [Invoked.Satisfies, if_neg hok] at hquiesced ⊢
      exact hquiesced
  · rename_i hok
    rw [Invoked.Satisfies, if_neg hok] at hprep ⊢
    exact hprep

theorem transact_rule : (transact mirrors t h).Satisfies A B (P .commit mirrors.length) := by
  have hdrained := invokeToDrain_rule rule hP
  unfold transact
  dsimp only
  split
  · rename_i hstopped
    rw [Invoked.Satisfies, hstopped] at hdrained
    exact rule.stopped _ _ hdrained
  rename_i hdrain
  rw [Invoked.Satisfies, if_pos (by simpa using hdrain)] at hdrained
  have hcommit := invoke_rule rule.commit hdrained
  split
  · rename_i hfailed
    rw [Invoked.Satisfies, hfailed] at hcommit
    have hB := rule.failed _ _ hcommit
    by_cases hcount : (invoke mirrors .commit (invokeToDrain mirrors t h).transaction
        (invokeToDrain mirrors t h).host).transaction.committedCount = 0
    · rw [if_pos hcount]
      exact ⟨hB, hcount⟩
    · rw [if_neg hcount]
      exact ⟨hB, hcount⟩
  · rename_i hok
    rw [Invoked.Satisfies, if_pos (by simpa using hok)] at hcommit
    exact hcommit

end

/-! ## 4. The operations -/

namespace Coordinator

/-- The high waters after a candidate has been reserved. -/
def reserved (c : Coordinator W) : Coordinator W :=
  { c with
    generationHighWater := c.generationHighWater + 1
    identityHighWater := c.identityHighWater + 1 }

theorem begin_reserved : c.reserved.begin = c.begin := rfl

/-- The candidate `reserveCandidate` hands out, at the epoch it is to be installed in. -/
def nextCandidate (c : Coordinator W) (epoch : Nat) : Candidate :=
  { generation := c.generationHighWater + 1
    identityRecordId := c.identityHighWater + 1
    epoch }

theorem nextCandidate_with_epoch (epoch epoch' : Nat) :
    { c.nextCandidate epoch with epoch := epoch' } = c.nextCandidate epoch' := rfl

theorem reserveCandidate_eq (h : c.reserveCandidate.isSome) :
    c.reserveCandidate = some (c.nextCandidate c.epoch, c.reserved) := by
  unfold reserveCandidate at h ⊢
  split_ifs at h ⊢
  · cases h
  · rfl

theorem reserveEpoch_eq (h : c.reserveEpoch.isSome) : c.reserveEpoch = some (c.epoch + 1) := by
  unfold reserveEpoch at h ⊢
  split_ifs at h ⊢
  · cases h
  · rfl

/-- The operation finds what it needs: the state it starts from, and room for what it reserves. -/
def Startable (c : Coordinator W) : Operation → Prop
  | .add => c.state = .absent ∧ c.generation = 0 ∧ c.identityRecordId = 0 ∧
      c.reserveCandidate.isSome
  | .remove => (c.state = .online ∨ c.state = .lost) ∧ c.generation ≠ 0 ∧ c.tombstones.Room ∧
      c.reserveEpoch.isSome
  | .reset => c.state = .online ∧ c.generation ≠ 0 ∧ c.tombstones.Room ∧ c.reserveEpoch.isSome ∧
      c.reserveCandidate.isSome
  | .recover => c.state = .lost ∧ c.generation ≠ 0 ∧ c.tombstones.Room ∧ c.reserveEpoch.isSome ∧
      c.reserveCandidate.isSome
  | .transportLoss => c.state ≠ .absent ∧ c.generation ≠ 0 ∧ c.state ≠ .lost
  | .outOfRange _ => False

instance (c : Coordinator W) : ∀ operation, Decidable (c.Startable operation)
  | .add | .remove | .reset | .recover | .transportLoss => by delta Startable; infer_instance
  | .outOfRange _ => .isFalse id

/-- The coordinator as a transaction finds it: with its reservations made. -/
def prepared (c : Coordinator W) : Operation → Coordinator W
  | .add | .reset | .recover => c.reserved
  | _ => c

/-- The transaction an operation runs. -/
def planned (c : Coordinator W) (request : Request) : Transaction :=
  match request.operation with
  | .add => c.begin request .online (c.nextCandidate c.epoch) true
  | .reset | .recover => c.begin request .online (c.nextCandidate (c.epoch + 1)) true
  | .remove => c.begin request .absent { epoch := c.epoch + 1 } false
  | _ => c.begin request .lost {} false

/-- What an operation makes of the coordinator when it goes through, from `c`. -/
def advance (c : Coordinator W) (operation : Operation) (state : State) (d : Coordinator W) :
    Coordinator W :=
  match operation with
  | .add => d.install (c.nextCandidate c.epoch) state
  | .remove => d.retire (c.epoch + 1)
  | _ => d.replace (c.epoch + 1) (c.nextCandidate (c.epoch + 1)) state

end Coordinator

/-- How an operation started from `c` settles its transaction. -/
def settle (mirrors : List (Mirror W)) (c : Coordinator W) (operation : Operation)
    (ended : Transacted W) : ResultDetails × Host W :=
  let t := ended.transaction
  match ended.ending with
  | .committed => accepted t (ended.host.update (c.advance operation .online))
  | .stopped =>
    failed t (if operation = .remove then
      (publishLost mirrors t (ended.host.update (·.setState .lost))).update
        (c.advance operation .lost)
    else ended.host)
  | .refused =>
    failed t (if operation = .remove then
      (publishLost mirrors t ended.host).update (c.advance operation .lost)
    else ended.host)
  | .torn =>
    failed t (if operation = .remove then
      (publishLost mirrors t ended.host).update (c.advance operation .lost)
    else publishLost mirrors t (ended.host.update (c.advance operation .lost)))

/-- An operation that does nothing but answer. -/
def Refuses (operation : ResultDetails × Host W) (h : Host W) : Prop :=
  operation.1.result ≠ .accepted ∧ operation.2 = h

theorem refusal_lost_or_invalid (b : Prop) [Decidable b] (h : Host W) :
    Refuses (refusal (if b then .deviceLost else .invalid) h, h) h := by
  refine ⟨?_, rfl⟩
  unfold refusal
  split <;> simp

section Operations

variable (mirrors) {request} {h : Host W}

theorem applyAdd_refuses (hstart : ¬ h.coordinator.Startable .add) :
    Refuses (applyAdd mirrors request h) h := by
  unfold applyAdd
  split
  · exact ⟨nofun, rfl⟩
  rename_i hstate
  have hnone : h.coordinator.reserveCandidate = none := by
    simp only [Coordinator.Startable] at hstart
    simp only [not_or, not_not] at hstate
    simpa [hstate] using hstart
  rw [hnone]
  exact ⟨nofun, rfl⟩

theorem applyAdd_settle (hstart : h.coordinator.Startable .add) (hop : request.operation = .add) :
    applyAdd mirrors request h = settle mirrors h.coordinator .add
      (transact mirrors (h.coordinator.planned request)
        { h with coordinator := h.coordinator.reserved }) := by
  obtain ⟨hstate, hgen, hident, hcand⟩ := hstart
  unfold applyAdd
  rw [if_neg (by simp [hstate, hgen, hident]),
    Coordinator.reserveCandidate_eq _ hcand]
  dsimp only
  rw [Coordinator.begin_reserved, show h.coordinator.planned request = _ by
    rw [Coordinator.planned, hop]]
  generalize transact mirrors _ _ = ended
  obtain ⟨ending, t, ended⟩ := ended
  cases ending <;> rfl

theorem applyRemove_refuses (hstart : ¬ h.coordinator.Startable .remove) :
    Refuses (applyRemove mirrors request h) h := by
  unfold applyRemove
  split
  · exact refusal_lost_or_invalid _ h
  · have hnone : h.coordinator.reserveEpoch = none := by
      by_contra hsome
      refine hstart ⟨?_, ?_, ?_, Option.isSome_iff_ne_none.2 hsome⟩ <;> tauto
    rw [hnone]
    exact ⟨nofun, rfl⟩

theorem applyRemove_settle (hstart : h.coordinator.Startable .remove)
    (hop : request.operation = .remove) :
    applyRemove mirrors request h = settle mirrors h.coordinator .remove
      (transact mirrors (h.coordinator.planned request) h) := by
  obtain ⟨hstate, hgen, hroom, hepoch⟩ := hstart
  unfold applyRemove
  rw [if_neg (by tauto), Coordinator.reserveEpoch_eq _ hepoch]
  dsimp only
  rw [show h.coordinator.planned request = _ by rw [Coordinator.planned, hop]]
  generalize transact mirrors _ _ = ended
  obtain ⟨ending, t, ended⟩ := ended
  cases ending <;> rfl

section

variable (hop : request.operation = .reset ∨ request.operation = .recover)

include hop

/-- The two operations of `apply_reset_or_recover` differ in the state they start from. -/
theorem startable_resetOrRecover {c : Coordinator W} :
    c.Startable request.operation ↔
      ¬ ((if request.operation = .recover then c.state ≠ .lost else c.state ≠ .online) ∨
        c.generation = 0 ∨ ¬ c.tombstones.Room) ∧
      c.reserveEpoch.isSome ∧ c.reserveCandidate.isSome := by
  rcases hop with hop | hop <;> simp only [hop, Coordinator.Startable] <;> simp <;> tauto

theorem applyResetOrRecover_refuses (hstart : ¬ h.coordinator.Startable request.operation) :
    Refuses (applyResetOrRecover mirrors request h) h := by
  rw [startable_resetOrRecover hop] at hstart
  unfold applyResetOrRecover
  by_cases hstate : (if request.operation = .recover then h.coordinator.state ≠ .lost
      else h.coordinator.state ≠ .online) ∨
      h.coordinator.generation = 0 ∨ ¬ h.coordinator.tombstones.Room
  · rw [if_pos hstate]
    exact refusal_lost_or_invalid _ h
  rw [if_neg hstate]
  cases hepoch : h.coordinator.reserveEpoch with
  | none => exact ⟨nofun, rfl⟩
  | some =>
    have hnone : h.coordinator.reserveCandidate = none := by
      by_contra hsome
      exact hstart ⟨hstate, by simp [hepoch], Option.isSome_iff_ne_none.2 hsome⟩
    rw [hnone]
    exact ⟨nofun, rfl⟩

theorem applyResetOrRecover_settle (hstart : h.coordinator.Startable request.operation) :
    applyResetOrRecover mirrors request h = settle mirrors h.coordinator request.operation
      (transact mirrors (h.coordinator.planned request)
        { h with coordinator := h.coordinator.reserved }) := by
  obtain ⟨hstate, hepoch, hcand⟩ := (startable_resetOrRecover hop).1 hstart
  have hplanned : h.coordinator.planned request = h.coordinator.begin request .online
      (h.coordinator.nextCandidate (h.coordinator.epoch + 1)) true := by
    rcases hop with hop | hop <;> rw [Coordinator.planned, hop]
  unfold applyResetOrRecover
  rw [if_neg hstate, Coordinator.reserveEpoch_eq _ hepoch,
    Coordinator.reserveCandidate_eq _ hcand]
  dsimp only
  rw [Coordinator.begin_reserved, Coordinator.nextCandidate_with_epoch, hplanned]
  generalize transact mirrors _ _ = ended
  obtain ⟨ending, t, ended⟩ := ended
  rcases hop with hop | hop <;> rw [hop] <;> cases ending <;> rfl

end

/-- An operation that is not startable answers and does nothing. -/
theorem dispatch_of_not_startable (hstart : ¬ h.coordinator.Startable request.operation) :
    Refuses (dispatch mirrors request h) h := by
  unfold dispatch
  cases hop : request.operation <;> rw [hop] at hstart
  case add => exact applyAdd_refuses mirrors hstart
  case remove => exact applyRemove_refuses mirrors hstart
  case reset => exact applyResetOrRecover_refuses mirrors (.inl hop) (hop ▸ hstart)
  case recover => exact applyResetOrRecover_refuses mirrors (.inr hop) (hop ▸ hstart)
  case outOfRange => exact ⟨nofun, rfl⟩
  case transportLoss =>
    change Refuses (applyTransportLoss mirrors request h) h
    unfold applyTransportLoss
    split
    · exact ⟨nofun, rfl⟩
    · split
      · exact ⟨nofun, rfl⟩
      · simp only [Coordinator.Startable] at hstart
        tauto

/-- An operation that is startable is the transaction it plans, settled by its ending. -/
theorem dispatch_of_startable (hstart : h.coordinator.Startable request.operation)
    (hloss : request.operation ≠ .transportLoss) :
    dispatch mirrors request h = settle mirrors h.coordinator request.operation
      (transact mirrors (h.coordinator.planned request)
        { h with coordinator := h.coordinator.prepared request.operation }) := by
  unfold dispatch
  cases hop : request.operation <;> rw [hop] at hstart hloss
  case add => exact applyAdd_settle mirrors hstart hop
  case remove => exact applyRemove_settle mirrors hstart hop
  case reset =>
    have hsettle := applyResetOrRecover_settle mirrors (.inl hop) (hop ▸ hstart)
    rwa [hop] at hsettle
  case recover =>
    have hsettle := applyResetOrRecover_settle mirrors (.inr hop) (hop ▸ hstart)
    rwa [hop] at hsettle
  case transportLoss => exact absurd rfl hloss
  case outOfRange => exact absurd hstart id

/-- A loss asks nobody: the coordinator is lost, and the mirrors are told. -/
theorem dispatch_of_loss (hstart : h.coordinator.Startable request.operation)
    (hloss : request.operation = .transportLoss) :
    dispatch mirrors request h = accepted (h.coordinator.planned request)
      (publishLost mirrors (h.coordinator.planned request) (h.update (·.setState .lost))) := by
  rw [hloss] at hstart
  obtain ⟨habsent, hgen, hlost⟩ := hstart
  unfold dispatch
  unfold applyTransportLoss
  rw [if_neg (by tauto), if_neg hlost]
  simp only [Coordinator.planned, hloss]
  rfl

end Operations

/-! ## 5. `apply` -/

/-- The world after a reading of the clock, and after any number of them. -/
def Config.Tick (config : Config W) (world world' : W) : Prop :=
  ∃ clock, config.clock = some clock ∧ world' = (clock world).2

def Config.Ticks (config : Config W) : W → W → Prop := Relation.ReflTransGen config.Tick

/-- A clock reading changes nothing but the world. -/
theorem expired_frame (deadlineTick : Nat) (h : Host W) :
    ∃ world, (expired deadlineTick h).2 = { h with world } ∧
      h.coordinator.config.Ticks h.world world := by
  unfold expired
  split
  · exact ⟨h.world, rfl, .refl⟩
  · rename_i clock hclock
    split
    · exact ⟨h.world, rfl, .refl⟩
    · exact ⟨_, rfl, .single ⟨clock, hclock, rfl⟩⟩

/-- What a request has to find to be executed, the deadline apart. -/
structure Coordinator.Passes (c : Coordinator W) (request : Request) : Prop where
  valid : c.valid = true
  fresh : c.findRequest request.requestId = none
  room : c.requests.Room
  wellFormed : c.wellFormed request = true
  current : c.matchesTuple request = true

theorem validRequest_frame (h : Host W) :
    (∃ world, (validRequest request h).2 = { h with world } ∧
      h.coordinator.config.Ticks h.world world) ∧
    ((validRequest request h).1 = true →
      h.coordinator.wellFormed request = true ∧ h.coordinator.matchesTuple request = true) := by
  obtain ⟨world, hworld, hticks⟩ := expired_frame request.deadlineTick h
  unfold validRequest
  split
  · exact ⟨⟨h.world, rfl, .refl⟩, nofun⟩
  rename_i hwell
  have hwell : h.coordinator.wellFormed request = true := by simpa using hwell
  dsimp only
  rw [hworld]
  split
  · exact ⟨⟨world, rfl, hticks⟩, nofun⟩
  · exact ⟨⟨world, rfl, hticks⟩, fun hcur => ⟨hwell, hcur⟩⟩

/-- The screen changes nothing but the world, by reading the clock, and it lets a request through
only if it passes. -/
theorem screen_cases (h : Host W) :
    ∃ world, h.coordinator.config.Ticks h.world world ∧
      ((∃ answer, screen request h = (.error answer, { h with world }) ∧
        answer.result ≠ .accepted) ∨
      (h.coordinator.Passes request ∧ screen request h = (.ok (), { h with world }))) := by
  unfold screen
  split
  · exact ⟨h.world, .refl, .inl ⟨_, rfl, nofun⟩⟩
  rename_i hvalid
  split
  · split
    · exact ⟨h.world, .refl, .inl ⟨_, rfl, nofun⟩⟩
    · exact ⟨h.world, .refl, .inl ⟨_, rfl, nofun⟩⟩
  rename_i hfresh
  split
  · exact ⟨h.world, .refl, .inl ⟨_, rfl, nofun⟩⟩
  rename_i hroom
  obtain ⟨world, hworld, hticks⟩ := expired_frame request.deadlineTick h
  obtain ⟨⟨world', hworld', hticks'⟩, hpass⟩ := validRequest_frame request { h with world }
  dsimp only
  rw [hworld]
  split
  · exact ⟨world, hticks, .inl ⟨_, rfl, nofun⟩⟩
  rw [hworld']
  refine ⟨world', hticks.trans hticks', ?_⟩
  split
  · rename_i hok
    obtain ⟨hwell, hcur⟩ := hpass hok
    exact .inr ⟨⟨by simpa using hvalid, hfresh, not_not.1 hroom, hwell, hcur⟩, rfl⟩
  · refine .inl ⟨_, rfl, ?_⟩
    split <;> nofun

variable {request} {h h' : Host W} (mirrors)

theorem apply_of_error {answer : ResultDetails} (hscreen : screen request h = (.error answer, h')) :
    apply mirrors request h = (answer, h') := by
  unfold apply
  rw [hscreen]

theorem apply_of_ok (hscreen : screen request h = (.ok (), h')) :
    apply mirrors request h = ((dispatch mirrors request h').1,
      (dispatch mirrors request h').2.update
        (·.rememberRequest request (dispatch mirrors request h').1)) := by
  unfold apply
  rw [hscreen]

/-- A request whose id is recorded is answered from the record, and nothing else happens. -/
theorem apply_of_recorded {previous : RequestRecord} (hvalid : h.coordinator.valid = true)
    (hrecorded : h.coordinator.findRequest request.requestId = some previous) :
    apply mirrors request h =
      (if sameRequest previous.request request then
        { refusal .duplicate h with
          candidateGeneration := previous.candidateGeneration
          candidateIdentityRecordId := previous.candidateIdentityRecordId }
      else refusal .conflict h, h) := by
  unfold apply screen
  rw [if_neg (by simp [hvalid]), hrecorded]
  by_cases hsame : sameRequest previous.request request = true
  · simp only [hsame, if_true]
  · simp only [hsame]
    rfl

end MetaFlux.Lifecycle
