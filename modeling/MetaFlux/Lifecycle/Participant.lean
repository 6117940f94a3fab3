/-
# A mirror followed through a transaction

A transport that takes part in transactions goes through three phases in each: idle, active once it
has prepared, done once it has committed.  A `Participant` says what each phase means for the host,
as an assertion, with what its own callbacks make of it and that nobody else disturbs it.  The
assertion is then read off the ENDING of the transaction (`transact_participant`): done where the
transaction committed, idle where it stopped or was refused, one or the other where the commit was
torn.

Mirrors may call the coordinator back.  What keeps them from it before the commit, where something
does, is the assertion `Early`, which every callback up to the drain keeps.
-/
import MetaFlux.Lifecycle.Local

namespace MetaFlux.Lifecycle

open MirrorStage

variable {W : Type}

/-! ## 1. Participants -/

inductive Phase where
  | idle | active | done
deriving DecidableEq, Repr

namespace MirrorStage

/-- The phases a stage takes a participant from and to. -/
def entry : MirrorStage → Phase
  | .prepare => .idle
  | _ => .active

def exit : MirrorStage → Phase
  | .commit => .done
  | _ => .active

def beforeCommit (stage : MirrorStage) : Prop :=
  stage = .prepare ∨ stage = .quiesce ∨ stage = .drain

theorem entry_ne_done (stage : MirrorStage) : stage.entry ≠ .done := by
  cases stage <;> decide

theorem exit_eq_done {stage : MirrorStage} : stage.exit = .done ↔ stage = .commit := by
  cases stage <;> decide

/-- The phase a participant is in once it has answered. -/
theorem answered_eq_done {stage : MirrorStage} {answer : Bool} :
    (if answer then stage.exit else stage.entry) = .done ↔ stage = .commit ∧ answer = true := by
  cases answer with
  | false => simp [stage.entry_ne_done]
  | true => simp [exit_eq_done]

theorem beforeCommit_ne_commit {stage : MirrorStage} (h : stage.beforeCommit) :
    stage ≠ .commit := by
  rcases h with rfl | rfl | rfl <;> decide

/-- What waits for an answer and does not come before the commit is the commit. -/
theorem eq_commit_of_asks {stage : MirrorStage} (hasks : stage.asks)
    (hbefore : ¬ stage.beforeCommit) :
    stage = .commit := by
  cases stage with
  | prepare => exact absurd (.inl rfl) hbefore
  | quiesce => exact absurd (.inr (.inl rfl)) hbefore
  | drain => exact absurd (.inr (.inr rfl)) hbefore
  | commit => rfl
  | abort => exact absurd rfl hasks.1
  | publishLost => exact absurd rfl hasks.2

end MirrorStage

/-- The mirror at the index, in the transaction that starts as `t₀`. -/
structure Participant (mirrors : List (Mirror W)) (mirror : Mirror W) (index : Nat)
    (t₀ : Transaction) (Early : Host W → Prop) (Holds : Phase → Host W → Prop) : Prop where
  attached : mirrors[index]? = some mirror
  total : ∀ stage, stage ≠ .publishLost → mirror.callback stage ≠ none
  clock : ∀ tick h, (Early h → Early (expired tick h).2) ∧
    ∀ p, Holds p h → Holds p (expired tick h).2
  early : ∀ i m stage f, mirrors[i]? = some m → m.callback stage = some f → stage.beforeCommit →
    ∀ h, Early h → Early (h.call i f (t₀.event stage)).2
  own : ∀ stage f, stage.asks → mirror.callback stage = some f → ∀ h,
    (stage.beforeCommit → Early h) → Holds stage.entry h →
    Holds (if (h.call index f (t₀.event stage)).1 then stage.exit else stage.entry)
      (h.call index f (t₀.event stage)).2
  ownAbort : ∀ f, mirror.abort = some f → ∀ p h, p ≠ .done → Holds p h →
    Holds .idle (h.call index f (t₀.event .abort)).2
  other : ∀ i m stage f, i ≠ index → mirrors[i]? = some m → m.callback stage = some f → ∀ p h,
    (stage.beforeCommit → Early h) → Holds p h → Holds p (h.call i f (t₀.event stage)).2

/-! ## 2. Through the loops -/

section Loops

variable {mirrors : List (Mirror W)} {mirror : Mirror W} {index : Nat} {t₀ : Transaction}
  {Early : Host W → Prop} {Holds : Phase → Host W → Prop}

/-- Where the transaction `t` has come to with the participant in phase `p`. -/
structure At (Holds : Phase → Host W → Prop) (index : Nat) (t₀ : Transaction) (p : Phase)
    (t : Transaction) (h : Host W) : Prop where
  holds : Holds p h
  core : t.core = t₀.core
  touched : p = .active → t.touchedMask.testBit index = true
  committed : t.committedMask.testBit index = true ↔ p = .done
  count : p = .done → t.committedCount ≠ 0

variable {p : Phase} {t t' : Transaction} {h h' : Host W}

/-- The phase stays, and so do the participant's bits. -/
theorem At.stay (a : At Holds index t₀ p t h) (hholds : Holds p h') (hcore : t'.core = t.core)
    (htouched : t'.touchedMask.testBit index = t.touchedMask.testBit index)
    (hcomm : t'.committedMask.testBit index = t.committedMask.testBit index)
    (hcount : t.committedCount ≤ t'.committedCount) : At Holds index t₀ p t' h' :=
  ⟨hholds, hcore.trans a.core, fun hp => htouched.trans (a.touched hp),
    by rw [hcomm, a.committed], fun hp => by have := a.count hp; omega⟩

theorem At.event_eq (a : At Holds index t₀ p t h) (i : Nat) (stage : MirrorStage) :
    (t.touch i).event stage = t₀.event stage :=
  Transaction.event_of_core a.core stage

/-- The participant refuses. -/
theorem At.refuse {stage : MirrorStage} (a : At Holds index t₀ stage.entry t h)
    (hholds : Holds stage.entry h') : At Holds index t₀ stage.entry (t.touch index) h' :=
  ⟨hholds, a.core, fun _ => by simp [Transaction.touchedMask_touch], a.committed, a.count⟩

/-- The participant agrees. -/
theorem At.agree {stage : MirrorStage} (a : At Holds index t₀ stage.entry t h)
    (hholds : Holds stage.exit h') : At Holds index t₀ stage.exit (t.agreed stage index) h' := by
  have huncommitted : t.committedMask.testBit index = false :=
    Bool.eq_false_iff.2 fun hbit => stage.entry_ne_done (a.committed.1 hbit)
  refine ⟨hholds, (t.core_agreed stage index).trans a.core, fun _ => ?_, ?_, fun hdone => ?_⟩
  · unfold Transaction.agreed
    split <;> simp [Transaction.touchedMask_touch, Transaction.commitAt]
  · rw [exit_eq_done]
    by_cases hcommit : stage = .commit
    · simp [Transaction.agreed, hcommit, Transaction.committedMask_commitAt]
    · simp [Transaction.agreed, hcommit, Transaction.touch, huncommitted]
  · rw [exit_eq_done] at hdone
    simp [Transaction.agreed, hdone, Transaction.commitAt]

/-- The phase of the participant while a stage is at the mirror `i`. -/
def phaseAt (index : Nat) (stage : MirrorStage) (i : Nat) : Phase :=
  if i ≤ index then stage.entry else stage.exit

theorem phaseAt_other (stage : MirrorStage) {i : Nat} (hi : i ≠ index) :
    phaseAt index stage (i + 1) = phaseAt index stage i := by
  unfold phaseAt
  by_cases hle : i ≤ index
  · rw [if_pos hle, if_pos (by omega)]
  · rw [if_neg hle, if_neg (by omega)]

theorem phaseAt_own (stage : MirrorStage) :
    phaseAt index stage index = stage.entry ∧ phaseAt index stage (index + 1) = stage.exit :=
  ⟨if_pos .refl, if_neg (by omega)⟩

theorem phaseAt_ne_done {stage : MirrorStage} (hstage : stage.beforeCommit) (i : Nat) :
    phaseAt index stage i ≠ .done := by
  unfold phaseAt
  split
  · exact stage.entry_ne_done
  · exact fun hdone => beforeCommit_ne_commit hstage (exit_eq_done.1 hdone)

/-- The assertion of a stage, and what a stage that fails leaves. -/
def Reached (Early : Host W → Prop) (Holds : Phase → Host W → Prop) (index : Nat)
    (t₀ : Transaction) (stage : MirrorStage) (i : Nat) (t : Transaction) (h : Host W) : Prop :=
  At Holds index t₀ (phaseAt index stage i) t h ∧ (stage.beforeCommit → Early h)

def Stopped (Holds : Phase → Host W → Prop) (index : Nat) (t₀ : Transaction) (stage : MirrorStage)
    (t : Transaction) (h : Host W) : Prop :=
  ∃ p, (stage.beforeCommit → p ≠ .done) ∧ At Holds index t₀ p t h

theorem Participant.stage (part : Participant mirrors mirror index t₀ Early Holds)
    {stage : MirrorStage} (hasks : stage.asks) :
    StageRule mirrors stage (Reached Early Holds index t₀ stage)
    (Stopped Holds index t₀ stage) := by
  have hstop : ∀ {i t h}, At Holds index t₀ (phaseAt index stage i) t h →
      Stopped Holds index t₀ stage t h := fun a => ⟨_, fun hbefore => phaseAt_ne_done hbefore _, a⟩
  refine ⟨?_, ?_, ?_, ?_, ?_⟩
  · rintro i t h ⟨a, hearly⟩
    obtain ⟨hclockEarly, hclock⟩ := part.clock t.request.deadlineTick h
    exact ⟨{ a with holds := hclock _ a.holds }, fun hbefore => hclockEarly (hearly hbefore)⟩
  · rintro i t h ⟨a, -⟩
    exact hstop { a with }
  · rintro i m t h hm hnone ⟨a, hearly⟩
    by_cases hi : i = index
    · rw [hi, part.attached] at hm
      cases hm
      exact absurd hnone (part.total stage hasks.2)
    · rw [Reached, phaseAt_other stage hi]
      exact ⟨a, hearly⟩
  · rintro i m f t h hm hf ⟨a, hearly⟩ hyes
    have hevent := a.event_eq i stage
    rw [hevent] at hyes ⊢
    refine ⟨?_, fun hbefore => part.early i m stage f hm hf hbefore h (hearly hbefore)⟩
    by_cases hi : i = index
    · subst hi
      rw [part.attached] at hm
      cases hm
      rw [(phaseAt_own stage).1] at a
      have hown := part.own stage f hasks hf h hearly a.holds
      rw [if_pos hyes] at hown
      rw [(phaseAt_own stage).2]
      exact a.agree hown
    · obtain ⟨htouched, hcomm, hcount⟩ := t.agreed_other stage hi
      rw [phaseAt_other stage hi]
      exact a.stay (part.other i m stage f hi hm hf _ h hearly a.holds) (t.core_agreed stage i)
        htouched hcomm hcount
  · rintro i m f t h hm hf ⟨a, hearly⟩ hno
    have hevent := a.event_eq i stage
    rw [hevent] at hno ⊢
    by_cases hi : i = index
    · subst hi
      rw [part.attached] at hm
      cases hm
      rw [(phaseAt_own stage).1] at a
      have hown := part.own stage f hasks hf h hearly a.holds
      rw [if_neg (Bool.eq_false_iff.1 hno)] at hown
      exact ⟨_, fun _ => stage.entry_ne_done, a.refuse hown⟩
    · exact hstop (a.stay (part.other i m stage f hi hm hf _ h hearly a.holds) rfl
        (t.touch_other hi) rfl .refl)

/-- The phase an abort leaves. -/
def Phase.aborted : Phase → Phase
  | .done => .done
  | _ => .idle

section

variable (part : Participant mirrors mirror index t₀ Early Holds)

include part

/-- The abort puts an active participant back, and leaves one that has committed alone. -/
theorem Participant.abort (a : At Holds index t₀ p t h) : Holds p.aborted (abort mirrors t h) := by
  have hevent : t.event .abort = t₀.event .abort := Transaction.event_of_core a.core .abort
  have hrule : AbortRule mirrors t fun i h => Holds (if i ≤ index then p else p.aborted) h := by
    have hother : ∀ i, i ≠ index → (if i + 1 ≤ index then p else p.aborted) =
        if i ≤ index then p else p.aborted := by
      intro i hi
      by_cases hle : i ≤ index
      · rw [if_pos hle, if_pos (by omega)]
      · rw [if_neg hle, if_neg (by omega)]
    refine ⟨?_, ?_⟩
    · intro i m h hm hskip hholds
      by_cases hi : i = index
      · subst hi
        rw [part.attached] at hm
        cases hm
        rw [if_pos .refl] at hholds
        rw [if_neg (by omega)]
        cases p with
        | idle | done => exact hholds
        | active =>
          -- an active participant is not skipped
          rcases hskip with hskip | hskip | hskip
          · exact absurd (a.touched rfl) (by simp [hskip])
          · exact absurd (a.committed.1 hskip) (by decide)
          · exact absurd hskip (part.total .abort (by decide))
      · rwa [hother i hi]
    · intro i m f h hm _ hcomm hf hholds
      rw [hevent]
      by_cases hi : i = index
      · subst hi
        rw [part.attached] at hm
        cases hm
        rw [if_pos .refl] at hholds
        rw [if_neg (by omega)]
        have hp : p ≠ .done := fun hdone => by
          rw [a.committed.2 hdone] at hcomm
          cases hcomm
        have haborted : p.aborted = .idle := by
          cases p with
          | idle | active => rfl
          | done => exact absurd rfl hp
        rw [haborted]
        exact part.ownAbort f hf p h hp hholds
      · rw [hother i hi]
        refine part.other i m .abort f hi hm hf _ h (fun hbefore => ?_) hholds
        rcases hbefore with hbefore | hbefore | hbefore <;> cases hbefore
  have hlen : index < mirrors.length := (List.getElem?_eq_some_iff.1 part.attached).1
  have hend := abort_rule hrule (by rw [if_pos (Nat.zero_le _)]; exact a.holds)
  rwa [if_neg (by omega)] at hend

theorem Participant.transactRule :
    TransactRule mirrors (Reached Early Holds index t₀) (fun t h => ∃ p, p ≠ .done ∧
        At Holds index t₀ p t h) (fun t h => ∃ p, At Holds index t₀ p t h)
      (fun t h => t.core = t₀.core ∧ Holds .idle h)
      (fun t h => t.core = t₀.core ∧ (Holds .idle h ∨ Holds .done h ∧ t.committedCount ≠ 0)) := by
  have hlen : index < mirrors.length := (List.getElem?_eq_some_iff.1 part.attached).1
  have hlast : ∀ stage : MirrorStage, phaseAt index stage mirrors.length = stage.exit :=
    fun stage => if_neg (by omega)
  -- what fails before the commit is not done
  have hearly : ∀ {stage : MirrorStage}, stage.asks → stage.beforeCommit →
      StageRule mirrors stage (Reached Early Holds index t₀ stage)
        (fun t h => ∃ p, p ≠ .done ∧ At Holds index t₀ p t h) := fun hasks hbefore =>
    (part.stage hasks).weaken fun _ _ ⟨p, hp, a⟩ => ⟨p, hp hbefore, a⟩
  have hnext : ∀ {stage next : MirrorStage}, stage.beforeCommit → stage.exit = next.entry →
      ∀ t h, Reached Early Holds index t₀ stage mirrors.length t h →
        Reached Early Holds index t₀ next 0 t h := by
    rintro stage next hbefore heq t h ⟨a, hholds⟩
    rw [hlast, heq] at a
    exact ⟨a, fun _ => hholds hbefore⟩
  refine ⟨hearly (by decide) (.inl rfl), hearly (by decide) (.inr (.inl rfl)),
    hearly (by decide) (.inr (.inr rfl)),
    (part.stage (by decide)).weaken fun _ _ ⟨p, _, a⟩ => ⟨p, a⟩,
    hnext (.inl rfl) rfl, hnext (.inr (.inl rfl)) rfl, hnext (.inr (.inr rfl)) rfl, ?_, ?_⟩
  · rintro t h ⟨p, hp, a⟩
    have haborted := part.abort a
    cases p with
    | idle | active => exact ⟨a.core, haborted⟩
    | done => exact absurd rfl hp
  · rintro t h ⟨p, a⟩
    have haborted := part.abort a
    cases p with
    | idle | active => exact ⟨a.core, .inl haborted⟩
    | done => exact ⟨a.core, .inr ⟨haborted, a.count rfl⟩⟩

/-- **A participant at the end of its transaction.** -/
theorem transact_participant
    (hnew : t₀.committedMask = 0) (hearly : Early h) (hidle : Holds .idle h) :
    (transact mirrors t₀ h).Satisfies (fun t h => t.core = t₀.core ∧ Holds .idle h)
      (fun t h => t.core = t₀.core ∧ (Holds .idle h ∨ Holds .done h ∧ t.committedCount ≠ 0))
      (fun t h => t.core = t₀.core ∧ Holds .done h) := by
  have hlen : index < mirrors.length := (List.getElem?_eq_some_iff.1 part.attached).1
  have hstart : Reached Early Holds index t₀ .prepare 0 t₀ h := by
    rw [Reached, phaseAt]
    exact ⟨⟨hidle, rfl, nofun, by simp [hnew, entry], nofun⟩, fun _ => hearly⟩
  refine (transact_rule part.transactRule hstart).mono (fun _ _ h => h) (fun _ _ h => h) ?_
  rintro t h ⟨a, -⟩
  rw [phaseAt, if_neg (by omega)] at a
  exact ⟨a.core, a.holds⟩

end

end Loops

end MetaFlux.Lifecycle
