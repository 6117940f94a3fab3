/-
# Programs on a state

Rules of pre- and postconditions for programs in the state monad.  A triple says two things of a
program at once: it takes a step of a preorder `R`, whatever it runs through on the way, and it
takes an assertion about the state before to one about its answer and the state after.  The first is
a frame or an inversion, according to `R`; the second carries what the next program needs to know.
-/
import Mathlib

namespace Base

variable {σ α β : Type} {R : σ → σ → Prop} {P : σ → Prop} {Q : α → σ → Prop}

/-- From a state that satisfies `P`, the program takes a step of `R`, to an answer and a state that
satisfy `Q`. -/
def Triple (R : σ → σ → Prop) (P : σ → Prop) (x : StateM σ α) (Q : α → σ → Prop) : Prop :=
  ∀ s, P s → R s (x.run s).2 ∧ Q (x.run s).1 (x.run s).2

/-- From any state, the program takes a step of `R`. -/
def Respects (R : σ → σ → Prop) (x : StateM σ α) : Prop := ∀ s, R s (x.run s).2

/-- With the relation that holds of any two states, a triple is only about its assertions. -/
instance anyStep : IsPreorder σ fun _ _ => True where
  refl _ := trivial
  trans _ _ _ _ _ := trivial

variable {x y : StateM σ α} {a : α} {f : α → StateM σ β} {c : Prop} {body : β → StateM σ (Option α)}

namespace Triple

variable {P' : σ → Prop} {Q' : α → σ → Prop}

theorem conseq (h : Triple R P x Q)
    (hpre : ∀ s, P' s → P s) (hpost : ∀ a s, Q a s → Q' a s) : Triple R P' x Q' := fun s hs =>
  ⟨(h s (hpre s hs)).1, hpost _ _ (h s (hpre s hs)).2⟩

theorem pre (h : Triple R P x Q) (hpre : ∀ s, P' s → P s) :
    Triple R P' x Q := h.conseq hpre fun _ _ h => h

theorem post (h : Triple R P x Q)
    (hpost : ∀ a s, Q a s → Q' a s) : Triple R P x Q' := h.conseq (fun _ h => h) hpost

theorem pure [IsPreorder σ R] (h : ∀ s, P s → Q a s) : Triple R P (pure a) Q := fun s hs =>
  ⟨Std.Refl.refl s, h s hs⟩

theorem skip [IsPreorder σ R] : Triple R P (Pure.pure a) fun _ => P := .pure fun _ h => h

theorem bind [IsPreorder σ R] {Q' : β → σ → Prop}
    (hx : Triple R P x Q) (hf : ∀ a, Triple R (Q a) (f a) Q') : Triple R P (x >>= f) Q' := by
  intro s hs
  obtain ⟨hfirst, hmiddle⟩ := hx s hs
  obtain ⟨hsecond, hend⟩ := hf _ _ hmiddle
  exact ⟨IsTrans.trans _ _ _ hfirst hsecond, hend⟩

/-- The answer is known beforehand. -/
theorem bind_known [IsPreorder σ R] {A : σ → Prop} {Q' : β → σ → Prop}
    (hx : Triple R P x fun a' s => a' = a ∧ A s) (hf : Triple R A (f a) Q') :
    Triple R P (x >>= f) Q' :=
  hx.bind fun _ s hs => hs.1 ▸ hf s hs.2

variable {f : σ → StateM σ α} {s : σ}

/-- The state that is read is the one the rest of the program starts from. -/
theorem get_bind (h : ∀ s, P s → Triple R (· = s) (f s) Q) :
    Triple R P (get >>= f) Q := fun s hs => h s hs s rfl

theorem get_at (h : Triple R (· = s) (f s) Q) :
    Triple R (· = s) (get >>= f) Q := get_bind fun _ hs => hs ▸ h

/-- The state that was read satisfies the assertion that is needed from here on. -/
theorem start (h : Triple R P x Q) (hs : P s) : Triple R (· = s) x Q :=
  h.pre fun _ hs' => hs' ▸ hs

theorem answer [IsPreorder σ R] (h : Q a s) : Triple R (· = s) (Pure.pure a) Q :=
  .start (.pure fun _ h => h) h

/-- The same where only the assertion is to be remembered of it. -/
theorem look_bind (h : ∀ s, P s → Triple R P (f s) Q) :
    Triple R P (get >>= f) Q := fun s hs => h s hs s hs

/-- What the assertion says about no state in particular. -/
theorem extract {p : Prop} (hp : ∀ s, P s → p) (h : p → Triple R P x Q) :
    Triple R P x Q := fun s hs => h (hp s hs) s hs

/-- A change of the state that was read. -/
theorem modify_at {f : σ → σ} {Q : PUnit → σ → Prop} (h : R s (f s)) (hpost : Q ⟨⟩ (f s)) :
    Triple R (· = s) (modify f) Q := by
  rintro _ rfl
  exact ⟨h, hpost⟩

theorem modify {f : σ → σ} {Q : PUnit → σ → Prop} (h : ∀ s, P s → R s (f s) ∧ Q ⟨⟩ (f s)) :
    Triple R P (modify f) Q := fun s hs => h s hs

theorem set {s' : σ} {Q : PUnit → σ → Prop} (h : R s s') (hpost : Q ⟨⟩ s') :
    Triple R (· = s) (set s') Q := by
  rintro _ rfl
  exact ⟨h, hpost⟩

theorem ite [Decidable c] (hyes : c → Triple R P x Q)
    (hno : ¬ c → Triple R P y Q) : Triple R P (if c then x else y) Q := by
  split
  · rename_i hc
    exact hyes hc
  · rename_i hc
    exact hno hc

/-- What is left where a value is not the one that is asked for. -/
theorem if_ne {b b' : β} [Decidable (b ≠ b')] (hne : b ≠ b' → Triple R P x Q)
    (heq : b = b' → Triple R P y Q) : Triple R P (if b ≠ b' then x else y) Q :=
  .ite hne fun h => heq (Classical.not_not.1 h)

/-- A choice that nothing is to be remembered of. -/
theorem either [Decidable c] (hyes : Triple R P x Q)
    (hno : Triple R P y Q) : Triple R P (if c then x else y) Q := .ite (fun _ => hyes) fun _ => hno

/-- What stops with an answer, or goes on. -/
theorem bind_option [IsPreorder σ R] {x : StateM σ (Option α)} {f : Option α → StateM σ β}
    {Q' : β → σ → Prop} (hx : Triple R P x fun _ => P')
    (hsome : ∀ a, Triple R P' (f (some a)) Q') (hnone : Triple R P' (f none) Q') :
    Triple R P (x >>= f) Q' := hx.bind fun answer => by
  cases answer
  · exact hnone
  · exact hsome _

theorem and (h : Triple R P x Q) (h' : Triple R P x Q') :
    Triple R P x fun a s => Q a s ∧ Q' a s := fun s hs => ⟨(h s hs).1, (h s hs).2, (h' s hs).2⟩

theorem respects (h : Triple R (fun _ => True) x Q) : Respects R x := fun s =>
  (h s trivial).1

theorem map (f : α → β) (h : Triple R P x Q) :
    Triple R P (f <$> x) fun b s => ∃ a, b = f a ∧ Q a s := fun s hs =>
  ⟨(h s hs).1, _, rfl, (h s hs).2⟩

end Triple

namespace Respects

theorem triple (h : Respects R x) : Triple R P x fun _ _ => True := fun s _ =>
  ⟨h s, trivial⟩

theorem pure [IsPreorder σ R] (a : α) : Respects R (pure a : StateM σ α) := Std.Refl.refl

theorem bind [IsPreorder σ R] (hx : Respects R x)
    (hf : ∀ a, Respects R (f a)) : Respects R (x >>= f) := fun s =>
  IsTrans.trans _ _ _ (hx s) (hf _ _)

theorem get [IsPreorder σ R] : Respects R (get : StateM σ σ) := Std.Refl.refl

/-- Two changes that only make a step of `R` together. -/
theorem modify_modify_bind [IsPreorder σ R] {f g : σ → σ} (h : ∀ s, R s (g (f s)))
    (hx : Respects R x) : Respects R (do modify f; modify g; x) := fun s =>
  IsTrans.trans _ _ _ (h s) (hx _)

theorem modify {f : σ → σ} (h : ∀ s, R s (f s)) : Respects R (modify f : StateM σ PUnit) := h

theorem ite [Decidable c] (hyes : c → Respects R x)
    (hno : ¬ c → Respects R y) : Respects R (if c then x else y) := by
  split
  · rename_i hc
    exact hyes hc
  · rename_i hc
    exact hno hc

theorem either [Decidable c] (hyes : Respects R x)
    (hno : Respects R y) : Respects R (if c then x else y) := .ite (fun _ => hyes) fun _ => hno

theorem forM [IsPreorder σ R] {f : α → StateM σ PUnit} (h : ∀ a, Respects R (f a)) :
    ∀ list : List α, Respects R (forM list f)
  | [] => pure _
  | a :: list => by
    exact bind (h a) fun _ => forM h list

end Respects

/-- **The rule of loops, at one item.**  What holds before every item becomes, at the one, what
holds from then on. -/
theorem Triple.forM_mem [IsPreorder σ R] {f : α → StateM σ PUnit} {Q : σ → Prop}
    (hbefore : ∀ b, Triple R P (f b) fun _ => P) (hat : Triple R P (f a) fun _ => Q)
    (hafter : ∀ b, Triple R Q (f b) fun _ => Q) :
    ∀ {list : List α}, a ∈ list → Triple R P (forM list f) fun _ => Q := by
  intro list hmem
  induction list with
  | nil => cases hmem
  | cons b list ih =>
    rw [List.forM_cons]
    rcases List.mem_cons.1 hmem with rfl | hrest
    · refine hat.bind fun _ => ?_
      clear hmem ih
      induction list with
      | nil => exact .pure fun _ h => h
      | cons c _ ih =>
        exact (hafter c).bind fun _ => ih
    · exact (hbefore b).bind fun _ => ih hrest

/-! ## Scans

A scan runs a program at one item after the other, until one of them answers. -/

def scan (body : β → StateM σ (Option α)) : List β → StateM σ (Option α)
  | [] => pure none
  | b :: rest => do
    match ← body b with
    | some answer => return some answer
    | none => scan body rest

/-- **The rule of scans.**  `P` holds before every item; `Q` is said of the answer, and of coming to
the end without one. -/
theorem Triple.scan [IsPreorder σ R] {Q : Option α → σ → Prop} :
    ∀ {list : List β},
      (∀ b ∈ list, Triple R P (body b) fun answer s =>
        match answer with
        | none => P s
        | some a => Q (some a) s) →
      (∀ s, P s → Q none s) → Triple R P (Base.scan body list) Q
  | [], _, hend => Triple.pure hend
  | b :: rest, hbody, hend => by
    refine (hbody b List.mem_cons_self).bind fun answer => ?_
    cases answer with
    | none => exact Triple.scan (fun c hc => hbody c (List.mem_cons_of_mem b hc)) hend
    | some => exact Triple.pure fun _ h => h

theorem Respects.scan [IsPreorder σ R] (h : ∀ b, Respects R (body b))
    (list : List β) : Respects R (Base.scan body list) := by
  refine (Triple.scan (Q := fun _ _ => True) (fun b _ => ?_) fun _ _ => trivial).respects
  exact (h b).triple.post fun answer _ _ => by cases answer <;> trivial

/-- What comes last needs no assertion. -/
theorem Triple.bind_respects [IsPreorder σ R]
    (hx : Triple R P x Q) (hf : ∀ a, Respects R (f a)) : Triple R P (x >>= f) fun _ _ => True :=
  hx.bind fun a => (hf a).triple

end Base
