/-
# Parsers

A parser works on a state that has a number of things LEFT, and never makes them more; the proof of
that is part of the parser, so that whatever is put together from parsers has it as well.  A loop
ends because each turn that asks for another has used something up (`Consumes`); it needs no fuel.
-/
import Mathlib

namespace Base

class Input (σ : Type) where
  left : σ → Nat

export Input (left)

/-- A parser over states `σ` with errors `ε`. -/
structure Parser (σ ε : Type) [Input σ] (α : Type) where
  run : σ → Except ε (α × σ)
  shrinks : ∀ {s s' : σ} {a : α}, run s = .ok (a, s') → left s' ≤ left s

namespace Parser

variable {σ ε α β : Type} [Input σ]

/-! ## 1. Putting parsers together -/

def ok (a : α) : Parser σ ε α where
  run s := .ok (a, s)
  shrinks h := by
    cases h
    exact .refl

def andThen (p : Parser σ ε α) (f : α → Parser σ ε β) : Parser σ ε β where
  run s := (p.run s).bind fun r => (f r.1).run r.2
  shrinks {s s' b} h := by
    cases hp : p.run s with
    | error =>
      rw [hp] at h
      cases h
    | ok r =>
      rw [hp] at h
      exact Nat.le_trans ((f r.1).shrinks h) (p.shrinks hp)

instance : Monad (Parser σ ε) where
  pure := ok
  bind := andThen

def fail (e : ε) : Parser σ ε α where
  run _ := .error e
  shrinks h := nomatch h

/-- The state as it is. -/
def look : Parser σ ε σ where
  run s := .ok (s, s)
  shrinks h := by
    cases h
    exact .refl

/-- A change that leaves what is left as it is. -/
def update (f : σ → σ) (hf : ∀ s, left (f s) ≤ left s := by exact fun _ => .refl) :
    Parser σ ε Unit where
  run s := .ok ((), f s)
  shrinks h := by
    cases h
    exact hf _

/-- **One after the other.** -/
theorem run_bind_eq_ok {p : Parser σ ε α} {f : α → Parser σ ε β} {s s' : σ} {b : β}
    (h : (p >>= f).run s = .ok (b, s')) :
    ∃ a t, p.run s = .ok (a, t) ∧ (f a).run t = .ok (b, s') := by
  change ((p.run s).bind fun r => (f r.1).run r.2) = _ at h
  cases hp : p.run s with
  | error =>
    rw [hp] at h
    cases h
  | ok r =>
    rw [hp] at h
    exact ⟨r.1, r.2, rfl, h⟩

/-! ## 2. Parsers that use something up -/

/-- When the result is one of these, something was used up. -/
structure Consumes (p : Parser σ ε α) (P : α → Prop := fun _ => True) : Prop where
  lt : ∀ {s s' : σ} {a : α}, p.run s = .ok (a, s') → P a → left s' < left s

namespace Consumes

variable {P : β → Prop} {p : Parser σ ε α} {f : α → Parser σ ε β}

theorem first (h : p.Consumes) : (p >>= f).Consumes P := by
  constructor
  intro s s' b hrun _
  obtain ⟨a, t, hp, hf⟩ := run_bind_eq_ok hrun
  exact Nat.lt_of_le_of_lt ((f a).shrinks hf) (h.lt hp trivial)

theorem later (h : ∀ a, (f a).Consumes P) : (p >>= f).Consumes P := by
  constructor
  intro s s' b hrun hb
  obtain ⟨a, t, hp, hf⟩ := run_bind_eq_ok hrun
  exact Nat.lt_of_lt_of_le ((h a).lt hf hb) (p.shrinks hp)

theorem ok_of_not {b : β} (h : ¬ P b) : (pure b : Parser σ ε β).Consumes P := by
  constructor
  intro s s' b' hrun hb
  cases hrun
  exact absurd hb h

theorem fail (e : ε) : (Parser.fail e : Parser σ ε β).Consumes P := ⟨nofun⟩

end Consumes

/-! ## 3. Loops -/

/-- The turn asks for another. -/
def GoesOn : ForInStep β → Prop
  | .yield _ => True
  | .done _ => False

def loopRun (body : β → Parser σ ε (ForInStep β)) (hbody : ∀ b, (body b).Consumes GoesOn) (b : β)
    (s : σ) : Except ε (β × σ) :=
  match hrun : (body b).run s with
  | .error e => .error e
  | .ok (.done b', s') => .ok (b', s')
  | .ok (.yield b', s') => loopRun body hbody b' s'
termination_by left s
decreasing_by exact (hbody b).lt hrun trivial

theorem loopRun_shrinks {body : β → Parser σ ε (ForInStep β)}
    {hbody : ∀ b, (body b).Consumes GoesOn} {b b' : β} {s s' : σ}
    (h : loopRun body hbody b s = .ok (b', s')) : left s' ≤ left s := by
  fun_induction loopRun body hbody b s with
  | case1 => cases h
  | case2 b s c t hrun =>
    cases h
    exact (body b).shrinks hrun
  | case3 b s c t hrun ih => exact Nat.le_trans (ih h) ((body b).shrinks hrun)

/-- The body again and again, until it is done. -/
def loop (body : β → Parser σ ε (ForInStep β)) (hbody : ∀ b, (body b).Consumes GoesOn) (b : β) :
    Parser σ ε β where
  run := loopRun body hbody b
  shrinks := loopRun_shrinks

end Parser

end Base
