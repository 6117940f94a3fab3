/-
# Monitors

A monitor reads a history, one event after the other, and says of each whether it may come next.  A
history is accepted when every event in it was allowed where it came, so that a fact about accepted
histories is one about every point of them.  What events gain and lose is accounted for by what the
monitor has in stock (`Monitor.conserved`): an account that is kept event by event balances.
-/
import Mathlib

namespace Base

open List

structure Monitor (σ ε : Type) where
  start : σ
  next : σ → ε → σ
  allows : σ → ε → Prop

namespace Monitor

variable {σ ε : Type} (m : Monitor σ ε) {history : List ε}

/-- The monitor's state after a history. -/
def after (history : List ε) : σ := history.foldl m.next m.start

/-- Every event of the history was allowed where it came. -/
def Accepts (history : List ε) : Prop :=
  ∀ before e, before ++ [e] <+: history → m.allows (m.after before) e

@[simp] theorem after_nil : m.after [] = m.start := rfl

@[simp] theorem after_snoc (history : List ε) (e : ε) :
    m.after (history ++ [e]) = m.next (m.after history) e := by
  simp [after]

theorem accepts_nil : m.Accepts [] := by
  intro before e h
  simp at h

theorem accepts_snoc {e : ε} :
    m.Accepts (history ++ [e]) ↔ m.Accepts history ∧ m.allows (m.after history) e := by
  constructor
  · intro h
    refine ⟨fun before f hbefore => ?_, h history e (prefix_refl _)⟩
    exact h before f (hbefore.trans (prefix_append _ _))
  rintro ⟨h, hlast⟩ before f hbefore
  rcases prefix_concat_iff.1 hbefore with heq | hshort
  · obtain ⟨rfl, hevent⟩ := append_inj' heq rfl
    rw [singleton_inj.1 hevent]
    exact hlast
  · exact h before f hshort

variable {m}

theorem Accepts.shorter {history' : List ε} (h : m.Accepts history')
    (hshorter : history <+: history') : m.Accepts history := fun before e hbefore =>
  h before e (hbefore.trans hshorter)

/-- **What is gained is lost or in stock.** -/
theorem conserved {gain lose : ε → Nat} {stock : σ → Nat} (hstart : stock m.start = 0)
    (hstep : ∀ s e, m.allows s e → stock (m.next s e) + lose e = stock s + gain e)
    (h : m.Accepts history) :
    (history.map lose).sum + stock (m.after history) = (history.map gain).sum := by
  induction history using reverseRecOn with
  | nil => simpa using hstart
  | append_singleton _ e ih =>
    obtain ⟨hbefore, hlast⟩ := m.accepts_snoc.1 h
    have hkept := ih hbefore
    have hnow := hstep _ e hlast
    simp only [map_append, map_cons, map_nil, sum_append, sum_cons, after_snoc]
    omega

end Monitor

end Base
