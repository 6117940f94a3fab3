/-
# Calls under way

A table says which call each thread is in.  A call may have CLAIMED something, and where every call
that begins claims what no other has, no two threads have the same claim (`Lone.update`).
-/
import Mathlib

namespace Base

open Function

variable {ι α κ : Type*} [DecidableEq ι] {calls : ι → Option α} {thread : ι} {call : Option α}
  {claim : α → Option κ}

/-- A call that is under way after a change was so before, or is the new one. -/
theorem update_eq_some {t : ι} {c : α} (h : update calls thread call t = some c) :
    t = thread ∧ call = some c ∨ t ≠ thread ∧ calls t = some c := by
  by_cases ht : t = thread
  · rw [ht, update_self] at h
    exact .inl ⟨ht, h⟩
  · rw [update_of_ne ht] at h
    exact .inr ⟨ht, h⟩

/-- Where one entry of a table changes, entries that are alike are still one and the same, if no
other is like the new one. -/
theorem eq_of_alike {β : Type*} {f g : ι → β} {i : ι} {P : β → Prop} {r : β → β → Prop}
    (hother : ∀ j, j ≠ i → g j = f j) (hsymm : ∀ {a b}, r a b → r b a)
    (hnew : ∀ j, j ≠ i → P (f j) → P (g i) → ¬ r (f j) (g i))
    (hold : ∀ {j k}, P (f j) → P (f k) → r (f j) (f k) → j = k) {j k : ι}
    (hj : P (g j)) (hk : P (g k)) (h : r (g j) (g k)) : j = k := by
  by_cases hji : j = i
  · by_cases hki : k = i
    · rw [hji, hki]
    · rw [hji] at hj h
      rw [hother k hki] at hk h
      exact absurd (hsymm h) (hnew k hki hk hj)
  · rw [hother j hji] at hj h
    by_cases hki : k = i
    · rw [hki] at hk h
      exact absurd h (hnew j hji hj hk)
    · rw [hother k hki] at hk h
      exact hold hj hk h

/-- No two threads have the same claim. -/
def Lone (claim : α → Option κ) (calls : ι → Option α) : Prop :=
  ∀ {t t' c c' k}, calls t = some c → calls t' = some c' → claim c = some k →
    claim c' = some k → t = t'

theorem Lone.update (h : Lone claim calls)
    (hnew : ∀ c k, call = some c → claim c = some k → ∀ t c', t ≠ thread → calls t = some c' →
      claim c' ≠ some k) : Lone claim (update calls thread call) := by
  intro t t' c c' k hc hc' hk hk'
  rcases update_eq_some hc with ⟨rfl, hthis⟩ | ⟨hne, hold⟩
  · rcases update_eq_some hc' with ⟨rfl, -⟩ | ⟨hne', hold'⟩
    · rfl
    · exact absurd hk' (hnew c k hthis hk t' c' hne' hold')
  · rcases update_eq_some hc' with ⟨rfl, hthis'⟩ | ⟨-, hold'⟩
    · exact absurd hk (hnew c' k hthis' hk' t c hne hold)
    · exact h hold hold' hk hk'

/-- What a thread had claimed is nobody's once its call has ended. -/
theorem Lone.ended (h : Lone claim calls) {c : α} {k : κ}
    (hcall : calls thread = some c) (hk : claim c = some k) {t : ι} {c' : α}
    (hc' : Function.update calls thread none t = some c') : claim c' ≠ some k := by
  intro hk'
  rcases update_eq_some hc' with ⟨-, hthis⟩ | ⟨hne, hold⟩
  · cases hthis
  · exact hne (h hold hcall hk' hk)

end Base
