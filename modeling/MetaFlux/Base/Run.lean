/-
# Runs of a step function

A deterministic machine is a function `step : σ → ι → σ`; a RUN feeds it a finite list of inputs.
This module holds the rules by which a fact about ONE step becomes a fact about every run, so that
no development above repeats the induction:

* `run_induction`: a predicate that every step preserves holds at the end of every run;
* `run_induction_along`: the same when only the steps that meet a condition preserve it, the
  condition being read in the state BEFORE the step (`Along`);
* `run_rel`: a reflexive and transitive relation that every step respects relates the two ends of
  every run (a measure that never falls, a set that only grows);
* `run_constant`: a view of the state that only climbs does not come back to a value it has left (no
  ABA), so that a run at both ends of which it is the same has not changed it in between;
* `throughout_of_absorbing`: a predicate that nothing leads out of, and that the run does not end
  in, held at no state of it;
* `Since`: some step of a run was of one kind, and all since are of another (`since_snoc`);
* `count_le_one`: a kind of step that disables itself for good is taken at most once;
* `CanReach`: some run of permitted steps ends in a goal.  It is shown one step at a time
  (`CanReach.after`), and refuted by a predicate that permitted steps keep (`not_canReach`);
* `walk_induction`: a loop over a list that counts the elements it has passed.
-/
import Mathlib

namespace Base

open List

variable {σ ι : Type*} (step : σ → ι → σ)

/-! ## 1. Runs -/

/-- The state reached from `s` when the inputs are fed to the step function in order. -/
def run (s : σ) (is : List ι) : σ :=
  is.foldl step s

@[simp] theorem run_nil (s : σ) : run step s [] = s := rfl

@[simp] theorem run_cons (s : σ) (i : ι) (is : List ι) :
    run step s (i :: is) = run step (step s i) is := rfl

theorem run_append (s : σ) (is js : List ι) : run step s (is ++ js) = run step (run step s is) js :=
  foldl_append

/-- The condition `C` holds of every step of the run, each read in the state before that step. -/
def Along (C : σ → ι → Prop) : σ → List ι → Prop
  | _, [] => True
  | s, i :: is => C s i ∧ Along C (step s i) is

/-! ## 2. What one step preserves, a run preserves -/

variable {step} {P : σ → Prop}

theorem run_induction (hstep : ∀ s i, P s → P (step s i)) :
    ∀ (is : List ι) {s : σ}, P s → P (run step s is)
  | [], _, h => h
  | i :: is, s, h => run_induction hstep is (hstep s i h)

/-- A condition on the inputs alone. -/
theorem along_of_forall {C : ι → Prop} :
    ∀ (is : List ι) {s : σ}, (∀ i ∈ is, C i) → Along step (fun _ i => C i) s is
  | [], _, _ => trivial
  | i :: is, _, h =>
    ⟨h i mem_cons_self, along_of_forall is fun j hj => h j (mem_cons_of_mem i hj)⟩

variable {C : σ → ι → Prop}

theorem run_induction_along (hstep : ∀ s i, P s → C s i → P (step s i)) :
    ∀ (is : List ι) {s : σ}, P s → Along step C s is → P (run step s is)
  | [], _, h, _ => h
  | i :: is, s, h, hc => run_induction_along hstep is (hstep s i h hc.1) hc.2

/-- **A relation that every step respects relates the two ends of a run.**  The steps are taken
from states that satisfy the invariant `P`. -/
theorem run_rel {R : σ → σ → Prop} (hrefl : ∀ s, R s s)
    (htrans : ∀ {a b c}, R a b → R b c → R a c) (hinv : ∀ s i, P s → P (step s i))
    (hstep : ∀ s i, P s → R s (step s i)) : ∀ (is : List ι) {s : σ}, P s → R s (run step s is)
  | [], s, _ => hrefl s
  | i :: is, s, h =>
    htrans (hstep s i h) (run_rel hrefl htrans hinv hstep is (hinv s i h))

variable {s : σ}

/-- **No ABA.**  Where every step keeps the view or raises its rank, a view that is the same at both
ends of a run was the same throughout. -/
theorem run_constant {τ β : Type*} [Preorder β] (view : σ → τ) (rank : τ → β)
    (hstep : ∀ s i, view (step s i) = view s ∨ rank (view s) < rank (view (step s i)))
    (is js : List ι) (h : view (run step s (is ++ js)) = view s) :
    view (run step s is) = view s := by
  have hclimbs : ∀ is s, view (run step s is) = view s ∨
      rank (view s) < rank (view (run step s is)) := by
    intro is s
    refine run_rel (P := fun _ => True)
      (R := fun s s' => view s' = view s ∨ rank (view s) < rank (view s'))
      (fun _ => .inl rfl) ?_ (fun _ _ _ => trivial) (fun s i _ => hstep s i) is trivial
    rintro a b c (hab | hab) (hbc | hbc)
    · exact .inl (hbc.trans hab)
    · exact .inr (hab ▸ hbc)
    · exact .inr (hbc ▸ hab)
    · exact .inr (lt_trans hab hbc)
  rcases hclimbs is s with hsame | hrose
  · exact hsame
  -- what has risen stays above, and so the ends would differ
  have hend := hclimbs js (run step s is)
  rw [← run_append, h] at hend
  rcases hend with hback | hback
  · exact hback.symm
  · exact absurd (lt_trans hrose hback) (lt_irrefl _)

variable (step)

/-- `P` holds at every state of the run, both ends included. -/
def Throughout (P : σ → Prop) : σ → List ι → Prop
  | s, [] => P s
  | s, i :: is => P s ∧ Throughout P (step s i) is

variable {step}

theorem Throughout.imp {Q : σ → Prop} (h : ∀ s, P s → Q s) :
    ∀ (is : List ι) {s : σ}, Throughout step P s is → Throughout step Q s is
  | [], s, hs => h s hs
  | _ :: is, s, hs => ⟨h s hs.1, Throughout.imp h is hs.2⟩

variable {D : σ → Prop} (hinv : ∀ s i, P s → P (step s i)) (hstay : ∀ s i, P s → D s → D (step s i))
include hinv hstay

/-- **What lasts to the end never happened before.**  Where nothing leads out of `D` and the run
does not end there, it has not been there. -/
theorem throughout_of_absorbing : ∀ (is : List ι) {s : σ}, P s → ¬ D (run step s is) →
    Throughout step (fun s => P s ∧ ¬ D s) s is
  | [], _, hs, hend => ⟨hs, hend⟩
  | i :: is, s, hs, hend => by
    refine ⟨⟨hs, fun hd => ?_⟩, throughout_of_absorbing is (hinv s i hs) hend⟩
    exact hend (run_induction (P := fun s => P s ∧ D s)
      (fun s i h => ⟨hinv s i h.1, hstay s i h.1 h.2⟩) (i :: is) ⟨hs, hd⟩).2

/-- Nor has a step been taken that leads there. -/
theorem along_of_absorbing (hlead : ∀ s i, P s → C s i → D (step s i)) :
    ∀ (is : List ι) {s : σ}, P s → ¬ D (run step s is) → Along step (fun s i => ¬ C s i) s is
  | [], _, _, _ => trivial
  | i :: is, s, hs, hend => by
    have hrest := throughout_of_absorbing hinv hstay is (hinv s i hs) hend
    have hnext : ¬ D (step s i) := by
      cases is with
      | nil => exact hrest.2
      | cons => exact hrest.1.2
    exact ⟨fun hc => hnext (hlead s i hs hc), along_of_absorbing hlead is (hinv s i hs) hend⟩

omit hinv hstay

theorem along_append : ∀ (is js : List ι) {s : σ},
    Along step C s (is ++ js) ↔ Along step C s is ∧ Along step C (run step s is) js
  | [], _, _ => by simp [Along]
  | i :: is, js, s => by
    rw [cons_append, Along, Along, along_append is js, run_cons, and_assoc]

variable (step)

/-- Some step of the run met `C`, and all the steps after it meet `D`. -/
def Since (C D : σ → ι → Prop) (s : σ) (is : List ι) : Prop :=
  ∃ before i after, is = before ++ i :: after ∧ C (run step s before) i ∧
    Along step D (run step s (before ++ [i])) after

variable {step}

/-- It was the last step, or some step before it, and the last goes on. -/
theorem since_snoc {D : σ → ι → Prop} {is : List ι} {i : ι} : Since step C D s (is ++ [i]) ↔
      C (run step s is) i ∨ Since step C D s is ∧ D (run step s is) i := by
  constructor
  · rintro ⟨before, j, after, hsplit, hmeets, halong⟩
    rcases eq_nil_or_concat after with rfl | ⟨rest, last, rfl⟩
    · obtain ⟨rfl, hlast⟩ := append_inj' hsplit rfl
      cases hlast
      exact .inl hmeets
    rw [concat_eq_append] at hsplit halong
    rw [← cons_append, ← append_assoc] at hsplit
    obtain ⟨rfl, hlast⟩ := append_inj' hsplit rfl
    cases hlast
    rw [along_append, ← run_append, append_assoc] at halong
    exact .inr ⟨⟨before, j, rest, rfl, hmeets, halong.1⟩, halong.2.1⟩
  · rintro (hmeets | ⟨⟨before, j, after, rfl, hmeets, halong⟩, hlast⟩)
    · exact ⟨is, i, [], rfl, hmeets, trivial⟩
    · refine ⟨before, j, after ++ [i], by simp, hmeets, ?_⟩
      rw [along_append, ← run_append, append_assoc]
      exact ⟨halong, hlast, trivial⟩

/-! ## 3. Steps of one kind, counted -/

variable (step)

/-- How many steps of the run meet `C`. -/
def count (C : σ → ι → Prop) [∀ s i, Decidable (C s i)] : σ → List ι → Nat
  | _, [] => 0
  | s, i :: is => (if C s i then 1 else 0) + count C (step s i) is

section

variable {step} [∀ s i, Decidable (C s i)] (hdisabled : ∀ s i, P s → D s → ¬ C s i)
include hinv hstay hdisabled

/-- **Steps that cannot happen are not counted.** -/
theorem count_eq_zero : ∀ (is : List ι) {s : σ}, P s → D s → count step C s is = 0
  | [], _, _, _ => rfl
  | i :: is, s, hp, hd => by
    simp only [count, if_neg (hdisabled s i hp hd), Nat.zero_add]
    exact count_eq_zero is (hinv s i hp) (hstay s i hp hd)

/-- **A kind of step that disables itself for good happens at most once**: a step that meets `C`
leads to `D`, `D` is never left, and no step taken from `D` meets `C`. -/
theorem count_le_one (hdisables : ∀ s i, P s → C s i → D (step s i)) :
    ∀ (is : List ι) {s : σ}, P s → count step C s is ≤ 1
  | [], _, _ => Nat.zero_le 1
  | i :: is, s, hp => by
    simp only [count]
    split
    · rename_i hc
      have hrest : count step C (step s i) is = 0 :=
        count_eq_zero hinv hstay hdisabled is (hinv s i hp) (hdisables s i hp hc)
      omega
    · have := count_le_one hdisables is (hinv s i hp)
      omega

end

/-! ## 4. Goals that some run reaches -/

/-- Some run all of whose steps meet `C` ends where `G` holds. -/
def CanReach (C : σ → ι → Prop) (G : σ → Prop) (s : σ) : Prop :=
  ∃ is, Along step C s is ∧ G (run step s is)

variable {step} {G : σ → Prop}

theorem CanReach.here (h : G s) : CanReach step C G s :=
  ⟨[], trivial, h⟩

theorem CanReach.after (i : ι) (hi : C s i)
    (h : CanReach step C G (step s i)) : CanReach step C G s := by
  obtain ⟨is, halong, hgoal⟩ := h
  exact ⟨i :: is, ⟨hi, halong⟩, hgoal⟩

theorem not_canReach
    (hstep : ∀ s i, P s → C s i → P (step s i)) (hgoal : ∀ s, P s → ¬ G s) (h : P s) :
    ¬ CanReach step C G s := by
  rintro ⟨is, halong, hreached⟩
  exact hgoal _ (run_induction_along hstep is h halong) hreached

/-! ## 5. Loops that count what they have passed -/

/-- By induction on the elements still to come, behind those that have been passed. -/
theorem walk_induction {list : List ι} {Q : Nat → List ι → Prop} (hend : Q list.length [])
    (hnext : ∀ n i rest, list[n]? = some i → Q (n + 1) rest → Q n (i :: rest)) : Q 0 list := by
  have hwalk : ∀ rest passed, list = passed ++ rest → Q passed.length rest := by
    intro rest
    induction rest with
    | nil =>
      rintro passed rfl
      rwa [append_nil] at hend
    | cons i rest ih =>
      intro passed hsplit
      have hrest := ih (passed ++ [i]) (by simp [hsplit])
      rw [length_append] at hrest
      exact hnext _ i rest (by simp [hsplit]) hrest
  exact hwalk list [] rfl

end Base
