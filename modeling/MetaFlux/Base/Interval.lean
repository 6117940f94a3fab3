/-
# Intervals handed out in order, and the values used from them

An allocator that hands out intervals of natural numbers one after the other leaves a STACK of them
(`Stacked`): each starts right above the one before, the first right above a bottom, and the last
ends at the top.  Disjointness and consecutiveness are read off that one predicate.

A consumer that uses values in increasing order leaves a list of them, newest first.  Of an interval
it is done with, what lies above the newest value used in it was never used (`unusedSuffix`); values
used elsewhere do not change that (`unusedSuffix_cons`), and no value ever used lies in it
(`not_mem_unusedSuffix`).
-/
import Mathlib

namespace Base

open List

/-! ## 1. Stacked intervals -/

/-- The intervals, newest first, fill `(bottom, top]` without gap or overlap. -/
def Stacked (bottom : Nat) : Nat → List (Nat × Nat) → Prop
  | top, [] => top = bottom
  | top, i :: is => i.2 = top ∧ i.1 ≤ i.2 ∧ 0 < i.1 ∧ Stacked bottom (i.1 - 1) is

variable {i : Nat × Nat}

namespace Stacked

variable {bottom : Nat}

theorem bottom_le : ∀ {is : List (Nat × Nat)} {top : Nat}, Stacked bottom top is → bottom ≤ top
  | [], _, h => h.symm.le
  | i :: is, top, h => by
    obtain ⟨htop, hle, hpos, hrest⟩ := h
    have := bottom_le hrest
    omega

/-- An interval of the stack lies between its bottom and its top. -/
theorem bounds : ∀ {is : List (Nat × Nat)} {top : Nat}, Stacked bottom top is →
    ∀ i ∈ is, bottom < i.1 ∧ i.1 ≤ i.2 ∧ i.2 ≤ top
  | [], _, _, i, hi => absurd hi not_mem_nil
  | j :: is, top, h, i, hi => by
    obtain ⟨htop, hle, hpos, hrest⟩ := h
    have hbottom := bottom_le hrest
    rcases mem_cons.1 hi with rfl | hi
    · omega
    · have := bounds hrest i hi
      omega

/-- The next interval starts right above the top. -/
theorem push {top : Nat} {is : List (Nat × Nat)} (h : Stacked bottom top is)
    (hbegin : i.1 = top + 1) (hle : i.1 ≤ i.2) : Stacked bottom i.2 (i :: is) := by
  refine ⟨rfl, hle, by omega, ?_⟩
  rw [hbegin]
  exact h

/-- The oldest interval goes, and its end is the new bottom. -/
theorem pop : ∀ {is : List (Nat × Nat)} {top : Nat},
    Stacked bottom top (is ++ [i]) → Stacked i.2 top is
  | [], top, h => h.1.symm
  | j :: is, top, h => by
    obtain ⟨htop, hle, hpos, hrest⟩ := h
    exact ⟨htop, hle, hpos, pop hrest⟩

theorem disjoint : ∀ {is : List (Nat × Nat)} {top : Nat}, Stacked bottom top is →
    is.Pairwise fun newer older => older.2 < newer.1
  | [], _, _ => .nil
  | i :: is, top, h => by
    obtain ⟨htop, hle, hpos, hrest⟩ := h
    refine pairwise_cons.2 ⟨fun j hj => ?_, disjoint hrest⟩
    have := bounds hrest j hj
    omega

theorem consecutive : ∀ {is : List (Nat × Nat)} {top : Nat}, Stacked bottom top is →
    is.IsChain fun newer older => older.2 + 1 = newer.1
  | [], _, _ => .nil
  | [i], _, _ => .singleton i
  | i :: j :: is, top, h => by
    obtain ⟨-, -, hpos, hrest⟩ := h
    have hj : j.2 = i.1 - 1 := hrest.1
    refine .cons_cons ?_ (consecutive hrest)
    omega

end Stacked

/-! ## 2. Values used from an interval -/

/-- The newest of the values that lies in the interval. -/
def newestIn (i : Nat × Nat) (values : List Nat) : Option Nat :=
  values.find? fun v => i.1 ≤ v ∧ v ≤ i.2

/-- What is left of the interval above the newest value used in it, `(0, 0)` if nothing is. -/
def unusedSuffix (i : Nat × Nat) (values : List Nat) : Nat × Nat :=
  match newestIn i values with
  | none => i
  | some v => if v < i.2 then (v + 1, i.2) else (0, 0)

variable {values : List Nat}

/-- A value used elsewhere leaves the suffix as it was. -/
theorem unusedSuffix_cons {v : Nat}
    (h : ¬ (i.1 ≤ v ∧ v ≤ i.2)) : unusedSuffix i (v :: values) = unusedSuffix i values := by
  have hsame : newestIn i (v :: values) = newestIn i values := by
    unfold newestIn
    rw [find?_cons_of_neg (by simpa using h)]
  unfold unusedSuffix
  rw [hsame]

/-- **The suffix is read off the newest value of all**, as long as that value has not passed the
interval: with `bottom` standing for it before any value was used. -/
theorem unusedSuffix_of_newest {bottom cursor : Nat}
    (hdesc : values.Pairwise (· > ·)) (hcursor : cursor = values.head?.getD bottom)
    (hbottom : bottom < i.1) (hle : cursor ≤ i.2) : unusedSuffix i values =
      if cursor < i.1 then i else if cursor < i.2 then (cursor + 1, i.2) else (0, 0) := by
  cases values with
  | nil =>
    have hc : cursor = bottom := hcursor
    rw [if_pos (by omega)]
    rfl
  | cons v vs =>
    have hc : cursor = v := hcursor
    subst hc
    by_cases hbelow : cursor < i.1
    · have hnone : newestIn i (cursor :: vs) = none := by
        refine find?_eq_none.2 fun w hw => ?_
        have hw' : w ≤ cursor := by
          rcases mem_cons.1 hw with rfl | hw
          · exact .refl
          · exact le_of_lt ((pairwise_cons.1 hdesc).1 w hw)
        simp only [decide_eq_true_eq]
        omega
      rw [if_pos hbelow, unusedSuffix, hnone]
    · have hsome : newestIn i (cursor :: vs) = some cursor :=
        find?_cons_of_pos (by simp only [decide_eq_true_eq]; omega)
      rw [if_neg hbelow, unusedSuffix, hsome]

/-- **No value ever used lies in the suffix.** -/
theorem not_mem_unusedSuffix
    (hdesc : values.Pairwise (· > ·)) {v : Nat} (hv : v ∈ values) (hpos : 0 < v) :
    ¬ ((unusedSuffix i values).1 ≤ v ∧ v ≤ (unusedSuffix i values).2) := by
  rintro ⟨hlow, hhigh⟩
  unfold unusedSuffix at hlow hhigh
  cases hnewest : newestIn i values with
  | none =>
    rw [hnewest] at hlow hhigh
    have := find?_eq_none.1 hnewest v hv
    exact this (by simpa using ⟨hlow, hhigh⟩)
  | some w =>
    rw [hnewest] at hlow hhigh
    obtain ⟨hw, newer, older, hsplit, hnewer⟩ := find?_eq_some_iff_append.1 hnewest
    simp only [decide_eq_true_eq] at hw
    by_cases hlast : w < i.2
    · simp only [if_pos hlast] at hlow hhigh
      -- a value of the interval above the newest one would have been found before it
      rw [hsplit] at hv hdesc
      rcases mem_append.1 hv with hv | hv
      · have := hnewer v hv
        simp only [Bool.not_eq_true', decide_eq_false_iff_not] at this
        omega
      · have holder := (pairwise_cons.1 (pairwise_append.1 hdesc).2.1).1
        rcases mem_cons.1 hv with rfl | hv
        · omega
        · have := holder v hv
          omega
    · simp only [if_neg hlast] at hhigh
      omega

/-! ## 3. Regions placed one after the other -/

/-- Regions of the given sizes, each starting where the one before ends, as offset and size. -/
def place : Nat → List Nat → List (Nat × Nat)
  | _, [] => []
  | offset, size :: sizes => (offset, size) :: place (offset + size) sizes

/-- Where the last of them ends. -/
def placeEnd (offset : Nat) (sizes : List Nat) : Nat := sizes.foldl (· + ·) offset

theorem le_placeEnd : ∀ (sizes : List Nat) (offset : Nat), offset ≤ placeEnd offset sizes
  | [], _ => .refl
  | size :: sizes, offset =>
    le_trans (Nat.le_add_right offset size) (le_placeEnd sizes (offset + size))

theorem place_bounds : ∀ (sizes : List Nat) (offset : Nat),
    ∀ region ∈ place offset sizes, offset ≤ region.1 ∧ region.1 + region.2 ≤ placeEnd offset sizes
  | [], _, region, hmem => absurd hmem not_mem_nil
  | size :: sizes, offset, region, hmem => by
    rcases mem_cons.1 hmem with rfl | hrest
    · exact ⟨.refl, le_placeEnd sizes (offset + size)⟩
    · obtain ⟨hbegin, hend⟩ := place_bounds sizes (offset + size) region hrest
      exact ⟨by omega, hend⟩

/-- No two regions overlap. -/
theorem place_disjoint : ∀ (sizes : List Nat) (offset : Nat),
    (place offset sizes).Pairwise fun a b => a.1 + a.2 ≤ b.1
  | [], _ => .nil
  | size :: sizes, offset => by
    refine pairwise_cons.2 ⟨fun region hmem => ?_, place_disjoint sizes (offset + size)⟩
    exact (place_bounds sizes (offset + size) region hmem).1

/-- Sizes that are multiples of an alignment keep it. -/
theorem place_aligned {unit : Nat} : ∀ (sizes : List Nat) {offset : Nat}, unit ∣ offset →
    (∀ size ∈ sizes, unit ∣ size) → ∀ region ∈ place offset sizes, unit ∣ region.1
  | [], _, _, _, region, hmem => absurd hmem not_mem_nil
  | size :: sizes, offset, hoff, hsizes, region, hmem => by
    rcases mem_cons.1 hmem with rfl | hrest
    · exact hoff
    · exact place_aligned sizes (Nat.dvd_add hoff (hsizes size mem_cons_self))
        (fun size hsize => hsizes size (mem_cons_of_mem _ hsize)) region hrest

end Base
