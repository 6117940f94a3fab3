/-
# First fit

Intervals `[offset, offset + size)` that lie one after the other, with gaps between them, are PLACED
(`Placed`).  `firstFit` walks along them and takes the first gap in which an interval of a given
size fits at a multiple of `d`.  It restarts at the end of each interval it passes, so that a start
which was rounded up past that end moves back.

It finds the least place there is (`firstFit_spec`): whatever is rejected at an interval is rejected
for every start up to the interval's end, because the rounded start is the least one and already
meets it.
-/
import Mathlib

namespace Base

open List

/-! ## 1. Multiples -/

/-- The next multiple of `d`. -/
def roundUp (d n : Nat) : Nat := n + if n % d = 0 then 0 else d - n % d

section Multiples

variable {d n : Nat}

theorem le_roundUp : n ≤ roundUp d n := Nat.le_add_right _ _

theorem roundUp_lt (hd : 0 < d) : roundUp d n < n + d := by
  unfold roundUp
  split <;> omega

theorem dvd_roundUp (hd : 0 < d) : d ∣ roundUp d n := by
  have hmod := Nat.mod_lt n hd
  unfold roundUp
  split
  · next hzero => exact Nat.dvd_of_mod_eq_zero hzero
  · refine ⟨n / d + 1, ?_⟩
    have hdiv := Nat.div_add_mod n d
    rw [Nat.mul_add]
    omega

theorem roundUp_of_dvd (h : d ∣ n) : roundUp d n = n := by
  rw [roundUp, if_pos (Nat.mod_eq_zero_of_dvd h), Nat.add_zero]

/-- It is the least multiple that is not below. -/
theorem roundUp_le (hd : 0 < d) {m : Nat} (hdvd : d ∣ m) (hle : n ≤ m) : roundUp d n ≤ m := by
  by_contra hlt
  have hstep : d ∣ roundUp d n - m := Nat.dvd_sub (dvd_roundUp hd) hdvd
  have hsmall := Nat.le_of_dvd (by omega) hstep
  have := roundUp_lt (n := n) hd
  omega

end Multiples

/-! ## 2. Intervals in order -/

/-- The intervals, each with its size, lie one after the other between the two bounds. -/
def Placed (upper : Nat) : Nat → List (Nat × Nat) → Prop
  | lower, [] => lower ≤ upper
  | lower, i :: is => lower ≤ i.1 ∧ Placed upper (i.1 + i.2) is

/-- An interval of this size at this place meets none of them. -/
def Free (size : Nat) (is : List (Nat × Nat)) (offset : Nat) : Prop :=
  ∀ i ∈ is, offset + size ≤ i.1 ∨ i.1 + i.2 ≤ offset

namespace Placed

variable {upper : Nat}

theorem le_upper : ∀ {is : List (Nat × Nat)} {lower : Nat}, Placed upper lower is → lower ≤ upper
  | [], _, h => h
  | i :: is, lower, h => by
    have := le_upper h.2
    have := h.1
    omega

theorem mono : ∀ {is : List (Nat × Nat)} {lower lower' : Nat}, lower' ≤ lower →
    Placed upper lower is →
    Placed upper lower' is
  | [], _, _, hle, h => hle.trans h
  | _ :: _, _, _, hle, h => ⟨hle.trans h.1, h.2⟩

theorem bounds : ∀ {is : List (Nat × Nat)} {lower : Nat}, Placed upper lower is →
    ∀ i ∈ is, lower ≤ i.1 ∧ i.1 + i.2 ≤ upper
  | [], _, _, i, hi => absurd hi not_mem_nil
  | j :: is, lower, h, i, hi => by
    rcases mem_cons.1 hi with rfl | hi
    · exact ⟨h.1, le_upper h.2⟩
    · have := bounds h.2 i hi
      have := h.1
      omega

theorem pairwise : ∀ {is : List (Nat × Nat)} {lower : Nat}, Placed upper lower is →
    is.Pairwise fun i j => i.1 + i.2 ≤ j.1
  | [], _, _ => .nil
  | _ :: _, _, h =>
    pairwise_cons.2 ⟨fun j hj => (bounds h.2 j hj).1, pairwise h.2⟩

/-- Their sizes add up to no more than there is room for. -/
theorem sum_le : ∀ {is : List (Nat × Nat)} {lower : Nat}, Placed upper lower is →
    lower + (is.map Prod.snd).sum ≤ upper
  | [], _, h => by simpa [Placed] using h
  | i :: is, lower, h => by
    have := sum_le h.2
    have := h.1
    rw [map_cons, sum_cons]
    omega

/-- Some may go. -/
theorem sublist {is js : List (Nat × Nat)} (hsub : js.Sublist is) :
    ∀ {lower : Nat}, Placed upper lower is → Placed upper lower js := by
  induction hsub with
  | slnil => exact id
  | cons i _ ih =>
    intro lower h
    exact mono (by have := h.1; omega) (ih h.2)
  | cons_cons i _ ih => exact fun h => ⟨h.1, ih h.2⟩

/-- One more comes, before the first that does not start below it. -/
theorem insert {size offset : Nat} : ∀ {is : List (Nat × Nat)} {lower : Nat},
    Placed upper lower is →
    lower ≤ offset → offset + size ≤ upper → Free size is offset →
    (∀ i ∈ is, 0 < i.2) → Placed upper lower
      (is.takeWhile (fun i => i.1 < offset) ++ (offset, size) :: is.dropWhile fun i => i.1 < offset)
  | [], _, _, hlower, hupper, _, _ => ⟨hlower, hupper⟩
  | i :: is, lower, h, hlower, hupper, hfree, hpos => by
    have hi := hfree i mem_cons_self
    by_cases hbelow : i.1 < offset
    · rw [takeWhile_cons_of_pos (by simpa using hbelow),
        dropWhile_cons_of_pos (by simpa using hbelow)]
      have hfree' : Free size is offset := fun j hj => hfree j (mem_cons_of_mem i hj)
      exact ⟨h.1, insert h.2 (by omega) hupper hfree' fun j hj => hpos j (mem_cons_of_mem i hj)⟩
    · rw [takeWhile_cons_of_neg (by simpa using hbelow),
        dropWhile_cons_of_neg (by simpa using hbelow)]
      -- the next one starts later or at the same place, where it is not free
      have := hpos i mem_cons_self
      refine ⟨hlower, ?_, h.2⟩
      omega

end Placed

/-! ## 3. The walk -/

def firstFit (d size upper : Nat) : Nat → List (Nat × Nat) → Option Nat
  | lower, [] => if roundUp d lower + size ≤ upper then some (roundUp d lower) else none
  | lower, i :: is =>
    if roundUp d lower + size ≤ upper then
      if roundUp d lower + size ≤ i.1 then some (roundUp d lower)
        else firstFit d size upper (i.1 + i.2) is
    else none

/-- A place at which the interval may be put. -/
def Gap (d size upper lower : Nat) (is : List (Nat × Nat)) (offset : Nat) : Prop :=
  lower ≤ offset ∧ d ∣ offset ∧ offset + size ≤ upper ∧ Free size is offset

variable {d size upper : Nat}

theorem gap_cons {lower : Nat} {i : Nat × Nat} (is : List (Nat × Nat)) (hd : 0 < d)
    (hlower : lower ≤ i.1) (hmeets : i.1 < roundUp d lower + size) (offset : Nat) :
    Gap d size upper lower (i :: is) offset ↔ Gap d size upper (i.1 + i.2) is offset := by
  constructor
  · rintro ⟨hle, hdvd, hend, hfree⟩
    have hup := roundUp_le hd hdvd hle
    have hi := hfree i mem_cons_self
    exact ⟨by omega, hdvd, hend, fun j hj => hfree j (mem_cons_of_mem i hj)⟩
  · rintro ⟨hle, hdvd, hend, hfree⟩
    refine ⟨by omega, hdvd, hend, fun j hj => ?_⟩
    rcases mem_cons.1 hj with rfl | hj
    · exact .inr hle
    · exact hfree j hj

/-- The rounded start is a lower bound of the places. -/
theorem Gap.roundUp_le {lower offset : Nat} {is : List (Nat × Nat)} (hd : 0 < d)
    (h : Gap d size upper lower is offset) : roundUp d lower ≤ offset :=
  Base.roundUp_le hd h.2.1 h.1

/-- **First fit finds the least place**, and only if there is none it finds none. -/
theorem firstFit_spec (hd : 0 < d) : ∀ {is : List (Nat × Nat)} {lower : Nat},
    Placed upper lower is →
    (∀ offset, firstFit d size upper lower is = some offset →
      IsLeast {o | Gap d size upper lower is o} offset) ∧
    (firstFit d size upper lower is = none → ∀ offset, ¬ Gap d size upper lower is offset)
  | [], lower, _ => by
    unfold firstFit
    split
    · next hroom =>
      refine ⟨fun offset hsome => ?_, nofun⟩
      cases hsome
      exact ⟨⟨le_roundUp, dvd_roundUp hd, hroom, fun i hi => absurd hi not_mem_nil⟩,
        fun o ho => ho.roundUp_le hd⟩
    · next hfull =>
      refine ⟨fun offset hsome => (nomatch hsome), fun _ offset hgap => ?_⟩
      have := hgap.roundUp_le hd
      have := hgap.2.2.1
      omega
  | i :: is, lower, h => by
    unfold firstFit
    split
    · next hroom =>
      split
      · next hbefore =>
        refine ⟨fun offset hsome => ?_, nofun⟩
        cases hsome
        refine ⟨⟨le_roundUp, dvd_roundUp hd, hroom, fun j hj => ?_⟩, fun o ho => ho.roundUp_le hd⟩
        -- the later ones start even later
        rcases mem_cons.1 hj with rfl | hj
        · exact .inl hbefore
        · have := (h.2.bounds j hj).1
          exact .inl (by omega)
      · next hmeets =>
        have ih := firstFit_spec hd h.2
        have hiff : ∀ o, Gap d size upper lower (i :: is) o ↔ Gap d size upper (i.1 + i.2) is o :=
          gap_cons is hd h.1 (not_le.1 hmeets)
        refine ⟨fun offset hsome => ?_,
          fun hnone offset hgap => ih.2 hnone offset ((hiff offset).1 hgap)⟩
        simpa only [hiff] using ih.1 offset hsome
    · next hfull =>
      refine ⟨fun offset hsome => (nomatch hsome), fun _ offset hgap => ?_⟩
      have := hgap.roundUp_le hd
      have := hgap.2.2.1
      omega

end Base
