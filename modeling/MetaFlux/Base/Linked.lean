/-
# Lists threaded through a table

A queue in shared memory is a start, and in every slot of a table the number of the slot that comes
next; one number stands for none.  `Linked` relates such a start to the list of the slots that are
passed on the way, `follow` computes the list.  The two changes a queue knows are adding a slot
behind the last (`Linked.snoc`) and going on from the first (`Linked.rest`); a change of a link that
the list does not pass leaves it alone (`Linked.congr`).  What any number of them amount to is
`Onward`: some of the first are gone and some have come behind the last.
-/
import Mathlib

namespace Base

open List

variable {next next' : Nat → Nat} {nil : Nat}

/-- From the start, the links lead through the slots of the list and end behind the last. -/
def Linked (next : Nat → Nat) (nil : Nat) : Nat → List Nat → Prop
  | start, [] => start = nil
  | start, slot :: slots => start = slot ∧ slot ≠ nil ∧ Linked next nil (next slot) slots

/-- The slots that are passed from the start on, as far as the fuel goes. -/
def follow (next : Nat → Nat) (nil : Nat) : Nat → Nat → List Nat
  | 0, _ => []
  | fuel + 1, start => if start = nil then [] else start :: follow next nil fuel (next start)

namespace Linked

variable {slots : List Nat}

theorem follow_eq : ∀ {start fuel : Nat}, Linked next nil start slots → slots.length ≤ fuel →
      follow next nil fuel start = slots := by
  induction slots with
  | nil =>
    intro start fuel h _
    cases fuel with
    | zero => rfl
    | succ => exact if_pos h
  | cons _ _ ih =>
    intro start fuel h hfuel
    obtain ⟨rfl, hslot, hrest⟩ := h
    cases fuel with
    | zero => simp at hfuel
    | succ =>
      simp only [follow, if_neg hslot]
      rw [ih hrest (by simpa using hfuel)]

theorem start_nil {start : Nat} (h : Linked next nil start slots) : start = nil ↔ slots = [] := by
  cases slots with
  | nil =>
    have hstart : start = nil := h
    simp [hstart]
  | cons =>
    obtain ⟨rfl, hslot, -⟩ := h
    simp [hslot]

/-- The list of a start that is not `nil` begins with it. -/
theorem rest {start : Nat} (h : Linked next nil start slots) (hstart : start ≠ nil) :
    ∃ rest, slots = start :: rest ∧ Linked next nil (next start) rest := by
  cases slots with
  | nil => exact absurd h hstart
  | cons _ slots =>
    obtain ⟨rfl, -, hrest⟩ := h
    exact ⟨slots, rfl, hrest⟩

theorem congr : ∀ {start : Nat}, Linked next nil start slots →
    (∀ slot ∈ slots, next' slot = next slot) → Linked next' nil start slots := by
  induction slots with
  | nil => exact fun h _ => h
  | cons _ _ ih =>
    intro start h hsame
    obtain ⟨rfl, hslot, hrest⟩ := h
    refine ⟨rfl, hslot, ?_⟩
    rw [hsame start mem_cons_self]
    exact ih hrest fun other hother => hsame other (mem_cons_of_mem _ hother)

/-- **A slot is added behind the last.**  The last of the old slots leads to it, it leads to none,
and the others lead where they led. -/
theorem snoc {slot : Nat} (hslot : slot ≠ nil) (hend : next' slot = nil) :
    ∀ {start : Nat}, Linked next nil start slots → slots.Nodup →
      (∀ last, slots.getLast? = some last → next' last = slot) →
      (∀ other ∈ slots, slots.getLast? ≠ some other → next' other = next other) →
      Linked next' nil (if start = nil then slot else start) (slots ++ [slot]) := by
  induction slots with
  | nil =>
    intro start h _ _ _
    have hstart : start = nil := h
    rw [if_pos hstart]
    exact ⟨rfl, hslot, hend⟩
  | cons _ slots ih =>
    intro start h hnodup hlast hothers
    obtain ⟨rfl, hfirst, hrest⟩ := h
    obtain ⟨hnotin, hnodup⟩ := nodup_cons.1 hnodup
    rw [if_neg hfirst]
    refine ⟨rfl, hfirst, ?_⟩
    cases slots with
    | nil =>
      rw [hlast start rfl]
      exact ⟨rfl, hslot, hend⟩
    | cons =>
      have hnext : next' start = next start := by
        refine hothers start mem_cons_self fun h => hnotin ?_
        exact mem_of_getLast? (by simpa using h)
      have hsecond : next start ≠ nil := by
        obtain ⟨hsecond, hne, -⟩ := hrest
        rwa [hsecond]
      have hstep := ih hrest hnodup (fun last h => hlast last (by simpa using h))
        fun other hother h => hothers other (mem_cons_of_mem _ hother) (by simpa using h)
      rw [if_neg hsecond] at hstep
      rw [hnext]
      exact hstep

end Linked

/-! ## A queue later on -/

variable {α : Type*}

/-- Of the old queue some of the first are gone; what is new stands behind the rest. -/
def Onward (old new : List α) : Prop := ∃ gone added, new = old.drop gone ++ added

namespace Onward

theorem refl (q : List α) : Onward q q := ⟨0, [], by simp⟩

theorem trans {a b c : List α} (h : Onward a b) (h' : Onward b c) : Onward a c := by
  obtain ⟨gone, added, rfl⟩ := h
  obtain ⟨gone', added', rfl⟩ := h'
  refine ⟨gone + gone', added.drop (gone' - (a.drop gone).length) ++ added', ?_⟩
  rw [drop_append, drop_drop, append_assoc]

theorem snoc (q : List α) (x : α) : Onward q (q ++ [x]) := ⟨0, [x], by simp⟩

theorem tail (x : α) (q : List α) : Onward (x :: q) q := ⟨1, [], by simp⟩

end Onward

end Base
