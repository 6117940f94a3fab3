/-
# Append-only tables of bounded size

A fixed array filled from the front is a list whose length never passes the array's size.  `Table`
carries that bound as a field, so a table with too many rows cannot be built; `push` writes the
next row when there is ROOM and otherwise leaves the table alone, the way a guarded array write
does.  Rows are never removed (`mem_push_of_mem`), so a row once written stays.
-/
import Mathlib

namespace Base

/-- At most `capacity` rows, in the order they were written. -/
structure Table (α : Type*) (capacity : Nat) where
  rows : List α
  length_le : rows.length ≤ capacity
deriving DecidableEq

namespace Table

variable {α : Type*} {capacity : Nat}

instance : Membership α (Table α capacity) := ⟨fun t a => a ∈ t.rows⟩

variable {t : Table α capacity} {a b : α}

theorem mem_def : a ∈ t ↔ a ∈ t.rows := Iff.rfl

/-- The table no row of which has been written. -/
def empty : Table α capacity := ⟨[], Nat.zero_le capacity⟩

/-- Some row is still unwritten. -/
def Room (t : Table α capacity) : Prop := t.rows.length < capacity
deriving Decidable

/-- Write the next row, if there is one. -/
def push (t : Table α capacity) (a : α) : Table α capacity :=
  if h : t.Room then ⟨t.rows ++ [a], by rw [List.length_append]; exact h⟩ else t

@[simp] theorem rows_empty : (empty : Table α capacity).rows = [] := rfl

theorem rows_push (h : t.Room) (a : α) : (t.push a).rows = t.rows ++ [a] := by
  simp [push, h]

theorem push_of_full (h : ¬ t.Room) (a : α) : t.push a = t := by
  simp [push, h]

theorem mem_push (h : t.Room) : b ∈ t.push a ↔ b ∈ t ∨ b = a := by
  simp [mem_def, rows_push h]

theorem mem_push_of_mem (h : b ∈ t) : b ∈ t.push a := by
  by_cases hr : t.Room
  · exact (mem_push hr).2 (.inl h)
  · rwa [push_of_full hr]

theorem eq_or_mem_of_mem_push (h : b ∈ t.push a) : b ∈ t ∨ b = a := by
  by_cases hr : t.Room
  · exact (mem_push hr).1 h
  · rw [push_of_full hr] at h
    exact .inl h

end Table

end Base
