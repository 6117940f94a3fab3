/-
# Tables of tagged slots

Records that several parties share live in fixed tables inside a larger state.  Every record stands
under a CONTROL WORD: a tag, a state and one more number.  A slot whose record is done with is taken
over by writing the NEXT TAG into its word, so whoever still remembers the old tag finds that it has
lost the slot; tags are never reused, and a slot whose tags are used up is left alone (`search`).

`Slots` says where a table stands in the state.  The operations are the ones a record admits: read a
cell, store or exchange its word, fill in its payload, take over a slot, and hold a reference to it
for as long as a program runs (`guarded`).  Each comes with its rule of pre- and postconditions.
-/
import MetaFlux.Base.Program

namespace Base

structure Tagged (α : Type) where
  tag : Nat
  state : α
  auxiliary : Nat
deriving DecidableEq, Repr

/-- A record under its control word, and how many parties refer to it. -/
structure Cell (α ρ : Type) where
  word : Tagged α
  holders : Nat := 0
  hazards : Nat := 0
  payload : ρ

namespace Cell

variable {α ρ : Type}

def setWord (c : Cell α ρ) (word : Tagged α) : Cell α ρ := { c with word }

def setPayload (c : Cell α ρ) (payload : ρ) : Cell α ρ := { c with payload }

def hold (c : Cell α ρ) : Cell α ρ := { c with hazards := c.hazards + 1 }

def drop (c : Cell α ρ) : Cell α ρ := { c with hazards := c.hazards - 1 }

end Cell

/-- Where a table stands in the state. -/
structure Slots (σ α ρ : Type) where
  read : σ → Nat → Cell α ρ
  write : σ → (Nat → Cell α ρ) → σ
  read_write : ∀ s cells, read (write s cells) = cells := by intros; rfl
  write_read : ∀ s, write s (read s) = s := by intros; rfl
  write_write : ∀ s cells cells', write (write s cells) cells' = write s cells' := by intros; rfl

namespace Slots

variable {σ α ρ β : Type} (t : Slots σ α ρ) (i : Nat) (word : Tagged α) (c : Cell α ρ) (s : σ)

/-! ## 1. One cell -/

def put (i : Nat) (c : Cell α ρ) (s : σ) : σ := t.write s (Function.update (t.read s) i c)

@[simp] theorem read_put :
    t.read (t.put i c s) = Function.update (t.read s) i c := t.read_write s _

theorem read_put_self : t.read (t.put i c s) i = c := by
  rw [read_put, Function.update_self]

theorem read_put_of_ne {i j : Nat} (h : j ≠ i) (c : Cell α ρ) (s : σ) :
    t.read (t.put i c s) j = t.read s j := by
  rw [read_put, Function.update_of_ne h]

def restate (i : Nat) (word : Tagged α) (s : σ) : σ := t.put i ((t.read s i).setWord word) s

def amend (i : Nat) (f : ρ → ρ) (s : σ) : σ :=
  t.put i ((t.read s i).setPayload (f (t.read s i).payload)) s

@[simp] theorem restate_word :
    (t.read (t.restate i word s) i).word = word := by
  rw [restate, read_put_self, Cell.setWord]

@[simp] theorem restate_payload :
    (t.read (t.restate i word s) i).payload = (t.read s i).payload := by
  rw [restate, read_put_self, Cell.setWord]

@[simp] theorem amend_word (f : ρ → ρ) :
    (t.read (t.amend i f s) i).word = (t.read s i).word := by
  rw [amend, read_put_self, Cell.setPayload]

/-! ## 2. The operations -/

def cell (i : Nat) : StateM σ (Cell α ρ) := do
  return t.read (← get) i

def store (i : Nat) (word : Tagged α) : StateM σ Unit :=
  modify (t.restate i word)

def fill (i : Nat) (f : ρ → ρ) : StateM σ Unit :=
  modify (t.amend i f)

/-- The word is replaced if it is the one expected; otherwise the answer is the one that was found.
-/
def exchange [DecidableEq α] (i : Nat) (expected desired : Tagged α) :
    StateM σ (Option (Tagged α)) := do
  let c ← t.cell i
  if c.word = expected then
    t.store i desired
    return none
  return some c.word

/-- A reference to the slot is held while the body runs, unless there are too many of them. -/
def guarded (limit i : Nat) (refused : β) (body : StateM σ β) : StateM σ β := do
  let c ← t.cell i
  if c.hazards = limit then
    return refused
  modify fun s => t.put i (t.read s i).hold s
  let answer ← body
  modify fun s => t.put i (t.read s i).drop s
  return answer

/-- Some slot may be taken over: its record is done with and nobody refers to it. -/
def Claimable (reusable : α → Bool) (c : Cell α ρ) : Prop :=
  reusable c.word.state = true ∧ c.holders = 0 ∧ c.hazards = 0
deriving Decidable

/-- The first slot that may be taken over and still has a tag below the limit, with its next tag.
The error says whether a slot was passed over for its tag. -/
def search (limit : Nat) (reusable : α → Bool) (cells : Nat → Cell α ρ) :
    Bool → List Nat → Except Bool (Nat × Nat)
  | exhausted, [] => .error exhausted
  | exhausted, i :: rest =>
    if Claimable reusable (cells i) then
      if (cells i).word.tag < limit then .ok (i, (cells i).word.tag + 1)
      else search limit reusable cells true rest
    else search limit reusable cells exhausted rest

theorem exchange_run [DecidableEq α] (expected desired : Tagged α) :
    (t.exchange i expected desired).run s =
      if (t.read s i).word = expected then (none, t.restate i desired s)
      else (some (t.read s i).word, s) := by
  simp only [exchange, cell, StateT.run_bind, StateT.run_get, pure_bind, StateT.run_pure]
  split <;> rfl

theorem guarded_run (limit : Nat) (refused : β) (body : StateM σ β) :
    (t.guarded limit i refused body).run s =
      if (t.read s i).hazards = limit then (refused, s)
      else
        let answered := body.run (t.put i (t.read s i).hold s)
        (answered.1, t.put i (t.read answered.2 i).drop answered.2) := by
  simp only [guarded, cell, StateT.run_bind, StateT.run_get, pure_bind, StateT.run_pure]
  split <;> rfl

variable {t}

/-- **What is found may be taken over.** -/
theorem search_ok {limit : Nat} {reusable : α → Bool} {cells : Nat → Cell α ρ} {i tag : Nat} :
    ∀ {slots : List Nat} {exhausted : Bool},
      search limit reusable cells exhausted slots = .ok (i, tag) →
      i ∈ slots ∧ Claimable reusable (cells i) ∧ (cells i).word.tag < limit ∧
        tag = (cells i).word.tag + 1
  | [], _, h => by simp [search] at h
  | j :: rest, exhausted, h => by
    unfold search at h
    split_ifs at h with hclaim hlimit
    · cases h
      exact ⟨List.mem_cons_self, hclaim, hlimit, rfl⟩
    · obtain ⟨hmem, hrest⟩ := search_ok h
      exact ⟨List.mem_cons_of_mem j hmem, hrest⟩
    · obtain ⟨hmem, hrest⟩ := search_ok h
      exact ⟨List.mem_cons_of_mem j hmem, hrest⟩

end Slots

/-! ## 3. Rules -/

namespace Triple

variable {σ α ρ β : Type} {t : Slots σ α ρ} {R : σ → σ → Prop} [IsPreorder σ R] {P : σ → Prop}

theorem cell {i : Nat} {Q : Cell α ρ → σ → Prop} (h : ∀ s, P s → Q (t.read s i) s) :
    Triple R P (t.cell i) Q := fun s hs => ⟨Std.Refl.refl s, h s hs⟩

theorem exchange [DecidableEq α] {i : Nat} {expected desired : Tagged α}
    {Q : Option (Tagged α) → σ → Prop}
    (hyes : ∀ s, P s → (t.read s i).word = expected →
      R s (t.restate i desired s) ∧ Q none (t.restate i desired s))
    (hno : ∀ s, P s → (t.read s i).word ≠ expected → Q (some (t.read s i).word) s) :
    Triple R P (t.exchange i expected desired) Q := by
  intro s hs
  by_cases hword : (t.read s i).word = expected
  · rw [Slots.exchange_run, if_pos hword]
    exact hyes s hs hword
  · rw [Slots.exchange_run, if_neg hword]
    exact ⟨Std.Refl.refl s, hno s hs hword⟩

/-- While the body runs the reference is held.  What the body does in between must make a step of
`R` together with taking the reference and giving it back. -/
theorem guarded {limit i : Nat} {refused : β} {body : StateM σ β} {H : σ → Prop}
    {Q E : β → σ → Prop}
    (hbracket : ∀ s s', R (t.put i (t.read s i).hold s) s' → R s (t.put i (t.read s' i).drop s'))
    (hrefused : ∀ s, P s → (t.read s i).hazards = limit → Q refused s)
    (hhold : ∀ s, P s → H (t.put i (t.read s i).hold s)) (hbody : Triple R H body E)
    (hdrop : ∀ a s, E a s → Q a (t.put i (t.read s i).drop s)) :
    Triple R P (t.guarded limit i refused body) Q := by
  intro s hs
  by_cases hfull : (t.read s i).hazards = limit
  · rw [Slots.guarded_run, if_pos hfull]
    exact ⟨Std.Refl.refl s, hrefused s hs hfull⟩
  · rw [Slots.guarded_run, if_neg hfull]
    obtain ⟨hrun, hafter⟩ := hbody _ (hhold s hs)
    exact ⟨hbracket _ _ hrun, hdrop _ _ hafter⟩

end Triple

namespace Respects

variable {σ α ρ β : Type} {t : Slots σ α ρ} {R : σ → σ → Prop} [IsPreorder σ R]

theorem cell (i : Nat) : Respects R (t.cell i) := Std.Refl.refl

theorem exchange [DecidableEq α] {i : Nat} {expected desired : Tagged α}
    (h : ∀ s, (t.read s i).word = expected → R s (t.restate i desired s)) :
    Respects R (t.exchange i expected desired) :=
  (Triple.exchange (Q := fun _ _ => True)
    (fun s _ hword => ⟨h s hword, trivial⟩) fun _ _ _ => trivial).respects

theorem guarded {limit i : Nat} {refused : β} {body : StateM σ β}
    (hbracket : ∀ s s', R (t.put i (t.read s i).hold s) s' → R s (t.put i (t.read s' i).drop s'))
    (hbody : Respects R body) : Respects R (t.guarded limit i refused body) := by
  have htriple : Triple R (fun _ => True) (t.guarded limit i refused body) fun _ _ => True := by
    refine Triple.guarded hbracket ?_ ?_ (hbody.triple (P := fun _ => True)) ?_
    all_goals intros; trivial
  exact htriple.respects

end Respects

end Base
