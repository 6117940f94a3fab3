/-
# Readers and writers

A READER takes items off the front of a list, or fails with an error; a WRITER is a list for each
value.  `Reads` says that a reader is the inverse of a writer, from both sides: what was written is
read, whatever comes after it, and what is read was written.  The rules below put readers together
the way such code does, field by field and item by item, so that a format is inverted along its
definition.

Writers with a limit are here as well (`Emits`): they fail as a whole when the text they make does
not fit, however they come by it.  Numbers of a fixed width are little-endian.
-/
import Mathlib

namespace Base

open List

/-! ## 1. Numbers of a fixed width -/

/-- The lowest `width` digits of a number to the base 256, the lowest first. -/
def fixed : Nat → Nat → List UInt8
  | 0, _ => []
  | width + 1, number => UInt8.ofNat number :: fixed width (number / 256)

def unsigned : List UInt8 → Nat
  | [] => 0
  | byte :: bytes => byte.toNat + 256 * unsigned bytes

@[simp] theorem fixed_length : ∀ width number, (fixed width number).length = width
  | 0, _ => rfl
  | width + 1, number => by rw [fixed, length_cons, fixed_length width]

theorem unsigned_fixed : ∀ {width number : Nat}, number < 256 ^ width →
    unsigned (fixed width number) = number
  | 0, number, h => by
    rw [fixed, unsigned]
    omega
  | width + 1, number, h => by
    have hrest : number / 256 < 256 ^ width := by
      omega
    rw [fixed, unsigned, unsigned_fixed hrest, UInt8.toNat_ofNat']
    omega

theorem unsigned_lt : ∀ bytes, unsigned bytes < 256 ^ bytes.length
  | [] => by simp [unsigned]
  | byte :: bytes => by
    have hbyte := byte.toNat_lt
    have hrest := unsigned_lt bytes
    rw [unsigned, length_cons, Nat.pow_succ]
    omega

theorem fixed_unsigned : ∀ bytes, fixed bytes.length (unsigned bytes) = bytes
  | [] => rfl
  | byte :: bytes => by
    have hbyte := byte.toNat_lt
    have hquotient : unsigned (byte :: bytes) / 256 = unsigned bytes := by
      rw [unsigned]
      omega
    have hdigit : UInt8.ofNat (unsigned (byte :: bytes)) = byte := by
      refine UInt8.toNat_inj.1 ?_
      rw [UInt8.toNat_ofNat', unsigned]
      omega
    rw [length_cons, fixed, hquotient, hdigit, fixed_unsigned bytes]

/-! ## 2. Readers -/

/-- A reader takes items off the front of a list, or fails with an error. -/
abbrev Reader (ε τ α : Type) := StateT (List τ) (Except ε) α

variable {ε τ α β : Type} {b : β} {f : α → Reader ε τ β} {input rest : List τ} {a : α} {c : Prop}
  {x : Except ε (β × List τ)} {o : Option α} {r : Nat → Reader ε τ α}

namespace Reader

/-- What a reader says by itself is the default error; `labelled` puts another in its place. -/
def fail [Inhabited ε] : Reader ε τ α := fun _ => .error default

def labelled (error : ε) (r : Reader ε τ α) : Reader ε τ α := fun input =>
  match r input with
  | .ok result => .ok result
  | .error _ => .error error

/-- The next item. -/
def item [Inhabited ε] : Reader ε τ τ := fun input =>
  match input with
  | [] => .error default
  | i :: rest => .ok (i, rest)

/-- The next `width` items. -/
def items [Inhabited ε] (width : Nat) : Reader ε τ (List τ) := fun input =>
  if width ≤ input.length then .ok (input.take width, input.drop width) else .error default

/-- Nothing is left. -/
def finished [Inhabited ε] : Reader ε τ Unit := fun input =>
  match input with
  | [] => .ok ((), [])
  | _ :: _ => .error default

def check [Inhabited ε] (c : Prop) [Decidable c] : Reader ε τ Unit := fun input =>
  if c then .ok ((), input) else .error default

def ofOption [Inhabited ε] : Option α → Reader ε τ α
  | none => fail
  | some a => pure a

/-- The same reader again and again, each time told how often before. -/
def timesFrom (r : Nat → Reader ε τ α) (start : Nat) : Nat → Reader ε τ (List α)
  | 0 => pure []
  | n + 1 => do
    let a ← r start
    let as ← timesFrom r (start + 1) n
    return a :: as

def times (r : Reader ε τ α) (n : Nat) : Reader ε τ (List α) := timesFrom (fun _ => r) 0 n

theorem run_bind_eq_ok {r : Reader ε τ α} : (r >>= f).run input = .ok (b, rest) ↔
      ∃ a middle, r.run input = .ok (a, middle) ∧ (f a).run middle = .ok (b, rest) := by
  rw [StateT.run_bind]
  cases h : r.run input with
  | error => simp [Bind.bind, Except.bind]
  | ok pair =>
    obtain ⟨a, middle⟩ := pair
    simp [Bind.bind, Except.bind]

theorem run_pure_eq_ok {b : α} :
    (pure a : Reader ε τ α).run input = .ok (b, rest) ↔ b = a ∧ rest = input := by
  change Except.ok (a, input) = .ok (b, rest) ↔ _
  simp [eq_comm]

section Checks

variable [Inhabited ε] {f : Unit → Reader ε τ β}

/-- A check that holds, and the rest. -/
theorem check_step [Decidable c] (h : c)
    (hrest : (f ()).run input = x) : (check c >>= f).run input = x := by
  change ((if c then .ok ((), input) else .error default : Except ε _).bind
    fun p => (f p.1).run p.2) = x
  rw [if_pos h]
  exact hrest

theorem check_inv [Decidable c]
    (hrun : (check c >>= f).run input = .ok (b, rest)) : c ∧ (f ()).run input = .ok (b, rest) := by
  change ((if c then .ok ((), input) else .error default : Except ε _).bind
    fun p => (f p.1).run p.2) = _ at hrun
  split_ifs at hrun with hc
  · exact ⟨hc, hrun⟩
  · cases hrun

theorem finished_inv (hrun : (finished >>= f).run input = .ok (b, rest)) :
    input = [] ∧ (f ()).run [] = .ok (b, rest) := by
  cases input with
  | nil => exact ⟨rfl, hrun⟩
  | cons => cases hrun

theorem run_ofOption_eq_ok :
    (ofOption o : Reader ε τ α).run input = .ok (a, rest) ↔ o = some a ∧ rest = input := by
  cases o with
  | none => simp [ofOption, fail, StateT.run]
  | some =>
    rw [ofOption, run_pure_eq_ok]
    simp [eq_comm]

end Checks

end Reader

open Reader

/-- **The reader is the inverse of the writer**, on the values that are valid. -/
structure Reads (r : Reader ε τ α) (w : α → List τ) (Valid : α → Prop) : Prop where
  complete : ∀ {a}, Valid a → ∀ rest, r.run (w a ++ rest) = .ok (a, rest)
  sound : ∀ {input a rest}, r.run input = .ok (a, rest) → Valid a ∧ input = w a ++ rest

namespace Reads

variable {w : α → List τ} {Valid : α → Prop}

section

variable {r : Reader ε τ α} (h : Reads r w Valid)

include h

/-- Something that was written, and then the rest. -/
theorem step (ha : Valid a) (hrest : (f a).run rest = x) : (r >>= f).run (w a ++ rest) = x := by
  rw [StateT.run_bind, h.complete ha]
  exact hrest

/-- What was read first, and the rest. -/
theorem inv (hrun : (r >>= f).run input = .ok (b, rest)) :
    ∃ a middle, Valid a ∧ input = w a ++ middle ∧ (f a).run middle = .ok (b, rest) := by
  obtain ⟨a, middle, hfirst, hafter⟩ := run_bind_eq_ok.1 hrun
  obtain ⟨hvalid, hinput⟩ := h.sound hfirst
  exact ⟨a, middle, hvalid, hinput, hafter⟩

/-- A value is read as another from which it can be told. -/
theorem map {f : α → β} {g : β → α} (hfg : ∀ b, f (g b) = b)
    (hgf : ∀ a, Valid a → g (f a) = a) : Reads (f <$> r) (fun b => w (g b)) fun b =>
    Valid (g b) where
  complete := by
    intro b hb rest
    rw [StateT.run_map, h.complete hb]
    change Except.ok (f (g b), rest) = _
    rw [hfg]
  sound := by
    intro input b rest hrun
    rw [map_eq_pure_bind, run_bind_eq_ok] at hrun
    obtain ⟨a, middle, hfirst, hend⟩ := hrun
    obtain ⟨rfl, rfl⟩ := run_pure_eq_ok.1 hend
    obtain ⟨hvalid, hinput⟩ := h.sound hfirst
    rw [hgf a hvalid]
    exact ⟨hvalid, hinput⟩

/-- A value of two parts is read part by part. -/
theorem pair {s : Reader ε τ β} {w' : β → List τ} {V : β → Prop} (hs : Reads s w' V)
    (hfirst : ∀ a, Valid a) (hsecond : ∀ b, V b) {f : α → β → γ} (g : γ → α) (k : γ → β)
    (hmade : ∀ c, f (g c) (k c) = c) (hparts : ∀ a b, g (f a b) = a ∧ k (f a b) = b) :
    Reads (do let a ← r; let b ← s; pure (f a b)) (fun c => w (g c) ++ w' (k c)) fun _ => True where
  complete := by
    intro c _ rest
    rw [append_assoc]
    refine h.step (hfirst _) (hs.step (hsecond _) ?_)
    rw [hmade]
    rfl
  sound := by
    intro input c rest hrun
    obtain ⟨a, middle, -, rfl, ha⟩ := h.inv hrun
    obtain ⟨b, last, -, rfl, hb⟩ := hs.inv ha
    obtain ⟨rfl, rfl⟩ := run_pure_eq_ok.1 hb
    rw [(hparts a b).1, (hparts a b).2, append_assoc]
    exact ⟨trivial, rfl⟩

end

/-- **Item by item.** -/
theorem timesFrom (h : ∀ i, Reads (r i) w Valid) :
    ∀ n start, Reads (Reader.timesFrom r start n) (fun as => as.flatMap w)
      fun as => as.length = n ∧ ∀ a ∈ as, Valid a
  | 0, _ => by
    refine ⟨fun {as} has rest => ?_, fun {input as rest} hrun => ?_⟩
    · rw [length_eq_zero_iff.1 has.1]
      rfl
    · obtain ⟨rfl, rfl⟩ := run_pure_eq_ok.1 hrun
      simp
  | n + 1, start => by
    have ih := timesFrom h n (start + 1)
    refine ⟨fun {as} has rest => ?_, fun {input as rest} hrun => ?_⟩
    · cases as with
      | nil => cases has.1
      | cons a as =>
        have hrest : as.length = n ∧ ∀ a ∈ as, Valid a :=
          ⟨Nat.succ.inj has.1, fun b hb => has.2 b (mem_cons_of_mem a hb)⟩
        rw [flatMap_cons, append_assoc]
        exact (h start).step (has.2 a mem_cons_self) (ih.step hrest rfl)
    · obtain ⟨a, middle, hvalid, rfl, hafter⟩ := (h start).inv hrun
      obtain ⟨as', last, ⟨hlen, hall⟩, rfl, hend⟩ := ih.inv hafter
      obtain ⟨rfl, rfl⟩ := run_pure_eq_ok.1 hend
      refine ⟨⟨congrArg Nat.succ hlen, ?_⟩, ?_⟩
      · intro b hb
        rcases mem_cons.1 hb with rfl | hb
        · exact hvalid
        · exact hall b hb
      · rw [flatMap_cons, append_assoc]

theorem times {r : Reader ε τ α} (h : Reads r w Valid) (n : Nat) :
    Reads (Reader.times r n) (fun as => as.flatMap w) fun as => as.length = n ∧ ∀ a ∈ as, Valid a :=
  timesFrom (fun _ => h) n 0

section Items

variable [Inhabited ε]

theorem items (width : Nat) :
    Reads (Reader.items width : Reader ε τ (List τ)) id fun items => items.length = width where
  complete := by
    intro items hlen rest
    change (if width ≤ (items ++ rest).length then _ else _) = _
    rw [if_pos (by rw [length_append]; omega), id, take_left' hlen, drop_left' hlen]
  sound := by
    intro input items rest h
    change (if width ≤ input.length then _ else _) = _ at h
    split_ifs at h with hlen
    cases h
    exact ⟨length_take_of_le hlen, (take_append_drop _ _).symm⟩

end Items

end Reads

section Words

variable [Inhabited ε]

/-- A number of `width` bytes. -/
def Reader.word (width : Nat) : Reader ε UInt8 Nat := unsigned <$> Reader.items width

theorem Reads.word (width : Nat) :
    Reads (Reader.word width : Reader ε UInt8 Nat) (fixed width) fun number =>
    number < 256 ^ width where
  complete := by
    intro number hnumber rest
    rw [Reader.word, map_eq_pure_bind]
    refine (Reads.items width).step (fixed_length width number) ?_
    rw [unsigned_fixed hnumber]
    rfl
  sound := by
    intro input number rest hrun
    rw [Reader.word, map_eq_pure_bind] at hrun
    obtain ⟨bytes, middle, rfl, hinput, hend⟩ := (Reads.items width).inv hrun
    obtain ⟨rfl, rfl⟩ := run_pure_eq_ok.1 hend
    exact ⟨unsigned_lt bytes, by rw [fixed_unsigned]; exact hinput⟩

/-- One of the values of a table, by its place. -/
def Reader.entry (table : List α) (width : Nat) : Reader ε UInt8 α := do
  let place ← Reader.word width
  Reader.ofOption table[place]?

theorem Reads.entry [BEq α] [LawfulBEq α] {table : List α} {width : Nat} (hnodup : table.Nodup)
    (hwidth : table.length ≤ 256 ^ width) :
    Reads (Reader.entry table width : Reader ε UInt8 α) (fun a => fixed width (table.idxOf a))
      fun a => a ∈ table where
  complete := by
    intro a ha rest
    have hplace : table.idxOf a < table.length := idxOf_lt_length_of_mem ha
    refine (Reads.word width).step (Nat.lt_of_lt_of_le hplace hwidth) ?_
    refine run_ofOption_eq_ok.2 ⟨?_, rfl⟩
    rw [getElem?_eq_getElem hplace, getElem_idxOf]
  sound := by
    intro input a rest hrun
    obtain ⟨place, middle, -, hinput, hrest⟩ := (Reads.word width).inv hrun
    obtain ⟨hentry, rfl⟩ := run_ofOption_eq_ok.1 hrest
    obtain ⟨hplace, rfl⟩ := List.getElem?_eq_some_iff.1 hentry
    refine ⟨List.getElem_mem hplace, ?_⟩
    rw [hnodup.idxOf_getElem place hplace]
    exact hinput

end Words

/-! ## 3. Readers that take more than was written -/

/-- The reader takes these items for this value; what else it takes for it is left open. -/
def Takes (r : Reader ε τ α) (items : List τ) (a : α) : Prop :=
  ∀ rest, r.run (items ++ rest) = .ok (a, rest)

namespace Takes

variable {items items' : List τ}

theorem pure : Takes (Pure.pure a : Reader ε τ α) [] a := fun _ => rfl

section

variable {r : Reader ε τ α} (h : Takes r items a)

include h

theorem bind (h' : Takes (f a) items' b) : Takes (r >>= f) (items ++ items') b := by
  intro rest
  rw [StateT.run_bind, append_assoc, h]
  exact h' rest

theorem labelled (error : ε) : Takes (r.labelled error) items a := by
  intro rest
  have hread : r (items ++ rest) = .ok (a, rest) := h rest
  change (match r (items ++ rest) with | .ok result => _ | .error _ => _) = _
  rw [hread]

/-- What was written, and then the rest. -/
theorem step (hrest : (f a).run rest = x) : (r >>= f).run (items ++ rest) = x := by
  rw [StateT.run_bind, h]
  exact hrest

end

theorem timesFrom {w : β → List τ} {value : β → α} :
    ∀ (bs : List β) start, (∀ i, ∀ b ∈ bs, Takes (r i) (w b) (value b)) →
      Takes (Reader.timesFrom r start bs.length) (bs.flatMap w) (bs.map value)
  | [], _, _ => pure
  | b :: bs, start, h => by
    have htail : ∀ i, ∀ b ∈ bs, Takes (r i) (w b) (value b) :=
      fun i b hb => h i b (mem_cons_of_mem _ hb)
    have hrest :
        Takes (do let as ← Reader.timesFrom r (start + 1) bs.length; Pure.pure (value b :: as))
        (bs.flatMap w ++ []) ((b :: bs).map value) := (timesFrom bs (start + 1) htail).bind pure
    rw [append_nil] at hrest
    exact (h start b mem_cons_self).bind hrest

section Items

variable [Inhabited ε]

theorem item (i : τ) : Takes (Reader.item : Reader ε τ τ) [i] i := fun _ => rfl

theorem check [Decidable c] (h : c) : Takes (Reader.check c : Reader ε τ Unit) [] () :=
  fun _ => by
    change (if c then _ else _) = _
    rw [if_pos h]
    rfl

theorem ofOption (h : o = some a) : Takes (Reader.ofOption o : Reader ε τ α) [] a := by
  subst h
  exact pure

/-- A check between two readers. -/
theorem check_bind [Decidable c] (h : c) {f : Unit → Reader ε τ α} (h' : Takes (f ()) items a) :
    Takes (Reader.check c >>= f) items a :=
  (check h).bind h'

theorem item_bind {i : τ} {f : τ → Reader ε τ α} (h : Takes (f i) items a) :
    Takes (Reader.item >>= f) (i :: items) a :=
  (item i).bind h

theorem ofOption_bind (h : o = some a)
    (h' : Takes (f a) items b) : Takes (Reader.ofOption o >>= f) items b :=
  (ofOption h).bind h'

end Items

end Takes

/-! ## 4. Writers with a limit -/

abbrev Emitter (τ α : Type) := StateT (List τ) Option α

/-- The items are written if they fit. -/
def Emitter.append (maximum : Nat) (items : List τ) : Emitter τ PUnit := fun written =>
  if items.length ≤ maximum - written.length then some (⟨⟩, written ++ items) else none

/-- The writer adds the items if they fit, and fails otherwise. -/
def Emits (maximum : Nat) (w : Emitter τ PUnit) (items : List τ) : Prop :=
  ∀ written : List τ, written.length ≤ maximum →
    w.run written =
      if (written ++ items).length ≤ maximum then some (⟨⟩, written ++ items) else none

namespace Emits

variable {maximum : Nat}

theorem append (items : List τ) : Emits maximum (Emitter.append maximum items) items := by
  intro written hwritten
  change (if items.length ≤ maximum - written.length then _ else _) = _
  have hiff : items.length ≤ maximum - written.length ↔ (written ++ items).length ≤ maximum := by
    rw [length_append]
    omega
  simp only [hiff]

theorem pure : Emits maximum (Pure.pure ⟨⟩ : Emitter τ PUnit) [] := by
  intro written hwritten
  rw [append_nil, if_pos hwritten]
  rfl

variable {items items' : List τ} {w : Emitter τ PUnit}

theorem bind {w' : Emitter τ PUnit} (h : Emits maximum w items)
    (h' : Emits maximum w' items') : Emits maximum (w >>= fun _ => w') (items ++ items') := by
  intro written hwritten
  rw [StateT.run_bind, h written hwritten, ← append_assoc]
  split_ifs with hfirst hboth hboth
  · change w'.run (written ++ items) = _
    rw [h' _ hfirst, if_pos hboth]
  · change w'.run (written ++ items) = _
    rw [h' _ hfirst, if_neg hboth]
  · -- what did not fit does not fit with more after it
    rw [length_append] at hboth
    omega
  · rfl

theorem next (h : Emits maximum w items') :
    Emits maximum (Emitter.append maximum items >>= fun _ => w) (items ++ items') :=
  (append items).bind h

theorem forM {w : α → Emitter τ PUnit} {items : α → List τ}
    (h : ∀ a, Emits maximum (w a) (items a)) :
    ∀ as : List α, Emits maximum (ForM.forM as w) (as.flatMap items)
  | [] => pure
  | a :: as => by
    exact bind (h a) (forM h as)

/-- Written from the start. -/
theorem run_nil (h : Emits maximum w items) :
    w.run [] = if items.length ≤ maximum then some (⟨⟩, items) else none :=
  h [] (Nat.zero_le _)

end Emits

end Base
