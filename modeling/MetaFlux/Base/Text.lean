/-
# Text

Text as the bytes it is stored in.  Words are what is between blanks, numbers are written in
decimal; what is written word by word, each followed by a blank, is the same words when it is read
(`words_append`), and a number is read back from its digits (`readDecimal_decimal`).
-/
import Mathlib

namespace Base

open List

abbrev Text := List UInt8

def ascii (s : String) : Text := s.toList.map fun c => UInt8.ofNat c.toNat

/-! ## 1. Words -/

/-- What `isspace` is in the C locale. -/
def isBlank (c : UInt8) : Bool := c = 32 || 9 ≤ c && c ≤ 13

/-- The words of a text, the first of which has begun. -/
def wordsFrom (word : Text) : Text → List Text
  | [] => if word = [] then [] else [word]
  | c :: rest =>
    if isBlank c then
      if word = [] then wordsFrom [] rest else word :: wordsFrom [] rest
    else wordsFrom (word ++ [c]) rest

def words (text : Text) : List Text := wordsFrom [] text

theorem wordsFrom_append {c : UInt8} (hc : isBlank c = true) (rest : Text) :
    ∀ (text word : Text), (∀ b ∈ text, isBlank b = false) → word ++ text ≠ [] →
      wordsFrom word (text ++ c :: rest) = (word ++ text) :: words rest
  | [], word, _, hword => by
    rw [append_nil] at hword ⊢
    rw [nil_append, wordsFrom, if_pos hc, if_neg hword, words]
  | b :: text, word, htext, _ => by
    have hb : isBlank b = false := htext b mem_cons_self
    have hrest : ∀ b ∈ text, isBlank b = false := fun b hb => htext b (mem_cons_of_mem _ hb)
    rw [cons_append, wordsFrom, hb, if_neg Bool.false_ne_true,
      wordsFrom_append hc rest text (word ++ [b]) hrest (by simp), append_assoc]
    rfl

/-- A word, as it stands between blanks. -/
def IsWord (text : Text) : Prop := text ≠ [] ∧ ∀ b ∈ text, isBlank b = false

instance (text : Text) : Decidable (IsWord text) :=
  have := List.decidableBAll (fun b => isBlank b = false) text
  inferInstanceAs (Decidable (_ ∧ _))

/-- **A word and the blank after it.** -/
theorem words_append {text : Text} (h : IsWord text) {c : UInt8} (hc : isBlank c = true)
    (rest : Text) : words (text ++ c :: rest) = text :: words rest :=
  wordsFrom_append hc rest text [] h.2 h.1

/-- Words with a blank between them and the end of the line after them. -/
def writeLine : List Text → Text
  | [] => [10]
  | [word] => word ++ [10]
  | word :: rest => word ++ 32 :: writeLine rest

theorem length_writeLine : ∀ {line : List Text}, line ≠ [] →
    (writeLine line).length = (line.map fun word => word.length + 1).sum
  | [], hne => absurd rfl hne
  | [_], _ => by simp [writeLine]
  | word :: next :: rest, _ => by
    have hrest := length_writeLine (List.cons_ne_nil next rest)
    simp only [List.map_cons, List.sum_cons] at hrest ⊢
    rw [show writeLine (word :: next :: rest) = word ++ 32 :: writeLine (next :: rest) from rfl,
      List.length_append, List.length_cons, hrest]
    omega

theorem words_writeLine (rest : Text) : ∀ {line : List Text}, line ≠ [] →
    (∀ word ∈ line, IsWord word) →
    words (writeLine line ++ rest) = line ++ words rest
  | [], hne, _ => absurd rfl hne
  | [word], _, h => by
    rw [writeLine, append_assoc]
    exact words_append (h word mem_cons_self) rfl rest
  | word :: next :: line, _, h => by
    have ih := words_writeLine rest (cons_ne_nil next line)
      fun w hw => h w (mem_cons_of_mem word hw)
    rw [writeLine, append_assoc, cons_append, words_append (h word mem_cons_self) rfl, ih]
    · rfl
    · simp

/-- **What is written in lines** is the same words when it is read. -/
theorem words_lines : ∀ {lines : List (List Text)},
    (∀ line ∈ lines, line ≠ [] ∧ ∀ word ∈ line, IsWord word) →
      words (lines.flatMap writeLine) = lines.flatten
  | [], _ => rfl
  | line :: lines, h => by
    have hline := h line mem_cons_self
    rw [flatMap_cons, flatten_cons, words_writeLine _ hline.1 hline.2,
      words_lines fun l hl => h l (mem_cons_of_mem line hl)]

/-! ## 2. Numbers -/

def isDigit (c : UInt8) : Bool := 48 ≤ c && c ≤ 57

/-- The decimal digits, the highest first; `fuel` is how many there may be. -/
def digitsWithin : Nat → Nat → Text
  | 0, _ => []
  | fuel + 1, n =>
    if n < 10 then [UInt8.ofNat (48 + n)] else digitsWithin fuel (n / 10) ++
      [UInt8.ofNat (48 + n % 10)]

def decimal (n : Nat) : Text := digitsWithin (n + 1) n

def digitsValue (text : Text) : Nat := text.foldl (fun value c => 10 * value + (c.toNat - 48)) 0

/-- All of the text is digits, and its value is below the limit. -/
def readDecimal (limit : Nat) (text : Text) : Option Nat :=
  if text ≠ [] ∧ text.all isDigit = true ∧ digitsValue text < limit then some (digitsValue text)
  else none

theorem digit_toNat {n : Nat} (h : n < 10) : (UInt8.ofNat (48 + n)).toNat = 48 + n := by
  rw [UInt8.toNat_ofNat']
  omega

theorem isDigit_digit {n : Nat} (h : n < 10) : isDigit (UInt8.ofNat (48 + n)) = true := by
  have hvalue := digit_toNat h
  simp only [isDigit, Bool.and_eq_true, decide_eq_true_eq, UInt8.le_iff_toNat_le, hvalue]
  change 48 ≤ 48 + n ∧ 48 + n ≤ 57
  omega

theorem digitsWithin_spec : ∀ {fuel n : Nat}, n < fuel → digitsWithin fuel n ≠ [] ∧
    (digitsWithin fuel n).all isDigit = true ∧ digitsValue (digitsWithin fuel n) = n
  | 0, _, h => absurd h (Nat.not_lt_zero _)
  | fuel + 1, n, h => by
    rw [digitsWithin]
    split
    · next hn =>
      refine ⟨by simp, ?_, ?_⟩
      · rw [all_cons, isDigit_digit hn]
        rfl
      · change 10 * 0 + ((UInt8.ofNat (48 + n)).toNat - 48) = n
        rw [digit_toNat hn]
        omega
    · have ih := @digitsWithin_spec fuel (n / 10) (by omega)
      have hdigit : n % 10 < 10 := Nat.mod_lt _ (by decide)
      refine ⟨by simp, ?_, ?_⟩
      · rw [all_append, ih.2.1, all_cons, isDigit_digit hdigit]
        rfl
      · rw [digitsValue, foldl_append, ← digitsValue, ih.2.2, foldl_cons, foldl_nil,
          digit_toNat hdigit]
        omega

/-- The digits of a number are digits, there is at least one, and their value is the number. -/
theorem decimal_spec (n : Nat) :
    decimal n ≠ [] ∧ (decimal n).all isDigit = true ∧ digitsValue (decimal n) = n :=
  digitsWithin_spec (Nat.lt_succ_self n)

theorem readDecimal_decimal {limit n : Nat} (h : n < limit) :
    readDecimal limit (decimal n) = some n := by
  obtain ⟨hsome, hdigits, hvalue⟩ := decimal_spec n
  rw [readDecimal, hvalue, if_pos ⟨hsome, hdigits, h⟩]

theorem isBlank_of_isDigit {c : UInt8} (h : isDigit c = true) : isBlank c = false := by
  simp only [isDigit, Bool.and_eq_true, decide_eq_true_eq] at h
  have hlow : 48 ≤ c.toNat := h.1
  have hne : c ≠ 32 := by
    rintro rfl
    revert hlow
    decide
  have hhigh : ¬ c ≤ 13 := by
    change ¬ c.toNat ≤ 13
    omega
  simp [isBlank, hne, hhigh]

theorem isWord_decimal (n : Nat) : IsWord (decimal n) := by
  obtain ⟨hsome, hdigits, -⟩ := decimal_spec n
  exact ⟨hsome, fun b hb => isBlank_of_isDigit (all_eq_true.1 hdigits b hb)⟩

end Base
