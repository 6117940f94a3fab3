/-
# Tokens of a PTX source

The lexer of `parser.cpp`.  Blanks and comments stand between tokens; each token keeps its text and
the place where it begins.  The source puts an end token behind the others, at the place where the
text ends: here that place is given beside the tokens.

`skipTrivia` and `tokenize` call themselves on what is left; the lemmas of §1 and §2 say that it is
less.
-/
import MetaFlux.Compiler.Ir

namespace MetaFlux.Ptx

open Base Compiler

inductive TokenKind where
  | word | register | number | leftParenthesis | rightParenthesis | leftBrace | rightBrace
  | leftBracket | rightBracket | comma | semicolon | colon | less | greater | atSign | bang
  | invalid | finish
deriving DecidableEq, Repr

structure Token where
  kind : TokenKind := .invalid
  text : Text := []
  location : SourceLocation := {}
deriving DecidableEq, Repr

def wordCharacter (c : UInt8) : Bool := isAlnum c || c = 95 || c = 36 || c = 46

def wordStart (c : UInt8) : Bool := isAlpha c || c = 95 || c = 36 || c = 46

/-! ## 1. Moving over characters -/

/-- The place after a character; 10 ends a line. -/
def after (location : SourceLocation) (c : UInt8) : SourceLocation :=
  if c = 10 then ⟨location.line + 1, 1⟩ else ⟨location.line, location.column + 1⟩

/-- What is left, and where it begins. -/
structure Cursor where
  rest : Text
  location : SourceLocation := {}

section Scan

variable {σ : Type} (step : σ → UInt8 → Option σ)

/-- Characters are taken as long as `step` has a next state: their text, and what is left. -/
def scan : σ → Text → SourceLocation → Text × Cursor
  | _, [], location => ([], ⟨[], location⟩)
  | state, c :: rest, location =>
    match step state c with
    | none => ([], ⟨c :: rest, location⟩)
    | some state =>
      let scanned := scan state rest (after location c)
      (c :: scanned.1, scanned.2)

theorem scan_le : ∀ (state : σ) (text : Text) (location : SourceLocation),
    (scan step state text location).2.rest.length ≤ text.length
  | _, [], _ => .refl
  | state, c :: rest, location => by
    rw [scan]
    cases step state c with
    | none => exact .refl
    | some state => exact Nat.le_succ_of_le (scan_le state rest (after location c))

end Scan

def inWord (_ : Unit) (c : UInt8) : Option Unit := if wordCharacter c then some () else none

def inLine (_ : Unit) (c : UInt8) : Option Unit := if c = 10 then none else some ()

/-- Digits and at most one period; the state says whether it was seen. -/
def inNumber (sawPeriod : Bool) (c : UInt8) : Option Bool :=
  if isDigit c then some sawPeriod else if c = 46 && !sawPeriod then some true else none

/-! ## 2. Blanks and comments -/

inductive Trivia where
  | clear (cursor : Cursor)
  | unterminated (comment : Text) (start finish : SourceLocation)

/-- To behind the end of a comment, or the place where the text ends without one. -/
def skipComment : Text → SourceLocation → Cursor ⊕ SourceLocation
  | [], location => .inr location
  | [c], location => .inr (after location c)
  | c :: next :: rest, location =>
    if c = 42 ∧ next = 47 then .inl ⟨rest, after (after location c) next⟩
    else skipComment (next :: rest) (after location c)

theorem skipComment_lt : ∀ {text : Text} {location : SourceLocation} {cursor : Cursor},
    skipComment text location = .inl cursor → cursor.rest.length < text.length
  | [], _, _, h => nomatch h
  | [_], _, _, h => nomatch h
  | c :: next :: rest, location, cursor, h => by
    rw [skipComment] at h
    split_ifs at h
    · cases h
      exact Nat.lt_succ_of_le (Nat.le_succ _)
    · exact Nat.lt_succ_of_lt (skipComment_lt h)

/-- 47 is the slash and 42 the star. -/
def skipTrivia (cursor : Cursor) : Trivia :=
  match cursor with
  | ⟨[], location⟩ => .clear ⟨[], location⟩
  | ⟨c :: rest, location⟩ =>
    if isBlank c then skipTrivia ⟨rest, after location c⟩
    else
      match rest with
      | [] => .clear ⟨[c], location⟩
      | next :: body =>
        let start := after (after location c) next
        if c = 47 ∧ next = 47 then skipTrivia (scan inLine () body start).2
        else if c = 47 ∧ next = 42 then
          match hcomment : skipComment body start with
          | .inl closed => skipTrivia closed
          | .inr finish => .unterminated (c :: next :: body) location finish
        else .clear ⟨c :: next :: body, location⟩
termination_by cursor.rest.length
decreasing_by
  · exact .refl
  · exact Nat.lt_succ_of_le (Nat.le_succ_of_le (scan_le inLine () body _))
  · exact Nat.lt_succ_of_lt (Nat.lt_succ_of_lt (skipComment_lt hcomment))

theorem skipTrivia_le {cursor cleared : Cursor} (h : skipTrivia cursor = .clear cleared) :
    cleared.rest.length ≤ cursor.rest.length := by
  fun_induction skipTrivia cursor with
  | case1 | case3 | case7 =>
    cases h
    exact .refl
  | case2 _ _ _ _ ih => exact Nat.le_succ_of_le (ih h)
  | case4 _ _ _ _ body start _ ih =>
    exact Nat.le_trans (ih h) (Nat.le_succ_of_le (Nat.le_succ_of_le (scan_le inLine () body start)))
  | case5 _ _ _ _ _ _ _ _ _ hcomment ih =>
    exact Nat.le_trans (ih h)
      (Nat.le_succ_of_le (Nat.le_succ_of_le (Nat.le_of_lt (skipComment_lt hcomment))))
  | case6 => cases h

/-! ## 3. Tokens -/

def punctuation : List (UInt8 × TokenKind) := [
  ('('.toUInt8, .leftParenthesis), (')'.toUInt8, .rightParenthesis), ('{'.toUInt8, .leftBrace),
  ('}'.toUInt8, .rightBrace), ('['.toUInt8, .leftBracket), (']'.toUInt8, .rightBracket),
  (','.toUInt8, .comma), (';'.toUInt8, .semicolon), (':'.toUInt8, .colon), ('<'.toUInt8, .less),
  ('>'.toUInt8, .greater), ('@'.toUInt8, .atSign), ('!'.toUInt8, .bang)]

/-- The token that begins with this character, and what is left behind it; 37 is the percent sign.
-/
def nextToken (c : UInt8) (rest : Text) (location : SourceLocation) : Token × Cursor :=
  match punctuation.lookup c with
  | some kind => (⟨kind, [c], location⟩, ⟨rest, after location c⟩)
  | none =>
    if c = 37 then
      let scanned := scan inWord () rest (after location c)
      (⟨if scanned.1 = [] then .invalid else .register, c :: scanned.1, location⟩, scanned.2)
    else if wordStart c then
      let scanned := scan inWord () rest (after location c)
      (⟨.word, c :: scanned.1, location⟩, scanned.2)
    else if isDigit c then
      let scanned := scan inNumber false rest (after location c)
      (⟨.number, c :: scanned.1, location⟩, scanned.2)
    else (⟨.invalid, [c], location⟩, ⟨rest, after location c⟩)

theorem nextToken_le (c : UInt8) (rest : Text) (location : SourceLocation) :
    (nextToken c rest location).2.rest.length ≤ rest.length := by
  unfold nextToken
  split
  · exact .refl
  · split_ifs
    · exact scan_le _ _ _ _
    · exact scan_le _ _ _ _
    · exact scan_le _ _ _ _
    · exact .refl

/-- The tokens, and the place of the end token. -/
def tokenize (cursor : Cursor) : List Token × SourceLocation :=
  match hclear : skipTrivia cursor with
  | .unterminated comment start finish => ([⟨.invalid, comment, start⟩], finish)
  | .clear ⟨[], location⟩ => ([], location)
  | .clear ⟨c :: rest, location⟩ =>
    let next := nextToken c rest location
    let later := tokenize next.2
    (next.1 :: later.1, later.2)
termination_by cursor.rest.length
decreasing_by
  have hle := skipTrivia_le hclear
  exact Nat.lt_of_lt_of_le (Nat.lt_succ_of_le (nextToken_le c rest location)) hle

example :
    (tokenize ⟨ascii "sub.u32 /* a */ %r0, 12.5.1; // end", {}⟩).1.map (fun t => (t.kind, t.text)) =
    [(.word, ascii "sub.u32"), (.register, ascii "%r0"), (.comma, ascii ","),
      (.number, ascii "12.5"), (.word, ascii ".1"), (.semicolon, ascii ";")] := by
  decide +kernel

end MetaFlux.Ptx
