/-
# The PTX front end

`Parser` of `parser.cpp`.  The source keeps a flag for the first failure: after it nothing is
reported, nothing is added and no kernel is returned, so that a failure here ends the parse.

* §1: the state, and the steps that everything else is made of.
* §2: declarations.
* §3: instructions.  The parser notes which registers are defined; for most instructions it does so
  when it has read the destination, before it reads the operands.
* §4: the whole source, and what is known of a kernel that comes out of it (`parse_definitions`).
  What an instruction reads is the destination of an earlier one, or ITS OWN.
-/
import MetaFlux.Base.Parser
import MetaFlux.Ptx.Lexer

namespace MetaFlux.Ptx

open Base Compiler

/-! ## 1. The state of a parse -/

inductive DeclaredRegisterKind where
  | predicate | b32 | b64 | f32
deriving DecidableEq, Repr

structure RegisterSymbol where
  index : UInt32
  declaredKind : DeclaredRegisterKind

structure ParameterSymbol where
  index : UInt32
  kind : ParameterKind

structure RegisterReference where
  index : UInt32
  location : SourceLocation

structure AnyRegisterReference where
  index : UInt32
  kind : ValueKind
  location : SourceLocation

structure Guard where
  predicate : UInt32
  negated : Bool

structure PendingBranch where
  operationIndex : Nat
  label : Text
  location : SourceLocation

structure State where
  /-- The tokens that are left, without the end token. -/
  tokens : List Token
  /-- The place of the end token. -/
  finish : SourceLocation
  kernel : Kernel := {}
  parameters : List (Text × ParameterSymbol) := []
  registers : List (Text × RegisterSymbol) := []
  shared : List (Text × UInt32) := []
  registerDefined : List Bool := []
  labels : List (Text × Nat) := []
  pendingBranches : List PendingBranch := []
  hasExpfDeclaration : Bool := false

instance : Input State := ⟨fun s => s.tokens.length⟩

abbrev Parse (α : Type) := Parser State Diagnostic α

def State.current (s : State) : Token := s.tokens.headD ⟨.finish, [], s.finish⟩

def State.peek (s : State) (distance : Nat) : Token :=
  (s.tokens[distance]?).getD ⟨.finish, [], s.finish⟩

def Token.isWord (t : Token) (spelling : String) : Bool := t.kind = .word && t.text = ascii spelling

def diagnostic (code : DiagnosticCode) (token : Token) (message : String) (form : Text := []) :
    Diagnostic :=
  ⟨code, token.location, message, if form = [] then token.text else form⟩

variable {α : Type}

def fail (code : DiagnosticCode) (token : Token) (message : String) (form : Text := []) : Parse α :=
  Parser.fail (diagnostic code token message form)

/-- Nothing is done at the end token. -/
def advance : Parse Unit :=
  Parser.update (fun s => { s with tokens := s.tokens.tail }) fun s => by simp [left]

def accept (kind : TokenKind) : Parse Bool := do
  let s ← Parser.look
  if s.current.kind = kind then
    advance
    return true
  else return false

/-- The end token is never asked for. -/
def take (kind : TokenKind) (description : String) : Parse Token where
  run s :=
    match s.tokens with
    | [] => .error (diagnostic .ptxSyntax s.current ("expected " ++ description))
    | t :: rest =>
      if t.kind = kind then .ok (t, { s with tokens := rest })
      else .error (diagnostic .ptxSyntax t ("expected " ++ description))
  shrinks {s s' t} h := by
    cases htokens : s.tokens with
    | nil =>
      rw [htokens] at h
      cases h
    | cons =>
      rw [htokens] at h
      dsimp only at h
      split_ifs at h
      cases h
      simp [left, htokens]

theorem take_consumes (kind : TokenKind) (description : String) :
    (take kind description).Consumes := by
  constructor
  intro s s' t h _
  cases htokens : s.tokens with
  | nil => simp [take, htokens] at h
  | cons =>
    simp only [take, htokens] at h
    split_ifs at h
    cases h
    simp [left, htokens]

def takeWord (spelling : String) : Parse Token := do
  let token ← take .word spelling
  if token.text ≠ ascii spelling then
    fail .ptxSyntax token ("expected '" ++ spelling ++ "'") token.text
  else return token

theorem takeWord_consumes (spelling : String) : (takeWord spelling).Consumes :=
  .first (take_consumes _ _)

def comma : Parse Unit := discard (take .comma "','")
def semicolon : Parse Unit := discard (take .semicolon "';'")

def parseU32 (text : Text) : Option UInt32 := (readDecimal (2 ^ 32) text).map UInt32.ofNat

/-! ## 2. Declarations -/

def parameterKindOf (type : Text) : Option ParameterKind :=
  if type = ascii ".u64" then some .bufferU32
  else if type = ascii ".u32" then some .scalarU32
  else if type = ascii ".f32" then some .scalarF32
  else none

/-- One parameter; another one follows a comma. -/
def parseParameter (_ : Unit) : Parse (ForInStep Unit) := do
  let directive ← takeWord ".param"
  let type ← take .word "parameter type"
  match parameterKindOf type.text with
  | none =>
    fail .ptxTypeMismatch type
      "only .u64 buffer, .u32 scalar, and .f32 scalar parameters are advertised"
  | some kind =>
    let name ← take .word "parameter name"
    let s ← Parser.look
    if maximumParameters ≤ s.kernel.parameters.length then
      fail .ptxSyntax name "parameter count exceeds the Kernel IR v2 bound"
    else if (s.parameters.lookup name.text).isSome then
      fail .ptxDuplicateSymbol name "parameter is declared more than once"
    else
      Parser.update fun s => { s with
        parameters := (name.text, ⟨UInt32.ofNat s.kernel.parameters.length, kind⟩) :: s.parameters
        kernel := { s.kernel with
          parameters := s.kernel.parameters ++ [⟨kind, directive.location⟩] } }
      if ← accept .comma then return .yield () else return .done ()

theorem parseParameter_consumes (b : Unit) : (parseParameter b).Consumes Parser.GoesOn :=
  .first (takeWord_consumes _)

def parseParameters : Parse Unit := do
  let s ← Parser.look
  if s.current.kind = .rightParenthesis then return ()
  else Parser.loop parseParameter parseParameter_consumes ()

def registerKindOf (type : Text) : Option (DeclaredRegisterKind × ValueKind) :=
  if type = ascii ".pred" then some (.predicate, .predicate)
  else if type = ascii ".b32" ∨ type = ascii ".u32" then some (.b32, .u32)
  else if type = ascii ".b64" ∨ type = ascii ".u64" then some (.b64, .u64)
  else if type = ascii ".f32" then some (.f32, .f32)
  else none

/-- One register for each name. -/
def declareRegisters (directive base : Token) (declared : DeclaredRegisterKind)
    (initial : ValueKind) :
    List Text → Parse Unit
  | [] => return ()
  | name :: names => do
    let s ← Parser.look
    if (s.registers.lookup name).isSome then
      fail .ptxDuplicateSymbol base "register is declared more than once" name
    else
      Parser.update fun s => { s with
        registers := (name, ⟨UInt32.ofNat s.kernel.registers.length, declared⟩) :: s.registers
        kernel :=
          { s.kernel with registers := s.kernel.registers ++ [⟨initial, directive.location⟩] }
        registerDefined := s.registerDefined ++ [false] }
      declareRegisters directive base declared initial names

/-- The number in `<n>` after the name of registers, if it is there. -/
def parseCount : Parse (Option Nat) := do
  if ← accept .less then
    let token ← take .number "register vector count"
    match parseU32 token.text with
    | none => fail .ptxSyntax token "register vector count must be in [1, 4096]"
    | some count =>
      if count = 0 ∨ 4096 < count then
        fail .ptxSyntax token "register vector count must be in [1, 4096]"
      else
        let _ ← take .greater "'>'"
        return some count.toNat
  else return none

def parseRegisterDeclaration : Parse Unit := do
  let directive ← takeWord ".reg"
  let type ← take .word "register type"
  match registerKindOf type.text with
  | none =>
    fail .ptxTypeMismatch type "only .pred, .b32/.u32, .b64/.u64, and .f32 registers are advertised"
  | some (declared, initial) =>
    let base ← take .register "register name"
    let count ← parseCount
    semicolon
    let s ← Parser.look
    if maximumRegisters < s.kernel.registers.length + count.getD 1 then
      fail .ptxSyntax base "expanded register count exceeds the Kernel IR v2 bound"
    else
      declareRegisters directive base declared initial
        (match count with
        | none => [base.text]
        | some count => (List.range count).map fun index => base.text ++ decimal index)

def parseSharedDeclaration : Parse Unit := do
  let directive ← takeWord ".shared"
  let _ ← takeWord ".align"
  let alignment ← take .number "shared alignment"
  let _ ← takeWord ".u32"
  let name ← take .word "shared allocation name"
  let _ ← take .leftBracket "'['"
  let countToken ← take .number "shared u32 element count"
  let _ ← take .rightBracket "']'"
  semicolon
  if alignment.text ≠ ascii "4" then
    fail .ptxTypeMismatch alignment "static shared u32 allocations require .align 4"
  else
    match (parseU32 countToken.text).filter fun count => 0 < count ∧ count ≤ 12288 with
    | none =>
      fail .ptxSyntax countToken "static shared allocation must contain [1, 12288] u32 words"
    | some count =>
      let s ← Parser.look
      if (s.shared.lookup name.text).isSome then
        fail .ptxDuplicateSymbol name "shared allocation is declared more than once"
      else
        Parser.update fun s => { s with
          shared := (name.text, UInt32.ofNat s.kernel.sharedAllocations.length) :: s.shared
          kernel := { s.kernel with
            sharedAllocations := s.kernel.sharedAllocations ++ [⟨count, directive.location⟩] } }

def parseLabel : Parse Unit := do
  let label ← take .word "label"
  let _ ← take .colon "':'"
  let s ← Parser.look
  if (s.labels.lookup label.text).isSome then
    fail .ptxDuplicateSymbol label "branch label is declared more than once"
  else Parser.update fun s =>
    { s with labels := (label.text, s.kernel.operations.length) :: s.labels }

/-- `(.param .f32 name)`, where the name may be missing. -/
def parseExternParameter (message : String) : Parse Unit := do
  let _ ← take .leftParenthesis "'('"
  let _ ← takeWord ".param"
  let type ← take .word "parameter type"
  if type.text ≠ ascii ".f32" then fail .ptxUnsupportedInstruction type message
  else
    let _ ← accept .word
    discard (take .rightParenthesis "')'")

def parseExternFunc : Parse Unit := do
  let _ ← takeWord ".extern"
  let _ ← takeWord ".func"
  parseExternParameter "extern .func only advertises (param .f32) parameter declarations"
  let name ← take .word "function name"
  if name.text ≠ ascii "expf" then
    fail .ptxUnsupportedInstruction name "only expf is whitelisted as an extern .func target"
  else
    parseExternParameter "extern .func expf must accept .f32"
    semicolon
    let s ← Parser.look
    if s.hasExpfDeclaration then
      fail .ptxDuplicateSymbol name "extern expf is declared more than once"
    else Parser.update fun s => { s with hasExpfDeclaration := true }

def parseExtern (_ : Unit) : Parse (ForInStep Unit) := do
  let s ← Parser.look
  if s.current.isWord ".extern" then
    parseExternFunc
    return .yield ()
  else return .done ()

theorem parseExtern_consumes (b : Unit) : (parseExtern b).Consumes Parser.GoesOn := by
  refine .later fun s => ?_
  split_ifs
  · exact .first (.first (takeWord_consumes _))
  · exact .ok_of_not id

def parseHeader : Parse Unit := do
  let s ← Parser.look
  if s.current.kind = .invalid then
    fail .ptxSyntax s.current "invalid or unterminated PTX token"
  else
    let _ ← takeWord ".version"
    let version ← take .number "PTX version"
    if version.text ≠ ascii "9.0" then
      fail .ptxUnsupportedVersion version "the milestone-0.1.0.0 manifest is pinned to PTX ISA 9.0"
        version.text
    else
      let _ ← takeWord ".target"
      let target ← take .word "PTX target"
      if target.text ≠ ascii "sm_70" then
        fail .ptxUnsupportedTarget target "the milestone-0.1.0.0 manifest requires target sm_70"
          target.text
      else
        let _ ← takeWord ".address_size"
        let addressSize ← take .number "address size"
        if addressSize.text ≠ ascii "64" then
          fail .ptxTypeMismatch addressSize
            "the milestone-0.1.0.0 manifest requires 64-bit global addresses" addressSize.text
        else Parser.loop parseExtern parseExtern_consumes ()

/-! ## 3. Instructions -/

def takeRegister (expected : DeclaredRegisterKind) : Parse RegisterReference := do
  let token ← take .register "register operand"
  let s ← Parser.look
  match s.registers.lookup token.text with
  | none => fail .ptxUnknownSymbol token "register is not declared"
  | some symbol =>
    if symbol.declaredKind ≠ expected then
      fail .ptxTypeMismatch token "register class does not match the advertised instruction form"
    else return ⟨symbol.index, token.location⟩

/-- A register that is defined, whatever it holds. -/
def takeSourceAny (declared : DeclaredRegisterKind) : Parse AnyRegisterReference := do
  let reference ← takeRegister declared
  let s ← Parser.look
  match s.registerDefined[reference.index.toNat]?, s.kernel.registerKind reference.index with
  | some true, some kind => return ⟨reference.index, kind, reference.location⟩
  | _, _ =>
    fail .ptxUnknownSymbol ⟨.register, [], reference.location⟩
      "register is read before it is defined"

def takeSource (declared : DeclaredRegisterKind) (kind : ValueKind) : Parse UInt32 := do
  let reference ← takeSourceAny declared
  if reference.kind ≠ kind then
    fail .ptxTypeMismatch ⟨.register, [], reference.location⟩
      "register value provenance does not match the advertised instruction form"
  else return reference.index

def defineResult (reference : RegisterReference) (kind : ValueKind) : Parse Unit := do
  let s ← Parser.look
  if s.registerDefined[reference.index.toNat]? = some true then
    fail .ptxUnsupportedInstruction ⟨.register, [], reference.location⟩
      "the Kernel IR v2 slice requires single-assignment PTX registers"
  else
    Parser.update fun s => { s with
      registerDefined := s.registerDefined.set reference.index.toNat true
      kernel := { s.kernel with
        registers := s.kernel.registers.modify reference.index.toNat fun r =>
          { r with kind := kind } } }

def takeResult (declared : DeclaredRegisterKind) (kind : ValueKind) : Parse UInt32 := do
  let reference ← takeRegister declared
  defineResult reference kind
  return reference.index

/-- At most three inputs are given; the slots past them are zero. -/
def addOperation (opcode : Opcode) (result : UInt32) (inputs : List UInt32) (attr : UInt32)
    (flag : Bool) (location : SourceLocation) (guard : Option Guard := none) : Parse Unit :=
  let input := fun n => (inputs[n]?).getD 0
  Parser.update fun s => { s with kernel := { s.kernel with operations := s.kernel.operations ++ [{
    opcode := opcode
    result := result
    inputs := #v[input 0, input 1, input 2]
    inputCount := UInt32.ofNat inputs.length
    attr := attr
    flag := flag
    predicate := (guard.map Guard.predicate).getD noValue
    predicateNegated := (guard.map Guard.negated).getD false
    location := location }] } }

def parseGuard : Parse (Option Guard) := do
  if ← accept .atSign then
    let negated ← accept .bang
    let predicate ← takeSource .predicate .predicate
    return some ⟨predicate, negated⟩
  else return none

abbrev OperandKind := DeclaredRegisterKind × ValueKind

/-- Operands, each after a comma. -/
def takeSources : List OperandKind → Parse (List UInt32)
  | [] => return []
  | (declared, kind) :: kinds => do
    comma
    let input ← takeSource declared kind
    let inputs ← takeSources kinds
    return input :: inputs

variable (opcode : Token) (kernelOpcode : Opcode)

/-- A destination and operands: the destination is DEFINED before the operands are read. -/
def parseOperands (result : OperandKind) (sources : List OperandKind) : Parse Unit := do
  let result ← takeResult result.1 result.2
  let inputs ← takeSources sources
  semicolon
  addOperation kernelOpcode result inputs 0 false opcode.location

def parseBinaryU32 : Parse Unit :=
  parseOperands opcode kernelOpcode (.b32, .u32) [(.b32, .u32), (.b32, .u32)]

def parseBinaryF32 : Parse Unit :=
  parseOperands opcode kernelOpcode (.f32, .f32) [(.f32, .f32), (.f32, .f32)]

def parseUnaryU32 : Parse Unit :=
  parseOperands opcode kernelOpcode (.b32, .u32) [(.b32, .u32)]

def parseUnaryF32 : Parse Unit :=
  parseOperands opcode kernelOpcode (.f32, .f32) [(.f32, .f32)]

def parseTernary (declared : DeclaredRegisterKind) (kind : ValueKind) : Parse Unit :=
  parseOperands opcode kernelOpcode (declared, kind)
    [(declared, kind), (declared, kind), (declared, kind)]

def parseConversion (result input : OperandKind) : Parse Unit :=
  parseOperands opcode kernelOpcode result [input]

def parseSetPredicate (input : OperandKind) : Parse Unit :=
  parseOperands opcode kernelOpcode (.predicate, .predicate) [input, input]

def parseAddGlobalAddress : Parse Unit :=
  parseOperands opcode .addGlobalAddress (.b64, .globalAddress)
    [(.b64, .globalAddress), (.b64, .u64)]

def parseSelect : Parse Unit :=
  parseOperands opcode .selectU32 (.b32, .u32)
    [(.b32, .u32), (.b32, .u32), (.predicate, .predicate)]

def parseSelectF32 : Parse Unit :=
  parseOperands opcode .selectF32 (.f32, .f32)
    [(.f32, .f32), (.f32, .f32), (.predicate, .predicate)]

def parseLoadParameter (kind : ParameterKind) : Parse Unit := do
  let (declared, value, kernelOpcode) : DeclaredRegisterKind × ValueKind × Opcode :=
    match kind with
    | .bufferU32 => (.b64, .globalAddress, .loadParameterAddress)
    | .scalarF32 => (.f32, .f32, .loadParameterF32)
    | .scalarU32 => (.b32, .u32, .loadParameterU32)
  let result ← takeResult declared value
  comma
  let _ ← take .leftBracket "'['"
  let parameter ← take .word "parameter name"
  let _ ← take .rightBracket "']'"
  semicolon
  let s ← Parser.look
  match s.parameters.lookup parameter.text with
  | none => fail .ptxUnknownSymbol parameter "parameter is not declared"
  | some symbol =>
    if symbol.kind ≠ kind then
      fail .ptxTypeMismatch parameter "parameter type does not match the advertised load form"
    else addOperation kernelOpcode result [] symbol.index false opcode.location

/-- The names of the special registers, in the order of their numbers. -/
def selectors : List Text := ["%tid.x", "%tid.y", "%ctaid.x", "%ctaid.y", "%ntid.x", "%ntid.y",
  "%nctaid.x", "%nctaid.y"].map ascii

def parseMove : Parse Unit := do
  let result ← takeRegister .b32
  comma
  let s ← Parser.look
  if s.current.kind = .register then
    let special ← take .register "special register"
    semicolon
    match selectors.idxOf? special.text with
    | none =>
      fail .ptxUnsupportedInstruction special
        ("only x/y thread, block, block-dimension, and grid-dimension special " ++
          "registers are advertised")
    | some selector =>
      defineResult result .u32
      addOperation .moveSpecialU32 result.index [] (UInt32.ofNat selector) false opcode.location
  else if s.current.kind = .number then
    let immediate ← take .number "u32 immediate"
    semicolon
    match parseU32 immediate.text with
    | none => fail .ptxSyntax immediate "immediate is not a u32 value"
    | some value =>
      defineResult result .u32
      addOperation .moveImmediateU32 result.index [] value false opcode.location
  else
    let symbol ← take .word "shared allocation name"
    semicolon
    let s ← Parser.look
    match s.shared.lookup symbol.text with
    | none => fail .ptxUnknownSymbol symbol "shared allocation is not declared"
    | some allocation =>
      defineResult result .sharedAddress
      addOperation .loadSharedAddress result.index [] allocation false opcode.location

/-- The destination is defined after the operands were read. -/
def parseAddU32 : Parse Unit := do
  let result ← takeRegister .b32
  comma
  let a ← takeSourceAny .b32
  comma
  let b ← takeSourceAny .b32
  semicolon
  if a.kind = .u32 ∧ b.kind = .u32 then
    defineResult result .u32
    addOperation .addU32 result.index [a.index, b.index] 0 false opcode.location
  else if a.kind = .sharedAddress ∧ b.kind = .u32 then
    defineResult result .sharedAddress
    addOperation .addSharedAddress result.index [a.index, b.index] 0 false opcode.location
  else
    fail .ptxTypeMismatch ⟨.register, [], a.location⟩
      "add.u32 accepts u32+u32 or shared-address+u32 in this manifest"

def parseMultiplyWide : Parse Unit := do
  let result ← takeResult .b64 .u64
  comma
  let input ← takeSource .b32 .u32
  comma
  let immediate ← take .number "u32 immediate"
  semicolon
  match parseU32 immediate.text with
  | none => fail .ptxSyntax immediate "immediate is not a u32 value"
  | some value => addOperation .multiplyWideU32 result [input] value false opcode.location

def parseCallExpf : Parse Unit := do
  let s ← Parser.look
  if s.hasExpfDeclaration = false then
    fail .ptxUnsupportedInstruction opcode "call to expf requires an extern .func expf declaration"
  else
    let _ ← take .leftParenthesis "'('"
    let result ← takeResult .f32 .f32
    let _ ← take .rightParenthesis "')'"
    comma
    let callee ← take .word "call target"
    if callee.text ≠ ascii "expf" then
      fail .ptxUnsupportedInstruction callee "only call to expf is whitelisted"
    else
      comma
      let _ ← take .leftParenthesis "'('"
      let input ← takeSource .f32 .f32
      let _ ← take .rightParenthesis "')'"
      semicolon
      addOperation .expF32 result [input] 0 false opcode.location

def parseBranch (guard : Guard) : Parse Unit := do
  let label ← take .word "branch label"
  semicolon
  let s ← Parser.look
  addOperation .branchIf noValue [guard.predicate] 0 guard.negated opcode.location
  Parser.update fun t => { t with
    pendingBranches :=
      t.pendingBranches ++ [⟨s.kernel.operations.length, label.text, label.location⟩] }

def parseLoadMemory (result address : OperandKind) : Parse Unit := do
  let result ← takeResult result.1 result.2
  comma
  let _ ← take .leftBracket "'['"
  let address ← takeSource address.1 address.2
  let _ ← take .rightBracket "']'"
  semicolon
  addOperation kernelOpcode result [address] 0 false opcode.location

def parseStoreMemory (address value : OperandKind) (guard : Option Guard) : Parse Unit := do
  let _ ← take .leftBracket "'['"
  let address ← takeSource address.1 address.2
  let _ ← take .rightBracket "']'"
  comma
  let value ← takeSource value.1 value.2
  semicolon
  addOperation kernelOpcode noValue [address, value] 0 false opcode.location guard

def parseBarrier : Parse Unit := do
  let barrier ← take .number "barrier id"
  semicolon
  if parseU32 barrier.text = some 0 then
    addOperation .barrierSync noValue [] 0 false opcode.location
  else
    fail .ptxUnsupportedInstruction barrier "only the unconditional bar.sync 0 form is advertised"
      barrier.text

def parseReturn : Parse Unit := do
  semicolon
  addOperation .ret noValue [] 0 false opcode.location

/-- What comes after the word of an instruction. -/
def forms (guard : Option Guard) : List (String × Parse Unit) := [
  ("ld.param.u64", parseLoadParameter opcode .bufferU32),
  ("ld.param.u32", parseLoadParameter opcode .scalarU32),
  ("ld.param.f32", parseLoadParameter opcode .scalarF32),
  ("mov.u32", parseMove opcode),
  ("add.u32", parseAddU32 opcode),
  ("sub.u32", parseBinaryU32 opcode .subU32),
  ("mul.lo.u32", parseBinaryU32 opcode .multiplyLoU32),
  ("mul.hi.u32", parseBinaryU32 opcode .multiplyHiU32),
  ("mad.lo.u32", parseTernary opcode .madLoU32 .b32 .u32),
  ("mul.wide.u32", parseMultiplyWide opcode),
  ("add.u64", parseAddGlobalAddress opcode),
  ("add.rn.f32", parseBinaryF32 opcode .addRnF32),
  ("sub.rn.f32", parseBinaryF32 opcode .subRnF32),
  ("div.rn.f32", parseBinaryF32 opcode .divRnF32),
  ("abs.f32", parseUnaryF32 opcode .absF32),
  ("sqrt.rn.f32", parseUnaryF32 opcode .sqrtRnF32),
  ("call", parseCallExpf opcode),
  ("abs.s32", parseUnaryU32 opcode .absS32),
  ("mul.rn.f32", parseBinaryF32 opcode .multiplyRnF32),
  ("mad.rn.f32", parseTernary opcode .madRnF32 .f32 .f32),
  ("fma.rn.f32", parseTernary opcode .fmaRnF32 .f32 .f32),
  ("cvt.rn.f32.u32", parseConversion opcode .convertRnF32U32 (.f32, .f32) (.b32, .u32)),
  ("cvt.rn.f32.s32", parseConversion opcode .convertRnF32S32 (.f32, .f32) (.b32, .u32)),
  ("cvt.rzi.u32.f32", parseConversion opcode .convertRziU32F32 (.b32, .u32) (.f32, .f32)),
  ("setp.ge.u32", parseSetPredicate opcode .setPredicateGeU32 (.b32, .u32)),
  ("setp.eq.u32", parseSetPredicate opcode .setPredicateEqU32 (.b32, .u32)),
  ("setp.gt.s32", parseSetPredicate opcode .setPredicateGtS32 (.b32, .u32)),
  ("selp.b32", parseSelect opcode),
  ("selp.f32", parseSelectF32 opcode),
  ("st.global.u8", parseStoreMemory opcode .storeGlobalU8 (.b64, .globalAddress)
    (.b32, .u32) guard),
  ("setp.lt.f32", parseSetPredicate opcode .setPredicateLtF32 (.f32, .f32)),
  ("ld.global.u32", parseLoadMemory opcode .loadGlobalU32 (.b32, .u32) (.b64, .globalAddress)),
  ("st.global.u32", parseStoreMemory opcode .storeGlobalU32 (.b64, .globalAddress)
    (.b32, .u32) guard),
  ("ld.global.f32", parseLoadMemory opcode .loadGlobalF32 (.f32, .f32) (.b64, .globalAddress)),
  ("st.global.f32", parseStoreMemory opcode .storeGlobalF32 (.b64, .globalAddress)
    (.f32, .f32) guard),
  ("ld.shared.u32", parseLoadMemory opcode .loadSharedU32 (.b32, .u32) (.b32, .sharedAddress)),
  ("st.shared.u32", parseStoreMemory opcode .storeSharedU32 (.b32, .sharedAddress)
    (.b32, .u32) guard),
  ("bar.sync", parseBarrier opcode),
  ("ret", parseReturn opcode)]

def parseInstruction : Parse Unit := do
  let guard ← parseGuard
  let opcode ← take .word "instruction opcode"
  if opcode.text = ascii "bra" then
    match guard with
    | none =>
      fail .ptxUnsupportedInstruction opcode
        "only predicate-guarded forward branches are advertised"
        opcode.text
    | some guard => parseBranch opcode guard
  else if guard.isSome ∧ opcode.text ≠ ascii "st.global.u32" ∧
    opcode.text ≠ ascii "st.shared.u32" then
    fail .ptxUnsupportedInstruction opcode "this instruction form does not advertise predication"
      opcode.text
  else
    match (forms opcode guard).find? fun form => ascii form.1 = opcode.text with
    | none =>
      fail .ptxUnsupportedInstruction opcode
        "instruction form is outside the PTX 9.0/sm_70 manifest"
        opcode.text
    | some form => form.2

theorem parseInstruction_consumes : parseInstruction.Consumes :=
  .later fun _ => .first (take_consumes _ _)

/-! ## 4. The whole source -/

/-- One turn in the body of a kernel; `sawInstruction` says whether declarations are over. -/
def parseStatement (sawInstruction : Bool) : Parse (ForInStep Bool) := do
  let s ← Parser.look
  if s.current.kind = .rightBrace ∨ s.current.kind = .finish then return .done sawInstruction
  else if s.current.kind = .invalid then fail .ptxSyntax s.current "invalid PTX token"
  else if s.current.isWord ".reg" then
    if sawInstruction then
      fail .ptxSyntax s.current "register declarations must precede labels and instructions"
    else
      parseRegisterDeclaration
      return .yield sawInstruction
  else if s.current.isWord ".shared" then
    if sawInstruction then
      fail .ptxSyntax s.current "shared declarations must precede labels and instructions"
    else
      parseSharedDeclaration
      return .yield sawInstruction
  else if s.current.kind = .word ∧ (s.peek 1).kind = .colon then
    parseLabel
    return .yield true
  else
    parseInstruction
    return .yield true

theorem parseStatement_consumes (sawInstruction : Bool) :
    (parseStatement sawInstruction).Consumes Parser.GoesOn := by
  refine .later fun s => ?_
  split_ifs
  · exact .ok_of_not id
  · exact .fail _
  · exact .fail _
  · exact .first (.first (takeWord_consumes _))
  · exact .fail _
  · exact .first (.first (takeWord_consumes _))
  · exact .first (.first (take_consumes _ _))
  · exact .first parseInstruction_consumes

def parseBody : Parse Unit := do
  let _ ← Parser.loop parseStatement parseStatement_consumes false
  let s ← Parser.look
  if s.current.kind = .finish then fail .ptxSyntax s.current "unterminated kernel body"
  else return ()

def parseEntry : Parse Unit := do
  let s ← Parser.look
  if s.current.isWord ".visible" then advance
  let _ ← takeWord ".entry"
  let name ← take .word "kernel name"
  Parser.update fun s => { s with kernel := { s.kernel with name := name.text } }
  let _ ← take .leftParenthesis "'('"
  parseParameters
  let _ ← take .rightParenthesis "')'"
  let _ ← take .leftBrace "'\x7b'"
  parseBody
  let _ ← take .rightBrace "'\x7d'"
  let s ← Parser.look
  if s.current.kind ≠ .finish then
    fail .ptxSyntax s.current "only one PTX entry is supported by this frontend slice"
  else return ()

/-- The branches get the places of their labels, one after the other. -/
def resolveBranches : List PendingBranch → Parse Unit
  | [] => return ()
  | branch :: rest => do
    let s ← Parser.look
    let token : Token := ⟨.word, [], branch.location⟩
    match s.labels.lookup branch.label with
    | none => fail .ptxUnknownSymbol token "branch target label is not declared" branch.label
    | some target =>
      if 2 ^ 32 ≤ target then
        fail .ptxSyntax token "branch target exceeds the Kernel IR v2 operation bound" branch.label
      else
        Parser.update fun s => { s with kernel := { s.kernel with
          operations := s.kernel.operations.modify branch.operationIndex fun o =>
            { o with attr := UInt32.ofNat target } } }
        resolveBranches rest

structure ParseResult where
  kernel : Option Kernel
  diagnostics : List Diagnostic
deriving DecidableEq

def ParseResult.ok (result : ParseResult) : Bool :=
  result.kernel.isSome && result.diagnostics.isEmpty

def parseSource : Parse Kernel := do
  parseHeader
  parseEntry
  let s ← Parser.look
  resolveBranches s.pendingBranches
  let s ← Parser.look
  return s.kernel

def parse (source : Text) : ParseResult :=
  if 4 * 1024 * 1024 < source.length then
    ⟨none, [⟨.ptxSyntax, {}, "PTX source exceeds the 4 MiB parser bound", []⟩]⟩
  else
    let scanned := tokenize ⟨source, {}⟩
    match parseSource.run { tokens := scanned.1, finish := scanned.2 } with
    | .error diagnostic => ⟨none, [diagnostic]⟩
    | .ok (kernel, _) =>
      let verification := kernel.verifyKernel
      if verification ≠ [] then ⟨none, verification⟩ else ⟨some kernel, []⟩

/-- **A kernel that the front end accepts has no complaints.** -/
theorem verifyKernel_of_parse {source : Text} {kernel : Kernel}
    (h : (parse source).kernel = some kernel) :
    kernel.verifyKernel = [] := by
  unfold parse at h
  dsimp only at h
  split_ifs at h
  split at h
  · cases h
  · split_ifs at h with hverified
    · cases h
      simpa using hverified

/-- Every register that an operation reads is the result of an operation before it. -/
def ReadsEarlier (kernel : Kernel) : Prop :=
  ∀ (i : Nat) (o : Operation) (r : UInt32), kernel.operations[i]? = some o → r ∈ o.reads →
    kernel.code.DefinedBefore i r

/-- No register is the result of two operations. -/
def AssignsOnce (kernel : Kernel) : Prop :=
  ∀ (i j : Nat) (o p : Operation) (r : UInt32), kernel.operations[i]? = some o →
    kernel.operations[j]? = some p → o.Defines r → p.Defines r → i = j

/-- No operation reads what it defines itself. -/
def ReadsNoOwn (kernel : Kernel) : Prop :=
  ∀ (i : Nat) (o : Operation) (r : UInt32), kernel.operations[i]? = some o → r ∈ o.reads →
    ¬ o.Defines r

/-- **Definitions in a kernel that the front end accepts.**  Nothing is defined twice; what is read
was defined earlier exactly when no instruction names its destination among its operands. -/
theorem parse_definitions {source : Text} {kernel : Kernel}
    (h : (parse source).kernel = some kernel) :
    AssignsOnce kernel ∧ (ReadsEarlier kernel ↔ ReadsNoOwn kernel) := by
  have hcode := Kernel.code_wellFormed (verifyKernel_of_parse h)
  have hat : ∀ {i : Nat} {o : Operation}, kernel.operations[i]? = some o →
      kernel.code.operations[i]? = some o.toInstruction := by
    intro i o ho
    rw [Kernel.code_operations, ho]
    rfl
  refine ⟨fun i j o p r hi hj ho hp => hcode.single (hat hi) (hat hj) ho hp, ?_, ?_⟩
  · intro hearlier i o r hi hr
    exact (hcode.definedBefore_iff (hat hi) hr).1 (hearlier i o r hi hr)
  · intro hown i o r hi hr
    exact (hcode.definedBefore_iff (hat hi) hr).2 (hown i o r hi hr)

/-- A source with this body. -/
def sourceOf (body : String) : Text :=
  ascii (".version 9.0 .target sm_70 .address_size 64 .entry k() \x7b " ++ body ++ " \x7d")

theorem parse_definitions_sum :
    ∃ kernel,
    (parse (sourceOf ".reg .u32 %r<2>; mov.u32 %r0, 7; sub.u32 %r1, %r0, %r0; ret;")).kernel =
      some kernel ∧ AssignsOnce kernel ∧ kernel.operations.length = 3 := by
  have hparse :
      (parse (sourceOf ".reg .u32 %r<2>; mov.u32 %r0, 7; sub.u32 %r1, %r0, %r0; ret;")).kernel =
      some {
        name := ascii "k"
        registers := [⟨.u32, ⟨1, 58⟩⟩, ⟨.u32, ⟨1, 58⟩⟩]
        operations := [
          { opcode := .moveImmediateU32, result := 0, inputs := .replicate 3 0, attr := 7,
            location := ⟨1, 75⟩ },
          { opcode := .subU32, result := 1, inputs := .replicate 3 0, inputCount := 2,
            location := ⟨1, 91⟩ },
          { inputs := .replicate 3 0, location := ⟨1, 114⟩ }] } := by
    decide +kernel
  exact ⟨_, hparse, (parse_definitions hparse).1, rfl⟩

/-- **An instruction may read its own destination.**  Nothing is stored in the register before. -/
theorem own_destination_accepted :
    ∃ kernel, (parse (sourceOf ".reg .u32 %r; sub.u32 %r, %r, %r; ret;")).ok = true ∧
      (parse (sourceOf ".reg .u32 %r; sub.u32 %r, %r, %r; ret;")).kernel = some kernel ∧
      ¬ ReadsEarlier kernel := by
  have hparse : parse (sourceOf ".reg .u32 %r; sub.u32 %r, %r, %r; ret;") = ⟨some {
        name := ascii "k"
        registers := [⟨.u32, ⟨1, 58⟩⟩]
        operations := [
          { opcode := .subU32, result := 0, inputs := .replicate 3 0, inputCount := 2,
            location := ⟨1, 72⟩ },
          { inputs := .replicate 3 0, location := ⟨1, 92⟩ }] }, []⟩ := by
    decide +kernel
  rw [hparse]
  refine ⟨_, rfl, rfl, fun hearlier => ?_⟩
  obtain ⟨j, -, hj, -⟩ := hearlier 0 _ 0 rfl (by decide)
  exact absurd hj (Nat.not_lt_zero j)

end MetaFlux.Ptx
