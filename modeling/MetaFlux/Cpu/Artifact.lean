/-
# Artifacts

The compiler hands a verified kernel to the CPU backend as text: one word after the other, in lines.
The backend reads it word by word and then checks what it has read once more, with a verifier of its
own.

* §1: the writer; §2: the backend's verifier; §3: the reader.
* §4: the backend's verifier accepts exactly the well-formed kernels within its limits
  (`validateKernel_eq_none`).
* §5: a verified kernel is read back from its text (`readKernel_takes`), places and the unused input
  slots of an operation apart, which are not written.  The reader does not take every text the
  writer makes: it has a limit for the length of a text, and `verifyKernel` has none for the length
  of a name.
-/
import MetaFlux.Base.Codec
import MetaFlux.Compiler.Ir

namespace MetaFlux.Cpu

open Base Compiler Reader

attribute [local simp] Kernel.code

/-! ## 1. The writer -/

/-- A register, or the sign for none. -/
def registerWord (r : UInt32) : Text := if r = noValue then ascii "-" else decimal r.toNat

def flagWord (flag : Bool) : Text := if flag then ascii "1" else ascii "0"

def parameterLine (kind : ParameterKind) : List Text :=
  [ascii "PARAMETER", ascii (parameterKindName kind)]

def sharedLine (words : UInt32) : List Text := [ascii "SHARED_U32", decimal words.toNat]

def registerLine (kind : ValueKind) : List Text := [ascii "REGISTER", ascii (valueKindName kind)]

def operationLine (o : Instruction) : List Text :=
  [ascii "OP", ascii (opcodeName o.opcode), registerWord o.result, decimal o.inputCount.toNat] ++
    o.used.map (fun input => decimal input.toNat) ++
    [decimal o.attr.toNat, flagWord o.flag, registerWord o.predicate, flagWord o.predicateNegated]

def kernelLines (kernel : Kernel) : List (List Text) :=
  [[ascii "MFKIR", decimal kernelIrSchemaVersion.toNat],
    [ascii "PTX", decimal kernel.ptxMajor.toNat, decimal kernel.ptxMinor.toNat],
    [ascii "KERNEL", kernel.name],
    [ascii "PARAMETERS", decimal kernel.parameters.length]] ++
  kernel.code.parameters.map parameterLine ++
  [[ascii "SHARED_ALLOCATIONS", decimal kernel.sharedAllocations.length]] ++
  kernel.code.sharedWords.map sharedLine ++
  [[ascii "REGISTERS", decimal kernel.registers.length]] ++
  kernel.code.registers.map registerLine ++
  [[ascii "OPERATIONS", decimal kernel.operations.length]] ++
  kernel.code.operations.map operationLine ++
  [[ascii "END"]]

def serializeKernel (kernel : Kernel) : Except (List Diagnostic) Text :=
  if kernel.verifyKernel ≠ [] then .error kernel.verifyKernel
  else .ok ((kernelLines kernel).flatMap writeLine)

/-! ## 2. The backend's verifier -/

inductive ExecutionError where
  | invalidArtifact | schemaMismatch | unsupportedOperation | invalidLaunch | argumentCount
  | argumentType | addressOverflow | misalignedAddress | outOfBounds | writeToReadOnly
  | barrierDivergence | unsupportedFpEnvironment | stepLimit | cancelled
deriving DecidableEq, Repr

/-! The reader and the verifier of the interpreter have limits and tables of their own. -/

namespace Interpreter

def maximumArtifactBytes : Nat := 4 * 1024 * 1024
def maximumParameters : Nat := 64
def maximumSharedAllocations : Nat := 64
def maximumSharedWords : Nat := 49152 / 4
def maximumRegisters : Nat := 4096
def maximumOperations : Nat := 65536

def operationContract : Opcode → OperationContract
  | .loadParameterAddress => ⟨true, .globalAddress, []⟩
  | .loadParameterU32 | .moveSpecialU32 | .moveImmediateU32 => ⟨true, .u32, []⟩
  | .loadParameterF32 => ⟨true, .f32, []⟩
  | .loadSharedAddress => ⟨true, .sharedAddress, []⟩
  | .absS32 => ⟨true, .u32, [.u32]⟩
  | .absF32 | .sqrtRnF32 | .expF32 => ⟨true, .f32, [.f32]⟩
  | .addU32 | .subU32 | .multiplyLoU32 | .multiplyHiU32 => ⟨true, .u32, [.u32, .u32]⟩
  | .madLoU32 => ⟨true, .u32, [.u32, .u32, .u32]⟩
  | .multiplyWideU32 => ⟨true, .u64, [.u32]⟩
  | .addGlobalAddress => ⟨true, .globalAddress, [.globalAddress, .u64]⟩
  | .addSharedAddress => ⟨true, .sharedAddress, [.sharedAddress, .u32]⟩
  | .addRnF32 | .subRnF32 | .divRnF32 | .multiplyRnF32 => ⟨true, .f32, [.f32, .f32]⟩
  | .madRnF32 | .fmaRnF32 => ⟨true, .f32, [.f32, .f32, .f32]⟩
  | .convertRnF32U32 | .convertRnF32S32 => ⟨true, .f32, [.u32]⟩
  | .convertRziU32F32 => ⟨true, .u32, [.f32]⟩
  | .setPredicateGeU32 | .setPredicateEqU32 | .setPredicateGtS32 => ⟨true, .predicate, [.u32, .u32]⟩
  | .setPredicateLtF32 => ⟨true, .predicate, [.f32, .f32]⟩
  | .selectU32 => ⟨true, .u32, [.u32, .u32, .predicate]⟩
  | .selectF32 => ⟨true, .f32, [.f32, .f32, .predicate]⟩
  | .branchIf => ⟨false, .u32, [.predicate]⟩
  | .loadGlobalU32 => ⟨true, .u32, [.globalAddress]⟩
  | .storeGlobalU32 | .storeGlobalU8 => ⟨false, .u32, [.globalAddress, .u32]⟩
  | .loadGlobalF32 => ⟨true, .f32, [.globalAddress]⟩
  | .storeGlobalF32 => ⟨false, .u32, [.globalAddress, .f32]⟩
  | .storeGlobalU64 => ⟨false, .u32, [.globalAddress, .u64]⟩
  | .loadSharedU32 => ⟨true, .u32, [.sharedAddress]⟩
  | .storeSharedU32 => ⟨false, .u32, [.sharedAddress, .u32]⟩
  | .barrierSync | .ret => ⟨false, .u32, []⟩

def mayBePredicated (opcode : Opcode) : Bool :=
  opcode = .storeGlobalU32 || opcode = .storeGlobalU64 || opcode = .storeSharedU32

/-- They agree with the compiler's. -/
theorem operationContract_eq (opcode : Opcode) :
    operationContract opcode = Compiler.operationContract opcode := by
  cases opcode <;> rfl

end Interpreter

def validShared : Nat → List UInt32 → Bool
  | _, [] => true
  | total, words :: rest =>
    decide (words ≠ 0 ∧ total + words.toNat ≤ Interpreter.maximumSharedWords) &&
      validShared (total + words.toNat) rest

section Validation

variable (c : Code)

def usesOpcode (opcode : Opcode) : Bool := c.operations.any fun o => o.opcode = opcode

def validResult (defined : List UInt32) (o : Instruction) : Bool :=
  let contract := Interpreter.operationContract o.opcode
  if contract.hasResult then
    c.registers[o.result.toNat]? = some contract.resultKind ∧ o.result ∉ defined
  else o.result = noValue

/-- What is defined after the operation. -/
def definedAfter (defined : List UInt32) (o : Instruction) : List UInt32 :=
  if (Interpreter.operationContract o.opcode).hasResult then o.result :: defined else defined

def validInputs (defined : List UInt32) : List UInt32 → List ValueKind → Bool
  | [], _ => true
  | _ :: _, [] => false
  | input :: rest, kind :: kinds =>
    decide (c.registers[input.toNat]? = some kind ∧ input ∈ defined) &&
      validInputs defined rest kinds

def validGuard (defined : List UInt32) (o : Instruction) : Bool :=
  if o.predicate ≠ noValue then
    Interpreter.mayBePredicated o.opcode = true ∧
      c.registers[o.predicate.toNat]? = some .predicate ∧
      o.predicate ∈ defined
  else o.predicateNegated = false

def validAttribute (index : Nat) (o : Instruction) : Bool :=
  match o.opcode with
  | .loadParameterAddress => c.parameters[o.attr.toNat]? = some .bufferU32
  | .loadParameterU32 => c.parameters[o.attr.toNat]? = some .scalarU32
  | .loadParameterF32 => c.parameters[o.attr.toNat]? = some .scalarF32
  | .loadSharedAddress => o.attr.toNat < c.sharedWords.length
  | .moveSpecialU32 => o.attr ≤ 7
  | .branchIf => index < o.attr.toNat ∧ (c.operations[o.attr.toNat]?).map (·.opcode) = some .ret
  | .barrierSync => o.attr = 0
  | .ret => index + 1 = c.operations.length
  | _ => true

def validOperation (index : Nat) (defined : List UInt32) (o : Instruction) : Bool :=
  let contract := Interpreter.operationContract o.opcode
  decide (o.inputCount.toNat = contract.inputCount ∧ o.inputCount ≤ 3) && validResult c defined o &&
    validInputs c (definedAfter defined o) o.used contract.inputKinds &&
    validGuard c (definedAfter defined o) o && validAttribute c index o &&
    decide (o.opcode = .branchIf ∨ o.flag = false)

def validOperations : Nat → List UInt32 → List Instruction → Bool
  | _, _, [] => true
  | index, defined, o :: rest =>
    validOperation c index defined o && validOperations (index + 1) (definedAfter defined o) rest

def validateKernel : Option ExecutionError :=
  if c.sharedWords.length ≤ Interpreter.maximumSharedAllocations ∧
    validShared 0 c.sharedWords = true ∧
      ¬ (usesOpcode c .barrierSync = true ∧ usesOpcode c .branchIf = true) ∧
      validOperations c 0 [] c.operations = true ∧
      (c.operations.getLast?).map (·.opcode) = some .ret then none
  else some .invalidArtifact

end Validation

/-! ## 3. The reader -/

structure ParseFailure where
  error : ExecutionError := .invalidArtifact
  operation : UInt32 := noValue
deriving DecidableEq, Repr

instance : Inhabited ParseFailure := ⟨{}⟩

/-- Most failures are of an artifact that is not one. -/
abbrev TokenReader (α : Type) := Reader ParseFailure Text α

def parseU32 (text : Text) : Option UInt32 := (readDecimal (2 ^ 32) text).map UInt32.ofNat

def parseBool (text : Text) : Option Bool :=
  if text = ascii "0" then some false else if text = ascii "1" then some true else none

/-- A search through a table of names. -/
def entryOf {α : Type} (entries : List (String × α)) (text : Text) : Option α :=
  (entries.find? fun entry => ascii entry.1 = text).map Prod.snd

def parseParameterKind : Text → Option ParameterKind :=
  entryOf [("buffer_u32", .bufferU32), ("scalar_u32", .scalarU32), ("scalar_f32", .scalarF32)]

def parseValueKind : Text → Option ValueKind :=
  entryOf [
    ("predicate", .predicate), ("u32", .u32), ("u64", .u64), ("f32", .f32),
    ("global_address", .globalAddress), ("shared_address", .sharedAddress)]

def parseOpcode : Text → Option Opcode :=
  entryOf [
    ("load_parameter_address", .loadParameterAddress), ("load_parameter_u32", .loadParameterU32),
    ("load_parameter_f32", .loadParameterF32), ("load_shared_address", .loadSharedAddress),
    ("move_special_u32", .moveSpecialU32), ("move_immediate_u32", .moveImmediateU32),
    ("abs_s32", .absS32), ("abs_f32", .absF32), ("sqrt_rn_f32", .sqrtRnF32), ("exp_f32", .expF32),
    ("add_u32", .addU32), ("sub_u32", .subU32), ("multiply_lo_u32", .multiplyLoU32),
    ("multiply_hi_u32", .multiplyHiU32), ("mad_lo_u32", .madLoU32),
    ("multiply_wide_u32", .multiplyWideU32), ("add_global_address", .addGlobalAddress),
    ("add_shared_address", .addSharedAddress), ("add_rn_f32", .addRnF32),
    ("sub_rn_f32", .subRnF32), ("div_rn_f32", .divRnF32), ("multiply_rn_f32", .multiplyRnF32),
    ("mad_rn_f32", .madRnF32), ("fma_rn_f32", .fmaRnF32),
    ("convert_rn_f32_u32", .convertRnF32U32), ("convert_rn_f32_s32", .convertRnF32S32),
    ("convert_rzi_u32_f32", .convertRziU32F32), ("set_predicate_ge_u32", .setPredicateGeU32),
    ("set_predicate_eq_u32", .setPredicateEqU32), ("set_predicate_lt_f32", .setPredicateLtF32),
    ("set_predicate_gt_s32", .setPredicateGtS32), ("select_u32", .selectU32),
    ("select_f32", .selectF32), ("branch_if", .branchIf), ("load_global_u32", .loadGlobalU32),
    ("store_global_u32", .storeGlobalU32), ("load_global_f32", .loadGlobalF32),
    ("store_global_f32", .storeGlobalF32), ("store_global_u8", .storeGlobalU8),
    ("store_global_u64", .storeGlobalU64), ("load_shared_u32", .loadSharedU32),
    ("store_shared_u32", .storeSharedU32), ("barrier_sync", .barrierSync), ("return", .ret)]

/-- A register, or none for the sign. -/
def parseRegister (text : Text) : Option UInt32 :=
  if text = ascii "-" then some noValue else parseU32 text

def expect (word : String) : TokenReader Unit := do
  let token ← item
  check (token = ascii word)

def takeU32 : TokenReader UInt32 := do
  let token ← item
  ofOption (parseU32 token)

/-- A count under its heading. -/
def takeCount (heading : String) (maximum : Nat) : TokenReader Nat := do
  expect heading
  let count ← takeU32
  check (count.toNat ≤ maximum)
  return count.toNat

def takeHeader : TokenReader Text := do
  expect "MFKIR"
  labelled { error := .schemaMismatch } do
    let schema ← takeU32
    check (schema = 2)
  expect "PTX"
  labelled { error := .schemaMismatch } do
    let major ← takeU32
    let minor ← takeU32
    check (major = 9 ∧ minor = 0)
  expect "KERNEL"
  let name ← item
  check (name ≠ [])
  return name

def takeParameter : TokenReader ParameterKind := do
  expect "PARAMETER"
  let text ← item
  ofOption (parseParameterKind text)

def takeShared : TokenReader UInt32 := do
  expect "SHARED_U32"
  takeU32

def takeRegister : TokenReader ValueKind := do
  expect "REGISTER"
  let text ← item
  ofOption (parseValueKind text)

/-- The slots past the last input are zero. -/
def slots (inputs : List UInt32) : Vector UInt32 3 :=
  #v[inputs.getD 0 0, inputs.getD 1 0, inputs.getD 2 0]

def takeOperands (opcode : Opcode) : TokenReader Instruction := do
  let resultText ← item
  let result ← ofOption (parseRegister resultText)
  let inputCount ← takeU32
  check (inputCount ≤ 3)
  let inputs ← times takeU32 inputCount.toNat
  let attr ← takeU32
  let flagText ← item
  let predicateText ← item
  let negatedText ← item
  let flag ← ofOption (parseBool flagText)
  let predicateNegated ← ofOption (parseBool negatedText)
  let predicate ← ofOption (parseRegister predicateText)
  return { opcode, result, inputs := slots inputs, inputCount, attr, flag, predicate,
           predicateNegated }

def takeOperation (index : Nat) : TokenReader Instruction := do
  let opcodeText ← labelled { operation := UInt32.ofNat index } do
    expect "OP"
    item
  let opcode ← labelled { error := .unsupportedOperation, operation := UInt32.ofNat index }
    (ofOption (parseOpcode opcodeText))
  labelled { operation := UInt32.ofNat index } (takeOperands opcode)

/-- The name is read and dropped by `parseKernel`. -/
def readKernel : TokenReader (Text × Code) := do
  let name ← takeHeader
  let parameterCount ← takeCount "PARAMETERS" Interpreter.maximumParameters
  let parameters ← times takeParameter parameterCount
  let sharedCount ← takeCount "SHARED_ALLOCATIONS" Interpreter.maximumSharedAllocations
  let sharedWords ← times takeShared sharedCount
  let registerCount ← takeCount "REGISTERS" Interpreter.maximumRegisters
  let registers ← times takeRegister registerCount
  let operationCount ← takeCount "OPERATIONS" Interpreter.maximumOperations
  check (operationCount ≠ 0)
  let operations ← timesFrom takeOperation 0 operationCount
  expect "END"
  finished
  return (name, { parameters, sharedWords, registers, operations })

def parseKernel (text : Text) : Except ParseFailure Code :=
  if text.length > Interpreter.maximumArtifactBytes then .error {}
  else
    match readKernel.run (words text) with
    | .error failure => .error failure
    | .ok ((_, code), _) =>
      match validateKernel code with
      | some error => .error { error }
      | none => .ok code

/-! ## 4. What the backend's verifier accepts -/

variable {index : Nat} {o : Instruction}

section Validation

variable {c : Code} {defined : List UInt32}

theorem validInputs_iff :
    ∀ {inputs : List UInt32} {kinds : List ValueKind}, inputs.length = kinds.length →
      (validInputs c defined inputs kinds = true ↔ ∀ (n : Nat) input, inputs[n]? = some input →
        c.registers[input.toNat]? = kinds[n]? ∧ input ∈ defined)
  | [], _, _ => by simp [validInputs]
  | _ :: _, [], hlen => by simp at hlen
  | i :: inputs, kind :: kinds, hlen => by
    rw [validInputs, Bool.and_eq_true, decide_eq_true_eq, validInputs_iff (Nat.succ.inj hlen)]
    constructor
    · rintro ⟨hfirst, hrest⟩ n input hn
      cases n with
      | zero =>
        rw [List.getElem?_cons_zero, Option.some.injEq] at hn
        subst hn
        exact hfirst
      | succ n => exact hrest n input hn
    · intro h
      exact ⟨h 0 i rfl, fun n input hn => h (n + 1) input hn⟩

theorem validAttribute_iff : validAttribute c index o = true ↔ c.AttributeFits index o := by
  unfold validAttribute Code.AttributeFits
  cases o.opcode <;> simp

theorem mem_definedAfter {r : UInt32} : r ∈ definedAfter defined o ↔ r ∈ defined ∨ o.Defines r := by
  unfold definedAfter Instruction.Defines
  rw [Interpreter.operationContract_eq]
  cases (operationContract o.opcode).hasResult with
  | false => simp
  | true => simp [or_comm, eq_comm]

/-- One operation, after those that are defined before it. -/
theorem validOperation_iff (hdefined : ∀ r, r ∈ defined ↔ c.DefinedBefore index r) :
    validOperation c index defined o = true ↔ c.Fits index o := by
  have hafter : ∀ r, r ∈ definedAfter defined o ↔ c.DefinedBefore index r ∨ o.Defines r := by
    intro r
    rw [mem_definedAfter, hdefined]
  have hle := Code.inputCount_le o.opcode
  have hused : o.inputCount.toNat = (operationContract o.opcode).inputCount →
      o.used.length = (operationContract o.opcode).inputKinds.length := by
    intro hcount
    rw [Instruction.used, List.length_take, Vector.length_toList, hcount]
    exact Nat.min_eq_left hle
  constructor
  · intro h
    simp only [validOperation, Interpreter.operationContract_eq, Bool.and_eq_true,
      decide_eq_true_eq] at h
    obtain ⟨⟨⟨⟨⟨⟨hcount, -⟩, hresult⟩, hinputs⟩, hguard⟩, hattribute⟩, hflag⟩ := h
    rw [validInputs_iff (hused hcount)] at hinputs
    unfold validGuard at hguard
    simp only [validResult, Interpreter.operationContract_eq] at hresult
    refine ⟨hcount, fun hres => ?_, fun hres => ?_, ?_, fun n input hn => ?_, fun hsome => ?_,
      fun hnone => ?_, validAttribute_iff.1 hattribute, hflag.resolve_left⟩
    · rw [if_pos hres, decide_eq_true_eq] at hresult
      exact hresult.1
    · rw [hres, if_neg Bool.false_ne_true, decide_eq_true_eq] at hresult
      exact hresult
    · rintro r ⟨hres, rfl⟩ hbefore
      rw [if_pos hres, decide_eq_true_eq] at hresult
      exact hresult.2 ((hdefined _).2 hbefore)
    · exact ⟨(hinputs n input hn).1, (hafter input).1 (hinputs n input hn).2⟩
    · rw [if_pos hsome, decide_eq_true_eq] at hguard
      exact ⟨hguard.1, hguard.2.1, (hafter _).1 hguard.2.2⟩
    · rw [if_neg (not_not.2 hnone), decide_eq_true_eq] at hguard
      exact hguard
  · intro h
    have hsmall : o.inputCount ≤ 3 := by
      rw [UInt32.le_iff_toNat_le, h.count]
      exact hle
    simp only [validOperation, Interpreter.operationContract_eq, Bool.and_eq_true,
      decide_eq_true_eq]
    refine ⟨⟨⟨⟨⟨⟨h.count, hsmall⟩, ?_⟩, ?_⟩, ?_⟩, validAttribute_iff.2 h.selects⟩, ?_⟩
    · simp only [validResult, Interpreter.operationContract_eq]
      split
      · next hres =>
        rw [decide_eq_true_eq]
        exact ⟨h.result hres, fun hmem => h.fresh _ ⟨hres, rfl⟩ ((hdefined _).1 hmem)⟩
      · next hres =>
        rw [decide_eq_true_eq]
        exact h.noResult (by simpa using hres)
    · rw [validInputs_iff (hused h.count)]
      exact fun n input hn => ⟨(h.inputs n input hn).1, (hafter input).2 (h.inputs n input hn).2⟩
    · unfold validGuard
      split
      · next hsome =>
        rw [decide_eq_true_eq]
        obtain ⟨hmay, hkind, hdef⟩ := h.guard hsome
        exact ⟨hmay, hkind, (hafter _).2 hdef⟩
      · next hnone =>
        rw [decide_eq_true_eq]
        exact h.negated (not_not.1 hnone)
    · rcases Classical.em (o.opcode = .branchIf) with hbranch | hbranch
      · exact .inl hbranch
      · exact .inr (h.flag hbranch)

theorem validOperations_iff : validOperations c 0 [] c.operations = true ↔
    ∀ (j : Nat) o, c.operations[j]? = some o → c.Fits j o := by
  have hstart : ∀ r, r ∈ [] ↔ c.DefinedBefore 0 r := by simp [Code.DefinedBefore]
  suffices hwalk : validOperations c 0 [] c.operations = true ↔
      ∀ j o, 0 ≤ j → c.operations[j]? = some o → c.Fits j o by simpa using hwalk
  refine walk_induction (Q := fun i rest => ∀ defined,
    (∀ r, r ∈ defined ↔ c.DefinedBefore i r) → (validOperations c i defined rest = true ↔
      ∀ j o, i ≤ j → c.operations[j]? = some o → c.Fits j o)) ?_ ?_ [] hstart
  · intro _ _
    refine iff_of_true rfl fun j o hj ho => ?_
    rw [List.getElem?_eq_none hj] at ho
    cases ho
  · intro i first rest hfirst ih defined hdefined
    have hnext : ∀ r, r ∈ definedAfter defined first ↔ c.DefinedBefore (i + 1) r := by
      intro r
      rw [mem_definedAfter, hdefined, Code.definedBefore_succ hfirst]
    rw [validOperations, Bool.and_eq_true, validOperation_iff hdefined, ih _ hnext]
    constructor
    · rintro ⟨hfits, hrest⟩ j o hj ho
      rcases Nat.eq_or_lt_of_le hj with rfl | hlater
      · rw [ho, Option.some.injEq] at hfirst
        rwa [hfirst]
      · exact hrest j o hlater ho
    · exact fun h => ⟨h i first (Nat.le_refl i) hfirst, fun j o hj => h j o (Nat.le_of_succ_le hj)⟩

/-- **The backend's verifier** accepts the well-formed kernels within its limits. -/
theorem validateKernel_eq_none : validateKernel c = none ↔
    c.sharedWords.length ≤ Interpreter.maximumSharedAllocations ∧
    validShared 0 c.sharedWords = true ∧
      ¬ (usesOpcode c .barrierSync = true ∧ usesOpcode c .branchIf = true) ∧ c.WellFormed := by
  have hformed : c.WellFormed ↔ validOperations c 0 [] c.operations = true ∧
      (c.operations.getLast?).map (·.opcode) = some .ret := by
    rw [validOperations_iff]
    exact ⟨fun h => ⟨h.fits, h.ends⟩, fun h => ⟨h.1, h.2⟩⟩
  rw [hformed]
  unfold validateKernel
  split
  · next hvalid => exact iff_of_true rfl hvalid
  · next hinvalid => exact iff_of_false (by simp) hinvalid

end Validation

/-! ## 5. Reading back -/

variable {kernel : Kernel} (kind : ValueKind) (opcode : Opcode) (value : UInt32)

open List

section Words

theorem isWord_valueKind : IsWord (ascii (valueKindName kind)) := by
  cases kind <;> decide

theorem isWord_opcode : IsWord (ascii (opcodeName opcode)) := by
  have hall : ∀ o ∈ opcodes, IsWord (ascii (opcodeName o)) := by decide +kernel
  exact hall opcode (mem_opcodes opcode)

theorem isWord_registerWord (r : UInt32) : IsWord (registerWord r) := by
  unfold registerWord
  split
  · decide
  · exact isWord_decimal _

theorem isWord_flagWord (flag : Bool) : IsWord (flagWord flag) := by
  cases flag <;> decide

theorem isBlank_of_isAlnum {b : UInt8} (h : isAlnum b = true ∨ b = 95 ∨ b = 36) :
    isBlank b = false := by
  rcases h with h | rfl | rfl
  · rw [isAlnum, Bool.or_eq_true] at h
    rcases h with h | h
    · have hlow : 65 ≤ b.toNat := by
        simp only [isAlpha, Bool.or_eq_true, Bool.and_eq_true, decide_eq_true_eq] at h
        rcases h with h | h
        · exact h.1
        · exact Nat.le_trans (by decide) h.1
      have hne : b ≠ 32 := by
        rintro rfl
        revert hlow
        decide
      have hhigh : ¬ b ≤ 13 := by
        change ¬ b.toNat ≤ 13
        omega
      simp [isBlank, hne, hhigh]
    · exact isBlank_of_isDigit h
  · decide
  · decide

/-- A kernel's name is one word. -/
theorem isWord_name {name : Text} (h : validKernelName name = true) : IsWord name := by
  cases name with
  | nil => cases h
  | cons =>
    simp only [validKernelName, Bool.and_eq_true, Bool.or_eq_true, decide_eq_true_eq,
      all_eq_true] at h
    refine ⟨cons_ne_nil _ _, fun b hb => ?_⟩
    rcases mem_cons.1 hb with rfl | hb
    · refine isBlank_of_isAlnum ?_
      rcases h.1 with (h | h) | h
      · exact .inl (by rw [isAlnum, h]; rfl)
      · exact .inr (.inl h)
      · exact .inr (.inr h)
    · refine isBlank_of_isAlnum ?_
      rcases h.2 b hb with (h | h) | h
      · exact .inl h
      · exact .inr (.inl h)
      · exact .inr (.inr h)

theorem isWord_operationLine (o : Instruction) : ∀ word ∈ operationLine o, IsWord word := by
  intro word hword
  simp only [operationLine, mem_append, mem_cons, not_mem_nil, or_false, mem_map] at hword
  rcases hword with ((rfl | rfl | rfl | rfl) | ⟨input, -, rfl⟩) | rfl | rfl | rfl | rfl
  · decide
  · exact isWord_opcode _
  · exact isWord_registerWord _
  · exact isWord_decimal _
  · exact isWord_decimal _
  · exact isWord_decimal _
  · exact isWord_flagWord _
  · exact isWord_registerWord _
  · exact isWord_flagWord _

/-- Every line of a kernel is words. -/
theorem kernelLines_words (hname : validKernelName kernel.name = true) :
    ∀ line ∈ kernelLines kernel, line ≠ [] ∧ ∀ word ∈ line, IsWord word := by
  have htwo : ∀ {w v : Text}, IsWord w → IsWord v →
      [w, v] ≠ [] ∧ ∀ word ∈ [w, v], IsWord word := by
    intro w v hw hv
    refine ⟨cons_ne_nil _ _, fun word hword => ?_⟩
    rcases mem_cons.1 hword with rfl | hword
    · exact hw
    · rw [mem_singleton.1 hword]
      exact hv
  have hparameter : ∀ kind, parameterLine kind ≠ [] ∧ ∀ word ∈ parameterLine kind, IsWord word :=
    fun kind => htwo (by decide) (by cases kind <;> decide)
  have hshared : ∀ words, sharedLine words ≠ [] ∧ ∀ word ∈ sharedLine words, IsWord word :=
    fun words => htwo (by decide) (isWord_decimal _)
  have hreg : ∀ kind, registerLine kind ≠ [] ∧ ∀ word ∈ registerLine kind, IsWord word :=
    fun kind => htwo (by decide) (isWord_valueKind kind)
  intro line hline
  simp only [kernelLines, mem_append, mem_cons, not_mem_nil, or_false, mem_map] at hline
  rcases hline with
    (((((((((rfl | rfl | rfl | rfl) | ⟨kind, -, rfl⟩) | rfl) | ⟨words, -, rfl⟩) | rfl) |
      ⟨kind, -, rfl⟩) | rfl) | ⟨o, -, rfl⟩) | rfl)
  · exact htwo (by decide) (isWord_decimal _)
  · refine ⟨cons_ne_nil _ _, fun word hword => ?_⟩
    simp only [mem_cons, not_mem_nil, or_false] at hword
    rcases hword with rfl | rfl | rfl
    · decide
    · exact isWord_decimal _
    · exact isWord_decimal _
  · exact htwo (by decide) (isWord_name hname)
  · exact htwo (by decide) (isWord_decimal _)
  · exact hparameter kind
  · exact htwo (by decide) (isWord_decimal _)
  · exact hshared words
  · exact htwo (by decide) (isWord_decimal _)
  · exact hreg kind
  · exact htwo (by decide) (isWord_decimal _)
  · exact ⟨cons_ne_nil _ _, isWord_operationLine o⟩
  · refine ⟨cons_ne_nil _ _, fun word hword => ?_⟩
    rw [mem_singleton.1 hword]
    decide

end Words

section Taking

theorem parseU32_decimal : parseU32 (decimal value.toNat) = some value := by
  rw [parseU32, readDecimal_decimal value.toNat_lt, Option.map_some, UInt32.ofNat_toNat]

theorem parseRegister_registerWord (r : UInt32) : parseRegister (registerWord r) = some r := by
  unfold parseRegister registerWord
  split
  · next hnone => rw [if_pos rfl, hnone]
  have hdigit : decimal r.toNat ≠ ascii "-" := by
    intro heq
    have hdigits := (decimal_spec r.toNat).2.1
    rw [heq] at hdigits
    revert hdigits
    decide
  rw [if_neg hdigit, parseU32_decimal]

theorem parseBool_flagWord (flag : Bool) : parseBool (flagWord flag) = some flag := by
  cases flag <;> decide

theorem parseOpcode_name : parseOpcode (ascii (opcodeName opcode)) = some opcode := by
  -- the table as a whole: its names are the same at every opcode
  have hall : ∀ o ∈ opcodes, parseOpcode (ascii (opcodeName o)) = some o := by decide +kernel
  exact hall opcode (mem_opcodes opcode)

theorem takes_expect (word : String) : Takes (expect word) [ascii word] () :=
  (Takes.item _).bind (Takes.check rfl)

theorem takes_u32 : Takes takeU32 [decimal value.toNat] value :=
  (Takes.item _).bind (Takes.ofOption (parseU32_decimal value))

theorem takes_count (heading : String) {maximum count : Nat} (hcount : count ≤ maximum)
    (hmaximum : maximum < 2 ^ 32) :
    Takes (takeCount heading maximum) [ascii heading, decimal count] count := by
  have hvalue : (UInt32.ofNat count).toNat = count :=
    UInt32.toNat_ofNat_of_lt (Nat.lt_of_le_of_lt hcount hmaximum)
  have htake := takes_u32 (UInt32.ofNat count)
  rw [hvalue] at htake
  refine (takes_expect heading).bind
    (htake.bind (Takes.check_bind (by rw [hvalue]; exact hcount) ?_))
  rw [hvalue]
  exact Takes.pure

theorem takes_parameter (kind : ParameterKind) : Takes takeParameter (parameterLine kind) kind :=
  (takes_expect _).bind ((Takes.item _).bind (Takes.ofOption (by cases kind <;> decide)))

theorem takes_shared (words : UInt32) : Takes takeShared (sharedLine words) words :=
  (takes_expect _).bind (takes_u32 words)

theorem takes_register : Takes takeRegister (registerLine kind) kind :=
  (takes_expect _).bind ((Takes.item _).bind (Takes.ofOption (by cases kind <;> decide)))

/-- An operation as it is read: the slots past its inputs are cleared. -/
def stored (o : Instruction) : Instruction := { o with inputs := slots o.used }

theorem used_length (h : o.inputCount ≤ 3) : o.used.length = o.inputCount.toNat := by
  have hle : o.inputCount.toNat ≤ 3 := UInt32.le_iff_toNat_le.1 h
  rw [Instruction.used, length_take, Vector.length_toList]
  omega

theorem takes_operands (h : o.inputCount ≤ 3) : Takes (takeOperands o.opcode)
      (registerWord o.result :: ([decimal o.inputCount.toNat] ++
        (o.used.map (fun input => decimal input.toNat) ++ ([decimal o.attr.toNat] ++
          [flagWord o.flag, registerWord o.predicate, flagWord o.predicateNegated]))))
      (stored o) := by
  have hinputs : Takes (times takeU32 o.inputCount.toNat)
      (o.used.map fun input => decimal input.toNat) o.used := by
    have hall := Takes.timesFrom o.used 0 fun _ v _ => takes_u32 v
    rwa [used_length h, map_id', ← map_eq_flatMap] at hall
  exact Takes.item_bind <| Takes.ofOption_bind (parseRegister_registerWord _) <|
    (takes_u32 _).bind <|
    Takes.check_bind h <| hinputs.bind <| (takes_u32 _).bind <| Takes.item_bind <|
    Takes.item_bind <| Takes.item_bind <| Takes.ofOption_bind (parseBool_flagWord _) <|
    Takes.ofOption_bind (parseBool_flagWord _) <|
    Takes.ofOption_bind (parseRegister_registerWord _) Takes.pure

theorem takes_operation (index : Nat) (h : o.inputCount ≤ 3) :
    Takes (takeOperation index) (operationLine o) (stored o) := by
  have hopcode : Takes (do expect "OP"; item)
      [ascii "OP", ascii (opcodeName o.opcode)] (ascii (opcodeName o.opcode)) :=
    (takes_expect "OP").bind (Takes.item _)
  exact (hopcode.labelled _).bind <| ((Takes.ofOption (parseOpcode_name o.opcode)).labelled _).bind
    ((takes_operands h).labelled _)

theorem takes_header {name : Text} (hname : name ≠ []) :
    Takes takeHeader ([ascii "MFKIR"] ++ ([decimal (2 : UInt32).toNat] ++ ([ascii "PTX"] ++
      ([decimal (9 : UInt32).toNat, decimal (0 : UInt32).toNat] ++ ([ascii "KERNEL"] ++ [name])))))
      name := by
  have hschema : Takes (do let schema ← takeU32; check (schema = 2))
      [decimal (2 : UInt32).toNat] () := (takes_u32 2).bind (Takes.check rfl)
  have hversion : Takes (do
      let major ← takeU32
      let minor ← takeU32
      check (major = 9 ∧ minor = 0))
      [decimal (9 : UInt32).toNat, decimal (0 : UInt32).toNat] () :=
    (takes_u32 9).bind ((takes_u32 0).bind (Takes.check ⟨rfl, rfl⟩))
  exact (takes_expect _).bind <| (hschema.labelled _).bind <| (takes_expect _).bind <|
    (hversion.labelled _).bind <| (takes_expect _).bind <| Takes.item_bind <|
    Takes.check_bind hname Takes.pure

/-- What the reader makes of a kernel. -/
def storedCode (c : Code) : Code := { c with operations := c.operations.map stored }

/-- The sizes that the reader takes, and the versions it wants. -/
structure Readable (kernel : Kernel) : Prop where
  major : kernel.ptxMajor = 9
  minor : kernel.ptxMinor = 0
  name : validKernelName kernel.name = true
  parameters : kernel.parameters.length ≤ Interpreter.maximumParameters
  sharedAllocations : kernel.sharedAllocations.length ≤ Interpreter.maximumSharedAllocations
  registers : kernel.registers.length ≤ Interpreter.maximumRegisters
  operations : kernel.operations.length ≤ Interpreter.maximumOperations
  some : kernel.operations ≠ []
  inputCounts : ∀ o ∈ kernel.code.operations, o.inputCount ≤ 3

/-- **A kernel is read from its lines.** -/
theorem readKernel_takes (h : Readable kernel) :
    readKernel.run (kernelLines kernel).flatten =
    .ok ((kernel.name, storedCode kernel.code), []) := by
  have hparams := Takes.timesFrom kernel.code.parameters 0 fun _ kind _ => takes_parameter kind
  have hshared := Takes.timesFrom kernel.code.sharedWords 0 fun _ words _ => takes_shared words
  have hregs := Takes.timesFrom kernel.code.registers 0 fun _ kind _ => takes_register kind
  have hops := Takes.timesFrom kernel.code.operations 0
    fun index o ho => takes_operation index (h.inputCounts o ho)
  have hlengths : kernel.code.parameters.length = kernel.parameters.length ∧
      kernel.code.sharedWords.length = kernel.sharedAllocations.length ∧
      kernel.code.registers.length = kernel.registers.length ∧
      kernel.code.operations.length = kernel.operations.length := by
    simp
  rw [map_id', hlengths.1] at hparams
  rw [map_id', hlengths.2.1] at hshared
  rw [map_id', hlengths.2.2.1] at hregs
  rw [hlengths.2.2.2] at hops
  have hlines : (kernelLines kernel).flatten =
      ([ascii "MFKIR"] ++ ([decimal (2 : UInt32).toNat] ++ ([ascii "PTX"] ++
        ([decimal (9 : UInt32).toNat, decimal (0 : UInt32).toNat] ++
          ([ascii "KERNEL"] ++ [kernel.name]))))) ++
      ([ascii "PARAMETERS", decimal kernel.parameters.length] ++
      (kernel.code.parameters.flatMap parameterLine ++
      ([ascii "SHARED_ALLOCATIONS", decimal kernel.sharedAllocations.length] ++
      (kernel.code.sharedWords.flatMap sharedLine ++
      ([ascii "REGISTERS", decimal kernel.registers.length] ++
      (kernel.code.registers.flatMap registerLine ++
      ([ascii "OPERATIONS", decimal kernel.operations.length] ++
      (kernel.code.operations.flatMap operationLine ++ ([ascii "END"] ++ []))))))))) := by
    rw [kernelLines, h.major, h.minor]
    simp only [flatMap_def]
    simp [kernelIrSchemaVersion]
  rw [hlines]
  refine (takes_header (isWord_name h.name).1).step <|
    (takes_count _ h.parameters (by decide)).step <| hparams.step <|
    (takes_count _ h.sharedAllocations (by decide)).step <| hshared.step <|
    (takes_count _ h.registers (by decide)).step <| hregs.step <|
    (takes_count _ h.operations (by decide)).step <|
    check_step (by simpa using h.some) <| hops.step <| (takes_expect _).step rfl

end Taking

/-! ## 6. Round trip -/

section RoundTrip

variable {c : Code}

/-- What an artifact says about an operation: everything but the unused slots. -/
structure InstructionFields where
  opcode : Opcode
  result : UInt32
  inputs : List UInt32
  attr : UInt32
  flag : Bool
  predicate : UInt32
  predicateNegated : Bool
deriving DecidableEq, Repr

def instructionFields (o : Instruction) : InstructionFields :=
  ⟨o.opcode, o.result, o.used, o.attr, o.flag, o.predicate, o.predicateNegated⟩

structure CodeFields where
  parameters : List ParameterKind
  sharedWords : List UInt32
  registers : List ValueKind
  operations : List InstructionFields
deriving DecidableEq, Repr

def codeFields (c : Code) : CodeFields :=
  ⟨c.parameters, c.sharedWords, c.registers, c.operations.map instructionFields⟩

theorem stored_used (h : o.inputCount ≤ 3) : (stored o).used = o.used := by
  have hlen := used_length h
  have hle : o.inputCount.toNat ≤ 3 := UInt32.le_iff_toNat_le.1 h
  rw [Instruction.used, stored, ← hlen]
  generalize o.used = inputs at hlen
  rcases inputs with _ | ⟨_, _ | ⟨_, _ | ⟨_, _ | ⟨_, _⟩⟩⟩⟩
  case cons.cons.cons.cons =>
    simp only [length_cons] at hlen
    omega
  all_goals rfl

theorem storedCode_fields (h : ∀ o ∈ c.operations, o.inputCount ≤ 3) :
    codeFields (storedCode c) = codeFields c := by
  have hmap :
      (c.operations.map stored).map instructionFields = c.operations.map instructionFields := by
    rw [map_map]
    refine map_congr_left fun o ho => ?_
    rw [Function.comp_apply, instructionFields, stored_used (h o ho)]
    rfl
  rw [codeFields, storedCode, hmap]
  rfl

theorem storedCode_operations (index : Nat) :
    (storedCode c).operations[index]? = (c.operations[index]?).map stored := by
  rw [storedCode, getElem?_map]

theorem storedCode_definedBefore (index : Nat) (r : UInt32) :
    (storedCode c).DefinedBefore index r ↔ c.DefinedBefore index r := by
  constructor
  · rintro ⟨j, o, hj, ho, hdefines⟩
    rw [storedCode_operations, Option.map_eq_some_iff] at ho
    obtain ⟨p, hp, rfl⟩ := ho
    exact ⟨j, p, hj, hp, hdefines⟩
  · rintro ⟨j, o, hj, ho, hdefines⟩
    exact ⟨j, stored o, hj, by rw [storedCode_operations, ho]; rfl, hdefines⟩

theorem storedCode_attributeFits (h : c.AttributeFits index o) :
    (storedCode c).AttributeFits index (stored o) := by
  have hsame : (stored o).opcode = o.opcode := rfl
  unfold Code.AttributeFits at h ⊢
  cases hopcode : o.opcode
  case branchIf =>
    simp only [hsame, hopcode] at h ⊢
    refine ⟨h.1, ?_⟩
    rw [storedCode_operations, Option.map_map]
    exact h.2
  case ret =>
    simp only [hsame, hopcode] at h ⊢
    rw [h, storedCode, length_map]
  case loadParameterAddress | loadParameterU32 | loadParameterF32 | loadSharedAddress |
      moveSpecialU32 | barrierSync =>
    simp only [hsame, hopcode] at h ⊢
    exact h
  all_goals simp only [hsame, hopcode]

theorem storedCode_fits (h : c.Fits index o) : (storedCode c).Fits index (stored o) := by
  have hle : o.inputCount ≤ 3 := by
    rw [UInt32.le_iff_toNat_le, h.count]
    exact Code.inputCount_le o.opcode
  refine ⟨h.count, h.result, h.noResult, fun r hr => ?_, fun n input hn => ?_, fun hsome => ?_,
    h.negated, storedCode_attributeFits h.selects, h.flag⟩
  · rw [storedCode_definedBefore]
    exact h.fresh r hr
  · rw [stored_used hle] at hn
    rw [storedCode_definedBefore]
    exact h.inputs n input hn
  · rw [storedCode_definedBefore]
    exact h.guard hsome

theorem storedCode_wellFormed (h : c.WellFormed) : (storedCode c).WellFormed := by
  refine ⟨fun index o ho => ?_, ?_⟩
  · rw [storedCode_operations, Option.map_eq_some_iff] at ho
    obtain ⟨p, hp, rfl⟩ := ho
    exact storedCode_fits (h.fits index p hp)
  · rw [storedCode, getLast?_map, Option.map_map]
    exact h.ends

/-! What `verifyKernel` says besides that the kernel is well formed. -/

theorem validShared_of_verify : ∀ {allocations : List SharedAllocation} {total : Nat},
    verifyShared total allocations = [] →
      validShared total (allocations.map SharedAllocation.words) = true
  | [], _, _ => rfl
  | allocation :: rest, total, h => by
    simp only [verifyShared, append_eq_nil_iff, complain_eq_nil, not_or, Nat.not_lt] at h
    rw [map_cons, validShared, Bool.and_eq_true, decide_eq_true_eq]
    exact ⟨h.1, validShared_of_verify h.2⟩

theorem inputCount_le_of_wellFormed (h : c.WellFormed) (ho : o ∈ c.operations) :
    o.inputCount ≤ 3 := by
  obtain ⟨index, hindex⟩ := mem_iff_getElem?.1 ho
  rw [UInt32.le_iff_toNat_le, (h.fits index o hindex).count]
  exact Code.inputCount_le o.opcode

theorem readable_of_verify (h : kernel.verifyKernel = []) : Readable kernel := by
  have hformed := Kernel.code_wellFormed h
  simp only [Kernel.verifyKernel, append_eq_nil_iff, complain_eq_nil, not_or, Nat.not_lt,
    not_not, Bool.not_eq_false] at h
  obtain ⟨⟨⟨⟨⟨⟨⟨⟨⟨⟨-, hversion⟩, hname⟩, hparams⟩, hallocs⟩, -⟩, hregs⟩, hops⟩,
    -⟩, -⟩, -⟩ := h
  exact ⟨hversion.1, hversion.2, hname, hparams, hallocs, hregs, hops.2,
    hops.1, fun o ho => inputCount_le_of_wellFormed hformed ho⟩

theorem validateKernel_storedCode (h : kernel.verifyKernel = []) :
    validateKernel (storedCode kernel.code) = none := by
  have hformed := storedCode_wellFormed (Kernel.code_wellFormed h)
  simp only [Kernel.verifyKernel, append_eq_nil_iff, complain_eq_nil, Nat.not_lt] at h
  obtain ⟨⟨⟨⟨⟨⟨⟨-, hallocs⟩, hshared⟩, -⟩, -⟩, huses⟩, -⟩, -⟩ := h
  have hopcodes : ∀ opcode, usesOpcode (storedCode kernel.code) opcode = kernel.uses opcode := by
    intro opcode
    simp [usesOpcode, storedCode, Kernel.uses, stored, Function.comp_def]
  rw [validateKernel_eq_none, hopcodes, hopcodes]
  refine ⟨?_, validShared_of_verify hshared, huses, hformed⟩
  rw [storedCode, Kernel.code, length_map]
  exact hallocs

/-- The words of an operation's line, from its fields. -/
def fieldsLine (f : InstructionFields) : List Text :=
  [ascii "OP", ascii (opcodeName f.opcode), registerWord f.result, decimal f.inputs.length] ++
    f.inputs.map (fun input => decimal input.toNat) ++
    [decimal f.attr.toNat, flagWord f.flag, registerWord f.predicate, flagWord f.predicateNegated]

theorem operationLine_eq (h : o.inputCount ≤ 3) :
    operationLine o = fieldsLine (instructionFields o) := by
  rw [operationLine, fieldsLine, instructionFields, used_length h]

/-- The lines of a readable kernel are made from its name and its fields. -/
theorem kernelLines_congr {k k' : Kernel} (h : Readable k) (h' : Readable k')
    (hname : k.name = k'.name)
    (hfields : codeFields k.code = codeFields k'.code) : kernelLines k = kernelLines k' := by
  rw [codeFields, codeFields, CodeFields.mk.injEq] at hfields
  obtain ⟨hparams, hshared, hregs, hops⟩ := hfields
  have hlines : k.code.operations.map operationLine = k'.code.operations.map operationLine := by
    have hfrom := congrArg (List.map fieldsLine) hops
    rw [map_map, map_map] at hfrom
    rw [map_congr_left fun o ho => operationLine_eq (h.inputCounts o ho),
      map_congr_left fun o ho => operationLine_eq (h'.inputCounts o ho)]
    exact hfrom
  have hcount : k.operations.length = k'.operations.length := by
    simpa using congrArg List.length hops
  have hparameterCount : k.parameters.length = k'.parameters.length := by
    simpa using congrArg List.length hparams
  have hsharedCount : k.sharedAllocations.length = k'.sharedAllocations.length := by
    simpa using congrArg List.length hshared
  have hregisterCount : k.registers.length = k'.registers.length := by
    simpa using congrArg List.length hregs
  rw [kernelLines, kernelLines, h.major, h.minor, h'.major, h'.minor, hname, hparams, hshared,
    hregs, hlines, hcount, hparameterCount, hsharedCount, hregisterCount]

theorem serializeKernel_eq (h : kernel.verifyKernel = []) :
    serializeKernel kernel = .ok ((kernelLines kernel).flatMap writeLine) :=
  if_neg (not_not.2 h)

theorem words_text (h : Readable kernel) :
    words ((kernelLines kernel).flatMap writeLine) = (kernelLines kernel).flatten :=
  words_lines (kernelLines_words h.name)

/-- How long the text of a kernel is: its name and the other words of its lines, with a blank or the
end of the line after each. -/
def textLength (kernel : Kernel) : Nat :=
  ((kernelLines kernel).flatten.map fun word => word.length + 1).sum

theorem length_text (h : Readable kernel) :
    ((kernelLines kernel).flatMap writeLine).length = textLength kernel := by
  rw [length_flatMap, textLength, map_flatten, sum_flatten, map_map]
  refine congrArg sum (map_congr_left fun line hline => ?_)
  exact length_writeLine (kernelLines_words h.name line hline).1

/-- **Artifact round trip.**  The text of a verified kernel is read back, with the same fields,
exactly if it is not too long; and two verified kernels have the same text exactly if they have the
same name and the same fields. -/
theorem artifact_round_trip (kernel : Kernel) (h : kernel.verifyKernel = []) :
    (∃ text, serializeKernel kernel = .ok text ∧
      ((∃ code, parseKernel text = .ok code ∧ codeFields code = codeFields kernel.code) ↔
        textLength kernel ≤ Interpreter.maximumArtifactBytes)) ∧
    ∀ kernel', Kernel.verifyKernel kernel' = [] →
      (serializeKernel kernel = serializeKernel kernel' ↔
        kernel.name = kernel'.name ∧ codeFields kernel.code = codeFields kernel'.code) := by
  have hreadable := readable_of_verify h
  refine ⟨⟨_, serializeKernel_eq h, ?_⟩, fun kernel' h' => ?_⟩
  · rw [parseKernel, length_text hreadable]
    split
    · next hlong =>
      refine iff_of_false ?_ (Nat.not_le.2 hlong)
      rintro ⟨code, hcode, -⟩
      cases hcode
    · next hfits =>
      rw [words_text hreadable, readKernel_takes hreadable]
      dsimp only
      rw [validateKernel_storedCode h]
      exact iff_of_true ⟨_, rfl, storedCode_fields hreadable.inputCounts⟩ (Nat.not_lt.1 hfits)
  · have hreadable' := readable_of_verify h'
    rw [serializeKernel_eq h, serializeKernel_eq h', Except.ok.injEq]
    constructor
    · intro htext
      have hwords := congrArg words htext
      rw [words_text hreadable, words_text hreadable'] at hwords
      have hread := congrArg readKernel.run hwords
      rw [readKernel_takes hreadable, readKernel_takes hreadable', Except.ok.injEq, Prod.mk.injEq,
        Prod.mk.injEq] at hread
      refine ⟨hread.1.1, ?_⟩
      rw [← storedCode_fields hreadable.inputCounts, ← storedCode_fields hreadable'.inputCounts,
        hread.1.2]
    · rintro ⟨hname, hfields⟩
      rw [kernelLines_congr hreadable hreadable' hname hfields]

theorem artifact_round_trip_short :
    (returning (ascii "k")).verifyKernel = [] ∧ ∃ text code,
      serializeKernel (returning (ascii "k")) = .ok text ∧ parseKernel text = .ok code ∧
        codeFields code = codeFields (returning (ascii "k")).code := by
  have hverified : (returning (ascii "k")).verifyKernel = [] := verifyKernel_returning (by decide)
  obtain ⟨text, htext, hiff⟩ := (artifact_round_trip _ hverified).1
  have hshort : textLength (returning (ascii "k")) ≤ Interpreter.maximumArtifactBytes := by
    decide +kernel
  obtain ⟨code, hcode, hfields⟩ := hiff.2 hshort
  exact ⟨hverified, text, code, htext, hcode, hfields⟩

theorem name_length_lt (kernel : Kernel) :
    kernel.name.length < ((kernelLines kernel).flatMap writeLine).length := by
  have hline : [ascii "KERNEL", kernel.name] ∈ kernelLines kernel := by simp [kernelLines]
  have hlen := (sublist_flatten_of_mem (mem_map_of_mem (f := writeLine) hline)).length_le
  rw [← flatMap_def] at hlen
  simp only [writeLine, length_append, length_cons] at hlen
  omega

/-- A kernel whose name alone is longer than a text may be. -/
theorem long_text_not_read :
    (returning (repeated Interpreter.maximumArtifactBytes)).verifyKernel = [] ∧
    ∃ text, serializeKernel (returning (repeated Interpreter.maximumArtifactBytes)) = .ok text ∧
      parseKernel text = .error {} := by
  have hverified :=
    verifyKernel_returning (validKernelName_repeated Interpreter.maximumArtifactBytes)
  refine ⟨hverified, _, serializeKernel_eq hverified, if_pos ?_⟩
  refine Nat.lt_trans .refl ?_
  rw [Nat.succ_eq_add_one, ← repeated_length]
  exact name_length_lt (returning (repeated Interpreter.maximumArtifactBytes))

end RoundTrip

end MetaFlux.Cpu
