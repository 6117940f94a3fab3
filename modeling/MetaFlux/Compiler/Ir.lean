/-
# Kernels

A kernel is a straight list of operations over numbered registers.  Control goes forward only: a
branch leads to the final return.  `verifyKernel` is what stands between the front ends and
everything that runs kernels; it collects its complaints and a kernel without any is accepted.

* §1: kernels, and the contract of each operation.
* §2: `verifyKernel`.  Enumerations are inductive types here, so that its checks that a kind or an
  opcode is one of them have nothing to reject.
* §3: what is true of a kernel without complaints (`code_wellFormed`).  A register is DEFINED from
  the operation on that has it as its result, that operation included: the complaint about a
  register that is read before its definition is made after the result was noted.
-/
import MetaFlux.Base.Run
import MetaFlux.Base.Text

namespace MetaFlux.Compiler

open Base

/-! ## 1. Kernels -/

inductive ParameterKind where
  | bufferU32 | scalarU32 | scalarF32
deriving DecidableEq, Repr

inductive ValueKind where
  | predicate | u32 | u64 | f32 | globalAddress | sharedAddress
deriving DecidableEq, Repr

inductive Opcode where
  | loadParameterAddress | loadParameterU32 | loadParameterF32 | loadSharedAddress
  | moveSpecialU32 | moveImmediateU32 | absS32 | absF32 | sqrtRnF32 | addU32 | subU32
  | multiplyLoU32 | madLoU32 | multiplyWideU32 | multiplyHiU32 | addGlobalAddress
  | addSharedAddress | addRnF32 | subRnF32 | divRnF32 | multiplyRnF32 | madRnF32 | fmaRnF32
  | convertRnF32U32 | convertRziU32F32 | setPredicateGeU32 | setPredicateEqU32
  | setPredicateLtF32 | setPredicateGtS32 | selectU32 | selectF32 | branchIf | loadGlobalU32
  | storeGlobalU32 | loadGlobalF32 | storeGlobalF32 | storeGlobalU8 | storeGlobalU64
  | loadSharedU32 | storeSharedU32 | barrierSync | ret | convertRnF32S32 | expF32
deriving DecidableEq, Repr

def parameterKindName : ParameterKind → String
  | .bufferU32 => "buffer_u32"
  | .scalarU32 => "scalar_u32"
  | .scalarF32 => "scalar_f32"

def valueKindName : ValueKind → String
  | .predicate => "predicate"
  | .u32 => "u32"
  | .u64 => "u64"
  | .f32 => "f32"
  | .globalAddress => "global_address"
  | .sharedAddress => "shared_address"

def opcodeName : Opcode → String
  | .loadParameterAddress => "load_parameter_address"
  | .loadParameterU32 => "load_parameter_u32"
  | .loadParameterF32 => "load_parameter_f32"
  | .loadSharedAddress => "load_shared_address"
  | .moveSpecialU32 => "move_special_u32"
  | .moveImmediateU32 => "move_immediate_u32"
  | .absS32 => "abs_s32"
  | .absF32 => "abs_f32"
  | .sqrtRnF32 => "sqrt_rn_f32"
  | .addU32 => "add_u32"
  | .subU32 => "sub_u32"
  | .multiplyLoU32 => "multiply_lo_u32"
  | .madLoU32 => "mad_lo_u32"
  | .multiplyWideU32 => "multiply_wide_u32"
  | .multiplyHiU32 => "multiply_hi_u32"
  | .addGlobalAddress => "add_global_address"
  | .addSharedAddress => "add_shared_address"
  | .addRnF32 => "add_rn_f32"
  | .subRnF32 => "sub_rn_f32"
  | .divRnF32 => "div_rn_f32"
  | .multiplyRnF32 => "multiply_rn_f32"
  | .madRnF32 => "mad_rn_f32"
  | .fmaRnF32 => "fma_rn_f32"
  | .convertRnF32U32 => "convert_rn_f32_u32"
  | .convertRziU32F32 => "convert_rzi_u32_f32"
  | .setPredicateGeU32 => "set_predicate_ge_u32"
  | .setPredicateEqU32 => "set_predicate_eq_u32"
  | .setPredicateLtF32 => "set_predicate_lt_f32"
  | .setPredicateGtS32 => "set_predicate_gt_s32"
  | .selectU32 => "select_u32"
  | .selectF32 => "select_f32"
  | .branchIf => "branch_if"
  | .loadGlobalU32 => "load_global_u32"
  | .storeGlobalU32 => "store_global_u32"
  | .loadGlobalF32 => "load_global_f32"
  | .storeGlobalF32 => "store_global_f32"
  | .storeGlobalU8 => "store_global_u8"
  | .storeGlobalU64 => "store_global_u64"
  | .loadSharedU32 => "load_shared_u32"
  | .storeSharedU32 => "store_shared_u32"
  | .barrierSync => "barrier_sync"
  | .ret => "return"
  | .convertRnF32S32 => "convert_rn_f32_s32"
  | .expF32 => "exp_f32"

/-- The kinds and opcodes in the order of their numbers. -/
def parameterKinds : List ParameterKind := [.bufferU32, .scalarU32, .scalarF32]

def valueKinds : List ValueKind := [.predicate, .u32, .u64, .f32, .globalAddress, .sharedAddress]

def opcodes : List Opcode := [
  .loadParameterAddress, .loadParameterU32, .loadParameterF32, .loadSharedAddress,
  .moveSpecialU32, .moveImmediateU32, .absS32, .absF32, .sqrtRnF32, .addU32, .subU32,
  .multiplyLoU32, .madLoU32, .multiplyWideU32, .multiplyHiU32, .addGlobalAddress,
  .addSharedAddress, .addRnF32, .subRnF32, .divRnF32, .multiplyRnF32, .madRnF32, .fmaRnF32,
  .convertRnF32U32, .convertRziU32F32, .setPredicateGeU32, .setPredicateEqU32,
  .setPredicateLtF32, .setPredicateGtS32, .selectU32, .selectF32, .branchIf, .loadGlobalU32,
  .storeGlobalU32, .loadGlobalF32, .storeGlobalF32, .storeGlobalU8, .storeGlobalU64,
  .loadSharedU32, .storeSharedU32, .barrierSync, .ret, .convertRnF32S32, .expF32]

theorem mem_parameterKinds (kind : ParameterKind) : kind ∈ parameterKinds := by
  cases kind <;> decide

theorem mem_valueKinds (kind : ValueKind) : kind ∈ valueKinds := by cases kind <;> decide

theorem mem_opcodes (opcode : Opcode) : opcode ∈ opcodes := by cases opcode <;> decide

/-- `kNoValue`. -/
def noValue : UInt32 := 0xffffffff

def kernelIrSchemaVersion : UInt32 := 2

structure SourceLocation where
  line : UInt32 := 1
  column : UInt32 := 1
deriving DecidableEq, Repr

structure Parameter where
  kind : ParameterKind := .scalarU32
  location : SourceLocation := {}
deriving DecidableEq, Repr

structure Register where
  kind : ValueKind := .u32
  location : SourceLocation := {}
deriving DecidableEq, Repr

structure SharedAllocation where
  words : UInt32 := 0
  location : SourceLocation := {}
deriving DecidableEq, Repr

/-- An operation without its place in the source text. -/
structure Instruction where
  opcode : Opcode := .ret
  result : UInt32 := noValue
  inputs : Vector UInt32 3 := .replicate 3 noValue
  inputCount : UInt32 := 0
  attr : UInt32 := 0
  flag : Bool := false
  predicate : UInt32 := noValue
  predicateNegated : Bool := false
deriving DecidableEq, Repr

structure Operation extends Instruction where
  location : SourceLocation := {}
deriving DecidableEq, Repr

structure Kernel where
  schemaVersion : UInt32 := kernelIrSchemaVersion
  ptxMajor : UInt32 := 9
  ptxMinor : UInt32 := 0
  name : Text := []
  parameters : List Parameter := []
  sharedAllocations : List SharedAllocation := []
  registers : List Register := []
  operations : List Operation := []
deriving DecidableEq, Repr

theorem slot0 : 0 < 3 := by decide
theorem slot1 : 1 < 3 := by decide
theorem slot2 : 2 < 3 := by decide

/-- The inputs that count. -/
def Instruction.used (o : Instruction) : List UInt32 := o.inputs.toList.take o.inputCount.toNat

/-- The registers that an operation reads: its inputs, and its guard. -/
def Instruction.reads (o : Instruction) : List UInt32 :=
  o.used ++ if o.predicate = noValue then [] else [o.predicate]

/-- `OperationContract`; the kinds of inputs past the count are not looked at. -/
structure OperationContract where
  hasResult : Bool
  resultKind : ValueKind
  inputKinds : List ValueKind
deriving DecidableEq, Repr

def OperationContract.inputCount (c : OperationContract) : Nat := c.inputKinds.length

def operationContract : Opcode → OperationContract
  | .loadParameterAddress => ⟨true, .globalAddress, []⟩
  | .loadParameterU32 => ⟨true, .u32, []⟩
  | .loadParameterF32 => ⟨true, .f32, []⟩
  | .loadSharedAddress => ⟨true, .sharedAddress, []⟩
  | .moveSpecialU32 | .moveImmediateU32 => ⟨true, .u32, []⟩
  | .absS32 => ⟨true, .u32, [.u32]⟩
  | .absF32 | .sqrtRnF32 | .expF32 => ⟨true, .f32, [.f32]⟩
  | .addU32 | .subU32 | .multiplyLoU32 | .multiplyHiU32 => ⟨true, .u32, [.u32, .u32]⟩
  | .madLoU32 => ⟨true, .u32, [.u32, .u32, .u32]⟩
  | .multiplyWideU32 => ⟨true, .u64, [.u32]⟩
  | .addGlobalAddress => ⟨true, .globalAddress, [.globalAddress, .u64]⟩
  | .addSharedAddress => ⟨true, .sharedAddress, [.sharedAddress, .u32]⟩
  | .addRnF32 | .subRnF32 | .divRnF32 | .multiplyRnF32 => ⟨true, .f32, [.f32, .f32]⟩
  | .madRnF32 | .fmaRnF32 => ⟨true, .f32, [.f32, .f32, .f32]⟩
  | .convertRnF32U32 | .convertRnF32S32 => ⟨true, .f32, [.u32]⟩
  | .convertRziU32F32 => ⟨true, .u32, [.f32]⟩
  | .setPredicateGeU32 | .setPredicateEqU32 | .setPredicateGtS32 => ⟨true, .predicate, [.u32, .u32]⟩
  | .setPredicateLtF32 => ⟨true, .predicate, [.f32, .f32]⟩
  | .selectU32 => ⟨true, .u32, [.u32, .u32, .predicate]⟩
  | .selectF32 => ⟨true, .f32, [.f32, .f32, .predicate]⟩
  | .branchIf => ⟨false, .u32, [.predicate]⟩
  | .loadGlobalU32 => ⟨true, .u32, [.globalAddress]⟩
  | .storeGlobalU32 => ⟨false, .u32, [.globalAddress, .u32]⟩
  | .loadGlobalF32 => ⟨true, .f32, [.globalAddress]⟩
  | .storeGlobalF32 => ⟨false, .u32, [.globalAddress, .f32]⟩
  | .storeGlobalU8 => ⟨false, .u32, [.globalAddress, .u32]⟩
  | .storeGlobalU64 => ⟨false, .u32, [.globalAddress, .u64]⟩
  | .loadSharedU32 => ⟨true, .u32, [.sharedAddress]⟩
  | .storeSharedU32 => ⟨false, .u32, [.sharedAddress, .u32]⟩
  | .barrierSync | .ret => ⟨false, .u32, []⟩

def mayBePredicated (opcode : Opcode) : Bool :=
  opcode = .storeGlobalU32 || opcode = .storeGlobalU64 || opcode = .storeSharedU32

/-! ## 2. Verification -/

inductive DiagnosticCode where
  | ptxSyntax | ptxUnsupportedVersion | ptxUnsupportedTarget | ptxUnsupportedInstruction
  | ptxDuplicateSymbol | ptxUnknownSymbol | ptxTypeMismatch
  | kernelIrSchemaMismatch | kernelIrInvalidKernel | kernelIrInvalidParameter
  | kernelIrInvalidRegister | kernelIrInvalidOperation | kernelIrOperandCount
  | kernelIrIndexOutOfRange | kernelIrTypeMismatch | kernelIrUseBeforeDefinition
  | kernelIrDuplicateDefinition | kernelIrInvalidControlFlow | kernelIrMissingReturn
deriving DecidableEq, Repr

structure Diagnostic where
  code : DiagnosticCode
  location : SourceLocation
  message : String
  form : Text := []
deriving DecidableEq, Repr

/-- A complaint if something is wrong. -/
def complain (wrong : Prop) [Decidable wrong] (code : DiagnosticCode) (location : SourceLocation)
    (message : String) (form : Text := []) : List Diagnostic :=
  if wrong then [⟨code, location, message, form⟩] else []

@[simp] theorem complain_eq_nil {wrong : Prop} [Decidable wrong] {code : DiagnosticCode}
    {location : SourceLocation} {message : String} {form : Text} :
    complain wrong code location message form = [] ↔ ¬ wrong := by
  unfold complain
  split <;> simp [*]

def maximumParameters : Nat := 64
def maximumSharedAllocations : Nat := 64
def maximumSharedWords : Nat := 49152 / 4
def maximumRegisters : Nat := 4096
def maximumOperations : Nat := 65536

def isAlpha (c : UInt8) : Bool := 65 ≤ c && c ≤ 90 || 97 ≤ c && c ≤ 122

def isAlnum (c : UInt8) : Bool := isAlpha c || isDigit c

/-- A letter, `_` or `$`, and then also digits. -/
def validKernelName : Text → Bool
  | [] => false
  | first :: rest =>
    (isAlpha first || first = 95 || first = 36) &&
      rest.all fun c => isAlnum c || c = 95 || c = 36

/-- `words` is how many the allocations before had. -/
def verifyShared : Nat → List SharedAllocation → List Diagnostic
  | _, [] => []
  | words, allocation :: rest =>
    let words := words + allocation.words.toNat
    complain (allocation.words = 0 ∨ maximumSharedWords < words) .kernelIrInvalidKernel
        allocation.location "static shared storage must be non-empty and at most 49152 bytes" ++
      verifyShared words rest

namespace Kernel

variable (kernel : Kernel)

def registerKind (r : UInt32) : Option ValueKind := (kernel.registers[r.toNat]?).map Register.kind

/-- The result, and the registers that are defined after it. -/
def verifyResult (defined : List UInt32) (o : Operation) : List Diagnostic × List UInt32 :=
  let contract := operationContract o.opcode
  if contract.hasResult then
    match kernel.registerKind o.result with
    | none =>
      ([⟨.kernelIrIndexOutOfRange, o.location, "operation result register is out of range", []⟩],
        defined)
    | some kind =>
      (complain (kind ≠ contract.resultKind) .kernelIrTypeMismatch o.location
          "operation result has the wrong value kind" (ascii (opcodeName o.opcode)) ++
        complain (o.result ∈ defined) .kernelIrDuplicateDefinition o.location
          "register is defined more than once" (decimal o.result.toNat),
        if o.result ∈ defined then defined else o.result :: defined)
  else
    (complain (o.result ≠ noValue) .kernelIrInvalidOperation o.location
      "operation must not define a result" (ascii (opcodeName o.opcode)), defined)

/-- One input; `kind` is what the contract wants there, if it wants anything. -/
def verifyInput (defined : List UInt32) (o : Operation) (input : UInt32) (kind : Option ValueKind) :
    List Diagnostic :=
  match kernel.registerKind input with
  | none =>
    [⟨.kernelIrIndexOutOfRange, o.location, "operation input register is out of range",
      decimal input.toNat⟩]
  | some actual =>
    complain (kind ≠ none ∧ kind ≠ some actual) .kernelIrTypeMismatch o.location
        "operation input has the wrong value kind" (ascii (opcodeName o.opcode)) ++
      complain (input ∉ defined) .kernelIrUseBeforeDefinition o.location
        "operation reads a register before its definition" (decimal input.toNat)

/-- The inputs that are there, each with what the contract wants of it. -/
def verifyInputs (defined : List UInt32) (o : Operation) :
    List UInt32 → List ValueKind → List Diagnostic
  | [], _ => []
  | input :: rest, kinds =>
    kernel.verifyInput defined o input kinds.head? ++ verifyInputs defined o rest kinds.tail

def verifyGuard (defined : List UInt32) (o : Operation) : List Diagnostic :=
  if o.predicate ≠ noValue then
    if mayBePredicated o.opcode = false then
      [⟨.kernelIrInvalidOperation, o.location,
        "only advertised global/shared u32 store forms may carry an operation guard", []⟩]
    else
      match kernel.registerKind o.predicate with
      | none =>
        [⟨.kernelIrIndexOutOfRange, o.location, "operation predicate register is out of range", []⟩]
      | some kind =>
        complain (kind ≠ .predicate) .kernelIrTypeMismatch o.location
            "operation guard must be a predicate register" ++
          complain (o.predicate ∉ defined) .kernelIrUseBeforeDefinition o.location
            "operation guard reads a predicate before its definition"
  else
    complain (o.predicateNegated = true) .kernelIrInvalidOperation o.location
      "predicate negation requires an operation guard"

def verifyAttribute (index : Nat) (o : Operation) : List Diagnostic :=
  let parameterKind := (kernel.parameters[o.attr.toNat]?).map Parameter.kind
  match o.opcode with
  | .loadParameterAddress =>
    complain (parameterKind ≠ some .bufferU32) .kernelIrInvalidParameter o.location
      "address load must reference a buffer_u32 parameter"
  | .loadParameterU32 =>
    complain (parameterKind ≠ some .scalarU32) .kernelIrInvalidParameter o.location
      "u32 load must reference a scalar_u32 parameter"
  | .loadParameterF32 =>
    complain (parameterKind ≠ some .scalarF32) .kernelIrInvalidParameter o.location
      "f32 load must reference a scalar_f32 parameter"
  | .loadSharedAddress =>
    complain (kernel.sharedAllocations.length ≤ o.attr.toNat) .kernelIrIndexOutOfRange o.location
      "shared allocation selector is out of range"
  | .moveSpecialU32 =>
    complain (7 < o.attr) .kernelIrInvalidOperation o.location
      "special-register selector is invalid"
  | .branchIf =>
    complain (o.attr.toNat ≤ index ∨
        (kernel.operations[o.attr.toNat]?).map (·.opcode) ≠ some .ret)
      .kernelIrInvalidControlFlow o.location
      "Kernel IR v2 branches must target the final return guard"
  | .barrierSync =>
    complain (o.attr ≠ 0) .kernelIrInvalidOperation o.location
      "only bar.sync 0 is in the PTX manifest"
  | .ret =>
    complain (index + 1 ≠ kernel.operations.length) .kernelIrInvalidControlFlow o.location
      "Kernel IR v2 return must be the final operation"
  | _ => []

/-- One operation, and what is defined after it. -/
def verifyOperation (index : Nat) (defined : List UInt32) (o : Operation) :
    List Diagnostic × List UInt32 :=
  let contract := operationContract o.opcode
  let result := kernel.verifyResult defined o
  (complain (o.inputCount.toNat ≠ contract.inputCount ∨ 3 < o.inputCount) .kernelIrOperandCount
      o.location "operation has the wrong operand count" (ascii (opcodeName o.opcode)) ++
    result.1 ++ kernel.verifyInputs result.2 o o.used contract.inputKinds ++
    kernel.verifyGuard result.2 o ++ kernel.verifyAttribute index o ++
    complain (o.opcode ≠ .branchIf ∧ o.flag = true) .kernelIrInvalidOperation o.location
      "only branch_if may carry the branch-negation flag", result.2)

def verifyOperations : Nat → List UInt32 → List Operation → List Diagnostic
  | _, _, [] => []
  | index, defined, o :: rest =>
    let checked := kernel.verifyOperation index defined o
    checked.1 ++ verifyOperations (index + 1) checked.2 rest

def uses (opcode : Opcode) : Bool := kernel.operations.any fun o => o.opcode = opcode

def verifyKernel : List Diagnostic :=
  complain (kernel.schemaVersion ≠ kernelIrSchemaVersion) .kernelIrSchemaMismatch {}
      "Kernel IR schema version is not supported" (decimal kernel.schemaVersion.toNat) ++
    complain (kernel.ptxMajor ≠ 9 ∨ kernel.ptxMinor ≠ 0) .kernelIrInvalidKernel {}
      "Kernel IR v2 requires PTX 9.0 source semantics"
      (decimal kernel.ptxMajor.toNat ++ ascii "." ++ decimal kernel.ptxMinor.toNat) ++
    complain (validKernelName kernel.name = false) .kernelIrInvalidKernel {}
      "kernel name is empty or malformed" kernel.name ++
    complain (maximumParameters < kernel.parameters.length) .kernelIrInvalidParameter {}
      "parameter count exceeds the Kernel IR v2 bound" ++
    complain (maximumSharedAllocations < kernel.sharedAllocations.length) .kernelIrInvalidKernel {}
      "shared allocation count exceeds the Kernel IR v2 bound" ++
    verifyShared 0 kernel.sharedAllocations ++
    complain (maximumRegisters < kernel.registers.length) .kernelIrInvalidRegister {}
      "register count exceeds the Kernel IR v2 bound" ++
    complain (kernel.operations = [] ∨ maximumOperations < kernel.operations.length)
      .kernelIrInvalidOperation {} "operation count is empty or exceeds the Kernel IR v2 bound" ++
    complain (kernel.uses .barrierSync = true ∧ kernel.uses .branchIf = true)
      .kernelIrInvalidControlFlow {}
      "Kernel IR v2 requires unconditional full-CTA barrier participation" ++
    kernel.verifyOperations 0 [] kernel.operations ++
    complain ((kernel.operations.getLast?).map (·.opcode) ≠ some .ret) .kernelIrMissingReturn {}
      "kernel must end with return"

end Kernel

/-! ## 3. Kernels without complaints -/

/-- A kernel without names and places: what it does is in here. -/
structure Code where
  parameters : List ParameterKind := []
  sharedWords : List UInt32 := []
  registers : List ValueKind := []
  operations : List Instruction := []
deriving DecidableEq, Repr

def Kernel.code (kernel : Kernel) : Code where
  parameters := kernel.parameters.map Parameter.kind
  sharedWords := kernel.sharedAllocations.map SharedAllocation.words
  registers := kernel.registers.map Register.kind
  operations := kernel.operations.map Operation.toInstruction

def Instruction.Defines (o : Instruction) (r : UInt32) : Prop :=
  (operationContract o.opcode).hasResult = true ∧ o.result = r

variable {index : Nat}

open List

namespace Code

variable (c : Code)

/-- The register is the result of an operation before this one. -/
def DefinedBefore (index : Nat) (r : UInt32) : Prop :=
  ∃ j o, j < index ∧ c.operations[j]? = some o ∧ o.Defines r

def AttributeFits (index : Nat) (o : Instruction) : Prop :=
  match o.opcode with
  | .loadParameterAddress => c.parameters[o.attr.toNat]? = some .bufferU32
  | .loadParameterU32 => c.parameters[o.attr.toNat]? = some .scalarU32
  | .loadParameterF32 => c.parameters[o.attr.toNat]? = some .scalarF32
  | .loadSharedAddress => o.attr.toNat < c.sharedWords.length
  | .moveSpecialU32 => o.attr ≤ 7
  | .branchIf => index < o.attr.toNat ∧ (c.operations[o.attr.toNat]?).map (·.opcode) = some .ret
  | .barrierSync => o.attr = 0
  | .ret => index + 1 = c.operations.length
  | _ => True

/-- The operation is as its contract wants it, and what it reads is defined before it or BY it. -/
structure Fits (index : Nat) (o : Instruction) : Prop where
  count : o.inputCount.toNat = (operationContract o.opcode).inputCount
  result : (operationContract o.opcode).hasResult = true →
    c.registers[o.result.toNat]? = some (operationContract o.opcode).resultKind
  noResult : (operationContract o.opcode).hasResult = false → o.result = noValue
  fresh : ∀ r, o.Defines r → ¬ c.DefinedBefore index r
  inputs : ∀ (n : Nat) input, o.used[n]? = some input →
    c.registers[input.toNat]? = (operationContract o.opcode).inputKinds[n]? ∧
      (c.DefinedBefore index input ∨ o.Defines input)
  guard : o.predicate ≠ noValue → mayBePredicated o.opcode = true ∧
    c.registers[o.predicate.toNat]? = some .predicate ∧
      (c.DefinedBefore index o.predicate ∨ o.Defines o.predicate)
  negated : o.predicate = noValue → o.predicateNegated = false
  selects : c.AttributeFits index o
  flag : o.opcode ≠ .branchIf → o.flag = false

structure WellFormed : Prop where
  fits : ∀ index o, c.operations[index]? = some o → c.Fits index o
  ends : (c.operations.getLast?).map (·.opcode) = some .ret

variable {c} {o : Instruction}

theorem definedBefore_succ (ho : c.operations[index]? = some o)
    (r : UInt32) : c.DefinedBefore (index + 1) r ↔ c.DefinedBefore index r ∨ o.Defines r := by
  constructor
  · rintro ⟨j, p, hj, hp, hdef⟩
    rcases Nat.lt_succ_iff_lt_or_eq.1 hj with hlt | rfl
    · exact .inl ⟨j, p, hlt, hp, hdef⟩
    · rw [ho] at hp
      cases hp
      exact .inr hdef
  · rintro (⟨j, p, hj, hp, hdef⟩ | hdef)
    · exact ⟨j, p, Nat.le.step hj, hp, hdef⟩
    · exact ⟨index, o, .refl, ho, hdef⟩

/-- A contract wants at most as many inputs as there are. -/
theorem inputCount_le (opcode : Opcode) : (operationContract opcode).inputCount ≤ 3 := by
  cases opcode <;> decide

theorem Fits.used_length (h : c.Fits index o) :
    o.used.length = (operationContract o.opcode).inputCount := by
  have hle := inputCount_le o.opcode
  rw [Instruction.used, length_take, Vector.length_toList, h.count]
  omega

/-- **One assignment.**  No register is the result of two operations. -/
theorem WellFormed.single (h : c.WellFormed) {i j : Nat} {p : Instruction} {r : UInt32}
    (hi : c.operations[i]? = some o) (hj : c.operations[j]? = some p) (ho : o.Defines r)
    (hp : p.Defines r) : i = j := by
  rcases Nat.lt_trichotomy i j with hlt | heq | hlt
  · exact absurd ⟨i, o, hlt, hi, ho⟩ ((h.fits j p hj).fresh r hp)
  · exact heq
  · exact absurd ⟨j, p, hlt, hj, hp⟩ ((h.fits i o hi).fresh r ho)

section

variable {i : Nat} {r : UInt32} (h : c.WellFormed) (hi : c.operations[i]? = some o)
  (hr : r ∈ o.reads)

include h hi hr

/-- What is read is defined before the operation or by it. -/
theorem WellFormed.reads : c.DefinedBefore i r ∨ o.Defines r := by
  rw [Instruction.reads, mem_append] at hr
  rcases hr with hinput | hguard
  · obtain ⟨n, hn⟩ := mem_iff_getElem?.1 hinput
    exact ((h.fits i o hi).inputs n r hn).2
  · split_ifs at hguard with hnone
    · cases hguard
    · rw [mem_singleton.1 hguard]
      exact ((h.fits i o hi).guard hnone).2.2

/-- **What is read is defined before, or is the operation's own result**, and not both. -/
theorem WellFormed.definedBefore_iff : c.DefinedBefore i r ↔ ¬ o.Defines r :=
  ⟨fun hbefore hown => (h.fits i o hi).fresh r hown hbefore,
    fun hnot => (h.reads hi hr).resolve_right hnot⟩

end

end Code

namespace Kernel

variable {kernel : Kernel}

theorem code_registers (r : UInt32) : kernel.code.registers[r.toNat]? = kernel.registerKind r := by
  simp [code, registerKind]

theorem code_operations (index : Nat) :
    kernel.code.operations[index]? = (kernel.operations[index]?).map Operation.toInstruction := by
  simp [code]

variable {defined : List UInt32} {o : Operation}

theorem verifyResult_fits (h : (kernel.verifyResult defined o).1 = []) :
    ((operationContract o.opcode).hasResult = true →
      kernel.registerKind o.result = some (operationContract o.opcode).resultKind ∧
        o.result ∉ defined) ∧
    ((operationContract o.opcode).hasResult = false → o.result = noValue) ∧
    ∀ r, r ∈ (kernel.verifyResult defined o).2 ↔ r ∈ defined ∨ o.Defines r := by
  unfold verifyResult at h ⊢
  dsimp only at h ⊢
  cases hresult : (operationContract o.opcode).hasResult with
  | false =>
    rw [hresult] at h
    simp only [Bool.false_eq_true, if_false, complain_eq_nil, not_not] at h
    simp [h, Instruction.Defines, hresult]
  | true =>
    rw [hresult] at h
    simp only [if_true] at h ⊢
    cases hkind : kernel.registerKind o.result with
    | none =>
      rw [hkind] at h
      cases h
    | some =>
      rw [hkind] at h
      simp only [append_eq_nil_iff, complain_eq_nil, not_not] at h
      obtain ⟨rfl, hfresh⟩ := h
      refine ⟨fun _ => ⟨rfl, hfresh⟩, nofun, fun r => ?_⟩
      simp only [if_neg hfresh, mem_cons, Instruction.Defines, hresult, true_and]
      rw [or_comm, eq_comm]

theorem verifyInput_fits {input : UInt32} {kind : ValueKind}
    (h : kernel.verifyInput defined o input (some kind) = []) :
    kernel.registerKind input = some kind ∧ input ∈ defined := by
  unfold verifyInput at h
  cases hkind : kernel.registerKind input with
  | none =>
    rw [hkind] at h
    cases h
  | some =>
    rw [hkind] at h
    simp only [append_eq_nil_iff, complain_eq_nil, ne_eq, reduceCtorEq, not_false_eq_true, true_and,
      not_not] at h
    exact ⟨h.1.symm, h.2⟩

theorem verifyInputs_fits :
    ∀ {inputs : List UInt32} {kinds : List ValueKind}, inputs.length = kinds.length →
      kernel.verifyInputs defined o inputs kinds = [] →
      ∀ (n : Nat) input, inputs[n]? = some input →
        kernel.registerKind input = kinds[n]? ∧ input ∈ defined
  | [], _, _, _, n, input, hn => by simp at hn
  | i :: inputs, [], hlen, _, _, _, _ => by simp at hlen
  | i :: inputs, kind :: kinds, hlen, h, n, input, hn => by
    rw [verifyInputs, append_eq_nil_iff] at h
    cases n with
    | zero =>
      rw [getElem?_cons_zero, Option.some.injEq] at hn
      subst hn
      exact verifyInput_fits h.1
    | succ n =>
      exact verifyInputs_fits (Nat.succ.inj hlen) h.2 n input hn

theorem verifyGuard_fits (h : kernel.verifyGuard defined o = []) :
    (o.predicate ≠ noValue → mayBePredicated o.opcode = true ∧
      kernel.registerKind o.predicate = some .predicate ∧ o.predicate ∈ defined) ∧
    (o.predicate = noValue → o.predicateNegated = false) := by
  unfold verifyGuard at h
  split_ifs at h with hguard hforbidden
  · cases hkind : kernel.registerKind o.predicate with
    | none =>
      rw [hkind] at h
      cases h
    | some =>
      rw [hkind] at h
      simp only [append_eq_nil_iff, complain_eq_nil, not_not] at h
      refine ⟨fun _ => ⟨by simpa using hforbidden, by rw [h.1], h.2⟩,
        fun hnone => absurd hnone hguard⟩
  · exact ⟨fun hsome => absurd hsome hguard, fun _ => by simpa using h⟩

theorem verifyAttribute_fits
    (h : kernel.verifyAttribute index o = []) :
    kernel.code.AttributeFits index o.toInstruction := by
  unfold verifyAttribute at h
  unfold Code.AttributeFits
  cases hopcode : o.opcode
  all_goals simp_all [code]

/-- One operation without complaints, after those that are defined before it. -/
theorem verifyOperation_fits (ho : kernel.operations[index]? = some o)
    (hdefined : ∀ r, r ∈ defined ↔ kernel.code.DefinedBefore index r)
    (h : (kernel.verifyOperation index defined o).1 = []) : kernel.code.Fits index o.toInstruction ∧
      ∀ r, r ∈ (kernel.verifyOperation index defined o).2 ↔
        kernel.code.DefinedBefore (index + 1) r := by
  simp only [verifyOperation, append_eq_nil_iff, complain_eq_nil, not_or, not_and,
    Bool.not_eq_true, not_not] at h
  obtain ⟨⟨⟨⟨⟨hcount, hresult⟩, hinputs⟩, hguard⟩, hattribute⟩, hflag⟩ := h
  obtain ⟨hhas, hnot, hafter⟩ := verifyResult_fits hresult
  have hnext : ∀ r, r ∈ (kernel.verifyResult defined o).2 ↔
      kernel.code.DefinedBefore index r ∨ o.Defines r := by
    intro r
    rw [hafter, hdefined]
  have hlen : o.used.length = (operationContract o.opcode).inputKinds.length := by
    have hle := Code.inputCount_le o.opcode
    rw [Instruction.used, length_take, Vector.length_toList, hcount.1]
    exact Nat.min_eq_left hle
  obtain ⟨hsome, hnegated⟩ := verifyGuard_fits hguard
  refine ⟨?_, fun r => ?_⟩
  · refine ⟨hcount.1, fun hres => ?_, hnot, ?_, ?_, ?_, hnegated, verifyAttribute_fits hattribute,
      hflag⟩
    · rw [code_registers]
      exact (hhas hres).1
    · rintro r ⟨hres, rfl⟩ hbefore
      exact (hhas hres).2 ((hdefined _).2 hbefore)
    · intro n input hn
      obtain ⟨hkind, hmem⟩ := verifyInputs_fits hlen hinputs n input hn
      rw [code_registers]
      exact ⟨hkind, (hnext input).1 hmem⟩
    · intro hne
      obtain ⟨hmay, hkind, hmem⟩ := hsome hne
      rw [code_registers]
      exact ⟨hmay, hkind, (hnext _).1 hmem⟩
  · rw [Code.definedBefore_succ (by rw [code_operations, ho]; rfl)]
    exact hnext r

theorem verifyOperations_fits (h : kernel.verifyOperations 0 [] kernel.operations = []) (j : Nat)
    (o : Operation) (ho : kernel.operations[j]? = some o) : kernel.code.Fits j o.toInstruction := by
  have hstart : ∀ r, r ∈ [] ↔ kernel.code.DefinedBefore 0 r := by simp [Code.DefinedBefore]
  refine walk_induction (Q := fun i rest => ∀ defined,
    (∀ r, r ∈ defined ↔ kernel.code.DefinedBefore i r) →
    kernel.verifyOperations i defined rest = [] → i ≤ j → kernel.code.Fits j o.toInstruction)
    (fun _ _ _ hj => ?_) (fun i first rest hfirst ih defined hdefined h hj => ?_)
    [] hstart h j.zero_le
  · rw [getElem?_eq_none hj] at ho
    cases ho
  rw [verifyOperations, append_eq_nil_iff] at h
  obtain ⟨hfits, hafter⟩ := verifyOperation_fits hfirst hdefined h.1
  rcases Nat.eq_or_lt_of_le hj with rfl | hlater
  · rw [ho, Option.some.injEq] at hfirst
    rwa [hfirst]
  · exact ih _ hafter h.2 hlater

/-- **A kernel without complaints is well formed.** -/
theorem code_wellFormed (h : kernel.verifyKernel = []) : kernel.code.WellFormed := by
  simp only [verifyKernel, append_eq_nil_iff, complain_eq_nil, not_not] at h
  obtain ⟨⟨-, hops⟩, hlast⟩ := h
  refine ⟨fun index o ho => ?_, ?_⟩
  · rw [code_operations, Option.map_eq_some_iff] at ho
    obtain ⟨operation, hop, rfl⟩ := ho
    exact verifyOperations_fits hops index operation hop
  · rw [code, getLast?_map, Option.map_map]
    exact hlast

end Kernel

/-- A kernel that returns. -/
def returning (name : Text) : Kernel := { name, operations := [{}] }

/-- It is accepted under every name that is one. -/
theorem verifyKernel_returning {name : Text} (h : validKernelName name = true) :
    (returning name).verifyKernel = [] := by
  simp [Kernel.verifyKernel, returning, h, verifyShared, Kernel.uses, Kernel.verifyOperations,
    Kernel.verifyOperation, Kernel.verifyResult, Kernel.verifyInputs, Kernel.verifyGuard,
    Kernel.verifyAttribute, operationContract, OperationContract.inputCount, Instruction.used,
    maximumOperations]

/-- A name of one letter, as often as wanted: there is no limit. -/
def repeated (n : Nat) : Text := List.replicate (n + 1) 97

theorem repeated_length (n : Nat) : (repeated n).length = n + 1 := length_replicate

theorem validKernelName_repeated (n : Nat) : validKernelName (repeated n) = true := by
  simp [repeated, validKernelName, replicate_succ, isAlnum, isAlpha]

end MetaFlux.Compiler
