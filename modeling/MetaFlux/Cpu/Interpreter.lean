/-
# The interpreter

A launch is a grid of CTAs, a CTA a block of threads with memory of its own, and every thread runs
the kernel over registers of its own.  `executeOne` is one operation of one thread; `executeCta`
lets the threads of a CTA take turns until all have returned, and holds them at barriers.

CTAs run in parallel over the buffers of the host.  A run of the launch (`gridStep`) is any
interleaving of the turns of its CTAs; buffers may overlap, and the launch may be cancelled between
two rounds.

Floating-point numbers are their bits, and what the machine computes on them is a parameter
(`FloatUnit`).  A register that is read as something it does not hold is a fault of its own
(`Fault.badAccess`), where the code throws.  `ThreadState.written` is history: nothing reads it.
-/
import MetaFlux.Cpu.Artifact

namespace MetaFlux.Cpu

open Base Compiler

/-! ## 1. Values and memory -/

inductive RuntimeValue where
  | unset
  | predicate (value : Bool)
  | u32 (value : UInt32)
  | u64 (value : UInt64)
  | f32 (bits : UInt32)
  | globalAddress (parameter : UInt32) (byteOffset : UInt64)
  | sharedAddress (allocation : UInt32) (byteOffset : UInt64)
deriving DecidableEq, Repr

namespace RuntimeValue

def kind : RuntimeValue → Option ValueKind
  | unset => none
  | predicate _ => some .predicate
  | u32 _ => some .u32
  | u64 _ => some .u64
  | f32 _ => some .f32
  | globalAddress _ _ => some .globalAddress
  | sharedAddress _ _ => some .sharedAddress

def asPredicate : RuntimeValue → Option Bool
  | predicate value => some value
  | _ => none

def asU32 : RuntimeValue → Option UInt32
  | u32 value => some value
  | _ => none

def asU64 : RuntimeValue → Option UInt64
  | u64 value => some value
  | _ => none

def asF32 : RuntimeValue → Option UInt32
  | f32 bits => some bits
  | _ => none

def asGlobal : RuntimeValue → Option (UInt32 × UInt64)
  | globalAddress parameter byteOffset => some (parameter, byteOffset)
  | _ => none

def asShared : RuntimeValue → Option (UInt32 × UInt64)
  | sharedAddress allocation byteOffset => some (allocation, byteOffset)
  | _ => none

end RuntimeValue

/-- What the machine computes on floating-point numbers. -/
structure FloatUnit where
  add : UInt32 → UInt32 → UInt32
  sub : UInt32 → UInt32 → UInt32
  mul : UInt32 → UInt32 → UInt32
  div : UInt32 → UInt32 → UInt32
  fma : UInt32 → UInt32 → UInt32 → UInt32
  sqrt : UInt32 → UInt32
  exp : UInt32 → UInt32
  ofU32 : UInt32 → UInt32
  ofS32 : UInt32 → UInt32
  isNaN : UInt32 → Bool
  lt : UInt32 → UInt32 → Bool
  le : UInt32 → UInt32 → Bool
  truncate : UInt32 → UInt32

/-- The words of the host. -/
abbrev Memory := Nat → UInt32

/-- The words of a CTA, by allocation. -/
abbrev Shared := List (List UInt32)

inductive Argument where
  | u32 (value : UInt32)
  | f32 (bits : UInt32)
  | buffer (base size : Nat) (writable : Bool)
deriving DecidableEq, Repr

structure LaunchDimensions where
  gridX : UInt32 := 1
  blockX : UInt32 := 1
  gridY : UInt32 := 1
  blockY : UInt32 := 1
deriving DecidableEq, Repr

structure Coordinates where
  blockX : UInt32 := 0
  blockY : UInt32 := 0
  threadX : UInt32 := 0
  threadY : UInt32 := 0
deriving DecidableEq, Repr

/-- An error of the interpreter, or a register that does not hold what it is read as. -/
inductive Fault where
  | error (e : ExecutionError)
  | badAccess
deriving DecidableEq, Repr

/-- The word behind an address. -/
def globalWord (arguments : List Argument) (write : Bool) (address : UInt32 × UInt64) :
    Except Fault Nat :=
  match arguments[address.1.toNat]? with
  | some (.buffer base size writable) =>
    if address.2 % 4 ≠ 0 then .error (.error .misalignedAddress)
    else if write = true ∧ writable = false then .error (.error .writeToReadOnly)
    else if size ≤ (address.2 / 4).toNat then .error (.error .outOfBounds)
    else .ok (base + (address.2 / 4).toNat)
  | _ => .error (.error .argumentType)

/-- The word behind an address, and the byte in it. -/
def globalByte (arguments : List Argument) (write : Bool) (address : UInt32 × UInt64) :
    Except Fault (Nat × Nat) :=
  match arguments[address.1.toNat]? with
  | some (.buffer base size writable) =>
    if write = true ∧ writable = false then .error (.error .writeToReadOnly)
    else if size * 4 ≤ address.2.toNat then .error (.error .outOfBounds)
    else .ok (base + address.2.toNat / 4, address.2.toNat % 4)
  | _ => .error (.error .argumentType)

def storeWord (memory : Memory) (place : Nat) (value : UInt32) : Memory :=
  Function.update memory place value

/-- The lowest byte is the first. -/
def storeByte (memory : Memory) (place : Nat × Nat) (value : UInt32) : Memory :=
  let shift := UInt32.ofNat (8 * place.2)
  storeWord memory place.1
    ((memory place.1 &&& ~~~((0xff : UInt32) <<< shift)) ||| ((value &&& 0xff) <<< shift))

def storeGlobalU64 (arguments : List Argument) (memory : Memory) (address : UInt32 × UInt64)
    (value : UInt64) : Except Fault Memory :=
  match arguments[address.1.toNat]? with
  | some (.buffer base size writable) =>
    if address.2 % 8 ≠ 0 then .error (.error .misalignedAddress)
    else if writable = false then .error (.error .writeToReadOnly)
    else if size ≤ (address.2 / 4).toNat + 1 then .error (.error .outOfBounds)
    else
      let place := base + (address.2 / 4).toNat
      .ok (storeWord (storeWord memory place value.toUInt32) (place + 1) (value >>> 32).toUInt32)
  | _ => .error (.error .argumentType)

/-- An allocation of the CTA and the word in it. -/
def sharedWord (shared : Shared) (address : UInt32 × UInt64) : Except Fault (Nat × Nat × UInt32) :=
  match shared[address.1.toNat]? with
  | none => .error (.error .invalidArtifact)
  | some words =>
    if address.2 % 4 ≠ 0 then .error (.error .misalignedAddress)
    else
      match words[(address.2 / 4).toNat]? with
      | none => .error (.error .outOfBounds)
      | some word => .ok (address.1.toNat, (address.2 / 4).toNat, word)

def storeShared (shared : Shared) (allocation place : Nat) (value : UInt32) : Shared :=
  shared.modify allocation fun words => words.set place value

def specialValue (selector : UInt32) (coordinates : Coordinates)
    (launch : LaunchDimensions) : UInt32 :=
  match selector.toNat with
  | 0 => coordinates.threadX
  | 1 => coordinates.threadY
  | 2 => coordinates.blockX
  | 3 => coordinates.blockY
  | 4 => launch.blockX
  | 5 => launch.blockY
  | 6 => launch.gridX
  | 7 => launch.gridY
  | _ => 0

def absS32 (bits : UInt32) : UInt32 :=
  let mask := (0 : UInt32) - bits >>> (31 : UInt32)
  (bits ^^^ mask) - mask

def absF32 (bits : UInt32) : UInt32 := bits &&& 0x7fffffff

def multiplyHi (a b : UInt32) : UInt32 := ((a.toUInt64 * b.toUInt64) >>> 32).toUInt32

/-- Two's complement. -/
def signed (bits : UInt32) : Int := bits.toBitVec.toInt

def convertRziU32 (fpu : FloatUnit) (value : UInt32) : UInt32 :=
  if fpu.isNaN value = true ∨ fpu.le value 0 = true then 0
  else if fpu.le 0x4f800000 value = true then 0xffffffff
  else fpu.truncate value

/-! ## 2. One operation -/

/-- What an operation does when its guard lets it. -/
inductive Effect where
  | value (value : RuntimeValue)
  | branch (taken : Bool)
  | store (memory : Memory)
  | storeShared (shared : Shared)
  | wait
  | finish

/-- `std::get` on a register. -/
def fetch {α : Type} (values : List RuntimeValue) (r : UInt32) (as : RuntimeValue → Option α) :
    Except Fault α :=
  match (values[r.toNat]?).bind as with
  | some value => .ok value
  | none => .error .badAccess

section Operands

variable {α β γ : Type} (values : List RuntimeValue) (o : Instruction)

def unary (as : RuntimeValue → Option α) (f : α → RuntimeValue) : Except Fault Effect := do
  let a ← fetch values o.inputs[0] as
  return .value (f a)

def binary (as : RuntimeValue → Option α) (bs : RuntimeValue → Option β)
    (f : α → β → RuntimeValue) :
    Except Fault Effect := do
  let a ← fetch values o.inputs[0] as
  let b ← fetch values o.inputs[1] bs
  return .value (f a b)

def ternary (as : RuntimeValue → Option α) (bs : RuntimeValue → Option β)
    (cs : RuntimeValue → Option γ)
    (f : α → β → γ → RuntimeValue) : Except Fault Effect := do
  let a ← fetch values o.inputs[0] as
  let b ← fetch values o.inputs[1] bs
  let c ← fetch values o.inputs[2] cs
  return .value (f a b c)

/-- Only the operand that is selected is read. -/
def select (as : RuntimeValue → Option α) (f : α → RuntimeValue) : Except Fault Effect := do
  let first ← fetch values o.inputs[2] RuntimeValue.asPredicate
  let a ← fetch values (if first then o.inputs[0] else o.inputs[1]) as
  return .value (f a)

end Operands

section Execution

variable (fpu : FloatUnit) (c : Code) (arguments : List Argument) (launch : LaunchDimensions)

open RuntimeValue in
def effect (coordinates : Coordinates) (memory : Memory) (shared : Shared)
    (values : List RuntimeValue)
    (o : Instruction) : Except Fault Effect :=
  match o.opcode with
  | .loadParameterAddress => .ok (.value (.globalAddress o.attr 0))
  | .loadParameterU32 =>
    match arguments[o.attr.toNat]? with
    | some (.u32 value) => .ok (.value (.u32 value))
    | _ => .error .badAccess
  | .loadParameterF32 =>
    match arguments[o.attr.toNat]? with
    | some (.f32 bits) => .ok (.value (.f32 bits))
    | _ => .error .badAccess
  | .loadSharedAddress => .ok (.value (.sharedAddress o.attr 0))
  | .moveSpecialU32 => .ok (.value (.u32 (specialValue o.attr coordinates launch)))
  | .moveImmediateU32 => .ok (.value (.u32 o.attr))
  | .absS32 => unary values o asU32 fun a => .u32 (absS32 a)
  | .absF32 => unary values o asF32 fun a => .f32 (absF32 a)
  | .sqrtRnF32 => unary values o asF32 fun a => .f32 (fpu.sqrt a)
  | .expF32 => unary values o asF32 fun a => .f32 (fpu.exp a)
  | .addU32 => binary values o asU32 asU32 fun a b => .u32 (a + b)
  | .subU32 => binary values o asU32 asU32 fun a b => .u32 (a - b)
  | .multiplyLoU32 => binary values o asU32 asU32 fun a b => .u32 (a * b)
  | .multiplyHiU32 => binary values o asU32 asU32 fun a b => .u32 (multiplyHi a b)
  | .madLoU32 => ternary values o asU32 asU32 asU32 fun a b c => .u32 (a * b + c)
  | .multiplyWideU32 => unary values o asU32 fun a => .u64 (a.toUInt64 * o.attr.toUInt64)
  | .addGlobalAddress => do
    let base ← fetch values o.inputs[0] asGlobal
    let offset ← fetch values o.inputs[1] asU64
    if offset > 0xffffffffffffffff - base.2 then .error (.error .addressOverflow)
    else .ok (.value (.globalAddress base.1 (base.2 + offset)))
  | .addSharedAddress =>
    binary values o asShared asU32 fun base offset =>
      .sharedAddress base.1 (base.2 + offset.toUInt64)
  | .addRnF32 => binary values o asF32 asF32 fun a b => .f32 (fpu.add a b)
  | .subRnF32 => binary values o asF32 asF32 fun a b => .f32 (fpu.sub a b)
  | .divRnF32 => binary values o asF32 asF32 fun a b => .f32 (fpu.div a b)
  | .multiplyRnF32 => binary values o asF32 asF32 fun a b => .f32 (fpu.mul a b)
  | .madRnF32 => ternary values o asF32 asF32 asF32 fun a b c => .f32 (fpu.fma a b c)
  | .fmaRnF32 => ternary values o asF32 asF32 asF32 fun a b c => .f32 (fpu.fma a b c)
  | .convertRnF32U32 => unary values o asU32 fun a => .f32 (fpu.ofU32 a)
  | .convertRnF32S32 => unary values o asU32 fun a => .f32 (fpu.ofS32 a)
  | .convertRziU32F32 => unary values o asF32 fun a => .u32 (convertRziU32 fpu a)
  | .setPredicateGeU32 => binary values o asU32 asU32 fun a b => .predicate (b ≤ a)
  | .setPredicateGtS32 => binary values o asU32 asU32 fun a b => .predicate (signed b < signed a)
  | .selectU32 => select values o asU32 .u32
  | .selectF32 => select values o asF32 .f32
  | .setPredicateEqU32 => binary values o asU32 asU32 fun a b => .predicate (a = b)
  | .setPredicateLtF32 => binary values o asF32 asF32 fun a b => .predicate (fpu.lt a b)
  | .branchIf => do
    let predicate ← fetch values o.inputs[0] asPredicate
    return .branch (if o.flag then !predicate else predicate)
  | .loadGlobalU32 => do
    let address ← fetch values o.inputs[0] asGlobal
    let place ← globalWord arguments false address
    return .value (.u32 (memory place))
  | .loadGlobalF32 => do
    let address ← fetch values o.inputs[0] asGlobal
    let place ← globalWord arguments false address
    return .value (.f32 (memory place))
  | .storeGlobalU32 => do
    let address ← fetch values o.inputs[0] asGlobal
    let place ← globalWord arguments true address
    let value ← fetch values o.inputs[1] asU32
    return .store (storeWord memory place value)
  | .storeGlobalF32 => do
    let address ← fetch values o.inputs[0] asGlobal
    let place ← globalWord arguments true address
    let bits ← fetch values o.inputs[1] asF32
    return .store (storeWord memory place bits)
  | .storeGlobalU8 => do
    let address ← fetch values o.inputs[0] asGlobal
    let place ← globalByte arguments true address
    let value ← fetch values o.inputs[1] asU32
    return .store (storeByte memory place value)
  | .storeGlobalU64 => do
    let address ← fetch values o.inputs[0] asGlobal
    let value ← fetch values o.inputs[1] asU64
    let stored ← storeGlobalU64 arguments memory address value
    return .store stored
  | .loadSharedU32 => do
    let address ← fetch values o.inputs[0] asShared
    let place ← sharedWord shared address
    return .value (.u32 place.2.2)
  | .storeSharedU32 => do
    let address ← fetch values o.inputs[0] asShared
    let place ← sharedWord shared address
    let value ← fetch values o.inputs[1] asU32
    return .storeShared (storeShared shared place.1 place.2.1 value)
  | .barrierSync => .ok .wait
  | .ret => .ok .finish

structure ThreadState where
  registers : List RuntimeValue
  threadX : UInt32
  threadY : UInt32
  pc : Nat := 0
  steps : Nat := 0
  waiting : Bool := false
  returned : Bool := false
  /-- Which operation wrote which register, and what, the latest first. -/
  written : List (Nat × UInt32 × RuntimeValue) := []
deriving DecidableEq, Repr

def maximumThreadSteps : Nat := 131072

/-- Why a CTA ends before all its threads have returned. -/
inductive Stop where
  | failed (error : ExecutionError) (operation : Nat) (coordinates : Coordinates)
  | badAccess
deriving DecidableEq, Repr

def Fault.stop (fault : Fault) (operation : Nat) (coordinates : Coordinates) : Stop :=
  match fault with
  | .error e => .failed e operation coordinates
  | .badAccess => .badAccess

/-- Whether the guard lets the operation act. -/
def guardActive (values : List RuntimeValue) (o : Instruction) : Except Fault Bool :=
  if o.predicate ≠ noValue then do
    let predicate ← fetch values o.predicate RuntimeValue.asPredicate
    return if o.predicateNegated then !predicate else predicate
  else .ok true

/-- The thread after an operation. -/
def ThreadState.after (t : ThreadState) (o : Instruction) : Effect → ThreadState
  | .value value =>
    { t with registers := t.registers.set o.result.toNat value, pc := t.pc + 1,
             written := (t.pc, o.result, value) :: t.written }
  | .branch taken => { t with pc := if taken then o.attr.toNat else t.pc + 1 }
  | .store _ | .storeShared _ => { t with pc := t.pc + 1 }
  | .wait => { t with waiting := true }
  | .finish => { t with returned := true, pc := t.pc + 1 }

def Effect.shared (old : Shared) : Effect → Shared
  | .storeShared shared => shared
  | _ => old

def Effect.memory (old : Memory) : Effect → Memory
  | .store memory => memory
  | _ => old

def executeOne (coordinates : Coordinates) (t : ThreadState) (shared : Shared) (memory : Memory) :
    Except Stop (ThreadState × Shared × Memory) :=
  match c.operations[t.pc]? with
  | none => .error (.failed .invalidArtifact t.pc coordinates)
  | some o =>
    if t.steps + 1 > maximumThreadSteps then .error (.failed .stepLimit t.pc coordinates)
    else
      let counted := { t with steps := t.steps + 1 }
      match guardActive t.registers o with
      | .error fault => .error (fault.stop t.pc coordinates)
      | .ok false => .ok ({ counted with pc := t.pc + 1 }, shared, memory)
      | .ok true =>
        match effect fpu arguments launch coordinates memory shared t.registers o with
        | .error fault => .error (fault.stop t.pc coordinates)
        | .ok e => .ok (counted.after o e, e.shared shared, e.memory memory)

/-! ## 3. CTAs -/

/-- Where the loop of `executeCta` is: before a round, at a thread of it, or past its end. -/
inductive Phase where
  | start
  | turn (index returned waiting : Nat) (progressed : Bool)
  | done (result : Option Stop)
deriving DecidableEq, Repr

structure Cta where
  blockX : UInt32
  blockY : UInt32
  threads : List ThreadState
  shared : Shared
  phase : Phase := .start
deriving DecidableEq, Repr

def newThread (threadX threadY : UInt32) : ThreadState :=
  { registers := List.replicate c.registers.length .unset, threadX, threadY }

def newCta (blockX blockY : UInt32) : Cta where
  blockX := blockX
  blockY := blockY
  threads := (List.range launch.blockY.toNat).flatMap fun y =>
    (List.range launch.blockX.toNat).map fun x => newThread c (UInt32.ofNat x) (UInt32.ofNat y)
  shared := c.sharedWords.map fun words => List.replicate words.toNat 0

/-- The end of a round. -/
def endRound (cta : Cta) (returned waiting : Nat) (progressed : Bool) : Cta :=
  let block : Coordinates := { blockX := cta.blockX, blockY := cta.blockY }
  let size := cta.threads.length
  if returned = size then { cta with phase := .done none }
  else if waiting = size then
    let barrierPc := (cta.threads.head?.map ThreadState.pc).getD 0
    if cta.threads.all fun t => t.waiting && t.pc = barrierPc then
      { cta with threads := cta.threads.map fun t => { t with waiting := false, pc := t.pc + 1 }
                 phase := .start }
    else { cta with phase := .done (some (.failed .barrierDivergence barrierPc block)) }
  else if progressed = false ∨ (waiting ≠ 0 ∧ returned ≠ 0 ∧ waiting + returned = size) then
    let operation :=
      if waiting = 0 then noValue.toNat
      else ((cta.threads.find? ThreadState.waiting).map ThreadState.pc).getD 0
    { cta with phase := .done (some (.failed .barrierDivergence operation block)) }
  else { cta with phase := .start }

/-- The next thing that a CTA does. -/
def ctaStep (cancelled : Bool) (cta : Cta) (memory : Memory) : Cta × Memory :=
  match cta.phase with
  | .done _ => (cta, memory)
  | .start =>
    if cancelled then
      ({ cta with phase := .done (some (.failed .cancelled noValue.toNat
          { blockX := cta.blockX, blockY := cta.blockY })) }, memory)
    else ({ cta with phase := .turn 0 0 0 false }, memory)
  | .turn index returned waiting progressed =>
    match cta.threads[index]? with
    | none => (endRound cta returned waiting progressed, memory)
    | some t =>
      if t.returned then
        ({ cta with phase := .turn (index + 1) (returned + 1) waiting progressed }, memory)
      else if t.waiting then
        ({ cta with phase := .turn (index + 1) returned (waiting + 1) progressed }, memory)
      else
        match executeOne fpu c arguments launch ⟨cta.blockX, cta.blockY, t.threadX, t.threadY⟩
          t cta.shared memory with
        | .error stop => ({ cta with phase := .done (some stop) }, memory)
        | .ok (t', shared, memory') =>
          let phase :=
            if t'.returned then Phase.turn (index + 1) (returned + 1) waiting true
            else if t'.waiting then .turn (index + 1) returned (waiting + 1) true
            else .turn (index + 1) returned waiting true
          ({ cta with threads := cta.threads.set index t', shared, phase }, memory')

/-! ## 4. Launches -/

structure Grid where
  memory : Memory
  ctas : List Cta

def newGrid (memory : Memory) : Grid where
  memory := memory
  ctas := (List.range launch.gridY.toNat).flatMap fun y =>
    (List.range launch.gridX.toNat).map fun x => newCta c launch (UInt32.ofNat x) (UInt32.ofNat y)

/-- One CTA goes on; the flag is whether the launch is cancelled by then. -/
def gridStep (g : Grid) (turn : Nat × Bool) : Grid :=
  match g.ctas[turn.1]? with
  | none => g
  | some cta =>
    let next := ctaStep fpu c arguments launch turn.2 cta g.memory
    { memory := next.2, ctas := g.ctas.set turn.1 next.1 }

def maximumLogicalThreads : Nat := 16 * 1024 * 1024
def maximumThreadsPerCta : Nat := 1024

def argumentFits : ParameterKind → Argument → Bool
  | .bufferU32, .buffer _ _ _ => true
  | .scalarU32, .u32 _ => true
  | .scalarF32, .f32 _ => true
  | _, _ => false

def validateArguments : Option ExecutionError :=
  if arguments.length ≠ c.parameters.length then some .argumentCount
  else if (c.parameters.zip arguments).all fun p => argumentFits p.1 p.2 then none
  else some .argumentType

def hasFpOperations : Bool := c.operations.any fun o =>
  match o.opcode with
  | .loadParameterF32 | .addRnF32 | .subRnF32 | .divRnF32 | .multiplyRnF32 | .madRnF32 | .fmaRnF32
  | .convertRnF32U32 | .convertRnF32S32 | .convertRziU32F32 | .setPredicateLtF32 | .loadGlobalF32
  | .storeGlobalF32 => true
  | _ => false

/-- What the host has. -/
structure Host where
  expF32 : Bool
  fpEnvironment : Bool
deriving DecidableEq, Repr

/-- The checks of `execute_kernel_ir` between the artifact and the first CTA. -/
def checkLaunch (host : Host) : Option ExecutionError :=
  let threadsPerCta := launch.blockX.toNat * launch.blockY.toNat
  if usesOpcode c .expF32 = true ∧ host.expF32 = false then some .unsupportedOperation
  else if launch.gridX = 0 ∨ launch.gridY = 0 ∨ launch.blockX = 0 ∨ launch.blockY = 0 then
    some .invalidLaunch
  else if maximumThreadsPerCta < threadsPerCta ∨
      maximumLogicalThreads / threadsPerCta < launch.gridX.toNat then some .invalidLaunch
  else if maximumLogicalThreads / (threadsPerCta * launch.gridX.toNat) < launch.gridY.toNat then
    some .invalidLaunch
  else
    match validateArguments c arguments with
    | some error => some error
    | none =>
      if hasFpOperations c = true ∧ host.fpEnvironment = false then some .unsupportedFpEnvironment
        else none

end Execution

end MetaFlux.Cpu
