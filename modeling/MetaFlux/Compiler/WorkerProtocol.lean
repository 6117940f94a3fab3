/-
# Requests to the compiler worker

The service hands kernels to a worker process as bytes.  `encodeRequest` writes a kernel field by
field and fails when it comes to more than the worker takes; `decodeRequest` reads it.

The two are inverse to each other (`request_round_trip`), with one exception: the reader has a limit
of its own for the NAME of a kernel, which neither the writer nor `verifyKernel` has.  A kernel with
a longer name is encoded and the worker does not decode it (`long_name_not_decoded`).  The number of
elements of a collection is limited in the reader only, too, but there `verifyKernel` has lower
limits.
-/
import MetaFlux.Base.Codec
import MetaFlux.Compiler.Ir

namespace MetaFlux.Compiler

open Base Reader

/-! ## 1. The format -/

def requestMagic : Nat := 0x3151455257464d
def protocolVersion : UInt32 := 1
def maximumRequestBytes : Nat := 64 * 1024 * 1024
def maximumCollectionElements : Nat := 1024 * 1024
def maximumNameBytes : Nat := 1024 * 1024

def u32 (value : UInt32) : List UInt8 := fixed 4 value.toNat

def u8 (value : Bool) : List UInt8 := fixed 1 value.toNat

/-! ## 2. The writer -/

abbrev Encoder := Emitter UInt8 PUnit

def appendBytes (bytes : List UInt8) : Encoder := Emitter.append maximumRequestBytes bytes

def appendU8 (value : Nat) : Encoder := appendBytes (fixed 1 value)
def appendU32 (value : UInt32) : Encoder := appendBytes (u32 value)
def appendU64 (value : Nat) : Encoder := appendBytes (fixed 8 value)

def appendString (value : Text) : Encoder := do
  appendU64 value.length
  appendBytes value

/-- A count that is wider than its field is an error. -/
def appendCount (count : Nat) : Encoder :=
  if count < 2 ^ 32 then appendBytes (fixed 4 count) else fun _ => none

def appendLocation (location : SourceLocation) : Encoder := do
  appendU32 location.line
  appendU32 location.column

def appendParameter (parameter : Parameter) : Encoder := do
  appendBytes (fixed 4 (parameterKinds.idxOf parameter.kind))
  appendLocation parameter.location

def appendShared (allocation : SharedAllocation) : Encoder := do
  appendU32 allocation.words
  appendLocation allocation.location

def appendRegister (reg : Register) : Encoder := do
  appendBytes (fixed 4 (valueKinds.idxOf reg.kind))
  appendLocation reg.location

def appendOperation (operation : Operation) : Encoder := do
  appendBytes (fixed 4 (opcodes.idxOf operation.opcode))
  appendU32 operation.result
  appendU32 (getElem operation.inputs 0 slot0)
  appendU32 (getElem operation.inputs 1 slot1)
  appendU32 (getElem operation.inputs 2 slot2)
  appendU32 operation.inputCount
  appendU32 operation.attr
  appendU8 operation.flag.toNat
  appendU32 operation.predicate
  appendU8 operation.predicateNegated.toNat
  appendLocation operation.location

/-- The fields in their order; each collection comes behind its count. -/
def encodeKernel (kernel : Kernel) : Encoder := do
  appendU64 requestMagic
  appendU32 protocolVersion
  appendU32 kernel.schemaVersion
  appendU32 kernel.ptxMajor
  appendU32 kernel.ptxMinor
  appendString kernel.name
  appendCount kernel.parameters.length
  forM kernel.parameters appendParameter
  appendCount kernel.sharedAllocations.length
  forM kernel.sharedAllocations appendShared
  appendCount kernel.registers.length
  forM kernel.registers appendRegister
  appendCount kernel.operations.length
  forM kernel.operations appendOperation

/-- `none` where it is too long for the worker. -/
def encodeRequest (kernel : Kernel) : Option (List UInt8) :=
  ((encodeKernel kernel).run []).map Prod.snd

/-! ## 3. The reader -/

/-- It fails without saying why. -/
abbrev Decoder (α : Type) := Reader Unit UInt8 α

def readU8 : Decoder Nat := word 1
def readU32 : Decoder UInt32 := UInt32.ofNat <$> word 4
def readU64 : Decoder Nat := word 8

/-- The length is checked before the bytes are taken. -/
def readString (maximum : Nat) : Decoder Text := do
  let length ← readU64
  check (length ≤ maximum)
  items length

def readCount : Decoder Nat := do
  let count ← word 4
  check (count ≤ maximumCollectionElements)
  return count

/-- Any other byte than 0 and 1 is refused. -/
def readFlag : Decoder Bool := do
  let flag ← readU8
  check (flag ≤ 1)
  return flag ≠ 0

def readLocation : Decoder SourceLocation := do
  let line ← readU32
  let column ← readU32
  return { line, column }

def readParameter : Decoder Parameter := do
  let kind ← entry parameterKinds 4
  let location ← readLocation
  return { kind, location }

def readShared : Decoder SharedAllocation := do
  let words ← readU32
  let location ← readLocation
  return { words, location }

def readRegister : Decoder Register := do
  let kind ← entry valueKinds 4
  let location ← readLocation
  return { kind, location }

def readOperation : Decoder Operation := do
  let opcode ← entry opcodes 4
  let result ← readU32
  let first ← readU32
  let second ← readU32
  let third ← readU32
  let inputCount ← readU32
  check (inputCount ≤ 3)
  let attr ← readU32
  let flag ← readFlag
  let predicate ← readU32
  let predicateNegated ← readFlag
  let location ← readLocation
  return { opcode, result, inputs := #v[first, second, third], inputCount, attr, flag, predicate,
           predicateNegated, location }

/-- As many as the count says. -/
def readCounted {α : Type} (r : Decoder α) : Decoder (List α) := do
  let count ← readCount
  times r count

/-- The magic and the version are checked when the name has been read. -/
def decodeKernel : Decoder Kernel := do
  let magic ← readU64
  let version ← readU32
  let schemaVersion ← readU32
  let ptxMajor ← readU32
  let ptxMinor ← readU32
  let name ← readString maximumNameBytes
  check (magic = requestMagic ∧ version = protocolVersion)
  let parameters ← readCounted readParameter
  let sharedAllocations ← readCounted readShared
  let registers ← readCounted readRegister
  let operations ← readCounted readOperation
  finished
  return { schemaVersion, ptxMajor, ptxMinor, name, parameters, sharedAllocations, registers,
           operations }

def decodeRequest (bytes : List UInt8) : Option Kernel :=
  match decodeKernel.run bytes with
  | .ok (kernel, _) => some kernel
  | .error _ => none

/-! ## 4. What is written -/

def locationBytes (location : SourceLocation) : List UInt8 :=
  u32 location.line ++ u32 location.column

def parameterBytes (parameter : Parameter) : List UInt8 :=
  fixed 4 (parameterKinds.idxOf parameter.kind) ++ locationBytes parameter.location

def sharedBytes (allocation : SharedAllocation) : List UInt8 :=
  u32 allocation.words ++ locationBytes allocation.location

def registerBytes (reg : Register) : List UInt8 :=
  fixed 4 (valueKinds.idxOf reg.kind) ++ locationBytes reg.location

/-- All three slots are written, whatever the count of inputs. -/
def operationBytes (operation : Operation) : List UInt8 :=
  fixed 4 (opcodes.idxOf operation.opcode) ++ (u32 operation.result ++
    (u32 (getElem operation.inputs 0 slot0) ++ (u32 (getElem operation.inputs 1 slot1) ++
    (u32 (getElem operation.inputs 2 slot2) ++ (u32 operation.inputCount ++
      (u32 operation.attr ++ (u8 operation.flag ++ (u32 operation.predicate ++
        (u8 operation.predicateNegated ++ locationBytes operation.location)))))))))

def stringBytes (value : Text) : List UInt8 := fixed 8 value.length ++ value

def countedBytes {α : Type} (w : α → List UInt8) (as : List α) : List UInt8 :=
  fixed 4 as.length ++ as.flatMap w

/-- A kernel as bytes, without the limit. -/
def kernelBytes (kernel : Kernel) : List UInt8 :=
  fixed 8 requestMagic ++
    (u32 protocolVersion ++ (u32 kernel.schemaVersion ++ (u32 kernel.ptxMajor ++
    (u32 kernel.ptxMinor ++
    (stringBytes kernel.name ++ (countedBytes parameterBytes kernel.parameters ++
      (countedBytes sharedBytes kernel.sharedAllocations ++
        (countedBytes registerBytes kernel.registers ++
          countedBytes operationBytes kernel.operations))))))))

/-- The counts are numbers of 32 bits. -/
structure Countable (kernel : Kernel) : Prop where
  parameters : kernel.parameters.length < 2 ^ 32
  sharedAllocations : kernel.sharedAllocations.length < 2 ^ 32
  registers : kernel.registers.length < 2 ^ 32
  operations : kernel.operations.length < 2 ^ 32

variable {kernel : Kernel}

section Writing

variable {items : List UInt8}

/-- What the encoder appends, as long as there is room. -/
abbrev Writes (w : Encoder) (items : List UInt8) : Prop := Emits maximumRequestBytes w items

theorem writes_location (location : SourceLocation) :
    Writes (appendLocation location) (locationBytes location) :=
  .next (.append _)

theorem writes_operation (operation : Operation) :
    Writes (appendOperation operation) (operationBytes operation) :=
  .next <| .next <| .next <| .next <| .next <| .next <| .next <| .next <| .next <| .next <|
    writes_location _

theorem writes_string (value : Text) : Writes (appendString value) (stringBytes value) :=
  .next (.append _)

/-- A count, what it counts, and the rest. -/
theorem writes_counted {α : Type} {w : α → Encoder} {bytes : α → List UInt8}
    (h : ∀ a, Writes (w a) (bytes a)) {as : List α} (has : as.length < 2 ^ 32) {rest : Encoder}
    (hrest : Writes rest items) :
    Writes (do appendCount as.length; forM as w; rest) (countedBytes bytes as ++ items) := by
  rw [appendCount, if_pos has]
  exact .next ((Emits.forM h as).bind hrest)

/-- **The writer** appends the bytes of the kernel. -/
theorem writes_kernel (h : Countable kernel) :
    Writes (encodeKernel kernel) (kernelBytes kernel) := by
  have hops := writes_counted writes_operation h.operations Emits.pure
  refine .next <| .next <| .next <| .next <| .next <| (writes_string _).bind <|
      writes_counted (fun _ => .next (writes_location _)) h.parameters <|
        writes_counted (fun _ => .next (writes_location _)) h.sharedAllocations <|
          writes_counted (fun _ => .next (writes_location _)) h.registers ?_
  simpa using hops

/-- So a request is those bytes, if they fit. -/
theorem encodeRequest_eq (h : Countable kernel) : encodeRequest kernel =
      if (kernelBytes kernel).length ≤ maximumRequestBytes then some (kernelBytes kernel)
      else none := by
  rw [encodeRequest, (writes_kernel h).run_nil]
  split <;> rfl

end Writing

/-! ## 5. What is read -/

/-- Any four bytes are a word. -/
theorem reads_u32 : Reads readU32 u32 fun _ => True := by
  have h := (Reads.word (ε := Unit) 4).map (fun value => UInt32.ofNat_toNat)
    fun number hnumber => UInt32.toNat_ofNat_of_lt hnumber
  exact ⟨fun {value} _ => h.complete value.toNat_lt, fun hrun => ⟨trivial, (h.sound hrun).2⟩⟩

theorem reads_flag : Reads readFlag u8 fun _ => True where
  complete := by
    intro flag _ rest
    cases flag <;> rfl
  sound := by
    intro input flag rest hrun
    obtain ⟨number, middle, -, rfl, hrest⟩ := (Reads.word 1).inv hrun
    obtain ⟨hle, hend⟩ := check_inv hrest
    obtain ⟨rfl, rfl⟩ := run_pure_eq_ok.1 hend
    refine ⟨trivial, ?_⟩
    -- one of the two bytes
    interval_cases number <;> rfl

theorem reads_location : Reads readLocation locationBytes fun _ => True :=
  reads_u32.pair reads_u32 (fun _ => trivial) (fun _ => trivial) SourceLocation.line
    SourceLocation.column (fun _ => rfl) fun _ _ => ⟨rfl, rfl⟩

theorem reads_opcode : Reads (entry opcodes 4 : Decoder _)
    (fun opcode => fixed 4 (opcodes.idxOf opcode)) fun opcode => opcode ∈ opcodes :=
  Reads.entry (by decide) (by decide)

theorem reads_parameter : Reads readParameter parameterBytes fun _ => True :=
  (Reads.entry (by decide) (by decide)).pair reads_location mem_parameterKinds (fun _ => trivial)
    Parameter.kind Parameter.location (fun _ => rfl) fun _ _ => ⟨rfl, rfl⟩

theorem reads_shared : Reads readShared sharedBytes fun _ => True :=
  reads_u32.pair reads_location (fun _ => trivial) (fun _ => trivial) SharedAllocation.words
    SharedAllocation.location (fun _ => rfl) fun _ _ => ⟨rfl, rfl⟩

theorem reads_register : Reads readRegister registerBytes fun _ => True :=
  (Reads.entry (by decide) (by decide)).pair reads_location mem_valueKinds (fun _ => trivial)
    Register.kind Register.location (fun _ => rfl) fun _ _ => ⟨rfl, rfl⟩

theorem inputs_eq (inputs : Vector UInt32 3) :
    #v[getElem inputs 0 slot0, getElem inputs 1 slot1, getElem inputs 2 slot2] = inputs := by
  ext i hi
  interval_cases i <;> rfl

/-- The reader bounds the count of inputs. -/
theorem reads_operation : Reads readOperation operationBytes fun o => o.inputCount ≤ 3 where
  complete := by
    intro o ho rest
    refine reads_opcode.step (mem_opcodes _) <| reads_u32.step trivial <| reads_u32.step trivial <|
      reads_u32.step trivial <| reads_u32.step trivial <| reads_u32.step trivial ?_
    refine check_step ho <| reads_u32.step trivial <| reads_flag.step trivial <|
      reads_u32.step trivial <|
      reads_flag.step trivial <| reads_location.step trivial ?_
    rw [inputs_eq]
    rfl
  sound := by
    intro input o rest hrun
    obtain ⟨opcode, middle, -, rfl, hopcode⟩ := reads_opcode.inv hrun
    obtain ⟨result, middle, -, rfl, hres⟩ := reads_u32.inv hopcode
    obtain ⟨first, middle, -, rfl, hfirst⟩ := reads_u32.inv hres
    obtain ⟨second, middle, -, rfl, hsecond⟩ := reads_u32.inv hfirst
    obtain ⟨third, middle, -, rfl, hthird⟩ := reads_u32.inv hsecond
    obtain ⟨inputCount, middle, -, rfl, hcount⟩ := reads_u32.inv hthird
    obtain ⟨hle, hchecked⟩ := check_inv hcount
    obtain ⟨attr, middle, -, rfl, hattr⟩ := reads_u32.inv hchecked
    obtain ⟨flag, middle, -, rfl, hflag⟩ := reads_flag.inv hattr
    obtain ⟨predicate, middle, -, rfl, hpredicate⟩ := reads_u32.inv hflag
    obtain ⟨predicateNegated, middle, -, rfl, hnegated⟩ := reads_flag.inv hpredicate
    obtain ⟨location, middle, -, rfl, hlocation⟩ := reads_location.inv hnegated
    obtain ⟨rfl, rfl⟩ := run_pure_eq_ok.1 hlocation
    refine ⟨hle, ?_⟩
    rfl

/-- A name; the reader has a limit for it. -/
theorem reads_string (maximum : Nat) (hmaximum : maximum < 256 ^ 8) :
    Reads (readString maximum) stringBytes fun value => value.length ≤ maximum where
  complete := by
    intro value hvalue rest
    refine (Reads.word 8).step (hvalue.trans_lt hmaximum) ?_
    exact check_step hvalue <| (Reads.items value.length).complete rfl rest
  sound := by
    intro input value rest hrun
    obtain ⟨length, middle, -, rfl, hlen⟩ := (Reads.word 8).inv hrun
    obtain ⟨hle, hchecked⟩ := check_inv hlen
    obtain ⟨rfl, rfl⟩ := (Reads.items length).sound hchecked
    exact ⟨hle, by rw [stringBytes]; rfl⟩

/-- A collection of at most as many elements as the limit. -/
theorem reads_counted {α : Type} {r : Decoder α} {w : α → List UInt8} {Valid : α → Prop}
    (h : Reads r w Valid) : Reads (readCounted r) (countedBytes w)
      fun as => as.length ≤ maximumCollectionElements ∧ ∀ a ∈ as, Valid a where
  complete := by
    rintro as ⟨hlen, hall⟩ rest
    refine run_bind_eq_ok.2
      ⟨as.length, as.flatMap w ++ rest, ?_, (h.times _).complete ⟨rfl, hall⟩ rest⟩
    refine (Reads.word 4).step (hlen.trans_lt (by decide)) ?_
    exact check_step hlen rfl
  sound := by
    intro input as rest hrun
    obtain ⟨count, middle, hcount, hitems⟩ := run_bind_eq_ok.1 hrun
    obtain ⟨number, middle, -, rfl, hnumber⟩ := (Reads.word 4).inv hcount
    obtain ⟨hle, hend⟩ := check_inv hnumber
    obtain ⟨rfl, rfl⟩ := run_pure_eq_ok.1 hend
    obtain ⟨⟨rfl, hall⟩, rfl⟩ := (h.times _).sound hitems
    exact ⟨⟨hle, hall⟩, by rw [countedBytes, List.append_assoc]⟩

/-- The kernels that the reader takes. -/
structure Decodable (kernel : Kernel) : Prop where
  name : kernel.name.length ≤ maximumNameBytes
  parameters : kernel.parameters.length ≤ maximumCollectionElements
  sharedAllocations : kernel.sharedAllocations.length ≤ maximumCollectionElements
  registers : kernel.registers.length ≤ maximumCollectionElements
  operations : kernel.operations.length ≤ maximumCollectionElements
  inputCounts : ∀ o ∈ kernel.operations, o.inputCount ≤ 3

theorem Decodable.countable (h : Decodable kernel) : Countable kernel := by
  obtain ⟨-, h₁, h₂, h₃, h₄, -⟩ := h
  unfold maximumCollectionElements at h₁ h₂ h₃ h₄
  constructor <;> omega

/-- **The reader takes back** what is written of such a kernel; -/
theorem decodeRequest_bytes (h : Decodable kernel) :
    decodeRequest (kernelBytes kernel) = some kernel := by
  have hread : decodeKernel.run (kernelBytes kernel) = .ok (kernel, []) := by
    refine (Reads.word 8).step (by decide) <| reads_u32.step trivial <| reads_u32.step trivial <|
      reads_u32.step trivial <| reads_u32.step trivial <|
        (reads_string maximumNameBytes (by decide)).step h.name ?_
    refine check_step ⟨rfl, rfl⟩ <|
      (reads_counted reads_parameter).step ⟨h.parameters, fun _ _ => trivial⟩ <|
      (reads_counted reads_shared).step ⟨h.sharedAllocations, fun _ _ => trivial⟩ <|
        (reads_counted reads_register).step ⟨h.registers, fun _ _ => trivial⟩ ?_
    rw [← List.append_nil (countedBytes operationBytes kernel.operations)]
    exact (reads_counted reads_operation).step ⟨h.operations, h.inputCounts⟩ rfl
  rw [decodeRequest, hread]

/-- and nothing else. -/
theorem decodeRequest_inv {bytes : List UInt8} (h : decodeRequest bytes = some kernel) :
    Decodable kernel ∧ bytes = kernelBytes kernel := by
  obtain ⟨rest, hrun⟩ : ∃ rest, decodeKernel.run bytes = .ok (kernel, rest) := by
    unfold decodeRequest at h
    split at h
    · next k rest hrun =>
      cases h
      exact ⟨rest, hrun⟩
    · cases h
  obtain ⟨magic, middle, -, rfl, hmagic⟩ := (Reads.word 8).inv hrun
  obtain ⟨version, middle, -, rfl, hversion⟩ := reads_u32.inv hmagic
  obtain ⟨schemaVersion, middle, -, rfl, hschema⟩ := reads_u32.inv hversion
  obtain ⟨ptxMajor, middle, -, rfl, hmajor⟩ := reads_u32.inv hschema
  obtain ⟨ptxMinor, middle, -, rfl, hminor⟩ := reads_u32.inv hmajor
  obtain ⟨name, middle, hname, rfl, afterName⟩ :=
    (reads_string maximumNameBytes (by decide)).inv hminor
  obtain ⟨⟨rfl, rfl⟩, hchecked⟩ := check_inv afterName
  obtain ⟨parameters, middle, hparams, rfl, afterParameters⟩ :=
    (reads_counted reads_parameter).inv hchecked
  obtain ⟨allocations, middle, hallocs, rfl, afterAllocations⟩ :=
    (reads_counted reads_shared).inv afterParameters
  obtain ⟨registers, middle, hregs, rfl, afterRegisters⟩ :=
    (reads_counted reads_register).inv afterAllocations
  obtain ⟨operations, middle, hops, rfl, afterOperations⟩ :=
    (reads_counted reads_operation).inv afterRegisters
  obtain ⟨rfl, hended⟩ := finished_inv afterOperations
  obtain ⟨rfl, rfl⟩ := run_pure_eq_ok.1 hended
  refine ⟨⟨hname, hparams.1, hallocs.1, hregs.1, hops.1, hops.2⟩, ?_⟩
  rw [List.append_nil]
  rfl

/-! ## 6. The two together -/

/-- What `verifyKernel` says about the sizes: nothing about the name's. -/
theorem Kernel.decodable_iff (h : kernel.verifyKernel = []) :
    Decodable kernel ↔ kernel.name.length ≤ maximumNameBytes := by
  refine ⟨Decodable.name, fun hname => ?_⟩
  have hfits := (Kernel.code_wellFormed h).fits
  simp only [Kernel.verifyKernel, List.append_eq_nil_iff, complain_eq_nil, not_or, not_lt] at h
  obtain ⟨⟨⟨⟨⟨⟨⟨⟨-, hparams⟩, hallocs⟩, -⟩, hregs⟩, -, hops⟩, -⟩, -⟩, -⟩ := h
  refine ⟨hname, hparams.trans (by decide), hallocs.trans (by decide),
    hregs.trans (by decide), hops.trans (by decide), fun o ho => ?_⟩
  obtain ⟨index, hindex⟩ := List.mem_iff_getElem?.1 ho
  have hcount := (hfits index o.toInstruction (by rw [Kernel.code_operations, hindex]; rfl)).count
  have hle := Code.inputCount_le o.opcode
  rw [← hcount] at hle
  exact UInt32.le_iff_toNat_le.2 hle

/-- **Request round trip.**  The encoding of a verified kernel is decoded to that kernel exactly if
its name is not too long for the reader; what is decoded is the encoding of what it is decoded to.
-/
theorem request_round_trip (kernel : Kernel) (bytes : List UInt8) :
    (kernel.verifyKernel = [] → encodeRequest kernel = some bytes →
      (decodeRequest bytes = some kernel ↔ kernel.name.length ≤ maximumNameBytes)) ∧
    (bytes.length ≤ maximumRequestBytes → decodeRequest bytes = some kernel →
      encodeRequest kernel = some bytes) := by
  refine ⟨fun hverified hencoded => ?_, fun hlen hdecoded => ?_⟩
  · rw [← Kernel.decodable_iff hverified]
    refine ⟨fun hdecoded => (decodeRequest_inv hdecoded).1, fun hdecodable => ?_⟩
    rw [encodeRequest_eq hdecodable.countable] at hencoded
    split_ifs at hencoded
    cases hencoded
    exact decodeRequest_bytes hdecodable
  · obtain ⟨hdecodable, rfl⟩ := decodeRequest_inv hdecoded
    rw [encodeRequest_eq hdecodable.countable, if_pos hlen]

theorem kernelBytes_returning_length (name : Text) :
    (kernelBytes (returning name)).length = name.length + 90 := by
  simp [kernelBytes, returning, stringBytes, countedBytes, operationBytes, locationBytes, u32, u8]
  omega

theorem encodeRequest_returning {name : Text} (h : name.length + 90 ≤ maximumRequestBytes) :
    encodeRequest (returning name) = some (kernelBytes (returning name)) := by
  rw [encodeRequest_eq ⟨by simp [returning], by simp [returning], by simp [returning],
    by simp [returning]⟩, kernelBytes_returning_length, if_pos h]

theorem request_round_trip_short :
    (returning (ascii "k")).verifyKernel = [] ∧
      encodeRequest (returning (ascii "k")) = some (kernelBytes (returning (ascii "k"))) ∧
      decodeRequest (kernelBytes (returning (ascii "k"))) = some (returning (ascii "k")) := by
  have hverified : (returning (ascii "k")).verifyKernel = [] := verifyKernel_returning (by decide)
  have hencoded : encodeRequest (returning (ascii "k")) = some _ :=
    encodeRequest_returning (by decide)
  exact ⟨hverified, hencoded, ((request_round_trip _ _).1 hverified hencoded).2 (by decide)⟩

/-- A name that is one byte too long for the reader. -/
theorem long_name_not_decoded :
    (returning (repeated maximumNameBytes)).verifyKernel = [] ∧
      encodeRequest (returning (repeated maximumNameBytes)) =
        some (kernelBytes (returning (repeated maximumNameBytes))) ∧
      decodeRequest (kernelBytes (returning (repeated maximumNameBytes))) ≠
        some (returning (repeated maximumNameBytes)) := by
  refine ⟨verifyKernel_returning (validKernelName_repeated _), encodeRequest_returning ?_,
    fun hdecoded => ?_⟩
  · rw [repeated_length]
    decide
  · have hle : (repeated maximumNameBytes).length ≤ maximumNameBytes :=
      (decodeRequest_inv hdecoded).1.name
    rw [repeated_length] at hle
    exact Nat.not_succ_le_self _ hle

end MetaFlux.Compiler
