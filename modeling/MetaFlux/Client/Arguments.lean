/-
# Argument blocks

The client checks an argument block before it is sent: the header, every entry by its kind, and of a
region copy that its three entries are a destination, a source and a count.  The worker checks
region copies by itself, field by field.  The two accept the same bytes (`validators_agree`).
-/
import MetaFlux.Client.Protocol
import MetaFlux.Transport.Cdev.ObjectTable

namespace MetaFlux.Client

open Base Transport

/-! ## 1. The bytes of a block -/

section Read

variable (address : Nat) (bytes : List UInt8)

def word32 (offset : Nat) : Nat := (load 4 bytes offset).toNat

def word64 (offset : Nat) : Nat := (load 8 bytes offset).toNat

/-- An entry of the table that follows the header. -/
def readEntry (index : Nat) : ArgumentEntry :=
  let start := argumentBlockHeaderSize + index * argumentEntrySize
  { kind := word32 bytes start, flags := ⟨load 4 bytes (start + 4)⟩
    objectId := word64 bytes (start + 8), objectGeneration := word64 bytes (start + 16)
    value := word64 bytes (start + 24) }

def readBlock : ArgumentBlock where
  address
  magic := word32 bytes 0
  abiVersion := word32 bytes 4
  headerSize := word32 bytes 8
  entrySize := word32 bytes 12
  entryCount := word32 bytes 16
  flags := word32 bytes 20
  totalSize := word64 bytes 24
  reserved := [32, 40, 48, 56].map (word64 bytes)
  destination := readEntry bytes 0
  source := readEntry bytes 1
  count := readEntry bytes 2

/-! ## 2. The client's check -/

def argumentKindU32 : Nat := 1
def argumentKindF32 : Nat := 4
def argumentBufferKnownFlags : UInt32 := argumentBufferRead ||| argumentBufferWrite
def argumentBlockFlagLaunchDimensionsXy : Nat := 1
def argumentBlockKnownFlags : UInt32 := 3

def argumentBlockSize (entryCount : Nat) : Option Nat :=
  if entryCount = 0 then none else some (argumentBlockHeaderSize + entryCount * argumentEntrySize)

def reservedMalformed (flags word : Nat) : Bool :=
  decide ((flags = 0 ∨ flags = argumentBlockFlagCopyRegion) ∧ word ≠ 0 ∨
    flags = argumentBlockFlagLaunchDimensionsXy ∧ (word = 0 ∨ 2 ^ 32 ≤ word))

/-- An offset into a buffer is a multiple of a word, except in a region copy. -/
def entryMalformed (flags : Nat) (entry : ArgumentEntry) : Bool :=
  if entry.kind = argumentKindU32 ∨ entry.kind = argumentKindF32 then
    decide (entry.flags ≠ 0 ∨ entry.objectId ≠ 0 ∨ entry.objectGeneration ≠ 0 ∨
      2 ^ 32 ≤ entry.value)
  else if entry.kind = argumentKindU64 then
    decide (entry.flags ≠ 0 ∨ entry.objectId ≠ 0 ∨ entry.objectGeneration ≠ 0)
  else if entry.kind = argumentKindBuffer then
    decide (entry.flags = 0 ∨ entry.flags &&& ~~~argumentBufferKnownFlags ≠ 0 ∨ entry.objectId = 0 ∨
      entry.objectGeneration = 0 ∨ flags ≠ argumentBlockFlagCopyRegion ∧ entry.value % 4 ≠ 0)
  else true

def argumentBlockValidate : SharedStatus :=
  let header := readBlock address bytes
  if address % argumentBlockHeaderSize ≠ 0 ∨ bytes.length < argumentBlockHeaderSize ∨
      header.magic ≠ sharedArgumentBlockMagic ∨ header.abiVersion ≠ sharedDeviceAbiVersion ∨
      header.headerSize ≠ argumentBlockHeaderSize ∨ header.entrySize ≠ argumentEntrySize ∨
      .ofNat header.flags &&& ~~~argumentBlockKnownFlags ≠ 0 ∨
      (header.flags ≠ 0 ∧ header.flags ≠ argumentBlockFlagLaunchDimensionsXy ∧
        header.flags ≠ argumentBlockFlagCopyRegion) ∨
      header.totalSize ≠ bytes.length ∨ argumentBlockSize header.entryCount ≠ some bytes.length ∨
      header.reserved.any (reservedMalformed header.flags) ∨
      (List.range header.entryCount).any fun i =>
      entryMalformed header.flags (readEntry bytes i) then
    .malformed
  else .success

def copyRegionArgumentBlockValidate : SharedStatus :=
  let header := readBlock address bytes
  if argumentBlockValidate address bytes ≠ .success then argumentBlockValidate address bytes
  else if argumentBlockSize copyRegionArgumentEntryCount ≠ some bytes.length ∨
      header.flags ≠ argumentBlockFlagCopyRegion ∨
      header.entryCount ≠ copyRegionArgumentEntryCount ∨
      header.destination.kind ≠ argumentKindBuffer ∨
      header.destination.flags ≠ argumentBufferWrite ∨
      header.source.kind ≠ argumentKindBuffer ∨ header.source.flags ≠ argumentBufferRead ∨
      header.count.kind ≠ argumentKindU64 ∨ header.count.value = 0 then
    .malformed
  else .success

end Read

/-! ## 3. The two checks agree -/

variable {entry : ArgumentEntry}

/-- In a region copy the entry of a buffer names it. -/
theorem buffer_malformed (hkind : entry.kind = argumentKindBuffer)
    (hflags : entry.flags = argumentBufferRead ∨ entry.flags = argumentBufferWrite) :
    entryMalformed argumentBlockFlagCopyRegion entry = false ↔
      entry.objectId ≠ 0 ∧ entry.objectGeneration ≠ 0 := by
  have hknown : entry.flags ≠ 0 ∧ entry.flags &&& ~~~argumentBufferKnownFlags = 0 := by
    obtain hflags | hflags := hflags <;> rw [hflags] <;> decide
  simp [entryMalformed, hkind, hknown, argumentKindBuffer, argumentKindU32, argumentKindF32,
    argumentKindU64]

theorem count_malformed {flags : Nat} (hkind : entry.kind = argumentKindU64) :
    entryMalformed flags entry = false ↔
      entry.flags = 0 ∧ entry.objectId = 0 ∧ entry.objectGeneration = 0 := by
  simp [entryMalformed, hkind, argumentKindU32, argumentKindF32, argumentKindU64]

theorem reserved_malformed {words : List Nat} :
    ¬ words.any (reservedMalformed argumentBlockFlagCopyRegion) ↔ words.all (· == 0) := by
  simp [reservedMalformed, argumentBlockFlagLaunchDimensionsXy, argumentBlockFlagCopyRegion]

theorem passes {status : SharedStatus} {refused : Prop} [Decidable refused] :
    (if status ≠ .success then status else if refused then .malformed else .success) = .success ↔
      status = .success ∧ ¬ refused := by
  split_ifs <;> simp_all

/-- **Worker and client accept the same region copies,** wherever either of them has the bytes as
long as the two places are aligned alike. -/
theorem validators_agree {workerAddress clientAddress : Nat} (bytes : List UInt8)
    (halign : workerAddress % argumentBlockHeaderSize = clientAddress % argumentBlockHeaderSize) :
    validCopyRegionArgumentBlock (readBlock workerAddress bytes) bytes.length = true ↔
      copyRegionArgumentBlockValidate clientAddress bytes = .success := by
  rw [copyRegionArgumentBlockValidate, passes, argumentBlockValidate]
  simp only [validCopyRegionArgumentBlock, ite_eq_right_iff, reduceCtorEq, imp_false, ne_eq, not_or,
    not_not, Bool.and_eq_true, decide_eq_true_eq]
  simp only [readBlock, halign]
  generalize List.map _ _ = words
  have hreserved := @reserved_malformed words
  have hdest := @buffer_malformed (readEntry bytes 0)
  have hsource := @buffer_malformed (readEntry bytes 1)
  have hcount := @count_malformed (readEntry bytes 2)
  have hentries (f : Nat → Bool) :
      (List.range copyRegionArgumentEntryCount).any f = (f 0 || (f 1 || f 2)) := by
    simp [copyRegionArgumentEntryCount, List.range, List.range.loop]
  have hsize : argumentBlockSize copyRegionArgumentEntryCount = some 160 := rfl
  have hlen : argumentBlockHeaderSize + 3 * argumentEntrySize = 160 := rfl
  have hflags : UInt32.ofNat argumentBlockFlagCopyRegion &&& ~~~argumentBlockKnownFlags = 0 := rfl
  grind [argumentBlockHeaderSize]

def eightBytes : List UInt8 :=
  [(4, sharedArgumentBlockMagic), (4, 1), (4, 64), (4, 32), (4, 3), (4, 2), (8, 160), (32, 0),
    (4, 2), (4, 2), (8, 7), (8, 1), (8, 0), (4, 2), (4, 1), (8, 9), (8, 1), (8, 16),
    (4, 3), (20, 0), (8, 8)].flatMap fun field => fixed field.1 field.2

/-- A copy of eight bytes. -/
theorem validators_agree_eightBytes : copyRegionArgumentBlockValidate 128 eightBytes = .success :=
  (validators_agree eightBytes (by decide : 64 % argumentBlockHeaderSize = 128 % _)).1
    (by decide +kernel)

end MetaFlux.Client
