/-
# Rings in shared memory

A transport's queues are rings of descriptors in memory the client maps too.  A ring is known by the
address of its header, zero being the null pointer, and each side has a cursor into it; a slot
carries a sequence number that says whose turn it is.  A slot is readable at position `p` when its
sequence is `p + 1`, and writable when it is `p`; reading it makes it writable a round later.

Positions and sequences are 64 bits wide and wrap.  A ring's capacity is a power of two, so that the
slot of a position is the position masked.  Rings and payload bytes are kept apart: no address is in
both.
-/
import Mathlib

namespace MetaFlux.Transport

/-! ## 1. Contracts -/

/-- The status of an operation, as it goes over the wire. -/
inductive SharedStatus where
  | success | wouldBlock | timeout | interrupted | retry | staleHandle | deviceLost | terminalView
  | invalidArgument | malformed | overflow | resourceExhausted | systemError | notSupported
  | permissionDenied
  | outOfRange (value : Nat)
deriving DecidableEq, Repr

/-- The status as a 32 bit word. -/
def SharedStatus.code : SharedStatus → Nat
  | .success => 0
  | .wouldBlock => 1
  | .timeout => 2
  | .interrupted => 3
  | .retry => 4
  | .staleHandle => 5
  | .deviceLost => 6
  | .terminalView => 7
  | .invalidArgument => 8
  | .malformed => 9
  | .overflow => 10
  | .resourceExhausted => 11
  | .systemError => 12
  | .notSupported => 13
  | .permissionDenied => 14
  | .outOfRange value => value

inductive Opcode where
  | noop | memoryAlloc | memoryFree | moduleLoad | moduleUnload | copy | launch | eventRecord
  | eventWait | queueSynchronize | queueCancel | completion
  | outOfRange (value : Nat)
deriving DecidableEq, Repr

def copyFlagRegionArgumentBlock : UInt32 := 1
def copyFlagDirectHostSource : UInt32 := 2
def copyFlagDirectHostDestination : UInt32 := 4
def copyKnownFlags : UInt32 :=
  copyFlagRegionArgumentBlock ||| copyFlagDirectHostSource ||| copyFlagDirectHostDestination

structure RegistryViewId where
  daemonIncarnation : Nat := 0
  viewSerial : Nat := 0
deriving DecidableEq, Repr

/-- A slot of a ring: a command, or a completion. -/
structure Descriptor where
  sequence : Nat := 0
  opcode : Opcode := .outOfRange 0
  flags : UInt32 := 0
  requestId : Nat := 0
  targetId : Nat := 0
  arguments : Vector Nat 4 := .replicate 4 0
deriving DecidableEq, Repr

theorem word0 : 0 < 4 := by decide
theorem word1 : 1 < 4 := by decide
theorem word2 : 2 < 4 := by decide
theorem word3 : 3 < 4 := by decide

/-! ## 2. Memory -/

def ringMagic : Nat := 0x3151464d
def deviceAbiVersion : Nat := 1
def ringHeaderSize : Nat := 256
def ringDescriptorSize : Nat := 64

/-- What the header says of its ring.  It is checked before each use. -/
structure RingMetadata where
  magic : Nat := ringMagic
  abiVersion : Nat := deviceAbiVersion
  headerSize : Nat := ringHeaderSize
  descriptorSize : Nat := ringDescriptorSize
  capacity : Nat := 0
  registryViewId : RegistryViewId := {}
  queueId : Nat := 0
  queueGeneration : Nat := 0
deriving DecidableEq, Repr

/-- The cursors are positions, which only grow; the slots are by index. -/
structure Ring where
  metadata : RingMetadata := {}
  producer : Nat := 0
  consumer : Nat := 0
  slots : Nat → Descriptor := fun _ => {}

/-- What the client and the daemon both see. -/
structure Memory where
  rings : Nat → Ring := fun _ => {}
  bytes : Nat → Nat := fun _ => 0

namespace Memory

def setRing (memory : Memory) (header : Nat) (ring : Ring) : Memory :=
  { memory with rings := fun address => if address = header then ring else memory.rings address }

/-- The bytes are read before any is written, as `memmove` does where they overlap. -/
def move (memory : Memory) (destination source byteCount : Nat) : Memory :=
  { memory with
    bytes := fun address =>
      if destination ≤ address ∧ address < destination + byteCount then
        memory.bytes (source + (address - destination))
      else memory.bytes address }

end Memory

/-! ## 3. Ring operations -/

/-- The word after a position or a sequence. -/
def wrap (word : Nat) : Nat := word % 2 ^ 64

def Ring.slotIndex (ring : Ring) (position : Nat) : Nat := position &&& (ring.metadata.capacity - 1)

def Ring.descriptorAt (ring : Ring) (position : Nat) : Descriptor :=
  ring.slots (ring.slotIndex position)

def Ring.writeAt (ring : Ring) (position : Nat) (descriptor : Descriptor) : Ring :=
  { ring with
    slots := fun index =>
      if index = ring.slotIndex position then descriptor else ring.slots index }

variable (memory : Memory) (header : Nat)

/-- The header is of this version, and the capacity is a power of two. -/
def validQueue : Bool :=
  let metadata := (memory.rings header).metadata
  decide (header ≠ 0 ∧ metadata.magic = ringMagic ∧ metadata.abiVersion = deviceAbiVersion ∧
    metadata.headerSize = ringHeaderSize ∧ metadata.descriptorSize = ringDescriptorSize ∧
    2 ≤ metadata.capacity ∧ metadata.capacity &&& (metadata.capacity - 1) = 0)

/-- The slot at the consumer's cursor was filled in this round. -/
def queueReadable : Bool :=
  let ring := memory.rings header
  validQueue memory header &&
    decide ((ring.descriptorAt ring.consumer).sequence = wrap (ring.consumer + 1))

/-- The slot at the producer's cursor was given back. -/
def queueWritable : Bool :=
  let ring := memory.rings header
  validQueue memory header && decide ((ring.descriptorAt ring.producer).sequence = ring.producer)

/-- The slot is given back to the producer for the next round. -/
def consume : Option (Descriptor × Memory) :=
  if queueReadable memory header = false then none
  else
    let ring := memory.rings header
    let slot := ring.descriptorAt ring.consumer
    let freed := ring.writeAt ring.consumer
      { slot with sequence := wrap (ring.consumer + ring.metadata.capacity) }
    some (slot, memory.setRing header { freed with consumer := wrap (ring.consumer + 1) })

/-- The slot is handed to the consumer. -/
def produce (descriptor : Descriptor) : Option Memory :=
  if queueWritable memory header = false then none
  else
    let ring := memory.rings header
    let filled := ring.writeAt ring.producer
      { descriptor with sequence := wrap (ring.producer + 1) }
    some (memory.setRing header { filled with producer := wrap (ring.producer + 1) })

end MetaFlux.Transport
