/-
# The records of the recovery model

The recovery model is the daemon's account of one VIEW: the view and its device, the attempt that
admits work, the lease it holds, the device update in flight, the sequence ranges the view has
reserved and the publication that consumes them.  This module has the states of each record, the
records themselves and the tokens handed out to callers, field for field.

Tags, generations, epochs and sequence numbers are natural numbers: every one of them is kept below
a terminal of `Limits`, and `checkedAddBelowTerminal` is the only way any of them grows.
-/
import Mathlib

namespace MetaFlux.Recovery

/-! ## 1. States -/

/-- A view ends `terminal`; one that is closed over a publication in flight is quarantined. -/
inductive ViewState where
  | «open» | closing | terminal | quarantined
deriving DecidableEq, Repr

/-- A device is `updating` from the link of an update to its reopening. -/
inductive DeviceState where
  | «open» | updating | closed
deriving DecidableEq, Repr

inductive OwnerState where
  | live | dead
deriving DecidableEq, Repr

/-- No method leaves an attempt in `claiming`. -/
inductive AttemptState where
  | idle | entering | claiming | initializing | ready | exited
deriving DecidableEq, Repr

/-- The last four are the ends of a lease: given back, revoked while reserved, left as a tombstone,
or quarantined with its view. -/
inductive LeaseState where
  | free | initializing | reserved | committing | committed | published
  | released | revoked | tombstoned | quarantined
deriving DecidableEq, Repr

/-- An update goes through the states up to `reopened` in this order.  It is aborted before its
link, and closed where it is refused or its device closes. -/
inductive UpdateState where
  | free | initializing | prepared | linking | active | fencePublished | reopened
  | aborted | closed | terminal | quarantined
deriving DecidableEq, Repr

inductive PublishState where
  | free | initializing | prepared | linking | active | published
  | aborted | terminal | quarantined
deriving DecidableEq, Repr

inductive RangeState where
  | free | initializing | prepared | «open» | retired | terminal | quarantined
deriving DecidableEq, Repr

/-! ## 2. Limits, tokens and records -/

/-- The terminals: nothing that is in use reaches its own. -/
structure Limits where
  sequenceTerminal : Nat
  generationTerminal : Nat
  tagTerminal : Nat
  epochTerminal : Nat
deriving DecidableEq, Repr

structure ViewId where
  daemonIncarnation : Nat := 1
  viewSerial : Nat := 1
deriving DecidableEq, Repr

/-- What a reader saw first; the read counts if nothing has moved since. -/
structure ReadSnapshot where
  viewId : ViewId := {}
  viewGeneration : Nat := 0
  deviceGeneration : Nat := 0
  epoch : Nat := 0
deriving DecidableEq, Repr

/-- What an attempt commits its lease with. -/
structure AdmissionToken where
  viewId : ViewId := {}
  viewGeneration : Nat := 0
  deviceGeneration : Nat := 0
  attemptTag : Nat := 0
  leaseTag : Nat := 0
deriving DecidableEq, Repr

structure AttemptRecord where
  tag : Nat := 0
  state : AttemptState := .idle
  owner : OwnerState := .live
  viewGeneration : Nat := 0
  deviceGeneration : Nat := 0
  targetLeaseTag : Nat := 0
deriving DecidableEq, Repr

structure LeaseRecord where
  tag : Nat := 0
  state : LeaseState := .free
  owner : OwnerState := .live
  viewGeneration : Nat := 0
  deviceGeneration : Nat := 0
  targetWritten : Bool := false
  publicationMarker : Bool := false
deriving DecidableEq, Repr

structure UpdateRecord where
  tag : Nat := 0
  state : UpdateState := .free
  owner : OwnerState := .live
  oldGeneration : Nat := 0
  newGeneration : Nat := 0
  oldEpoch : Nat := 0
  newEpoch : Nat := 0
  fencePublished : Bool := false
deriving DecidableEq, Repr

/-- A reserved interval `[begin, end]` of sequence numbers, and the part of it that was never
published once the range has been retired (`0, 0` when nothing is left). -/
structure RangeRecord where
  tag : Nat := 0
  state : RangeState := .free
  begin : Nat := 0
  «end» : Nat := 0
  tokenGeneration : Nat := 0
  unusedSuffixBegin : Nat := 0
  unusedSuffixEnd : Nat := 0
deriving DecidableEq, Repr

/-- What the owner of a range publishes with. -/
structure RangeToken where
  viewId : ViewId := {}
  viewGeneration : Nat := 0
  tokenGeneration : Nat := 0
  rangeTag : Nat := 0
  rangeBegin : Nat := 0
  rangeEnd : Nat := 0
deriving DecidableEq, Repr

structure PublishRecord where
  tag : Nat := 0
  state : PublishState := .free
  owner : OwnerState := .live
  rangeTag : Nat := 0
  tokenGeneration : Nat := 0
  rangeBegin : Nat := 0
  rangeEnd : Nat := 0
  targetSequence : Nat := 0
  payloadApplied : Bool := false
  requiresCompensation : Bool := false
deriving DecidableEq, Repr

end MetaFlux.Recovery
