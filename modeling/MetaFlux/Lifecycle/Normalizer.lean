/-
# External events

A producer (an administrator, a monitor, a transport that has lost its peer) does not write
requests: it reports an event of some kind, with the tuple it observed.
`RequestNormalizer::normalize` turns the event into a request; `submit_external_event` hands that to
the coordinator.  What the coordinator does with a request is a parameter here, since one of the
producers is a mirror that reports from inside a callback.

The kind is a byte, and `mapping_for` answers no for one outside the range.
-/
import MetaFlux.Lifecycle.Transaction

namespace MetaFlux.Lifecycle

/-! ## 1. Events -/

inductive ExternalEventKind where
  | adminAdd | adminRemove | adminReset | vfioUserReset | qmpAdd | qmpRemove | qmpFailure
  | disconnect | daemonRestart | memfdDisconnect | cdevDisconnect
  | outOfRange (value : Nat)
deriving DecidableEq, Repr

inductive NormalizationResult where
  | accepted | invalid | unsupported
deriving DecidableEq, Repr

structure ExternalEvent where
  requestId : Nat := 0
  logicalDeviceId : Nat := 0
  daemonIncarnation : Nat := 0
  expectedIdentityRecordId : Nat := 0
  expectedGeneration : Nat := 0
  expectedEpoch : Nat := 0
  deadlineTick : Nat := 0
  kind : ExternalEventKind := .adminAdd
deriving DecidableEq, Repr

structure Mapping where
  source : Source
  operation : Operation
  add : Bool
deriving DecidableEq, Repr

def mappingFor : ExternalEventKind → Option Mapping
  | .adminAdd => some ⟨.admin, .add, true⟩
  | .adminRemove => some ⟨.admin, .remove, false⟩
  | .adminReset => some ⟨.admin, .reset, false⟩
  | .vfioUserReset => some ⟨.vfioUser, .reset, false⟩
  | .qmpAdd => some ⟨.qmp, .add, true⟩
  | .qmpRemove => some ⟨.qmp, .remove, false⟩
  | .qmpFailure => some ⟨.qmp, .transportLoss, false⟩
  | .disconnect => some ⟨.disconnect, .transportLoss, false⟩
  | .memfdDisconnect => some ⟨.memfd, .transportLoss, false⟩
  | .cdevDisconnect => some ⟨.cdev, .transportLoss, false⟩
  | .daemonRestart => some ⟨.restart, .recover, false⟩
  | .outOfRange _ => none

/-- The event as a producer observes it at the snapshot.  A device that is added has no tuple yet.
-/
def captureExternalEvent (kind : ExternalEventKind) (requestId : Nat) (snapshot : Snapshot)
    (deadlineTick : Nat := 0) : ExternalEvent :=
  let add := decide (kind = .adminAdd ∨ kind = .qmpAdd)
  { requestId
    logicalDeviceId := snapshot.logicalDeviceId
    daemonIncarnation := snapshot.daemonIncarnation
    expectedIdentityRecordId := if add then 0 else snapshot.identityRecordId
    expectedGeneration := if add then 0 else snapshot.generation
    expectedEpoch := snapshot.epoch
    deadlineTick
    kind }

/-! ## 2. Normalization -/

/-- The request is left empty where the event is refused. -/
def normalize (event : ExternalEvent) : NormalizationResult × Request :=
  match mappingFor event.kind with
  | none => (.unsupported, {})
  | some mapping =>
    if event.requestId = 0 ∨ event.logicalDeviceId = 0 ∨ event.daemonIncarnation = 0 ∨
        event.expectedEpoch = 0 ∨
        (mapping.add = true ∧
          (event.expectedIdentityRecordId ≠ 0 ∨ event.expectedGeneration ≠ 0)) ∨
        (mapping.add = false ∧
          (event.expectedIdentityRecordId = 0 ∨ event.expectedGeneration = 0)) then
      (.invalid, {})
    else
      (.accepted,
        { requestId := event.requestId
          logicalDeviceId := event.logicalDeviceId
          daemonIncarnation := event.daemonIncarnation
          expectedIdentityRecordId := event.expectedIdentityRecordId
          expectedGeneration := event.expectedGeneration
          expectedEpoch := event.expectedEpoch
          deadlineTick := event.deadlineTick
          source := mapping.source
          operation := mapping.operation })

/-- An event of a kind that stands for an operation is normalized to that operation, or not at all.
-/
theorem normalize_operation {event : ExternalEvent} {mapping : Mapping}
    (hkind : mappingFor event.kind = some mapping) (h : (normalize event).1 = .accepted) :
    (normalize event).2.operation = mapping.operation := by
  unfold normalize at h ⊢
  rw [hkind] at h ⊢
  dsimp only at h ⊢
  split_ifs at h ⊢
  rfl

/-! ## 3. Submission -/

variable {W : Type}

def submitExternalEvent (apply : Request → Host W → ResultDetails × Host W) (event : ExternalEvent)
    (h : Host W) : (NormalizationResult × ResultDetails) × Host W :=
  let normalized := normalize event
  if normalized.1 ≠ .accepted then ((normalized.1, refusal .invalid h), h)
  else
    let applied := apply normalized.2 h
    ((normalized.1, applied.1), applied.2)

/-- A submission does nothing, or applies the one request the event is normalized to. -/
theorem submitExternalEvent_cases (apply : Request → Host W → ResultDetails × Host W)
    {event : ExternalEvent} {mapping : Mapping} (hkind : mappingFor event.kind = some mapping)
    (h : Host W) :
    (submitExternalEvent apply event h).2 = h ∨
      ∃ request : Request, request.operation = mapping.operation ∧
        (submitExternalEvent apply event h).2 = (apply request h).2 := by
  unfold submitExternalEvent
  dsimp only
  split
  · exact .inl rfl
  · rename_i haccepted
    exact .inr ⟨_, normalize_operation hkind (not_not.1 haccepted), rfl⟩

end MetaFlux.Lifecycle
