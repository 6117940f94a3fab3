/-
# The layout of the mapping

Where each part of the mapping lies is computed when it is made, written into its header, and
checked by whoever attaches to it: the daemon recomputes the layout and compares (`attach`), a
client walks along the header and adds up as it goes (`registryOffsetsValid`).  Both only accept the
one layout (`registryOffsetsValid_iff`, `attach_iff`), whose regions lie one after the other
(`computeLayout_regions`).

What a mapping holds is a function of the offset it is read at.  Offsets and sizes are 64-bit words:
a sum is cut to its word, and the guard before it is what keeps it exact (`advanceLayout_eq_some`).
-/
import MetaFlux.Base.Interval
import MetaFlux.Registry.Records

namespace MetaFlux.Registry

open Base

/-! ## 1. Sizes and headers -/

def sharedCacheLineSize : Nat := 64

def registryHeaderSize : Nat := 128
def extensionHeaderSize : Nat := 256
def viewAdmissionSize : Nat := 64
def viewControlSize : Nat := 128
def identitySize : Nat := 256
def deviceAdmissionSize : Nat := 64
def lifecycleFenceSize : Nat := 64
def telemetryControlSize : Nat := 64
def telemetryRowSize : Nat := 128
def publisherControlSize : Nat := 64
def admissionAttemptSize : Nat := 128
def admissionLeaseSize : Nat := 192
def deviceUpdateSize : Nat := 192
def lifecycleRangeSize : Nat := 192
def viewPublishSize : Nat := 256
def telemetryPublishSize : Nat := 256

def viewPublishCapacity : Nat := ordinaryViewPublishCapacity + 2

def telemetryPublishCapacity : Nat := ordinaryTelemetryPublishCapacity + 1

def registryMagic : Nat := 0x3152464d
def extensionMagic : Nat := 0x3158464d
def sharedDeviceAbiVersion : Nat := 1
def registryFlagRecoveryTables : UInt32 := 1
def registryKnownFlags : UInt32 := registryFlagRecoveryTables

structure RegistryHeader where
  magic : Nat := registryMagic
  abiVersion : Nat := sharedDeviceAbiVersion
  headerSize : Nat := registryHeaderSize
  flags : UInt32 := 0
  totalSize : Nat
  registryViewId : ViewId
  deviceCount : Nat
  telemetryRowCount : Nat
  viewAdmissionOffset : Nat
  viewControlOffset : Nat
  identitiesOffset : Nat
  deviceAdmissionOffset : Nat
  lifecycleFencesOffset : Nat
  telemetryControlOffset : Nat
  telemetryBank0Offset : Nat
  telemetryBank1Offset : Nat
deriving DecidableEq, Repr

structure ExtensionHeader where
  magic : Nat := extensionMagic
  abiVersion : Nat := sharedDeviceAbiVersion
  headerSize : Nat := extensionHeaderSize
  flags : UInt32 := 0
  totalSize : Nat
  registryViewId : ViewId
  admissionAttemptCapacity : Nat := Registry.admissionAttemptCapacity
  admissionLeaseCapacity : Nat := Registry.admissionLeaseCapacity
  deviceUpdateCapacity : Nat := Registry.deviceUpdateCapacity
  lifecycleRangeCapacity : Nat := Registry.lifecycleRangeCapacity
  viewPublishCapacity : Nat := Registry.viewPublishCapacity
  telemetryPublishCapacity : Nat := Registry.telemetryPublishCapacity
  ordinaryViewPublishCapacity : Nat := Registry.ordinaryViewPublishCapacity
  ordinaryTelemetryPublishCapacity : Nat := Registry.ordinaryTelemetryPublishCapacity
  closeClosingSlot : Nat := Registry.closeClosingSlot
  closeTerminalSlot : Nat := Registry.closeTerminalSlot
  telemetryTerminalSlot : Nat := Registry.telemetryTerminalSlot
  viewPublisherControlOffset : Nat
  telemetryPublisherControlOffset : Nat
  admissionAttemptsOffset : Nat
  admissionLeasesOffset : Nat
  deviceUpdatesOffset : Nat
  lifecycleRangesOffset : Nat
  viewPublishRecordsOffset : Nat
  telemetryPublishRecordsOffset : Nat
deriving DecidableEq, Repr

/-- What is read at an offset of the mapping, and of a table at an index. -/
structure RegistryContent where
  header : RegistryHeader
  extension : Nat → ExtensionHeader
  viewAdmissionId : Nat → ViewId
  viewControlId : Nat → ViewId
  identityRecordId : Nat → Nat → Nat
  committedGeneration : Nat → Nat → Nat
  deviceAdmissionIdentity : Nat → Nat → Nat
  fenceIdentity : Nat → Nat → Nat

/-! ## 2. The layout -/

structure RegistryLayout where
  viewAdmission : Nat := 0
  viewControl : Nat := 0
  identities : Nat := 0
  deviceAdmission : Nat := 0
  lifecycleFences : Nat := 0
  telemetryControl : Nat := 0
  telemetryBank0 : Nat := 0
  telemetryBank1 : Nat := 0
  legacyEnd : Nat := 0
  extension : Nat := 0
  viewPublisher : Nat := 0
  telemetryPublisher : Nat := 0
  admissionAttempts : Nat := 0
  admissionLeases : Nat := 0
  deviceUpdates : Nat := 0
  lifecycleRanges : Nat := 0
  viewPublishRecords : Nat := 0
  telemetryPublishRecords : Nat := 0
  total : Nat := 0
deriving DecidableEq, Repr

def advanceLayout (offset count stride : Nat) : Option Nat :=
  if (uint64Max - offset) / stride < count then none else some ((offset + count * stride) % 2 ^ 64)

def computeLayout (deviceCount : Nat) (recovery : Bool) : Option RegistryLayout := do
  let viewAdmission := registryHeaderSize
  let viewControl ← advanceLayout viewAdmission 1 viewAdmissionSize
  let identities ← advanceLayout viewControl 1 viewControlSize
  let deviceAdmission ← advanceLayout identities deviceCount identitySize
  let lifecycleFences ← advanceLayout deviceAdmission deviceCount deviceAdmissionSize
  let telemetryControl ← advanceLayout lifecycleFences deviceCount lifecycleFenceSize
  let telemetryBank0 ← advanceLayout telemetryControl 1 telemetryControlSize
  let telemetryBank1 ← advanceLayout telemetryBank0 deviceCount telemetryRowSize
  let legacyEnd ← advanceLayout telemetryBank1 deviceCount telemetryRowSize
  let layout : RegistryLayout :=
    { viewAdmission, viewControl, identities, deviceAdmission, lifecycleFences, telemetryControl,
      telemetryBank0, telemetryBank1, legacyEnd, extension := legacyEnd, total := legacyEnd }
  if recovery = false then
    return layout
  let viewPublisher ← advanceLayout legacyEnd 1 extensionHeaderSize
  let telemetryPublisher ← advanceLayout viewPublisher 1 publisherControlSize
  let admissionAttempts ← advanceLayout telemetryPublisher 1 publisherControlSize
  let admissionLeases ← advanceLayout admissionAttempts admissionAttemptCapacity
    admissionAttemptSize
  let deviceUpdates ← advanceLayout admissionLeases admissionLeaseCapacity admissionLeaseSize
  let lifecycleRanges ← advanceLayout deviceUpdates deviceUpdateCapacity deviceUpdateSize
  let viewPublishRecords ← advanceLayout lifecycleRanges lifecycleRangeCapacity lifecycleRangeSize
  let telemetryPublishRecords ← advanceLayout viewPublishRecords viewPublishCapacity viewPublishSize
  let total ← advanceLayout telemetryPublishRecords telemetryPublishCapacity telemetryPublishSize
  return { layout with
    viewPublisher, telemetryPublisher, admissionAttempts, admissionLeases, deviceUpdates,
    lifecycleRanges, viewPublishRecords, telemetryPublishRecords, total }

/-! ## 3. The daemon's check -/

def rangeFits (offset count stride total : Nat) : Prop :=
  offset % sharedCacheLineSize = 0 ∧ offset ≤ total ∧ count ≤ (uint64Max - offset) / stride ∧
    (offset + count * stride) % 2 ^ 64 ≤ total
deriving Decidable

/-- The header has the offsets of the layout. -/
def tablesCanonical (header : RegistryHeader) (layout : RegistryLayout) : Prop :=
  header.viewAdmissionOffset = layout.viewAdmission ∧
    header.viewControlOffset = layout.viewControl ∧
    header.identitiesOffset = layout.identities ∧
    header.deviceAdmissionOffset = layout.deviceAdmission ∧
    header.lifecycleFencesOffset = layout.lifecycleFences ∧
    header.telemetryControlOffset = layout.telemetryControl ∧
    header.telemetryBank0Offset = layout.telemetryBank0 ∧
    header.telemetryBank1Offset = layout.telemetryBank1
deriving Decidable

def offsetsAreCanonical (header : RegistryHeader) (layout : RegistryLayout) : Prop :=
  tablesCanonical header layout ∧ header.totalSize = layout.total
deriving Decidable

/-- The words of the header that have nothing to do with where things lie. -/
def headerWordsValid (header : RegistryHeader) (mappingSize : Nat) : Prop :=
  header.magic = registryMagic ∧ header.abiVersion = sharedDeviceAbiVersion ∧
    header.headerSize = registryHeaderSize ∧ header.totalSize = mappingSize ∧
    header.flags &&& ~~~registryKnownFlags = 0 ∧ header.telemetryRowCount = header.deviceCount ∧
    header.registryViewId.daemonIncarnation ≠ 0 ∧ header.registryViewId.viewSerial ≠ 0
deriving Decidable

def headerRangesFit (header : RegistryHeader) (mappingSize : Nat) : Prop :=
  rangeFits header.viewAdmissionOffset 1 viewAdmissionSize mappingSize ∧
    rangeFits header.viewControlOffset 1 viewControlSize mappingSize ∧
    rangeFits header.identitiesOffset header.deviceCount identitySize mappingSize ∧
    rangeFits header.deviceAdmissionOffset header.deviceCount deviceAdmissionSize mappingSize ∧
    rangeFits header.lifecycleFencesOffset header.deviceCount lifecycleFenceSize mappingSize ∧
    rangeFits header.telemetryControlOffset 1 telemetryControlSize mappingSize ∧
    rangeFits header.telemetryBank0Offset header.deviceCount telemetryRowSize mappingSize ∧
    rangeFits header.telemetryBank1Offset header.deviceCount telemetryRowSize mappingSize
deriving Decidable

/-- The words of the extension's header.  Both checks read the same ones. -/
def extensionWordsValid (extension : ExtensionHeader) (viewId : ViewId)
    (mappingSize : Nat) : Prop :=
  extension.magic = extensionMagic ∧ extension.abiVersion = sharedDeviceAbiVersion ∧
    extension.headerSize = extensionHeaderSize ∧ extension.flags = 0 ∧
    extension.totalSize = mappingSize ∧ extension.registryViewId = viewId ∧
    extension.admissionAttemptCapacity = admissionAttemptCapacity ∧
    extension.admissionLeaseCapacity = admissionLeaseCapacity ∧
    extension.deviceUpdateCapacity = deviceUpdateCapacity ∧
    extension.lifecycleRangeCapacity = lifecycleRangeCapacity ∧
    extension.viewPublishCapacity = viewPublishCapacity ∧
    extension.telemetryPublishCapacity = telemetryPublishCapacity ∧
    extension.ordinaryViewPublishCapacity = ordinaryViewPublishCapacity ∧
    extension.ordinaryTelemetryPublishCapacity = ordinaryTelemetryPublishCapacity ∧
    extension.closeClosingSlot = ordinaryViewPublishCapacity ∧
    extension.closeTerminalSlot = ordinaryViewPublishCapacity + 1 ∧
    extension.telemetryTerminalSlot = ordinaryTelemetryPublishCapacity
deriving Decidable

def extensionOffsetsAreCanonical (extension : ExtensionHeader) (layout : RegistryLayout) : Prop :=
  extension.viewPublisherControlOffset = layout.viewPublisher ∧
    extension.telemetryPublisherControlOffset = layout.telemetryPublisher ∧
    extension.admissionAttemptsOffset = layout.admissionAttempts ∧
    extension.admissionLeasesOffset = layout.admissionLeases ∧
    extension.deviceUpdatesOffset = layout.deviceUpdates ∧
    extension.lifecycleRangesOffset = layout.lifecycleRanges ∧
    extension.viewPublishRecordsOffset = layout.viewPublishRecords ∧
    extension.telemetryPublishRecordsOffset = layout.telemetryPublishRecords
deriving Decidable

def extensionRangesFit (extension : ExtensionHeader) (mappingSize : Nat) : Prop :=
  rangeFits extension.viewPublisherControlOffset 1 publisherControlSize mappingSize ∧
    rangeFits extension.telemetryPublisherControlOffset 1 publisherControlSize mappingSize ∧
    rangeFits extension.admissionAttemptsOffset extension.admissionAttemptCapacity
      admissionAttemptSize mappingSize ∧
    rangeFits extension.admissionLeasesOffset extension.admissionLeaseCapacity admissionLeaseSize
      mappingSize ∧
    rangeFits extension.deviceUpdatesOffset extension.deviceUpdateCapacity deviceUpdateSize
      mappingSize ∧
    rangeFits extension.lifecycleRangesOffset extension.lifecycleRangeCapacity lifecycleRangeSize
      mappingSize ∧
    rangeFits extension.viewPublishRecordsOffset extension.viewPublishCapacity viewPublishSize
      mappingSize ∧
    rangeFits extension.telemetryPublishRecordsOffset extension.telemetryPublishCapacity
      telemetryPublishSize mappingSize
deriving Decidable

/-- What the records say of whose they are. -/
def recordsAgree (content : RegistryContent) : Prop :=
  let header := content.header
  content.viewAdmissionId header.viewAdmissionOffset = header.registryViewId ∧
    content.viewControlId header.viewControlOffset = header.registryViewId ∧
    ∀ index < header.deviceCount,
      content.identityRecordId header.identitiesOffset index ≠ 0 ∧
        content.committedGeneration header.identitiesOffset index ≠ 0 ∧
        content.deviceAdmissionIdentity header.deviceAdmissionOffset index =
          content.identityRecordId header.identitiesOffset index ∧
        content.fenceIdentity header.lifecycleFencesOffset index =
          content.identityRecordId header.identitiesOffset index

instance (content : RegistryContent) : Decidable (recordsAgree content) :=
  inferInstanceAs (Decidable (_ ∧ _ ∧ _))

def attach (mapping mappingSize : Nat) (content : RegistryContent) : SharedStatus :=
  let header := content.header
  if mapping = 0 ∨ mapping % sharedCacheLineSize ≠ 0 ∨ mappingSize < registryHeaderSize then
    .invalidArgument
  else
    let hasRecovery := decide (header.flags &&& registryFlagRecoveryTables ≠ 0)
    if ¬ headerWordsValid header mappingSize then .malformed
    else
      match computeLayout header.deviceCount hasRecovery with
      | none => .malformed
      | some layout =>
        if layout.total ≠ mappingSize ∨ ¬ offsetsAreCanonical header layout ∨
            ¬ headerRangesFit header mappingSize then .malformed
        else
          let extension := content.extension layout.extension
          if hasRecovery = true ∧
              (¬ rangeFits layout.extension 1 extensionHeaderSize mappingSize ∨
                ¬ extensionWordsValid extension header.registryViewId mappingSize ∨
                ¬ extensionOffsetsAreCanonical extension layout ∨
                ¬ extensionRangesFit extension mappingSize) then .malformed
          else if ¬ recordsAgree content then .malformed
          else .success

/-! ## 4. The client's check -/

def registryAdvance (offset count stride : Nat) : Option Nat :=
  if (uint64Max - offset) / stride < count then none else some ((offset + count * stride) % 2 ^ 64)

/-- The walk along the tables every mapping has; `none` where the header goes another way. -/
def walkTables (header : RegistryHeader) : Option Nat := do
  let offset := registryHeaderSize
  guard (header.viewAdmissionOffset = offset)
  let offset ← registryAdvance offset 1 viewAdmissionSize
  guard (header.viewControlOffset = offset)
  let offset ← registryAdvance offset 1 viewControlSize
  guard (header.identitiesOffset = offset)
  let offset ← registryAdvance offset header.deviceCount identitySize
  guard (header.deviceAdmissionOffset = offset)
  let offset ← registryAdvance offset header.deviceCount deviceAdmissionSize
  guard (header.lifecycleFencesOffset = offset)
  let offset ← registryAdvance offset header.deviceCount lifecycleFenceSize
  guard (header.telemetryControlOffset = offset)
  let offset ← registryAdvance offset 1 telemetryControlSize
  guard (header.telemetryBank0Offset = offset)
  let offset ← registryAdvance offset header.deviceCount telemetryRowSize
  guard (header.telemetryBank1Offset = offset)
  registryAdvance offset header.deviceCount telemetryRowSize

/-- And along those of the extension. -/
def walkExtension (extension : ExtensionHeader) (offset : Nat) : Option Nat := do
  let offset ← registryAdvance offset 1 extensionHeaderSize
  guard (extension.viewPublisherControlOffset = offset)
  let offset ← registryAdvance offset 1 publisherControlSize
  guard (extension.telemetryPublisherControlOffset = offset)
  let offset ← registryAdvance offset 1 publisherControlSize
  guard (extension.admissionAttemptsOffset = offset)
  let offset ← registryAdvance offset extension.admissionAttemptCapacity admissionAttemptSize
  guard (extension.admissionLeasesOffset = offset)
  let offset ← registryAdvance offset extension.admissionLeaseCapacity admissionLeaseSize
  guard (extension.deviceUpdatesOffset = offset)
  let offset ← registryAdvance offset extension.deviceUpdateCapacity deviceUpdateSize
  guard (extension.lifecycleRangesOffset = offset)
  let offset ← registryAdvance offset extension.lifecycleRangeCapacity lifecycleRangeSize
  guard (extension.viewPublishRecordsOffset = offset)
  let offset ← registryAdvance offset extension.viewPublishCapacity viewPublishSize
  guard (extension.telemetryPublishRecordsOffset = offset)
  registryAdvance offset extension.telemetryPublishCapacity telemetryPublishSize

def registryOffsetsValid (content : RegistryContent) (mappingSize : Nat) : Bool :=
  match walkTables content.header with
  | none => false
  | some offset =>
    if content.header.flags = 0 then
      decide (offset = content.header.totalSize ∧ offset = mappingSize)
    else if content.header.flags ≠ registryFlagRecoveryTables ∨ mappingSize < offset ∨
        mappingSize - offset < extensionHeaderSize then false
    else
      let extension := content.extension offset
      if ¬ extensionWordsValid extension content.header.registryViewId mappingSize then false
      else
        match walkExtension extension offset with
        | none => false
        | some offset => decide (offset = mappingSize)

/-! ## 5. One advance -/

section Advance

variable {α : Type} {offset count stride : Nat} {f : Nat → Option α} {a : α}

/-- Behind the guard the sum is exact. -/
theorem advanceLayout_eq (hstride : 0 < stride) (hoff : offset ≤ uint64Max) :
    advanceLayout offset count stride =
      if offset + count * stride ≤ uint64Max then some (offset + count * stride) else none := by
  have hguard : (uint64Max - offset) / stride < count ↔ ¬ offset + count * stride ≤ uint64Max := by
    rw [Nat.div_lt_iff_lt_mul hstride]
    omega
  unfold advanceLayout
  by_cases hfits : offset + count * stride ≤ uint64Max
  · have hword : (offset + count * stride) % 2 ^ 64 = offset + count * stride := by
      unfold uint64Max at hfits
      exact Nat.mod_eq_of_lt (by omega)
    rw [if_neg (by simpa [hguard] using hfits), if_pos hfits, hword]
  · rw [if_pos (hguard.2 hfits), if_neg hfits]

theorem registryAdvance_eq :
    registryAdvance offset count stride = advanceLayout offset count stride :=
  rfl

section

variable (hstride : 0 < stride)

include hstride

theorem advanceLayout_bind_iff (hoff : offset ≤ uint64Max) :
    (advanceLayout offset count stride >>= f) = some a ↔
      offset + count * stride ≤ uint64Max ∧ f (offset + count * stride) = some a := by
  rw [advanceLayout_eq hstride hoff]
  split_ifs with hfits
  · simp [hfits]
  · simp [hfits]

theorem advanceLayout_bind (hfits : offset + count * stride ≤ uint64Max) :
    (advanceLayout offset count stride >>= f) = f (offset + count * stride) := by
  rw [advanceLayout_eq hstride (by omega), if_pos hfits]
  rfl

/-- One step of a client's walk: the offset it was told is the one reached, and the next is in
reach. -/
theorem walk_iff {claimed : Nat} (hoff : offset ≤ uint64Max) :
    (do guard (claimed = offset); let reached ← registryAdvance offset count stride; f reached) =
        some a ↔
      claimed = offset ∧ offset + count * stride ≤ uint64Max ∧
        f (offset + count * stride) = some a := by
  rw [registryAdvance_eq, ← advanceLayout_bind_iff hstride hoff]
  by_cases hclaimed : claimed = offset
  · simp [hclaimed]
  · simp [hclaimed]

theorem walk_last_iff {claimed reached : Nat} (hoff : offset ≤ uint64Max) :
    (do guard (claimed = offset); registryAdvance offset count stride) = some reached ↔
      claimed = offset ∧ offset + count * stride ≤ uint64Max ∧
      offset + count * stride = reached := by
  rw [← bind_pure (registryAdvance offset count stride), walk_iff hstride hoff]
  simp

end

end Advance

/-! ## 6. The one layout -/

variable {deviceCount : Nat} {layout : RegistryLayout} {extension : ExtensionHeader}
    {recovery : Bool}
  {viewId : ViewId}

section Canonical

/-- The layout with exact sums. -/
def canonicalLayout (deviceCount : Nat) (recovery : Bool) : RegistryLayout :=
  let viewAdmission := registryHeaderSize
  let viewControl := viewAdmission + 1 * viewAdmissionSize
  let identities := viewControl + 1 * viewControlSize
  let deviceAdmission := identities + deviceCount * identitySize
  let lifecycleFences := deviceAdmission + deviceCount * deviceAdmissionSize
  let telemetryControl := lifecycleFences + deviceCount * lifecycleFenceSize
  let telemetryBank0 := telemetryControl + 1 * telemetryControlSize
  let telemetryBank1 := telemetryBank0 + deviceCount * telemetryRowSize
  let legacyEnd := telemetryBank1 + deviceCount * telemetryRowSize
  let layout : RegistryLayout :=
    { viewAdmission, viewControl, identities, deviceAdmission, lifecycleFences, telemetryControl,
      telemetryBank0, telemetryBank1, legacyEnd, extension := legacyEnd, total := legacyEnd }
  match recovery with
  | false => layout
  | true =>
    let viewPublisher := legacyEnd + 1 * extensionHeaderSize
    let telemetryPublisher := viewPublisher + 1 * publisherControlSize
    let admissionAttempts := telemetryPublisher + 1 * publisherControlSize
    let admissionLeases := admissionAttempts + admissionAttemptCapacity * admissionAttemptSize
    let deviceUpdates := admissionLeases + admissionLeaseCapacity * admissionLeaseSize
    let lifecycleRanges := deviceUpdates + deviceUpdateCapacity * deviceUpdateSize
    let viewPublishRecords := lifecycleRanges + lifecycleRangeCapacity * lifecycleRangeSize
    let telemetryPublishRecords := viewPublishRecords + viewPublishCapacity * viewPublishSize
    { layout with
      viewPublisher, telemetryPublisher, admissionAttempts, admissionLeases, deviceUpdates,
      lifecycleRanges, viewPublishRecords, telemetryPublishRecords,
      total := telemetryPublishRecords + telemetryPublishCapacity * telemetryPublishSize }

theorem computeLayout_eq_some_iff :
    computeLayout deviceCount recovery = some layout ↔
      layout = canonicalLayout deviceCount recovery ∧ layout.total ≤ uint64Max := by
  unfold computeLayout
  constructor
  · intro h
    have hfits : registryHeaderSize ≤ uint64Max := by decide
    -- every offset reached is where the next advance starts
    iterate 8 obtain ⟨hfits, h⟩ := (advanceLayout_bind_iff (by decide) hfits).1 h
    cases recovery with
    | false =>
      cases h
      exact ⟨rfl, hfits⟩
    | true =>
      iterate 9 obtain ⟨hfits, h⟩ := (advanceLayout_bind_iff (by decide) hfits).1 h
      cases h
      exact ⟨rfl, hfits⟩
  · rintro ⟨rfl, hfits⟩
    -- where the end is in reach, so is every offset before it
    cases recovery with
    | false =>
      simp only [canonicalLayout] at hfits
      iterate 7 have hfits := Nat.le_of_add_right_le hfits
      iterate 8 rw [advanceLayout_bind (by decide) (by with_reducible assumption)]
      rfl
    | true =>
      simp only [canonicalLayout] at hfits
      iterate 16 have hfits := Nat.le_of_add_right_le hfits
      iterate 8 rw [advanceLayout_bind (by decide) (by with_reducible assumption)]
      rw [if_neg (by decide)]
      iterate 9 rw [advanceLayout_bind (by decide) (by with_reducible assumption)]
      rfl

/-- The walk along the tables goes to the end of the one layout, and only along it. -/
theorem walkTables_eq_some_iff {header : RegistryHeader} {reached : Nat} :
    walkTables header = some reached ↔
      tablesCanonical header (canonicalLayout header.deviceCount false) ∧
        reached = (canonicalLayout header.deviceCount false).total ∧ reached ≤ uint64Max := by
  constructor
  · intro h
    have hfits : registryHeaderSize ≤ uint64Max := by decide
    iterate 7 obtain ⟨hclaimed, hfits, h⟩ := (walk_iff (by decide) hfits).1 h
    obtain ⟨hclaimed, hfits, rfl⟩ := (walk_last_iff (by decide) hfits).1 h
    refine ⟨?_, rfl, hfits⟩
    simp only [canonicalLayout]
    and_intros <;> with_reducible assumption
  · rintro ⟨⟨h1, h2, h3, h4, h5, h6, h7, h8⟩, rfl, hfits⟩
    simp only [canonicalLayout] at h1 h2 h3 h4 h5 h6 h7 h8 hfits
    iterate 8 have hfits := Nat.le_of_add_right_le hfits
    iterate 7 refine (walk_iff (by decide) ?_).2 ⟨?_, ?_, ?_⟩ <;> try with_reducible assumption
    refine (walk_last_iff (by decide) ?_).2 ⟨?_, ?_, rfl⟩ <;> with_reducible assumption

theorem walkExtension_eq_some_iff
    {mappingSize reached : Nat} (hwords : extensionWordsValid extension viewId mappingSize)
    (hend : (canonicalLayout deviceCount false).total ≤ uint64Max) :
    walkExtension extension (canonicalLayout deviceCount false).total = some reached ↔
      extensionOffsetsAreCanonical extension (canonicalLayout deviceCount true) ∧
        reached = (canonicalLayout deviceCount true).total ∧ reached ≤ uint64Max := by
  obtain ⟨-, -, -, -, -, -, hattempts, hleases, hupdates, hranges, hviews, htel, -⟩ := hwords
  unfold walkExtension
  rw [hattempts, hleases, hupdates, hranges, hviews, htel, registryAdvance_eq]
  simp only [canonicalLayout] at hend ⊢
  constructor
  · intro h
    obtain ⟨hfits, h⟩ := (advanceLayout_bind_iff (by decide) hend).1 h
    iterate 7 obtain ⟨hclaimed, hfits, h⟩ := (walk_iff (by decide) hfits).1 h
    obtain ⟨hclaimed, hfits, rfl⟩ := (walk_last_iff (by decide) hfits).1 h
    refine ⟨?_, rfl, hfits⟩
    and_intros <;> with_reducible assumption
  · rintro ⟨⟨h1, h2, h3, h4, h5, h6, h7, h8⟩, rfl, hfits⟩
    iterate 8 have hfits := Nat.le_of_add_right_le hfits
    rw [advanceLayout_bind (by decide) (by with_reducible assumption)]
    iterate 7 refine (walk_iff (by decide) ?_).2 ⟨?_, ?_, ?_⟩ <;> try with_reducible assumption
    refine (walk_last_iff (by decide) ?_).2 ⟨?_, ?_, rfl⟩ <;> with_reducible assumption

variable {header : RegistryHeader}

theorem canonicalLayout_extension :
    (canonicalLayout deviceCount recovery).extension =
    (canonicalLayout deviceCount false).total := by
  cases recovery <;> rfl

/-- The tables lie where they lie without the extension. -/
theorem tablesCanonical_iff :
    tablesCanonical header (canonicalLayout deviceCount recovery) ↔
      tablesCanonical header (canonicalLayout deviceCount false) := by
  cases recovery <;> rfl

theorem extension_le_total :
    (canonicalLayout deviceCount false).total + extensionHeaderSize ≤
      (canonicalLayout deviceCount true).total :=
  le_placeEnd
    [1 * publisherControlSize, 1 * publisherControlSize,
      admissionAttemptCapacity * admissionAttemptSize, admissionLeaseCapacity * admissionLeaseSize,
      deviceUpdateCapacity * deviceUpdateSize, lifecycleRangeCapacity * lifecycleRangeSize,
      viewPublishCapacity * viewPublishSize, telemetryPublishCapacity * telemetryPublishSize] _

theorem computeLayout_isSome_iff :
    (∃ layout, computeLayout deviceCount recovery = some layout) ↔
      (canonicalLayout deviceCount recovery).total ≤ uint64Max := by
  constructor
  · rintro ⟨layout, h⟩
    obtain ⟨rfl, hfits⟩ := computeLayout_eq_some_iff.1 h
    exact hfits
  · intro hfits
    exact ⟨_, computeLayout_eq_some_iff.2 ⟨rfl, hfits⟩⟩

end Canonical

/-! ## 7. Regions -/

/-- The regions of a mapping, as offset and size. -/
def RegistryLayout.regions (layout : RegistryLayout) (deviceCount : Nat) (recovery : Bool) :
    List (Nat × Nat) :=
  [(0, 1 * registryHeaderSize), (layout.viewAdmission, 1 * viewAdmissionSize),
    (layout.viewControl, 1 * viewControlSize), (layout.identities, deviceCount * identitySize),
    (layout.deviceAdmission, deviceCount * deviceAdmissionSize),
    (layout.lifecycleFences, deviceCount * lifecycleFenceSize),
    (layout.telemetryControl, 1 * telemetryControlSize),
    (layout.telemetryBank0, deviceCount * telemetryRowSize),
    (layout.telemetryBank1, deviceCount * telemetryRowSize)] ++
  match recovery with
  | false => []
  | true =>
    [(layout.extension, 1 * extensionHeaderSize), (layout.viewPublisher, 1 * publisherControlSize),
      (layout.telemetryPublisher, 1 * publisherControlSize),
      (layout.admissionAttempts, admissionAttemptCapacity * admissionAttemptSize),
      (layout.admissionLeases, admissionLeaseCapacity * admissionLeaseSize),
      (layout.deviceUpdates, deviceUpdateCapacity * deviceUpdateSize),
      (layout.lifecycleRanges, lifecycleRangeCapacity * lifecycleRangeSize),
      (layout.viewPublishRecords, viewPublishCapacity * viewPublishSize),
      (layout.telemetryPublishRecords, telemetryPublishCapacity * telemetryPublishSize)]

attribute [local simp] RegistryLayout.regions

section Regions

theorem regions_eq_place (deviceCount : Nat) (recovery : Bool) :
    let regions := (canonicalLayout deviceCount recovery).regions deviceCount recovery
    regions = place 0 (regions.map Prod.snd) ∧
      (canonicalLayout deviceCount recovery).total = placeEnd 0 (regions.map Prod.snd) := by
  cases recovery <;>
    simp [canonicalLayout, place, placeEnd]

/-- Every record is a whole number of cache lines. -/
theorem regions_sizes :
    ∀ region ∈ layout.regions deviceCount recovery, sharedCacheLineSize ∣ region.2 := by
  have hrecords {count stride : Nat} (hstride : sharedCacheLineSize ∣ stride) :
      sharedCacheLineSize ∣ count * stride := Nat.dvd_mul_left_of_dvd hstride count
  unfold RegistryLayout.regions
  cases recovery with
  | false =>
    simp only [List.append_nil, List.forall_mem_cons]
    and_intros <;> first | exact hrecords (by decide) | trivial
  | true =>
    simp only [List.cons_append, List.nil_append, List.forall_mem_cons]
    and_intros <;> first | exact hrecords (by decide) | trivial

/-- **The regions of a layout** are aligned, disjoint and inside the mapping, which is not too large
for a word. -/
theorem computeLayout_regions (h : computeLayout deviceCount recovery = some layout) :
    layout.total ≤ uint64Max ∧
      (layout.regions deviceCount recovery).Pairwise (fun a b => a.1 + a.2 ≤ b.1) ∧
      ∀ region ∈ layout.regions deviceCount recovery,
        sharedCacheLineSize ∣ region.1 ∧ region.1 + region.2 ≤ layout.total := by
  obtain ⟨rfl, hfits⟩ := computeLayout_eq_some_iff.1 h
  obtain ⟨hplace, htotal⟩ := regions_eq_place deviceCount recovery
  refine ⟨hfits, ?_, fun region hmem => ⟨?_, ?_⟩⟩
  · rw [hplace]
    exact place_disjoint _ 0
  · rw [hplace] at hmem
    refine place_aligned _ (Nat.dvd_zero _) (fun size hsize => ?_) region hmem
    obtain ⟨sized, hsized, rfl⟩ := List.mem_map.1 hsize
    exact regions_sizes sized hsized
  · rw [hplace] at hmem
    rw [htotal]
    exact (place_bounds _ 0 region hmem).2

theorem rangeFits_of_mem {offset count stride : Nat}
    (h : computeLayout deviceCount recovery = some layout) (hstride : 0 < stride)
    (hmem : (offset, count * stride) ∈ layout.regions deviceCount recovery) :
    rangeFits offset count stride layout.total := by
  obtain ⟨hfits, -, hregions⟩ := computeLayout_regions h
  obtain ⟨haligned, hinside⟩ := hregions _ hmem
  have hword : offset + count * stride < 2 ^ 64 := by
    unfold uint64Max at hfits
    omega
  refine ⟨Nat.mod_eq_zero_of_dvd haligned, by omega, ?_, ?_⟩
  · rw [Nat.le_div_iff_mul_le hstride]
    omega
  · rw [Nat.mod_eq_of_lt hword]
    exact hinside

end Regions

/-! ## 8. Both checks accept the one layout -/

/-- The header and, where it says there is one, the extension's header are those of the layout the
header's counts have, and the mapping has the layout's size. -/
def LaidOut (content : RegistryContent) (mappingSize : Nat) : Prop :=
  ∃ recovery layout, computeLayout content.header.deviceCount recovery = some layout ∧
    tablesCanonical content.header layout ∧ layout.total = mappingSize ∧
    match recovery with
    | false => content.header.flags = 0 ∧ content.header.totalSize = layout.total
    | true =>
      content.header.flags = registryFlagRecoveryTables ∧
        extensionWordsValid (content.extension layout.extension) content.header.registryViewId
          mappingSize ∧
        extensionOffsetsAreCanonical (content.extension layout.extension) layout

section Agreement

variable {content : RegistryContent} {mapping mappingSize : Nat}

/-- **The client's check** accepts the one layout. -/
theorem registryOffsetsValid_iff :
    registryOffsetsValid content mappingSize = true ↔ LaidOut content mappingSize := by
  constructor
  · intro h
    unfold registryOffsetsValid at h
    cases hwalk : walkTables content.header with
    | none => simp [hwalk] at h
    | some _ =>
      obtain ⟨htables, rfl, hfits⟩ := walkTables_eq_some_iff.1 hwalk
      simp only [hwalk] at h
      split_ifs at h with hlegacy hflags hwords
      · obtain ⟨htotal, hsize⟩ := of_decide_eq_true h
        exact ⟨false, _, computeLayout_eq_some_iff.2 ⟨rfl, hfits⟩, htables, hsize, hlegacy,
          htotal.symm⟩
      cases hext :
        walkExtension _ (canonicalLayout content.header.deviceCount false).total with
      | none => rw [hext] at h; cases h
      | some =>
        obtain ⟨hoffsets, rfl, hall⟩ := (walkExtension_eq_some_iff hwords hfits).1 hext
        rw [hext] at h
        refine ⟨true, _, computeLayout_eq_some_iff.2 ⟨rfl, hall⟩, tablesCanonical_iff.2 htables,
          of_decide_eq_true h, ?_, hwords, hoffsets⟩
        by_contra hother
        exact hflags (.inl hother)
  · rintro ⟨recovery, layout, hlayout, htables, rfl, hrest⟩
    obtain ⟨rfl, hfits⟩ := computeLayout_eq_some_iff.1 hlayout
    rw [tablesCanonical_iff] at htables
    have hinside := @extension_le_total content.header.deviceCount
    have htablesFit : (canonicalLayout content.header.deviceCount false).total ≤ uint64Max := by
      cases recovery with
      | false => exact hfits
      | true => omega
    have hwalk := walkTables_eq_some_iff.2 ⟨htables, rfl, htablesFit⟩
    unfold registryOffsetsValid
    simp only [hwalk]
    cases recovery with
    | false =>
      obtain ⟨hflags, htotal⟩ := hrest
      rw [if_pos hflags]
      exact decide_eq_true ⟨htotal.symm, rfl⟩
    | true =>
      obtain ⟨hflags, hwords, hoffsets⟩ := hrest
      rw [canonicalLayout_extension] at hwords hoffsets
      have hext := (walkExtension_eq_some_iff hwords htablesFit).2 ⟨hoffsets, rfl, hfits⟩
      rw [if_neg (by rw [hflags]; decide), if_neg, if_neg (not_not.2 hwords)]
      · simp [hext]
      · rintro (hother | hshort | hroom)
        · exact hother hflags
        · omega
        · omega

/-- Flags within a mask are those the mask lets through. -/
theorem flags_eq_and {flags known : UInt32} (h : flags &&& ~~~known = 0) :
    flags = flags &&& known := by
  have hsplit : flags &&& (known ||| ~~~known) = flags &&& known ||| flags &&& ~~~known :=
    UInt32.toBitVec_inj.1 BitVec.and_or_distrib_left
  simpa [h] using hsplit

theorem known_flags {flags : UInt32} (h : flags &&& ~~~registryKnownFlags = 0) :
    flags = 0 ∨ flags = registryFlagRecoveryTables := by
  have hbit : (flags &&& 1).toNat = flags.toNat % 2 := by simp
  rw [flags_eq_and h]
  rcases Nat.mod_two_eq_zero_or_one flags.toNat with heven | hodd
  · exact .inl (UInt32.toNat_inj.1 (hbit.trans heven))
  · exact .inr (UInt32.toNat_inj.1 (hbit.trans hodd))

/-- Every range the daemon checks is a region of the layout. -/
theorem rangesFit (hlayout : computeLayout content.header.deviceCount recovery = some layout)
    (htables : tablesCanonical content.header layout) :
    headerRangesFit content.header layout.total := by
  obtain ⟨h1, h2, h3, h4, h5, h6, h7, h8⟩ := htables
  unfold headerRangesFit
  rw [h1, h2, h3, h4, h5, h6, h7, h8]
  refine ⟨?_, ?_, ?_, ?_, ?_, ?_, ?_, ?_⟩ <;>
    exact rangeFits_of_mem hlayout (by decide) (by simp)

theorem extensionFits (hlayout : computeLayout deviceCount true = some layout)
    (hwords : extensionWordsValid extension viewId mappingSize)
    (hoffsets : extensionOffsetsAreCanonical extension layout) :
    rangeFits layout.extension 1 extensionHeaderSize layout.total ∧
      extensionRangesFit extension layout.total := by
  obtain ⟨-, -, -, -, -, -, hattempts, hleases, hupdates, hranges, hviews, htel, -⟩ := hwords
  obtain ⟨h1, h2, h3, h4, h5, h6, h7, h8⟩ := hoffsets
  unfold extensionRangesFit
  rw [hattempts, hleases, hupdates, hranges, hviews, htel, h1, h2, h3, h4, h5, h6, h7, h8]
  refine ⟨?_, ?_, ?_, ?_, ?_, ?_, ?_, ?_, ?_⟩ <;>
    exact rangeFits_of_mem hlayout (by decide) (by simp)

/-- A check that fails ends the call. -/
theorem check_iff {refused : Prop} [Decidable refused] {status otherwise : SharedStatus}
    (hstat : status ≠ .success) :
    (if refused then status else otherwise) = .success ↔ ¬ refused ∧ otherwise = .success := by
  split_ifs with hrefused
  · simp [hrefused, hstat]
  · simp [hrefused]

/-- **The daemon's check** accepts the one layout too, and looks at the rest of the header and at
whose the records are. -/
theorem attach_iff :
    attach mapping mappingSize content = .success ↔
      (mapping ≠ 0 ∧ mapping % sharedCacheLineSize = 0) ∧
        headerWordsValid content.header mappingSize ∧ recordsAgree content ∧
        LaidOut content mappingSize := by
  unfold attach
  rw [check_iff (by decide), check_iff (by decide)]
  constructor
  · rintro ⟨hplace, hwords, h⟩
    simp only [not_or, not_not] at hplace hwords
    generalize hrecovery :
      decide (content.header.flags &&& registryFlagRecoveryTables ≠ 0) = recovery at h
    split at h
    case h_1 => cases h
    case h_2 layout hlayout =>
    rw [check_iff (by decide), check_iff (by decide), check_iff (by decide)] at h
    obtain ⟨htables, hext, hrecords, -⟩ := h
    simp only [not_or, not_not] at htables hrecords
    refine ⟨⟨hplace.1, hplace.2.1⟩, hwords, hrecords, recovery, layout, hlayout, htables.2.1.1,
      htables.1, ?_⟩
    obtain ⟨-, -, -, -, hknown, -⟩ := id hwords
    rcases known_flags hknown with hflags | hflags
    · rw [hflags] at hrecovery
      cases hrecovery
      exact ⟨hflags, htables.2.1.2⟩
    · obtain rfl : recovery = true := by
        rw [← hrecovery, hflags]
        rfl
      simp only [true_and, not_or, not_not] at hext
      exact ⟨hflags, hext.2.1, hext.2.2.1⟩
  · rintro ⟨⟨hmapping, haligned⟩, hwords, hrecords, recovery, layout, hlayout, htables, rfl, hrest⟩
    obtain ⟨-, -, hregions⟩ := computeLayout_regions hlayout
    have hheader : registryHeaderSize ≤ layout.total := by
      have hinside := (hregions (0, 1 * registryHeaderSize) (by simp)).2
      simpa using hinside
    have htotal : content.header.totalSize = layout.total := hwords.2.2.2.1
    refine ⟨?_, not_not.2 hwords, ?_⟩
    · rintro (hnull | hunaligned | hshort)
      · exact hmapping hnull
      · exact hunaligned haligned
      · omega
    have hrecovery :
        decide (content.header.flags &&& registryFlagRecoveryTables ≠ 0) = recovery := by
      cases recovery with
      | false | true => rw [hrest.1]; rfl
    rw [hrecovery, hlayout]
    rw [check_iff (by decide), check_iff (by decide), check_iff (by decide)]
    refine ⟨?_, ?_, not_not.2 hrecords, rfl⟩
    · rintro (hsize | hoffsets | hranges)
      · exact hsize rfl
      · exact hoffsets ⟨htables, htotal⟩
      · exact hranges (rangesFit hlayout htables)
    · rintro ⟨rfl, hrefused⟩
      obtain ⟨-, hext, hoffsets⟩ := hrest
      obtain ⟨hfits, hranges⟩ := extensionFits hlayout hext hoffsets
      simp [hext, hoffsets, hfits, hranges] at hrefused

/-- Every 32-bit device count has a layout. -/
theorem computeLayout_succeeds (deviceCount : Nat) (recovery : Bool) (h : deviceCount < 2 ^ 32) :
    ∃ layout, computeLayout deviceCount recovery = some layout := by
  rw [computeLayout_isSome_iff]
  cases recovery <;>
    simp only [canonicalLayout, registryHeaderSize, viewAdmissionSize, viewControlSize,
      identitySize, deviceAdmissionSize, lifecycleFenceSize, telemetryControlSize, telemetryRowSize,
      extensionHeaderSize, publisherControlSize, admissionAttemptSize, admissionLeaseSize,
      deviceUpdateSize, lifecycleRangeSize, viewPublishSize, telemetryPublishSize,
      admissionAttemptCapacity, admissionLeaseCapacity, deviceUpdateCapacity,
      lifecycleRangeCapacity, viewPublishCapacity, telemetryPublishCapacity,
      ordinaryViewPublishCapacity, ordinaryTelemetryPublishCapacity, uint64Max] <;> omega

/-- **Layout agreement.**  The client's check accepts a header exactly when its offsets and the size
of the mapping are those of the layout for its counts; the daemon attaches to what the client
accepts once the other words and the records are right; and the regions of a layout are as they
should be. -/
theorem layout_agreement (content : RegistryContent) (mappingSize : Nat) :
    (registryOffsetsValid content mappingSize = true ↔ LaidOut content mappingSize) ∧
    (∀ mapping, attach mapping mappingSize content = .success ↔
      (mapping ≠ 0 ∧ mapping % sharedCacheLineSize = 0) ∧
        headerWordsValid content.header mappingSize ∧ recordsAgree content ∧
        registryOffsetsValid content mappingSize = true) ∧
    (∀ deviceCount recovery layout, computeLayout deviceCount recovery = some layout →
      layout.total ≤ uint64Max ∧
        (layout.regions deviceCount recovery).Pairwise (fun a b => a.1 + a.2 ≤ b.1) ∧
        ∀ region ∈ layout.regions deviceCount recovery,
          sharedCacheLineSize ∣ region.1 ∧ region.1 + region.2 ≤ layout.total) ∧
    (∀ deviceCount recovery, deviceCount < 2 ^ 32 →
      ∃ layout, computeLayout deviceCount recovery = some layout) ∧
    ∀ offset count stride reached, 0 < stride → offset ≤ uint64Max →
      advanceLayout offset count stride = some reached ∨
        registryAdvance offset count stride = some reached →
      reached = offset + count * stride ∧ reached ≤ uint64Max := by
  refine ⟨registryOffsetsValid_iff, fun mapping => ?_, fun _ _ _ => computeLayout_regions,
    computeLayout_succeeds, ?_⟩
  · rw [registryOffsetsValid_iff]
    exact attach_iff
  · intro offset count stride reached hstride hoff h
    rw [registryAdvance_eq, or_self, advanceLayout_eq hstride hoff] at h
    split_ifs at h with hfits
    cases h
    exact ⟨rfl, hfits⟩

end Agreement

/-- A mapping of no devices, as it is laid out with the given words in its header. -/
def emptyContent (magic : Nat) (flags : UInt32) (totalSize : Nat) : RegistryContent where
  header :=
    { magic, flags, totalSize, registryViewId := ⟨1, 1⟩, deviceCount := 0, telemetryRowCount := 0,
      viewAdmissionOffset := 128, viewControlOffset := 192, identitiesOffset := 320,
      deviceAdmissionOffset := 320, lifecycleFencesOffset := 320, telemetryControlOffset := 320,
      telemetryBank0Offset := 384, telemetryBank1Offset := 384 }
  extension := fun _ =>
    { totalSize := 22016, registryViewId := ⟨1, 1⟩, viewPublisherControlOffset := 640,
      telemetryPublisherControlOffset := 704, admissionAttemptsOffset := 768,
      admissionLeasesOffset := 2816, deviceUpdatesOffset := 8960, lifecycleRangesOffset := 12032,
      viewPublishRecordsOffset := 15104, telemetryPublishRecordsOffset := 19712 }
  viewAdmissionId := fun _ => ⟨1, 1⟩
  viewControlId := fun _ => ⟨1, 1⟩
  identityRecordId := fun _ _ => 0
  committedGeneration := fun _ _ => 0
  deviceAdmissionIdentity := fun _ _ => 0
  fenceIdentity := fun _ _ => 0

theorem layout_agreement_empty :
    attach 64 22016 (emptyContent registryMagic registryFlagRecoveryTables 22016) = .success :=
  ((layout_agreement _ _).2.1 64).2 (by decide +kernel)

/-- The client's check does not look at the magic, and with the extension not at the header's total
size.  The daemon looks at both. -/
theorem client_accepts_more :
    registryOffsetsValid (emptyContent 0 0 384) 384 = true ∧
      (∀ mapping, attach mapping 384 (emptyContent 0 0 384) ≠ .success) ∧
      registryOffsetsValid (emptyContent registryMagic registryFlagRecoveryTables 0) 22016 = true ∧
      ∀ mapping,
        attach mapping 22016 (emptyContent registryMagic registryFlagRecoveryTables 0) ≠
        .success := by
  refine ⟨by decide +kernel, fun mapping h => ?_, by decide +kernel, fun mapping h => ?_⟩
  · obtain ⟨-, ⟨hmagic, -⟩, -⟩ := attach_iff.1 h
    exact absurd hmagic (by decide)
  · obtain ⟨-, ⟨-, -, -, htotal, -⟩, -⟩ := attach_iff.1 h
    exact absurd htotal (by decide)

end MetaFlux.Registry
