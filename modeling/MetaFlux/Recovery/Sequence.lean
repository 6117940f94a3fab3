/-
# The recovery model: sequence numbers

The second half of the model's methods: the ranges of sequence numbers a view reserves, the
publications that consume them from the front, and reads.  A range goes `initializing`, `prepared`,
`open`, `retired`; while the head is open ONE more range may be claimed behind it, and
`advanceRangeHead` moves it up when the head has been retired.

At the end stands the type `Op` of calls that change the state, with `step`, and the check
`invariantsHold` the source makes of itself.
-/
import MetaFlux.Recovery.Model

namespace MetaFlux.Recovery

open Base

/-! ## 1. Ranges

The source keeps two range records, the head and the one following it, and passes pointers to them
around; a `RangeSlot` is such a pointer. -/

inductive RangeSlot where
  | head | following
deriving DecidableEq, Repr

variable (m : Model)

def Model.rangeAt : RangeSlot → RangeRecord
  | .head => m.range
  | .following => m.followingRange

def Model.setRangeAt (range : RangeRecord) : RangeSlot → Model
  | .head => { m with range }
  | .following => { m with followingRange := range }

def RangeState.unopened (s : RangeState) : Prop := s = .initializing ∨ s = .prepared
deriving Decidable

def initializingRange (tag : Nat) : Option RangeSlot :=
  if m.range.tag = tag ∧ m.range.state.unopened then some .head
  else if m.followingRange.tag = tag ∧ m.followingRange.state.unopened then some .following
  else none

def archiveRetiredRange (range : RangeRecord) : Option Model :=
  if range.state = .retired ∧ m.retiredRanges.Room then
    some { m with retiredRanges := m.retiredRanges.push range }
  else none

/-- Where the next range goes, with the head archived and cleared if the next range replaces it. -/
def rangeDestination : Option (RangeSlot × Model) :=
  if m.range.state = .free then some (.head, m)
  else if (m.range.state = .retired ∨ m.range.state = .terminal) ∧
      m.followingRange.state = .free then
    if m.range.state = .retired then
      (archiveRetiredRange m m.range).map fun m => (.head, { m with range := {} })
    else some (.head, { m with range := {} })
  else if m.range.state = .open ∧ m.followingRange.state = .free then some (.following, m)
  else none

def claimRange (rangeTag length : Nat) : Bool × Model :=
  match checkedAddBelowTerminal m.allocationHighWater length m.limits.sequenceTerminal,
      checkedAddBelowTerminal m.rangeTokenGeneration 1 m.limits.generationTerminal with
  | some target, some nextTokenGeneration =>
    if m.valid = true ∧ length ≠ 0 ∧ m.viewState = .open ∧
        nextTag m m.rangeTagHighWater rangeTag ∧ nextTokenGeneration ≤ uint32Max then
      match rangeDestination m with
      | none => (false, m)
      | some (slot, cleared) =>
        (true, { cleared with rangeTagHighWater := rangeTag }.setRangeAt
          { tag := rangeTag
            state := .initializing
            begin := m.allocationHighWater + 1
            «end» := target
            tokenGeneration := nextTokenGeneration
            unusedSuffixBegin := 0
            unusedSuffixEnd := 0 } slot)
    else (false, m)
  | _, _ => (false, m)

def prepareRange (rangeTag : Nat) : Bool × Model :=
  match initializingRange m rangeTag with
  | none => (false, m)
  | some slot =>
    if (m.rangeAt slot).state = .initializing then
      (true, m.setRangeAt { m.rangeAt slot with state := .prepared } slot)
    else (false, m)

/-- The checks of `open_range` on the record it selects. -/
def openable (slot : RangeSlot) : Prop :=
  (m.rangeAt slot).state = .prepared ∧ (m.rangeAt slot).begin ≠ 0 ∧
    (m.rangeAt slot).begin - 1 = m.allocationHighWater ∧
    (m.rangeAt slot).end < m.limits.sequenceTerminal ∧
    checkedAddBelowTerminal m.rangeTokenGeneration 1 m.limits.generationTerminal =
      some (m.rangeAt slot).tokenGeneration ∧
    (slot = .following → m.range.state = .open)
deriving Decidable

/-- The record is opened and the allocation reaches its end. -/
def Model.openAt (slot : RangeSlot) : Model :=
  let opened := { m.rangeAt slot with state := .open }
  { m with
    allocationHighWater := opened.end
    rangeTokenGeneration := opened.tokenGeneration
    history := { m.history with opened := opened :: m.history.opened } }.setRangeAt opened slot

def openRange (rangeTag : Nat) : Bool × Model :=
  match initializingRange m rangeTag with
  | none => (false, m)
  | some slot => if openable m slot then (true, m.openAt slot) else (false, m)

def reserveRange (rangeTag length : Nat) : Bool × Model :=
  andThen (andThen (claimRange m rangeTag length) fun m => prepareRange m rangeTag)
    fun m => openRange m rangeTag

def rangeToken (range : RangeRecord) : Option RangeToken :=
  if range.state = .open then
    some
      { viewId := m.viewId
        viewGeneration := m.viewGeneration
        tokenGeneration := range.tokenGeneration
        rangeTag := range.tag
        rangeBegin := range.begin
        rangeEnd := range.end }
  else none

def currentRangeToken : Option RangeToken := rangeToken m m.range

def followingRangeToken : Option RangeToken := rangeToken m m.followingRange

def advanceRangeHead : Bool × Model :=
  if m.range.state = .retired ∧ m.followingRange.state = .open ∧ m.publication.state.idle then
    match archiveRetiredRange m m.range with
    | none => (false, m)
    | some archived =>
      (true, { archived with range := m.followingRange, followingRange := {} })
  else (false, m)

/-! ## 2. Publications -/

def claimPublicationToken (token : RangeToken) (publishTag : Nat)
    (requiresCompensation : Bool) : Bool × Model :=
  match checkedAddBelowTerminal m.publicationCursor 1 m.limits.sequenceTerminal with
  | none => (false, m)
  | some nextCursor =>
    if rangeTokenValid m token ∧ rangeRecordMatches m m.range token ∧
        m.publication.state.idle ∧ nextTag m m.publication.tag publishTag ∧
        max m.range.begin nextCursor ≤ m.range.end then
      (true, { m with
        publication :=
          { tag := publishTag
            state := .initializing
            owner := .live
            rangeTag := token.rangeTag
            tokenGeneration := token.tokenGeneration
            rangeBegin := token.rangeBegin
            rangeEnd := token.rangeEnd
            targetSequence := max m.range.begin nextCursor
            payloadApplied := false
            requiresCompensation := requiresCompensation } })
    else (false, m)

def claimPublication (publishTag : Nat) (requiresCompensation : Bool) : Bool × Model :=
  match currentRangeToken m with
  | none => (false, m)
  | some token => claimPublicationToken m token publishTag requiresCompensation

variable (publishTag : Nat)

def preparePublication : Bool × Model :=
  if m.publication.tag = publishTag ∧ m.publication.state = .initializing then
    (true, m.setPublication .prepared)
  else (false, m)

def linkPublication : Bool × Model :=
  if m.publication.tag = publishTag ∧ m.publication.state = .prepared then
    (true, m.setPublication .linking)
  else (false, m)

def activatePublication : Bool × Model :=
  if m.publication.tag = publishTag ∧ m.publication.state = .linking ∧ m.viewState = .open ∧
      publicationRangeMatches m then
    (true, m.setPublication .active)
  else (false, m)

/-- The cursor moves to `value`, in the head range as it is now. -/
def Model.moveCursor (value : Nat) : Model :=
  { m with
    publicationCursor := value
    history := { m.history with published := (value, m.range) :: m.history.published } }

def applyPublication : Bool × Model :=
  match checkedAddBelowTerminal m.publicationCursor 1 m.limits.sequenceTerminal with
  | none => (false, m)
  | some nextCursor =>
    if m.publication.tag = publishTag ∧ m.publication.state = .active ∧
        m.publication.payloadApplied = false ∧ m.viewState = .open ∧
        publicationRangeMatches m ∧
        m.publication.targetSequence = max m.range.begin nextCursor then
      (true, { m.moveCursor m.publication.targetSequence with
        publication := { m.publication with payloadApplied := true }
        intermediateVisible := m.publication.requiresCompensation })
    else (false, m)

def markPublication : Bool × Model :=
  if m.publication.tag = publishTag ∧ m.publication.state = .active ∧
      m.publication.payloadApplied = true ∧ m.viewState = .open ∧ publicationRangeMatches m ∧
      m.publicationCursor = m.publication.targetSequence then
    (true, m.setPublication .published)
  else (false, m)

/-- The head as it is when retired: what lies past the cursor was never used. -/
def RangeRecord.retire (range : RangeRecord) (cursor : Nat) : RangeRecord :=
  if cursor < range.begin then
    { range with unusedSuffixBegin := range.begin, unusedSuffixEnd := range.end, state := .retired }
  else if cursor < range.end then
    { range with unusedSuffixBegin := cursor + 1, unusedSuffixEnd := range.end, state := .retired }
  else { range with unusedSuffixBegin := 0, unusedSuffixEnd := 0, state := .retired }

def retireRange : Bool × Model :=
  if publicationRangeMatches m then
    let retired := m.range.retire m.publicationCursor
    (true, { m with
      range := retired
      history := { m.history with retired := retired :: m.history.retired } })
  else (false, m)

def finishPublication : Bool × Model :=
  if m.publication.tag = publishTag ∧
      (m.publication.state = .aborted ∨
        (m.publication.state = .published ∧ m.intermediateVisible = false)) then
    if (retireRange m).1 then (true, (retireRange m).2.setPublication .terminal) else (false, m)
  else (false, m)

def abortPublication : Bool × Model :=
  if m.publication.tag = publishTag ∧
      (m.publication.state = .initializing ∨ m.publication.state = .prepared) then
    (true, m.setPublication .aborted)
  else (false, m)

def compensate : Bool × Model :=
  match checkedAddBelowTerminal m.publicationCursor 1 m.limits.sequenceTerminal with
  | none => (false, m)
  | some target =>
    if m.intermediateVisible = true ∧ m.viewState = .open ∧ publicationRangeMatches m ∧
        target ≤ m.range.end then
      (true, { m.moveCursor target with
        intermediateVisible := false
        compensationCount := (m.compensationCount + 1) % 2 ^ 32 })
    else (false, m)

/-- `op` if the guard holds.  A refusal ends the recovery with everything quarantined. -/
def quarantineUnless (guard : Bool) (op : Model → Bool × Model) (m : Model) : Except Model Model :=
  if guard then
    if (op m).1 then .ok (op m).2
    else .error ((quarantine (op m).2).setPublication .quarantined)
  else .ok m

def recoverPublicationLink : Except Model Model :=
  quarantineUnless (m.publication.state = .linking) (activatePublication · publishTag) m

def recoverPublicationApply : Except Model Model :=
  quarantineUnless (m.publication.state = .active && !m.publication.payloadApplied)
    (applyPublication · publishTag) m

def recoverPublicationMark : Except Model Model :=
  quarantineUnless (m.publication.state = .active) (markPublication · publishTag) m

def recoverPublicationCompensate : Except Model Model :=
  quarantineUnless (m.publication.state = .published && m.intermediateVisible) compensate m

/-- The stages of a dead publisher's recovery, from the state its publication was left in. -/
def recoverPublicationStages : Except Model Model := do
  let activated ← recoverPublicationLink m publishTag
  let applied ← recoverPublicationApply activated publishTag
  let marked ← recoverPublicationMark applied publishTag
  recoverPublicationCompensate marked

def recoverDeadPublication : Bool × Model :=
  if m.publication.tag = publishTag then
    let dead := { m with publication := { m.publication with owner := .dead } }
    let settled :=
      if dead.publication.state = .initializing ∨ dead.publication.state = .prepared then
        dead.setPublication .aborted
      else dead
    if settled.publication.state = .aborted then finishPublication settled publishTag
    else
      match recoverPublicationStages settled publishTag with
      | .error quarantined => (false, quarantined)
      | .ok recovered =>
        if recovered.publication.state = .published then finishPublication recovered publishTag
        else (decide (recovered.publication.state = .terminal), recovered)
  else (false, m)

def expireLivePublication : Bool × Model :=
  if m.publication.tag = publishTag ∧ m.publication.owner = .live ∧
      m.publication.state ≠ .free ∧ m.publication.state ≠ .aborted ∧
      m.publication.state ≠ .terminal ∧ m.publication.state ≠ .quarantined then
    (true, quarantine { m.setPublication .quarantined with
      range := { m.range with state := .quarantined } })
  else (false, m)

def reclaimPublication (newTag : Nat) : Bool × Model :=
  if m.publication.state = .terminal ∧ m.range.state = .retired ∧
      nextTag m m.publication.tag newTag then
    (true, { m with publication := { tag := newTag } })
  else (false, m)

/-! ## 3. Reads -/

def beginRead : Option ReadSnapshot :=
  if controlsMatch m m.viewGeneration m.deviceGeneration then
    some
      { viewId := m.viewId
        viewGeneration := m.viewGeneration
        deviceGeneration := m.deviceGeneration
        epoch := m.epoch }
  else none

def finishRead (snapshot : ReadSnapshot) : Bool :=
  decide (snapshot.viewId = m.viewId ∧ snapshot.epoch = m.epoch ∧
    controlsMatch m snapshot.viewGeneration snapshot.deviceGeneration)

/-! ## 4. Calls and runs -/

/-- A call of a public method that may change the state, with its arguments.  The methods that only
read it (`currentAdmissionToken`, `rangeTokenValid`, `beginRead`, ...) are functions of the state.
-/
inductive Op where
  | enterAttempt (attemptTag : Nat)
  | claimLease (attemptTag leaseTag : Nat)
  | materializeLease (attemptTag leaseTag : Nat)
  | reserveLease (attemptTag leaseTag : Nat)
  | beginLeaseCommitToken (token : AdmissionToken)
  | beginLeaseCommit (leaseTag : Nat)
  | finishLeaseCommit (leaseTag : Nat)
  | writeLeaseTarget (leaseTag : Nat)
  | publishLease (leaseTag : Nat)
  | releaseLease (leaseTag : Nat)
  | recoverDeadLease (leaseTag : Nat)
  | expireLiveLease (leaseTag : Nat)
  | reclaimLease (newTag : Nat)
  | closeView
  | closeDevice
  | claimDeviceUpdate (updateTag : Nat)
  | materializeDeviceUpdate (updateTag : Nat)
  | prepareDeviceUpdate (updateTag : Nat)
  | beginDeviceUpdateLink (updateTag : Nat)
  | completeDeviceUpdateLink (updateTag : Nat)
  | linkDeviceUpdate (updateTag : Nat)
  | publishDeviceUpdate (updateTag : Nat)
  | reopenDeviceUpdate (updateTag : Nat)
  | finishDeviceUpdate (updateTag : Nat)
  | recoverDeadDeviceUpdate (updateTag : Nat)
  | expireLiveDeviceUpdate (updateTag : Nat)
  | claimRange (rangeTag length : Nat)
  | prepareRange (rangeTag : Nat)
  | openRange (rangeTag : Nat)
  | reserveRange (rangeTag length : Nat)
  | advanceRangeHead
  | claimPublicationToken (token : RangeToken) (publishTag : Nat) (requiresCompensation : Bool)
  | claimPublication (publishTag : Nat) (requiresCompensation : Bool)
  | preparePublication (publishTag : Nat)
  | linkPublication (publishTag : Nat)
  | activatePublication (publishTag : Nat)
  | applyPublication (publishTag : Nat)
  | markPublication (publishTag : Nat)
  | finishPublication (publishTag : Nat)
  | abortPublication (publishTag : Nat)
  | recoverDeadPublication (publishTag : Nat)
  | expireLivePublication (publishTag : Nat)
  | reclaimPublication (newTag : Nat)
deriving DecidableEq, Repr

/-- One call: its answer (`true` for the methods that return nothing) and the next state. -/
def call : Op → Bool × Model
  | .enterAttempt a => enterAttempt m a
  | .claimLease a l => claimLease m a l
  | .materializeLease a l => materializeLease m a l
  | .reserveLease a l => reserveLease m a l
  | .beginLeaseCommitToken t => beginLeaseCommitToken m t
  | .beginLeaseCommit l => beginLeaseCommit m l
  | .finishLeaseCommit l => finishLeaseCommit m l
  | .writeLeaseTarget l => writeLeaseTarget m l
  | .publishLease l => publishLease m l
  | .releaseLease l => releaseLease m l
  | .recoverDeadLease l => recoverDeadLease m l
  | .expireLiveLease l => expireLiveLease m l
  | .reclaimLease t => reclaimLease m t
  | .closeView => (true, closeView m)
  | .closeDevice => (true, closeDevice m)
  | .claimDeviceUpdate u => claimDeviceUpdate m u
  | .materializeDeviceUpdate u => materializeDeviceUpdate m u
  | .prepareDeviceUpdate u => prepareDeviceUpdate m u
  | .beginDeviceUpdateLink u => beginDeviceUpdateLink m u
  | .completeDeviceUpdateLink u => completeDeviceUpdateLink m u
  | .linkDeviceUpdate u => linkDeviceUpdate m u
  | .publishDeviceUpdate u => publishDeviceUpdate m u
  | .reopenDeviceUpdate u => reopenDeviceUpdate m u
  | .finishDeviceUpdate u => finishDeviceUpdate m u
  | .recoverDeadDeviceUpdate u => recoverDeadDeviceUpdate m u
  | .expireLiveDeviceUpdate u => expireLiveDeviceUpdate m u
  | .claimRange r n => claimRange m r n
  | .prepareRange r => prepareRange m r
  | .openRange r => openRange m r
  | .reserveRange r n => reserveRange m r n
  | .advanceRangeHead => advanceRangeHead m
  | .claimPublicationToken t p c => claimPublicationToken m t p c
  | .claimPublication p c => claimPublication m p c
  | .preparePublication p => preparePublication m p
  | .linkPublication p => linkPublication m p
  | .activatePublication p => activatePublication m p
  | .applyPublication p => applyPublication m p
  | .markPublication p => markPublication m p
  | .finishPublication p => finishPublication m p
  | .abortPublication p => abortPublication m p
  | .recoverDeadPublication p => recoverDeadPublication m p
  | .expireLivePublication p => expireLivePublication m p
  | .reclaimPublication t => reclaimPublication m t

def step (op : Op) : Model :=
  (call m op).2

/-! ## 5. The model's check of itself -/

def Limits.validRange (limits : Limits) (range : RangeRecord) : Prop :=
  if range.state = .free then range.begin = 0 ∧ range.end = 0
  else
    (range.begin ≠ 0 ∧ range.begin ≤ range.end ∧ range.end < limits.sequenceTerminal ∧
      range.tokenGeneration ≠ 0 ∧ range.tokenGeneration < limits.generationTerminal) ∧
    if range.state ≠ .retired then range.unusedSuffixBegin = 0 ∧ range.unusedSuffixEnd = 0
    else (range.unusedSuffixBegin = 0 ∧ range.unusedSuffixEnd = 0) ∨
      (range.begin ≤ range.unusedSuffixBegin ∧ range.unusedSuffixBegin ≤ range.end ∧
        range.unusedSuffixEnd = range.end)
deriving Decidable

def PublishState.inFlight (s : PublishState) : Prop :=
  s = .initializing ∨ s = .prepared ∨ s = .linking ∨ s = .active ∨ s = .published
deriving Decidable

/-- The source's `invariants_hold`, one conjunct for each of its tests. -/
def invariantsHold : Bool :=
  decide (m.valid = true ∧ m.allocationHighWater < m.limits.sequenceTerminal ∧
      m.publicationCursor ≤ m.allocationHighWater ∧ m.viewGeneration ≠ 0 ∧
      m.viewGeneration ≤ m.limits.generationTerminal ∧ m.deviceGeneration ≠ 0 ∧
      m.deviceGeneration ≤ m.limits.generationTerminal ∧ m.rangeTokenGeneration ≠ 0 ∧
      m.rangeTokenGeneration < m.limits.generationTerminal ∧ m.epoch ≠ 0 ∧
      m.epoch < m.limits.epochTerminal ∧ m.attempt.tag < m.limits.tagTerminal ∧
      m.lease.tag < m.limits.tagTerminal ∧ m.update.tag < m.limits.tagTerminal ∧
      m.rangeTagHighWater < m.limits.tagTerminal ∧ m.range.tag < m.limits.tagTerminal ∧
      m.followingRange.tag < m.limits.tagTerminal ∧ m.publication.tag < m.limits.tagTerminal ∧
      m.retiredRanges.rows.length ≤ 2) &&
  decide (m.viewState = .terminal ∨ m.viewState = .quarantined →
    m.deviceState = .closed ∧ m.deviceGeneration = m.limits.generationTerminal ∧
      hasLiveLease m = false) &&
  decide (m.deviceState = .updating →
    m.deviceUpdateTag ≠ 0 ∧ m.update.tag = m.deviceUpdateTag ∧
      (m.update.state = .active ∨ m.update.state = .fencePublished)) &&
  decide (m.update.state = .active ∨ m.update.state = .fencePublished →
    m.update.newGeneration = m.deviceGeneration ∧ m.update.newEpoch = m.epoch) &&
  decide (m.intermediateVisible = true →
    m.publication.payloadApplied = true ∧
      (m.publication.state = .active ∨ m.publication.state = .published ∨
        m.publication.state = .quarantined)) &&
  decide (m.intermediateVisible = true → m.viewState = .open ∨ m.viewState = .quarantined) &&
  decide (m.limits.validRange m.range ∧ m.limits.validRange m.followingRange) &&
  decide (m.followingRange.state ≠ .free →
    m.range.state = .open ∨ m.range.state = .retired ∨ m.range.state = .quarantined) &&
  decide (m.followingRange.state ≠ .free → m.range.end + 1 = m.followingRange.begin) &&
  decide (∀ range ∈ m.retiredRanges.rows, range.state = .retired ∧ m.limits.validRange range) &&
  decide (m.publication.state.inFlight → publicationRangeMatches m)

end MetaFlux.Recovery
