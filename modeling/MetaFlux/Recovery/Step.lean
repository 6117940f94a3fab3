/-
# The elementary steps of the recovery model

Forty-three calls, some of them cascades of others, come down to a few dozen elementary steps.  This
module says ONCE what those are, each with every check that stood before it in the source, and
`Recovery/Calls.lean` reduces each call to them; every invariant of the development is then a case
analysis on the steps and no later module unfolds a method again.

The steps are grouped by the records they write:

* `LeaseStep`: the attempt and the lease;
* `UpdateStep`: the update record alone;
* `ControlStep`: the view, the device and everything a closing or a quarantine settles;
* `RangeStep`: the two range records and the archive;
* `PublicationStep`: the publication, the cursor and the retirement of the head.

**Two steps stand apart** and are not among these: the counting of an admission
(`Model.countAdmission`), the one step that moves the admission counter, and the opening of a range
(`Model.openAt`), the one step that looks neither at the view nor at any record that a closed view
has settled.
-/
import MetaFlux.Recovery.Sequence

namespace MetaFlux.Recovery

open Base Relation

variable {m m' : Model}

/-! ## 1. The arithmetic of tags -/

theorem nextTag_iff {current proposed : Nat} :
    nextTag m current proposed ↔ proposed = current + 1 ∧ proposed < m.limits.tagTerminal := by
  unfold nextTag
  omega

/-! ## 2. The steps -/

/-- The attempt and the lease. -/
inductive LeaseStep (m : Model) : Model → Prop where
  | enter (tag : Nat) (hview : m.viewState = .open) (hdev : m.deviceState = .open)
      (hidle : m.attempt.state = .idle ∨ m.attempt.state = .exited)
      (htag : nextTag m m.attempt.tag tag) :
      LeaseStep m { m with
        attempt :=
          { tag, state := .entering, viewGeneration := m.viewGeneration
            deviceGeneration := m.deviceGeneration } }
  | claim (tag : Nat) (hatt : m.attempt.state = .entering) (hfree : m.lease.state = .free)
      (htag : nextTag m m.lease.tag tag)
      (hctrl : controlsMatch m m.attempt.viewGeneration m.attempt.deviceGeneration) :
      LeaseStep m { m with
        attempt := { m.attempt with state := .initializing, targetLeaseTag := tag }
        lease :=
          { tag, state := .initializing, viewGeneration := m.attempt.viewGeneration
            deviceGeneration := m.attempt.deviceGeneration } }
  | materialize (hatt : m.attempt.state = .initializing)
      (hlease : m.lease.state = .initializing)
      (hctrl : controlsMatch m m.lease.viewGeneration m.lease.deviceGeneration) :
      LeaseStep m ((m.setLease .reserved).setAttempt .ready)
  | beginCommit (hlease : m.lease.state = .reserved) (hatt : m.attempt.state = .ready)
      (hctrl : controlsMatch m m.lease.viewGeneration m.lease.deviceGeneration) :
      LeaseStep m (m.setLease .committing)
  | write (hlease : m.lease.state = .committed) :
      LeaseStep m { m with lease := { m.lease with targetWritten := true } }
  | publish (hlease : m.lease.state = .committed) :
      LeaseStep m { m with
        lease := { m.lease with
          targetWritten := true, publicationMarker := true, state := .published } }
  | release (hlease : m.lease.state = .published) :
      LeaseStep m { m.setLease .released with
        attempt :=
          if m.attempt.targetLeaseTag = m.lease.tag then { m.attempt with state := .exited }
          else m.attempt }
  | die : LeaseStep m { m with lease := { m.lease with owner := .dead } }
  | recover (lease : LeaseRecord) (hlease : m.lease.afterDeath = some lease) :
      LeaseStep m { m with
        lease
        attempt :=
          if m.attempt.targetLeaseTag = m.lease.tag then
            { m.attempt with owner := .dead, state := .exited }
          else m.attempt }
  | reclaim (tag : Nat)
      (hlease : m.lease.state = .released ∨ m.lease.state = .revoked ∨ m.lease.state = .tombstoned)
      (htag : nextTag m m.lease.tag tag) (hatt : m.attempt.state = .exited) :
      LeaseStep m { m with lease := { tag } }

/-- The update record.  `drop` is the closing of an update whose next operation was refused. -/
inductive UpdateStep (m : Model) : Model → Prop where
  | claim (tag : Nat) (hview : m.viewState = .open) (hdev : m.deviceState = .open)
      (hidle : m.update.state = .free ∨ m.update.state = .terminal)
      (htag : nextTag m m.update.tag tag)
      (hgen : m.deviceGeneration + 1 < m.limits.generationTerminal)
      (hepoch : m.epoch + 1 < m.limits.epochTerminal) :
      UpdateStep m { m with
        update :=
          { tag, state := .initializing, oldGeneration := m.deviceGeneration
            newGeneration := m.deviceGeneration + 1, oldEpoch := m.epoch
            newEpoch := m.epoch + 1 } }
  | materialize (hstate : m.update.state = .initializing) : UpdateStep m (m.setUpdate .prepared)
  | beginLink (hstate : m.update.state = .prepared) : UpdateStep m (m.setUpdate .linking)
  | refuseLink (hstate : m.update.state = .linking) (htuple : ¬ linkTupleMatches m) :
      UpdateStep m (m.setUpdate .closed)
  | publish (hstate : m.update.state = .active) (htuple : updateTupleMatches m m.update.tag) :
      UpdateStep m { m with
        update := { m.update with fencePublished := true, state := .fencePublished } }
  | finish
      (hstate : m.update.state = .reopened ∨ m.update.state = .aborted ∨ m.update.state = .closed) :
      UpdateStep m (m.setUpdate .terminal)
  | die : UpdateStep m { m with update := { m.update with owner := .dead } }
  | abort (hstate : m.update.state = .initializing ∨ m.update.state = .prepared) :
      UpdateStep m (m.setUpdate .aborted)
  | drop
      (hstate : (m.update.state = .active ∧ ¬ updateTupleMatches m m.update.tag) ∨
        (m.update.state = .fencePublished ∧
          ¬ (m.update.fencePublished = true ∧ updateTupleMatches m m.update.tag))) :
      UpdateStep m (m.setUpdate .closed)

/-- The update's owner is still at work on it. -/
def UpdateState.pending (s : UpdateState) : Prop :=
  s ≠ .free ∧ s ≠ .aborted ∧ s ≠ .closed ∧ s ≠ .terminal ∧ s ≠ .quarantined

/-- What makes some call quarantine the view. -/
def quarantineCause (m : Model) : Prop :=
  hasLiveLease m = true ∨ m.update.state.pending ∨ m.publication.state.inFlight ∨
    (m.viewState ≠ .terminal ∧ m.viewState ≠ .quarantined)

/-- The device as `close_device` leaves it. -/
def Model.closedDevice (m : Model) : Model :=
  settleLeaseForClose
    { m with
      deviceState := .closed
      deviceGeneration := m.limits.generationTerminal
      deviceUpdateTag := 0
      update := { m.update with state := m.update.state.settle } }

/-- The view and the device. -/
inductive ControlStep (m : Model) : Model → Prop where
  | link (hstate : m.update.state = .linking) (htuple : linkTupleMatches m) :
      ControlStep m (linkDevice m m.update.tag)
  | reopen (hstate : m.update.state = .fencePublished)
      (hfence : m.update.fencePublished = true) (htuple : updateTupleMatches m m.update.tag) :
      ControlStep m { m.setUpdate .reopened with deviceState := .open, deviceUpdateTag := 0 }
  | closeDevice
      (hopen : ¬ (m.deviceState = .closed ∧ m.deviceGeneration = m.limits.generationTerminal)) :
      ControlStep m m.closedDevice
  | closeView (hview : m.viewState ≠ .terminal ∧ m.viewState ≠ .quarantined)
      (hidle : m.publication.state.idle)
      (hdev : m.deviceState = .closed ∧ m.deviceGeneration = m.limits.generationTerminal) :
      ControlStep m { settleLeaseForClose m with
        viewState := .terminal, viewGeneration := m.limits.generationTerminal }
  | quarantine (hcause : quarantineCause m) : ControlStep m (quarantine m)
  | expirePublication (hstate : m.publication.state.inFlight) :
      ControlStep m (Recovery.quarantine { m with
        range := { m.range with state := .quarantined } })

/-- A range may be claimed as the head, with what the archive is then: the head is free, or spent
with nothing behind it, and goes to the archive or is dropped. -/
def Model.HeadVacant (m : Model) (archive : Table RangeRecord 2) : Prop :=
  (m.range.state = .free ∧ archive = m.retiredRanges) ∨
    (m.followingRange.state = .free ∧ m.range.state = .retired ∧ m.retiredRanges.Room ∧
      archive = m.retiredRanges.push m.range) ∨
    (m.followingRange.state = .free ∧ m.range.state = .terminal ∧ archive = m.retiredRanges)

/-- The range records. -/
inductive RangeStep (m : Model) : Model → Prop where
  | claimHead (tag length : Nat) (archive : Table RangeRecord 2) (hview : m.viewState = .open)
      (hlen : length ≠ 0) (htag : nextTag m m.rangeTagHighWater tag)
      (hend : m.allocationHighWater + length < m.limits.sequenceTerminal)
      (htoken : m.rangeTokenGeneration + 1 < m.limits.generationTerminal)
      (hplace : m.HeadVacant archive) :
      RangeStep m { m with
        rangeTagHighWater := tag
        retiredRanges := archive
        range :=
          { tag, state := .initializing, begin := m.allocationHighWater + 1
            «end» := m.allocationHighWater + length
            tokenGeneration := m.rangeTokenGeneration + 1 } }
  | claimFollowing (tag length : Nat) (hview : m.viewState = .open) (hlen : length ≠ 0)
      (htag : nextTag m m.rangeTagHighWater tag)
      (hend : m.allocationHighWater + length < m.limits.sequenceTerminal)
      (htoken : m.rangeTokenGeneration + 1 < m.limits.generationTerminal)
      (hhead : m.range.state = .open) (hfree : m.followingRange.state = .free) :
      RangeStep m { m with
        rangeTagHighWater := tag
        followingRange :=
          { tag, state := .initializing, begin := m.allocationHighWater + 1
            «end» := m.allocationHighWater + length
            tokenGeneration := m.rangeTokenGeneration + 1 } }
  | prepareHead (hstate : m.range.state = .initializing) :
      RangeStep m { m with range := { m.range with state := .prepared } }
  | prepareFollowing (hstate : m.followingRange.state = .initializing) :
      RangeStep m { m with followingRange := { m.followingRange with state := .prepared } }
  | advance (hhead : m.range.state = .retired) (hfoll : m.followingRange.state = .open)
      (hidle : m.publication.state.idle) (hroom : m.retiredRanges.Room) :
      RangeStep m { m with
        retiredRanges := m.retiredRanges.push m.range
        range := m.followingRange
        followingRange := {} }

/-- The publication and the cursor.  A claim is checked against the head, but the token it shows
may be valid on account of the following range; that the two never agree is an invariant. -/
inductive PublicationStep (m : Model) : Model → Prop where
  | claim (tag : Nat) (requiresCompensation : Bool) (hview : m.viewState = .open)
      (hhead : m.range.state = .open ∨
        (m.followingRange.state = .open ∧ m.followingRange.begin = m.range.begin))
      (hidle : m.publication.state.idle) (htag : nextTag m m.publication.tag tag)
      (hcursor : m.publicationCursor + 1 < m.limits.sequenceTerminal)
      (htarget : max m.range.begin (m.publicationCursor + 1) ≤ m.range.end) :
      PublicationStep m { m with
        publication :=
          { tag, state := .initializing, rangeTag := m.range.tag
            tokenGeneration := m.range.tokenGeneration, rangeBegin := m.range.begin
            rangeEnd := m.range.end
            targetSequence := max m.range.begin (m.publicationCursor + 1)
            requiresCompensation } }
  | prepare (hstate : m.publication.state = .initializing) :
      PublicationStep m (m.setPublication .prepared)
  | link (hstate : m.publication.state = .prepared) :
      PublicationStep m (m.setPublication .linking)
  | activate (hstate : m.publication.state = .linking) (hview : m.viewState = .open)
      (hrange : publicationRangeMatches m) :
      PublicationStep m (m.setPublication .active)
  | apply (hstate : m.publication.state = .active)
      (hpay : m.publication.payloadApplied = false) (hview : m.viewState = .open)
      (hrange : publicationRangeMatches m)
      (htarget : m.publication.targetSequence = max m.range.begin (m.publicationCursor + 1)) :
      PublicationStep m { m.moveCursor m.publication.targetSequence with
        publication := { m.publication with payloadApplied := true }
        intermediateVisible := m.publication.requiresCompensation }
  | mark (hstate : m.publication.state = .active)
      (hpay : m.publication.payloadApplied = true) (hview : m.viewState = .open)
      (hrange : publicationRangeMatches m)
      (hcursor : m.publicationCursor = m.publication.targetSequence) :
      PublicationStep m (m.setPublication .published)
  | finish
      (hstate : m.publication.state = .aborted ∨
        (m.publication.state = .published ∧ m.intermediateVisible = false))
      (hrange : publicationRangeMatches m) :
      PublicationStep m ({ m with
        range := m.range.retire m.publicationCursor
        history := { m.history with
          retired := m.range.retire m.publicationCursor :: m.history.retired } }.setPublication
            .terminal)
  | abort (hstate : m.publication.state = .initializing ∨ m.publication.state = .prepared) :
      PublicationStep m (m.setPublication .aborted)
  | compensate (hstate : m.publication.state = .published)
      (hvis : m.intermediateVisible = true) (hview : m.viewState = .open)
      (hrange : publicationRangeMatches m) (htarget : m.publicationCursor + 1 ≤ m.range.end) :
      PublicationStep m { m.moveCursor (m.publicationCursor + 1) with
        intermediateVisible := false
        compensationCount := (m.compensationCount + 1) % 2 ^ 32 }
  | die : PublicationStep m { m with publication := { m.publication with owner := .dead } }
  | reclaim (tag : Nat) (hstate : m.publication.state = .terminal)
      (hhead : m.range.state = .retired) (htag : nextTag m m.publication.tag tag) :
      PublicationStep m { m with publication := { tag } }

/-- An elementary step that neither counts an admission nor opens a range. -/
inductive Step (m m' : Model) : Prop where
  | lease (h : LeaseStep m m')
  | update (h : UpdateStep m m')
  | control (h : ControlStep m m')
  | range (h : RangeStep m m')
  | publication (h : PublicationStep m m')

def Steps : Model → Model → Prop :=
  ReflTransGen Step

theorem Steps.refl (m : Model) : Steps m m := ReflTransGen.refl

theorem Steps.trans {a b c : Model} (h : Steps a b) (h' : Steps b c) : Steps a c :=
  ReflTransGen.trans h h'

theorem LeaseStep.steps (h : LeaseStep m m') : Steps m m' := .single (.lease h)

theorem UpdateStep.steps (h : UpdateStep m m') : Steps m m' := .single (.update h)

theorem ControlStep.steps (h : ControlStep m m') : Steps m m' := .single (.control h)

theorem RangeStep.steps (h : RangeStep m m') : Steps m m' := .single (.range h)

theorem PublicationStep.steps (h : PublicationStep m m') : Steps m m' := .single (.publication h)

/-- What every step preserves, a sequence of steps preserves. -/
theorem Steps.induction {P : Model → Prop} (hstep : ∀ {a b}, Step a b → P a → P b)
    (h : Steps m m') (hm : P m) : P m' := by
  induction h with
  | refl => exact hm
  | tail _ hs ih => exact hstep hs ih

end MetaFlux.Recovery
