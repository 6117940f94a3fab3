/-
# What a call can do to the mapping

Every program of the registry is a sequence of MOVES, each a small change of one part of the mapping
under the condition that the source makes it under: a slot of a table goes forward under its tag or
is taken over under the next one, a range is linked at the tail of the queue or unlinked at its
head, the word of a device goes up, a fence is written while its device admits nobody.  `Move K`
allows the moves of the parts that `K` names, so one theorem about a program says at the same time
what it can do and what it leaves alone (`Kept`).

Two parts are permissions rather than places: only with `pendingUpdate` may a record of an update be
brought to a state that recovery takes up again, and with `pendingTelemetry` a record of a
publication of telemetry.

Publishing a device's identity is the exception.  It takes the admission word up and, when it fails,
back again, and is described as a whole (`Registry/Identity`).
-/
import MetaFlux.Registry.Calls

namespace MetaFlux.Registry

open Base Function
open Relation (ReflTransGen)

/-! ## 1. Slots and words -/

/-- A slot goes forward under its tag, or is taken over under the next one; only in the state in
which it is taken over is its payload written.  Closing gives it the terminal tag. -/
inductive SlotStep {α ρ : Type} (rank : α → Nat) (initial : α) (old new : Cell α ρ) : Prop
  | refer (hword : new.word = old.word) (hpay : new.payload = old.payload)
  | fill (hword : new.word = old.word) (hinitial : old.word.state = initial)
  | advance (htag : new.word.tag = old.word.tag % 2 ^ 24)
      (hrank : rank old.word.state < rank new.word.state) (hpay : new.payload = old.payload)
  | claim (htag : new.word.tag = old.word.tag + 1) (hlimit : old.word.tag < recordTagMaxNormal)
      (hstate : new.word.state = initial)
  | terminal (htag : new.word.tag = recordTagTerminal)

def attemptRank : AttemptState → Nat
  | .idle => 0
  | .entering => 1
  | .initializing => 2
  | .claiming => 3
  | .ready => 4
  | .exited => 5

def leaseRank : LeaseState → Nat
  | .free => 0
  | .initializing => 1
  | .reserved => 2
  | .committing => 3
  | .committed => 4
  | .published => 5
  | .quarantined => 6
  | .released | .revoked | .tombstoned => 7

abbrev AttemptStep : Cell AttemptState Attempt → Cell AttemptState Attempt → Prop :=
  SlotStep attemptRank .entering

abbrev LeaseStep : Cell LeaseState Lease → Cell LeaseState Lease → Prop :=
  SlotStep leaseRank .initializing

/-- What happens to a range outside of the queue. -/
inductive RangeStep (old new : Cell RangeState LifecycleRange) : Prop
  | refer (hword : new.word = old.word) (hpay : new.payload = old.payload)
  | outside (hold : old.word.state ≠ .open) (hnew : new.word.state ≠ .open)
      (htag : new.word.tag = old.word.tag ∨ new.word.tag = old.word.tag % 2 ^ 24 ∨
        new.word.tag = old.word.tag + 1 ∧ old.word.tag < recordTagMaxNormal)

/-- How far the admission word of a device that is not closed has come. -/
def DeviceWord.rank (word : DeviceWord) : Nat :=
  match word.state with
  | .updating => 2 * word.generation - 1
  | _ => 2 * word.generation

/-- The word goes up, or the device is closed for good. -/
inductive WordStep (old new : DeviceWord) : Prop
  | up (hold : old.state ≠ .closed) (hrank : old.rank < new.rank)
  | close (hclosed : new.state = .closed)

/-- The states of an update that recovery carries on with. -/
def updatePending : UpdateState → Bool
  | .prepared | .linking | .active | .fencePublished => true
  | _ => false

/-- Every device of the view is closed. -/
def AllClosed (s : Mapping) : Prop := ∀ i < s.deviceCount, (s.devices i).admission.state = .closed

/-- The view has ended, the regular way or the other. -/
def ViewState.ended : ViewState → Prop
  | .terminal | .quarantined => True
  | _ => False

/-! ## 2. Moves -/

inductive Part where
  | admissions | updates | pendingUpdate | publications | telemetryRecords
    | pendingTelemetry | ranges
  | control | view
  | admission (index : Nat)
  | fenceLatch (index : Nat)
  | fence (index : Nat) (fence : FenceSnapshot)
  | telemetryControl | telemetryRows

/-- The queue is where it was. -/
def QueueKept (c c' : ViewControl) : Prop :=
  c'.reservationHeadSlot = c.reservationHeadSlot ∧ c'.reservationTailSlot = c.reservationTailSlot ∧
    c'.allocationHighWater = c.allocationHighWater ∧ c'.publicationCursor = c.publicationCursor

/-- No other bank has become the active one.  Only whoever may write rows may do that. -/
def BankKept (c c' : TelemetryControl) : Prop :=
  c'.activeBank.state = .ready → c'.activeBank = c.activeBank

inductive Move (K : Part → Prop) (s : Mapping) : Mapping → Prop
  | attempt {slot : Nat} {cell : Cell AttemptState Attempt} (hk : K .admissions)
      (h : AttemptStep (s.attempts slot) cell) : Move K s (attemptTable.put slot cell s)
  | lease {slot : Nat} {cell : Cell LeaseState Lease} (hk : K .admissions)
      (h : LeaseStep (s.leases slot) cell) : Move K s (leaseTable.put slot cell s)
  | update {slot : Nat} {cell : Cell UpdateState DeviceUpdate} (hk : K .updates)
      (h : updatePending cell.word.state = true →
        updatePending (s.updates slot).word.state = true ∨ K .pendingUpdate) :
      Move K s (updateTable.put slot cell s)
  | publication {slot : Nat} {cell : Cell PublishState ViewPublication} (hk : K .publications) :
      Move K s (viewPublicationTable.put slot cell s)
  | viewPublisher {word : Tagged PublisherState} (hk : K .publications) :
      Move K s (writePublisher .view word s)
  | telemetryRecord {slot : Nat} {cell : Cell PublishState TelemetryPublication}
      (hk : K .telemetryRecords)
      (h : publicationSettled cell.word.state = false → slot < ordinaryTelemetryPublishCapacity →
        publicationSettled (s.telemetryPublications slot).word.state = false ∨
        K .pendingTelemetry) :
      Move K s (telemetryPublicationTable.put slot cell s)
  | telemetryPublisher {word : Tagged PublisherState} (hk : K .telemetryRecords) :
      Move K s (writePublisher .telemetry word s)
  | range {slot : Nat} {cell : Cell RangeState LifecycleRange} (hk : K .ranges)
      (h : RangeStep (s.ranges slot) cell) : Move K s (rangeTable.put slot cell s)
  | link {slot tag rangeEnd : Nat} (hk : K .ranges) (hext : s.extended = true)
      (hslot : slot < lifecycleRangeCapacity)
      (hword : (s.ranges slot).word = packRecord tag .prepared Disposition.none.code)
      (hnext : (s.ranges slot).payload.nextTailSlot = recordSlotNone)
      (hview : s.viewAdmission.state = .open) (habove : s.control.allocationHighWater < rangeEnd)
      (hbelow : rangeEnd < uint64Max) : Move K s (linkRange slot tag rangeEnd s)
  | unlink {token : LifecycleRangeToken} {usedThrough : Nat} (hk : K .ranges)
      (hslot : token.rangeSlot < lifecycleRangeCapacity)
      (hword : (s.ranges token.rangeSlot).word =
        packRecord token.rangeTag .open Disposition.none.code)
      (hend : (s.ranges token.rangeSlot).payload.rangeEnd = token.rangeEnd)
      (hhead : s.control.reservationHeadSlot = token.rangeSlot) :
      Move K s (unlinkRange token usedThrough s)
  | control {f : ViewControl → ViewControl} (hk : K .control)
    (h : QueueKept s.control (f s.control)) :
      Move K s (onControl f s)
  | terminate {even : Nat} (hk : K .view) (hview : s.viewAdmission.state ≠ .open)
      (hempty : s.extended = true → s.control.reservationHeadSlot = recordSlotNone) :
      Move K s (terminateControl even s)
  | view {word : ViewWord} (hk : K .view) (hnot : word.state ≠ .open)
      (hended : ViewState.ended word.state → AllClosed s) :
      Move K s { s with viewAdmission := word }
  | admission {index : Nat} {word : DeviceWord} (hk : K (.admission index))
      (h : WordStep (s.devices index).admission word) :
      Move K s (onDevice index (·.setAdmission word) s)
  | shut {devices : Nat → Device} (hk : ∀ i, K (.admission i))
      (h : ∀ i, devices i = s.devices i ∨ devices i = (s.devices i).setAdmission .closed) :
      Move K s { s with devices }
  | fenceLatch {index latch : Nat} (hk : K (.fenceLatch index)) :
      Move K s (onDevice index (·.setFenceLatch latch) s)
  | fence {index latch : Nat} {fence : FenceSnapshot} (hlatch : K (.fenceLatch index))
      (hk : K (.fence index fence)) (h : (s.devices index).admission.state ≠ .open) :
      Move K s (onDevice index (·.setFence fence latch) s)
  | telemetryControl {f : TelemetryControl → TelemetryControl} (hk : K .telemetryControl)
      (h : K .telemetryRows ∨ BankKept s.telemetryControl (f s.telemetryControl)) :
      Move K s (onTelemetry f s)
  | telemetryRows {bank : Nat} {rows : List TelemetryRow} (hk : K .telemetryRows) :
      Move K s (putRows bank rows s)

abbrev Moves (K : Part → Prop) : Mapping → Mapping → Prop := ReflTransGen (Move K)

variable {K : Part → Prop} {s s' : Mapping} {f : Device → Device}

theorem Move.mono {K' : Part → Prop} (hle : ∀ p, K p → K' p) (m : Move K s s') : Move K' s s' := by
  cases m with
  | attempt hk h => exact .attempt (hle _ hk) h
  | lease hk h => exact .lease (hle _ hk) h
  | update hk h => exact .update (hle _ hk) fun hpend => (h hpend).imp_right (hle _)
  | publication hk => exact .publication (hle _ hk)
  | viewPublisher hk => exact .viewPublisher (hle _ hk)
  | telemetryRecord hk h =>
    exact .telemetryRecord (hle _ hk) fun hpend hslot => (h hpend hslot).imp_right (hle _)
  | telemetryPublisher hk => exact .telemetryPublisher (hle _ hk)
  | range hk h => exact .range (hle _ hk) h
  | link hk hext hslot hword hnext hview habove hbelow =>
    exact .link (hle _ hk) hext hslot hword hnext hview habove hbelow
  | unlink hk hslot hword hend hhead => exact .unlink (hle _ hk) hslot hword hend hhead
  | control hk h => exact .control (hle _ hk) h
  | terminate hk hview hempty => exact .terminate (hle _ hk) hview hempty
  | view hk hnot hended => exact .view (hle _ hk) hnot hended
  | admission hk h => exact .admission (hle _ hk) h
  | shut hk h => exact .shut (fun i => hle _ (hk i)) h
  | fenceLatch hk => exact .fenceLatch (hle _ hk)
  | fence hlatch hk h => exact .fence (hle _ hlatch) (hle _ hk) h
  | telemetryControl hk h => exact .telemetryControl (hle _ hk) (h.imp_left (hle _))
  | telemetryRows hk => exact .telemetryRows (hle _ hk)

/-- A fact that every move keeps is kept by all of them. -/
theorem Moves.keeps {A : Mapping → Prop}
    (h : ∀ s s', Move K s s' → A s → A s') (m : Moves K s s') (hs : A s) : A s' := by
  induction m with
  | refl => exact hs
  | tail _ hmove ih => exact h _ _ hmove ih

/-! ## 3. What is left alone -/

/-- The parts that `K` does not name are as they were; how many devices there are, of which view and
under which identities, no move changes. -/
structure Kept (K : Part → Prop) (s s' : Mapping) : Prop where
  extended : s'.extended = s.extended
  viewId : s'.viewId = s.viewId
  deviceCount : s'.deviceCount = s.deviceCount
  identity : ∀ i, (s'.devices i).identityRecordId = (s.devices i).identityRecordId
  committed : ∀ i, (s'.devices i).committedGeneration = (s.devices i).committedGeneration
  attempts : ¬ K .admissions → s'.attempts = s.attempts
  leases : ¬ K .admissions → s'.leases = s.leases
  updates : ¬ K .updates → s'.updates = s.updates
  publications : ¬ K .publications → s'.viewPublications = s.viewPublications
  publisher : ¬ K .publications → s'.viewPublisher = s.viewPublisher
  telemetryRecords : ¬ K .telemetryRecords → s'.telemetryPublications = s.telemetryPublications
  ranges : ¬ K .ranges → s'.ranges = s.ranges
  queue : ¬ K .ranges → ¬ K .view → QueueKept s.control s'.control
  control : ¬ K .ranges → ¬ K .view → ¬ K .control → s'.control = s.control
  view : ¬ K .view → s'.viewAdmission = s.viewAdmission
  admission : ∀ i, ¬ K (.admission i) → (s'.devices i).admission = (s.devices i).admission
  fenceLatch : ∀ i, ¬ K (.fenceLatch i) → (s'.devices i).fenceLatch = (s.devices i).fenceLatch
  fence : ∀ i, (s'.devices i).fence = (s.devices i).fence ∨ K (.fence i (s'.devices i).fence)
  bank : ¬ K .telemetryRows → BankKept s.telemetryControl s'.telemetryControl
  telemetryControl : ¬ K .telemetryControl → s'.telemetryControl = s.telemetryControl
  telemetryRows : ¬ K .telemetryRows → s'.telemetryBanks = s.telemetryBanks

theorem Kept.refl (K : Part → Prop) (s : Mapping) : Kept K s s where
  extended := rfl
  viewId := rfl
  deviceCount := rfl
  identity _ := rfl
  committed _ := rfl
  attempts _ := rfl
  leases _ := rfl
  updates _ := rfl
  publications _ := rfl
  publisher _ := rfl
  telemetryRecords _ := rfl
  ranges _ := rfl
  queue _ _ := ⟨rfl, rfl, rfl, rfl⟩
  control _ _ _ := rfl
  view _ := rfl
  admission _ _ := rfl
  fenceLatch _ _ := rfl
  fence _ := .inl rfl
  bank _ := fun _ => rfl
  telemetryControl _ := rfl
  telemetryRows _ := rfl

theorem QueueKept.trans {a b c : ViewControl} (h : QueueKept a b) (h' : QueueKept b c) :
    QueueKept a c :=
  ⟨h'.1.trans h.1, h'.2.1.trans h.2.1, h'.2.2.1.trans h.2.2.1, h'.2.2.2.trans h.2.2.2⟩

theorem BankKept.trans {a b c : TelemetryControl} (h : BankKept a b) (h' : BankKept b c) :
    BankKept a c := by
  intro hready
  have hsame := h' hready
  exact hsame.trans (h (hsame ▸ hready))

theorem Kept.trans {a b c : Mapping} (h : Kept K a b) (h' : Kept K b c) : Kept K a c where
  extended := h'.extended.trans h.extended
  viewId := h'.viewId.trans h.viewId
  deviceCount := h'.deviceCount.trans h.deviceCount
  identity i := (h'.identity i).trans (h.identity i)
  committed i := (h'.committed i).trans (h.committed i)
  attempts hk := (h'.attempts hk).trans (h.attempts hk)
  leases hk := (h'.leases hk).trans (h.leases hk)
  updates hk := (h'.updates hk).trans (h.updates hk)
  publications hk := (h'.publications hk).trans (h.publications hk)
  publisher hk := (h'.publisher hk).trans (h.publisher hk)
  telemetryRecords hk := (h'.telemetryRecords hk).trans (h.telemetryRecords hk)
  ranges hk := (h'.ranges hk).trans (h.ranges hk)
  queue hr hv := (h.queue hr hv).trans (h'.queue hr hv)
  control hr hv hk := (h'.control hr hv hk).trans (h.control hr hv hk)
  view hk := (h'.view hk).trans (h.view hk)
  admission i hk := (h'.admission i hk).trans (h.admission i hk)
  fenceLatch i hk := (h'.fenceLatch i hk).trans (h.fenceLatch i hk)
  fence i := by
    rcases h'.fence i with hsame | hwritten
    · rw [hsame]
      exact h.fence i
    · exact .inr hwritten
  bank hk := (h.bank hk).trans (h'.bank hk)
  telemetryControl hk := (h'.telemetryControl hk).trans (h.telemetryControl hk)
  telemetryRows hk := (h'.telemetryRows hk).trans (h.telemetryRows hk)

/-- Nothing was allowed to touch a device. -/
theorem Kept.devices (h : Kept K s s')
    (hadm : ∀ i, ¬ K (.admission i)) (hlatch : ∀ i, ¬ K (.fenceLatch i))
    (hfence : ∀ i fence, ¬ K (.fence i fence)) : s'.devices = s.devices := by
  funext i
  have hsame := (h.fence i).resolve_right (hfence i _)
  cases hnew : s'.devices i
  have hident := h.identity i
  have hcomm := h.committed i
  have hword := h.admission i (hadm i)
  have hunlatched := h.fenceLatch i (hlatch i)
  simp_all

/-- A change of one device. -/
theorem kept_onDevice {index : Nat} (hident : ∀ d, (f d).identityRecordId = d.identityRecordId)
    (hcomm : ∀ d, (f d).committedGeneration = d.committedGeneration)
    (hadm : ¬ K (.admission index) → ∀ d, (f d).admission = d.admission)
    (hlatch : ¬ K (.fenceLatch index) → ∀ d, (f d).fenceLatch = d.fenceLatch)
    (hfence : ∀ d, (f d).fence = d.fence ∨ K (.fence index (f d).fence)) :
    Kept K s (onDevice index f s) := by
  have hother : ∀ i, i ≠ index → (onDevice index f s).devices i = s.devices i := fun i hi =>
    update_of_ne hi _ _
  have hself : (onDevice index f s).devices index = f (s.devices index) := update_self ..
  refine { Kept.refl K s with
    identity := fun i => ?_, committed := fun i => ?_, admission := fun i hk => ?_,
    fenceLatch := fun i hk => ?_, fence := fun i => ?_ } <;> by_cases hi : i = index
  all_goals first | (rw [hother i hi]; exact .inl rfl) | rw [hother i hi] | (subst hi; rw [hself])
  · exact hident _
  · exact hcomm _
  · exact hadm hk _
  · exact hlatch hk _
  · exact hfence _

theorem linkRange_eq (slot tag rangeEnd : Nat) (s : Mapping) :
    linkRange slot tag rangeEnd s = { s with
      ranges := (linkRange slot tag rangeEnd s).ranges
      control := (linkRange slot tag rangeEnd s).control } := by
  by_cases hprev : s.control.reservationTailSlot ≠ recordSlotNone ∧
      s.control.reservationTailSlot < lifecycleRangeCapacity
  · simp only [linkRange, if_pos hprev]
    rfl
  · simp only [linkRange, if_neg hprev]
    rfl

theorem Move.kept (m : Move K s s') : Kept K s s' := by
  cases m with
  | attempt hk => exact { Kept.refl K s with attempts := fun h => absurd hk h }
  | lease hk => exact { Kept.refl K s with leases := fun h => absurd hk h }
  | update hk => exact { Kept.refl K s with updates := fun h => absurd hk h }
  | publication hk => exact { Kept.refl K s with publications := fun h => absurd hk h }
  | viewPublisher hk => exact { Kept.refl K s with publisher := fun h => absurd hk h }
  | telemetryRecord hk => exact { Kept.refl K s with telemetryRecords := fun h => absurd hk h }
  | telemetryPublisher => exact { Kept.refl K s with }
  | range hk => exact { Kept.refl K s with ranges := fun h => absurd hk h }
  | link hk _ _ _ _ _ _ _ =>
    rw [linkRange_eq]
    exact { Kept.refl K s with
      ranges := absurd hk
      queue := fun h _ => absurd hk h
      control := fun h _ _ => absurd hk h }
  | unlink hk _ _ _ _ =>
    exact { Kept.refl K s with
      ranges := absurd hk
      queue := fun h _ => absurd hk h
      control := fun h _ _ => absurd hk h }
  | control hk h =>
    exact { Kept.refl K s with queue := fun _ _ => h, control := fun _ _ h => absurd hk h }
  | terminate hk _ _ =>
    exact { Kept.refl K s with
      queue := fun _ h => absurd hk h, control := fun _ h _ => absurd hk h }
  | view hk => exact { Kept.refl K s with view := fun h => absurd hk h }
  | admission hk _ =>
    exact kept_onDevice (fun _ => rfl) (fun _ => rfl) (absurd hk) (fun _ _ => rfl) fun _ => .inl rfl
  | shut hk h =>
    refine { Kept.refl K s with
      identity := fun i => ?_, committed := fun i => ?_, admission := fun i h => absurd (hk i) h,
      fenceLatch := fun i _ => ?_, fence := fun i => .inl ?_ } <;>
    · rcases h i with hi | hi <;> simp only [hi, Device.setAdmission]
  | fenceLatch hk =>
    exact kept_onDevice (fun _ => rfl) (fun _ => rfl) (fun _ _ => rfl) (absurd hk) fun _ => .inl rfl
  | fence hlatch hk _ =>
    exact kept_onDevice (fun _ => rfl) (fun _ => rfl) (fun _ _ => rfl) (absurd hlatch)
      fun _ => .inr hk
  | telemetryControl hk h =>
    exact { Kept.refl K s with
      bank := h.resolve_left, telemetryControl := fun h => absurd hk h }
  | telemetryRows hk => exact { Kept.refl K s with telemetryRows := fun h => absurd hk h }

theorem Moves.kept (m : Moves K s s') : Kept K s s' :=
  Moves.keeps (fun _ _ hmove h => h.trans hmove.kept) m (Kept.refl K s)

/-! ## 4. One slot, one device -/

section Views

theorem slotStep_update {α ρ : Type} {rank : α → Nat} {initial : α}
    {cells : Nat → Cell α ρ} {i : Nat}
    {c : Cell α ρ} (h : SlotStep rank initial (cells i) c) (slot : Nat) :
    SlotStep rank initial (cells slot) (update cells i c slot) := by
  by_cases hslot : slot = i
  · subst hslot
    rwa [update_self]
  · rw [update_of_ne hslot]
    exact .refer rfl rfl

theorem Move.attemptStep (m : Move K s s') (slot : Nat) :
    AttemptStep (s.attempts slot) (s'.attempts slot) := by
  cases m with
  | attempt _ h => exact slotStep_update h slot
  | link =>
    rw [linkRange_eq]
    exact .refer rfl rfl
  | _ => exact .refer rfl rfl

theorem Move.leaseStep (m : Move K s s') (slot : Nat) :
    LeaseStep (s.leases slot) (s'.leases slot) := by
  cases m with
  | lease _ h => exact slotStep_update h slot
  | link =>
    rw [linkRange_eq]
    exact .refer rfl rfl
  | _ => exact .refer rfl rfl

/-- The word of a device goes up, or its fence is written while it admits nobody. -/
inductive DeviceStep (old new : Device) : Prop
  | same (hword : new.admission = old.admission) (hfence : new.fence = old.fence)
  | word (h : WordStep old.admission new.admission) (hfence : new.fence = old.fence)
  | fence (hword : new.admission = old.admission) (hstate : old.admission.state ≠ .open)

theorem deviceStep_onDevice {index : Nat}
    (h : DeviceStep (s.devices index) (f (s.devices index))) (i : Nat) :
    DeviceStep (s.devices i) ((onDevice index f s).devices i) := by
  unfold onDevice
  by_cases hi : i = index
  · subst hi
    simpa using h
  · simp only [update_of_ne hi]
    exact .same rfl rfl

theorem Move.deviceStep (m : Move K s s') (i : Nat) : DeviceStep (s.devices i) (s'.devices i) := by
  cases m with
  | admission _ h => exact deviceStep_onDevice (.word h rfl) i
  | shut _ h =>
    rcases h i with hi | hi <;> simp only [hi]
    · exact .same rfl rfl
    · exact .word (.close rfl) rfl
  | fenceLatch => exact deviceStep_onDevice (.same rfl rfl) i
  | fence _ _ h => exact deviceStep_onDevice (.fence rfl h) i
  | link =>
    rw [linkRange_eq]
    exact .same rfl rfl
  | _ => exact .same rfl rfl

theorem Move.viewStep (m : Move K s s') :
    s'.viewAdmission = s.viewAdmission ∨ s'.viewAdmission.state ≠ .open := by
  cases m with
  | view _ hnot => exact .inr hnot
  | link =>
    rw [linkRange_eq]
    exact .inl rfl
  | _ => exact .inl rfl

end Views

end MetaFlux.Registry
