/-
# Publishing fences, call by call

A fence is written under its device's admission word: the word leaves the open state before the
fence changes and comes back to it above where it was.  Publishing one writes no other fence than
the one that was asked for (`fencing`), a call that succeeds has written it, and whatever the call
answers, no update is left under way (`publishFence_does`).

The last point is where the path matters.  Of the exchanges that an update makes on its own records
none can fail, since nobody else runs; the fence is always written once the device has been taken
from the open state; and the record has left the states that recovery takes up before anything is
given back.
-/
import MetaFlux.Registry.Admission

namespace MetaFlux.Registry

open Base

variable {K : Part → Prop}

attribute [local simp] Device.setFence

/-! ## 1. Words and fences -/

@[simp] theorem onDevice_self (index : Nat) (f : Device → Device) (s : Mapping) :
    (onDevice index f s).devices index = f (s.devices index) := Function.update_self ..

variable {index : Nat} {P : Mapping → Prop}

theorem exchangeAdmission_does (hk : K (.admission index)) {expected desired : DeviceWord}
    (hstep : WordStep expected desired) {Q : Option DeviceWord → Mapping → Prop}
    (hyes : ∀ s, P s → (s.devices index).admission = expected →
      Q none (onDevice index (·.setAdmission desired) s))
    (hno : ∀ s, P s → (s.devices index).admission ≠ expected →
      Q (some (s.devices index).admission) s) :
    Triple (Does K) P (exchangeAdmission index expected desired) Q := by
  refine .get_bind fun s hs => .ite (fun hfound => ?_) fun hother => ?_
  · refine .bind (.modify_at (Q := fun _ => Q none) ?_ (hyes s hs hfound)) fun _ => .skip
    exact .of_move (.admission hk (hfound ▸ hstep)) rfl
  · exact .answer (hno _ hs hother)

/-- The conditions under which a fence is written. -/
structure Writable (intended : FenceSnapshot) (expectedControl : DeviceWord) (expectedLatch : Nat)
    (device : Device) : Prop where
  identity : intended.identityRecordId = device.identityRecordId
  sequence : intended.lifecycleSequence ≠ 0
  usable : ¬ latchUnusable expectedLatch
  admission : device.admission = expectedControl
  latch : device.fenceLatch = expectedLatch

/-- A fence is written whole, or not at all. -/
abbrev FenceWritten (index : Nat) (intended : FenceSnapshot) (expectedControl : DeviceWord)
    (expectedLatch : Nat) (s : Mapping) (status : SharedStatus) (s' : Mapping) : Prop :=
  (status = .success ∧ Writable intended expectedControl expectedLatch (s.devices index) ∧
    s' = onDevice index (·.setFence intended (expectedLatch + 2)) s) ∨
  (status ≠ .success ∧ ¬ Writable intended expectedControl expectedLatch (s.devices index) ∧ s' = s)

variable {intended : FenceSnapshot}

theorem writeFence_does (hlatch : K (.fenceLatch index))
    (hfence : K (.fence index intended)) (expectedControl : DeviceWord)
    (hstate : expectedControl.state ≠ .open) (expectedLatch : Nat) (s : Mapping) :
    Triple (Does K) (· = s) (writeFence index intended expectedControl expectedLatch)
      (FenceWritten index intended expectedControl expectedLatch s) := by
  have hrefuse : ∀ status : SharedStatus, status ≠ .success →
      ¬ Writable intended expectedControl expectedLatch (s.devices index) →
      Triple (Does K) (· = s) (pure status)
        (FenceWritten index intended expectedControl expectedLatch s) := fun status hstat hnot =>
    .pure fun _ h => .inr ⟨hstat, hnot, h⟩
  refine .get_at (.ite (fun hargs => hrefuse _ nofun fun h => ?_) fun hargs =>
    .ite (fun hodd => hrefuse _ nofun fun h => h.usable (.inl hodd)) fun hodd =>
    .ite (fun hhigh => hrefuse _ nofun fun h => h.usable (.inr hhigh)) fun hhigh =>
    .ite (fun hword => hrefuse _ nofun fun h => hword h.admission) fun hword =>
    .ite (fun hold => hrefuse _ nofun fun h => hold h.latch) fun hold => ?_)
  · exact hargs.elim (fun hne => hne h.identity) h.sequence
  obtain ⟨hident, hseq⟩ := not_or.1 hargs
  have hwrite : Writable intended expectedControl expectedLatch (s.devices index) :=
    ⟨not_not.1 hident, hseq, not_or.2 ⟨hodd, hhigh⟩, not_not.1 hword, not_not.1 hold⟩
  refine .bind (.modify_at (Q := fun _ s' => s' =
    onDevice index (·.setFenceLatch (expectedLatch + 1)) s) (.of_move (.fenceLatch hlatch) rfl) rfl)
    fun _ => ?_
  refine .bind (.modify_at (.of_move (.fence hlatch hfence ?_) rfl)
    ?_) fun _ => .pure fun _ h => .inl ⟨rfl, hwrite, h⟩
  · rw [onDevice_self]
    change (s.devices index).admission.state ≠ _
    rwa [hwrite.admission]
  · simp [onDevice, Device.setFenceLatch]

/-! ## 2. The way without update records -/

theorem markDeviceLost_does {lifecycleSequence epoch : Nat} (hadm : K (.admission index))
    (hlatch : K (.fenceLatch index))
    (hfence : ∀ identity, K (.fence index ⟨identity, lifecycleSequence, epoch, 0, 0, .lost⟩))
    (s : Mapping) :
    Triple (Does K) (· = s) (markDeviceLost index lifecycleSequence epoch) fun status s' =>
      status = .success → index < s.deviceCount ∧ (s'.devices index).admission.state = .closed ∧
        (s'.devices index).fence =
          ⟨(s.devices index).identityRecordId, lifecycleSequence, epoch, 0, 0, .lost⟩ := by
  refine .get_at (.ite (fun _ => .pure nofun) fun hargs => ?_)
  have hstate : (if (s.devices index).admission.state = .closed then (s.devices index).admission
      else if deviceGenerationMaxNormal ≤ (s.devices index).admission.generation then .closed
      else .pack ((s.devices index).admission.generation + 1) .closed 0).state = .closed := by
    split_ifs with h
    · exact h
    · rfl
    · rfl
  refine .bind (.modify_at (Q := fun _ s' => s' = onDevice index (·.setAdmission _) s)
    (.of_move (.admission hadm (.close hstate)) rfl) rfl) fun _ => ?_
  refine ((writeFence_does hlatch (hfence _) _ (by rw [hstate]; decide) _ _)).post ?_
  rintro _ _ (⟨rfl, _, rfl⟩ | ⟨hfailed, _⟩) hok
  · refine ⟨Nat.lt_of_not_le (not_or.1 hargs).1, ?_, ?_⟩
    · simpa [Device.setAdmission] using hstate
    · simp
  · exact absurd hok hfailed

section

variable {generation : Nat} (h : generation < deviceGenerationMaxNormal) (updateTag : Nat)

include h

theorem pack_generation (state : DeviceState) (updateTag : Nat) :
    (DeviceWord.pack (generation + 1) state updateTag).generation = generation + 1 := by
  have hmax : deviceGenerationMaxNormal < 2 ^ 24 := by decide
  exact Nat.mod_eq_of_lt (by omega)

/-- The word is taken from open to updating at the next generation. -/
theorem wordStep_updating :
    WordStep (.pack generation .open 0) (.pack (generation + 1) .updating updateTag) := by
  refine .up nofun ?_
  have hnext := pack_generation h .updating updateTag
  change 2 * (generation % 2 ^ 24) < 2 *
    (DeviceWord.pack (generation + 1) .updating updateTag).generation - 1
  omega

/-- And from updating to open. -/
theorem wordStep_open :
    WordStep (.pack (generation + 1) .updating updateTag) (.pack (generation + 1) .open 0) := by
  refine .up nofun ?_
  have hupd := pack_generation h .updating updateTag
  have hopen := pack_generation h .open 0
  change 2 * (DeviceWord.pack (generation + 1) .updating updateTag).generation - 1 <
    2 * (DeviceWord.pack (generation + 1) .open 0).generation
  omega

end

/-- The fence is written, and the device, which was open at the expected generation, is open at the
next one. -/
structure Reopened (index : Nat) (intended : FenceSnapshot) (word : DeviceWord)
    (expectedGeneration : Nat) (s : Mapping) : Prop where
  fence : (s.devices index).fence = intended
  before : word = .pack expectedGeneration .open 0
  after : (s.devices index).admission = .pack (expectedGeneration + 1) .open 0

/-- The call gets past its checks, and takes the device from open to updating. -/
def Enters (index expectedGeneration : Nat) (intended : FenceSnapshot) (s : Mapping) : Prop :=
  index < s.deviceCount ∧ intended.deviceState = .online ∧ expectedGeneration ≠ 0 ∧
    expectedGeneration < deviceGenerationMaxNormal ∧
    (s.devices index).admission = .pack expectedGeneration .open 0

/-- How a fence is published without update records: a call that fails changes nothing, or closes
the device. -/
def LegacyEnds (index expectedGeneration : Nat) (intended : FenceSnapshot) (s : Mapping)
    (status : SharedStatus) (s' : Mapping) : Prop :=
  (status ≠ .success ∧ ¬ Enters index expectedGeneration intended s ∧ s' = s) ∨
  (Enters index expectedGeneration intended s ∧
    ((status ≠ .success ∧ (s'.devices index).admission.state = .closed) ∨
      (status = .success ∧
        Reopened index intended (s.devices index).admission expectedGeneration s')))

theorem publishFenceLegacy_does {expectedGeneration : Nat}
    (hadm : K (.admission index)) (hlatch : K (.fenceLatch index))
    (hfence : K (.fence index intended)) (s : Mapping) :
    Triple (Does K) (· = s) (publishFenceLegacy index expectedGeneration intended)
      (LegacyEnds index expectedGeneration intended s) := by
  refine .get_at
    (.ite (fun hargs => .pure fun _ h => .inl ⟨nofun, fun henters => ?_, h⟩) fun hargs => ?_)
  · obtain ⟨hindex, hstate, hzero, hlimit, -⟩ := henters
    rcases hargs with h | h | h | h
    · exact absurd hindex (Nat.not_lt.2 h)
    · exact h hstate
    · exact hzero h
    · exact absurd hlimit (Nat.not_lt.2 h)
  simp only [not_or, not_not] at hargs
  obtain ⟨hindex, hstate, hzero, hlimit⟩ := hargs
  have hgen : expectedGeneration < deviceGenerationMaxNormal := Nat.lt_of_not_le hlimit
  refine .bind (exchangeAdmission_does hadm (wordStep_updating hgen _)
    (Q := fun found s' =>
      (found = none ∧ (s.devices index).admission = .pack expectedGeneration .open 0 ∧
        (s'.devices index).admission = .pack (expectedGeneration + 1) .updating
          (sequenceTag intended.lifecycleSequence)) ∨
      (found ≠ none ∧ (s.devices index).admission ≠ .pack expectedGeneration .open 0 ∧ s' = s))
        ?_ ?_) fun found => ?_
  · rintro _ rfl hopen
    exact .inl ⟨rfl, hopen, by rw [onDevice_self]; rfl⟩
  · rintro _ rfl hother
    exact .inr ⟨nofun, hother, rfl⟩
  cases found with
  | some =>
    refine .pure ?_
    rintro _ (⟨hnone, -⟩ | ⟨-, hother, hsame⟩)
    · cases hnone
    · exact .inl ⟨by split_ifs <;> decide, fun henters => hother henters.2.2.2.2, hsame⟩
  | none =>
    refine .get_bind fun s₁ hs₁ => ?_
    obtain ⟨-, hopen, hupd⟩ | ⟨hnone, -⟩ := hs₁
    swap
    · exact absurd rfl hnone
    have henters : Enters index expectedGeneration intended s :=
      ⟨Nat.lt_of_not_le hindex, hstate, hzero, hgen, hopen⟩
    refine .bind (writeFence_does hlatch hfence (.pack (expectedGeneration + 1) .updating
      (sequenceTag intended.lifecycleSequence)) nofun _ s₁) fun status =>
      .ite (fun hfailed => ?_) fun hwritten => ?_
    · -- the word is still the one that was written, and the device is closed
      refine .bind (exchangeAdmission_does hadm (.close rfl) ?_ ?_)
        fun _ => .pure fun _ h => .inr ⟨henters, .inl ⟨hfailed, h⟩⟩
      · exact fun _ _ _ => by rw [onDevice_self]; rfl
      · rintro _ (⟨hok, -⟩ | ⟨-, -, rfl⟩) hother
        · exact absurd hok hfailed
        · exact absurd hupd hother
    · refine .bind (exchangeAdmission_does hadm (wordStep_open hgen _)
        (Q := fun found s' => found = none ∧
          Reopened index intended (s.devices index).admission expectedGeneration s') ?_ ?_)
        fun found => .extract (fun _ h => h.1) ?_
      · rintro _ (⟨-, -, rfl⟩ | ⟨hfailed, -⟩) -
        · exact ⟨rfl, by simp [Device.setAdmission], hopen, by rw [onDevice_self]; rfl⟩
        · exact absurd hfailed hwritten
      · rintro _ (⟨-, hwrite, rfl⟩ | ⟨hfailed, -⟩) hother
        · rw [onDevice_self] at hother
          exact absurd hwrite.admission hother
        · exact absurd hfailed hwritten
      · rintro rfl
        exact .pure fun _ h => .inr ⟨henters, .inr ⟨rfl, h.2⟩⟩

/-! ## 3. Update records -/

/-- The tables and the control block, where an update gives back what it took. -/
def givingBack : Part → Prop
  | .updates | .publications | .ranges | .control => True
  | _ => False

/-- What publishing a fence writes. -/
def fencing (index : Nat) (intended : FenceSnapshot) : Part → Prop
  | .updates | .pendingUpdate | .publications | .ranges | .control => True
  | .admission i => i = index
  | .fenceLatch i => i = index
  | .fence i fence => i = index ∧ fence = intended
  | _ => False

theorem fencing_admission (index : Nat) (intended : FenceSnapshot) :
    fencing index intended (.admission index) := rfl

theorem fencing_fenceLatch (index : Nat) (intended : FenceSnapshot) :
    fencing index intended (.fenceLatch index) := rfl

theorem fencing_fence (index : Nat) (intended : FenceSnapshot) :
    fencing index intended (.fence index intended) := ⟨rfl, rfl⟩

/-- The record of an update is in a state, under its tag, and no other update is under way. -/
structure Lone (slot tag publishSlot : Nat) (state : UpdateState) (s : Mapping) : Prop where
  word : (s.updates slot).word = packRecord tag state publishSlot
  others : ∀ other, other ≠ slot → updatePending (s.updates other).word.state = false

variable {publishSlot slot tag : Nat} {s : Mapping} {A : (Nat → Device) → Prop}
    {state : UpdateState}

theorem Lone.noUpdate
    (h : Lone slot tag publishSlot state s) (hstate : updatePending state = false) :
    NoUpdate s := by
  intro other
  by_cases hother : other = slot
  · subst hother
    rw [h.word]
    exact hstate
  · exact h.others other hother

theorem lone_restate
    (hothers : ∀ other, other ≠ slot → updatePending (s.updates other).word.state = false)
    (state : UpdateState) : Lone slot tag publishSlot state
      (updateTable.restate slot (packRecord tag state publishSlot) s) where
  word := updateTable.restate_word ..
  others other hother := by
    change updatePending (updateTable.read (updateTable.put slot _ s) other).word.state = false
    rw [Slots.read_put_of_ne _ hother]
    exact hothers other hother

theorem Lone.amend (h : Lone slot tag publishSlot state s) (f : DeviceUpdate → DeviceUpdate) :
    Lone slot tag publishSlot state (updateTable.amend slot f s) where
  word := (updateTable.amend_word ..).trans h.word
  others other hother := by
    change updatePending (updateTable.read (updateTable.put slot _ s) other).word.state = false
    rw [Slots.read_put_of_ne _ hother]
    exact h.others other hother

/-- The record of the update, and a fact about the devices beside it. -/
structure Beside (slot tag publishSlot : Nat) (state : UpdateState) (A : (Nat → Device) → Prop)
    (s : Mapping) : Prop where
  lone : Lone slot tag publishSlot state s
  devices : A s.devices

section Records

/-- A program that writes publications and nothing else. -/
theorem Beside.publishing {α : Type} {x : Program α}
    (hx : Respects (Does (Eq Part.publications)) x) (hk : K .publications) :
    Triple (Does K) (Beside slot tag publishSlot state A) x fun _ =>
      Beside slot tag publishSlot state A := by
  refine unaffected hx (fun _ h => h ▸ hk) fun s s' hkept h => ⟨⟨?_, ?_⟩, ?_⟩
  · rw [hkept.updates (by simp)]
    exact h.lone.word
  · rw [hkept.updates (by simp)]
    exact h.lone.others
  · rw [hkept.devices (by simp) (by simp) (by simp)]
    exact h.devices

section

variable {target : UpdateState} (hk : K .updates)
  (hpend : updatePending target = true → K .pendingUpdate)

include hk hpend

/-- The exchange of the record's word goes through. -/
theorem updateExchange_does :
    Triple (Does K) (Beside slot tag publishSlot state A)
      (updateTable.exchange slot (packRecord tag state publishSlot)
        (packRecord tag target publishSlot))
      fun found s => found = none ∧ Beside slot tag publishSlot target A s := by
  refine .exchange (fun s hs _ => ⟨?_, rfl, lone_restate hs.lone.others target, hs.devices⟩)
    fun s hs hother => absurd hs.lone.word hother
  exact does_update hk (fun h => .inr (hpend h)) rfl

theorem updateStore_does :
    Triple (Does K) (Beside slot tag publishSlot state A)
      (updateTable.store slot (packRecord tag target publishSlot))
      fun _ => Beside slot tag publishSlot target A := by
  refine .modify fun s hs => ⟨?_, lone_restate hs.lone.others target, hs.devices⟩
  exact does_update hk (fun h => .inr (hpend h)) rfl

end

end Records

/-- After an update has left the states that recovery takes up, it only gives back. -/
theorem noUpdate_after {α : Type} {x : Program α} (hx : Respects (Does givingBack) x) :
    Triple (Does (fencing index intended)) (fun s => NoUpdate s ∧ A s.devices) x fun _ s =>
      NoUpdate s ∧ A s.devices := by
  intro s hs
  have hdoes := hx s
  refine ⟨⟨Relation.ReflTransGen.mono (fun _ _ => Move.mono (by rintro (_ | _) h <;> trivial)) _ _
    hdoes.moves, hdoes.held⟩, hdoes.noUpdate id hs.1, ?_⟩
  rw [hdoes.kept.devices (fun _ => id) (fun _ => id) fun _ _ => id]
  exact hs.2

theorem retire_givingBack (token : LifecycleRangeToken) (usedThrough : Nat) :
    Respects (Does givingBack) (retireLifecycleRange token usedThrough) :=
  retireLifecycleRange_does trivial trivial trivial token usedThrough

/-- A range is reserved beside whatever is known about updates and devices. -/
theorem reserve_beside (owner : Option Owner) (length deadlineNs : Nat) :
    Triple (Does (fencing index intended)) (fun s => NoUpdate s ∧ A s.devices)
      (reserveLifecycleRange owner length deadlineNs)
      fun answer s => (NoUpdate s ∧ A s.devices) ∧ Reserves answer s := by
  have hreserve : ∀ {K : Part → Prop}, K .ranges → K .publications → K .control →
      Triple (Does K) (fun _ => True) (reserveLifecycleRange owner length deadlineNs) Reserves :=
    fun hr hp hc => reserveLifecycleRange_does hr hp hc owner length deadlineNs
  refine .and (noUpdate_after (hreserve trivial trivial trivial).respects) ?_
  exact (hreserve trivial trivial trivial).pre fun _ _ => trivial

theorem publishes_givingBack : Publishes givingBack viewPublicationTable .view :=
  viewPublishes trivial

/-! ## 4. The way with update records -/

section Recovery

variable {token : LifecycleRangeToken}
  {publishSlot publishTag updateSlot updateTag expectedGeneration : Nat} {word : DeviceWord}
  {expected : UpdateState}

theorem cleanupAbortedUpdate_does :
    Triple (Does (fencing index intended)) (Lone updateSlot updateTag publishSlot expected)
      (cleanupAbortedUpdate token publishSlot publishTag updateSlot updateTag expected)
      fun _ => NoUpdate := by
  refine .pre (P := Beside updateSlot updateTag publishSlot expected fun _ => True) ?_
    (fun _ h => ⟨h, trivial⟩)
  refine .bind_known (updateExchange_does trivial fun _ => trivial) ?_
  refine (noUpdate_after (A := fun _ => True) ?_).conseq
    (fun _ h => ⟨h.lone.noUpdate rfl, trivial⟩) fun _ _ h => h.1
  refine .bind (publishes_givingBack.settle _ _ _ _) fun _ => .either (.pure _) ?_
  refine .bind (retire_givingBack _ _) fun _ => .either (.pure _) ?_
  refine .bind (.exchange fun _ _ => does_update trivial nofun rfl) fun found => ?_
  cases found with
  | none => exact publishes_givingBack.terminalize _ _ _ _
  | some _ => exact .either (.pure _) <| publishes_givingBack.terminalize _ _ _ _

/-- From the device that was taken from the open state: the fence is written and the device opened.
-/
theorem carryOutUpdate_does {nextGeneration fenceLatch : Nat} {target : DeviceWord}
    (hstate : target.state ≠ .open) (hopen : WordStep target (.pack nextGeneration .open 0)) :
    Triple (Does (fencing index intended))
      (Beside updateSlot updateTag publishSlot .linking fun devices =>
        Writable intended target fenceLatch (devices index))
      (carryOutUpdate index nextGeneration intended token publishSlot publishTag updateSlot
        updateTag target fenceLatch)
      fun _ s => NoUpdate s ∧ (s.devices index).fence = intended ∧
        (s.devices index).admission = .pack nextGeneration .open 0 := by
  refine .bind (Beside.publishing ((viewPublishes rfl).store _ _) trivial) fun _ => ?_
  refine .bind (updateStore_does trivial fun _ => trivial) fun _ => ?_
  refine .bind_known (a := .success)
    (A := Beside updateSlot updateTag publishSlot .active fun devices =>
    (devices index).fence = intended ∧ (devices index).admission = target) ?_ ?_
  · intro s hs
    obtain ⟨hdoes, ⟨hok, hwrite, hwritten⟩ | ⟨_, hnot, _⟩⟩ :=
      writeFence_does (fencing_fenceLatch index intended)
        (fencing_fence index intended) target hstate fenceLatch s s rfl
    · refine ⟨hdoes, hok, ?_⟩
      rw [hwritten]
      exact ⟨⟨hs.lone.word, hs.lone.others⟩, by simp [hwrite.admission]⟩
    · exact absurd hs.devices hnot
  refine .bind (updateStore_does trivial fun _ => trivial) fun _ => ?_
  refine .bind_known (a := none)
    (A := Beside updateSlot updateTag publishSlot .fencePublished fun devices =>
      (devices index).fence = intended ∧ (devices index).admission = .pack nextGeneration .open 0)
    (exchangeAdmission_does (fencing_admission index intended) hopen ?_ ?_) ?_
  · intro s hs _
    refine ⟨rfl, ⟨hs.lone.word, hs.lone.others⟩, ?_⟩
    rw [onDevice_self]
    exact ⟨hs.devices.1, rfl⟩
  · exact fun s hs hother => absurd hs.devices.2 hother
  refine .bind_known (updateExchange_does trivial fun _ => trivial) ?_
  refine (noUpdate_after (A := fun devices => (devices index).fence = intended ∧
    (devices index).admission = .pack nextGeneration .open 0) ?_).pre
    fun _ h => ⟨h.lone.noUpdate rfl, h.devices⟩
  refine .bind (publishes_givingBack.exchange _ _ _) fun found => ?_
  cases found with
  | some _ => exact .pure _
  | none =>
    refine .bind (publishes_givingBack.release _ _) fun _ => ?_
    refine .bind (retire_givingBack _ _) fun _ => ?_
    refine .either (.pure _) <| ?_
    refine .bind (.exchange fun _ _ => does_update trivial nofun rfl) fun found => ?_
    cases found with
    | some _ => exact .pure _
    | none => exact publishes_givingBack.terminalize _ _ _ _

/-- How a call that publishes a fence ends. -/
def Published (index : Nat) (intended : FenceSnapshot) (word : DeviceWord)
    (expectedGeneration : Nat)
    (status : SharedStatus) (s : Mapping) : Prop :=
  NoUpdate s ∧ (status = .success → Reopened index intended word expectedGeneration s)

/-- The device the fence is for, and its admission word. -/
def Addressed (index : Nat) (intended : FenceSnapshot) (word : DeviceWord)
    (devices : Nat → Device) :
    Prop :=
  intended.identityRecordId = (devices index).identityRecordId ∧ (devices index).admission = word

/-- An answer after the record has been cleaned up. -/
theorem cleanup_answer {status : SharedStatus} (hstat : status ≠ .success)
    (hpre : ∀ s, P s → Lone updateSlot updateTag publishSlot expected s) :
    Triple (Does (fencing index intended)) P (do
      let _ ← cleanupAbortedUpdate token publishSlot publishTag updateSlot updateTag expected
      return status) (Published index intended word expectedGeneration) :=
  .bind (cleanupAbortedUpdate_does.pre hpre) fun _ =>
    .pure fun _ h => ⟨h, fun hok => absurd hok hstat⟩

section

variable (hgen : expectedGeneration < deviceGenerationMaxNormal)
  (hseq : intended.lifecycleSequence ≠ 0)

include hgen hseq

theorem linkUpdate_does {owner : Owner} :
    Triple (Does (fencing index intended))
      (Beside updateSlot updateTag publishSlot .initializing (Addressed index intended word))
      (linkUpdate owner index expectedGeneration intended token publishSlot publishTag updateSlot
        updateTag)
      (Published index intended word expectedGeneration) := by
  have hfill : ∀ {A : (Nat → Device) → Prop} f,
      Triple (Does (fencing index intended))
      (Beside updateSlot updateTag publishSlot .initializing A)
        (updateTable.fill updateSlot f)
        fun _ => Beside updateSlot updateTag publishSlot .initializing A := fun f =>
    .modify fun s hs =>
      ⟨does_update trivial (fun _ => .inr trivial) rfl, hs.lone.amend f, hs.devices⟩
  refine .get_bind fun s hs => ?_
  -- from here on the devices are the ones that were read
  refine .start (P := Beside updateSlot updateTag publishSlot .initializing (· = s.devices)) ?_
    ⟨hs.lone, rfl⟩
  refine .bind (hfill _) fun _ => .ite (fun _ => ?_) fun husable => ?_
  · exact cleanup_answer (by split_ifs <;> decide) fun _ h => h.lone
  refine .bind (hfill _) fun _ => ?_
  refine .bind_known (updateExchange_does trivial fun _ => trivial) ?_
  refine .bind (Beside.publishing ((viewPublishes rfl).acquire _ _) trivial) fun status =>
    .ite (fun hfailed => ?_) fun _ => ?_
  · exact cleanup_answer hfailed fun _ h => h.lone
  refine .bind_known (updateExchange_does trivial fun _ => trivial) ?_
  refine .bind (exchangeAdmission_does (fencing_admission index intended)
    (wordStep_updating hgen updateTag) (Q := fun found s' =>
      Lone updateSlot updateTag publishSlot .linking s' ∧
        (found = none → word = .pack expectedGeneration .open 0 ∧
          Writable intended (.pack (expectedGeneration + 1) .updating updateTag)
            (s.devices index).fenceLatch (s'.devices index))) ?_ ?_) fun found => ?_
  · rintro s' ⟨hlone, hdevices⟩ hopen
    rw [hdevices] at hopen
    refine ⟨⟨hlone.word, hlone.others⟩, fun _ => ⟨hs.devices.2.symm.trans hopen, ?_⟩⟩
    rw [onDevice_self, hdevices]
    exact ⟨hs.devices.1, hseq, husable, rfl, rfl⟩
  · exact fun s' h _ => ⟨h.lone, nofun⟩
  cases found with
  | some => exact cleanup_answer (by split_ifs <;> decide) fun _ h => h.1
  | none =>
    refine .extract (fun _ h => (h.2 rfl).1) fun hbefore => ?_
    refine (carryOutUpdate_does ?_ (wordStep_open hgen updateTag)).conseq
      (fun _ h => ⟨h.1, (h.2 rfl).2⟩) fun _ _ h => ⟨h.1, fun _ => ⟨h.2.1, hbefore, h.2.2⟩⟩
    nofun

theorem prepareUpdate_does {again : Option Owner} :
    Triple (Does (fencing index intended))
      (fun s => NoUpdate s ∧ Addressed index intended word s.devices)
      (prepareUpdate again index expectedGeneration intended token)
      (Published index intended word expectedGeneration) := by
  have hafter : ∀ {x : Program SharedStatus} {status : SharedStatus} {P : Mapping → Prop},
      Respects (Does givingBack) x → status ≠ .success → (∀ s, (x.run s).1 = status) →
      (∀ s, P s → NoUpdate s) → Triple (Does (fencing index intended)) P x
        (Published index intended word expectedGeneration) := by
    intro x status P hx hstat hanswer hpre s hs
    obtain ⟨hdoes, hcalm, -⟩ := noUpdate_after (A := fun _ => True) hx s ⟨hpre s hs, trivial⟩
    exact ⟨hdoes, hcalm, fun h => absurd ((hanswer s).symm.trans h) hstat⟩
  cases again with
  | none =>
    exact hafter (.bind (retire_givingBack _ _) fun _ => .pure _) (by decide) (fun _ => rfl)
      fun _ h => h.1
  | some =>
    refine claimPublication_bind trivial (fun _ _ _ h => h) (fun status hstat => ?_)
      fun ⟨publishSlot, publishTag⟩ => ?_
    · exact hafter (.bind (retire_givingBack _ _) fun _ => .pure _) hstat (fun _ => rfl)
        fun _ h => h.1
    refine .look_bind fun s _ => ?_
    refine .bind (.modify (Q := fun _ s => NoUpdate s ∧
      Addressed index intended word s.devices) fun s hs =>
      ⟨(viewPublishes trivial).put _ _ _ rfl, hs⟩) fun _ => ?_
    refine .bind (.exchange (Q := fun _ s => NoUpdate s ∧
      Addressed index intended word s.devices)
      (fun s hs _ => ⟨(viewPublishes trivial).put _ _ _ rfl, hs⟩) fun _ hs _ => hs) fun found => ?_
    cases found with
    | some _ =>
      exact hafter (.bind (retire_givingBack _ _) fun _ =>
        .bind (publishes_givingBack.finish _ _ _ _) fun _ => .pure _) (by decide) (fun _ => rfl)
        fun _ h => h.1
    | none =>
      refine .bind (Q := fun answer s => NoUpdate s ∧
        (∀ status, answer = .error status → status ≠ .success) ∧
        ∀ slot tag, answer = .ok (slot, tag) → Beside slot tag publishSlot .initializing
          (Addressed index intended word) s) ?_
        fun claimed => ?_
      · refine claimRecord_rule (fun s status hs hstat => ⟨hs.1, ?_, nofun⟩)
          fun s slot tag hs _ _ _ _ => ?_
        · rintro _ ⟨⟩
          exact hstat
        have hlone : Lone slot tag publishSlot .initializing
            (updateTable.restate slot (packRecord tag .initializing publishSlot) s) :=
          lone_restate (fun other _ => hs.1 other) _
        refine ⟨does_update trivial (nofun) rfl, hlone.noUpdate rfl, ?_, ?_⟩
        · exact nofun
        · rintro _ _ ⟨⟩
          exact ⟨hlone, hs.2⟩
      cases claimed with
      | error =>
        refine .extract (fun _ h => h.2.1 _ rfl) fun hstat => ?_
        exact hafter (.bind (publishes_givingBack.exchange _ _ _) fun _ =>
          .bind (retire_givingBack _ _) fun _ =>
          .bind (publishes_givingBack.finish _ _ _ _) fun _ => .pure _) hstat (fun _ => rfl)
          fun _ h => h.1
      | ok claim =>
        exact (linkUpdate_does hgen hseq).pre fun _ h => h.2.2 _ _ rfl

end

theorem publishFenceRecovery_does {caller : Caller} :
    Triple (Does (fencing index intended))
      (fun s => NoUpdate s ∧ (s.devices index).admission = word)
      (publishFenceRecovery caller index expectedGeneration intended)
      (Published index intended word expectedGeneration) := by
  have hrefuse : ∀ {P : Mapping → Prop} {status : SharedStatus}, status ≠ .success →
      (∀ s, P s → NoUpdate s) → Triple (Does (fencing index intended)) P (pure status)
        (Published index intended word expectedGeneration) := fun hstat hpre =>
    .pure fun s h => ⟨hpre s h, fun hok => absurd hok hstat⟩
  refine .get_bind fun s hs => .ite (fun _ => hrefuse (by decide) (by rintro _ rfl; exact hs.1))
    fun hargs => ?_
  simp only [not_or, not_not] at hargs
  obtain ⟨-, -, hident, -, hgen⟩ := hargs
  refine .start (P := fun s => NoUpdate s ∧ Addressed index intended word s.devices) ?_
    ⟨hs.1, hident, hs.2⟩
  refine .bind (Q := fun answer s => (NoUpdate s ∧
    Addressed index intended word s.devices) ∧
    ∀ status, answer = .error status → status ≠ .success) ?_ fun answer => ?_
  · refine .look_bind fun s _ => .either (.pure fun s h => ⟨h, ?_⟩) <|
      .pure fun s h => ⟨h, nofun⟩
    rintro _ ⟨⟩
    decide
  cases answer with
  | error =>
    exact .extract (fun _ h => h.2 _ rfl) fun hstat => hrefuse hstat fun _ h => h.1.1
  | ok =>
    refine .ite (fun _ => hrefuse (by decide) fun _ h => h.1.1) fun habove => ?_
    have hseq : intended.lifecycleSequence ≠ 0 := by omega
    refine .bind ((reserve_beside _ _ _).pre fun _ h => h.1) fun answer => ?_
    cases answer with
    | error =>
      exact .extract (fun _ h => h.2) fun hstat => hrefuse hstat fun _ h => h.1.1
    | ok =>
      refine .either ?_ <| (prepareUpdate_does (Nat.lt_of_not_le hgen)
        hseq).pre fun _ h => h.1
      refine .bind ((noUpdate_after (A := fun _ => True) (retire_givingBack _ _)).conseq
        (fun _ h => ⟨h.1.1, trivial⟩) fun _ _ h => h.1) fun _ => hrefuse (by decide) fun _ h => h

theorem publishFenceLegacy_published :
    Triple (Does (fencing index intended))
      (fun s => NoUpdate s ∧ (s.devices index).admission = word)
      (publishFenceLegacy index expectedGeneration intended)
      (Published index intended word expectedGeneration) := by
  rintro s ⟨hcalm, rfl⟩
  have hlegacy : Respects (Does fun p => fencing index intended p ∧ p ≠ .updates)
      (publishFenceLegacy index expectedGeneration intended) := by
    intro s
    refine (publishFenceLegacy_does ?_ ?_ ?_ s s rfl).1 <;> exact ⟨by simp [fencing], nofun⟩
  obtain ⟨hdoes, hends⟩ := publishFenceLegacy_does (fencing_admission index intended)
    (fencing_fenceLatch index intended) (fencing_fence index intended) s s rfl
  refine ⟨hdoes, fun slot => ?_, fun hok => ?_⟩
  · rw [(hlegacy s).kept.updates (by simp)]
    exact hcalm slot
  · rcases hends with ⟨hfailed, -⟩ | ⟨-, ⟨hfailed, -⟩ | ⟨-, hreopened⟩⟩
    · exact absurd hok hfailed
    · exact absurd hok hfailed
    · exact hreopened

/-- **Publishing a fence** writes the one fence it was asked for if it succeeds, writes no other,
and leaves no update under way, whatever it answers. -/
theorem publishFence_does (caller : Caller) (expectedGeneration : Nat) :
    Triple (Does (fencing index intended))
      (fun s => NoUpdate s ∧ (s.devices index).admission = word)
      (publishFence caller index expectedGeneration intended)
      (Published index intended word expectedGeneration) :=
  .look_bind fun _ _ => .either publishFenceRecovery_does
    publishFenceLegacy_published

/-- Where there is no such device, or the view is not open and has none open, no fence is
published. -/
def Unpublishable (index : Nat) (s : Mapping) : Prop :=
  s.deviceCount ≤ index ∨ s.viewAdmission.state ≠ .open ∧ AllClosed s

/-- A call that succeeds has found its device open. -/
theorem publishFence_refused (hcalm : NoUpdate s) (h : Unpublishable index s)
    (caller : Caller) (expectedGeneration : Nat) :
    ((publishFence caller index expectedGeneration intended).run s).1 ≠ .success := by
  intro hok
  have hindex : index < s.deviceCount := by
    by_contra hbeyond
    revert hok
    by_cases hext : s.extended = true <;>
      simp [publishFence, publishFenceRecovery, publishFenceLegacy, hext,
      Nat.le_of_not_lt hbeyond]
  obtain ⟨-, hbefore, -⟩ :=
    (publishFence_does caller expectedGeneration s ⟨hcalm, rfl⟩).2.2 hok
  rcases h with hbeyond | ⟨-, hclosed⟩
  · omega
  · cases (congrArg DeviceWord.state hbefore).symm.trans (hclosed index hindex)

end Recovery

end MetaFlux.Registry
