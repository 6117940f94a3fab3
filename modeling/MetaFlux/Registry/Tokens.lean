/-
# Tokens

A token names its attempt and its lease by slot and tag, its view and its device by the generations
their words had when it was issued.  Tags and words only go forward, so what a commit finds
unchanged has been unchanged ever since, if the device it looks at is the one that the token was
issued for (`commit_undisturbed`).  The commit looks for the identity, though, and takes the first
device that carries it.

A view that has ended admits nothing any more (`ended_refuses`), and a slot that has been taken over
is under another tag for good (`reused_refused`).
-/
import MetaFlux.Registry.Steps

namespace MetaFlux.Registry

open Base LeaseState

variable {K : Part → Prop} {s s' : Mapping} {c : Call} {state : LeaseState} {word : DeviceWord}
  {owner : Owner}

/-! ## 1. Slots go forward -/

section Slots

variable {α ρ : Type} {rank : α → Nat} {initial : α} {old new : Cell α ρ} {tag r : Nat}
    {payload : ρ}

/-- The slot is under a later tag, or under this one above the rank. -/
def Past (rank : α → Nat) (tag r : Nat) (c : Cell α ρ) : Prop :=
  tag < c.word.tag ∨ c.word.tag = tag ∧ r < rank c.word.state

/-- The slot is under a later tag, or holds what it held, at the rank or above. -/
def Continues (rank : α → Nat) (tag r : Nat) (payload : ρ) (c : Cell α ρ) : Prop :=
  tag < c.word.tag ∨ c.word.tag = tag ∧ c.payload = payload ∧ r ≤ rank c.word.state

section

variable (h : SlotStep rank initial old new) (hold : old.word.tag < 2 ^ 24)

include h hold

theorem SlotStep.tag_le : old.word.tag ≤ new.word.tag := by
  have hterminal : recordTagTerminal + 1 = 2 ^ 24 := by decide
  cases h with
  | refer hword | fill hword => rw [hword]
  | advance htag => rw [htag, Nat.mod_eq_of_lt hold]
  | claim | terminal => omega

theorem SlotStep.past
    (htag : tag ≤ recordTagMaxNormal) (hpast : Past rank tag r old) : Past rank tag r new := by
  have hmax : recordTagMaxNormal < recordTagTerminal := by decide
  cases h with
  | refer hword =>
    unfold Past
    rwa [hword]
  | fill hword =>
    unfold Past
    rwa [hword]
  | advance hnew hrank =>
    rw [Nat.mod_eq_of_lt hold] at hnew
    rcases hpast with hlater | ⟨hsame, hle⟩
    · exact .inl (hnew ▸ hlater)
    · exact .inr ⟨hnew.trans hsame, hle.trans hrank⟩
  | claim =>
    rcases hpast with hlater | ⟨hsame, -⟩ <;> exact .inl (by omega)
  | terminal => exact .inl (by omega)

/-- The payload is only written in the state in which a slot is taken over. -/
theorem SlotStep.continues (htag : tag ≤ recordTagMaxNormal) (hinitial : rank initial < r)
    (hcontinues : Continues rank tag r payload old) : Continues rank tag r payload new := by
  have hmax : recordTagMaxNormal < recordTagTerminal := by decide
  cases h with
  | refer hword hpay =>
    unfold Continues
    rwa [hword, hpay]
  | fill hword hstate =>
    rcases hcontinues with hlater | ⟨-, -, hle⟩
    · exact .inl (hword ▸ hlater)
    · rw [hstate] at hle
      omega
  | advance hnew _ hpay =>
    rw [Nat.mod_eq_of_lt hold] at hnew
    rcases hcontinues with hlater | ⟨hsame, hkept, hle⟩
    · exact .inl (hnew ▸ hlater)
    · exact .inr ⟨hnew.trans hsame, hpay.trans hkept, by omega⟩
  | claim =>
    rcases hcontinues with hlater | ⟨hsame, -⟩ <;> exact .inl (by omega)
  | terminal => exact .inl (by omega)

end

end Slots

section

variable {P : Cell LeaseState Lease → Prop}
  (hP : ∀ {old new}, LeaseStep old new → old.word.tag < 2 ^ 24 → P old → P new)

include hP

/-- A fact about a lease that every step of its slot keeps. -/
theorem Does.lease (d : Does K s s')
    (htags : ∀ slot, (s.leases slot).word.tag < 2 ^ 24) {slot : Nat} (h : P (s.leases slot)) :
    P (s'.leases slot) := by
  refine (Moves.keeps
    (A := fun s => (∀ slot, (s.leases slot).word.tag < 2 ^ 24) ∧ P (s.leases slot))
    (fun _ _ m h => ?_) d.moves ⟨htags, h⟩).2
  exact ⟨m.leaseTags h.1, hP (m.leaseStep slot) (h.1 slot) h.2⟩

theorem step_lease (h : Sound s)
    (c : Call) {slot : Nat} (hs : P (s.leases slot)) : P ((step s c).leases slot) := by
  rcases step_does h c with hord | ⟨_, _, _, _, -, hafter⟩
  · exact hord.does.lease hP h.leaseTags hs
  · rw [hafter]
    exact hs

end

theorem attemptTag_le_step (h : Sound s) (c : Call) (slot : Nat) :
    (s.attempts slot).word.tag ≤ ((step s c).attempts slot).word.tag := by
  rcases step_does h c with hord | ⟨_, _, _, _, -, hafter⟩
  · refine (Moves.keeps (A := fun s' => (∀ slot, (s'.attempts slot).word.tag < 2 ^ 24) ∧
      (s.attempts slot).word.tag ≤ (s'.attempts slot).word.tag) (fun _ _ m h => ?_)
      hord.does.moves ⟨h.attemptTags, .refl⟩).2
    exact ⟨m.attemptTags h.1, h.2.trans ((m.attemptStep slot).tag_le (h.1 slot))⟩
  · rw [hafter]
    exact .refl

/-! ## 2. Words go forward -/

/-- The device is closed, or its word has gone beyond this one. -/
def Beyond (word : DeviceWord) (device : Device) : Prop :=
  device.admission.state = .closed ∨ word.rank < device.admission.rank

/-- The device has the word and the fence, or has gone beyond the word. -/
def Stands (word : DeviceWord) (fence : FenceSnapshot) (device : Device) : Prop :=
  device.admission = word ∧ device.fence = fence ∨ Beyond word device

section Words

variable {fence : FenceSnapshot} {old new : Device}

theorem DeviceStep.beyond (h : DeviceStep old new) (hbeyond : Beyond word old) :
    Beyond word new := by
  cases h with
  | same hword =>
    unfold Beyond
    rwa [hword]
  | fence hword =>
    unfold Beyond
    rwa [hword]
  | word hstep =>
    cases hstep with
    | up hold hrank => exact .inr (Nat.lt_trans (hbeyond.resolve_left hold) hrank)
    | close hclosed => exact .inl hclosed

/-- No fence is written while the device is open. -/
theorem DeviceStep.stands (h : DeviceStep old new) (hopen : word.state = .open)
    (hstands : Stands word fence old) : Stands word fence new := by
  rcases hstands with ⟨hword, hfence⟩ | hbeyond
  · cases h with
    | same hword' hfence' => exact .inl ⟨hword'.trans hword, hfence'.trans hfence⟩
    | fence _ hstate => exact absurd (hword ▸ hopen) hstate
    | word hstep _ =>
      cases hstep with
      | up _ hrank => exact .inr (.inr (hword ▸ hrank))
      | close hclosed => exact .inr (.inl hclosed)
  · exact .inr (h.beyond hbeyond)

end Words

/-- A new identity takes the word of its device up. -/
theorem Renames.rank {index next nextGeneration : Nat} {intended : FenceSnapshot}
    (h : Renames index next nextGeneration intended s c) :
    (s.devices index).admission.state ≠ .closed ∧ (s.devices index).admission.rank <
      ((relabelled index next nextGeneration intended s).devices index).admission.rank := by
  obtain ⟨_, _, -, hrel⟩ := h
  obtain ⟨hopen, -, hlimit⟩ := hrel.admission
  have hnext := pack_generation hlimit .open 0
  rw [relabelled_self]
  refine ⟨by rw [hopen]; decide, ?_⟩
  have hrank : (s.devices index).admission.rank = 2 * (s.devices index).admission.generation := by
    simp only [DeviceWord.rank, hopen]
  change _ < 2 * (DeviceWord.pack ((s.devices index).admission.generation + 1) .open 0).generation
  omega

theorem step_beyond (h : Sound s) (c : Call) {i : Nat}
    (hs : Beyond word (s.devices i)) : Beyond word ((step s c).devices i) := by
  rcases step_does h c with hord | ⟨index, _, _, _, hrenames, hafter⟩
  · exact Moves.keeps (fun _ _ m => (m.deviceStep i).beyond) hord.does.moves hs
  rw [hafter]
  by_cases hi : i = index
  · subst hi
    obtain ⟨hnot, hrank⟩ := hrenames.rank
    exact .inr (Nat.lt_trans (hs.resolve_left hnot) hrank)
  · rwa [relabelled_other hi]

theorem step_stands (h : Sound s) (c : Call) {i : Nat} {fence : FenceSnapshot}
    (hopen : word.state = .open) (hs : Stands word fence (s.devices i)) :
    Stands word fence ((step s c).devices i) := by
  rcases step_does h c with hord | ⟨index, _, _, _, hrenames, hafter⟩
  · exact Moves.keeps (fun _ _ m => (m.deviceStep i).stands hopen) hord.does.moves hs
  by_cases hi : i = index
  · subst hi
    rcases hs with ⟨hword, -⟩ | hbeyond
    · rw [hafter]
      exact .inr (.inr (hword ▸ hrenames.rank.2))
    · exact .inr (step_beyond h c hbeyond)
  · rwa [hafter, relabelled_other hi]

/-- The view has the word it had, or is not open any more. -/
theorem step_view (h : Sound s) (c : Call) :
    (step s c).viewAdmission = s.viewAdmission ∨ (step s c).viewAdmission.state ≠ .open := by
  rcases step_does h c with hord | ⟨_, _, _, _, -, hafter⟩
  · refine Moves.keeps (A := fun s' => s'.viewAdmission = s.viewAdmission ∨
      s'.viewAdmission.state ≠ .open) (fun _ _ m h => ?_) hord.does.moves (.inl rfl)
    rcases m.viewStep with hsame | hnot
    · rwa [hsame]
    · exact .inr hnot
  · rw [hafter]
    exact .inl rfl

theorem step_view_stays (h : Sound s) (c : Call) (hs : s.viewAdmission.state ≠ .open) :
    (step s c).viewAdmission.state ≠ .open := by
  rcases step_view h c with hsame | hnot
  · rwa [hsame]
  · exact hnot

/-! ## 3. Recovery ends the leases of its owner -/

theorem quarantine_view {P : Mapping → Prop} :
    Triple (Does recovering) P quarantine fun _ s => s.viewAdmission.state ≠ .open := by
  intro s _
  refine ⟨quarantine_recovering s, ?_⟩
  -- the devices and the control block come after the view's word
  have hview : (quarantine s).2.viewAdmission.state = .quarantined := by
    change (if _ then _ else _ : Program _) _ |>.2.viewAdmission.state = _
    split <;> rfl
  exact fun hopen => nomatch hview.symm.trans hopen

/-- A lease that is there to be recovered, if it has not ended. -/
structure Recoverable (slot tag : Nat) (payload : Lease) (s : Mapping) : Prop where
  calm : Calm s
  tags : ∀ slot, (s.leases slot).word.tag < 2 ^ 24
  unheld : held s .lease slot = 0
  lease : Continues leaseRank tag (leaseRank .reserved) payload (s.leases slot)

section Leases

variable {slot tag : Nat} {payload : Lease}

theorem Recoverable.keep (htag : tag ≤ recordTagMaxNormal) (d : Does recovering s s')
    (h : Recoverable slot tag payload s) : Recoverable slot tag payload s' where
  calm := d.calm id id h.calm
  tags := Moves.keeps (fun _ _ m => m.leaseTags) d.moves h.tags
  unheld := by
    rw [d.held]
    exact h.unheld
  lease := d.lease (fun hstep hold => hstep.continues hold htag (by decide)) h.tags h.lease

/-- A lease that is ended under its tag. -/
theorem restate_past {auxiliary : Nat}
    (hstate : leaseRank .published < leaseRank state) (hold : (s.leases slot).word.tag < 2 ^ 24)
    (h : Continues leaseRank tag (leaseRank .reserved) payload (s.leases slot)) :
    Past leaseRank tag (leaseRank .published)
      ((leaseTable.restate slot (packRecord (s.leases slot).word.tag state auxiliary) s).leases
        slot) := by
  have hword : ((leaseTable.restate slot (packRecord (s.leases slot).word.tag state auxiliary)
      s).leases slot).word = packRecord (s.leases slot).word.tag state auxiliary :=
    leaseTable.restate_word ..
  unfold Past
  rw [hword]
  have hsame :
      (packRecord (s.leases slot).word.tag state auxiliary).tag = (s.leases slot).word.tag :=
    Nat.mod_eq_of_lt hold
  rw [hsame]
  rcases h with hlater | ⟨htag, -⟩
  · exact .inl hlater
  · exact .inr ⟨htag, hstate⟩

abbrev LeaseOver (slot tag : Nat) (s : Mapping) : Prop :=
  Past leaseRank tag (leaseRank .published) (s.leases slot)

/-- In the slot itself, the lease of the owner is ended. -/
theorem recoverLease_ends (howner : sameOwner payload.owner owner) :
    Triple (Does recovering) (Recoverable slot tag payload) (recoverLease owner slot) fun _ =>
      LeaseOver slot tag := by
  refine .guarded (does_bracket leaseTable_holds (lease_move trivial) _) ?_ ?_
    (H := fun s => (s.leases slot).word.tag < 2 ^ 24 ∧
      Continues leaseRank tag (leaseRank .reserved) payload (s.leases slot))
      (.get_bind fun s hs => ?_)
    (E := fun _ => LeaseOver slot tag) ?_
  · intro s hs hfull
    have hzero : (leaseTable.read s slot).hazards = 0 := hs.unheld
    rw [hzero] at hfull
    cases hfull
  · intro s hs
    change (leaseTable.read (leaseTable.put slot _ s) slot).word.tag < _ ∧
      Continues _ _ _ _ (leaseTable.read (leaseTable.put slot _ s) slot)
    rw [Slots.read_put_self]
    exact ⟨hs.tags slot, hs.lease⟩
  · obtain ⟨hold, hlease⟩ := hs
    refine .ite (fun _ => ?_) fun hother => .pure ?_
    · split
      -- the four states that are ended, and those that are over or not yet a lease
      case h_5 hreserved hcommitting hcomm hpublished =>
        refine .pure ?_
        rintro s rfl
        rcases hlease with hlater | ⟨htag, -, hrank⟩
        · exact .inl hlater
        · refine .inr ⟨htag, ?_⟩
          cases hstate : (s.leases slot).word.state <;> simp_all [leaseRank]
      all_goals
        rename_i hstate
        refine .modify_at (advance_lease trivial rfl (by rw [hstate]; decide)) ?_
        exact restate_past (by decide) hold hlease
    · rintro _ rfl
      rcases hlease with hlater | ⟨-, hpay, -⟩
      · exact .inl hlater
      · rw [hpay] at hother
        exact absurd howner hother
  · intro _ s hs
    change Past _ _ _ (leaseTable.read (leaseTable.put slot _ s) slot)
    rw [Slots.read_put_self]
    exact hs

/-- **Recovering an owner** ends its lease, or the whole view. -/
theorem recoverOwner_ends (hslot : slot < admissionLeaseCapacity) (htag : tag ≤ recordTagMaxNormal)
    (howner : sameOwner payload.owner owner) (hpid : owner.pid ≠ 0)
    (hticks : owner.startTimeTicks ≠ 0)
    (ownerMayStillRun : Bool) :
    Triple (Does recovering) (fun s => Recoverable slot tag payload s ∧ s.extended = true)
      (recoverOwner owner ownerMayStillRun) fun _ s => s.viewAdmission.state ≠ .open ∨
        LeaseOver slot tag s := by
  have hreserved := howner.2.2.2
  refine .get_bind fun s hs => .ite (fun hlegacy => ?_) fun _ => .ite (fun hinvalid => ?_) fun _ =>
    .either ?_ ?_
  · rw [hs.2] at hlegacy
    cases hlegacy
  · rcases hinvalid with h | h | h
    · exact absurd h hpid
    · exact absurd h hticks
    · exact absurd hreserved h
  · exact quarantine_view.post fun _ _ h => .inl h
  refine .conseq ?_ (by rintro _ rfl; exact hs.1) fun _ _ h => .inr h
  -- the loop comes to the slot, and what comes after leaves it ended
  have hkeep : ∀ other, Triple (Does recovering) (Recoverable slot tag payload)
      (recoverLease owner other) fun _ => Recoverable slot tag payload := fun other s hs =>
    ⟨recoverLease_does trivial owner other s,
      hs.keep htag (recoverLease_does trivial owner other s)⟩
  have hended : ∀ {x : Program SharedStatus}, Triple (Does recovering) Calm x (fun _ => Calm) →
      Triple (Does recovering) (fun s => Recoverable slot tag payload s ∧ LeaseOver slot tag s) x
        fun _ => LeaseOver slot tag := by
    intro x hx s hs
    have hdoes := (hx s hs.1.calm).1
    exact ⟨hdoes, hdoes.lease (fun hstep hold => hstep.past hold htag) hs.1.tags hs.2⟩
  refine .bind (Triple.forM_mem
    hkeep ((hkeep slot).and (recoverLease_ends howner)) (fun other s hs => ?_)
    (List.mem_range.2 hslot))
    fun _ => hended (recoverRecords_recovering owner)
  have hdoes := recoverLease_does (K := recovering) trivial owner other s
  exact ⟨hdoes, hs.1.keep htag hdoes,
    hdoes.lease (fun hstep hold => hstep.past hold htag) hs.1.tags hs.2⟩

end Leases

/-! ## 4. Nothing comes between -/

/-- The call issues the token, to the owner and for the device. -/
def Issues (token : AdmissionLeaseToken) (owner : Owner) (index : Nat) (s : Mapping) (c : Call) :
    Prop :=
  ∃ caller deadlineNs operationCookie targetCookie,
    c = .beginAdmission caller index deadlineNs operationCookie targetCookie ∧
      caller.owner = some owner ∧
      ((beginAdmission caller index deadlineNs operationCookie targetCookie).run s).1 = .ok token

theorem Issues.issued {token : AdmissionLeaseToken} {index : Nat}
    (h : Issues token owner index s c) :
    Issued token owner index (step s c) ∧ Above token s ∧ s.extended = true := by
  obtain ⟨caller, deadlineNs, operationCookie, targetCookie, rfl, howner, hanswer⟩ := h
  obtain ⟨⟨owner', howner', hissued⟩, habove⟩ :=
    (beginAdmission_does (K := recovering) trivial caller
    index deadlineNs operationCookie targetCookie s s rfl).2 token hanswer
  rw [howner] at howner'
  cases howner'
  refine ⟨hissued, habove, ?_⟩
  by_contra hlegacy
  rw [Bool.not_eq_true] at hlegacy
  simp [beginAdmission, hlegacy] at hanswer

/-- Nothing has come between a token and its admission: view and device have the words and the
device has the fence that they had when it was issued, and the lease is the token's and not over. -/
structure Undisturbed (token : AdmissionLeaseToken) (owner : Owner) (index : Nat) (s₁ s : Mapping) :
    Prop where
  view : s.viewAdmission = s₁.viewAdmission
  device : (s.devices index).admission = (s₁.devices index).admission
  fence : (s.devices index).fence = (s₁.devices index).fence
  tag : (s.leases token.leaseSlot).word.tag = token.leaseTag
  holder : (s.leases token.leaseSlot).payload.owner = owner
  live : ¬ LeaseState.over (s.leases token.leaseSlot).word.state

/-- The calls that are to keep a token from being committed.  Recovering its owner is one of them
whatever it answers. -/
def Disturbs (token : AdmissionLeaseToken) (owner : Owner) (index : Nat) (s : Mapping) (c : Call) :
    Prop :=
  match c with
  | .publishFence _ i _ _ => i = index ∧ Succeeds s c
  | .markDeviceLost i _ _ => i = index ∧ Succeeds s c
  | .close _ _ => Succeeds s c
  | .releaseAdmission t => t = token ∧ Succeeds s c
  | .recoverOwner o _ => sameOwner owner o ∧ o.pid ≠ 0 ∧ o.startTimeTicks ≠ 0
  | .helpAdmission t _ =>
    t = token ∧ sameOwner owner owner ∧ owner.pid ≠ 0 ∧ owner.startTimeTicks ≠ 0
  | _ => False

/-- What is true from the moment a token has been issued. -/
structure Follows (token : AdmissionLeaseToken) (index : Nat) (s₁ s : Mapping) : Prop where
  sound : Sound s
  extended : s.extended = true
  viewId : s.viewId = token.viewId
  view : s.viewAdmission = s₁.viewAdmission ∨ s.viewAdmission.state ≠ .open
  device : Stands (s₁.devices index).admission (s₁.devices index).fence (s.devices index)
  lease : Continues leaseRank token.leaseTag (leaseRank .reserved)
    (s₁.leases token.leaseSlot).payload (s.leases token.leaseSlot)

/-- View, device or lease have moved on, the lease above a rank. -/
def Overtaken (token : AdmissionLeaseToken) (index : Nat) (s₁ : Mapping) (r : Nat) (s : Mapping) :
    Prop :=
  s.viewAdmission.state ≠ .open ∨ Beyond (s₁.devices index).admission (s.devices index) ∨
    Past leaseRank token.leaseTag r (s.leases token.leaseSlot)

theorem step_extended (h : Sound s) (c : Call) :
    (step s c).extended = s.extended ∧ (step s c).viewId = s.viewId := by
  rcases step_does h c with hord | ⟨_, _, _, _, -, hafter⟩
  · exact ⟨hord.does.kept.extended, hord.does.kept.viewId⟩
  · rw [hafter]
    exact ⟨rfl, rfl⟩

section Token

variable {token : AdmissionLeaseToken} {index r : Nat} {s₁ : Mapping}

theorem Issued.follows (h : Issued token owner index s₁) (hsound : Sound s₁)
    (hext : s₁.extended = true) : Follows token index s₁ s₁ where
  sound := hsound
  extended := hext
  viewId := h.fits.1.symm
  view := .inl rfl
  device := .inl ⟨rfl, rfl⟩
  lease := by
    refine .inr ⟨?_, rfl, ?_⟩
    · rw [h.lease]
      exact packRecord_tag h.leaseTag _ _
    · rw [h.lease]
      exact .refl

theorem Follows.step (hissued : Issued token owner index s₁) (h : Follows token index s₁ s)
    (c : Call) :
    Follows token index s₁ (step s c) where
  sound := step_sound s c h.sound
  extended := (step_extended h.sound c).1.trans h.extended
  viewId := (step_extended h.sound c).2.trans h.viewId
  view := by
    rcases step_view h.sound c with hsame | hnot
    · rw [hsame]
      exact h.view
    · exact .inr hnot
  device := step_stands h.sound c hissued.device.1 h.device
  lease :=
    step_lease (fun hstep hold => hstep.continues hold hissued.leaseTag (by decide)) h.sound c
    h.lease

theorem Overtaken.step (hissued : Issued token owner index s₁) (hsound : Sound s) (c : Call)
    (h : Overtaken token index s₁ r s) : Overtaken token index s₁ r (step s c) := by
  rcases h with hview | hdev | hlease
  · exact .inl (step_view_stays hsound c hview)
  · exact .inr (.inl (step_beyond hsound c hdev))
  · exact .inr
      (.inr (step_lease (fun hstep hold => hstep.past hold hissued.leaseTag) hsound c hlease))

/-- Under the token's tag, the rank tells. -/
theorem Follows.past (h : Follows token index s₁ s)
    (hrank : r < leaseRank (s.leases token.leaseSlot).word.state) :
    Past leaseRank token.leaseTag r (s.leases token.leaseSlot) := by
  rcases h.lease with hlater | ⟨htag, -⟩
  · exact .inl hlater
  · exact .inr ⟨htag, hrank⟩

theorem leaseRank_over : LeaseState.over state → leaseRank .published < leaseRank state := by
  cases state <;> simp [LeaseState.over, leaseRank]

section

variable (hissued : Issued token owner index s₁)

include hissued

theorem Follows.undisturbed (h : Follows token index s₁ s)
    (hnot : ¬ Overtaken token index s₁ (leaseRank .published) s) :
    Undisturbed token owner index s₁ s := by
  obtain ⟨hview, hdev, hlease⟩ := not_or.1 hnot |>.imp_right not_or.1
  obtain ⟨hword, hfence⟩ := h.device.resolve_right hdev
  have hbefore : ¬ token.leaseTag < (s.leases token.leaseSlot).word.tag := fun hlater =>
    hlease (.inl hlater)
  obtain ⟨htag, hpay, -⟩ := h.lease.resolve_left hbefore
  refine ⟨h.view.resolve_right hview, hword, hfence, htag, ?_, fun hover => ?_⟩
  · rw [hpay]
    exact hissued.owner
  · exact hlease (h.past (leaseRank_over hover))

/-- The commit finds the view and the device as they were, and a lease that is not over. -/
theorem Committable.not_overtaken
    (h : Committable token s) (hfound : findIdentity s token.identityRecordId = index)
    (hr : leaseRank .reserved ≤ r)
    (hcomm : isCommitted (s.leases token.leaseSlot).word.state →
      leaseRank .published ≤ r) : ¬ Overtaken token index s₁ r s := by
  have hdev := h.device
  rw [hfound] at hdev
  rintro (hview | (hclosed | hrank) | hlease)
  · rw [h.view] at hview
    exact hview rfl
  · rw [hdev] at hclosed
    cases hclosed
  · -- the generation in the token is the one of the word
    obtain ⟨hopen, hgen⟩ := hissued.device
    have hold : (s₁.devices index).admission.rank = 2 * token.deviceValidationGeneration := by
      simp only [DeviceWord.rank, hopen, hgen]
    rw [hdev, hold] at hrank
    change 2 * token.deviceValidationGeneration < 2 *
      (token.deviceValidationGeneration % 2 ^ 24) at hrank
    omega
  · have htag : (packRecord token.leaseTag (.reserved : LeaseState) token.attemptTag).tag =
        token.leaseTag :=
      packRecord_tag hissued.leaseTag _ _
    rcases h.lease with hreserved | ⟨hsame, hstate⟩
    · unfold Past at hlease
      rw [hreserved, htag] at hlease
      rcases hlease with hlater | ⟨-, hrank⟩
      · exact absurd hlater (lt_irrefl _)
      · exact absurd hr (not_le.2 hrank)
    · rcases hlease with hlater | ⟨-, hrank⟩
      · omega
      · rcases hstate with hstate | hstate <;> rw [hstate] at hrank hcomm
        · have := hcomm trivial
          simp only [leaseRank] at this hrank
          omega
        · exact absurd (hcomm trivial) (not_le.2 hrank)

/-- What disturbs the token overtakes it. -/
theorem Disturbs.overtakes (h : Follows token index s₁ s)
    (hdisturbs : Disturbs token owner index s c) :
    Overtaken token index s₁ (leaseRank .published) (step s c) := by
  have hafter := h.step hissued c
  have hrecovers : ∀ {o : Owner} {flag : Bool}, sameOwner owner o → o.pid ≠ 0 →
      o.startTimeTicks ≠ 0 →
      Overtaken token index s₁ (leaseRank .published) ((recoverOwner o flag).run s).2 := by
    intro o flag hsame hpid hticks
    have hpay : sameOwner (s₁.leases token.leaseSlot).payload.owner o := by
      rw [hissued.owner]
      exact hsame
    exact ((recoverOwner_ends hissued.fits.2.2 hissued.leaseTag hpay hpid hticks flag s
      ⟨⟨h.sound.calm, h.sound.leaseTags, h.sound.unheld .lease _, h.lease⟩,
      h.extended⟩).2).imp_right .inr
  cases c with
  | publishFence caller i expectedGeneration intended =>
    obtain ⟨rfl, hok⟩ := hdisturbs
    have hreopened := (publishFence_does caller expectedGeneration s
      ⟨h.sound.calm.updates, rfl⟩).2.2 hok
    rcases h.device with ⟨hword, -⟩ | hbeyond
    · refine .inr (.inl (hafter.device.resolve_left fun hsame => ?_))
      -- the generation has gone up by one
      have hnew : ((Registry.step s (.publishFence caller i expectedGeneration intended)).devices
        i).admission = .pack (expectedGeneration + 1) .open 0 := hreopened.after
      rw [hsame.1, ← hword, hreopened.before] at hnew
      have hgen := congrArg DeviceWord.generation hnew
      change expectedGeneration % 2 ^ 24 = (expectedGeneration + 1) % 2 ^ 24 at hgen
      omega
    · exact .inr (.inl (step_beyond h.sound _ hbeyond))
  | markDeviceLost i lifecycleSequence epoch =>
    obtain ⟨rfl, hok⟩ := hdisturbs
    obtain ⟨-, hclosed, -⟩ := (markDeviceLost_does (K := losing i lifecycleSequence epoch) rfl rfl
      (fun _ => ⟨rfl, rfl, rfl, rfl⟩) s s rfl).2 hok
    exact .inr (.inl (.inl hclosed))
  | close caller inquiries =>
    exact .inl ((close_does caller inquiries s ⟨h.sound.calm, h.sound.queued⟩).2 hdisturbs)
  | releaseAdmission t =>
    obtain ⟨rfl, hok⟩ := hdisturbs
    rcases (releaseAdmission_does (K := recovering) trivial t s s rfl).2 with ⟨-, -,
      hover⟩ | ⟨hfailed, -⟩
    · exact .inr (.inr (hafter.past (leaseRank_over hover)))
    · exact absurd hok hfailed
  | recoverOwner => exact hrecovers hdisturbs.1 hdisturbs.2.1 hdisturbs.2.2
  | helpAdmission t flag =>
    obtain ⟨rfl, hsame, hpid, hticks⟩ := hdisturbs
    rcases h.lease with hlater | ⟨htag, hpay, -⟩
    · exact Overtaken.step hissued h.sound _ (.inr (.inr (.inl hlater)))
    have hhazards : (s.leases t.leaseSlot).hazards ≠ uint32Max := by
      have hzero : (s.leases t.leaseSlot).hazards = 0 := h.sound.unheld .lease _
      rw [hzero]
      decide
    have hrun : (helpAdmission t flag).run s = (recoverOwner owner flag).run s := by
      have howner : (s.leases t.leaseSlot).payload.owner = owner := by
        rw [hpay]
        exact hissued.owner
      have hslot : ¬ admissionLeaseCapacity ≤ t.leaseSlot := not_le.2 hissued.fits.2.2
      simp [helpAdmission, h.extended, hslot, htag, h.viewId, hhazards, howner]
    change Overtaken t index s₁ _ ((helpAdmission t flag).run s).2
    rw [hrun]
    exact hrecovers hsame hpid hticks
  | _ => exact hdisturbs.elim

end

/-- **Nothing comes between a token and its commit**, if the device the commit looks at is the one
it was issued for. -/
theorem commit_undisturbed (hissues : Issues token owner index s c) (hsound : Sound s)
    (between : List Call)
    (hcommit : Succeeds (run step (step s c) between) (.commitAdmission token))
    (hfound : findIdentity (run step (step s c) between) token.identityRecordId = index) :
    Throughout step (Undisturbed token owner index (step s c)) (step s c) between ∧
      Along step (fun s c => ¬ Disturbs token owner index s c) (step s c) between ∧
      (¬ isCommitted
          ((run step (step s c) between).leases token.leaseSlot).word.state →
        Along step (fun s c => ¬ (c = .commitAdmission token ∧ Succeeds s c))
        (step s c) between) := by
  obtain ⟨hissued, -, hext⟩ := hissues.issued
  have hfollows : Follows token index (step s c) (step s c) :=
    hissued.follows (step_sound s c hsound)
    ((step_extended hsound c).1.trans hext)
  have hinv : ∀ s' c', Follows token index (step s c) s' →
      Follows token index (step s c) (step s' c') :=
    fun s' c' h => h.step hissued c'
  have hcommittable := ((commitAdmission_does (K := recovering) trivial token _ _ rfl).2 hcommit).1
  have hnot := hcommittable.not_overtaken hissued hfound (by decide) (fun _ => .refl)
  refine ⟨?_, ?_, fun hcomm => ?_⟩
  · refine Throughout.imp (fun s' h => h.1.undisturbed hissued h.2) between
      (throughout_of_absorbing hinv (fun s' c' h => Overtaken.step hissued h.sound c')
      between hfollows
        hnot)
  · exact along_of_absorbing hinv (fun s' c' h => Overtaken.step hissued h.sound c')
      (fun s' c' h => Disturbs.overtakes hissued h) between hfollows hnot
  have hreserved := hcommittable.not_overtaken hissued hfound (Nat.le_refl (leaseRank .reserved))
    fun h => absurd h hcomm
  refine along_of_absorbing hinv (fun s' c' h => Overtaken.step hissued h.sound c') ?_
    between hfollows
    hreserved
  rintro s' _ h ⟨rfl, hok⟩
  have hdone := ((commitAdmission_does (K := recovering) trivial token s' s' rfl).2 hok).2
  refine .inr (.inr ((h.step hissued _).past ?_))
  change isCommitted ((step s' (.commitAdmission token)).leases token.leaseSlot).word.state at hdone
  cases hstate : ((step s' (.commitAdmission token)).leases token.leaseSlot).word.state <;>
    simp_all [isCommitted, leaseRank]

end Token

/-! ## 5. After the end of the view, and after the reuse of a slot -/

/-- The calls that an ended view refuses. -/
def Admits : Call → Prop
  | .beginAdmission .. | .commitAdmission _ | .publishFence .. | .publishTelemetry .. => True
  | _ => False

/-- The view is not open, and no device is. -/
def Over (s : Mapping) : Prop := s.viewAdmission.state ≠ .open ∧ AllClosed s

theorem Over.of_ended (h : Sound s) (hended : ViewState.ended s.viewAdmission.state) : Over s := by
  refine ⟨fun hopen => ?_, h.ended hended⟩
  rw [hopen] at hended
  exact hended

theorem Over.step (hsound : Sound s) (c : Call) (h : Over s) : Over (step s c) := by
  refine ⟨step_view_stays hsound c h.1, ?_⟩
  rcases step_does hsound c with hord | ⟨_, _, _, _, ⟨_, _, -, hrel⟩, -⟩
  · exact hord.does.allClosed h.2
  · exact absurd hrel.view.2 h.1

theorem Over.refuses (hsound : Sound s) (h : Over s) (hadmits : Admits c) : ¬ Succeeds s c := by
  intro hok
  cases c with
  | beginAdmission caller index deadlineNs operationCookie targetCookie =>
    have hrefused : Triple (fun _ _ => True) (· = s)
        (beginAdmission caller index deadlineNs operationCookie targetCookie) fun answer _ =>
          statusOf answer ≠ .success := by
      refine .get_at (.either (.pure fun _ _ => nofun) <|
        .either (.pure fun _ _ => nofun) <| .ite (fun _ => .pure fun _ _ => nofun)
        fun hopen => ?_)
      exact absurd (not_not.1 hopen) h.1
    exact (hrefused s rfl).2 hok
  | commitAdmission token =>
    have hcommittable :=
      ((commitAdmission_does (K := recovering) trivial token s s rfl).2 hok).1
    have hview := h.1
    rw [hcommittable.view] at hview
    exact hview rfl
  | publishFence caller _ expectedGeneration =>
    exact publishFence_refused hsound.calm.updates (.inr h) caller expectedGeneration hok
  | publishTelemetry caller rows =>
    obtain ⟨-, hchecked, -⟩ := publishTelemetry_does caller rows s hsound.calm.telemetry s rfl
    exact h.1 (checkPublication_success (hchecked hok)).1
  | _ => exact hadmits

theorem tags_le_run (h : Sound s) (calls : List Call) (slot : Nat) :
    (s.attempts slot).word.tag ≤ ((run step s calls).attempts slot).word.tag ∧
      (s.leases slot).word.tag ≤ ((run step s calls).leases slot).word.tag := by
  refine run_rel
    (R := fun s s' : Mapping => (s.attempts slot).word.tag ≤ (s'.attempts slot).word.tag ∧
    (s.leases slot).word.tag ≤ (s'.leases slot).word.tag) (fun _ => ⟨.refl, .refl⟩) ?_
    step_sound ?_ calls h
  · rintro a b c ⟨hatt, hlease⟩ ⟨hatt', hlease'⟩
    exact ⟨hatt.trans hatt', hlease.trans hlease'⟩
  · intro s c hs
    refine ⟨attemptTag_le_step hs c slot, ?_⟩
    exact step_lease
      (fun hstep hold hle => Nat.le_trans hle (hstep.tag_le hold)) hs c .refl

section Reuse

variable {token : AdmissionLeaseToken}

/-- A token whose slots have gone on cannot be committed. -/
theorem commit_refused (htags : token.attemptTag ≤ recordTagMaxNormal ∧
      token.leaseTag ≤ recordTagMaxNormal)
    (h : token.leaseTag < (s.leases token.leaseSlot).word.tag ∨
      token.attemptTag < (s.attempts token.attemptSlot).word.tag) :
    ¬ Succeeds s (.commitAdmission token) := by
  intro hok
  have hcommittable := ((commitAdmission_does (K := recovering) trivial token s s rfl).2 hok).1
  have hatt : (s.attempts token.attemptSlot).word.tag = token.attemptTag := by
    rw [hcommittable.attempt]
    exact packRecord_tag htags.1 _ _
  have hlease : (s.leases token.leaseSlot).word.tag = token.leaseTag := by
    rcases hcommittable.lease with hreserved | ⟨hsame, -⟩
    · rw [hreserved]
      exact packRecord_tag htags.2 _ _
    · exact hsame
  omega

/-- Nor released, nor helped. -/
theorem release_refused (h : token.leaseTag < (s.leases token.leaseSlot).word.tag) :
    ¬ Succeeds s (.releaseAdmission token) ∧ ∀ flag, ¬ Succeeds s (.helpAdmission token flag) := by
  constructor
  · intro hok
    rcases (releaseAdmission_does (K := recovering) trivial token s s rfl).2 with ⟨-, htag,
      -⟩ | ⟨hfailed, -⟩
    · omega
    · exact hfailed hok
  · intro flag hok
    have hrefused : Triple (fun _ _ => True) (· = s) (helpAdmission token flag) fun status _ =>
        status ≠ .success := by
      refine .get_at (.either (.pure fun _ _ => nofun) <|
        .ite (fun _ => .pure fun _ _ => nofun) fun hnames => ?_)
      omega
    exact (hrefused s rfl).2 hok

theorem Issued.tags {index : Nat} (h : Issued token owner index s) :
    (s.attempts token.attemptSlot).word.tag = token.attemptTag ∧
      (s.leases token.leaseSlot).word.tag = token.leaseTag :=
  ⟨by rw [h.attempt, packRecord_tag h.attemptTag], by rw [h.lease, packRecord_tag h.leaseTag]⟩

/-- A slot that has been taken over is under another tag for good. -/
theorem reused_refused {token' : AdmissionLeaseToken} {owner' : Owner} {index index' : Nat}
    {c' : Call} (hsound : Sound s) (hissues : Issues token owner index s c) (between : List Call)
    (hreuses : Issues token' owner' index' (run step (step s c) between) c') (after : List Call) :
    let s' := run step (step (run step (step s c) between) c') after
    (token'.leaseSlot = token.leaseSlot ∨ token'.attemptSlot = token.attemptSlot →
        ¬ Succeeds s' (.commitAdmission token)) ∧
      (token'.leaseSlot = token.leaseSlot → ¬ Succeeds s' (.releaseAdmission token) ∧
        ∀ flag, ¬ Succeeds s' (.helpAdmission token flag)) := by
  obtain ⟨hissued, -⟩ := hissues.issued
  obtain ⟨hreissued, habove, -⟩ := hreuses.issued
  have hfirst := step_sound s c hsound
  have hsecond := run_induction step_sound between hfirst
  have hthird := step_sound _ c' hsecond
  obtain ⟨hatt₁, hlease₁⟩ := hissued.tags
  obtain ⟨hatt₂, hlease₂⟩ := hreissued.tags
  have hlease : token'.leaseSlot = token.leaseSlot → token.leaseTag <
      ((run step (step (run step (step s c) between) c') after).leases
      token.leaseSlot).word.tag := by
    intro hsame
    have hbefore := (tags_le_run hfirst between token.leaseSlot).2
    have hafter := (tags_le_run hthird after token.leaseSlot).2
    have htaken := habove.lease
    rw [hsame] at htaken hlease₂
    omega
  have hatt : token'.attemptSlot = token.attemptSlot → token.attemptTag <
      ((run step (step (run step (step s c) between) c') after).attempts
        token.attemptSlot).word.tag := by
    intro hsame
    have hbefore := (tags_le_run hfirst between token.attemptSlot).1
    have hafter := (tags_le_run hthird after token.attemptSlot).1
    have htaken := habove.attempt
    rw [hsame] at htaken hatt₂
    omega
  constructor
  · intro hslot
    exact commit_refused ⟨hissued.attemptTag, hissued.leaseTag⟩ (hslot.imp hlease hatt)
  · intro hslot
    exact release_refused (hlease hslot)

end Reuse

/-! ## 6. Runs -/

/-- **Admission is safe**, as far as commits look at the device of their token.  A commit that does
and that succeeds has had nothing come between, and its token has not been committed before if the
lease does not say so; an ended view admits nothing; and a token whose slot has been taken over is
refused for good. -/
theorem admission_safety {s₀ : Mapping} (hfresh : Fresh s₀) (before : List Call) :
    (∀ token owner index c between, Issues token owner index (run step s₀ before) c →
      let s₁ := step (run step s₀ before) c
      let s := run step s₁ between
      Succeeds s (.commitAdmission token) → findIdentity s token.identityRecordId = index →
        Throughout step (Undisturbed token owner index s₁) s₁ between ∧
          Along step (fun s c => ¬ Disturbs token owner index s c) s₁ between ∧
          (¬ LeaseState.isCommitted (s.leases token.leaseSlot).word.state →
            Along step (fun s c => ¬ (c = .commitAdmission token ∧ Succeeds s c)) s₁ between)) ∧
    (ViewState.ended (run step s₀ before).viewAdmission.state → ∀ after c, Admits c →
      ¬ Succeeds (run step (run step s₀ before) after) c) ∧
    (∀ token owner index c between token' owner' index' c' after,
      Issues token owner index (run step s₀ before) c →
      Issues token' owner' index' (run step (step (run step s₀ before) c) between) c' →
      let s := run step (step (run step (step (run step s₀ before) c) between) c') after
      (token'.leaseSlot = token.leaseSlot ∨ token'.attemptSlot = token.attemptSlot →
          ¬ Succeeds s (.commitAdmission token)) ∧
        (token'.leaseSlot = token.leaseSlot → ¬ Succeeds s (.releaseAdmission token) ∧
          ∀ flag, ¬ Succeeds s (.helpAdmission token flag))) := by
  have hsound := run_sound hfresh before
  refine ⟨?_, ?_, ?_⟩
  · intro token owner index c between hissues s₁ s hcommit hfound
    exact commit_undisturbed hissues hsound between hcommit hfound
  · intro hended after c hadmits
    have hover := run_induction (P := fun s => Sound s ∧ Over s)
      (fun s c h => ⟨step_sound s c h.1, h.2.step h.1 c⟩) after ⟨hsound, .of_ended hsound hended⟩
    exact hover.2.refuses hover.1 hadmits
  · intro token owner index c between token' owner' index' c' after hissues hreuses
    exact reused_refused hsound hissues between hreuses after

/-- A token of the first device, with which nothing interferes while a fence of the other is
published. -/
theorem admission_safety_other :
    let begin : Call := .beginAdmission someCaller 0 0 1 1
    let token : AdmissionLeaseToken := ⟨⟨1, 1⟩, 1, 1, 1, 0, 1, 0, 1⟩
    Issues token ⟨7, 7, 0⟩ 0 twoDevices begin ∧
      Throughout step (Undisturbed token ⟨7, 7, 0⟩ 0 (step twoDevices begin))
      (step twoDevices begin)
        [.publishFence someCaller 1 1 (plainFence 2 4)] := by
  have hissues : Issues ⟨⟨1, 1⟩, 1, 1, 1, 0, 1, 0, 1⟩ ⟨7, 7, 0⟩ 0 twoDevices
      (.beginAdmission someCaller 0 0 1 1) := ⟨someCaller, 0, 1, 1, rfl, rfl, by decide +kernel⟩
  refine ⟨hissues, ?_⟩
  exact ((admission_safety twoDevices_fresh []).1 _ _ _ _
    [.publishFence someCaller 1 1 (plainFence 2 4)]
    hissues (by decide +kernel) (by decide +kernel)).1

/-- Two devices come to carry one identity.  A token issued for the second is committed after that
device has been marked lost, since the commit looks at the first.  And a commit that is made twice
succeeds twice. -/
theorem lost_device_committed :
    let token : AdmissionLeaseToken := ⟨⟨1, 1⟩, 3, 1, 2, 0, 1, 0, 1⟩
    let renamed := run step twoDevices [.publishDeviceIdentity 1 2 1 3 2 (plainFence 3 2)]
    let begin : Call := .beginAdmission someCaller 1 0 1 1
    let between : List Call :=
  [.publishDeviceIdentity 0 1 1 3 2 (plainFence 3 2), .markDeviceLost 1 5 0]
    Issues token ⟨7, 7, 0⟩ 1 renamed begin ∧
      Succeeds (run step (step renamed begin) (between.take 1)) (.markDeviceLost 1 5 0) ∧
      Succeeds (run step (step renamed begin) between) (.commitAdmission token) ∧
      Succeeds (step (run step (step renamed begin) between) (.commitAdmission token))
        (.commitAdmission token) := by
  refine ⟨⟨someCaller, 0, 1, 1, rfl, rfl, ?_⟩, ?_, ?_, ?_⟩ <;> decide +kernel

end MetaFlux.Registry
