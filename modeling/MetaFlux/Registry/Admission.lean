/-
# Admission, call by call

What beginning, committing and releasing do to the two tables of admissions, and what is true of a
token at the moment it is given out (`Issued`): its two slots stand under its tags, the lease says
whose it is, and both words are open at the generations the token carries.
-/
import MetaFlux.Registry.Calm

namespace MetaFlux.Registry

open Base

variable {K : Part → Prop} {source target : AttemptState} {slot tag auxiliary : Nat}
    {P : Mapping → Prop}
  {device : DeviceWord} {view : ViewWord} {owner : Owner}

/-! ## 1. Beginning -/

structure Issued (token : AdmissionLeaseToken) (owner : Owner) (index : Nat)
    (s : Mapping) : Prop where
  fits : token.fits s
  identity : token.identityRecordId = (s.devices index).identityRecordId
  view : s.viewAdmission.state = .open ∧
    token.viewValidationGeneration = s.viewAdmission.generation
  device : (s.devices index).admission.state = .open ∧
    token.deviceValidationGeneration = (s.devices index).admission.generation
  attempt : (s.attempts token.attemptSlot).word = packRecord token.attemptTag .ready 0
  attemptTag : token.attemptTag ≤ recordTagMaxNormal
  lease : (s.leases token.leaseSlot).word = packRecord token.leaseTag .reserved token.attemptTag
  leaseTag : token.leaseTag ≤ recordTagMaxNormal
  owner : (s.leases token.leaseSlot).payload.owner = owner

/-- The attempt of a slot is in a state, under its tag. -/
def AttemptAt (slot tag : Nat) (state : AttemptState) (s : Mapping) : Prop :=
  (s.attempts slot).word = packRecord tag state 0

def LeaseAt (slot tag : Nat) (state : LeaseState) (auxiliary : Nat) (s : Mapping) : Prop :=
  (s.leases slot).word = packRecord tag state auxiliary

section

variable (hk : K .admissions)

include hk

/-- An attempt goes on, under its tag. -/
theorem attemptExchange_does (hrank : attemptRank source < attemptRank target)
    (hkeep : ∀ s cell, P s → P (attemptTable.put slot cell s)) :
    Triple (Does K) P
      (attemptTable.exchange slot (packRecord tag source 0) (packRecord tag target 0))
      fun found s => P s ∧ (found = none → AttemptAt slot tag target s) := by
  refine .exchange (fun s hs hword => ⟨onward_attempt hk hword hrank, hkeep s _ hs, fun _ => ?_⟩)
    fun s hs _ => ⟨hs, nofun⟩
  exact attemptTable.restate_word ..

/-- A lease goes on, under its tag. -/
theorem leaseExchange_does
    {source target : LeaseState} (hrank : leaseRank source < leaseRank target)
    (hkeep : ∀ s word, P s → P (leaseTable.restate slot word s)) :
    Triple (Does K) P
      (leaseTable.exchange slot (packRecord tag source auxiliary) (packRecord tag target auxiliary))
      fun found s => P s ∧ (found = none → LeaseAt slot tag target auxiliary s) := by
  refine .exchange (fun s hs hword => ⟨onward_lease hk hword hrank, hkeep s _ hs, fun _ => ?_⟩)
    fun s hs _ => ⟨hs, nofun⟩
  exact leaseTable.restate_word ..

theorem attemptExchange_respects (hrank : attemptRank source < attemptRank target) :
    Respects (Does K)
      (attemptTable.exchange slot (packRecord tag source 0) (packRecord tag target 0)) :=
  (attemptExchange_does hk hrank fun _ _ h => h).respects

theorem leaseExchange_respects
    {source target : LeaseState} (hrank : leaseRank source < leaseRank target) :
    Respects (Does K)
      (leaseTable.exchange slot (packRecord tag source auxiliary)
      (packRecord tag target auxiliary)) :=
  (leaseExchange_does hk hrank fun _ _ h => h).respects

end

/-- The lease of an attempt is filled in. -/
structure Claimed (owner : Owner) (index attemptSlot attemptTag leaseSlot : Nat) (view : ViewWord)
    (device : DeviceWord) (s : Mapping) : Prop where
  payload : (s.leases leaseSlot).payload =
    { identityRecordId := (s.devices index).identityRecordId
      viewValidationGeneration := view.generation
      deviceValidationGeneration := device.generation
      owner
      attemptSlot
      attemptTag }

theorem Claimed.restate {index attemptSlot attemptTag leaseSlot : Nat}
    (s : Mapping) (word : Tagged LeaseState)
    (h : Claimed owner index attemptSlot attemptTag leaseSlot view device s) :
    Claimed owner index attemptSlot attemptTag leaseSlot view device
      (leaseTable.restate leaseSlot word s) :=
  ⟨(leaseTable.restate_payload ..).trans h.payload⟩

/-- The tags of a token are above what stood in its slots. -/
structure Above (token : AdmissionLeaseToken) (s : Mapping) : Prop where
  attempt : (s.attempts token.attemptSlot).word.tag < token.attemptTag
  lease : (s.leases token.leaseSlot).word.tag < token.leaseTag

/-- A token comes back issued, for the attempt it was asked for and with a tag the leases had not
reached. -/
abbrev LeaseClaimed (owner : Owner) (index attemptSlot attemptTag : Nat)
    (leases : Nat → Cell LeaseState Lease) (answer : Except SharedStatus AdmissionLeaseToken)
    (s : Mapping) : Prop :=
  ∀ token, answer = .ok token → Issued token owner index s ∧ token.attemptSlot = attemptSlot ∧
    token.attemptTag = attemptTag ∧ (leases token.leaseSlot).word.tag < token.leaseTag

section

variable (hk : K .admissions)

include hk

theorem claimLease_does {index attemptSlot attemptTag : Nat}
    {leases : Nat → Cell LeaseState Lease} (hslot : attemptSlot < admissionAttemptCapacity)
    (htag : attemptTag ≤ recordTagMaxNormal) (hview : view.state = .open)
    (hdev : device.state = .open) :
    Triple (Does K) (fun s => AttemptAt attemptSlot attemptTag .claiming s ∧ s.leases = leases)
      (claimLease owner index attemptSlot attemptTag view device)
      (LeaseClaimed owner index attemptSlot attemptTag leases) := by
  have hexit : ∀ {P : Mapping → Prop} status,
      Triple (Does K) P (do
        let _ ← attemptTable.exchange attemptSlot (packRecord attemptTag .claiming 0)
          (packRecord attemptTag .exited 0)
        return .error status)
        (LeaseClaimed owner index attemptSlot attemptTag leases) := by
    intro P status
    refine .bind (attemptExchange_respects hk (by decide)).triple fun _ => .pure ?_
    intro _ _ _ h
    cases h
  refine .bind (Q := fun answer s => AttemptAt attemptSlot attemptTag .claiming s ∧
    ∀ slot tag, answer = .ok (slot, tag) → (slot < admissionLeaseCapacity ∧
      tag ≤ recordTagMaxNormal ∧ (leases slot).word.tag < tag) ∧
        LeaseAt slot tag .initializing attemptTag s) ?_ fun claimed => ?_
  · refine claimRecord_rule (fun s _ hs _ => ⟨hs.1, fun _ _ h => by cases h⟩)
      fun s slot tag hs hslot hclaim htag hmax => ⟨does_lease hk (.claim ?_ ?_ rfl) rfl, hs.1, ?_⟩
    · exact (packRecord_tag hmax _ _).trans htag
    · change (leaseTable.read s slot).word.tag < _
      omega
    · rintro _ _ ⟨⟩
      refine ⟨⟨hslot, hmax, ?_⟩, leaseTable.restate_word ..⟩
      change tag = (s.leases slot).word.tag + 1 at htag
      rw [← hs.2]
      omega
  cases claimed with
  | error => exact hexit _
  | ok claim =>
    obtain ⟨leaseSlot, leaseTag⟩ := claim
    refine .extract (fun s h => (h.2 _ _ rfl).1) fun hclaim => ?_
    obtain ⟨hlease, hmax, habove⟩ := hclaim
    refine .get_bind fun s hs => ?_
    have hat : LeaseAt leaseSlot leaseTag .initializing attemptTag s := (hs.2 _ _ rfl).2
    refine .bind
      (.modify_at (Q := fun _ s => LeaseAt leaseSlot leaseTag .initializing attemptTag s ∧
      Claimed owner index attemptSlot attemptTag leaseSlot view device s) ?_ ?_) fun _ => ?_
    · exact does_lease hk (.fill rfl (congrArg Tagged.state hat)) rfl
    · refine ⟨?_, ⟨?_⟩⟩
      · simpa [LeaseAt, Slots.amend, Slots.put, leaseTable, Cell.setPayload] using hat
      · simp [Slots.amend, Slots.put, leaseTable, Cell.setPayload]
    refine .bind ((leaseExchange_does hk (by decide) Claimed.restate).pre fun _ h => h.2)
      fun found => ?_
    cases found with
    | some _ => exact hexit _
    | none =>
      refine .get_bind fun s hs => .ite (fun _ => ?_) fun hsame => ?_
      · exact .bind (leaseExchange_respects hk (by decide)).triple fun _ => hexit _
      obtain ⟨hviewSame, hdeviceSame⟩ := (not_or.1 hsame).imp not_not.1 not_not.1
      refine .bind ((attemptExchange_does hk (by decide) (P := fun s =>
        Claimed owner index attemptSlot attemptTag leaseSlot view device s ∧
          LeaseAt leaseSlot leaseTag .reserved attemptTag s ∧ s.viewAdmission = view ∧
          (s.devices index).admission = device)
        fun s _ h => ⟨⟨h.1.payload⟩, h.2⟩).start ⟨hs.1, hs.2 rfl, hviewSame, hdeviceSame⟩)
          fun found => ?_
      cases found with
      | some _ =>
        exact .bind (leaseExchange_respects hk (by decide)).triple fun _ =>
          .pure fun _ _ _ h => by cases h
      | none =>
        refine .get_bind fun s hs => .pure ?_
        rintro _ rfl _ ⟨⟩
        obtain ⟨⟨hclaimed, hreserved, hviewSame, hdeviceSame⟩, hready⟩ := hs
        refine ⟨⟨⟨rfl, hslot, hlease⟩, ?_, ?_, ?_, hready rfl, htag, hreserved, hmax, ?_⟩, rfl,
          rfl, habove⟩
        all_goals simp only [hclaimed.payload]
        · exact ⟨hviewSame ▸ hview, congrArg _ hviewSame.symm⟩
        · exact ⟨hdeviceSame ▸ hdev, congrArg _ hdeviceSame.symm⟩

theorem beginAdmission_does (caller : Caller)
    (index deadlineNs operationCookie targetCookie : Nat) (s : Mapping) :
    Triple (Does K) (· = s) (beginAdmission caller index deadlineNs operationCookie targetCookie)
      fun answer s' => ∀ token, answer = .ok token →
        (∃ owner, caller.owner = some owner ∧ Issued token owner index s') ∧ Above token s := by
  have herror : ∀ {P : Mapping → Prop} status, Triple (Does K) P
      (pure (.error status)) fun (answer : Except SharedStatus AdmissionLeaseToken) s' =>
        ∀ token, answer = .ok token →
          (∃ owner, caller.owner = some owner ∧ Issued token owner index s') ∧ Above token s :=
    fun status => .pure fun _ _ _ h => nomatch h
  refine .get_at (.either (herror _) <| .either (herror _) <|
    .either (herror _) <| .either (herror _) ?_)
  split
  · exact herror _
  rename_i owner howner
  refine .bind (Q := fun answer s' => s'.leases = s.leases ∧ ∀ slot tag, answer = .ok (slot, tag) →
    (slot < admissionAttemptCapacity ∧ tag ≤ recordTagMaxNormal ∧
      (s.attempts slot).word.tag < tag) ∧ AttemptAt slot tag .entering s') ?_ fun claimed => ?_
  · refine claimRecord_rule (fun _ _ hs _ => ⟨hs ▸ rfl, nofun⟩) ?_
    intro s' slot tag hs hslot _ htag hmax
    rw [hs] at htag ⊢
    change tag = (s.attempts slot).word.tag + 1 at htag
    refine ⟨does_attempt hk (.claim ?_ ?_ rfl) rfl, rfl, ?_⟩
    · exact (packRecord_tag hmax _ _).trans htag
    · omega
    · rintro _ _ ⟨⟩
      exact ⟨⟨hslot, hmax, by omega⟩, attemptTable.restate_word ..⟩
  cases claimed with
  | error => exact herror _
  | ok claim =>
    refine .extract (fun _ h => (h.2 _ _ rfl).1) fun ⟨hslot, htag, habove⟩ => ?_
    refine .bind (.modify (Q := fun _ s' => s'.leases = s.leases) fun s' hs =>
      ⟨does_attempt hk (.fill rfl ?_) rfl, hs.1⟩) fun _ => ?_
    · exact congrArg Tagged.state (hs.2 _ _ rfl).2
    refine .bind (attemptExchange_does hk (by decide) fun _ _ h => h) fun found => ?_
    cases found with
    | some _ => exact herror _
    | none =>
      refine .look_bind fun s' _ => .ite (fun _ => ?_) fun hopen => ?_
      · exact .bind (attemptExchange_respects hk (by decide)).triple fun _ => herror _
      obtain ⟨hview, hdev⟩ := (not_or.1 hopen).imp not_not.1 not_not.1
      refine .bind ((attemptExchange_does hk (by decide)
        fun _ _ h => h).pre fun _ h => h.1) fun found => ?_
      cases found with
      | some _ => exact herror _
      | none =>
        refine (claimLease_does hk hslot htag hview hdev).conseq (fun _ h => ⟨h.2 rfl, h.1⟩) ?_
        intro _ _ h token htoken
        obtain ⟨hissued, hsame, htagged, hlease⟩ := h token htoken
        exact ⟨⟨owner, howner, hissued⟩, by rw [hsame, htagged]; exact habove, hlease⟩

/-! ## 2. Committing -/

/-- What a commit that succeeds has found. -/
structure Committable (token : AdmissionLeaseToken) (s : Mapping) : Prop where
  fits : token.fits s
  attempt : (s.attempts token.attemptSlot).word = packRecord token.attemptTag .ready 0
  found : findIdentity s token.identityRecordId ≠ s.deviceCount
  view : s.viewAdmission = .pack token.viewValidationGeneration .open
  device : (s.devices (findIdentity s token.identityRecordId)).admission =
    .pack token.deviceValidationGeneration .open 0
  lease : (s.leases token.leaseSlot).word =
      packRecord token.leaseTag .reserved token.attemptTag ∨
    (s.leases token.leaseSlot).word.tag = token.leaseTag ∧
      ((s.leases token.leaseSlot).word.state = .committed ∨
        (s.leases token.leaseSlot).word.state = .published)

/-- The lease is committed. -/
def LeaseState.isCommitted : LeaseState → Prop
  | .committed | .published => True
  | _ => False

theorem commitAdmission_does (token : AdmissionLeaseToken) (s : Mapping) :
    Triple (Does K) (· = s) (commitAdmission token) fun status s' =>
      status = .success → Committable token s ∧
        LeaseState.isCommitted (s'.leases token.leaseSlot).word.state := by
  refine .get_at (.either (.pure fun _ _ h => nomatch h) <|
    .ite (fun _ => .pure fun _ _ h => nomatch h) fun hfits =>
    .ite (fun _ => .pure fun _ _ h => nomatch h) fun hrecords =>
    .ite (fun _ => .pure fun _ _ h => nomatch h) fun hfound =>
    .ite (fun _ => .pure fun _ _ h => nomatch h) fun hwords => ?_)
  obtain ⟨hview, hdev⟩ := (not_or.1 hwords).imp not_not.1 not_not.1
  have hatt := not_not.1 (not_or.1 hrecords).1
  refine .bind (.exchange (Q := fun found s' =>
    (found = none ∧ (s.leases token.leaseSlot).word =
      packRecord token.leaseTag .reserved token.attemptTag) ∨
    found = some (s.leases token.leaseSlot).word ∧ s' = s) ?_ ?_) fun found => ?_
  · rintro _ rfl hword
    exact ⟨onward_lease hk hword (by decide), .inl ⟨rfl, hword⟩⟩
  · rintro _ rfl _
    exact .inr ⟨rfl, rfl⟩
  cases found with
  | some =>
    refine .pure fun s' hlease hok => ?_
    obtain ⟨⟨⟩, _⟩ | ⟨⟨⟩, rfl⟩ := hlease
    split_ifs at hok with hcomm
    refine ⟨⟨not_not.1 hfits, hatt, hfound, hview, hdev, .inr hcomm⟩, ?_⟩
    rcases hcomm.2 with hstate | hstate <;> rw [hstate] <;> trivial
  | none =>
    refine .extract (fun _ h => h.resolve_right fun h => nomatch h.1) ?_
    rintro ⟨-, hreserved⟩
    have hdone : Committable token s :=
      ⟨not_not.1 hfits, hatt, hfound, hview, hdev, .inl hreserved⟩
    refine .look_bind fun s _ => .either ?_ ?_
    · exact .bind (leaseExchange_respects hk (by decide)).triple fun _ =>
        .pure fun _ _ h => nomatch h
    refine .bind ((leaseExchange_does hk (by decide) fun _ _ h => h).pre
      fun _ _ => trivial) fun found => ?_
    cases found with
    | some _ => exact .pure fun _ _ h => nomatch h
    | none =>
      refine .bind (.exchange (fun s _ hword =>
          ⟨onward_lease hk hword (by decide), ?_⟩) fun s hs _ => ?_) fun _ =>
        .pure fun _ h _ => ⟨hdone, h⟩
      · change LeaseState.isCommitted (leaseTable.read (leaseTable.restate ..) _).word.state
        rw [leaseTable.restate_word]
        trivial
      · have hcomm : (s.leases token.leaseSlot).word = _ := hs.2 rfl
        trivial

/-! ## 3. Releasing and helping -/

/-- The lease is over, the one way or the other. -/
def LeaseState.over : LeaseState → Prop
  | .released | .revoked | .tombstoned => True
  | _ => False

/-- What an answer to a release means. -/
def Released (token : AdmissionLeaseToken) (s : Mapping) (status : SharedStatus) (s' : Mapping) :
    Prop :=
  (status = .success ∧ (s.leases token.leaseSlot).word.tag = token.leaseTag ∧
      LeaseState.over (s'.leases token.leaseSlot).word.state) ∨
    (status ≠ .success ∧ s' = s)

theorem releaseAdmission_does (token : AdmissionLeaseToken) (s : Mapping) :
    Triple (Does K) (· = s) (releaseAdmission token) (Released token s) := by
  have hrefuse : ∀ {status : SharedStatus}, status ≠ .success →
      Triple (Does K) (· = s) (pure status) (Released token s) := fun hstat =>
    .pure fun _ h => .inr ⟨hstat, h⟩
  refine .get_at (.either (hrefuse (by decide)) <| .either (hrefuse (by decide)) <|
    .ite (fun _ => hrefuse (by decide)) fun htag => ?_)
  have htag' : (s.leases token.leaseSlot).word.tag = token.leaseTag := not_not.1 htag
  have hatt : Triple (Does K) (fun s' => s'.attempts = s.attempts ∧
      LeaseState.over (s'.leases token.leaseSlot).word.state) (do
        if (s.attempts token.attemptSlot).word.tag = token.attemptTag ∧
            (s.attempts token.attemptSlot).word.state ≠ .exited then
          attemptTable.store token.attemptSlot (packRecord token.attemptTag .exited 0)
        return .success) (Released token s) := by
    refine .ite (fun hlive => ?_) fun _ => .pure fun s' hs' => .inl ⟨rfl, htag', hs'.2⟩
    refine .bind (.modify
      fun s' hs' => ⟨advance_attempt hk ?_ ?_, hs'.2⟩) fun _ =>
        .pure fun s' hs' => .inl ⟨rfl, htag', hs'⟩
    · rw [hs'.1, hlive.1]
    · rw [hs'.1]
      exact attemptRank_lt hlive.2
  refine .ite (fun hlive => ?_) fun hover => hatt.pre ?_
  · refine .bind (.modify_at ?_ ⟨rfl, ?_⟩) fun _ => hatt
    · refine advance_lease hk (by rw [htag']) ?_
      cases hstate : (s.leases token.leaseSlot).word.state <;> simp_all [leaseRank]
    · change LeaseState.over (leaseTable.read (leaseTable.restate ..) token.leaseSlot).word.state
      by_cases hreserved : (s.leases token.leaseSlot).word.state = .reserved
      · simp [packRecord, hreserved, LeaseState.over]
      · simp [packRecord, hreserved, LeaseState.over]
  · intro s' hs'
    cases hstate : (s.leases token.leaseSlot).word.state <;> simp_all [LeaseState.over]

end

/-- A token that does not name the lease in its slot is refused. -/
theorem helpAdmission_does (token : AdmissionLeaseToken) (ownerMayStillRun : Bool) :
    Triple (Does recovering) Calm (helpAdmission token ownerMayStillRun) fun _ => Calm :=
  .look_bind fun _ _ => .either .skip <|
    .either .skip <| .either .skip <|
    recoverOwner_recovering _ _

end MetaFlux.Registry
