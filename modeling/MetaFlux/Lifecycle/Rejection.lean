/-
# What a refusal says

A request that is not begun is answered by the first check it fails, and the checks do not stand in
the order of what they say.  A table of tombstones that is full is checked together with the state,
and answered like a wrong state; the deadline is read twice, and if it passes between the readings
the request is answered as malformed; and a request for another tuple may be told that the request
table is full, or that it is late.  `says_iff`: there is nothing else.
-/
import MetaFlux.Lifecycle.Rules

namespace MetaFlux.Lifecycle

open Base

variable {W : Type}

/-! ## 1. What may be wrong with a request -/

namespace Coordinator

variable (c : Coordinator W)

/-- The state the operation starts from, whatever room there is. -/
def Legal : Operation → Prop
  | .add => c.state = .absent ∧ c.generation = 0 ∧ c.identityRecordId = 0
  | .remove => (c.state = .online ∨ c.state = .lost) ∧ c.generation ≠ 0
  | .reset => c.state = .online ∧ c.generation ≠ 0
  | .recover => c.state = .lost ∧ c.generation ≠ 0
  | .transportLoss => c.state ≠ .absent ∧ c.generation ≠ 0 ∧ c.state ≠ .lost
  | .outOfRange _ => False

/-- There is a tombstone for the tuple that is retired. -/
def Buries (operation : Operation) : Prop :=
  operation = .remove ∨ operation = .reset ∨ operation = .recover → c.tombstones.Room

/-- There is an epoch, a generation and an identity for what the operation reserves. -/
def Reserves (operation : Operation) : Prop :=
  (operation = .remove ∨ operation = .reset ∨ operation = .recover → c.reserveEpoch.isSome) ∧
    (operation = .add ∨ operation = .reset ∨ operation = .recover → c.reserveCandidate.isSome)

variable (request : Request)

def Malformed : Prop :=
  request.requestId = 0 ∨ request.logicalDeviceId ≠ c.logicalDeviceId ∨
    isValidSource request.source = false ∨ isValidOperation request.operation = false

/-- The request is for this incarnation and this tuple. -/
def Current : Prop :=
  request.daemonIncarnation = c.daemonIncarnation ∧ c.matchesTuple request = true

/-- Nothing is wrong with the request, room and deadline apart. -/
def Proper : Prop := c.Current request ∧ c.Legal request.operation ∧ ¬ c.Malformed request

def Roomy : Prop := c.requests.Room ∧ c.Buries request.operation ∧ c.Reserves request.operation

end Coordinator

/-- The deadline has passed at the first reading, or at the second. -/
def Late (request : Request) (h : Host W) : Prop :=
  (expired request.deadlineTick h).1 = true ∨
    (expired request.deadlineTick (expired request.deadlineTick h).2).1 = true

/-- The answer says what is wrong. -/
structure Says (request : Request) (h : Host W) (answer : Result) : Prop where
  exhausted : h.coordinator.Proper request → ¬ Late request h → ¬ h.coordinator.Roomy request →
    answer = .resourceExhausted
  late : h.coordinator.Proper request → Late request h → h.coordinator.Roomy request →
    answer = .timeout
  stale : ¬ h.coordinator.Current request → answer = .stale
  refused : answer = .invalid ∨ answer = .deviceLost →
    ¬ h.coordinator.Legal request.operation ∨ h.coordinator.Malformed request

/-! ## 2. An operation that is not begun -/

variable (mirrors : List (Mirror W)) {request : Request} {h : Host W} {c : Coordinator W}

theorem startable_iff {operation : Operation} :
    c.Startable operation ↔ c.Legal operation ∧ c.Buries operation ∧ c.Reserves operation := by
  cases operation <;>
    simp [Coordinator.Startable, Coordinator.Legal, Coordinator.Buries, Coordinator.Reserves] <;>
    tauto

theorem dispatch_exhausted (hlegal : h.coordinator.Legal request.operation)
    (hburies : h.coordinator.Buries request.operation)
    (hresv : ¬ h.coordinator.Reserves request.operation) :
    (dispatch mirrors request h).1.result = .resourceExhausted := by
  unfold dispatch
  cases hop : request.operation <;> rw [hop] at hlegal hburies hresv <;>
    simp [Coordinator.Legal, Coordinator.Buries, Coordinator.Reserves] at hlegal hburies hresv
  case add => simp [applyAdd, hlegal, hresv, refusal]
  case remove =>
    rw [applyRemove, if_neg (by tauto), hresv]
    rfl
  case reset | recover =>
    rw [applyResetOrRecover, if_neg (by simp [hop, hlegal, hburies])]
    cases hepoch : h.coordinator.reserveEpoch with
    | none => rfl
    | some => rw [hresv (by simp [hepoch])]; rfl

/-- Without a tombstone the state is blamed. -/
theorem dispatch_unburied (hburies : ¬ h.coordinator.Buries request.operation) :
    (dispatch mirrors request h).1.result =
      if h.coordinator.state = .lost then .deviceLost else .invalid := by
  obtain ⟨hretires, hfull⟩ := Classical.not_imp.1 hburies
  unfold dispatch
  rcases hretires with hop | hop | hop <;> rw [hop]
  · simp [applyRemove, hfull, refusal]
  all_goals simp [applyResetOrRecover, hfull, refusal]

/-- What is begun is not answered as if it were not. -/
theorem dispatch_begun (hstart : h.coordinator.Startable request.operation) :
    (dispatch mirrors request h).1.result ≠ .invalid ∧
      (dispatch mirrors request h).1.result ≠ .deviceLost := by
  by_cases hloss : request.operation = .transportLoss
  · rw [dispatch_of_loss mirrors hstart hloss]
    simp [accepted, fillDetails]
  · rw [dispatch_of_startable mirrors hstart hloss]
    unfold settle
    split <;> simp [accepted, failed, fillDetails, Transaction.failure] <;> split <;> simp

/-! ## 3. The answer -/

theorem validRequest_iff (request : Request) (h : Host W) : (validRequest request h).1 = true ↔
    h.coordinator.Current request ∧ ¬ h.coordinator.Malformed request ∧
      (expired request.deadlineTick h).1 = false := by
  obtain ⟨world, hworld, -⟩ := expired_frame request.deadlineTick h
  have hwell : h.coordinator.wellFormed request = true ↔
      request.daemonIncarnation = h.coordinator.daemonIncarnation ∧
        ¬ h.coordinator.Malformed request := by
    simp only [Coordinator.wellFormed, Coordinator.Malformed, Bool.and_eq_true, decide_eq_true_eq,
      not_or, Bool.not_eq_false]
    tauto
  unfold validRequest Coordinator.Current
  simp only [hworld]
  split_ifs with hill hlate <;> simp_all

theorem stale_iff : ¬ c.Current request ↔
    request.daemonIncarnation ≠ c.daemonIncarnation ∨
      request.expectedIdentityRecordId ≠ c.identityRecordId ∨
      request.expectedGeneration ≠ c.generation ∨ request.expectedEpoch ≠ c.epoch := by
  simp only [Coordinator.Current, Coordinator.matchesTuple, decide_eq_true_eq]
  tauto

open Classical in
/-- The answer to a request that has no record, check by check. -/
theorem apply_fresh (hnew : h.coordinator.findRequest request.requestId = none) :
    ∃ world, (apply mirrors request h).1.result =
      if h.coordinator.valid = false then .invalid
      else if ¬ h.coordinator.requests.Room then .resourceExhausted
      else if (expired request.deadlineTick h).1 = true then .timeout
      else if ¬ h.coordinator.Current request then .stale
      else if h.coordinator.Malformed request ∨ Late request h then .invalid
      else (dispatch mirrors request { h with world }).1.result := by
  obtain ⟨world, hworld, -⟩ := expired_frame request.deadlineTick h
  obtain ⟨⟨world', hworld', -⟩, -⟩ := validRequest_frame request { h with world }
  have hok := validRequest_iff request { h with world }
  refine ⟨world', ?_⟩
  unfold apply screen
  simp only [hnew, hworld, hworld', ← stale_iff, Late]
  split_ifs <;> simp_all [refusal]

/-- The checks do not hide one another: a proper request that is in time finds a tombstone, and one
that is not current finds a request table with room, and is in time at the first reading. -/
structure Answerable (request : Request) (h : Host W) : Prop where
  proper : h.coordinator.Proper request → h.coordinator.valid = true ∧
    (h.coordinator.requests.Room → (expired request.deadlineTick h).1 = false →
      ¬ Late request h ∧ h.coordinator.Buries request.operation)
  stale : ¬ h.coordinator.Current request → h.coordinator.valid = true ∧
    h.coordinator.requests.Room ∧ (expired request.deadlineTick h).1 = false

/-- **The answer says what is wrong**, exactly where the checks do not hide one another. -/
theorem says_iff (mirrors : List (Mirror W)) (request : Request) (h : Host W)
    (hnew : h.coordinator.findRequest request.requestId = none) :
    Says request h (apply mirrors request h).1.result ↔ Answerable request h := by
  obtain ⟨world, hanswer⟩ := apply_fresh mirrors hnew
  generalize (apply mirrors request h).1.result = answer at hanswer ⊢
  constructor
  · intro htold
    refine ⟨fun hproper => ?_, fun hstale => ?_⟩
    · have hbegun : answer ≠ .invalid ∧ answer ≠ .deviceLost := by
        have := htold.refused
        unfold Coordinator.Proper at hproper
        tauto
      obtain ⟨hcur, -⟩ := hproper
      have hvalid : h.coordinator.valid = true := by
        by_contra hvalid
        exact hbegun.1 (by simpa [hvalid] using hanswer)
      refine ⟨hvalid, fun hroom hfirst => ?_⟩
      have hlive : ¬ Late request h := fun hlate =>
        hbegun.1 (by simpa [hvalid, hroom, hfirst, hcur, hlate] using hanswer)
      refine ⟨hlive, by_contra fun hburies => ?_⟩
      have hblamed := dispatch_unburied mirrors (h := { h with world }) hburies
      split_ifs at hanswer <;> simp_all
    · rw [htold.stale hstale] at hanswer
      split_ifs at hanswer
      simp_all
  · intro hright
    by_cases hcur : h.coordinator.Current request
    · by_cases hproper : h.coordinator.Proper request
      · obtain ⟨hvalid, hbegins⟩ := hright.proper hproper
        obtain ⟨-, hlegal, hformed⟩ := id hproper
        have hexhausted := dispatch_exhausted mirrors (h := { h with world }) hlegal
        have hbegun := fun hburies hresv => dispatch_begun mirrors (h := { h with world })
          (startable_iff.2 ⟨hlegal, hburies, hresv⟩)
        have hfirst : (expired request.deadlineTick h).1 = true → Late request h := .inl
        refine ⟨fun _ hlive hfull => ?_, fun _ hlate hroomy => ?_, absurd hcur,
          fun hrefused => absurd hrefused ?_⟩
        all_goals
          rw [hanswer]
          split_ifs <;> simp_all [Coordinator.Roomy]
        by_cases hresv : h.coordinator.Reserves request.operation
        · exact hrefused.elim (hbegun hresv).1 (hbegun hresv).2
        · simp [hexhausted hresv] at hrefused
      · refine ⟨fun h => absurd h hproper, fun h => absurd h hproper, absurd hcur, fun _ => ?_⟩
        by_contra hright
        exact hproper ⟨hcur, by tauto⟩
    · have hstale : answer = .stale := by
        obtain ⟨hvalid, hroom, hfirst⟩ := hright.stale hcur
        simpa [hvalid, hroom, hfirst, hcur] using hanswer
      exact ⟨fun h => absurd h.1 hcur, fun h => absurd h.1 hcur, fun _ => hstale,
        fun h => absurd h (by simp [hstale])⟩

/-- A request with the deadline, under a clock that ticks at every reading. -/
def ticking (deadlineTick : Nat) : Request × Host Nat :=
  ({ requestId := 1, logicalDeviceId := 1, daemonIncarnation := 1, expectedIdentityRecordId := 1
     expectedGeneration := 1, expectedEpoch := 1, deadlineTick, operation := .reset },
    { coordinator := .init { clock := some fun now => (now, now + 1) }, world := 0 })

theorem says_iff_ticking :
    (ticking 2).2.coordinator.findRequest 1 = none ∧
    (Says (ticking 2).1 (ticking 2).2 (apply [] (ticking 2).1 (ticking 2).2).1.result ↔
      Answerable (ticking 2).1 (ticking 2).2) :=
  ⟨rfl, says_iff [] (ticking 2).1 (ticking 2).2 rfl⟩

/-- **A deadline that passes between its two readings**: the request is refused as invalid, and all
that is wrong with it is that it is late. -/
theorem second_reading_invalid :
    (ticking 1).2.coordinator.findRequest 1 = none ∧
    (ticking 1).2.coordinator.Proper (ticking 1).1 ∧ Late (ticking 1).1 (ticking 1).2 ∧
    (apply [] (ticking 1).1 (ticking 1).2).1.result = .invalid := by
  refine ⟨rfl, ⟨⟨rfl, rfl⟩, ⟨rfl, by decide⟩, ?_⟩, .inr rfl, rfl⟩
  unfold Coordinator.Malformed
  decide

end MetaFlux.Lifecycle
