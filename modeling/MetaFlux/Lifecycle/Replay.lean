/-
# A request is executed at most once

Every request that is executed is recorded, whether it is accepted or not, and a request whose id is
recorded is answered from the record.  That the record is never lost has two reasons: the room for
it is tested before the request is executed, and records are only ever appended, so that the first
record of an id stays the first.  Requests that are not executed (stale, too late, malformed, or
without room) are not recorded, and such a call changes nothing.
-/
import MetaFlux.Lifecycle.Effect

namespace MetaFlux.Lifecycle

open Base

variable {W : Type} {c d : Coordinator W}

/-! ## 1. The table of requests -/

theorem sameRequest_iff (left right : Request) : sameRequest left right = true ↔ left = right := by
  obtain ⟨_, _, _, _, _, _, _, _, _⟩ := left
  obtain ⟨_, _, _, _, _, _, _, _, _⟩ := right
  simp [sameRequest]

/-- The coordinator answers requests, and those with this id from this record. -/
structure Recorded (c : Coordinator W) (requestId : Nat) (record : RequestRecord) : Prop where
  valid : c.valid = true
  found : c.findRequest requestId = some record

/-- The record of an executed request. -/
def recordOf (request : Request) (details : ResultDetails) : RequestRecord :=
  { request
    result := details.result
    candidateGeneration := details.candidateGeneration
    candidateIdentityRecordId := details.candidateIdentityRecordId }

variable {record : RequestRecord} {requestId : Nat}

/-- A record, once found, is found again after any other is written behind it. -/
theorem Recorded.remember
    (h : Recorded c requestId record) (request : Request) (details : ResultDetails) :
    Recorded (c.rememberRequest request details) requestId record := by
  refine ⟨h.valid, ?_⟩
  have hfound := h.found
  unfold Coordinator.findRequest at hfound ⊢
  by_cases hroom : c.requests.Room
  · rw [Coordinator.rememberRequest, Table.rows_push hroom, List.find?_append, hfound]
    rfl
  · rw [Coordinator.rememberRequest, Table.push_of_full hroom, hfound]

variable {request : Request}

/-- A request that passes is found from then on, by the record of its answer. -/
theorem Coordinator.Passes.recorded (h : c.Passes request)
    (hvalid : d.valid = c.valid) (hrequests : d.requests = c.requests) (details : ResultDetails) :
    Recorded (d.rememberRequest request details) request.requestId (recordOf request details) := by
  refine ⟨hvalid.trans h.valid, ?_⟩
  have hfresh := h.fresh
  unfold Coordinator.findRequest at hfresh ⊢
  rw [Coordinator.rememberRequest, hrequests, Table.rows_push h.room, List.find?_append, hfresh]
  simp [recordOf]

/-- No effect touches the table. -/
theorem Effect.requests {made : List Call} (heffect : Effect c request d made) :
    d.valid = c.valid ∧ d.requests = c.requests := by
  cases heffect <;> exact ⟨rfl, rfl⟩

theorem turn_recorded (h : Host W) (move : Move W) (hc : Recorded h.coordinator requestId record) :
    Recorded (turn h move).coordinator requestId record := by
  rcases turn_cases h move with ⟨hsame, -⟩ | ⟨request, d, made, details, -, heffect, hd, -⟩
  · rwa [hsame]
  obtain ⟨hvalid, hrequests⟩ := heffect.requests
  have hrecorded : Recorded d requestId record := by
    refine ⟨hvalid.trans hc.valid, ?_⟩
    rw [Coordinator.findRequest, hrequests]
    exact hc.found
  rw [hd]
  exact hrecorded.remember request details

/-! ## 2. Calls that act -/

/-- The call gets as far as its operation. -/
def Executed (h : Host W) (request : Request) : Prop := (screen request h).1 = .ok ()

/-- A call with this id that calls a mirror or moves anything the coordinator holds of the device.
-/
def Acts (requestId : Nat) (h : Host W) : Move W → Prop
  | .apply m request => request.requestId = requestId ∧
      ¬ ((apply m.mirrors request h).2.calls = h.calls ∧
        SameAuthority h.coordinator (apply m.mirrors request h).2.coordinator)
  | .drift _ => False

instance (requestId : Nat) (h : Host W) : ∀ move, Decidable (Acts requestId h move)
  | .apply _ _ => by unfold Acts SameAuthority; infer_instance
  | .drift _ => .isFalse id

variable {h : Host W}

/-- A call that is not executed does not act. -/
theorem apply_of_not_executed (m : LocalMirrors W) (hnot : ¬ Executed h request) :
    (apply m.mirrors request h).2.calls = h.calls ∧
      (apply m.mirrors request h).2.coordinator = h.coordinator := by
  obtain ⟨world, -, ⟨answer, hscreen, -⟩ | ⟨-, hscreen⟩⟩ := screen_cases request h
  · rw [apply_of_error m.mirrors hscreen]
    exact ⟨rfl, rfl⟩
  · exact absurd (by rw [Executed, hscreen]) hnot

/-- A call that is executed is recorded with its answer. -/
theorem Executed.recorded (m : LocalMirrors W) (hexec : Executed h request) :
    Recorded (apply m.mirrors request h).2.coordinator request.requestId
      (recordOf request (apply m.mirrors request h).1) := by
  obtain ⟨world, -, ⟨answer, hscreen, -⟩ | ⟨hpass, hscreen⟩⟩ := screen_cases request h
  · rw [Executed, hscreen] at hexec
    cases hexec
  obtain ⟨d, made, heffect, hd, -⟩ := dispatch_effect m request { h with world }
  obtain ⟨hvalid, hrequests⟩ := heffect.requests
  rw [apply_of_ok m.mirrors hscreen]
  change Recorded ((dispatch m.mirrors request { h with world }).2.coordinator.rememberRequest
    request _) _ _
  rw [hd]
  exact hpass.recorded hvalid hrequests _

/-- A call whose id is recorded does nothing. -/
theorem Recorded.not_acts
    (hc : Recorded h.coordinator requestId record) (move : Move W) : ¬ Acts requestId h move := by
  cases move with
  | drift => exact id
  | apply m =>
    rintro ⟨rfl, hacts⟩
    rw [apply_of_recorded m.mirrors hc.valid hc.found] at hacts
    exact hacts ⟨rfl, rfl, rfl, rfl⟩

theorem Acts.recorded {move : Move W}
    (hacts : Acts requestId h move) :
    ∃ record, Recorded (turn h move).coordinator requestId record := by
  cases move with
  | drift => exact absurd hacts id
  | apply m request =>
    obtain ⟨rfl, hacts⟩ := hacts
    by_cases hexec : Executed h request
    · exact ⟨_, hexec.recorded m⟩
    · obtain ⟨hcalls, hcoord⟩ := apply_of_not_executed m hexec
      refine absurd ⟨hcalls, ?_⟩ hacts
      rw [hcoord]
      exact ⟨rfl, rfl, rfl⟩

/-! ## 3. Over whole runs -/

/-- What a replay is answered: the record if it is the same request, and a conflict otherwise. -/
def replayAnswer (request replayed : Request) (answer : ResultDetails) (snapshot : Snapshot) :
    ResultDetails :=
  if replayed = request then
    { result := .duplicate
      snapshot
      candidateGeneration := answer.candidateGeneration
      candidateIdentityRecordId := answer.candidateIdentityRecordId }
  else { result := .conflict, snapshot }

/-- **Exactly once.**  In any run, at most one call of each id acts.  And after a call that was
executed, any call with its id, however much later, leaves the coordinator, the log and the world as
they are; it is answered with the candidate of the executed call if all its fields are the same, and
as a conflict otherwise. -/
theorem exactly_once (config : Config W) (world : W) :
    (∀ requestId moves, count turn (Acts requestId) (Host.start config world) moves ≤ 1) ∧
    (∀ before m request between m' replayed,
      let h := run turn (Host.start config world) before
      let h' := run turn h (.apply m request :: between)
      Executed h request → replayed.requestId = request.requestId →
        apply (LocalMirrors.mirrors m') replayed h' =
          (replayAnswer request replayed (apply m.mirrors request h).1 h'.coordinator.snapshot,
            h')) := by
  refine ⟨fun requestId moves => ?_, ?_⟩
  · exact count_le_one (P := fun _ => True)
      (D := fun h => ∃ record, Recorded h.coordinator requestId record)
      (fun _ _ _ => trivial)
      (fun h move _ ⟨record, hrecorded⟩ => ⟨record, turn_recorded h move hrecorded⟩)
      (fun _ move _ ⟨_, hrecorded⟩ => hrecorded.not_acts move)
      (fun _ _ _ hacts => hacts.recorded) moves trivial
  · intro before m request between m' replayed h h' hexec hid
    have hrecorded : Recorded h'.coordinator request.requestId
        (recordOf request (apply m.mirrors request h).1) :=
      run_induction turn_recorded between (hexec.recorded m)
    rw [apply_of_recorded m'.mirrors hrecorded.valid (hid ▸ hrecorded.found)]
    have hsame : sameRequest (recordOf request (apply m.mirrors request h).1).request replayed =
        true ↔ replayed = request :=
      (sameRequest_iff request replayed).trans eq_comm
    by_cases heq : replayed = request
    · rw [if_pos (hsame.2 heq), replayAnswer, if_pos heq]
      rfl
    · rw [if_neg (fun h => heq (hsame.1 h)), replayAnswer, if_neg heq]
      rfl

/-- A reset that failed is replayed: it is not tried again. -/
theorem exactly_once_torn : Executed (Host.start {} ()) resetRequest ∧
    apply tornMirrors.mirrors resetRequest
        (run turn (Host.start {} ()) [.apply tornMirrors resetRequest]) =
      (replayAnswer resetRequest resetRequest
          (apply tornMirrors.mirrors resetRequest (Host.start {} ())).1
          (run turn (Host.start {} ()) [.apply tornMirrors resetRequest]).coordinator.snapshot,
        run turn (Host.start {} ()) [.apply tornMirrors resetRequest]) :=
  ⟨rfl, (exactly_once {} ()).2 [] tornMirrors resetRequest [] tornMirrors resetRequest rfl rfl⟩

end MetaFlux.Lifecycle
