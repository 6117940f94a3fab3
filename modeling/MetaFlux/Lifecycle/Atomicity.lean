/-
# Transactions are atomic across the mirrors

An operation that is executed has one of four outcomes (`Outcome`), and which one it is can be read
off the operation, the answer and the commits the mirrors took:

* ACCEPTED: every mirror took the commit, and the coordinator holds what the operation aims at;
* ROLLED BACK (add, reset, recover): no mirror took the commit, and the coordinator is as before,
  but for the high waters;
* LOST (add, reset, recover): some mirror took the commit and the transaction failed, so the
  coordinator is lost at the candidate, which no mirror can hold alone;
* REMOVED (remove): the coordinator is absent although the transaction failed.

`dispatch_outcome` gives the outcome of an operation together with its calls; everything about local
mirrors below is read off it.  `apply_atomic` is the statement for `apply`, from any coordinator
whatever: no invariant of the coordinator is used.
-/
import MetaFlux.Lifecycle.Local

namespace MetaFlux.Lifecycle

open Base List

variable {W : Type} (c : Coordinator W) (request : Request)

/-! ## 1. The outcome of an operation -/

inductive Outcome where
  | accepted | rolledBack | lost | removed
deriving DecidableEq, Repr

/-- The coordinator an outcome leaves. -/
def Coordinator.outcome (c : Coordinator W) (operation : Operation) : Outcome → Coordinator W
  | .accepted => c.advance operation .online (c.prepared operation)
  | .rolledBack => c.prepared operation
  | .lost | .removed => c.advance operation .lost (c.prepared operation)

/-- The mirrors an abort has to reach: those that were called and have not committed. -/
def unsettled (mirrors : List (Mirror W)) (asked : List Call) : List Nat :=
  (mirrors.findIdxs fun mirror => mirror.abort.isSome).filter
    fun i => calledIn asked i && !committedIn asked i

/-- The calls of an operation, by its outcome: those that wait for an answer, the aborts, and those
that tell of a loss. -/
structure Performed (m : LocalMirrors W) (t₀ : Transaction) (o : Outcome) (result : Result)
    (asked aborted told : List Call) : Prop where
  result : result = .accepted ↔ o = .accepted
  remove : o = .removed → t₀.request.operation = .remove
  notRemove : o = .rolledBack ∨ o = .lost → t₀.request.operation ≠ .remove
  askedEvents : ∀ c ∈ asked, ∃ stage, stage.asks ∧ c.event = t₀.event stage
  abortEvents : ∀ c ∈ aborted, c.event = t₀.event .abort
  toldEvents : ∀ c ∈ told, c.event = t₀.event .publishLost
  taken : o = .accepted → callsOf .commit asked = takenUpTo m t₀ m.mirrors.length
  untaken : o = .rolledBack → ∀ c ∈ asked, c.commits = false
  torn : o = .lost → ∃ c ∈ asked, c.commits = true
  aborts : aborted.map (·.mirror) = if o = .accepted then [] else unsettled m.mirrors asked
  tells : told.map (·.mirror) = if o = .accepted ∨ o = .rolledBack then []
    else m.mirrors.findIdxs fun mirror => mirror.publishLost.isSome

theorem Transaction.failure_ne_accepted (t : Transaction) : t.failure ≠ .accepted := by
  unfold Transaction.failure
  split <;> nofun

theorem Coordinator.planned_request : (c.planned request).request = request := by
  unfold Coordinator.planned
  split <;> rfl

theorem Coordinator.planned_new :
    (c.planned request).touchedMask = 0 ∧ (c.planned request).committedMask = 0 ∧
      (c.planned request).committedCount = 0 := by
  unfold Coordinator.planned
  split <;> exact ⟨rfl, rfl, rfl⟩

variable {made : List Call} {request} (m : LocalMirrors W)

section Unwound

variable {m} {t₀ t : Transaction} {h₀ h : Host W} {made aborted : List Call}

/-- A transaction that failed and was aborted, with the loss told to `told`. -/
theorem Unwound.performed (unwound : Unwound m t₀ h₀ t h made aborted) {o : Outcome}
    {told : List Call} (ho : o ≠ .accepted)
    (hrem : o = .removed ↔ t₀.request.operation = .remove)
    (htold : ∀ c ∈ told, c.event = t₀.event .publishLost)
    (huntaken : o = .rolledBack → ∀ c ∈ made, c.commits = false)
    (htorn : o = .lost → ∃ c ∈ made, c.commits = true)
    (htells : told.map (·.mirror) = if o = .accepted ∨ o = .rolledBack then []
      else m.mirrors.findIdxs fun mirror => mirror.publishLost.isSome) :
    Performed m t₀ o t.failure made aborted told where
  result := ⟨fun h => absurd h t.failure_ne_accepted, fun h => absurd h ho⟩
  remove := hrem.1
  notRemove := by
    rintro (rfl | rfl) hop <;> exact absurd (hrem.2 hop) (by decide)
  askedEvents := unwound.events
  abortEvents := unwound.abortEvents
  toldEvents := htold
  taken := fun h => absurd h ho
  untaken := huntaken
  torn := htorn
  aborts := by
    rw [unwound.selected, if_neg ho]
    rfl
  tells := htells

theorem Asked.performed (asked : Asked t₀ h₀ t h made)
    (htaken : callsOf .commit made = takenUpTo m t₀ m.mirrors.length) :
    Performed m t₀ .accepted .accepted made [] [] where
  result := ⟨fun _ => rfl, fun _ => rfl⟩
  remove := nofun
  notRemove := by rintro (h | h) <;> exact absurd h (by decide)
  askedEvents := asked.events
  abortEvents := fun c hc => absurd hc not_mem_nil
  toldEvents := fun c hc => absurd hc not_mem_nil
  taken := fun _ => htaken
  untaken := nofun
  torn := nofun
  aborts := (if_pos rfl).symm
  tells := (if_pos (.inl rfl)).symm

end Unwound

/-- The calls of the loss a transaction reports, whose events are those of the transaction it was
started as. -/
theorem publishLost_of_core {t₀ t : Transaction} (hcore : t.core = t₀.core)
    (h : Host W) : ∃ told, Quiet h (publishLost m.mirrors t h) told ∧
      (∀ c ∈ told, c.event = t₀.event .publishLost) ∧
      told.map (·.mirror) = m.mirrors.findIdxs fun mirror => mirror.publishLost.isSome := by
  obtain ⟨told, hquiet, hevents, htold⟩ := publishLost_local m t h
  exact ⟨told, hquiet, fun c hc => (hevents c hc).trans (Transaction.event_of_core hcore _), htold⟩

/-- What an outcome says of an operation started from `c` with the log `calls`. -/
def Settled (m : LocalMirrors W) (c : Coordinator W) (request : Request) (calls : List Call)
    (answer : ResultDetails × Host W) : Prop :=
  ∃ o asked aborted told,
    Performed m (c.planned request) o answer.1.result asked aborted told ∧
    answer.2.coordinator = c.outcome request.operation o ∧
    answer.2.calls = calls ++ (asked ++ aborted ++ told)

section Settled

variable {m} {c} {calls : List Call}
  {t : Transaction} {h₀ h : Host W} {made aborted : List Call}

theorem settled_accepted (hstage : Stage m (c.planned request) h₀ .commit m.mirrors.length t h)
    (hcalls : h₀.calls = calls) (hcoord : h₀.coordinator = c.prepared request.operation) :
    Settled m c request calls
      (accepted t (h.update (c.advance request.operation .online))) := by
  obtain ⟨made, asked, htaken⟩ := hstage
  refine ⟨.accepted, made, [], [], asked.performed htaken, ?_, ?_⟩
  · change c.advance request.operation .online h.coordinator = _
    rw [asked.quiet.coordinator, hcoord]
    rfl
  · rw [append_nil, append_nil, ← hcalls]
    exact asked.quiet.calls

section

variable (unwound : Unwound m (c.planned request) h₀ t h made aborted)

include unwound

/-- A removal that fails is settled all the same, whatever state the mirrors are told it in. -/
theorem settled_remove
    (hrem : request.operation = .remove) (hcalls : h₀.calls = calls) {g : Host W}
    (hretire : g.coordinator.retire (c.epoch + 1) = c.retire (c.epoch + 1))
    (hg : g.calls = h.calls) :
    Settled m c request calls
      (failed t ((publishLost m.mirrors t g).update (c.advance request.operation .lost))) := by
  obtain ⟨told, hquiet, hevents, htold⟩ := publishLost_of_core m unwound.core g
  refine ⟨.removed, made, aborted, told, ?_, ?_, ?_⟩
  · exact unwound.performed (by decide) (by simp [c.planned_request, hrem]) hevents nofun nofun
      (by simpa using htold)
  · rw [hrem]
    change (publishLost m.mirrors t g).coordinator.retire (c.epoch + 1) = c.retire (c.epoch + 1)
    rw [hquiet.coordinator, hretire]
  · change (publishLost m.mirrors t g).calls = _
    rw [hquiet.calls, hg, unwound.quiet.calls, hcalls]
    simp

section

variable (hrem : request.operation ≠ .remove) (hcalls : h₀.calls = calls)
  (hcoord : h₀.coordinator = c.prepared request.operation)

include hrem hcalls hcoord

theorem settled_rolledBack (huntaken : ∀ c ∈ made, c.commits = false) :
    Settled m c request calls (failed t h) := by
  refine ⟨.rolledBack, made, aborted, [], ?_, ?_, ?_⟩
  · exact unwound.performed (by decide) (by simp [c.planned_request, hrem])
      (fun c hc => absurd hc not_mem_nil) (fun _ => huntaken) nofun rfl
  · exact unwound.quiet.coordinator.trans hcoord
  · rw [append_nil, ← hcalls]
    exact unwound.quiet.calls

theorem settled_lost (htorn : ∃ c ∈ made, c.commits = true) :
    Settled m c request calls
      (failed t (publishLost m.mirrors t (h.update (c.advance request.operation .lost)))) := by
  obtain ⟨told, hquiet, hevents, htold⟩ := publishLost_of_core m unwound.core
    (h.update (c.advance request.operation .lost))
  refine ⟨.lost, made, aborted, told, ?_, ?_, ?_⟩
  · exact unwound.performed (by decide) (by simp [c.planned_request, hrem]) hevents nofun
      (fun _ => htorn) (by simpa using htold)
  · refine hquiet.coordinator.trans ?_
    change c.advance request.operation .lost h.coordinator = _
    rw [unwound.quiet.coordinator, hcoord]
    rfl
  · refine hquiet.calls.trans ?_
    change h.calls ++ told = _
    rw [unwound.quiet.calls, hcalls]
    simp

end

end

end Settled

/-- **An operation has one of the four outcomes**, and these are its calls. -/
theorem dispatch_outcome {h : Host W} (hstart : h.coordinator.Startable request.operation)
    (hloss : request.operation ≠ .transportLoss) :
    Settled m h.coordinator request h.calls (dispatch m.mirrors request h) := by
  have hended := transact_local m
    { h with coordinator := h.coordinator.prepared request.operation }
    (h.coordinator.planned_new request)
  rw [dispatch_of_startable m.mirrors hstart hloss]
  generalize transact m.mirrors _ _ = ended at hended ⊢
  obtain ⟨ending, t, h'⟩ := ended
  by_cases hrem : request.operation = .remove
  · have hprep : h.coordinator.prepared request.operation = h.coordinator := by
      rw [hrem]
      rfl
    cases ending with
    | committed => exact settled_accepted hended rfl rfl
    | stopped =>
      obtain ⟨made, aborted, unwound, -⟩ := hended
      have hcoord : h'.coordinator = h.coordinator :=
        unwound.quiet.coordinator.trans hprep
      simp only [settle, if_pos hrem]
      refine settled_remove unwound hrem rfl ?_ rfl
      -- the state a removal has passed through does not survive it
      change h'.coordinator.retire _ = _
      rw [hcoord]
    | refused | torn =>
      obtain ⟨⟨made, aborted, unwound⟩, -⟩ := hended
      have hcoord := unwound.quiet.coordinator.trans hprep
      simp only [settle, if_pos hrem]
      exact settled_remove unwound hrem rfl (by rw [hcoord]) rfl
  · cases ending with
    | committed => exact settled_accepted hended rfl rfl
    | stopped =>
      obtain ⟨made, aborted, unwound, hnone⟩ := hended
      simp only [settle, if_neg hrem]
      refine settled_rolledBack unwound hrem rfl rfl fun c hc => ?_
      have hstage := (filter_eq_nil_iff.1 hnone) c hc
      simp [Call.commits, hstage]
    | refused =>
      obtain ⟨⟨made, aborted, unwound⟩, hcount⟩ := hended
      simp only [settle, if_neg hrem]
      refine settled_rolledBack unwound hrem rfl rfl fun c hc => ?_
      rw [unwound.count, countP_eq_zero] at hcount
      simpa using hcount c hc
    | torn =>
      obtain ⟨⟨made, aborted, unwound⟩, hcount⟩ := hended
      simp only [settle, if_neg hrem]
      refine settled_lost unwound hrem rfl rfl ?_
      rw [unwound.count] at hcount
      exact countP_pos_iff.1 (Nat.pos_of_ne_zero hcount)

/-! ## 2. What the outcomes say of the device -/

/-- What the coordinator holds about the device: the tuple, its state and the tombstones. -/
structure Authority where
  state : State
  identityRecordId : Nat
  generation : Nat
  epoch : Nat
  tombstones : List Tombstone
deriving DecidableEq, Repr

def Coordinator.authority (c : Coordinator W) : Authority :=
  { state := c.state
    identityRecordId := c.identityRecordId
    generation := c.generation
    epoch := c.epoch
    tombstones := c.tombstones.rows }

/-- The tombstone of the tuple the coordinator holds. -/
def Coordinator.tombstone (c : Coordinator W) : Tombstone :=
  { generation := c.generation, identityRecordId := c.identityRecordId, epoch := c.epoch + 1 }

/-- What an operation that is settled forward leaves: `add` installs the candidate at the epoch of
the coordinator, `reset` and `recover` install it at the next one and `remove` leaves nothing, all
three over one more tombstone. -/
def Coordinator.forward (c : Coordinator W) (operation : Operation) (state : State) : Authority :=
  match operation with
  | .add =>
    { state
      identityRecordId := c.identityHighWater + 1
      generation := c.generationHighWater + 1
      epoch := c.epoch
      tombstones := c.tombstones.rows }
  | .remove =>
    { state := .absent
      identityRecordId := 0
      generation := 0
      epoch := c.epoch + 1
      tombstones := c.tombstones.rows ++ [c.tombstone] }
  | _ =>
    { state
      identityRecordId := c.identityHighWater + 1
      generation := c.generationHighWater + 1
      epoch := c.epoch + 1
      tombstones := c.tombstones.rows ++ [c.tombstone] }

variable {c} {operation : Operation} {stage : MirrorStage}

/-- An operation that needs a tombstone has room for it. -/
theorem Coordinator.Startable.room (hstart : c.Startable operation) (hadd : operation ≠ .add)
    (hloss : operation ≠ .transportLoss) : c.tombstones.Room := by
  cases operation with
  | add => exact absurd rfl hadd
  | remove | reset | recover => exact hstart.2.2.1
  | transportLoss => exact absurd rfl hloss
  | outOfRange => exact absurd hstart id

theorem Coordinator.authority_advance
    (hstart : c.Startable operation) (hloss : operation ≠ .transportLoss) (state : State) :
    (c.advance operation state (c.prepared operation)).authority = c.forward operation state := by
  by_cases hadd : operation = .add
  · rw [hadd]
    rfl
  have hpush := Table.rows_push (hstart.room hadd hloss) c.tombstone
  cases operation with
  | add => exact absurd rfl hadd
  | remove | reset | recover =>
    exact congrArg (Authority.mk _ _ _ _) hpush
  | transportLoss => exact absurd rfl hloss
  | outOfRange => exact absurd hstart id

/-! ## 3. Atomicity -/

/-- The request passes the checks of `apply` and its operation finds what it needs. -/
def Executes (request : Request) (h : Host W) : Prop :=
  (screen request h).1 = .ok () ∧ h.coordinator.Startable request.operation

/-- Every mirror that has a commit callback was called with it once, and took it. -/
def CommittedByAll (mirrors : List (Mirror W)) (made : List Call) : Prop :=
  ∀ i mirror, mirrors[i]? = some mirror → mirror.commit.isSome →
    ∃ event, (callsOf .commit made).filter (fun c => decide (c.mirror = i)) =
      [{ mirror := i, event, answer := true }]

def CommitTaken (made : List Call) : Prop :=
  ∃ c ∈ made, c.event.stage = .commit ∧ c.answer = true

/-- The outcomes, by the operation, the answer, the commits and what the coordinator holds. -/
def Outcome.Holds (mirrors : List (Mirror W)) (operation : Operation)
    (before after : Coordinator W) (result : Result) (made : List Call) : Outcome → Prop
  | .accepted =>
    result = .accepted ∧ CommittedByAll mirrors made ∧
      after.authority = before.forward operation .online
  | .rolledBack =>
    operation ≠ .remove ∧ result ≠ .accepted ∧ ¬ CommitTaken made ∧
      after.authority = before.authority
  | .lost =>
    operation ≠ .remove ∧ result ≠ .accepted ∧ CommitTaken made ∧
      after.authority = before.forward operation .lost
  | .removed =>
    operation = .remove ∧ result ≠ .accepted ∧ after.authority = before.forward operation .lost

theorem Outcome.Holds.unique {mirrors : List (Mirror W)}
    {before after : Coordinator W} {result : Result} {o o' : Outcome}
    (h : o.Holds mirrors operation before after result made)
    (h' : o'.Holds mirrors operation before after result made) : o = o' := by
  cases o <;> cases o' <;> simp only [Outcome.Holds] at h h' <;> first | rfl | tauto

/-- The mirrors that were asked something, the abort and the news of a loss not counted. -/
def askedIn (made : List Call) (i : Nat) : Bool :=
  made.any fun c => decide (c.mirror = i ∧ c.event.stage.asks)

/-- The mirrors that a transaction which was not accepted has to unwind. -/
def abortsDue (mirrors : List (Mirror W)) (made : List Call) : List Nat :=
  (mirrors.findIdxs fun mirror => mirror.abort.isSome).filter
    fun i => askedIn made i && !committedIn made i

theorem callsOf_append (stage : MirrorStage) (made made' : List Call) :
    callsOf stage (made ++ made') = callsOf stage made ++ callsOf stage made' :=
  filter_append made made'

theorem callsOf_eq_nil (h : ∀ c ∈ made, c.event.stage ≠ stage) : callsOf stage made = [] :=
  filter_eq_nil_iff.2 fun c hc => by simpa using h c hc

theorem callsOf_eq_self (h : ∀ c ∈ made, c.event.stage = stage) : callsOf stage made = made :=
  filter_eq_self.2 fun c hc => by simpa using h c hc

theorem callsOf_ask (t₀ : Transaction) (is : List Nat) (i : Nat) (hnodup : is.Nodup) (hi : i ∈ is) :
    (is.map (t₀.ask .commit · true)).filter (fun c => decide (c.mirror = i)) =
      [t₀.ask .commit i true] := by
  have hmirror : ∀ j, (t₀.ask .commit j true).mirror = j := fun _ => rfl
  rw [filter_map]
  have hone : is.filter ((fun c : Call => decide (c.mirror = i)) ∘ (t₀.ask .commit · true)) =
      [i] := by
    have hcount := count_eq_one_of_mem hnodup hi
    rw [← replicate_one, ← hcount, ← filter_eq]
    exact filter_congr fun j _ => by simp [hmirror]
  rw [hone]
  rfl

namespace Performed

variable {m} {t₀ : Transaction} {o : Outcome} {result : Result}
  {asked aborted told : List Call}

section

variable (p : Performed m t₀ o result asked aborted told)

include p

theorem asks : ∀ c ∈ asked, c.event.stage.asks := by
  intro c hc
  obtain ⟨stage, hasks, hevent⟩ := p.askedEvents c hc
  rw [hevent]
  exact hasks

theorem abort_stage : ∀ c ∈ aborted, c.event.stage = .abort := by
  intro c hc
  rw [p.abortEvents c hc]
  rfl

theorem told_stage : ∀ c ∈ told, c.event.stage = .publishLost := by
  intro c hc
  rw [p.toldEvents c hc]
  rfl

/-- Only the calls that wait for an answer can take a commit. -/
theorem commits_iff (c : Call) :
    (c ∈ asked ++ aborted ++ told ∧ c.commits = true) ↔ (c ∈ asked ∧ c.commits = true) := by
  refine ⟨fun ⟨hc, hcomm⟩ => ⟨?_, hcomm⟩, fun ⟨hc, hcomm⟩ => ⟨?_, hcomm⟩⟩
  · have hstage : c.event.stage = .commit := by
      simp only [Call.commits, Bool.and_eq_true, decide_eq_true_eq] at hcomm
      exact hcomm.1
    rcases mem_append.1 hc with hc | hc
    · rcases mem_append.1 hc with hc | hc
      · exact hc
      · exact absurd (hstage.symm.trans (p.abort_stage c hc)) (by decide)
    · exact absurd (hstage.symm.trans (p.told_stage c hc)) (by decide)
  · exact mem_append_left _ (mem_append_left _ hc)

theorem committedIn_eq (i : Nat) :
    committedIn (asked ++ aborted ++ told) i = committedIn asked i := by
  rw [Bool.eq_iff_iff]
  simp only [committedIn, any_eq_true, Bool.and_eq_true]
  constructor
  · rintro ⟨c, hc, hi, hcomm⟩
    exact ⟨c, ((p.commits_iff c).1 ⟨hc, hcomm⟩).1, hi, hcomm⟩
  · rintro ⟨c, hc, hi, hcomm⟩
    exact ⟨c, ((p.commits_iff c).2 ⟨hc, hcomm⟩).1, hi, hcomm⟩

theorem askedIn_eq (i : Nat) : askedIn (asked ++ aborted ++ told) i = calledIn asked i := by
  rw [Bool.eq_iff_iff]
  simp only [askedIn, calledIn, any_eq_true, decide_eq_true_eq]
  constructor
  · rintro ⟨c, hc, hi, hasks⟩
    rcases mem_append.1 hc with hc | hc
    · rcases mem_append.1 hc with hc | hc
      · exact ⟨c, hc, hi⟩
      · exact absurd (p.abort_stage c hc) hasks.1
    · exact absurd (p.told_stage c hc) hasks.2
  · rintro ⟨c, hc, hi⟩
    exact ⟨c, mem_append_left _ (mem_append_left _ hc), hi, p.asks c hc⟩

/-- The commits of the whole log are those that were asked for. -/
theorem callsOf_commit : callsOf .commit (asked ++ aborted ++ told) = callsOf .commit asked := by
  have haborted : callsOf .commit aborted = [] :=
    callsOf_eq_nil fun c hc h => absurd (h.symm.trans (p.abort_stage c hc)) (by decide)
  have htold : callsOf .commit told = [] :=
    callsOf_eq_nil fun c hc h => absurd (h.symm.trans (p.told_stage c hc)) (by decide)
  rw [callsOf_append, callsOf_append, haborted, htold, append_nil, append_nil]

theorem callsOf_abort : callsOf .abort (asked ++ aborted ++ told) = aborted := by
  rw [callsOf_append, callsOf_append, callsOf_eq_self p.abort_stage,
    callsOf_eq_nil fun c hc h => (p.asks c hc).1 h,
    callsOf_eq_nil fun c hc h => absurd (h.symm.trans (p.told_stage c hc)) (by decide)]
  simp

theorem commitTaken_iff :
    CommitTaken (asked ++ aborted ++ told) ↔ ∃ c ∈ asked, c.commits = true := by
  have hcomm : ∀ c : Call, c.commits = true ↔ c.event.stage = .commit ∧ c.answer = true := by
    simp [Call.commits]
  simp only [CommitTaken, ← hcomm]
  constructor
  · rintro ⟨c, hc⟩
    exact ⟨c, (p.commits_iff c).1 hc⟩
  · rintro ⟨c, hc⟩
    exact ⟨c, (p.commits_iff c).2 hc⟩

end

theorem committedByAll (p : Performed m t₀ .accepted result asked aborted told) :
    CommittedByAll m.mirrors (asked ++ aborted ++ told) := by
  intro i mirror hmirror hcommit
  refine ⟨t₀.event .commit, ?_⟩
  rw [p.callsOf_commit, p.taken rfl, takenUpTo, List.take_length]
  refine callsOf_ask t₀ _ i List.nodup_findIdxs ?_
  obtain ⟨hlt, hget⟩ := List.getElem?_eq_some_iff.1 hmirror
  rw [List.mem_findIdxs_iff_pos_getElem hlt, hget]
  exact hcommit

end Performed

theorem Settled.holds {m : LocalMirrors W} {calls : List Call} {answer : ResultDetails × Host W}
    (hstart : c.Startable request.operation) (hloss : request.operation ≠ .transportLoss)
    (hsettled : Settled m c request calls answer) : ∃ made, answer.2.calls = calls ++ made ∧
      (∃ o : Outcome, o.Holds m.mirrors request.operation c answer.2.coordinator
        answer.1.result made) ∧
      (callsOf .abort made).map (·.mirror) =
        if answer.1.result = .accepted then [] else abortsDue m.mirrors made := by
  obtain ⟨o, asked, aborted, told, p, hcoord, hcalls⟩ := hsettled
  refine ⟨_, hcalls, ⟨o, ?_⟩, ?_⟩
  -- the aborts went where they were due
  case' refine_2 =>
    rw [p.callsOf_abort, p.aborts]
    simp only [p.result, unsettled, abortsDue, p.askedIn_eq, p.committedIn_eq]
  have hrem := p.remove
  have hnotRemove := p.notRemove
  rw [c.planned_request] at hrem hnotRemove
  have hres := p.result
  rw [hcoord]
  cases o with
  | accepted =>
    exact ⟨hres.2 rfl, p.committedByAll, Coordinator.authority_advance hstart hloss .online⟩
  | rolledBack =>
    refine ⟨hnotRemove (.inl rfl), fun h => absurd (hres.1 h) (by decide), ?_, ?_⟩
    · rw [p.commitTaken_iff]
      rintro ⟨c, hc, hcomm⟩
      exact absurd hcomm (by simp [p.untaken rfl c hc])
    · cases request.operation <;> rfl
  | lost =>
    exact ⟨hnotRemove (.inr rfl), fun h => absurd (hres.1 h) (by decide),
      p.commitTaken_iff.2 (p.torn rfl), Coordinator.authority_advance hstart hloss .lost⟩
  | removed =>
    exact ⟨hrem rfl, fun h => absurd (hres.1 h) (by decide),
      Coordinator.authority_advance hstart hloss .lost⟩

/-- The coordinator is as before, but for what it has recorded of the request. -/
def SameAuthority (before after : Coordinator W) : Prop :=
  after.authority = before.authority ∧ after.generationHighWater = before.generationHighWater ∧
    after.identityHighWater = before.identityHighWater

/-- **Atomicity of `apply`.**  From any coordinator, an operation that is executed has exactly one
of the four outcomes, and the aborts go exactly to the mirrors that were asked and did not commit.
A loss that is executed asks nobody and leaves the coordinator lost at its tuple.  A call that
executes nothing calls no mirror and changes nothing. -/
theorem apply_atomic (m : LocalMirrors W) (request : Request) (h : Host W) :
    ∃ made, (apply m.mirrors request h).2.calls = h.calls ++ made ∧
      (Executes request h → request.operation ≠ .transportLoss →
        (∃! o : Outcome, o.Holds m.mirrors request.operation h.coordinator
          (apply m.mirrors request h).2.coordinator (apply m.mirrors request h).1.result made) ∧
        (callsOf .abort made).map (·.mirror) =
          if (apply m.mirrors request h).1.result = .accepted then []
          else abortsDue m.mirrors made) ∧
      (Executes request h → request.operation = .transportLoss →
        (apply m.mirrors request h).1.result = .accepted ∧
        (apply m.mirrors request h).2.coordinator.authority =
          { h.coordinator.authority with state := .lost } ∧
        callsOf .publishLost made = made) ∧
      (¬ Executes request h → (apply m.mirrors request h).1.result ≠ .accepted ∧ made = [] ∧
        SameAuthority h.coordinator (apply m.mirrors request h).2.coordinator) := by
  obtain ⟨world, -, ⟨answer, hscreen, hres⟩ | ⟨-, hscreen⟩⟩ := screen_cases request h
  · -- the screen answers
    have hnot : ¬ Executes request h := fun hexec => by
      have hok := hexec.1
      rw [hscreen] at hok
      cases hok
    rw [apply_of_error m.mirrors hscreen]
    exact ⟨[], (append_nil _).symm, fun hexec => absurd hexec hnot,
      fun hexec => absurd hexec hnot, fun _ => ⟨hres, rfl, rfl, rfl, rfl⟩⟩
  · have hok : (screen request h).1 = .ok () := by rw [hscreen]
    rw [apply_of_ok m.mirrors hscreen]
    by_cases hstart : h.coordinator.Startable request.operation
    · have hexec : Executes request h := ⟨hok, hstart⟩
      by_cases hloss : request.operation = .transportLoss
      · have hdispatch := dispatch_of_loss m.mirrors (h := { h with world }) hstart hloss
        obtain ⟨told, hquiet, hevents, -⟩ := publishLost_local m (h.coordinator.planned request)
          (({ h with world }).update (·.setState .lost))
        refine ⟨told, ?_, fun _ hnot => absurd hloss hnot, fun _ _ => ?_, absurd hexec⟩
        · rw [hdispatch]
          exact hquiet.calls
        · rw [hdispatch]
          refine ⟨rfl, ?_, ?_⟩
          · exact congrArg Coordinator.authority hquiet.coordinator
          · exact callsOf_eq_self fun c hc => by rw [hevents c hc]; rfl
      · obtain ⟨made, hcalls, ⟨o, ho⟩, haborts⟩ :=
          (dispatch_outcome m (h := { h with world }) hstart hloss).holds hstart hloss
        exact ⟨made, hcalls, fun _ _ => ⟨⟨o, ho, fun o' ho' => ho'.unique ho⟩, haborts⟩,
          fun _ hloss' => absurd hloss' hloss, absurd hexec⟩
    · have hnot : ¬ Executes request h := fun hexec => hstart hexec.2
      obtain ⟨hres, hhost⟩ := dispatch_of_not_startable m.mirrors (h := { h with world }) hstart
      refine ⟨[], ?_, fun hexec => absurd hexec hnot, fun hexec => absurd hexec hnot,
        fun _ => ⟨hres, rfl, ?_⟩⟩
      · rw [hhost]
        exact (append_nil _).symm
      · rw [hhost]
        exact ⟨rfl, rfl, rfl⟩

/-- A mirror that agrees to everything, except that it may refuse the commit. -/
def steadyMirror (kind : MirrorKind) (takesCommit : Bool) : Mirror Unit :=
  { kind
    name := "steady"
    prepare := some fun _ h => (true, h)
    quiesce := some fun _ h => (true, h)
    drain := some fun _ h => (true, h)
    commit := some fun _ h => (takesCommit, h)
    abort := some fun _ h => (true, h)
    publishLost := some fun _ h => h }

theorem steadyMirror_local (kind : MirrorKind) (takesCommit : Bool) :
    (steadyMirror kind takesCommit).Local := by
  refine ⟨fun stage f hf event h => ?_, fun f hf event h => ?_⟩
  · cases stage <;> cases hf <;> exact ⟨rfl, rfl⟩
  · cases hf
    exact ⟨rfl, rfl⟩

/-- The first takes the commit and the second refuses it. -/
def tornMirrors : LocalMirrors Unit where
  mirrors := [steadyMirror .memfd true, steadyMirror .cdev false]
  isLocal := by
    intro mirror hmirror
    rcases List.mem_pair.1 hmirror with rfl | rfl <;> exact steadyMirror_local _ _

def onlineHost : Host Unit := { coordinator := .init {}, world := () }

def resetRequest : Request :=
  { requestId := 1, logicalDeviceId := 1, daemonIncarnation := 1, expectedIdentityRecordId := 1
    expectedGeneration := 1, expectedEpoch := 1, operation := .reset }

theorem apply_atomic_torn : Executes resetRequest onlineHost ∧
    ∃ made, (apply tornMirrors.mirrors resetRequest onlineHost).2.calls = onlineHost.calls ++ made ∧
      ∃! o : Outcome, o.Holds tornMirrors.mirrors resetRequest.operation onlineHost.coordinator
        (apply tornMirrors.mirrors resetRequest onlineHost).2.coordinator
        (apply tornMirrors.mirrors resetRequest onlineHost).1.result made := by
  have hexec : Executes resetRequest onlineHost := ⟨rfl, by decide⟩
  obtain ⟨made, hcalls, houtcome, -⟩ := apply_atomic tornMirrors resetRequest onlineHost
  exact ⟨hexec, made, hcalls, (houtcome hexec (by decide)).1⟩

end MetaFlux.Lifecycle
