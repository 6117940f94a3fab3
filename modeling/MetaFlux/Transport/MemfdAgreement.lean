/-
# The memfd worker follows the coordinator's tuple

The worker's tuple is a copy, moved by its own commit and put back by its own abort, while the
coordinator settles by what ALL mirrors answered.  The worker is a participant of the transaction
(`memfd_participant`): where that ends it is idle at the tuple it had, or done at the candidate.
The coordinator ends at the candidate too, or where it was, with one exception: it
FORCES a settlement, a removal that failed or a commit torn between mirrors, past a worker that has
not committed (`MemfdRig.Forced`).  The worker then keeps its old tuple, offline, and will not
validate anything the coordinator does from there on (`forced_remove_disagrees`).

`memfd_agreement`: the worker has no transaction after any call; and until a settlement is forced
past it, it holds the coordinator's tuple, so that no transaction is refused for a stale one.  The
other mirrors are arbitrary but for leaving the worker and the coordinator's tuple alone
(`Foreign`); they may report a loss from inside a callback (`loss_undisturbed`).
-/
import MetaFlux.Lifecycle.Participant
import MetaFlux.Transport.Memfd

namespace MetaFlux.Transport

open MetaFlux.Lifecycle Base List MirrorStage

variable {V : Type}

/-! ## 1. The worker through a transaction -/

namespace MemfdWorker

def tuple (w : MemfdWorker) : Tuple :=
  { identityRecordId := w.identityRecordId, generation := w.generation, epoch := w.epoch }

def previousTuple (w : MemfdWorker) : Tuple :=
  { identityRecordId := w.previousIdentityRecordId
    generation := w.previousGeneration
    epoch := w.previousEpoch }

/-- What only the worker's own lifecycle callbacks write. -/
def books (w : MemfdWorker) : MemfdWorker :=
  { w with inFlight := 0, online := false, accepting := false }

section

variable {w w' : MemfdWorker} (h : w'.books = w.books)

include h

theorem tuple_of_books : w'.tuple = w.tuple := by
  change w'.books.tuple = w.books.tuple
  rw [h]

theorem previousTuple_of_books : w'.previousTuple = w.previousTuple := by
  change w'.books.previousTuple = w.books.previousTuple
  rw [h]

theorem active_of_books : w'.transactionActive = w.transactionActive := by
  change w'.books.transactionActive = w.books.transactionActive
  rw [h]

end

end MemfdWorker

def candidateTuple (candidate : Candidate) : Tuple :=
  { identityRecordId := candidate.identityRecordId
    generation := candidate.generation
    epoch := candidate.epoch }

/-- The phases of the worker that started at the tuple `T` and is offered the candidate. -/
def MemfdWorker.InPhase (T : Tuple) (candidate : Candidate) (w : MemfdWorker) : Phase → Prop
  | .idle => w.transactionActive = false ∧ w.tuple = T
  | .active => w.transactionActive = true ∧ w.tuple = T ∧ w.previousTuple = T
  | .done => w.transactionActive = false ∧ w.tuple = candidateTuple candidate

section Callbacks

variable {T : Tuple} {candidate : Candidate} {w w' : MemfdWorker} {p : Phase} (event : MirrorEvent)

theorem MemfdWorker.InPhase.of_books (h : w.InPhase T candidate p) (hbooks : w'.books = w.books) :
    w'.InPhase T candidate p := by
  have hact := MemfdWorker.active_of_books hbooks
  have htuple := MemfdWorker.tuple_of_books hbooks
  have hprev := MemfdWorker.previousTuple_of_books hbooks
  cases p with
  | idle | done => exact ⟨hact.trans h.1, htuple.trans h.2⟩
  | active => exact ⟨hact.trans h.1, htuple.trans h.2.1, hprev.trans h.2.2⟩

theorem lifecyclePrepare_phase (h : w.InPhase T candidate .idle) :
    (w.lifecyclePrepare event).2.InPhase T candidate
      (if (w.lifecyclePrepare event).1 then .active else .idle) := by
  unfold MemfdWorker.lifecyclePrepare
  split
  · exact h
  · exact ⟨rfl, h.2, h.2⟩

theorem lifecycleQuiesce_phase (h : w.InPhase T candidate .active) :
    (w.lifecycleQuiesce event).2.InPhase T candidate .active := by
  unfold MemfdWorker.lifecycleQuiesce
  split <;> exact h

theorem lifecycleDrain_phase (h : w.InPhase T candidate .active) :
    (w.lifecycleDrain event).2.InPhase T candidate .active := by
  unfold MemfdWorker.lifecycleDrain
  split
  · exact h
  · split <;> exact h

/-- A commit that is taken is one of the candidate that was staged, whatever that was. -/
theorem lifecycleCommit_phase (h : w.InPhase T event.candidate .active) :
    (w.lifecycleCommit event).2.InPhase T event.candidate
      (if (w.lifecycleCommit event).1 then .done else .active) := by
  unfold MemfdWorker.lifecycleCommit
  split
  · exact h
  rename_i hstaged
  simp only [not_or, not_not] at hstaged
  obtain ⟨-, -, -, hgen, hident, hepoch⟩ := hstaged
  split
  · split
    · exact h
    · rename_i hrem
      simp only [not_or, not_not] at hrem
      refine ⟨rfl, ?_⟩
      simp only [candidateTuple, hgen, hident, hepoch, hrem]
      rfl
  · split
    · exact h
    · refine ⟨rfl, ?_⟩
      simp only [candidateTuple, hgen, hident, hepoch]
      rfl

theorem lifecycleAbort_phase (hp : p ≠ .done) (h : w.InPhase T candidate p) :
    (w.lifecycleAbort event).2.InPhase T candidate .idle := by
  unfold MemfdWorker.lifecycleAbort
  cases p with
  | idle => simpa [h.1] using h
  | active =>
    rw [if_pos h.1]
    exact ⟨rfl, h.2.2⟩
  | done => exact absurd rfl hp

end Callbacks

/-- The worker has a callback for every stage. -/
theorem memfd_total (stage : MirrorStage) (hstage : stage ≠ .publishLost) :
    (MemfdWorker.lifecycleMirror (V := V)).callback stage ≠ none := by
  cases stage with
  | publishLost => exact absurd rfl hstage
  | _ => exact Option.some_ne_none _

/-! ## 2. The other mirrors -/

/-- What may happen behind the worker's back: its books and the coordinator's tuple stay, it is not
brought online, and if the mirrors are called at all it is to tell them of a loss. -/
structure Undisturbed (h h' : Host (MemfdWorker × V)) : Prop where
  config : h'.coordinator.config = h.coordinator.config
  tuple : h'.coordinator.tuple = h.coordinator.tuple
  books : h'.world.1.books = h.world.1.books
  online : h'.world.1.online = true → h.world.1.online = true
  calls : ∃ told, h'.calls = h.calls ++ told ∧ ∀ c ∈ told, c.event.stage = .publishLost

theorem Undisturbed.refl (h : Host (MemfdWorker × V)) : Undisturbed h h :=
  ⟨rfl, rfl, rfl, id, [], by simp⟩

variable {h : Host (MemfdWorker × V)} {request : Request} (w : MemfdWorker)
  (c : Coordinator (MemfdWorker × V))

theorem Undisturbed.trans {h' h'' : Host (MemfdWorker × V)} (u : Undisturbed h h')
    (u' : Undisturbed h' h'') : Undisturbed h h'' := by
  obtain ⟨told, hcalls, htold⟩ := u.calls
  obtain ⟨told', hcalls', htold'⟩ := u'.calls
  refine ⟨u'.config.trans u.config, u'.tuple.trans u.tuple, u'.books.trans u.books,
    fun h => u.online (u'.online h), told ++ told', ?_, fun c hc => ?_⟩
  · rw [hcalls', hcalls, append_assoc]
  · rcases mem_append.1 hc with hc | hc
    · exact htold c hc
    · exact htold' c hc

/-- A mirror of another transport, under a coordinator with the configuration. -/
structure Foreign (config : Config (MemfdWorker × V)) (mirror : Mirror (MemfdWorker × V)) :
    Prop where
  callback : ∀ stage f, mirror.callback stage = some f → ∀ event h,
    h.coordinator.config = config → Undisturbed h (f event h).2
  publishLost : ∀ f, mirror.publishLost = some f → ∀ event h,
    h.coordinator.config = config → Undisturbed h (f event h)

/-- A memfd worker registered among other mirrors, and a clock that leaves the worker alone. -/
structure MemfdRig (V : Type) where
  mirrors : List (Mirror (MemfdWorker × V))
  index : Nat
  attached : mirrors[index]? = some MemfdWorker.lifecycleMirror
  config : Config (MemfdWorker × V)
  others : ∀ i mirror, i ≠ index → mirrors[i]? = some mirror → Foreign config mirror
  clockApart : ∀ clock, config.clock = some clock → ∀ world, (clock world).2.1 = world.1

theorem expired_undisturbed (rig : MemfdRig V)
    (hconfig : h.coordinator.config = rig.config) (deadlineTick : Nat) :
    Undisturbed h (expired deadlineTick h).2 := by
  unfold expired
  split
  · exact .refl h
  rename_i clock hclock
  split
  · exact .refl h
  · have hworker := rig.clockApart clock (hconfig ▸ hclock) h.world
    refine ⟨rfl, rfl, congrArg MemfdWorker.books hworker, fun honline => ?_, [], by simp⟩
    rw [← hworker]
    exact honline

/-! ## 3. The worker as a participant -/

section Loops

/-- The worker and the log, where the transaction started as `t₀` on the host `h₀` has come to `h`:
the worker is in phase `p`, and the log knows of its commit exactly in phase `done`. -/
structure Ledger (rig : MemfdRig V) (t₀ : Transaction) (h₀ : Host (MemfdWorker × V)) (p : Phase)
    (h : Host (MemfdWorker × V)) : Prop where
  worker : h.world.1.InPhase h₀.world.1.tuple t₀.candidate p
  config : h.coordinator.config = rig.config
  calls : ∃ made, h.calls = h₀.calls ++ made ∧ (committedIn made rig.index = true ↔ p = .done)

/-- With the coordinator still at the tuple it had. -/
structure Following (rig : MemfdRig V) (t₀ : Transaction) (h₀ : Host (MemfdWorker × V)) (p : Phase)
    (h : Host (MemfdWorker × V)) : Prop extends Ledger rig t₀ h₀ p h where
  tuple : h.coordinator.tuple = h₀.coordinator.tuple

variable {rig : MemfdRig V} {t₀ : Transaction} {h₀ h h' : Host (MemfdWorker × V)} {p q : Phase}
  {event : MirrorEvent}

/-- Nothing that leaves the worker undisturbed changes where the transaction has come to. -/
theorem Ledger.undisturbed (l : Ledger rig t₀ h₀ p h) (u : Undisturbed h h') :
    Ledger rig t₀ h₀ p h' := by
  obtain ⟨made, hcalls, hmade⟩ := l.calls
  obtain ⟨told, hcalls', htold⟩ := u.calls
  have hnone : committedIn told rig.index = false := by
    simp only [committedIn, any_eq_false, Bool.and_eq_true, not_and]
    intro c hc _
    simp [Call.commits, htold c hc]
  refine ⟨l.worker.of_books u.books, u.config.trans l.config, made ++ told, ?_, ?_⟩
  · rw [hcalls', hcalls, append_assoc]
  · rw [committedIn_append, hnone, Bool.or_false, hmade]

section

variable (f : Following rig t₀ h₀ p h)

include f

/-- A call is added to the log. -/
theorem Following.logged (hworker : h'.world.1.InPhase h₀.world.1.tuple t₀.candidate q) {c : Call}
    (hcoord : h'.coordinator = h.coordinator) (hcalls : h'.calls = h.calls ++ [c])
    (hdone : p = .done ∨ c.mirror = rig.index ∧ c.commits = true ↔ q = .done) :
    Following rig t₀ h₀ q h' := by
  obtain ⟨made, hmade, hcomm⟩ := f.calls
  refine ⟨⟨hworker, ?_, made ++ [c], ?_, ?_⟩, ?_⟩
  · rw [hcoord]
    exact f.config
  · rw [hcalls, hmade, append_assoc]
  · rw [committedIn_append, committedIn_singleton, ← hdone, ← hcomm]
    simp
  · rw [hcoord]
    exact f.tuple

/-- A call of another mirror. -/
theorem Following.foreign {i : Nat} (hi : i ≠ rig.index)
    {g : MirrorEvent → Host (MemfdWorker × V) → Bool × Host (MemfdWorker × V)}
    (u : Undisturbed h (g event h).2) : Following rig t₀ h₀ p (h.call i g event).2 := by
  have f' : Following rig t₀ h₀ p (g event h).2 := ⟨f.toLedger.undisturbed u, u.tuple.trans f.tuple⟩
  exact f'.logged f'.worker rfl rfl (by simp [hi])

/-- A call of the worker itself. -/
theorem Following.own (hp : p ≠ .done) {g : MirrorEvent → MemfdWorker → Bool × MemfdWorker}
    (hworker : (g event h.world.1).2.InPhase h₀.world.1.tuple t₀.candidate q)
    (hdone : event.stage = .commit ∧ (g event h.world.1).1 = true ↔ q = .done) :
    Following rig t₀ h₀ q (h.call rig.index (MemfdWorker.callback g) event).2 := by
  refine f.logged hworker rfl rfl ?_
  rw [← hdone]
  simp [hp, Call.commits, MemfdWorker.callback]

end

variable (rig t₀ h₀) in
/-- **The worker takes part in transactions**, and follows the candidate. -/
theorem memfd_participant :
    Participant rig.mirrors MemfdWorker.lifecycleMirror rig.index t₀ (fun _ => True)
      (Following rig t₀ h₀) where
  attached := rig.attached
  total := memfd_total
  clock := by
    refine fun tick h => ⟨id, fun p f => ?_⟩
    have u := expired_undisturbed rig f.config tick
    exact ⟨f.toLedger.undisturbed u, u.tuple.trans f.tuple⟩
  early := fun _ _ _ _ _ _ _ _ h => h
  own := by
    intro stage g hasks hg h _ f
    cases stage with
    | prepare =>
      cases hg
      exact f.own (by decide) (lifecyclePrepare_phase _ f.worker) answered_eq_done.symm
    | quiesce =>
      cases hg
      have hphase := lifecycleQuiesce_phase (t₀.event .quiesce) f.worker
      exact f.own (by decide) (by split <;> exact hphase) answered_eq_done.symm
    | drain =>
      cases hg
      have hphase := lifecycleDrain_phase (t₀.event .drain) f.worker
      exact f.own (by decide) (by split <;> exact hphase) answered_eq_done.symm
    | commit =>
      cases hg
      exact f.own (by decide) (lifecycleCommit_phase (t₀.event .commit) f.worker)
        answered_eq_done.symm
    | abort => exact absurd rfl hasks.1
    | publishLost => exact absurd rfl hasks.2
  ownAbort := by
    intro g hg p h hp f
    cases hg
    exact f.own hp (lifecycleAbort_phase (t₀.event .abort) hp f.worker)
      (by simp [Transaction.event])
  other := by
    intro i mirror stage g hi hmirror hg p h _ f
    exact f.foreign hi ((rig.others i mirror hi hmirror).callback stage g hg _ h f.config)

end Loops

/-! ## 4. One call of `apply` -/

section Calls

variable (rig : MemfdRig V) {t₀ t : Transaction} {h₀ h : Host (MemfdWorker × V)} {p : Phase}

/-- The mirrors are told of a loss: the worker is offline and otherwise undisturbed. -/
theorem publishLost_undisturbed (t : Transaction) (h : Host (MemfdWorker × V))
    (hconfig : h.coordinator.config = rig.config) :
    Undisturbed h (publishLost rig.mirrors t h) ∧
      (publishLost rig.mirrors t h).world.1.online = false := by
  have hlog : ∀ (g g' : Host (MemfdWorker × V)) c, Undisturbed g g' →
      c.event.stage = .publishLost → Undisturbed g { g' with calls := g'.calls ++ [c] } := by
    intro g g' c u hc
    refine u.trans ⟨rfl, rfl, rfl, id, [c], rfl, fun c' hc' => ?_⟩
    rw [mem_singleton.1 hc']
    exact hc
  have hrule : LostRule rig.mirrors t fun i h' => Undisturbed h h' ∧
      (rig.index < i → h'.world.1.online = false) := by
    refine ⟨?_, ?_⟩
    · rintro i mirror h' hmirror hnone ⟨u, hoffline⟩
      refine ⟨u, fun hlt => ?_⟩
      by_cases hi : i = rig.index
      · rw [hi, rig.attached] at hmirror
        cases hmirror
        cases hnone
      · exact hoffline (by omega)
    · rintro i mirror f h' hmirror hf ⟨u, hoffline⟩
      by_cases hi : i = rig.index
      · subst hi
        rw [rig.attached] at hmirror
        cases hmirror
        cases hf
        refine ⟨u.trans (hlog h' _ _ ?_ rfl), fun _ => rfl⟩
        exact ⟨rfl, rfl, rfl, nofun, [], (append_nil _).symm,
          fun _ hc => absurd hc not_mem_nil⟩
      · have uf := (rig.others i mirror hi hmirror).publishLost f hf (t.event .publishLost) h'
          (u.config.trans hconfig)
        refine ⟨u.trans (hlog h' _ _ uf rfl), fun hlt => ?_⟩
        have hoffline := hoffline (by omega)
        exact Bool.eq_false_iff.2 fun honline =>
          absurd (uf.online honline) (by simp [hoffline])
  have hlen : rig.index < rig.mirrors.length := (List.getElem?_eq_some_iff.1 rig.attached).1
  have hend := publishLost_rule hrule ⟨.refl h, fun hlt => absurd hlt (Nat.not_lt_zero _)⟩
  exact ⟨hend.1, hend.2 hlen⟩

/-- The calls that were made between two hosts. -/
def callsBetween (h h' : Host (MemfdWorker × V)) : List Call := h'.calls.drop h.calls.length

theorem callsBetween_eq {h' : Host (MemfdWorker × V)} {made : List Call}
    (hcalls : h'.calls = h.calls ++ made) : callsBetween h h' = made := by
  rw [callsBetween, hcalls, drop_left]

/-- How a call leaves the worker: nobody has moved; or the worker has committed and both are at one
tuple; or the coordinator has settled without it, and it is offline where it was. -/
structure Followed (h h' : Host (MemfdWorker × V)) (result : Result) : Prop where
  config : h'.coordinator.config = rig.config
  inactive : h'.world.1.transactionActive = false
  follows :
    (h'.world.1.tuple = h.world.1.tuple ∧ h'.coordinator.tuple = h.coordinator.tuple) ∨
    (h'.world.1.tuple = h'.coordinator.tuple ∧
      committedIn (callsBetween h h') rig.index = true) ∨
    (h'.world.1.tuple = h.world.1.tuple ∧ h'.world.1.online = false ∧ result ≠ .accepted ∧
      committedIn (callsBetween h h') rig.index = false)

variable {rig} {d : Coordinator (MemfdWorker × V)}

theorem Ledger.committed_iff (l : Ledger rig t₀ h₀ p h) :
    committedIn (callsBetween h₀ h) rig.index = true ↔ p = .done := by
  obtain ⟨made, hmade, hcomm⟩ := l.calls
  rw [callsBetween_eq hmade]
  exact hcomm

/-- The worker has committed, and so has the coordinator. -/
theorem Ledger.moved (l : Ledger rig t₀ h₀ .done h)
    (hconfig : d.config = h.coordinator.config) (htuple : d.tuple = candidateTuple t₀.candidate)
    (result : Result) : Followed rig h₀ { h with coordinator := d } result :=
  ⟨hconfig.trans l.config, l.worker.1,
    .inr (.inl ⟨l.worker.2.trans htuple.symm, l.committed_iff.2 rfl⟩)⟩

/-- The worker is back where it was, offline, and the transaction has failed. -/
theorem Ledger.forced (l : Ledger rig t₀ h₀ .idle h)
    (hconfig : d.config = h.coordinator.config) (hoffline : h.world.1.online = false)
    {result : Result} (hres : result ≠ .accepted) :
    Followed rig h₀ { h with coordinator := d } result := by
  refine ⟨hconfig.trans l.config, l.worker.1, .inr (.inr ⟨l.worker.2, hoffline, hres, ?_⟩)⟩
  exact Bool.eq_false_iff.2 fun h => absurd (l.committed_iff.1 h) (by decide)

/-- The worker is back where it was, and so is the coordinator. -/
theorem Following.kept (f : Following rig t₀ h₀ .idle h) (result : Result) :
    Followed rig h₀ h result :=
  ⟨f.config, f.worker.1, .inl ⟨f.worker.2, f.tuple⟩⟩

theorem prepared_tuple (operation : Operation) :
    (c.prepared operation).tuple = c.tuple ∧ (c.prepared operation).config = c.config := by
  cases operation <;> exact ⟨rfl, rfl⟩

/-- An operation that is settled forward takes the coordinator to the candidate. -/
theorem advance_tuple {c : Coordinator (MemfdWorker × V)}
    (hstart : c.Startable request.operation) (hloss : request.operation ≠ .transportLoss)
    (hd : d.tuple = c.tuple) (state : State) :
    (c.advance request.operation state d).tuple = candidateTuple (c.planned request).candidate ∧
      (c.advance request.operation state d).config = d.config := by
  have hepoch : d.epoch = c.epoch := congrArg Tuple.epoch hd
  unfold Coordinator.advance Coordinator.planned
  cases hop : request.operation <;> rw [hop] at hstart hloss
  case add => exact ⟨congrArg (Tuple.mk _ _) hepoch, rfl⟩
  case remove | reset | recover => exact ⟨rfl, rfl⟩
  case transportLoss => exact absurd rfl hloss
  case outOfRange => exact absurd hstart id

/-- The worker is told of the loss and the coordinator has gone on: it is with the worker if that
has committed. -/
theorem Ledger.lost (l : Ledger rig t₀ h₀ p h) (t : Transaction)
    (hconfig : d.config = (publishLost rig.mirrors t h).coordinator.config)
    (hp : p = .idle ∨ p = .done ∧ d.tuple = candidateTuple t₀.candidate) :
    Followed rig h₀ { publishLost rig.mirrors t h with coordinator := d } t.failure := by
  obtain ⟨u, hoffline⟩ := publishLost_undisturbed rig t h l.config
  have l' := l.undisturbed u
  rcases hp with rfl | ⟨rfl, htuple⟩
  · exact l'.forced hconfig hoffline t.failure_ne_accepted
  · exact l'.moved hconfig htuple _

section

variable {c} (hstart : c.Startable request.operation)
  (hloss : request.operation ≠ .transportLoss)

include hstart hloss

/-- A removal that fails: the worker is told, and the coordinator goes on from there. -/
theorem Ledger.lost_then
    (l : Ledger rig (c.planned request) h₀ p h) (hp : p = .idle ∨ p = .done) (t : Transaction)
    (htuple : h.coordinator.tuple = c.tuple) :
    Followed rig h₀
      ((publishLost rig.mirrors t h).update (c.advance request.operation .lost)) t.failure := by
  obtain ⟨u, -⟩ := publishLost_undisturbed rig t h l.config
  obtain ⟨hforward, hconfig⟩ := advance_tuple hstart hloss (u.tuple.trans htuple) .lost
  exact l.lost t hconfig (hp.imp_right fun hdone => ⟨hdone, hforward⟩)

/-- A commit torn between mirrors: the coordinator goes on, and the worker is told. -/
theorem Ledger.then_lost
    (l : Ledger rig (c.planned request) h₀ p h) (hp : p = .idle ∨ p = .done) (t : Transaction)
    (htuple : h.coordinator.tuple = c.tuple) :
    Followed rig h₀
      (publishLost rig.mirrors t (h.update (c.advance request.operation .lost))) t.failure := by
  obtain ⟨hforward, hconfig⟩ := advance_tuple hstart hloss htuple .lost
  obtain ⟨u, -⟩ := publishLost_undisturbed rig t (h.update (c.advance request.operation .lost))
    (hconfig.trans l.config)
  have l' : Ledger rig (c.planned request) h₀ p (h.update (c.advance request.operation .lost)) :=
    ⟨l.worker, hconfig.trans l.config, l.calls⟩
  exact l'.lost t rfl (hp.imp_right fun hdone => ⟨hdone, u.tuple.trans hforward⟩)

/-- The transaction is settled, by its ending: a worker that has committed is with the coordinator,
and one that has not is where it was. -/
theorem settle_followed
    {ended : Transacted (MemfdWorker × V)} (htuple₀ : h₀.coordinator.tuple = c.tuple)
    (hended : ended.Satisfies
      (fun t h => t.core = (c.planned request).core ∧ Following rig (c.planned request) h₀ .idle h)
      (fun t h => t.core = (c.planned request).core ∧
        (Following rig (c.planned request) h₀ .idle h ∨
          Following rig (c.planned request) h₀ .done h ∧ t.committedCount ≠ 0))
      (fun t h => t.core = (c.planned request).core ∧
        Following rig (c.planned request) h₀ .done h)) :
    Followed rig h₀ (settle rig.mirrors c request.operation ended).2
      (settle rig.mirrors c request.operation ended).1.result := by
  obtain ⟨ending, t, g⟩ := ended
  cases ending with
  | committed =>
    obtain ⟨-, f⟩ := hended
    obtain ⟨htuple, hconfig⟩ := advance_tuple hstart hloss (f.tuple.trans htuple₀) .online
    exact f.toLedger.moved hconfig htuple _
  | stopped =>
    obtain ⟨-, f⟩ := hended
    simp only [settle]
    split_ifs with hrem
    · have l : Ledger rig (c.planned request) h₀ .idle (g.update (·.setState .lost)) :=
        ⟨f.worker, f.config, f.calls⟩
      exact l.lost_then hstart hloss (.inl rfl) t (f.tuple.trans htuple₀)
    · exact f.kept _
  | refused =>
    obtain ⟨⟨-, f | ⟨-, hcount⟩⟩, hnone⟩ := hended
    · simp only [settle]
      split_ifs with hrem
      · exact f.toLedger.lost_then hstart hloss (.inl rfl) t (f.tuple.trans htuple₀)
      · exact f.kept _
    · exact absurd hnone hcount
  | torn =>
    have hphase : ∃ p, (p = .idle ∨ p = .done) ∧ Following rig (c.planned request) h₀ p g := by
      rcases hended.1.2 with f | ⟨f, -⟩
      · exact ⟨_, .inl rfl, f⟩
      · exact ⟨_, .inr rfl, f⟩
    obtain ⟨p, hp, f⟩ := hphase
    simp only [settle]
    split_ifs with hrem
    · exact f.toLedger.lost_then hstart hloss hp t (f.tuple.trans htuple₀)
    · exact f.toLedger.then_lost hstart hloss hp t (f.tuple.trans htuple₀)

end

variable (rig) in
theorem dispatch_followed (request : Request) (hconfig : h.coordinator.config = rig.config)
    (hidle : h.world.1.transactionActive = false) :
    Followed rig h (dispatch rig.mirrors request h).2
    (dispatch rig.mirrors request h).1.result := by
  by_cases hstart : h.coordinator.Startable request.operation
  · by_cases hloss : request.operation = .transportLoss
    · rw [dispatch_of_loss rig.mirrors hstart hloss]
      obtain ⟨u, -⟩ := publishLost_undisturbed rig (h.coordinator.planned request)
        (h.update (·.setState .lost)) hconfig
      exact ⟨u.config.trans hconfig, (MemfdWorker.active_of_books u.books).trans hidle,
        .inl ⟨MemfdWorker.tuple_of_books u.books, u.tuple⟩⟩
    · obtain ⟨htuple, hconfig'⟩ := prepared_tuple h.coordinator request.operation
      obtain ⟨-, hnew, -⟩ := h.coordinator.planned_new request
      set h₀ : Host (MemfdWorker × V) :=
        { h with coordinator := h.coordinator.prepared request.operation } with hh₀
      have hbegin : Following rig (h.coordinator.planned request) h₀ .idle h₀ :=
        ⟨⟨⟨hidle, rfl⟩, hconfig'.trans hconfig, [], (append_nil _).symm,
          by simp [committedIn]⟩, rfl⟩
      have hended := transact_participant
        (memfd_participant rig (h.coordinator.planned request) h₀) hnew trivial hbegin
      rw [dispatch_of_startable rig.mirrors hstart hloss]
      have hfollowed := settle_followed hstart hloss htuple hended
      refine ⟨hfollowed.config, hfollowed.inactive, ?_⟩
      rw [← htuple]
      exact hfollowed.follows
  · obtain ⟨-, hhost⟩ := dispatch_of_not_startable rig.mirrors hstart
    rw [hhost]
    exact ⟨hconfig, hidle, .inl ⟨rfl, rfl⟩⟩

/-- The clock leaves the worker alone. -/
theorem ticks_worker {world world' : MemfdWorker × V} (hticks : rig.config.Ticks world world') :
    world'.1 = world.1 := by
  induction hticks with
  | refl => rfl
  | tail _ htick ih =>
    obtain ⟨clock, hclock, rfl⟩ := htick
    exact (rig.clockApart clock hclock _).trans ih

variable (rig) in
/-- **One call of `apply`**, from any host in which the worker has no transaction. -/
theorem apply_followed (request : Request) (hconfig : h.coordinator.config = rig.config)
    (hidle : h.world.1.transactionActive = false) :
    Followed rig h (apply rig.mirrors request h).2 (apply rig.mirrors request h).1.result := by
  obtain ⟨world, hticks, hscreen⟩ := screen_cases request h
  rw [hconfig] at hticks
  have hworker := ticks_worker hticks
  have hidle' : world.1.transactionActive = false := by rw [hworker]; exact hidle
  rcases hscreen with ⟨answer, hscreen, -⟩ | ⟨-, hscreen⟩
  · rw [apply_of_error rig.mirrors hscreen]
    exact ⟨hconfig, hidle', .inl ⟨congrArg MemfdWorker.tuple hworker, rfl⟩⟩
  rw [apply_of_ok rig.mirrors hscreen]
  have hfollowed := dispatch_followed rig (h := { h with world }) request hconfig hidle'
  refine ⟨hfollowed.config, hfollowed.inactive, ?_⟩
  have hfollows := hfollowed.follows
  rw [hworker] at hfollows
  exact hfollows

end Calls

/-! ## 5. Over whole runs -/

/-- A loss reported from inside a callback of another mirror leaves the worker undisturbed. -/
theorem loss_undisturbed (rig : MemfdRig V)
    (hconfig : h.coordinator.config = rig.config) (hloss : request.operation = .transportLoss) :
    Undisturbed h (apply rig.mirrors request h).2 := by
  obtain ⟨world, hticks, hscreen⟩ := screen_cases request h
  rw [hconfig] at hticks
  have hworker := ticks_worker hticks
  have hclock : Undisturbed h { h with world } :=
    ⟨rfl, rfl, congrArg MemfdWorker.books hworker, fun honline => hworker ▸ honline, [],
      by simp⟩
  rcases hscreen with ⟨answer, hscreen, -⟩ | ⟨-, hscreen⟩
  · rw [apply_of_error rig.mirrors hscreen]
    exact hclock
  rw [apply_of_ok rig.mirrors hscreen]
  have hrecord : ∀ (g : Host (MemfdWorker × V)) details,
      Undisturbed g (g.update (·.rememberRequest request details)) := fun g _ =>
    ⟨rfl, rfl, rfl, id, [], by simp [Host.update]⟩
  refine (hclock.trans ?_).trans (hrecord _ _)
  by_cases hstart : h.coordinator.Startable request.operation
  · rw [dispatch_of_loss rig.mirrors (h := { h with world }) hstart hloss]
    have hlost : Undisturbed { h with world }
        (({ h with world }).update (·.setState .lost)) :=
      ⟨rfl, rfl, rfl, id, [], by simp [Host.update]⟩
    exact hlost.trans (publishLost_undisturbed rig _
      (({ h with world }).update (·.setState .lost)) hconfig).1
  · obtain ⟨-, hhost⟩ := dispatch_of_not_startable rig.mirrors (h := { h with world }) hstart
    rw [hhost]
    exact .refl _

inductive MemfdMove (V : Type) where
  | apply (request : Request)
  | submit (requestGeneration : Nat)
  | completeOne
  | drift (f : V → V)

def MemfdRig.turn (rig : MemfdRig V) (h : Host (MemfdWorker × V)) :
    MemfdMove V → Host (MemfdWorker × V)
  | .apply request => (Lifecycle.apply rig.mirrors request h).2
  | .submit requestGeneration =>
    { h with world := ((h.world.1.submit requestGeneration).2, h.world.2) }
  | .completeOne => { h with world := (h.world.1.completeOne.2, h.world.2) }
  | .drift f => { h with world := (h.world.1, f h.world.2) }

/-- The call moved the coordinator's tuple without being accepted, and without the worker's commit
having answered `true`. -/
def MemfdRig.Forced (rig : MemfdRig V) (h : Host (MemfdWorker × V)) : MemfdMove V → Prop
  | .apply request =>
    (Lifecycle.apply rig.mirrors request h).1.result ≠ .accepted ∧
      (Lifecycle.apply rig.mirrors request h).2.coordinator.tuple ≠ h.coordinator.tuple ∧
      committedIn (callsBetween h (Lifecycle.apply rig.mirrors request h).2) rig.index = false
  | _ => False

/-- The worker and the coordinator as they are when the worker is attached: at one tuple. -/
def attachAt (c : Coordinator (MemfdWorker × V)) (v : V) : Host (MemfdWorker × V) :=
  { coordinator := c
    world := (MemfdWorker.start c.identityRecordId c.generation c.epoch, v) }

/-- Requests do not touch the books. -/
theorem submit_books (requestGeneration : Nat) :
    (w.submit requestGeneration).2.books = w.books := by
  unfold MemfdWorker.submit
  split_ifs <;> rfl

theorem completeOne_books : w.completeOne.2.books = w.books := by
  unfold MemfdWorker.completeOne
  split <;> rfl

/-- A move of the run, from any host in which the worker has no transaction. -/
theorem turn_followed (rig : MemfdRig V) (h : Host (MemfdWorker × V)) (move : MemfdMove V)
    (hconfig : h.coordinator.config = rig.config) (hidle : h.world.1.transactionActive = false) :
    (rig.turn h move).coordinator.config = rig.config ∧
    (rig.turn h move).world.1.transactionActive = false ∧
    (¬ rig.Forced h move → h.world.1.tuple = h.coordinator.tuple →
      (rig.turn h move).world.1.tuple = (rig.turn h move).coordinator.tuple) ∧
    (rig.Forced h move → (rig.turn h move).world.1.online = false) := by
  cases move with
  | apply request =>
    have hfollowed := apply_followed rig request hconfig hidle
    refine ⟨hfollowed.config, hfollowed.inactive, fun hforced hagree => ?_, fun hforced => ?_⟩
    · rcases hfollowed.follows with ⟨hworker, hcoord⟩ | ⟨htogether, -⟩ |
        ⟨hworker, -, hres, hcomm⟩
      · exact (hworker.trans hagree).trans hcoord.symm
      · exact htogether
      · -- the coordinator cannot have moved, or the settlement was forced
        have hcoord := not_and.1 (not_and.1 hforced hres)
        have hcoord := Decidable.not_not.1 fun hmoved => hcoord hmoved hcomm
        exact (hworker.trans hagree).trans hcoord.symm
    · obtain ⟨-, hmoved, hcomm⟩ := hforced
      rcases hfollowed.follows with ⟨-, hcoord⟩ | ⟨-, htaken⟩ | ⟨-, hoffline, -⟩
      · exact absurd hcoord hmoved
      · rw [htaken] at hcomm
        cases hcomm
      · exact hoffline
  | submit requestGeneration =>
    have hbooks := submit_books h.world.1 requestGeneration
    exact ⟨hconfig, (MemfdWorker.active_of_books hbooks).trans hidle,
      fun _ hagree => (MemfdWorker.tuple_of_books hbooks).trans hagree, False.elim⟩
  | completeOne =>
    have hbooks := completeOne_books h.world.1
    exact ⟨hconfig, (MemfdWorker.active_of_books hbooks).trans hidle,
      fun _ hagree => (MemfdWorker.tuple_of_books hbooks).trans hagree, False.elim⟩
  | drift => exact ⟨hconfig, hidle, fun _ hagree => hagree, False.elim⟩

/-- The worker validates the old tuple of a transaction exactly if it holds the coordinator's. -/
theorem matchesOld_planned (request : Request) (stage : MirrorStage) :
    w.matchesOld ((c.planned request).event stage) = true ↔ w.tuple = c.tuple := by
  have hold : ((c.planned request).event stage).oldIdentityRecordId = c.identityRecordId ∧
      ((c.planned request).event stage).oldGeneration = c.generation ∧
      ((c.planned request).event stage).oldEpoch = c.epoch := by
    unfold Coordinator.planned
    split <;> exact ⟨rfl, rfl, rfl⟩
  simp only [MemfdWorker.matchesOld, hold, decide_eq_true_eq, MemfdWorker.tuple, Coordinator.tuple,
    Tuple.mk.injEq, @eq_comm Nat]

/-- **The worker follows the coordinator.**  In any run from a coordinator and a worker at one
tuple: the worker has no transaction after any move; as long as no settlement was forced past it, it
holds the coordinator's tuple, and so does not refuse any transaction for a stale one; and a
settlement that is forced past it leaves it offline. -/
theorem memfd_agreement (rig : MemfdRig V) (c : Coordinator (MemfdWorker × V))
    (hconfig : c.config = rig.config) (v : V) (moves : List (MemfdMove V)) :
    let h := run rig.turn (attachAt c v) moves
    h.world.1.transactionActive = false ∧
    (Along rig.turn (fun h move => ¬ rig.Forced h move) (attachAt c v) moves →
      h.world.1.tuple = h.coordinator.tuple ∧
      ∀ request, h.world.1.matchesOld ((h.coordinator.planned request).event .prepare) = true) ∧
    (∀ move, rig.Forced h move → (rig.turn h move).world.1.online = false) := by
  intro h
  have hinv : h.coordinator.config = rig.config ∧ h.world.1.transactionActive = false :=
    run_induction (P := fun h : Host (MemfdWorker × V) => h.coordinator.config = rig.config ∧
      h.world.1.transactionActive = false)
      (fun h move hh =>
        let hturn := turn_followed rig h move hh.1 hh.2
        ⟨hturn.1, hturn.2.1⟩) moves ⟨hconfig, rfl⟩
  refine ⟨hinv.2, fun halong => ?_, fun move => (turn_followed rig h move hinv.1 hinv.2).2.2.2⟩
  have hagree : (h.coordinator.config = rig.config ∧ h.world.1.transactionActive = false) ∧
      h.world.1.tuple = h.coordinator.tuple :=
    run_induction_along (P := fun h : Host (MemfdWorker × V) =>
      (h.coordinator.config = rig.config ∧ h.world.1.transactionActive = false) ∧
        h.world.1.tuple = h.coordinator.tuple)
      (fun h move hh hforced =>
        let hturn := turn_followed rig h move hh.1.1 hh.1.2
        ⟨⟨hturn.1, hturn.2.1⟩, hturn.2.2.1 hforced hh.2⟩)
      moves ⟨⟨hconfig, rfl⟩, rfl⟩ halong
  exact ⟨hagree.2, fun request => (matchesOld_planned _ _ request .prepare).2 hagree.2⟩

/-- The worker as the only mirror, without a clock. -/
def soloRig : MemfdRig Unit where
  mirrors := [MemfdWorker.lifecycleMirror]
  index := 0
  attached := rfl
  others := by
    intro i mirror hi hmirror
    obtain ⟨j, rfl⟩ := Nat.exists_eq_succ_of_ne_zero hi
    cases hmirror
  config := {}
  clockApart := nofun

theorem memfd_agreement_reset :
    Along soloRig.turn (fun h move => ¬ soloRig.Forced h move) (attachAt (.init {}) ())
      [.submit 1, .completeOne, .apply resetRequest] ∧
    (run soloRig.turn (attachAt (.init {}) ())
        [.submit 1, .completeOne, .apply resetRequest]).world.1.tuple =
      (run soloRig.turn (attachAt (.init {}) ())
        [.submit 1, .completeOne, .apply resetRequest]).coordinator.tuple := by
  have halong : Along soloRig.turn (fun h move => ¬ soloRig.Forced h move) (attachAt (.init {}) ())
      [.submit 1, .completeOne, .apply resetRequest] :=
    ⟨id, id, fun hforced => absurd rfl hforced.1, trivial⟩
  exact ⟨halong, ((memfd_agreement soloRig (.init {}) rfl ()
    [.submit 1, .completeOne, .apply resetRequest]).2.1 halong).1⟩

/-- **A removal is forced past a worker that is not drained**: the coordinator is absent, the worker
keeps its tuple, and an `add` is refused by it for a stale one. -/
theorem forced_remove_disagrees :
    let remove : Request := { resetRequest with operation := .remove }
    let add : Request :=
      { resetRequest with requestId := 2, operation := .add, expectedIdentityRecordId := 0
                          expectedGeneration := 0, expectedEpoch := 2 }
    let h := run soloRig.turn (attachAt (.init {}) ()) [.submit 1, .apply remove]
    h.world.1.tuple ≠ h.coordinator.tuple ∧
    h.world.1.matchesOld ((h.coordinator.planned add).event .prepare) = false ∧
    (Lifecycle.apply soloRig.mirrors add h).1.result = .callbackRejected := by
  decide

end MetaFlux.Transport
