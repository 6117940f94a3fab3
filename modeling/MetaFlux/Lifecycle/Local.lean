/-
# Mirrors that do not call back

The results on the coordinator alone are about mirrors that answer as they like but do not call the
coordinator from inside a callback (`Mirror.Local`; `LocalMirrors` carries the proof).  For those a
whole transaction leaves the coordinator untouched until it is settled, and the log says exactly who
was asked what:

* `Asked`: the masks and the count of a transaction are the log read back: who was called, and who
  answered a commit with `true`;
* `Unwound`: the abort goes to the mirrors that were called and have not committed, each once;
* `transact_local`: the ENDING of a transaction is decided by the commit answers alone: `committed`
  if every mirror that has a commit callback answered `true`, once; `torn` if only some did;
  `stopped` or `refused` if none did.
-/
import MetaFlux.Lifecycle.Rules

namespace MetaFlux.Lifecycle

open Base List

variable {W : Type} {mirrors : List (Mirror W)}

/-! ## 1. Local mirrors -/

/-- No callback of the mirror touches the coordinator, nor the log of its calls. -/
structure Mirror.Local (mirror : Mirror W) : Prop where
  callback : ∀ stage f, mirror.callback stage = some f → ∀ event h,
    (f event h).2.coordinator = h.coordinator ∧ (f event h).2.calls = h.calls
  publishLost : ∀ f, mirror.publishLost = some f → ∀ event h,
    (f event h).coordinator = h.coordinator ∧ (f event h).calls = h.calls

structure LocalMirrors (W : Type) where
  mirrors : List (Mirror W)
  isLocal : ∀ mirror ∈ mirrors, mirror.Local

theorem LocalMirrors.local_at (m : LocalMirrors W) {i : Nat} {mirror : Mirror W}
    (h : m.mirrors[i]? = some mirror) : mirror.Local :=
  m.isLocal mirror (mem_of_getElem? h)

/-- The part of a transaction that its stages leave alone. -/
def Transaction.core (transaction : Transaction) : Transaction :=
  { transaction with touchedMask := 0, committedMask := 0, committedCount := 0, timedOut := false }

variable {t : Transaction}

/-- The events of a transaction are made from its core. -/
theorem Transaction.event_of_core {t' : Transaction} (h : t'.core = t.core)
    (stage : MirrorStage) : t'.event stage = t.event stage := by
  have hevent : ∀ u : Transaction, u.event stage = u.core.event stage := by
    intro u
    cases stage <;> rfl
  rw [hevent t', hevent t, h]

theorem Transaction.core_agreed (t : Transaction) (stage : MirrorStage) (index : Nat) :
    (t.agreed stage index).core = t.core := by
  unfold Transaction.agreed
  split <;> rfl

/-- The calls `made` were added to the log and nothing else happened to the coordinator. -/
structure Quiet (h h' : Host W) (made : List Call) : Prop where
  coordinator : h'.coordinator = h.coordinator
  calls : h'.calls = h.calls ++ made

variable {h : Host W} {made : List Call}

theorem Quiet.trans {h' h'' : Host W} {made' : List Call} (q : Quiet h h' made)
    (q' : Quiet h' h'' made') : Quiet h h'' (made ++ made') := by
  refine ⟨q'.coordinator.trans q.coordinator, ?_⟩
  rw [q'.calls, q.calls, append_assoc]

theorem call_quiet {f : MirrorEvent → Host W → Bool × Host W}
    (hf : ∀ event h, (f event h).2.coordinator = h.coordinator ∧ (f event h).2.calls = h.calls)
    (event : MirrorEvent) (i : Nat) (h : Host W) :
    Quiet h (h.call i f event).2
      [{ mirror := i, event, answer := (h.call i f event).1 }] := by
  obtain ⟨hcoord, hcalls⟩ := hf event h
  refine ⟨hcoord, ?_⟩
  change (f event h).2.calls ++ _ = _
  rw [hcalls]
  rfl

/-! ## 2. The log of a transaction -/

/-- The call is a commit that was taken. -/
def Call.commits (c : Call) : Bool := decide (c.event.stage = .commit) && c.answer

/-- The stages that wait for an answer. -/
def MirrorStage.asks (stage : MirrorStage) : Prop := stage ≠ .abort ∧ stage ≠ .publishLost
deriving Decidable

def calledIn (made : List Call) (i : Nat) : Bool := made.any fun c => decide (c.mirror = i)

def committedIn (made : List Call) (i : Nat) : Bool :=
  made.any fun c => decide (c.mirror = i) && c.commits

theorem committedIn_append (made made' : List Call) (i : Nat) :
    committedIn (made ++ made') i = (committedIn made i || committedIn made' i) :=
  any_append

theorem committedIn_singleton (c : Call) (i : Nat) :
    committedIn [c] i = (decide (c.mirror = i) && c.commits) := by
  simp [committedIn]

def callsOf (stage : MirrorStage) (made : List Call) : List Call :=
  made.filter fun c => decide (c.event.stage = stage)

/-- The transaction has made the calls `made` and nothing else, and its masks say which. -/
structure Asked (t₀ : Transaction) (h₀ : Host W) (t : Transaction) (h : Host W)
    (made : List Call) : Prop where
  quiet : Quiet h₀ h made
  core : t.core = t₀.core
  touched : ∀ i, t.touchedMask.testBit i = calledIn made i
  committed : ∀ i, t.committedMask.testBit i = committedIn made i
  count : t.committedCount = made.countP Call.commits
  events : ∀ c ∈ made, ∃ stage, stage.asks ∧ c.event = t₀.event stage

section Asked

variable {t₀ t : Transaction} {h₀ h : Host W} {stage : MirrorStage}
  {f : MirrorEvent → Host W → Bool × Host W}

theorem Asked.start (hnew : t₀.touchedMask = 0 ∧ t₀.committedMask = 0 ∧ t₀.committedCount = 0)
    (h₀ : Host W) : Asked t₀ h₀ t₀ h₀ [] := by
  refine ⟨⟨rfl, (append_nil _).symm⟩, rfl, fun i => ?_, fun i => ?_, hnew.2.2, ?_⟩
  · simp [hnew.1, calledIn]
  · simp [hnew.2.1, committedIn]
  · exact fun c hc => absurd hc not_mem_nil

/-- The call that is logged when the transaction asks a mirror. -/
def Transaction.ask (t₀ : Transaction) (stage : MirrorStage) (i : Nat) (answer : Bool) : Call :=
  { mirror := i, event := t₀.event stage, answer }

/-- One more call, taken or not. -/
theorem Asked.call (asked : Asked t₀ h₀ t h made) (hasks : stage.asks)
    (hf : ∀ event h, (f event h).2.coordinator = h.coordinator ∧ (f event h).2.calls = h.calls)
    (i : Nat) {answer : Bool} (hanswer : (h.call i f ((t.touch i).event stage)).1 = answer) :
    Asked t₀ h₀ (if answer then t.agreed stage i else t.touch i)
      (h.call i f ((t.touch i).event stage)).2 (made ++ [t₀.ask stage i answer]) := by
  have hevent : (t.touch i).event stage = t₀.event stage :=
    Transaction.event_of_core asked.core stage
  have hquiet := asked.quiet.trans (call_quiet hf ((t.touch i).event stage) i h)
  have hcommits : (t₀.ask stage i answer).commits = (decide (stage = .commit) && answer) := rfl
  refine ⟨?_, ?_, fun j => ?_, fun j => ?_, ?_, fun c hc => ?_⟩
  · rw [hanswer, hevent] at hquiet
    rw [hevent]
    exact hquiet
  · cases answer
    · exact asked.core
    · exact (Transaction.core_agreed t stage i).trans asked.core
  · have htouch := Transaction.touchedMask_touch t i j
    have hmask : (if answer then t.agreed stage i else t.touch i).touchedMask =
        (t.touch i).touchedMask := by
      unfold Transaction.agreed
      split_ifs <;> rfl
    rw [hmask, htouch, asked.touched j]
    simp [calledIn, Transaction.ask]
  · have hlog : committedIn (made ++ [t₀.ask stage i answer]) j =
        (t.committedMask.testBit j ||
        (decide (i = j) && (decide (stage = .commit) && answer))) := by
      rw [asked.committed j, committedIn_append, committedIn_singleton]
      rfl
    have hcommit := Transaction.committedMask_commitAt (t.touch i) i j
    have htouch : (t.touch i).committedMask = t.committedMask := rfl
    rw [hlog]
    unfold Transaction.agreed
    split_ifs with hyes hstage
    · simp [hcommit, htouch, hstage, hyes]
    · simp [htouch, hstage]
    · simp [htouch, hyes]
  · rw [countP_append, ← asked.count]
    unfold Transaction.agreed
    split_ifs <;> simp_all [Transaction.touch, Transaction.commitAt]
  · rcases mem_append.1 hc with hc | hc
    · exact asked.events c hc
    · rw [mem_singleton.1 hc]
      exact ⟨stage, hasks, rfl⟩

end Asked

/-! ## 3. The stages and the abort -/

/-- One more mirror adds its index, if it is among those looked for. -/
theorem findIdxs_take_succ {α : Type} (p : α → Bool) {l : List α} {i : Nat} {a : α}
    (h : l[i]? = some a) :
    (l.take (i + 1)).findIdxs p = (l.take i).findIdxs p ++ if p a then [i] else [] := by
  have hlt : i < l.length := (List.getElem?_eq_some_iff.1 h).1
  rw [List.take_add_one, h]
  simp [Nat.min_eq_left (Nat.le_of_lt hlt)]

section Transact

variable (m : LocalMirrors W) (t₀ : Transaction) (h₀ : Host W)

/-- The commit has been taken by every mirror before index `i`, once. -/
def takenUpTo (i : Nat) : List Call :=
  ((m.mirrors.take i).findIdxs fun mirror => mirror.commit.isSome).map (t₀.ask .commit · true)

/-- The assertion of a stage: nothing but calls, and the commits are those of the mirrors that have
been passed in the commit stage. -/
def Stage (stage : MirrorStage) (i : Nat) (t : Transaction) (h : Host W) : Prop :=
  ∃ made, Asked t₀ h₀ t h made ∧
    callsOf .commit made = if stage = .commit then takenUpTo m t₀ i else []

/-- A transaction that has failed, before its abort. -/
def Failed (t : Transaction) (h : Host W) : Prop := ∃ made, Asked t₀ h₀ t h made

def FailedEarly (t : Transaction) (h : Host W) : Prop :=
  ∃ made, Asked t₀ h₀ t h made ∧ callsOf .commit made = []

variable {m t₀ h₀}

theorem callsOf_append_ask (made : List Call) (stage stage' : MirrorStage) (i : Nat)
    (answer : Bool) : callsOf stage (made ++ [t₀.ask stage' i answer]) =
      callsOf stage made ++ if stage' = stage then [t₀.ask stage' i answer] else [] := by
  have hstage : (t₀.ask stage' i answer).event.stage = stage' := rfl
  rw [callsOf, filter_append, filter_singleton, hstage]
  by_cases h : stage' = stage <;> simp [callsOf]

/-- A clock reading keeps what has been asked. -/
theorem Asked.clock (asked : Asked t₀ h₀ t h made)
    (deadlineTick : Nat) : Asked t₀ h₀ t (expired deadlineTick h).2 made := by
  obtain ⟨world, hworld, -⟩ := expired_frame deadlineTick h
  rw [hworld]
  exact { asked with quiet := ⟨asked.quiet.coordinator, asked.quiet.calls⟩ }

theorem stage_early {stage : MirrorStage} (hasks : stage.asks) (hstage : stage ≠ .commit) :
    StageRule m.mirrors stage (Stage m t₀ h₀ stage) (FailedEarly t₀ h₀) where
  clock := fun i t h ⟨made, asked, hcommits⟩ => ⟨made, asked.clock _, hcommits⟩
  late := fun i t h ⟨made, asked, hcommits⟩ =>
    ⟨made, { asked with }, by simpa [hstage] using hcommits⟩
  skip :=
    fun i mirror t h _ _ ⟨made, asked, hcommits⟩ => ⟨made, asked, by simpa [hstage] using hcommits⟩
  agree := by
    rintro i mirror f t h hmirror hf ⟨made, asked, hcommits⟩ hyes
    refine ⟨_, asked.call hasks ((m.local_at hmirror).callback stage f hf) i hyes, ?_⟩
    rw [callsOf_append_ask, if_neg hstage, if_neg hstage, hcommits, if_neg hstage]
    rfl
  refuse := by
    rintro i mirror f t h hmirror hf ⟨made, asked, hcommits⟩ hno
    refine ⟨_, asked.call hasks ((m.local_at hmirror).callback stage f hf) i hno, ?_⟩
    rw [callsOf_append_ask, if_neg hstage, hcommits, if_neg hstage]
    rfl

theorem stage_commit : StageRule m.mirrors .commit (Stage m t₀ h₀ .commit) (Failed t₀ h₀) where
  clock := fun i t h ⟨made, asked, hcommits⟩ => ⟨made, asked.clock _, hcommits⟩
  late := fun i t h ⟨made, asked, _⟩ => ⟨made, { asked with }⟩
  skip := by
    rintro i mirror t h hmirror hnone ⟨made, asked, hcommits⟩
    refine ⟨made, asked, ?_⟩
    have hnone : mirror.commit = none := hnone
    rw [hcommits, takenUpTo, takenUpTo, findIdxs_take_succ _ hmirror]
    simp [hnone]
  agree := by
    rintro i mirror f t h hmirror hf ⟨made, asked, hcommits⟩ hyes
    refine ⟨_, asked.call (by decide) ((m.local_at hmirror).callback .commit f hf) i hyes, ?_⟩
    have hsome : mirror.commit = some f := hf
    rw [callsOf_append_ask, hcommits, takenUpTo, takenUpTo, findIdxs_take_succ _ hmirror]
    simp [hsome]
  refuse := by
    rintro i mirror f t h hmirror hf ⟨made, asked, _⟩ hno
    exact ⟨_, asked.call (by decide) ((m.local_at hmirror).callback .commit f hf) i hno⟩

/-- What an abort leaves: the mirrors that were called and have not committed were told, each once
and in order. -/
structure Unwound (m : LocalMirrors W) (t₀ : Transaction) (h₀ : Host W) (t : Transaction)
    (h : Host W) (made aborted : List Call) : Prop where
  quiet : Quiet h₀ h (made ++ aborted)
  core : t.core = t₀.core
  count : t.committedCount = made.countP Call.commits
  events : ∀ c ∈ made, ∃ stage, stage.asks ∧ c.event = t₀.event stage
  abortEvents : ∀ c ∈ aborted, c.event = t₀.event .abort
  selected : aborted.map (·.mirror) = (m.mirrors.findIdxs fun mirror => mirror.abort.isSome).filter
    fun i => calledIn made i && !committedIn made i

/-- The assertion of the abort's loop. -/
def Aborting (m : LocalMirrors W) (t₀ : Transaction) (h₀ : Host W) (made : List Call) (i : Nat)
    (h : Host W) : Prop :=
  ∃ aborted, Quiet h₀ h (made ++ aborted) ∧ (∀ c ∈ aborted, c.event = t₀.event .abort) ∧
    aborted.map (·.mirror) =
      ((m.mirrors.take i).findIdxs fun mirror => mirror.abort.isSome).filter
        fun i => calledIn made i && !committedIn made i

theorem Asked.abortRule
    (asked : Asked t₀ h₀ t h made) : AbortRule m.mirrors t (Aborting m t₀ h₀ made) where
  skip := by
    rintro i mirror h hmirror hskip ⟨aborted, hquiet, hevents, hselected⟩
    refine ⟨aborted, hquiet, hevents, ?_⟩
    rw [hselected, findIdxs_take_succ _ hmirror]
    rw [asked.touched, asked.committed] at hskip
    rcases hskip with hskip | hskip | hskip
    · split_ifs <;> simp [hskip]
    · split_ifs <;> simp [hskip]
    · simp [hskip]
  call := by
    rintro i mirror f h hmirror htouched hcomm hf ⟨aborted, hquiet, hevents, hselected⟩
    have hcall := call_quiet ((m.local_at hmirror).callback .abort f hf) (t.event .abort) i h
    rw [asked.touched] at htouched
    rw [asked.committed] at hcomm
    have hquiet := hquiet.trans hcall
    rw [append_assoc] at hquiet
    refine ⟨_, hquiet, fun c hc => ?_, ?_⟩
    · rcases mem_append.1 hc with hc | hc
      · exact hevents c hc
      · rw [mem_singleton.1 hc]
        exact Transaction.event_of_core asked.core .abort
    · rw [map_append, hselected, findIdxs_take_succ _ hmirror]
      simp [hf, htouched, hcomm]

theorem Asked.unwound (asked : Asked t₀ h₀ t h made) :
    ∃ aborted, Unwound m t₀ h₀ t (abort m.mirrors t h) made aborted := by
  have hstart : Aborting m t₀ h₀ made 0 h :=
    ⟨[], by simpa using asked.quiet, fun c hc => absurd hc not_mem_nil, rfl⟩
  obtain ⟨aborted, hquiet, hevents, hselected⟩ := abort_rule asked.abortRule hstart
  refine ⟨aborted, hquiet, asked.core, asked.count, asked.events, hevents, ?_⟩
  rw [hselected, take_length]

theorem transactRule : TransactRule m.mirrors (Stage m t₀ h₀) (FailedEarly t₀ h₀) (Failed t₀ h₀)
    (fun t h => ∃ made aborted, Unwound m t₀ h₀ t h made aborted ∧ callsOf .commit made = [])
    (fun t h => ∃ made aborted, Unwound m t₀ h₀ t h made aborted) where
  prepare := stage_early (by decide) (by decide)
  quiesce := stage_early (by decide) (by decide)
  drain := stage_early (by decide) (by decide)
  commit := stage_commit
  prepared := fun t h ⟨made, asked, hcommits⟩ => ⟨made, asked, hcommits⟩
  quiesced := fun t h ⟨made, asked, hcommits⟩ => ⟨made, asked, hcommits⟩
  drained := fun t h ⟨made, asked, hcommits⟩ => ⟨made, asked, hcommits⟩
  stopped := fun t h ⟨made, asked, hcommits⟩ =>
    let ⟨aborted, unwound⟩ := asked.unwound
    ⟨made, aborted, unwound, hcommits⟩
  failed := fun t h ⟨made, asked⟩ => ⟨made, asked.unwound⟩

variable (m h₀) in
/-- **A transaction across local mirrors, by its ending.** -/
theorem transact_local (hnew : t₀.touchedMask = 0 ∧ t₀.committedMask = 0 ∧ t₀.committedCount = 0) :
    (transact m.mirrors t₀ h₀).Satisfies
      (fun t h => ∃ made aborted, Unwound m t₀ h₀ t h made aborted ∧ callsOf .commit made = [])
      (fun t h => ∃ made aborted, Unwound m t₀ h₀ t h made aborted)
      (Stage m t₀ h₀ .commit m.mirrors.length) :=
  transact_rule transactRule ⟨[], Asked.start hnew h₀, rfl⟩

/-- Telling the mirrors of a loss. -/
theorem publishLost_local (m : LocalMirrors W) (t : Transaction) (h : Host W) :
    ∃ told, Quiet h (publishLost m.mirrors t h) told ∧
      (∀ c ∈ told, c.event = t.event .publishLost) ∧
      told.map (·.mirror) = m.mirrors.findIdxs fun mirror => mirror.publishLost.isSome := by
  have hrule : LostRule m.mirrors t fun i h' => ∃ told, Quiet h h' told ∧
      (∀ c ∈ told, c.event = t.event .publishLost) ∧
      told.map (·.mirror) =
        (m.mirrors.take i).findIdxs fun mirror => mirror.publishLost.isSome := by
    refine ⟨?_, ?_⟩
    · rintro i mirror h' hmirror hnone ⟨told, hquiet, hevents, htold⟩
      refine ⟨told, hquiet, hevents, ?_⟩
      rw [htold, findIdxs_take_succ _ hmirror]
      simp [hnone]
    · rintro i mirror f h' hmirror hf ⟨told, hquiet, hevents, htold⟩
      have hcall := call_quiet (f := fun event h => (true, f event h))
        ((m.local_at hmirror).publishLost f hf) (t.event .publishLost) i h'
      refine ⟨told ++ [_], hquiet.trans hcall, fun c hc => ?_, ?_⟩
      · rcases mem_append.1 hc with hc | hc
        · exact hevents c hc
        · rw [mem_singleton.1 hc]
      · rw [map_append, htold, findIdxs_take_succ _ hmirror]
        simp [hf]
  have hlost := publishLost_rule hrule
    ⟨[], ⟨rfl, (append_nil _).symm⟩, fun c hc => absurd hc not_mem_nil, rfl⟩
  simpa only [take_length] using hlost

end Transact

end MetaFlux.Lifecycle
