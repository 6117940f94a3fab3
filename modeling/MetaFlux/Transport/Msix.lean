/-
# Completion interrupts

The vfio-user server signals the guest through two MSI-X vectors: vector 0 for administration,
vector 1 for completions.  The guest arms the completion vector with the timeline value it waits
for; a notification that reaches it becomes pending and is injected as soon as the vector is
unmasked.

One set of fields serves both the arming and what is pending, and a delivery clears both.  So an
arming is lost when it is made over an older notification that is still pending: delivering that one
disarms the vector, and the completion that was asked for finds it disarmed
(`rearm_over_pending_lost`).  Every other arming is honoured, and that is exact
(`arming_honoured_iff`).
-/
import MetaFlux.Base.Run

namespace MetaFlux.Msix

open Base

/-! ## 1. The ledger -/

inductive MsixStatus where
  | success | invalidArgument | staleGeneration | deviceLost | masked | disarmed | injectionFailed
  | noPending | alreadyArmed
deriving DecidableEq, Repr

structure MsixVectorState where
  masked : Bool := false
  armed : Bool := false
  pending : Bool := false
  armedTimeline : Nat := 0
  pendingTimeline : Nat := 0
  lastDeliveredTimeline : Nat := 0
  deliveredCount : Nat := 0
deriving DecidableEq, Repr

/-- `inject` is whether there is a callback. -/
structure MsixNotificationLedger where
  generation : Nat := 0
  inject : Bool := false
  online : Bool := false
  vectors : UInt32 → MsixVectorState := fun _ => {}

def vectorCount : UInt32 := 2
def completionVector : UInt32 := 1

namespace MsixNotificationLedger

variable (s : MsixNotificationLedger)

def configure (generation : Nat) (inject : Bool) : MsixStatus × MsixNotificationLedger :=
  if generation = 0 then (.invalidArgument, s)
  else (.success, { generation, inject, online := true, vectors := fun _ => {} })

def check (generation : Nat) (vector : UInt32) : MsixStatus :=
  if vector ≥ vectorCount ∨ generation = 0 then .invalidArgument
  else if generation ≠ s.generation then .staleGeneration
  else if s.online then .success else .deviceLost

def put (vector : UInt32) (state : MsixVectorState) : MsixNotificationLedger :=
  { s with vectors := Function.update s.vectors vector state }

/-- What a delivery leaves of a vector. -/
def delivered (vector : UInt32) : MsixVectorState :=
  let state := s.vectors vector
  { state with
    lastDeliveredTimeline := max state.lastDeliveredTimeline state.pendingTimeline
    deliveredCount :=
      if state.deliveredCount ≠ 2 ^ 64 - 1 then state.deliveredCount + 1 else state.deliveredCount
    pending := false
    pendingTimeline := 0
    armed := if vector = completionVector then false else state.armed
    armedTimeline := if vector = completionVector then 0 else state.armedTimeline }

/-- `injected` is what the callback answers, should it be called. -/
def deliver (vector : UInt32) (injected : Bool) : MsixStatus × MsixNotificationLedger :=
  let state := s.vectors vector
  if state.pending = false then (.noPending, s)
  else if state.masked then (.masked, s)
  else if s.inject = false ∨ injected = false then (.injectionFailed, s)
  else (.success, s.put vector (s.delivered vector))

def setMask (generation : Nat) (vector : UInt32) (masked injected : Bool) :
    MsixStatus × MsixNotificationLedger :=
  if s.check generation vector ≠ .success then (s.check generation vector, s)
  else
    let state := s.vectors vector
    let s := s.put vector { state with masked }
    if masked ∨ state.pending = false then (.success, s) else s.deliver vector injected

def armCompletion (generation timeline : Nat) : MsixStatus × MsixNotificationLedger :=
  let status := s.check generation completionVector
  if status ≠ .success ∨ timeline = 0 then
    (if status = .success then .invalidArgument else status, s)
  else
    let state := s.vectors completionVector
    if timeline ≤ state.lastDeliveredTimeline ∨ state.armed ∧ timeline ≤ state.armedTimeline then
      (.alreadyArmed, s)
    else (.success, s.put completionVector { state with armed := true, armedTimeline := timeline })

def notify (generation : Nat) (vector : UInt32) (timeline : Nat) (injected : Bool) :
    MsixStatus × MsixNotificationLedger :=
  let status := s.check generation vector
  if status ≠ .success ∨ timeline = 0 then
    (if status = .success then .invalidArgument else status, s)
  else
    let state := s.vectors vector
    if vector = completionVector ∧ (state.armed = false ∨ timeline < state.armedTimeline) then
      (.disarmed, s)
    else
      let s := s.put vector
        { state with pending := true, pendingTimeline := max state.pendingTimeline timeline }
      if state.masked then (.masked, s) else s.deliver vector injected

def retryPending (generation : Nat) (vector : UInt32) (injected : Bool) :
    MsixStatus × MsixNotificationLedger :=
  if s.check generation vector ≠ .success then (s.check generation vector, s)
  else if (s.vectors vector).pending then s.deliver vector injected
  else (.noPending, s)

end MsixNotificationLedger

/-- A call with its arguments; the last is what the callback answers, should it be called. -/
inductive Call where
  | setMask (generation : Nat) (vector : UInt32) (masked injected : Bool)
  | armCompletion (generation timeline : Nat)
  | notify (generation : Nat) (vector : UInt32) (timeline : Nat) (injected : Bool)
  | retryPending (generation : Nat) (vector : UInt32) (injected : Bool)
deriving DecidableEq, Repr

def call (s : MsixNotificationLedger) : Call → MsixNotificationLedger
  | .setMask generation vector masked injected => (s.setMask generation vector masked injected).2
  | .armCompletion generation timeline => (s.armCompletion generation timeline).2
  | .notify generation vector timeline injected => (s.notify generation vector timeline injected).2
  | .retryPending generation vector injected => (s.retryPending generation vector injected).2

/-! ## 2. What is asked of an arming -/

/-- The completion vector is armed anew. -/
def Rearms (s : MsixNotificationLedger) (c : Call) : Prop :=
  ∃ generation timeline, c = .armCompletion generation timeline ∧
    (s.armCompletion generation timeline).1 = .success

/-- A notification of the completion vector that reaches `t`. -/
def Reaches (generation t : Nat) (c : Call) : Prop :=
  ∃ timeline injected, c = .notify generation completionVector timeline injected ∧ t ≤ timeline

/-- The arming with `t` is not lost after the calls `after`, that end in `s`: it was delivered, or
it is pending, or it still waits for a completion that has not come.  And if the completion has
come, unmasking the vector delivers it. -/
def Honoured (generation t : Nat) (after : List Call) (s : MsixNotificationLedger) : Prop :=
  (t ≤ (s.vectors completionVector).lastDeliveredTimeline ∨
    ((s.vectors completionVector).pending = true ∧
      t ≤ (s.vectors completionVector).pendingTimeline) ∨
    ((s.vectors completionVector).armed = true ∧ ∀ c ∈ after, ¬ Reaches generation t c)) ∧
  ((∃ c ∈ after, Reaches generation t c) → s.inject = true →
    t ≤ ((s.setMask generation completionVector false true).2.vectors
      completionVector).lastDeliveredTimeline)

/-! ## 3. One call -/

/-- What carries an arming through the calls.  While it waits, nothing is pending that could be
delivered: a delivery would disarm the vector. -/
def Kept (t : Nat) (inject : Bool) (unreached : Prop) (state : MsixVectorState) : Prop :=
  t ≤ state.lastDeliveredTimeline ∨
  (state.pending = true ∧ t ≤ state.pendingTimeline) ∨
  (state.armed = true ∧ state.armedTimeline = t ∧
    (inject = false ∨ state.pending = false) ∧ unreached)

variable {state : MsixVectorState}

theorem Kept.imp {t : Nat} {inject : Bool} {unreached weaker : Prop}
    (h : Kept t inject unreached state)
    (himp : state.armed = true → state.armedTimeline = t → unreached → weaker) :
    Kept t inject weaker state := by
  rcases h with hdone | hpend | ⟨harmed, htime, hstill, hunreached⟩
  · exact .inl hdone
  · exact .inr (.inl hpend)
  · exact .inr (.inr ⟨harmed, htime, hstill, himp harmed htime hunreached⟩)

namespace MsixNotificationLedger

structure Safe (generation t : Nat) (unreached : Prop) (s : MsixNotificationLedger) : Prop where
  ready : s.check generation completionVector = .success
  kept : Kept t s.inject unreached (s.vectors completionVector)

variable {s : MsixNotificationLedger} {generation t : Nat} {unreached weaker : Prop}

@[simp] theorem put_self (vector : UInt32) (state : MsixVectorState) :
    (s.put vector state).vectors vector = state := Function.update_self ..

section

variable (h : s.Safe generation t unreached)

include h

theorem Safe.imp (himp : unreached → weaker) : s.Safe generation t weaker :=
  ⟨h.ready, h.kept.imp fun _ _ => himp⟩

theorem Safe.put {vector : UInt32}
    (hself : completionVector = vector → Kept t s.inject weaker state)
    (hother : completionVector ≠ vector → unreached → weaker) :
    (s.put vector state).Safe generation t weaker := by
  refine ⟨h.ready, ?_⟩
  by_cases hvector : completionVector = vector
  · subst hvector
    exact hself rfl
  · change Kept t s.inject weaker (Function.update s.vectors vector state completionVector)
    rw [Function.update_of_ne hvector]
    exact h.kept.imp fun _ _ => hother hvector

theorem Safe.deliver (vector : UInt32) (injected : Bool) :
    (s.deliver vector injected).2.Safe generation t unreached := by
  unfold MsixNotificationLedger.deliver
  dsimp only
  split_ifs with hpend _ hfailed
  · exact h
  · exact h
  · exact h
  refine h.put ?_ fun _ => id
  rintro rfl
  refine .inl ?_
  rcases h.kept with hdone | ⟨-, hreached⟩ | ⟨-, -, hnone | hnone, -⟩
  · exact Nat.le_trans hdone (Nat.le_max_left ..)
  · exact Nat.le_trans hreached (Nat.le_max_right ..)
  · exact absurd (.inl hnone) hfailed
  · exact absurd hnone hpend

theorem Safe.setMask (g : Nat) (vector : UInt32)
    (masked injected : Bool) :
    (s.setMask g vector masked injected).2.Safe generation t unreached := by
  have hput : (s.put vector { s.vectors vector with masked }).Safe generation t unreached := by
    refine h.put ?_ fun _ => id
    rintro rfl
    exact h.kept
  unfold MsixNotificationLedger.setMask
  dsimp only
  split_ifs
  · exact h
  · exact hput
  · exact hput.deliver vector injected

theorem Safe.retryPending (g : Nat) (vector : UInt32)
    (injected : Bool) : (s.retryPending g vector injected).2.Safe generation t unreached := by
  unfold MsixNotificationLedger.retryPending
  split_ifs
  · exact h
  · exact h.deliver vector injected
  · exact h

/-- **A notification.**  One that is refused has not reached `t`; one that an armed vector takes
has, and is pending. -/
theorem Safe.notify (ht : t ≠ 0) (g : Nat) (vector : UInt32) (timeline : Nat) (injected : Bool) :
    (s.notify g vector timeline injected).2.Safe generation t
      (unreached ∧ ¬ Reaches generation t (.notify g vector timeline injected)) := by
  unfold MsixNotificationLedger.notify
  dsimp only
  by_cases hrefused : s.check g vector ≠ .success ∨ timeline = 0
  · rw [if_pos hrefused]
    refine ⟨h.ready, h.kept.imp fun _ _ hunreached => ⟨hunreached, ?_⟩⟩
    rintro ⟨_, _, hcall, hreached⟩
    cases hcall
    rcases hrefused with hstat | hzero
    · exact hstat h.ready
    · omega
  · rw [if_neg hrefused]
    by_cases hdisarmed : vector = completionVector ∧
        ((s.vectors vector).armed = false ∨ timeline < (s.vectors vector).armedTimeline)
    · rw [if_pos hdisarmed]
      refine ⟨h.ready, h.kept.imp fun harmed htime hunreached => ⟨hunreached, ?_⟩⟩
      rintro ⟨_, _, hcall, hreached⟩
      cases hcall
      rcases hdisarmed.2 with hnot | hbelow
      · exact absurd (harmed.symm.trans hnot) (by decide)
      · omega
    · have hput : (s.put vector { s.vectors vector with
          pending := true, pendingTimeline :=
            max (s.vectors vector).pendingTimeline timeline }).Safe
          generation t
            (unreached ∧ ¬ Reaches generation t (.notify g vector timeline injected)) := by
        refine h.put ?_ fun hother hunreached => ⟨hunreached, ?_⟩
        · rintro rfl
          rcases h.kept with hdone | ⟨-, hreached⟩ | ⟨-, htime, -⟩
          · exact .inl hdone
          · exact .inr (.inl ⟨rfl, Nat.le_trans hreached (Nat.le_max_left ..)⟩)
          · have hreached : t ≤ timeline := by
              by_contra hbelow
              exact hdisarmed ⟨rfl, .inr (by omega)⟩
            exact .inr (.inl ⟨rfl, Nat.le_trans hreached (Nat.le_max_right ..)⟩)
        · rintro ⟨_, _, hcall, -⟩
          cases hcall
          exact hother rfl
      split_ifs
      · exact hput
      · exact hput.deliver vector injected

end

theorem armCompletion_cases (s : MsixNotificationLedger) (generation timeline : Nat) :
    ((s.armCompletion generation timeline).1 ≠ .success ∧
    (s.armCompletion generation timeline).2 = s) ∨
    ((s.armCompletion generation timeline).1 = .success ∧
      s.check generation completionVector = .success ∧ timeline ≠ 0 ∧
      ¬ timeline ≤ (s.vectors completionVector).lastDeliveredTimeline ∧
      (s.armCompletion generation timeline).2 = s.put completionVector
        { s.vectors completionVector with armed := true, armedTimeline := timeline }) := by
  unfold armCompletion
  dsimp only
  split_ifs with hrefused hstat hold
  · exact .inl ⟨nofun, rfl⟩
  · exact .inl ⟨hstat, rfl⟩
  · exact .inl ⟨nofun, rfl⟩
  · rw [not_or, not_not] at hrefused
    exact .inr ⟨rfl, hrefused.1, hrefused.2, fun hle => hold (.inl hle), rfl⟩

/-- **One call** that does not arm the vector anew. -/
theorem Safe.step (h : s.Safe generation t unreached) (ht : t ≠ 0) {c : Call}
    (hrearm : ¬ Rearms s c) :
    (call s c).Safe generation t (unreached ∧ ¬ Reaches generation t c) := by
  cases c with
  | setMask g vector masked injected => exact (h.setMask g vector masked injected).imp (⟨·, nofun⟩)
  | armCompletion g timeline =>
    rcases s.armCompletion_cases g timeline with ⟨-, hsame⟩ | ⟨harms, -⟩
    · rw [call, hsame]
      exact h.imp (⟨·, nofun⟩)
    · exact absurd ⟨g, timeline, rfl, harms⟩ hrearm
  | notify g vector timeline injected => exact h.notify ht g vector timeline injected
  | retryPending g vector injected => exact (h.retryPending g vector injected).imp (⟨·, nofun⟩)

/-- **Every call.** -/
theorem Safe.along (ht : t ≠ 0) :
    ∀ (after : List Call) {s : MsixNotificationLedger} {unreached : Prop},
    s.Safe generation t unreached → Along call (fun s c => ¬ Rearms s c) s after →
    (run call s after).Safe generation t (unreached ∧ ∀ c ∈ after, ¬ Reaches generation t c)
  | [], _, _, h, _ => h.imp (⟨·, by simp⟩)
  | c :: after, _, _, h, halong => by
    refine (Safe.along ht after (h.step ht halong.1) halong.2).imp ?_
    rintro ⟨⟨hunreached, hfirst⟩, hrest⟩
    exact ⟨hunreached, List.forall_mem_cons.2 ⟨hfirst, hrest⟩⟩

/-- What unmasking the completion vector leaves, when the injection succeeds. -/
theorem unmask (hready : s.check generation completionVector = .success)
    (hinject : s.inject = true) :
    (s.setMask generation completionVector false true).2.vectors completionVector =
      { if (s.vectors completionVector).pending then s.delivered completionVector
        else s.vectors completionVector with masked := false } := by
  rw [MsixNotificationLedger.setMask, if_neg (not_not.2 hready)]
  cases hpend : (s.vectors completionVector).pending with
  | false => simp [hpend]
  | true => simp [MsixNotificationLedger.deliver, hpend, delivered, put, hinject]

theorem Safe.honoured {after : List Call}
    (h : s.Safe generation t (∀ c ∈ after, ¬ Reaches generation t c)) :
    Honoured generation t after s := by
  refine ⟨?_, fun ⟨c, hmem, hreaches⟩ hinject => ?_⟩
  · rcases h.kept with hdone | hpend | ⟨harmed, -, -, hunreached⟩
    · exact .inl hdone
    · exact .inr (.inl hpend)
    · exact .inr (.inr ⟨harmed, hunreached⟩)
  · rw [unmask h.ready hinject]
    rcases h.kept with hdone | ⟨hpend, hreached⟩ | ⟨-, -, -, hunreached⟩
    · split_ifs
      · exact Nat.le_trans hdone (Nat.le_max_left ..)
      · exact hdone
    · rw [if_pos hpend]
      exact Nat.le_trans hreached (Nat.le_max_right ..)
    · exact absurd hreaches (hunreached c hmem)

end MsixNotificationLedger

/-! ## 4. Every arming -/

/-- The ledger after some calls within one configured generation. -/
def ledgerAfter (generation : Nat) (inject : Bool) (calls : List Call) : MsixNotificationLedger :=
  run call (MsixNotificationLedger.configure {} generation inject).2 calls

/-- **Which armings are honoured.**  An arming that succeeds is honoured by whatever is called after
it, until the next, exactly if nothing older could be delivered in its place. -/
theorem arming_honoured_iff (generation : Nat) (inject : Bool) (before : List Call) (t : Nat)
    (h : ((ledgerAfter generation inject before).armCompletion generation t).1 = .success) :
    (∀ after,
      Along call (fun s c => ¬ Rearms s c)
        ((ledgerAfter generation inject before).armCompletion generation t).2 after →
      Honoured generation t after
        (run call ((ledgerAfter generation inject before).armCompletion generation t).2 after)) ↔
    (ledgerAfter generation inject before).inject = false ∨
      ((ledgerAfter generation inject before).vectors completionVector).pending = false ∨
      t ≤ ((ledgerAfter generation inject before).vectors completionVector).pendingTimeline := by
  generalize ledgerAfter generation inject before = s at h ⊢
  obtain ⟨hfailed, -⟩ | ⟨-, hready, ht, hfresh, hstate⟩ := s.armCompletion_cases generation t
  · exact absurd h hfailed
  rw [hstate]
  constructor
  · -- unmasking the vector right away delivers what is older
    intro hall
    by_contra hcond
    simp only [not_or, Bool.not_eq_false] at hcond
    obtain ⟨hinject, hpend, hbelow⟩ := hcond
    have hlost := (hall [.setMask generation completionVector false true] ⟨nofun, trivial⟩).1
    rw [run_cons, run_nil, call,
      MsixNotificationLedger.unmask (s := s.put completionVector _) hready hinject] at hlost
    simp only [MsixNotificationLedger.put_self, hpend, if_true, MsixNotificationLedger.delivered,
      Bool.false_eq_true, false_and, or_false] at hlost
    omega
  · intro hcond after halong
    have hsafe : (s.put completionVector { s.vectors completionVector with
        armed := true, armedTimeline := t }).Safe generation t True := by
      refine ⟨hready, ?_⟩
      by_cases hpend : (s.vectors completionVector).pending = false
      · exact .inr (.inr ⟨rfl, rfl, .inr hpend, trivial⟩)
      · rcases hcond with hinject | hnone | hreached
        · exact .inr (.inr ⟨rfl, rfl, .inl hinject, trivial⟩)
        · exact absurd hnone hpend
        · exact .inr (.inl ⟨by simpa using hpend, hreached⟩)
    exact ((hsafe.along ht after halong).imp And.right).honoured

/-- A first arming, after which the completion comes while the vector is masked. -/
theorem arming_honoured_iff_first :
    ((ledgerAfter 7 true []).armCompletion 7 5).1 = .success ∧
      Honoured 7 5 [.setMask 7 1 true true, .notify 7 1 6 true]
        (run call ((ledgerAfter 7 true []).armCompletion 7 5).2
          [.setMask 7 1 true true, .notify 7 1 6 true]) :=
  ⟨by decide, (arming_honoured_iff 7 true [] 5 (by decide)).2 (.inr (.inl rfl)) _
    ⟨nofun, nofun, trivial⟩⟩

/-- **An arming made over an older notification is lost.**  The vector is armed with 5 and masked, 5
comes and is pending, the vector is armed with 10, unmasked, and 5 is delivered: then 10 finds it
disarmed. -/
theorem rearm_over_pending_lost :
    let before : List Call := [.armCompletion 7 5, .setMask 7 1 true true, .notify 7 1 5 true]
    let armed := (ledgerAfter 7 true before).armCompletion 7 10
    let after : List Call := [.setMask 7 1 false true, .notify 7 1 10 true]
    armed.1 = .success ∧ Along call (fun s c => ¬ Rearms s c) armed.2 after ∧
      ((call armed.2 (.setMask 7 1 false true)).notify 7 1 10 true).1 = .disarmed ∧
      ¬ Honoured 7 10 after (run call armed.2 after) := by
  intro before armed after
  refine ⟨by decide, ⟨nofun, nofun, trivial⟩, by decide, fun hhonoured => ?_⟩
  have hlost : ¬ (10 ≤ ((run call armed.2 after).vectors completionVector).lastDeliveredTimeline ∨
      ((run call armed.2 after).vectors completionVector).pending = true ∨
      ((run call armed.2 after).vectors completionVector).armed = true) := by decide
  rcases hhonoured.1 with hdone | hpend | harmed
  · exact hlost (.inl hdone)
  · exact hlost (.inr (.inl hpend.1))
  · exact hlost (.inr (.inr harmed.1))

end MetaFlux.Msix
