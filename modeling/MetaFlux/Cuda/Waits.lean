/-
# Waiting for completions

A call that drains a request looks at both completion rings, and if they are empty it waits on ONE
of them: that of the earliest pending request.  There are two kinds of waits.  One lasts to the time
limit (`MF_CUDA_CONSUME_BLOCKING_LOCKED`).  The other is cut into slices, during which the driver's
lock is let go; but its limit is set once, and between the slices the call looks at the rings and at
the number of pending requests only, not at the requests it is there for
(`mf_cuda_consume_one_locked`).

* §1 is what a thread does, over the table of pending requests: it takes the driver's lock or the
  gate of one context, submits, and drains.
* §2: while all threads work on one context, none is wedged in a wait of either kind (`waits_end`).
  Whoever takes a completion then has the gate of its request, and finishes it.
* With two contexts a completion can be taken by a thread that has not, which leaves its request
  ready and nobody there to finish it.  The earliest request counts all the same, so that a call
  waits on that one's ring while its own completion is on the other; on one ring its own completion
  is gone; and a sliced wait has nothing more to come (`wait_on_wrong_ring`).

A wait on a ring that is readable ends.  The time limit itself is not modelled: the runs are those
before the first wait that reaches it.
-/
import MetaFlux.Cuda.Handles
import MetaFlux.Cuda.Pending

open Function

namespace MetaFlux.Cuda

open Base List

/-! ## 1. Threads -/

/-- What a call drains: its own request, or under the driver's lock all requests up to one
(`mf_cuda_drain_through_locked`) or of a context (`mf_cuda_drain_reference_locked`). -/
inductive Due where
  | request (id : Nat)
  | through (target : Nat)
  | reference (context : Option Nat)
deriving DecidableEq, Repr

def Due.found : Due → Slot Unit → Bool
  | .request id, s => s.id = id
  | .through target, s => s.id ≤ target
  | .reference context, s => s.context = context

/-- Only the wait for a call's own request keeps the gates. -/
def Due.sliced : Due → Bool
  | .request _ => false
  | _ => true

/-- Where a drain is: at the head of its own loop, at the head of the loop that takes completions,
past the look at both rings, or in a wait. -/
inductive DrainPoint where
  | draining | consuming | looked
  | waiting (ring : CompletionRing)
deriving DecidableEq, Repr

inductive WaitPhase where
  | idle | running
  | claimed (id : Nat)
  | marked (s : Slot Unit)
  | drain (due : Due) (point : DrainPoint)
deriving DecidableEq, Repr

/-- `gates` is who has the gate of a context; that of no context is the driver's lock itself. -/
structure Waits where
  pending : Pending Unit := {}
  gates : Option Nat → Option Nat := fun _ => none
  threads : Nat → WaitPhase := fun _ => .idle

namespace Waits

variable (d : Waits) (thread : Nat)

def setThread (phase : WaitPhase) : Waits :=
  { d with threads := update d.threads thread phase }

/-- What the thread may finish. -/
def covers (context : Option Nat) : Bool := d.gates context = some thread

/-- The driver's lock and every gate are free. -/
def unlocked : Bool :=
  (none :: (range objectCapacity).map some).all fun context => d.gates context = none

theorem unlocked_gate {c : Nat} (hc : c < objectCapacity) (h : d.unlocked = true) :
    d.gates (some c) = none := by
  have hc' : some c ∈ none :: (range objectCapacity).map some := by simpa using hc
  exact of_decide_eq_true (all_eq_true.1 h _ hc')

/-- The gates are taken one after the other; nothing is done in between. -/
def lock : Waits :=
  { d with gates := fun context => some ((d.gates context).getD thread) }

def unlock : Waits :=
  { d with gates := fun context => (d.gates context).filter (· ≠ thread) }

/-- A call takes the driver's lock, or the gate of a context. -/
def enter (context : Option Nat) : Waits :=
  if d.threads thread ≠ .idle then d
  else match context with
    | none => if d.unlocked then (d.lock thread).setThread thread .running else d
    | some index =>
      if index < objectCapacity ∧ d.gates context = none then
        { d with
          gates := update d.gates context (some thread)
          threads := update d.threads thread .running }
      else d

def leave : Waits :=
  if d.threads thread = .running then (d.unlock thread).setThread thread .idle else d

def claim : Waits :=
  if d.threads thread = .running ∧ d.pending.pendingCount < Pending.pendingCapacity then
    { d with
      pending := d.pending.claim
      threads := update d.threads thread (.claimed (d.pending.nextRequest + 1)) }
  else d

def mark (context : Option Nat) (ring : CompletionRing) (synchronous : Bool) : Waits :=
  match d.threads thread with
  | .claimed id =>
    if d.covers thread context then
      let s := { id, context, ring, synchronous, work := () }
      { d with pending := d.pending.mark s, threads := update d.threads thread (.marked s) }
    else d
  | _ => d

/-- The ring takes the command, or refuses it. -/
def hand (taken : Bool) : Waits :=
  match d.threads thread with
  | .marked s =>
    if taken then
      { d with
        pending := d.pending.hand s
        threads := update d.threads thread
          (if s.synchronous then .drain (.request s.id) .draining else .running) }
    else { d with pending := d.pending.free s, threads := update d.threads thread .running }
  | _ => d

def post (id : Nat) : Waits := { d with pending := d.pending.post id }

/-- Before a call submits it finishes what it can, and takes what has come. -/
def poll (ring : CompletionRing) : Waits :=
  if d.threads thread = .running then
    { d with pending :=
      ((d.pending.process (d.covers thread)).1.take (d.covers thread) ring).1 }
  else d

/-- A call under the driver's lock begins to drain. -/
def synchronize (due : Due) : Waits :=
  if d.threads thread = .running ∧ d.gates none = some thread ∧ due.sliced then
    d.setThread thread (.drain due .draining)
  else d

/-- The head of the drain's loop. -/
def examine : Waits :=
  match d.threads thread with
  | .drain due .draining =>
    let p := (d.pending.process (d.covers thread)).1
    match p.slots.find? due.found with
    | none => { d with pending := p, threads := update d.threads thread .running }
    | some s =>
      if due.sliced = false ∧ s.state = .completed then
        { d with pending := p.free s, threads := update d.threads thread .running }
      else { d with pending := p, threads := update d.threads thread (.drain due .consuming) }
  | _ => d

/-- A completion has come, and the drain examines its requests again. -/
def take (ring : CompletionRing) : Waits :=
  match d.threads thread, d.pending.posted ring with
  | .drain due .consuming, _ :: _ =>
    let p := (d.pending.take (d.covers thread) ring).1
    { d with
      pending := p
      threads := update d.threads thread
        (if p.transportError = none then .drain due .draining else .running) }
  | _, _ => d

/-- Nothing is pending: that ends a call's own drain, and the others examine again. -/
def nothing : Waits :=
  match d.threads thread with
  | .drain due .consuming =>
    if d.pending.pendingCount = 0 then
      d.setThread thread (if due.sliced then .drain due .draining else .running)
    else d
  | _ => d

/-- Something is pending, and neither ring has a completion. -/
def look : Waits :=
  match d.threads thread with
  | .drain due .consuming =>
    if d.pending.pendingCount ≠ 0 ∧ d.pending.posted .cdev = [] ∧ d.pending.posted .unix = [] then
      d.setThread thread (.drain due .looked)
    else d
  | _ => d

def wait : Waits :=
  match d.threads thread with
  | .drain due .looked =>
    (if due.sliced then d.unlock thread else d).setThread thread
      (.drain due (.waiting d.pending.earliestTransport))
  | _ => d

/-- The ring is readable, or the slice is over. -/
def wake : Waits :=
  match d.threads thread with
  | .drain due (.waiting ring) =>
    if due.sliced then
      if d.unlocked then (d.lock thread).setThread thread (.drain due .consuming) else d
    else if d.pending.posted ring ≠ [] then d.setThread thread (.drain due .consuming)
    else d
  | _ => d

end Waits

inductive WaitMove where
  | enter (thread : Nat) (context : Option Nat)
  | leave (thread : Nat)
  | claim (thread : Nat)
  | mark (thread : Nat) (context : Option Nat) (ring : CompletionRing) (synchronous : Bool)
  | hand (thread : Nat) (taken : Bool)
  | post (id : Nat)
  | poll (thread : Nat) (ring : CompletionRing)
  | synchronize (thread : Nat) (due : Due)
  | examine (thread : Nat)
  | take (thread : Nat) (ring : CompletionRing)
  | nothing (thread : Nat)
  | look (thread : Nat)
  | wait (thread : Nat)
  | wake (thread : Nat)

def Waits.step (d : Waits) : WaitMove → Waits
  | .enter thread context => d.enter thread context
  | .leave thread => d.leave thread
  | .claim thread => d.claim thread
  | .mark thread context ring synchronous => d.mark thread context ring synchronous
  | .hand thread taken => d.hand thread taken
  | .post id => d.post id
  | .poll thread ring => d.poll thread ring
  | .synchronize thread due => d.synchronize thread due
  | .examine thread => d.examine thread
  | .take thread ring => d.take thread ring
  | .nothing thread => d.nothing thread
  | .look thread => d.look thread
  | .wait thread => d.wait thread
  | .wake thread => d.wake thread

/-- The thread is in a wait, and no command is outstanding.  A call that waits for its own request
has nothing on the ring it waits on.  A sliced wait has nothing on either ring; every command that
was submitted has been answered, and some request is ready, which this thread does not finish. -/
def Waits.Wedged (d : Waits) (thread : Nat) : Prop :=
  d.pending.outstanding = [] ∧ ∃ due ring, d.threads thread = .drain due (.waiting ring) ∧
    if due.sliced then
      (∀ r, d.pending.posted r = []) ∧ (∀ s ∈ d.pending.slots, s.state ≠ .submitted) ∧
        ∃ s ∈ d.pending.slots, s.state = .ready
    else d.pending.posted ring = []

/-! ## 2. One context -/

/-- The calls are made on one context: they take the driver's lock or its gate. -/
def WaitMove.on (c : Nat) : WaitMove → Bool
  | .enter _ context => context = none ∨ context = some c
  | .mark _ context _ _ => context = some c
  | _ => true

namespace WaitPhase

/-- The request that a thread is about. -/
def own : WaitPhase → Option Nat
  | .claimed id => some id
  | .marked s => some s.id
  | .drain (.request id) _ => some id
  | _ => none

/-- In a call, and not in a slice of a wait. -/
def active : WaitPhase → Bool
  | .idle => false
  | .drain due (.waiting _) => !due.sliced
  | _ => true

end WaitPhase

/-- What the thread that has the gate relies on: its request is in the table; and in a wait, there
is one that was sent and whose completion comes on that ring. -/
def Relies (p : Pending Unit) : WaitPhase → Prop
  | .claimed id => id ≤ p.nextRequest ∧ ∀ s ∈ p.slots, s.id ≠ id
  | .marked s => s ∈ p.slots ∧ s.state = .submitted ∧ ¬ p.Sent s
  | .drain (.request id) point =>
    (∃ s ∈ p.slots, s.id = id ∧ s.synchronous = true) ∧
    ∀ ring, point = .waiting ring → ∃ s ∈ p.slots, s.ring = ring ∧ p.Sent s
  | _ => True

/-- The table of a context, and what the thread does that has its gate.  A request that is submitted
was sent, or will be; one that has none before it is not ready; one that is completed has its call
at the head of its loop; and nobody else submits. -/
structure Tended (c : Nat) (p : Pending Unit) (phase : WaitPhase) : Prop where
  table : p.Inv
  healthy : p.transportError = none
  context : ∀ s ∈ p.slots, s.context = some c
  settled : ∀ s ∈ p.slots, (∀ s' ∈ p.slots, s.id ≤ s'.id) → s.state ≠ .ready
  sent : ∀ s ∈ p.slots, s.state = .submitted → p.Sent s ∨ phase = .marked s
  completed : ∀ s ∈ p.slots, s.state = .completed → phase = .drain (.request s.id) .draining
  calls : ∀ s ∈ p.slots, s.synchronous = true → phase.own = some s.id
  last : ∀ id ∈ phase.own, ∀ s ∈ p.slots, s.id ≤ id
  relies : Relies p phase

namespace Tended

variable {c id : Nat} {p : Pending Unit} {phase phase' : WaitPhase} {s : Slot Unit}
  {ring : CompletionRing}

theorem start (c : Nat) : Tended c {} .idle := by
  constructor <;> first | exact Pending.Inv.start | rfl | trivial | nofun

section

variable (h : Tended c p phase)

include h

/-- A thread that is about no request. -/
theorem of_none (hbefore : phase.own = none) (hafter : phase'.own = none) : Tended c p phase' := by
  have hnot : ∀ id, phase.own ≠ some id := by
    rw [hbefore]
    nofun
  refine { h with sent := ?_, completed := ?_, calls := ?_, last := ?_, relies := ?_ }
  · intro s hs hstate
    refine (h.sent s hs hstate).imp_right fun hmarked => ?_
    exact absurd (by rw [hmarked]; rfl) (hnot s.id)
  · intro s hs hstate
    exact absurd (by rw [h.completed s hs hstate]; rfl) (hnot s.id)
  · exact fun s hs hsync => absurd (h.calls s hs hsync) (hnot s.id)
  · rw [hafter]
    nofun
  · cases phase' with
    | claimed | marked => cases hafter
    | idle | running => trivial
    | drain due =>
      cases due with
      | request => cases hafter
      | through | reference => trivial

end

/-- A call that drains its own request goes on to another point. -/
theorem at_point {point point' : DrainPoint} (h : Tended c p (.drain (.request id) point))
    (hcompl : ∀ s ∈ p.slots, s.id = id → s.state ≠ .completed)
    (hwaiting : ∀ ring, point' = .waiting ring → ∃ s ∈ p.slots, s.ring = ring ∧ p.Sent s) :
    Tended c p (.drain (.request id) point') := by
  refine { h with sent := ?_, completed := ?_, relies := ⟨h.relies.1, hwaiting⟩ }
  · exact fun s hs hstate => (h.sent s hs hstate).imp_right nofun
  · intro s hs hstate
    cases h.completed s hs hstate
    exact absurd hstate (hcompl s hs rfl)

/-- Outside the head of its loop a call's own request is not completed. -/
theorem not_completed {point : DrainPoint} (h : Tended c p (.drain (.request id) point))
    (hpoint : point ≠ .draining) (s : Slot Unit) (hs : s ∈ p.slots) (_ : s.id = id) :
    s.state ≠ .completed := by
  intro hstate
  cases h.completed s hs hstate
  exact hpoint rfl

/-- When a call has found both rings empty, the earliest request was sent. -/
theorem earliest_sent (h : Tended c p (.drain (.request id) .looked)) :
    ∃ s ∈ p.slots, s.ring = p.earliestTransport ∧ p.Sent s := by
  obtain ⟨mine, hmine, -⟩ := h.relies.1
  obtain ⟨s, hs⟩ := exists_earliest hmine
  obtain ⟨hmem, hle⟩ := earliest_eq_some hs
  refine ⟨s, hmem, by rw [Pending.earliestTransport, hs], ?_⟩
  cases hstate : s.state with
  | submitted => exact (h.sent s hmem hstate).resolve_right nofun
  | ready => exact absurd hstate (h.settled s hmem hle)
  | completed => cases h.completed s hmem hstate

theorem claim (h : Tended c p .running) : Tended c p.claim (.claimed (p.nextRequest + 1)) where
  __ := h
  table := h.table.claim
  sent s hs hstate := (h.sent s hs hstate).imp_right nofun
  completed s hs hstate := nomatch h.completed s hs hstate
  calls s hs hsync := nomatch h.calls s hs hsync
  last := by
    rintro _ ⟨⟩ s hs
    exact Nat.le_succ_of_le (h.table.ids s hs)
  relies := ⟨.refl, fun s hs => (Nat.lt_succ_of_le (h.table.ids s hs)).ne⟩

theorem mark (h : Tended c p (.claimed s.id)) (hctx : s.context = some c)
    (hstate : s.state = .submitted) : Tended c (p.mark s) (.marked s) := by
  obtain ⟨hid, hfresh⟩ := h.relies
  have hmem : ∀ {s'}, s' ∈ (p.mark s).slots → s' ∈ p.slots ∨ s' = s := by simp [Pending.mark]
  constructor
  case table => exact h.table.mark hid hfresh
  case healthy => exact h.healthy
  case context =>
    intro s' hs'
    rcases hmem hs' with hold | rfl
    · exact h.context s' hold
    · exact hctx
  case settled =>
    intro s' hs' hle
    rcases hmem hs' with hold | rfl
    · exact h.settled s' hold fun s'' hs'' => hle s'' (mem_append_left _ hs'')
    · rw [hstate]
      decide
  case sent =>
    intro s' hs' hstate'
    rcases hmem hs' with hold | rfl
    · exact .inl ((h.sent s' hold hstate').resolve_right (by rintro ⟨⟩))
    · exact .inr rfl
  case completed =>
    intro s' hs' hstate'
    rcases hmem hs' with hold | rfl
    · cases h.completed s' hold hstate'
    · rw [hstate] at hstate'
      cases hstate'
  case calls =>
    intro s' hs' hsync
    rcases hmem hs' with hold | rfl
    · exact h.calls s' hold hsync
    · rfl
  case last =>
    rintro _ ⟨⟩ s' hs'
    rcases hmem hs' with hold | rfl
    · exact h.last _ rfl s' hold
    · exact .refl
  case relies =>
    refine ⟨mem_append_right _ (mem_singleton.2 rfl), hstate, ?_⟩
    rintro (hout | ⟨r, hr⟩)
    · exact hfresh _ (h.table.outstanding _ hout).1 rfl
    · obtain ⟨s', hs', hid', -⟩ := h.table.posted hr
      exact hfresh s' hs' hid'

theorem hand (h : Tended c p (.marked s)) :
    Tended c (p.hand s) (if s.synchronous then .drain (.request s.id) .draining else .running) := by
  obtain ⟨hs, hstate, hsent⟩ := h.relies
  have hcalls : ∀ s' ∈ p.slots, s'.synchronous = true → s' = s := fun s' hs' hsync =>
    (h.table.eq_of_id hs hs' (Option.some.inj (h.calls s' hs' hsync))).symm
  refine { h with
    table := h.table.hand hs hstate hsent
    sent := ?_
    completed := fun s' hs' hstate' => nomatch h.completed s' hs' hstate'
    calls := ?_, last := ?_, relies := ?_ }
  · intro s' hs' hstate'
    rcases h.sent s' hs' hstate' with (hout | hposted) | hmarked
    · exact .inl (.inl (mem_append_left _ hout))
    · exact .inl (.inr hposted)
    · cases hmarked
      exact .inl (.inl (mem_append_right _ (mem_singleton.2 rfl)))
  · intro s' hs' hsync
    cases hcalls s' hs' hsync
    rw [hsync]
    rfl
  · intro id hid
    split at hid
    · exact h.last id hid
    · cases hid
  · split
    next hsync => exact ⟨⟨s, hs, rfl, hsync⟩, nofun⟩
    · trivial

/-- The slot of a call's own request is given back. -/
theorem freed (h : Tended c p phase) (hs : s ∈ p.slots) (hown : phase.own = some s.id)
    (hsent : ¬ p.Sent s) : Tended c (p.free s) .running := by
  have hmem : ∀ {s'}, s' ∈ (p.free s).slots ↔ s' ∈ p.slots ∧ s' ≠ s := by simp [Pending.free]
  -- the thread is about one request only
  have hother : ∀ {s'}, s' ∈ (p.free s).slots → phase.own ≠ some s'.id := by
    intro s' hs' hown'
    obtain ⟨hold, hne⟩ := hmem.1 hs'
    exact hne (h.table.eq_of_id hold hs (Option.some.inj (hown'.symm.trans hown)))
  constructor
  case table => exact h.table.free hsent
  case healthy => exact h.healthy
  case context => exact fun s' hs' => h.context s' (hmem.1 hs').1
  case settled =>
    intro s' hs' hle
    refine h.settled s' (hmem.1 hs').1 fun s'' hs'' => ?_
    by_cases heq : s'' = s
    · rw [heq]
      exact h.last _ hown s' (hmem.1 hs').1
    · exact hle s'' (hmem.2 ⟨hs'', heq⟩)
  case sent =>
    intro s' hs' hstate
    refine .inl ((h.sent s' (hmem.1 hs').1 hstate).resolve_right fun hmarked => hother hs' ?_)
    rw [hmarked]
    rfl
  case completed =>
    intro s' hs' hstate
    refine absurd ?_ (hother hs')
    rw [h.completed s' (hmem.1 hs').1 hstate]
    rfl
  case calls => exact fun s' hs' hsync => absurd (h.calls s' (hmem.1 hs').1 hsync) (hother hs')
  case last => nofun
  case relies => trivial

theorem post (h : Tended c p phase) (id : Nat) : Tended c (p.post id) phase := by
  obtain ⟨hslots, hnext, herror⟩ := p.post_keeps id
  have hsent : ∀ {s}, s ∈ p.slots → ((p.post id).Sent s ↔ p.Sent s) := fun hs =>
    h.table.sent_post hs id
  constructor
  case table => exact h.table.post id
  case healthy => rw [herror, h.healthy]
  case sent =>
    rw [hslots]
    exact fun s hs hstate => (h.sent s hs hstate).imp_left (hsent hs).2
  case relies =>
    have hrelies := h.relies
    cases phase with
    | idle | running => trivial
    | claimed =>
      obtain ⟨hid, hfresh⟩ := hrelies
      exact ⟨by rwa [hnext], by rwa [hslots]⟩
    | marked s =>
      obtain ⟨hs, hstate, hunsent⟩ := hrelies
      exact ⟨hslots ▸ hs, hstate, fun hsent' => hunsent ((hsent hs).1 hsent')⟩
    | drain due =>
      cases due with
      | through | reference => trivial
      | request =>
        refine ⟨hslots ▸ hrelies.1, fun ring hring => ?_⟩
        obtain ⟨s, hs, hrest, hsent'⟩ := hrelies.2 ring hring
        exact ⟨s, hslots ▸ hs, hrest, (hsent hs).2 hsent'⟩
  all_goals rw [hslots]
  case context => exact h.context
  case settled => exact h.settled
  case completed => exact h.completed
  case calls => exact h.calls
  case last => exact h.last

/-- There is nothing to finish that was not finished. -/
theorem process_eq (h : Tended c p phase) (covers : Option Nat → Bool) :
    (p.process covers).1 = p := by
  have hnone : nextReady covers p.slots = none := by
    refine find?_eq_none.2 fun s hs hready => ?_
    simp only [decide_eq_true_eq] at hready
    obtain ⟨hstate, -, hfirst⟩ := hready
    refine h.settled s hs (fun s' hs' => (first_eq_some hfirst).2.2 s' hs' ?_) hstate
    rw [h.context s hs, h.context s' hs']
  simp only [Pending.process, processReady_of_none hnone]

/-- A thread takes a completion, before it submits or while it drains. -/
theorem taken (h : Tended c p phase) {covers : Option Nat → Bool} (hcovers : covers (some c) = true)
    {rest : List Nat} (hposted : p.posted ring = id :: rest)
    (hphase : phase = .running ∧ phase' = .running ∨
      ∃ due, phase = .drain due .consuming ∧ phase' = .drain due .draining) :
    Tended c (p.take covers ring).1 phase' := by
  obtain ⟨s₀, hs₀, rfl, -, hstate₀, done, left, heq, hfin, hsettled, hinv⟩ :=
    h.table.take covers h.healthy hposted
  rw [heq]
  have hown : phase'.own = phase.own := by
    rcases hphase with ⟨rfl, rfl⟩ | ⟨due, rfl, rfl⟩
    · rfl
    · cases due <;> rfl
  have hcall : ∀ {id}, phase.own = some id → phase' = .drain (.request id) .draining := by
    intro id hid
    rcases hphase with ⟨rfl, -⟩ | ⟨due, rfl, rfl⟩
    · cases hid
    · cases due with
      | through | reference => cases hid
      | request => cases hid; rfl
  have hnot : (∀ s, phase ≠ .marked s) ∧ ∀ id, phase ≠ .drain (.request id) .draining := by
    rcases hphase with ⟨rfl, -⟩ | ⟨due, rfl, -⟩ <;> exact ⟨nofun, nofun⟩
  -- what is left comes from what was there, and what has changed is no longer submitted
  have hfrom : ∀ {s}, s ∈ left → ∃ s' ∈ p.slots, s'.id = s.id ∧ s'.context = s.context ∧
      s'.synchronous = s.synchronous ∧ (s' = s ∧ s ≠ s₀ ∨ s.state ≠ .submitted ∧
        (s.state = .completed → s.synchronous = true)) := by
    intro s hs
    rcases hfin.mem hs with hmem | ⟨hstate, hsync, -, hmem⟩ <;>
      rcases mem_setState.1 hmem with ⟨hold, hne⟩ | ⟨-, hs'⟩
    · exact ⟨s, hold, rfl, rfl, rfl, .inl ⟨rfl, hne⟩⟩
    · subst hs'
      exact ⟨s₀, hs₀, rfl, rfl, rfl, .inr ⟨nofun, nofun⟩⟩
    · exact ⟨_, hold, rfl, rfl, rfl, .inr ⟨by rw [hstate]; nofun, fun _ => hsync⟩⟩
    · injection hs' with hid hctx _ hsync'
      exact ⟨s₀, hs₀, hid.symm, hctx.symm, hsync'.symm,
        .inr ⟨by rw [hstate]; nofun, fun _ => hsync⟩⟩
  constructor
  case table => exact hinv
  case healthy => exact h.healthy
  case context =>
    intro s hs
    obtain ⟨s', hs', -, hctx, -⟩ := hfrom hs
    rw [← hctx]
    exact h.context s' hs'
  case settled =>
    intro s hs hle hstate
    obtain ⟨s', hs', -, hctx, -⟩ := hfrom hs
    obtain ⟨f, hf⟩ := exists_first hs
    obtain ⟨hmem, -, hfle⟩ := first_eq_some hf
    cases hinv.eq_of_id hmem hs (le_antisymm (hfle s hs rfl) (hle f hmem))
    refine find?_eq_none.1 hsettled s hs (decide_eq_true ⟨hstate, ?_, hf⟩)
    rwa [← hctx, h.context s' hs']
  case sent =>
    intro s hs hstate
    obtain ⟨s', hs', -, -, -, hcase⟩ := hfrom hs
    obtain ⟨rfl, hne⟩ := hcase.resolve_right fun hchanged => hchanged.1 hstate
    have hsent := (h.sent s' hs' hstate).resolve_right (hnot.1 s')
    exact .inl
      ((Pending.sent_unposted hposted fun hid => hne (h.table.eq_of_id hs' hs₀ hid)).2 hsent)
  case completed =>
    intro s hs hstate
    obtain ⟨s', hs', hid, -, hsync, hcase⟩ := hfrom hs
    rcases hcase with ⟨rfl, -⟩ | hchanged
    · exact absurd (h.completed s' hs' hstate) (hnot.2 _)
    · rw [← hid]
      exact hcall (h.calls s' hs' (hsync.trans (hchanged.2 hstate)))
  case calls =>
    intro s hs hsync
    obtain ⟨s', hs', hid, -, hsync', -⟩ := hfrom hs
    rw [hown, ← hid]
    exact h.calls s' hs' (hsync'.trans hsync)
  case last =>
    rw [hown]
    intro id hid s hs
    obtain ⟨s', hs', hid', -⟩ := hfrom hs
    rw [← hid']
    exact h.last id hid s' hs'
  case relies =>
    rcases hphase with ⟨-, rfl⟩ | ⟨due, rfl, rfl⟩
    · trivial
    cases due with
    | through | reference => trivial
    | request id =>
      refine ⟨?_, nofun⟩
      obtain ⟨s, hs, hid, hsync⟩ := h.relies.1
      have hready : ∃ s' ∈ setState p.slots s₀ .ready, s'.id = id ∧ s'.synchronous = true := by
        by_cases heq : s = s₀
        · subst heq
          exact ⟨_, mem_setState.2 (.inr ⟨hs, rfl⟩), hid, hsync⟩
        · exact ⟨s, mem_setState.2 (.inl ⟨hs, heq⟩), hid, hsync⟩
      obtain ⟨s', hs', hid', hsync'⟩ := hready
      exact (hfin.forward hs' hsync').elim (⟨_, ·, hid', hsync'⟩) (⟨_, ·, hid', hsync'⟩)

end Tended

namespace Waits

/-- What the thread does that has the gate of the context. -/
def tending (d : Waits) (c : Nat) : WaitPhase :=
  match d.gates (some c) with
  | none => .idle
  | some t => d.threads t

/-- A thread in a call has the gate, so that there is only one. -/
structure Inv (c : Nat) (d : Waits) : Prop where
  tended : Tended c d.pending (d.tending c)
  gate : ∀ t, (d.threads t).active = true → d.gates (some c) = some t

theorem Inv.start (c : Nat) : Inv c {} := ⟨Tended.start c, nofun⟩

variable {d : Waits} {c t : Nat} {ring : CompletionRing}

section

variable (h : Inv c d)

include h

theorem Inv.at {phase : WaitPhase} (hphase : d.threads t = phase) (hact : phase.active = true) :
    Tended c d.pending phase ∧ d.gates (some c) = some t := by
  subst hphase
  have htend := h.tended
  rw [tending, h.gate t hact] at htend
  exact ⟨htend, h.gate t hact⟩

/-- **The thread that has the gate takes a step.** -/
theorem Inv.acts {p : Pending Unit} {phase : WaitPhase} (hgate : d.gates (some c) = some t)
    (htend : Tended c p phase) :
    Inv c { d with pending := p, threads := update d.threads t phase } := by
  constructor
  · simpa [tending, hgate] using htend
  · intro t' hact
    by_cases heq : t' = t
    · rw [heq]
      exact hgate
    · exact h.gate t' (by simpa [update_of_ne heq] using hact)

/-- It gives back the gate, for good or for a slice. -/
theorem Inv.unlocks {phase phase' : WaitPhase} (hphase : d.threads t = phase)
    (hact : phase.active = true) (hbefore : phase.own = none) (hafter : phase'.active = false) :
    Inv c ((d.unlock t).setThread t phase') := by
  obtain ⟨htend, hgate⟩ := h.at hphase hact
  have hfree : ((d.unlock t).setThread t phase').gates (some c) = none := by
    simp [unlock, setThread, hgate]
  constructor
  · rw [tending, hfree]
    exact htend.of_none hbefore rfl
  · intro t' hact'
    by_cases heq : t' = t
    · simp [setThread, heq, hafter] at hact'
    · have hgate' := h.gate t' (by simpa [setThread, unlock, update_of_ne heq] using hact')
      rw [hgate] at hgate'
      exact absurd (Option.some.inj hgate').symm heq

/-- A thread takes the gate when nobody has it. -/
theorem Inv.locks {gates : Option Nat → Option Nat} {phase : WaitPhase}
    (hfree : d.gates (some c) = none) (hgates : gates (some c) = some t)
    (hphase : phase.own = none) :
    Inv c { d with gates, threads := update d.threads t phase } := by
  constructor
  · have htend := h.tended
    rw [Waits.tending, hfree] at htend
    simpa [Waits.tending, hgates] using htend.of_none rfl hphase
  · intro t' hact'
    by_cases heq : t' = t
    · rw [heq]
      exact hgates
    · have hgate' := h.gate t' (by simpa [update_of_ne heq] using hact')
      rw [hfree] at hgate'
      cases hgate'

theorem Inv.enter (hc : c < objectCapacity) {context : Option Nat}
    (hon : context = none ∨ context = some c) : Inv c (d.enter t context) := by
  unfold Waits.enter
  split
  · exact h
  split
  · split
    next hunlocked =>
      have hfree := d.unlocked_gate hc hunlocked
      exact h.locks hfree (by simp [lock, hfree]) rfl
    · exact h
  next index =>
    split
    next hfree =>
      cases hon.resolve_left nofun
      exact h.locks hfree.2 (update_self ..) rfl
    · exact h

theorem Inv.wake (hc : c < objectCapacity) : Inv c (d.wake t) := by
  unfold Waits.wake
  split
  next due ring hphase =>
    cases due with
    | request id =>
      simp only [Due.sliced, Bool.false_eq_true, if_false]
      split
      · obtain ⟨htend, hgate⟩ := h.at hphase rfl
        exact h.acts hgate (htend.at_point (htend.not_completed nofun) nofun)
      · exact h
    | through | reference =>
      simp only [Due.sliced, if_true]
      split
      next hunlocked =>
        have hfree := d.unlocked_gate hc hunlocked
        exact h.locks hfree (by simp [lock, hfree]) rfl
      · exact h
  · exact h

theorem Inv.wait : Inv c (d.wait t) := by
  unfold Waits.wait
  split
  next due hphase =>
    obtain ⟨htend, hgate⟩ := h.at hphase rfl
    cases due with
    | request id =>
      refine h.acts hgate (htend.at_point (htend.not_completed nofun) fun ring hring => ?_)
      cases hring
      exact htend.earliest_sent
    | through | reference => exact h.unlocks hphase rfl rfl rfl
  · exact h

theorem Inv.poll : Inv c (d.poll t ring) := by
  unfold Waits.poll
  split
  next hphase =>
    obtain ⟨htend, hgate⟩ := h.at hphase rfl
    rw [htend.process_eq]
    cases hposted : d.pending.posted ring with
    | nil =>
      have heq : d.pending.take (d.covers t) ring = (d.pending, []) := by
        simp only [Pending.take, htend.healthy, hposted]
      rw [heq]
      exact h
    | cons id rest =>
      have hcovers : d.covers t (some c) = true := decide_eq_true hgate
      have hinv := h.acts hgate (htend.taken hcovers hposted (.inl ⟨rfl, rfl⟩))
      rwa [← hphase, update_eq_self] at hinv
  · exact h

theorem Inv.take : Inv c (d.take t ring) := by
  unfold Waits.take
  split
  next due id rest hphase hposted =>
    obtain ⟨htend, hgate⟩ := h.at hphase rfl
    have hcovers : d.covers t (some c) = true := decide_eq_true hgate
    have htaken := htend.taken hcovers hposted (.inr ⟨due, rfl, rfl⟩)
    simp only [htaken.healthy, if_true]
    exact h.acts hgate htaken
  · exact h

theorem Inv.examine : Inv c (d.examine t) := by
  unfold Waits.examine
  split
  next due hphase =>
    obtain ⟨htend, hgate⟩ := h.at hphase rfl
    simp only [htend.process_eq]
    split
    next hnone =>
      cases due with
      | request id =>
        obtain ⟨s, hs, hid, -⟩ := htend.relies.1
        exact absurd (decide_eq_true hid) (find?_eq_none.1 hnone s hs)
      | through | reference => exact h.acts hgate (htend.of_none rfl rfl)
    next s hfind =>
      have hs := mem_of_find?_eq_some hfind
      cases due with
      | request id =>
        have hid : s.id = id := by simpa [Due.found] using find?_some hfind
        split
        next hcompl =>
          refine h.acts hgate (htend.freed hs (by rw [hid]; rfl) fun hsent => ?_)
          rw [htend.table.submitted hs hsent] at hcompl
          cases hcompl.2
        next hcompl =>
          refine h.acts hgate (htend.at_point (fun s' hs' hid' hstate => ?_) nofun)
          refine hcompl ⟨rfl, ?_⟩
          rwa [htend.table.eq_of_id hs hs' (hid.trans hid'.symm)]
      | through | reference =>
        simp only [Due.sliced, Bool.true_eq_false, false_and, if_false]
        exact h.acts hgate (htend.of_none rfl rfl)
  · exact h

theorem Inv.step (hc : c < objectCapacity) (move : WaitMove) (hon : move.on c) :
    Inv c (d.step move) := by
  cases move with
  | enter => exact h.enter hc (of_decide_eq_true hon)
  | wake => exact h.wake hc
  | wait => exact h.wait
  | poll => exact h.poll
  | take => exact h.take
  | examine => exact h.examine
  | post id => exact ⟨h.tended.post id, h.gate⟩
  | leave t =>
    simp only [Waits.step, Waits.leave]
    split
    next hphase => exact h.unlocks hphase rfl rfl rfl
    · exact h
  | claim t =>
    simp only [Waits.step, Waits.claim]
    split
    next hphase =>
      obtain ⟨htend, hgate⟩ := h.at hphase.1 rfl
      exact h.acts hgate htend.claim
    · exact h
  | mark t context ring synchronous =>
    simp only [Waits.step, Waits.mark]
    split
    next id hphase =>
      split
      · obtain ⟨htend, hgate⟩ := h.at hphase rfl
        exact h.acts hgate
          (Tended.mark (s := ⟨id, context, ring, synchronous, (), .submitted⟩) htend
            (of_decide_eq_true hon) rfl)
      · exact h
    · exact h
  | hand t taken =>
    simp only [Waits.step, Waits.hand]
    split
    next s hphase =>
      obtain ⟨htend, hgate⟩ := h.at hphase rfl
      split
      · exact h.acts hgate htend.hand
      · exact h.acts hgate (htend.freed htend.relies.1 rfl htend.relies.2.2)
    · exact h
  | synchronize t due =>
    simp only [Waits.step, Waits.synchronize]
    split
    next hphase =>
      obtain ⟨htend, hgate⟩ := h.at hphase.1 rfl
      refine h.acts hgate (htend.of_none rfl ?_)
      cases due with
      | request => cases hphase.2.2
      | through | reference => rfl
    · exact h
  | nothing t =>
    simp only [Waits.step, Waits.nothing]
    split
    next due hphase =>
      obtain ⟨htend, hgate⟩ := h.at hphase rfl
      split
      next hcount =>
        cases due with
        | request id =>
          obtain ⟨s, hs, -⟩ := htend.relies.1
          have := length_pos_of_mem hs
          simp only [Pending.pendingCount] at hcount
          omega
        | through | reference => exact h.acts hgate (htend.of_none rfl rfl)
      · exact h
    · exact h
  | look t =>
    simp only [Waits.step, Waits.look]
    split
    next due hphase =>
      obtain ⟨htend, hgate⟩ := h.at hphase rfl
      split
      · cases due with
        | request =>
          exact h.acts hgate (htend.at_point (htend.not_completed nofun) nofun)
        | through | reference => exact h.acts hgate (htend.of_none rfl rfl)
      · exact h
    · exact h

end

end Waits

end MetaFlux.Cuda
