/-
# Pending requests

A request that the driver submits has a slot in one table until it is finished.  Its command goes to
the daemon, the daemon posts a completion on one of two rings, and whoever looks at the rings takes
it off, whosever it is; but only a thread that has the gate of the request's context finishes it,
and the requests of a context are finished in their order.

* §1 is the table, the rings and the daemon.  A slot counts as submitted BEFORE the ring takes its
  command (`mark`, `hand`).  There are twice as many places in the ring as slots in the table, so
  that a command never waits for room.
* §2: nothing is lost between the table and the rings (`Pending.Inv`).
* §3 is the loop that finishes what is ready (`processReady`), as requests that are finished one
  after the other (`Finishes`).
* §4 is what a thread takes off a ring (`take`), and what is left when it gives up (`abandon`).

What a request is about is a parameter.  Contexts stand for one generation of their slot.
-/
import Mathlib

open Function

namespace MetaFlux.Cuda

open List

/-! ## 1. The table, the rings and the daemon -/

/-- Copies and launches go through the device, if it is there; everything else does not. -/
inductive CompletionRing where
  | unix | cdev
deriving DecidableEq, Repr

/-- A slot is ready when its completion was taken off the ring, and completed when it was finished
and waits for the call that is to read its result. -/
inductive SlotState where
  | submitted | ready | completed
deriving DecidableEq, Repr

/-- A slot in use.  `synchronous` is that a call waits for its result. -/
structure Slot (α : Type) where
  id : Nat
  context : Option Nat
  ring : CompletionRing
  synchronous : Bool
  work : α
  state : SlotState := .submitted
deriving DecidableEq, Repr

/-- Why completions are no longer taken: a wait reached its limit, or one came that is of no
request. -/
inductive TransportError where
  | notReady | unknown
deriving DecidableEq, Repr

/-- `preparing` counts the slots that are claimed and not yet marked, `outstanding` are the requests
whose command was handed to the daemon and not answered. -/
structure Pending (α : Type) where
  nextRequest : Nat := 0
  preparing : Nat := 0
  slots : List (Slot α) := []
  outstanding : List (Slot α) := []
  posted : CompletionRing → List Nat := fun _ => []
  transportError : Option TransportError := none

variable {α : Type}

namespace Pending

variable (p : Pending α)

def claim : Pending α :=
  { p with nextRequest := p.nextRequest + 1, preparing := p.preparing + 1 }

def mark (s : Slot α) : Pending α :=
  { p with preparing := p.preparing - 1, slots := p.slots ++ [s] }

/-- The ring takes the command. -/
def hand (s : Slot α) : Pending α := { p with outstanding := p.outstanding ++ [s] }

/-- The daemon answers, in any order. -/
def post (id : Nat) : Pending α :=
  match p.outstanding.find? (·.id = id) with
  | none => p
  | some s =>
    { p with
      outstanding := p.outstanding.filter (·.id ≠ id)
      posted := update p.posted s.ring (p.posted s.ring ++ [id]) }

theorem post_keeps (id : Nat) : (p.post id).slots = p.slots ∧
    (p.post id).nextRequest = p.nextRequest ∧ (p.post id).transportError = p.transportError := by
  unfold post
  split <;> exact ⟨rfl, rfl, rfl⟩

/-- `MF_CUDA_PENDING_CAPACITY`. -/
def pendingCapacity : Nat := 128

def pendingCount : Nat := p.preparing + p.slots.length

end Pending

def earliest (slots : List (Slot α)) : Option (Slot α) := slots.argmin Slot.id

/-- The earliest of a context. -/
def first (slots : List (Slot α)) (context : Option Nat) : Option (Slot α) :=
  earliest (slots.filter (·.context = context))

/-- The ring of the earliest request, whatever its state. -/
def Pending.earliestTransport (p : Pending α) : CompletionRing :=
  match earliest p.slots with
  | none => .unix
  | some s => s.ring

variable {slots left done : List (Slot α)} {s s' : Slot α} {covers : Option Nat → Bool}

theorem earliest_eq_some (h : earliest slots = some s) : s ∈ slots ∧ ∀ s' ∈ slots, s.id ≤ s'.id :=
  ⟨argmin_mem h, fun _ hs' => le_of_mem_argmin hs' h⟩

theorem exists_earliest (h : s ∈ slots) : ∃ e, earliest slots = some e := by
  cases he : earliest slots with
  | none =>
    rw [earliest, argmin_eq_none] at he
    rw [he] at h
    cases h
  | some e => exact ⟨e, rfl⟩

theorem first_eq_some {context : Option Nat} (h : first slots context = some s) :
    s ∈ slots ∧ s.context = context ∧ ∀ s' ∈ slots, s'.context = context → s.id ≤ s'.id := by
  obtain ⟨hmem, hle⟩ := earliest_eq_some h
  simp only [mem_filter, decide_eq_true_eq] at hmem hle
  exact ⟨hmem.1, hmem.2, fun s' hs' hc => hle s' ⟨hs', hc⟩⟩

theorem exists_first (h : s ∈ slots) : ∃ f, first slots s.context = some f :=
  exists_earliest (mem_filter.2 ⟨h, decide_eq_true rfl⟩)

/-! ## 2. Nothing is lost -/

namespace Pending

variable {p : Pending α} {ring : CompletionRing} {id : Nat} {rest : List Nat}

/-- A command that is outstanding has its slot, and so has a completion on a ring; nothing is both.
-/
structure Inv (p : Pending α) : Prop where
  ids : ∀ s ∈ p.slots, s.id ≤ p.nextRequest
  unique : (p.slots.map Slot.id).Nodup
  outstanding : ∀ s ∈ p.outstanding, s ∈ p.slots ∧ s.state = .submitted
  posted : ∀ {ring id}, id ∈ p.posted ring →
    ∃ s ∈ p.slots, s.id = id ∧ s.ring = ring ∧ s.state = .submitted ∧ s ∉ p.outstanding
  once : ∀ ring, (p.posted ring).Nodup

/-- The daemon has the command, or has answered it. -/
def Sent (p : Pending α) (s : Slot α) : Prop := s ∈ p.outstanding ∨ ∃ ring, s.id ∈ p.posted ring

theorem mem_unposted (hposted : p.posted ring = id :: rest) {r : CompletionRing} {i : Nat}
    (hi : i ∈ update p.posted ring rest r) : i ∈ p.posted r := by
  by_cases hr : r = ring
  · subst hr
    rw [update_self] at hi
    rw [hposted]
    exact mem_cons_of_mem _ hi
  · rwa [update_of_ne hr] at hi

theorem sent_unposted (hposted : p.posted ring = id :: rest) (hid : s.id ≠ id) :
    Sent { p with posted := update p.posted ring rest } s ↔ p.Sent s := by
  constructor
  · exact Or.imp_right fun ⟨r, hr⟩ => ⟨r, mem_unposted hposted hr⟩
  · refine Or.imp_right fun ⟨r, hr⟩ => ⟨r, ?_⟩
    by_cases heq : r = ring
    · subst heq
      rw [hposted] at hr
      simpa using (mem_cons.1 hr).resolve_left hid
    · simpa [update_of_ne heq] using hr

theorem Inv.start : Inv ({} : Pending α) where
  ids := nofun
  unique := nodup_nil
  outstanding := nofun
  posted := nofun
  once := fun _ => nodup_nil

section

variable (h : Inv p)

include h

theorem Inv.eq_of_id (hs : s ∈ p.slots) (hs' : s' ∈ p.slots) (hid : s.id = s'.id) : s = s' :=
  inj_on_of_nodup_map h.unique hs hs' hid

/-- A table with the same requests, or fewer: those that were sent and not answered are in it. -/
theorem Inv.withSlots (hids : left.map Slot.id <+ p.slots.map Slot.id)
    (hkeep : ∀ s ∈ p.slots, s.state = .submitted → p.Sent s → s ∈ left) :
    Inv { p with slots := left } where
  ids := by
    intro s hs
    obtain ⟨s', hs', hid⟩ := mem_map.1 (hids.subset (mem_map_of_mem hs))
    rw [← hid]
    exact h.ids s' hs'
  unique := h.unique.sublist hids
  outstanding := fun s hs =>
    ⟨hkeep s (h.outstanding s hs).1 (h.outstanding s hs).2 (.inl hs), (h.outstanding s hs).2⟩
  posted := by
    intro ring id hid
    obtain ⟨s, hs, rfl, hring, hstate, hout⟩ := h.posted hid
    exact ⟨s, hkeep s hs hstate (.inr ⟨ring, hid⟩), rfl, hring, hstate, hout⟩
  once := h.once

theorem Inv.claim : Inv p.claim := { h with ids := fun s hs => Nat.le.step (h.ids s hs) }

theorem Inv.mark (hid : s.id ≤ p.nextRequest) (hnew : ∀ s' ∈ p.slots, s'.id ≠ s.id) :
    Inv (p.mark s) where
  ids := by
    intro s' hs'
    rcases mem_append.1 hs' with hold | hnew
    · exact h.ids s' hold
    · rw [mem_singleton.1 hnew]
      exact hid
  unique := by
    simp only [Pending.mark, map_append, map_cons, map_nil]
    refine nodup_append.2 ⟨h.unique, nodup_singleton _, ?_⟩
    intro a ha b hb
    obtain ⟨s', hs', rfl⟩ := mem_map.1 ha
    rw [mem_singleton.1 hb]
    exact hnew s' hs'
  outstanding :=
    fun s' hs' => ⟨mem_append_left _ (h.outstanding s' hs').1, (h.outstanding s' hs').2⟩
  posted := by
    intro ring id hid
    obtain ⟨s', hs', hrest⟩ := h.posted hid
    exact ⟨s', mem_append_left _ hs', hrest⟩
  once := h.once

theorem Inv.hand (hs : s ∈ p.slots) (hstate : s.state = .submitted) (hsent : ¬ p.Sent s) :
    Inv (p.hand s) := by
  refine { h with outstanding := ?_, posted := ?_ }
  · intro s' hs'
    rcases mem_append.1 hs' with hold | hnew
    · exact h.outstanding s' hold
    · rw [mem_singleton.1 hnew]
      exact ⟨hs, hstate⟩
  · intro ring id hid
    obtain ⟨s', hs', rfl, hring, hstate', hout⟩ := h.posted hid
    refine ⟨s', hs', rfl, hring, hstate', fun hmem => ?_⟩
    rcases mem_append.1 hmem with hold | hnew
    · exact hout hold
    · rw [mem_singleton.1 hnew] at hid
      exact hsent (.inr ⟨ring, hid⟩)

theorem Inv.post (id : Nat) : Inv (p.post id) := by
  unfold Pending.post
  split
  · exact h
  next s hfind =>
    have hmem := mem_of_find?_eq_some hfind
    have hid : s.id = id := by simpa using find?_some hfind
    subst hid
    refine { h with outstanding := ?_, posted := ?_, once := ?_ }
    · exact fun s' hs' => h.outstanding s' (mem_filter.1 hs').1
    · intro ring id hid
      have hcase : id ∈ p.posted ring ∨ id = s.id ∧ ring = s.ring := by
        by_cases hring : ring = s.ring
        · subst hring
          simpa using hid
        · exact .inl (by simpa [update_of_ne hring] using hid)
      rcases hcase with hold | ⟨rfl, rfl⟩
      · obtain ⟨s', hs', rfl, hring, hstate, hout⟩ := h.posted hold
        exact ⟨s', hs', rfl, hring, hstate, fun hmem => hout (mem_filter.1 hmem).1⟩
      · refine ⟨s, (h.outstanding s hmem).1, rfl, rfl, (h.outstanding s hmem).2, ?_⟩
        simp
    · intro ring
      by_cases hring : ring = s.ring
      · subst hring
        simp only [update_self]
        refine nodup_append.2 ⟨h.once _, nodup_singleton _, fun a ha b hb heq => ?_⟩
        -- what was posted is not outstanding
        rw [heq, mem_singleton.1 hb] at ha
        obtain ⟨s', hs', hid, -, -, hout⟩ := h.posted ha
        exact hout (h.eq_of_id (h.outstanding s hmem).1 hs' hid.symm ▸ hmem)
      · simp only [update_of_ne hring]
        exact h.once ring

theorem Inv.submitted (hs : s ∈ p.slots) (hsent : p.Sent s) : s.state = .submitted := by
  rcases hsent with hmem | ⟨r, hr⟩
  · exact (h.outstanding s hmem).2
  · obtain ⟨s', hs', hid, -, hstate, -⟩ := h.posted hr
    rwa [← h.eq_of_id hs' hs hid]

theorem Inv.sent_post (hs : s ∈ p.slots) (id : Nat) : (p.post id).Sent s ↔ p.Sent s := by
  unfold Pending.post
  split
  · exact Iff.rfl
  next s' hfind =>
    have hmem := mem_of_find?_eq_some hfind
    have hid : s'.id = id := by simpa using find?_some hfind
    subst hid
    by_cases heq : s = s'
    · subst heq
      exact ⟨fun _ => .inl hmem, fun _ => .inr ⟨s.ring, by simp⟩⟩
    have hne : s.id ≠ s'.id := fun hid => heq (h.eq_of_id hs (h.outstanding s' hmem).1 hid)
    have hposted : ∀ r, s.id ∈ update p.posted s'.ring (p.posted s'.ring ++ [s'.id]) r ↔
        s.id ∈ p.posted r := by
      intro r
      by_cases hr : r = s'.ring
      · subst hr
        simp [hne]
      · rw [update_of_ne hr]
    simp [Sent, hne, hposted]

/-- The completion that is taken is of a request that is submitted, and of which there is no other.
-/
theorem Inv.taken (hposted : p.posted ring = id :: rest) :
    ∃ s ∈ p.slots, s.id = id ∧ s.ring = ring ∧ s.state = .submitted ∧
      p.slots.find? (·.id = id) = some s ∧
      ¬ Sent { p with posted := update p.posted ring rest } s := by
  have hhead : id ∈ p.posted ring := by
    rw [hposted]
    exact mem_cons_self
  obtain ⟨s, hs, rfl, rfl, hstate, hout⟩ := h.posted hhead
  refine ⟨s, hs, rfl, rfl, hstate, ?_, ?_⟩
  · cases hfind : p.slots.find? (·.id = s.id) with
    | none => exact absurd (find?_eq_none.1 hfind s hs) (by simp)
    | some s' =>
      have hid : s'.id = s.id := by simpa using find?_some hfind
      rw [h.eq_of_id (mem_of_find?_eq_some hfind) hs hid]
  · rintro (hmem | ⟨r, hr⟩)
    · exact hout hmem
    · have honce := h.once s.ring
      rw [hposted, nodup_cons] at honce
      by_cases hring : r = s.ring
      · subst hring
        exact honce.1 (by simpa using hr)
      · simp only [update_of_ne hring] at hr
        obtain ⟨s', hs', hid, hring', -⟩ := h.posted hr
        exact hring (hring'.symm.trans (by rw [h.eq_of_id hs' hs hid]))

theorem Inv.unposted (hposted : p.posted ring = id :: rest) :
    Inv { p with posted := update p.posted ring rest } := by
  refine { h with posted := fun hid => h.posted (mem_unposted hposted hid), once := fun r => ?_ }
  by_cases hr : r = ring
  · subst hr
    have honce := h.once r
    rw [hposted, nodup_cons] at honce
    simpa using honce.2
  · simpa [update_of_ne hr] using h.once r

end

end Pending

/-! ## 3. Finishing what is ready -/

variable [DecidableEq α]

def setState (slots : List (Slot α)) (s : Slot α) (state : SlotState) : List (Slot α) :=
  slots.map fun s' => if s' = s then { s with state } else s'

/-- A request that is finished leaves the table, or waits in it for its call. -/
def retire (slots : List (Slot α)) (s : Slot α) : List (Slot α) :=
  if s.synchronous then setState slots s .completed else slots.filter (· ≠ s)

/-- A request that is ready and the first of its context, which the thread covers. -/
def nextReady (covers : Option Nat → Bool) (slots : List (Slot α)) : Option (Slot α) :=
  slots.find? fun s => s.state = .ready ∧ covers s.context = true ∧ first slots s.context = some s

theorem nextReady_eq_some (h : nextReady covers slots = some s) :
    s ∈ slots ∧ s.state = .ready ∧ covers s.context = true ∧ first slots s.context = some s :=
  ⟨mem_of_find?_eq_some h, by simpa only [decide_eq_true_eq] using find?_some h⟩

/-- `mf_cuda_process_ready_locked`: the requests that are finished, one after the other, and the
table that is left.  Which context comes first does not matter. -/
def processReady (covers : Option Nat → Bool) : Nat → List (Slot α) → List (Slot α) × List (Slot α)
  | 0, slots => ([], slots)
  | fuel + 1, slots =>
    match nextReady covers slots with
    | none => ([], slots)
    | some s =>
      let next := processReady covers fuel (retire slots s)
      (s :: next.1, next.2)

/-- The requests are finished one after the other, and each was ready and covered. -/
inductive Finishes (covers : Option Nat → Bool) :
    List (Slot α) → List (Slot α) → List (Slot α) → Prop
  | none (slots : List (Slot α)) : Finishes covers slots [] slots
  | next {slots done left : List (Slot α)} {s : Slot α} (hs : s ∈ slots) (hready : s.state = .ready)
    (hcovers : covers s.context = true) (h : Finishes covers (retire slots s) done left) :
    Finishes covers slots (s :: done) left

theorem processReady_finishes (fuel : Nat) : ∀ slots : List (Slot α),
    Finishes covers slots (processReady covers fuel slots).1
    (processReady covers fuel slots).2 := by
  induction fuel with
  | zero => exact Finishes.none
  | succ fuel ih =>
    intro slots
    simp only [processReady]
    split
    · exact .none slots
    next hnext =>
      obtain ⟨hs, hready, hcovers, -⟩ := nextReady_eq_some hnext
      exact .next hs hready hcovers (ih _)

theorem processReady_of_none (h : nextReady covers slots = none) (fuel : Nat) :
    processReady covers fuel slots = ([], slots) := by
  cases fuel with
  | zero => rfl
  | succ => simp only [processReady, h]

theorem mem_setState {state : SlotState} :
    s' ∈ setState slots s state ↔ s' ∈ slots ∧ s' ≠ s ∨ s ∈ slots ∧ s' = { s with state } := by
  simp only [setState, mem_map]
  constructor
  · rintro ⟨before, hbefore, rfl⟩
    split_ifs with heq
    · exact .inr ⟨heq ▸ hbefore, rfl⟩
    · exact .inl ⟨hbefore, heq⟩
  · rintro (⟨hmem, hne⟩ | ⟨hmem, rfl⟩)
    · exact ⟨s', hmem, if_neg hne⟩
    · exact ⟨s, hmem, if_pos rfl⟩

theorem setState_ids (slots : List (Slot α)) (s : Slot α) (state : SlotState) :
    (setState slots s state).map Slot.id = slots.map Slot.id := by
  rw [setState, map_map]
  refine map_congr_left fun s' _ => ?_
  simp only [comp_apply]
  split_ifs with heq
  · rw [heq]
  · rfl

theorem mem_retire : s' ∈ retire slots s ↔ s' ∈ slots ∧ s' ≠ s ∨
    s.synchronous = true ∧ s ∈ slots ∧ s' = { s with state := .completed } := by
  unfold retire
  split_ifs with hsync
  · simp only [mem_setState, hsync, true_and]
  · simp [hsync]

theorem retire_ids (slots : List (Slot α)) (s : Slot α) :
    (retire slots s).map Slot.id <+ slots.map Slot.id := by
  unfold retire
  split_ifs
  · rw [setState_ids]
  · exact filter_sublist.map _

/-- What is not ready, or not covered, stays as it is. -/
theorem Finishes.keeps (h : Finishes covers slots done left) (hs : s ∈ slots)
    (hstays : s.state = .ready → covers s.context = false) : s ∈ left := by
  induction h with
  | none => exact hs
  | next _ hready hcovers _ ih =>
    refine ih (mem_retire.2 (.inl ⟨hs, ?_⟩))
    rintro rfl
    rw [hstays hready] at hcovers
    cases hcovers

/-- What is left was there before, or has been completed. -/
theorem Finishes.mem (h : Finishes covers slots done left) (hs : s ∈ left) :
    s ∈ slots ∨ s.state = .completed ∧ s.synchronous = true ∧ covers s.context = true ∧
      { s with state := .ready } ∈ slots := by
  induction h with
  | none => exact .inl hs
  | next hmem hready hcovers _ ih =>
    rcases ih hs with hleft | ⟨hstate, hsync, hcovered, hbefore⟩
    · rcases mem_retire.1 hleft with ⟨hold, -⟩ | ⟨hsync, -, rfl⟩
      · exact .inl hold
      · refine .inr ⟨rfl, hsync, hcovers, ?_⟩
        rw [← hready]
        exact hmem
    · rcases mem_retire.1 hbefore with ⟨hold, -⟩ | ⟨-, -, heq⟩
      · exact .inr ⟨hstate, hsync, hcovered, hold⟩
      · injection heq with _ _ _ _ _ hstates
        cases hstates

theorem Finishes.ids (h : Finishes covers slots done left) :
    left.map Slot.id <+ slots.map Slot.id := by
  induction h with
  | none slots => exact .refl _
  | next _ _ _ _ ih => exact ih.trans (retire_ids _ _)

/-- A request that a call waits for stays in the table. -/
theorem Finishes.forward (h : Finishes covers slots done left) (hs : s ∈ slots)
    (hsync : s.synchronous = true) : s ∈ left ∨ { s with state := .completed } ∈ left := by
  induction h with
  | none => exact .inl hs
  | @next slots done left s' hmem hready _ hrest ih =>
    by_cases heq : s = s'
    · subst heq
      exact .inr (hrest.keeps (mem_retire.2 (.inr ⟨hsync, hs, rfl⟩)) nofun)
    · exact ih (mem_retire.2 (.inl ⟨hs, heq⟩))

theorem countP_retire (hs : s ∈ slots) (hready : s.state = .ready) :
    (retire slots s).countP (·.state = .ready) < slots.countP (·.state = .ready) := by
  have hret : (retire slots s).countP (·.state = .ready) =
      (slots.filter (· ≠ s)).countP (·.state = .ready) := by
    unfold retire
    split_ifs
    · rw [setState, countP_map, countP_filter]
      refine countP_congr fun s' _ => ?_
      simp only [comp_apply]
      split_ifs with heq <;> simp [heq]
    · rfl
  rw [hret, countP_eq_countP_filter_add slots (·.state = .ready) (· ≠ s)]
  exact Nat.lt_add_of_pos_right (countP_pos_iff.2 ⟨s, by simp [hs], by simp [hready]⟩)

/-- **Nothing is left to finish.** -/
theorem processReady_settled (fuel : Nat) : ∀ slots : List (Slot α),
    slots.countP (·.state = .ready) ≤ fuel →
    nextReady covers (processReady covers fuel slots).2 = none := by
  induction fuel with
  | zero =>
    intro slots hfuel
    have hnone := countP_eq_zero.1 (Nat.le_zero.1 hfuel)
    refine find?_eq_none.2 fun s hs h => ?_
    simp only [decide_eq_true_eq] at h
    exact hnone s hs (decide_eq_true h.1)
  | succ fuel ih =>
    intro slots hfuel
    simp only [processReady]
    split
    · assumption
    next hnext =>
      obtain ⟨hs, hready, -⟩ := nextReady_eq_some hnext
      have hfewer := countP_retire hs hready
      exact ih _ (by omega)

/-! ## 4. Taking completions -/

namespace Pending

variable {p : Pending α} {ring : CompletionRing} {id : Nat} {rest : List Nat}

/-- A slot is given back. -/
def free (p : Pending α) (s : Slot α) : Pending α := { p with slots := p.slots.filter (· ≠ s) }

def process (p : Pending α) (covers : Option Nat → Bool) : Pending α × List (Slot α) :=
  let r := processReady covers p.slots.length p.slots
  ({ p with slots := r.2 }, r.1)

/-- `mf_cuda_abandon_pending_locked`: the requests that the thread covers are forgotten. -/
def abandon (p : Pending α) (covers : Option Nat → Bool) (error : TransportError) : Pending α :=
  { p with slots := p.slots.filter fun s => !covers s.context, transportError := some error }

/-- `mf_cuda_consume_one_locked`, where a ring has a completion: whosever it is, its slot becomes
ready, and what the thread covers is finished. -/
def take (p : Pending α) (covers : Option Nat → Bool) (ring : CompletionRing) :
    Pending α × List (Slot α) :=
  match p.transportError, p.posted ring with
  | none, id :: rest =>
    let q := { p with posted := update p.posted ring rest }
    match p.slots.find? (·.id = id) with
    | none => (q.abandon covers .unknown, [])
    | some s =>
      if s.state = .submitted then
        process { q with slots := setState p.slots s .ready } covers
      else (q.abandon covers .unknown, [])
  | _, _ => (p, [])

section

variable (h : Inv p)

include h

theorem Inv.finishes (hfin : Finishes covers p.slots done left) : Inv { p with slots := left } :=
  h.withSlots hfin.ids fun s hs hstate _ =>
    hfin.keeps hs fun hready => by rw [hstate] at hready; cases hready

theorem Inv.free (hs : ¬ p.Sent s) : Inv (p.free s) := by
  refine h.withSlots (filter_sublist.map _) fun s' hs' _ hsent => mem_filter.2 ⟨hs', ?_⟩
  refine decide_eq_true fun heq => ?_
  rw [heq] at hsent
  exact hs hsent

/-- **One completion is taken**: its slot becomes ready, and then what is covered is finished. -/
theorem Inv.take (covers : Option Nat → Bool) (herror : p.transportError = none)
    (hposted : p.posted ring = id :: rest) :
    ∃ s ∈ p.slots, s.id = id ∧ s.ring = ring ∧ s.state = .submitted ∧ ∃ done left,
      p.take covers ring = ({ p with posted := update p.posted ring rest, slots := left }, done) ∧
      Finishes covers (setState p.slots s .ready) done left ∧ nextReady covers left = none ∧
      Inv { p with posted := update p.posted ring rest, slots := left } := by
  obtain ⟨s, hs, hid, hring, hstate, hfind, hsent⟩ := h.taken hposted
  have hfin : Finishes covers (setState p.slots s .ready) _ _ :=
    processReady_finishes (setState p.slots s .ready).length _
  refine ⟨s, hs, hid, hring, hstate, _, _, ?_, hfin,
    processReady_settled _ _ countP_le_length, ?_⟩
  · simp only [Pending.take, herror, hposted, hfind, hstate, if_true, Pending.process]
  · have hready :
        Inv { p with posted := update p.posted ring rest, slots := setState p.slots s .ready } := by
      refine (h.unposted hposted).withSlots (by rw [setState_ids]) fun s' hs' _ hsent' => ?_
      refine mem_setState.2 (.inl ⟨hs', ?_⟩)
      rintro rfl
      exact hsent hsent'
    exact hready.finishes hfin

end

end Pending

end MetaFlux.Cuda
