/-
# The queue of ranges

The open ranges are linked into a queue through their records, from the head in the control block to
the tail (`Queued`): the links pass every open range once, the ranges lie end to end and the last
ends at the high water mark.  Every move keeps that; linking adds at the tail, unlinking takes from
the head, and nothing else touches the queue (`Move.queued`).
-/
import MetaFlux.Base.Interval
import MetaFlux.Base.Linked
import MetaFlux.Registry.Effects

namespace MetaFlux.Registry

open Base Function List

variable {K : Part → Prop} {i : Nat}

attribute [local simp] Slots.restate Slots.amend Slots.put rangeTable onControl

/-! ## 1. The two changes of the queue -/

/-- The token that the range in a slot goes by. -/
def tokenOf (s : Mapping) (slot : Nat) : LifecycleRangeToken where
  viewId := s.viewId
  rangeBegin := (s.ranges slot).payload.rangeBegin
  rangeEnd := (s.ranges slot).payload.rangeEnd
  tokenGeneration := (s.ranges slot).payload.tokenGeneration
  rangeSlot := slot
  rangeTag := (s.ranges slot).word.tag

/-- The first and the last number of a range. -/
def interval (token : LifecycleRangeToken) : Nat × Nat := (token.rangeBegin, token.rangeEnd)

def nextOf (s : Mapping) (slot : Nat) : Nat := (s.ranges slot).payload.nextTailSlot

section Link

variable (slot tag rangeEnd : Nat) (s : Mapping)

theorem linkRange_control :
    (linkRange slot tag rangeEnd s).control.allocationHighWater = rangeEnd ∧
      (linkRange slot tag rangeEnd s).control.publicationCursor = s.control.publicationCursor ∧
      (linkRange slot tag rangeEnd s).control.reservationTailSlot = slot ∧
      (linkRange slot tag rangeEnd s).control.reservationHeadSlot =
        if s.control.reservationTailSlot = recordSlotNone then slot
        else s.control.reservationHeadSlot := by
  unfold linkRange
  dsimp only
  split_ifs <;> simp

/-- Of the other ranges only the one at the tail is touched, and of it only the link. -/
theorem linkRange_other (h : i ≠ slot) :
    ∃ next, (linkRange slot tag rangeEnd s).ranges i =
        (s.ranges i).setPayload { (s.ranges i).payload with nextTailSlot := next } ∧
      next = if i = s.control.reservationTailSlot ∧ i ≠ recordSlotNone ∧ i < lifecycleRangeCapacity
        then slot else nextOf s i := by
  unfold linkRange
  by_cases hi : i = s.control.reservationTailSlot
  · subst hi
    by_cases hpred : s.control.reservationTailSlot ≠ recordSlotNone ∧
        s.control.reservationTailSlot < lifecycleRangeCapacity
    · exact ⟨slot, by simp [hpred, update_of_ne h], (if_pos ⟨rfl, hpred⟩).symm⟩
    · refine ⟨nextOf s _, ?_, (if_neg (hpred ·.2)).symm⟩
      simp only [if_neg hpred]
      simp [update_of_ne h, Cell.setPayload, nextOf]
  · refine ⟨nextOf s i, ?_, (if_neg (hi ·.1)).symm⟩
    dsimp only
    split_ifs <;> simp [update_of_ne h, update_of_ne hi, Cell.setPayload, nextOf]

theorem linkRange_self (h : s.control.reservationTailSlot ≠ slot) :
    tokenOf (linkRange slot tag rangeEnd s) slot =
        { viewId := s.viewId
          rangeBegin := s.control.allocationHighWater + 1
          rangeEnd
          tokenGeneration := (s.control.gateGeneration + 1) % 2 ^ 64
          rangeSlot := slot
          rangeTag := tag % 2 ^ 24 } ∧
      nextOf (linkRange slot tag rangeEnd s) slot = nextOf s slot := by
  unfold linkRange
  dsimp only
  split_ifs <;>
    simp [tokenOf, nextOf, update_of_ne h.symm, Cell.setPayload, Cell.setWord, packRecord]

end Link

section Unlink

variable (token : LifecycleRangeToken) (usedThrough : Nat) (s : Mapping)

theorem unlinkRange_other (h : i ≠ token.rangeSlot) :
    (unlinkRange token usedThrough s).ranges i = s.ranges i := by
  rw [unlinkRange_ranges, update_of_ne h]

end Unlink

/-! ## 2. The queue -/

/-- The queue as its users know it: the tokens of its ranges. -/
def tokens (s : Mapping) (q : List Nat) : List LifecycleRangeToken := q.map (tokenOf s)

/-- The slots of the queue, in its order. -/
structure Queued (s : Mapping) (q : List Nat) : Prop where
  linked : Linked (nextOf s) recordSlotNone s.control.reservationHeadSlot q
  tail : s.control.reservationTailSlot = q.getLast?.getD recordSlotNone
  nodup : q.Nodup
  members : ∀ slot, slot ∈ q ↔
    slot < lifecycleRangeCapacity ∧ (s.ranges slot).word.state = .open
  /-- The cursor is below the queue; it is only set beyond it when there will be none any more. -/
  stacked : ∃ bottom, Stacked bottom s.control.allocationHighWater
      ((tokens s q).map interval).reverse ∧
    (s.control.publicationCursor ≤ bottom ∨ q = [] ∧ s.viewAdmission.state ≠ .open)
  legacy : s.extended = false → q = []
  highWater : s.control.allocationHighWater ≤ uint64Max
  cursor : s.control.publicationCursor ≤ uint64Max
  tags : ∀ slot, (s.ranges slot).word.tag < 2 ^ 24

/-- From one queue to a later one. -/
structure Passes (s : Mapping) (q : List Nat) (s' : Mapping) (q' : List Nat) : Prop where
  tokens : Onward (tokens s q) (tokens s' q')
  highWater : s.control.allocationHighWater ≤ s'.control.allocationHighWater
  cursor : s.control.publicationCursor ≤ s'.control.publicationCursor
  tags : ∀ slot, (s.ranges slot).word.tag ≤ (s'.ranges slot).word.tag

theorem Passes.refl (s : Mapping) (q : List Nat) : Passes s q s q :=
  ⟨.refl _, .refl, .refl, fun _ => .refl⟩

theorem Passes.trans {a b c : Mapping} {p q r : List Nat} (h : Passes a p b q)
    (h' : Passes b q c r) :
    Passes a p c r where
  tokens := h.tokens.trans h'.tokens
  highWater := h.highWater.trans h'.highWater
  cursor := h.cursor.trans h'.cursor
  tags slot := le_trans (h.tags slot) (h'.tags slot)

section Steps

variable {s s' : Mapping} {q : List Nat} {token : LifecycleRangeToken}

section

variable (h : Queued s q) (hcontrol : QueueKept s.control s'.control)
  (hview : s.viewAdmission.state ≠ .open → s'.viewAdmission.state ≠ .open)
  (hext : s'.extended = s.extended) (hviewId : s'.viewId = s.viewId)

include h hcontrol hview hext hviewId

/-- What does not touch the ranges of the queue leaves it as it is. -/
theorem Queued.keep
    (hsame : ∀ slot ∈ q, (s'.ranges slot).word = (s.ranges slot).word ∧
      (s'.ranges slot).payload = (s.ranges slot).payload)
    (hopen : ∀ slot, (s'.ranges slot).word.state = .open → (s.ranges slot).word.state = .open)
    (htags : ∀ slot, (s.ranges slot).word.tag ≤ (s'.ranges slot).word.tag ∧
      (s'.ranges slot).word.tag < 2 ^ 24) :
    Queued s' q ∧ Passes s q s' q := by
  obtain ⟨hhead, htail, hhigh, hcursor⟩ := hcontrol
  have htokens : tokens s' q = tokens s q := by
    refine map_congr_left fun slot hslot => ?_
    obtain ⟨hword, hpay⟩ := hsame slot hslot
    simp only [tokenOf, hword, hpay, hviewId]
  refine ⟨⟨?_, ?_, h.nodup, ?_, ?_, ?_, ?_, ?_, fun slot => (htags slot).2⟩,
    ⟨?_, ?_, ?_, fun slot => (htags slot).1⟩⟩
  · rw [hhead]
    exact h.linked.congr fun slot hslot => by simp only [nextOf, (hsame slot hslot).2]
  · rw [htail, h.tail]
  · intro slot
    constructor
    · intro hslot
      rw [(hsame slot hslot).1]
      exact (h.members slot).1 hslot
    · rintro ⟨hlt, hstate⟩
      exact (h.members slot).2 ⟨hlt, hopen slot hstate⟩
  · obtain ⟨bottom, hstacked, hbelow⟩ := h.stacked
    rw [htokens, hhigh, hcursor]
    exact ⟨bottom, hstacked, hbelow.imp_right (And.imp_right hview)⟩
  · rw [hext]
    exact h.legacy
  · rw [hhigh]
    exact h.highWater
  · rw [hcursor]
    exact h.cursor
  · rw [htokens]
    exact .refl _
  · rw [hhigh]
  · rw [hcursor]

/-- What does not touch ranges at all. -/
theorem Queued.same (hranges : s'.ranges = s.ranges) : Queued s' q ∧ Passes s q s' q := by
  refine h.keep hcontrol hview hext hviewId ?_ ?_ ?_
  · simp [hranges]
  · simp [hranges]
  · simpa [hranges] using h.tags

end

theorem Queued.range (h : Queued s q) {cell : Cell RangeState LifecycleRange}
    (hstep : RangeStep (s.ranges i) cell) :
    Queued (rangeTable.put i cell s) q ∧ Passes s q (rangeTable.put i cell s) q := by
  have hself : (rangeTable.put i cell s).ranges i = cell := rangeTable.read_put_self ..
  have hother : ∀ slot, slot ≠ i → (rangeTable.put i cell s).ranges slot = s.ranges slot :=
    fun slot hslot => rangeTable.read_put_of_ne hslot ..
  refine h.keep ⟨rfl, rfl, rfl, rfl⟩ id rfl rfl ?_ ?_ ?_
  · intro slot hslot
    by_cases hi : slot = i
    · subst hi
      rw [hself]
      cases hstep with
      | refer hword hpay => exact ⟨hword, hpay⟩
      | outside hold => exact absurd ((h.members slot).1 hslot).2 hold
    · rw [hother slot hi]
      exact ⟨rfl, rfl⟩
  · intro slot hstate
    by_cases hi : slot = i
    · subst hi
      rw [hself] at hstate
      cases hstep with
      | refer hword => rwa [← hword]
      | outside _ hnew => exact absurd hstate hnew
    · rwa [hother slot hi] at hstate
  · intro slot
    have htag := h.tags slot
    by_cases hi : slot = i
    · subst hi
      rw [hself]
      cases hstep with
      | refer hword _ =>
        rw [hword]
        exact ⟨.refl, htag⟩
      | outside =>
        have hmax : recordTagMaxNormal < 2 ^ 24 := by decide
        omega
    · rw [hother slot hi]
      exact ⟨.refl, htag⟩

theorem slot_ne_none {slot : Nat} (h : slot < lifecycleRangeCapacity) : slot ≠ recordSlotNone := by
  have hcap : lifecycleRangeCapacity < recordSlotNone := by decide
  omega

theorem Queued.tail_mem (h : Queued s q) (hne : s.control.reservationTailSlot ≠ recordSlotNone) :
    q.getLast? = some s.control.reservationTailSlot := by
  have htail := h.tail
  cases hlast : q.getLast? with
  | none =>
    rw [hlast] at htail
    exact absurd htail hne
  | some =>
    rw [hlast] at htail
    simp [htail]

theorem Queued.tail_none (h : Queued s q) :
    s.control.reservationTailSlot = recordSlotNone ↔ q = [] := by
  constructor
  · intro hnone
    by_contra hne
    have hlast := getLast?_eq_some_getLast hne
    have hmem := (h.members _).1 (getLast_mem hne)
    have htail := h.tail
    rw [hlast, hnone] at htail
    exact slot_ne_none hmem.1 htail.symm
  · rintro rfl
    exact h.tail

/-- **A range is linked behind the tail.** -/
theorem Queued.link (h : Queued s q) {slot tag rangeEnd : Nat} (hext : s.extended = true)
    (hslot : slot < lifecycleRangeCapacity)
    (hword : (s.ranges slot).word = packRecord tag .prepared Disposition.none.code)
    (hnext : (s.ranges slot).payload.nextTailSlot = recordSlotNone)
    (habove : s.control.allocationHighWater < rangeEnd) (hbelow : rangeEnd < uint64Max)
    (hview : s.viewAdmission.state = .open) :
    Queued (linkRange slot tag rangeEnd s) (q ++ [slot]) ∧
      Passes s q (linkRange slot tag rangeEnd s) (q ++ [slot]) := by
  have hout : slot ∉ q := by
    intro hin
    have hopen := ((h.members slot).1 hin).2
    simp [hword, packRecord] at hopen
  have htail : s.control.reservationTailSlot ≠ slot := by
    intro heq
    have hlast := h.tail_mem (heq ▸ slot_ne_none hslot)
    exact hout (heq ▸ mem_of_getLast? hlast)
  obtain ⟨hhigh, hcursor, htail', hhead⟩ := linkRange_control slot tag rangeEnd s
  obtain ⟨hself, hselfNext⟩ := linkRange_self slot tag rangeEnd s htail
  have hviewId : (linkRange slot tag rangeEnd s).viewId = s.viewId := by rw [linkRange_eq]
  have hext' : (linkRange slot tag rangeEnd s).extended = true := by
    rw [linkRange_eq, hext]
  have hwords : ∀ i, i ≠ slot →
      ((linkRange slot tag rangeEnd s).ranges i).word = (s.ranges i).word := by
    intro i hi
    obtain ⟨next, hcell, -⟩ := linkRange_other slot tag rangeEnd s hi
    rw [hcell]
    rfl
  have hslotWord := linkRange_word slot tag rangeEnd s
  have hne : ∀ i ∈ q, i ≠ slot := fun i hi heq => hout (heq ▸ hi)
  have htokens : tokens (linkRange slot tag rangeEnd s) (q ++ [slot]) =
      tokens s q ++ [tokenOf (linkRange slot tag rangeEnd s) slot] := by
    rw [tokens, map_append]
    congr 1
    refine map_congr_left fun i hi => ?_
    obtain ⟨next, hcell, -⟩ := linkRange_other slot tag rangeEnd s (hne i hi)
    simp only [tokenOf, hcell, hviewId]
    rfl
  have htags :
      ∀ i, ((linkRange slot tag rangeEnd s).ranges i).word.tag = (s.ranges i).word.tag := by
    intro i
    by_cases hi : i = slot
    · rw [hi, hslotWord, hword]
      rfl
    · rw [hwords i hi]
  constructor
  · refine ⟨?_, ?_, ?_, ?_, ?_, ?_, ?_, ?_, ?_⟩
    · have hstart : (if s.control.reservationTailSlot = recordSlotNone then slot
          else s.control.reservationHeadSlot) =
          if s.control.reservationHeadSlot = recordSlotNone then slot
          else s.control.reservationHeadSlot := by
        simp only [h.tail_none, h.linked.start_nil]
      rw [hhead, hstart]
      refine h.linked.snoc (slot_ne_none hslot) (hselfNext.trans hnext) h.nodup ?_ ?_
      · intro last hlast
        have hmem := mem_of_getLast? hlast
        obtain ⟨next, hcell, hif⟩ := linkRange_other slot tag rangeEnd s (hne last hmem)
        have hlt := ((h.members last).1 hmem).1
        have hislast : last = s.control.reservationTailSlot := by
          rw [h.tail, hlast]
          rfl
        rw [if_pos ⟨hislast, slot_ne_none hlt, hlt⟩] at hif
        rw [nextOf, hcell, hif]
        rfl
      · intro other hmem hnot
        obtain ⟨next, hcell, hif⟩ := linkRange_other slot tag rangeEnd s (hne other hmem)
        have hislast : other ≠ s.control.reservationTailSlot := by
          intro heq
          have hnone : s.control.reservationTailSlot ≠ recordSlotNone :=
            heq ▸ slot_ne_none ((h.members other).1 hmem).1
          exact hnot (heq ▸ h.tail_mem hnone)
        rw [if_neg fun hc => hislast hc.1] at hif
        rw [nextOf, hcell, hif]
        rfl
    · rw [htail']
      simp
    · exact nodup_append.2 ⟨h.nodup, by simp, by simpa using hne⟩
    · intro i
      by_cases hi : i = slot
      · subst hi
        simp [hslotWord, packRecord, hslot]
      · simp only [mem_append, mem_singleton, hi, or_false, hwords i hi]
        exact h.members i
    · obtain ⟨bottom, hstacked, hcursorBelow⟩ := h.stacked
      refine ⟨bottom, ?_, ?_⟩
      · rw [htokens, map_append, reverse_append, hself]
        exact hstacked.push rfl habove
      · rw [hcursor]
        exact .inl (hcursorBelow.resolve_right fun hc => hc.2 hview)
    · rw [hext']
      rintro ⟨⟩
    · omega
    · rw [hcursor]
      exact h.cursor
    · intro i
      rw [htags]
      exact h.tags i
  · refine ⟨?_, ?_, ?_, ?_⟩
    · rw [htokens]
      exact .snoc _ _
    · omega
    · rw [hcursor]
    · intro i
      rw [htags]

/-- **A range is taken from the head.** -/
theorem Queued.unlink (h : Queued s q) (usedThrough : Nat)
    (hslot : token.rangeSlot < lifecycleRangeCapacity)
    (hword : (s.ranges token.rangeSlot).word =
      packRecord token.rangeTag .open Disposition.none.code)
    (hend : (s.ranges token.rangeSlot).payload.rangeEnd = token.rangeEnd)
    (hhead : s.control.reservationHeadSlot = token.rangeSlot) :
    ∃ rest, q = token.rangeSlot :: rest ∧ Queued (unlinkRange token usedThrough s) rest ∧
      Passes s q (unlinkRange token usedThrough s) rest := by
  obtain ⟨rest, hq, hlinked⟩ := h.linked.rest (hhead ▸ slot_ne_none hslot)
  rw [hhead] at hq hlinked
  subst hq
  obtain ⟨hout, hnodup⟩ := nodup_cons.1 h.nodup
  obtain ⟨hhigh, hcursor, hhead', htail⟩ := unlinkRange_control token usedThrough s
  have hother : ∀ i, i ≠ token.rangeSlot →
      (unlinkRange token usedThrough s).ranges i = s.ranges i := fun i hi =>
    unlinkRange_other token usedThrough s hi
  have hne : ∀ i ∈ rest, i ≠ token.rangeSlot := fun i hi heq => hout (heq ▸ hi)
  have hslotWord : ((unlinkRange token usedThrough s).ranges token.rangeSlot).word = _ :=
    rangeTable.restate_word ..
  have htokens : tokens (unlinkRange token usedThrough s) rest = tokens s rest := by
    refine map_congr_left fun i hi => ?_
    simp only [tokenOf, hother i (hne i hi)]
    rfl
  have htags : ∀ i,
      ((unlinkRange token usedThrough s).ranges i).word.tag = (s.ranges i).word.tag := by
    intro i
    by_cases hi : i = token.rangeSlot
    · rw [hi, hslotWord, hword]
      rfl
    · rw [hother i hi]
  obtain ⟨bottom, hstacked, hbelow⟩ := h.stacked
  have hcursorBelow := hbelow.resolve_right fun hc => nomatch hc.1
  have hsplit : ((tokens s (token.rangeSlot :: rest)).map interval).reverse =
      ((tokens s rest).map interval).reverse ++ [interval (tokenOf s token.rangeSlot)] := by
    simp [tokens]
  rw [hsplit] at hstacked
  have hbounds := hstacked.bounds (interval (tokenOf s token.rangeSlot)) (by simp)
  have hlast : (interval (tokenOf s token.rangeSlot)).2 = token.rangeEnd := hend
  refine ⟨rest, rfl, ⟨?_, ?_, hnodup, ?_, ?_, ?_, ?_, ?_, ?_⟩, ⟨?_, ?_, ?_, ?_⟩⟩
  · rw [hhead']
    exact hlinked.congr fun i hi => by rw [nextOf, hother i (hne i hi), nextOf]
  · rw [htail]
    by_cases hnone : (s.ranges token.rangeSlot).payload.nextTailSlot = recordSlotNone
    · rw [if_pos hnone, hlinked.start_nil.1 hnone]
      rfl
    · rw [if_neg hnone, h.tail]
      have hrest : rest ≠ [] := fun hc => hnone (hlinked.start_nil.2 hc)
      rw [getLast?_cons_of_ne_nil hrest]
  · intro i
    by_cases hi : i = token.rangeSlot
    · subst hi
      simp [hslotWord, packRecord, hout]
    · rw [hother i hi, ← h.members i]
      simp [hi]
  · refine ⟨_, ?_, .inl .refl⟩
    rw [htokens, hcursor, ← hlast]
    exact hstacked.pop
  · intro hlegacy
    cases h.legacy hlegacy
  · exact h.highWater
  · rw [hcursor, ← hlast]
    exact hbounds.2.2.trans h.highWater
  · intro i
    rw [htags]
    exact h.tags i
  · rw [htokens]
    exact .tail _ _
  · rw [hhigh]
  · omega
  · intro i
    rw [htags]

/-- **Every move keeps the queue.** -/
theorem Move.queued (m : Move K s s') (h : Queued s q) : ∃ q', Queued s' q' ∧ Passes s q s' q' := by
  cases m with
  | range _ hstep => exact ⟨q, h.range hstep⟩
  | link _ hext hslot hword hnext hview habove hbelow =>
    exact ⟨_, h.link hext hslot hword hnext habove hbelow hview⟩
  | unlink _ hslot hword hend hhead =>
    obtain ⟨rest, -, hqueued⟩ := h.unlink _ hslot hword hend hhead
    exact ⟨rest, hqueued⟩
  | control _ hkept => exact ⟨q, h.same hkept id rfl rfl rfl⟩
  | terminate _ hview hempty =>
    have hnil : q = [] := by
      by_cases hext : s.extended = true
      · exact h.linked.start_nil.1 (hempty hext)
      · exact h.legacy (by simpa using hext)
    obtain ⟨bottom, hstacked, -⟩ := h.stacked
    refine ⟨q, { h with
      stacked := ⟨bottom, hstacked, .inr ⟨hnil, hview⟩⟩
      cursor := .refl }, ⟨.refl _, .refl, h.cursor, fun _ => .refl⟩⟩
  | view _ hnot _ => exact ⟨q, h.same ⟨rfl, rfl, rfl, rfl⟩ (fun _ => hnot) rfl rfl rfl⟩
  | _ => exact ⟨q, h.same ⟨rfl, rfl, rfl, rfl⟩ id rfl rfl rfl⟩

theorem Does.queued (d : Does K s s') (h : Queued s q) : ∃ q', Queued s' q' ∧ Passes s q s' q' := by
  refine Moves.keeps (A := fun s' => ∃ q', Queued s' q' ∧ Passes s q s' q') ?_ d.moves
    ⟨q, h, .refl s q⟩
  rintro a b hmove ⟨qa, hqueued, hpasses⟩
  obtain ⟨qb, hqueued', hpasses'⟩ := hmove.queued hqueued
  exact ⟨qb, hqueued', hpasses.trans hpasses'⟩

/-! ## 3. Taking the head -/

/-- What reserving and retiring write. -/
def queueing : Part → Prop
  | .ranges | .publications | .control => True
  | _ => False

/-- A range that has been retired was at the head, and the rest of the queue is as it was. -/
theorem Queued.taken (h : Queued s q) {usedThrough : Nat}
    (hopened : Opened token s) (htaken : Taken token usedThrough s s')
    (hkept : Kept queueing s s') :
    ∃ rest, q = token.rangeSlot :: rest ∧ Queued s' rest ∧ tokens s' rest = tokens s rest := by
  obtain ⟨rest, hq, hqueued, -⟩ :=
    h.unlink usedThrough hopened.slot hopened.word hopened.rangeEnd htaken.head
  refine ⟨rest, hq, ?_, ?_⟩
  · refine (hqueued.same htaken.queue.control ?_ hkept.extended hkept.viewId htaken.queue.ranges).1
    rw [hkept.view id]
    exact id
  · refine map_congr_left fun i hi => ?_
    have hi' : i ≠ token.rangeSlot := by
      rintro rfl
      exact (nodup_cons.1 (hq ▸ h.nodup)).1 hi
    simp only [tokenOf, htaken.queue.ranges, unlinkRange_other token usedThrough s hi',
      hkept.viewId]

theorem Queued.length_le (h : Queued s q) : q.length ≤ lifecycleRangeCapacity := by
  have hsub : q ⊆ List.range lifecycleRangeCapacity := fun slot hslot =>
    mem_range.2 ((h.members slot).1 hslot).1
  simpa using (subperm_of_subset h.nodup hsub).length_le

end Steps

end MetaFlux.Registry
