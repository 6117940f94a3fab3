/-
# The queue over whole runs

What the users of the registry see of the queue, at every state that calls lead to and from one call
to the next: following the links gives the open ranges, each once and end to end (`InOrder`); ranges
only go from the head and only come behind the tail, and the two marks only rise (`step_passes`);
and a token whose slot has been taken over is refused for good (`retire_refused`).
-/
import MetaFlux.Registry.Steps

namespace MetaFlux.Registry

open Base List

variable {s s' : Mapping} {q : List Nat} {token : LifecycleRangeToken}

/-! ## 1. Following the links -/

/-- The slots that the links pass from the head on.  A queue that is in order has no more members
than there are slots. -/
def slots (s : Mapping) : List Nat :=
  follow (nextOf s) recordSlotNone (lifecycleRangeCapacity + 1) s.control.reservationHeadSlot

/-- The queue: the tokens of the ranges that the links pass. -/
def queue (s : Mapping) : List LifecycleRangeToken := tokens s (slots s)

theorem Queued.slots_eq (h : Queued s q) : slots s = q := by
  have hlen := h.length_le
  exact h.linked.follow_eq (by omega)

theorem Queued.queue_eq (h : Queued s q) : queue s = tokens s q := by
  rw [queue, h.slots_eq]

/-- Following the links from the head passes every open range once and ends at the tail; the ranges
lie end to end, and the last ends at the high water mark. -/
structure InOrder (s : Mapping) : Prop where
  ends : Linked (nextOf s) recordSlotNone s.control.reservationHeadSlot (slots s)
  once : (slots s).Nodup
  passes : ∀ slot, slot ∈ slots s ↔
    slot < lifecycleRangeCapacity ∧ (s.ranges slot).word.state = .open
  tail : s.control.reservationTailSlot = (slots s).getLast?.getD recordSlotNone
  proper : ∀ token ∈ queue s, token.rangeBegin ≤ token.rangeEnd
  consecutive : (queue s).IsChain fun older newer => older.rangeEnd + 1 = newer.rangeBegin
  disjoint : (queue s).Pairwise fun older newer => older.rangeEnd < newer.rangeBegin
  highWater : ∀ token, (queue s).getLast? = some token →
    token.rangeEnd = s.control.allocationHighWater

theorem Queued.inOrder (h : Queued s q) : InOrder s := by
  obtain ⟨bottom, hstacked, -⟩ := h.stacked
  have hqueue := h.queue_eq
  have hslots := h.slots_eq
  have hchain := hstacked.consecutive
  have hdisjoint := hstacked.disjoint
  rw [isChain_reverse, isChain_map] at hchain
  rw [pairwise_reverse, pairwise_map] at hdisjoint
  refine ⟨?_, ?_, ?_, ?_, ?_, ?_, ?_, ?_⟩
  · rw [hslots]
    exact h.linked
  · rw [hslots]
    exact h.nodup
  · rw [hslots]
    exact h.members
  · rw [hslots]
    exact h.tail
  · intro token htoken
    rw [hqueue] at htoken
    have hmem : interval token ∈ ((tokens s q).map interval).reverse :=
      mem_reverse.2 (mem_map_of_mem htoken)
    exact (hstacked.bounds _ hmem).2.1
  · rw [hqueue]
    exact hchain
  · rw [hqueue]
    exact hdisjoint
  · intro token htoken
    rw [hqueue] at htoken
    obtain ⟨earlier, hsplit⟩ := getLast?_eq_some_iff.1 htoken
    rw [hsplit, map_append, reverse_append] at hstacked
    exact hstacked.1

/-! ## 2. From one call to the next -/

theorem step_passes (h : Sound s) (c : Call) :
    ∃ q q', Queued s q ∧ Queued (step s c) q' ∧ Passes s q (step s c) q' := by
  obtain ⟨q, hq⟩ := h.queued
  rcases step_does h c with hord | ⟨_, _, _, _, -, hafter⟩
  · obtain ⟨q', hq', hpasses⟩ := hord.does.queued hq
    exact ⟨q, q', hq, hq', hpasses⟩
  · have hsame : Queued (step s c) q ∧ Passes s q (step s c) q := by
      rw [hafter]
      exact hq.same ⟨rfl, rfl, rfl, rfl⟩ id rfl rfl rfl
    exact ⟨q, q, hq, hsame⟩

/-- Ranges only go from the head and come behind the tail; the marks rise, and stay words. -/
structure Proceeds (s s' : Mapping) : Prop where
  queue : Onward (queue s) (queue s')
  highWater : s.control.allocationHighWater ≤ s'.control.allocationHighWater ∧
    s'.control.allocationHighWater ≤ uint64Max
  cursor : s.control.publicationCursor ≤ s'.control.publicationCursor ∧
    s'.control.publicationCursor ≤ uint64Max

theorem step_proceeds (h : Sound s) (c : Call) : Proceeds s (step s c) := by
  obtain ⟨q, q', hq, hq', hpasses⟩ := step_passes h c
  refine ⟨?_, ⟨hpasses.highWater, hq'.highWater⟩, ⟨hpasses.cursor, hq'.cursor⟩⟩
  rw [hq.queue_eq, hq'.queue_eq]
  exact hpasses.tokens

theorem retire_head (h : Sound s) {usedThrough : Nat}
    (hok : (call s (.retireLifecycleRange token usedThrough)).1 = .success) :
    ∃ head, head.rangeSlot = token.rangeSlot ∧
      queue s = head :: queue (step s (.retireLifecycleRange token usedThrough)) := by
  obtain ⟨q, hq⟩ := h.queued
  obtain ⟨hdoes, htaken⟩ := retireLifecycleRange_takes (K := queueing) trivial trivial trivial token
    usedThrough s s rfl
  obtain ⟨hopened, htaken⟩ := htaken hok
  obtain ⟨rest, hrest, hq', htokens⟩ := hq.taken hopened htaken hdoes.kept
  refine ⟨tokenOf s token.rangeSlot, rfl, ?_⟩
  change queue s = _ :: queue ((retireLifecycleRange token usedThrough).run s).2
  rw [hq.queue_eq, hq'.queue_eq, htokens, hrest]
  rfl

/-! ## 3. Tokens of the past -/

theorem run_tag_le (h : Sound s) (calls : List Call) (slot : Nat) :
    (s.ranges slot).word.tag ≤ ((run step s calls).ranges slot).word.tag := by
  refine run_rel (R := fun s s' => (s.ranges slot).word.tag ≤ (s'.ranges slot).word.tag)
    (fun _ => le_rfl) le_trans step_sound (fun s c h => ?_) calls h
  obtain ⟨q, q', -, -, hpasses⟩ := step_passes h c
  exact hpasses.tags slot

/-- A token is refused where its slot stands under another tag. -/
theorem retire_refused (htag : token.rangeTag < 2 ^ 24)
    (hother : (s.ranges token.rangeSlot).word.tag ≠ token.rangeTag) (usedThrough : Nat) :
    ∃ status, status ≠ .success ∧
      call s (.retireLifecycleRange token usedThrough) = (status, s) := by
  have hword : (s.ranges token.rangeSlot).word ≠
      packRecord token.rangeTag .open Disposition.none.code := by
    intro hword
    rw [hword] at hother
    exact hother (Nat.mod_eq_of_lt htag)
  simp only [call, Call.program, retireLifecycleRange, StateT.run_bind, StateT.run_get, pure_bind]
  split_ifs with hext hargs hnames
  · exact ⟨.notSupported, by decide, rfl⟩
  · exact ⟨.invalidArgument, by decide, rfl⟩
  · exact ⟨.staleHandle, by decide, rfl⟩
  · exact absurd (.inl hword) hnames

/-- A token that has been given out names its slot by its tag. -/
theorem reserve_tag {caller : Caller} {length deadlineNs : Nat}
    (hreserved : ((reserveLifecycleRange caller.owner length deadlineNs).run s).1 = .ok token) :
    token.rangeTag < 2 ^ 24 ∧
      ((step s (.reserveLifecycleRange caller length deadlineNs)).ranges token.rangeSlot).word.tag =
        token.rangeTag := by
  obtain ⟨-, hresv⟩ := reserveLifecycleRange_does (K := queueing) trivial trivial trivial
    caller.owner length deadlineNs (P := fun _ => True) s trivial
  rw [hreserved] at hresv
  obtain ⟨htag, -, hopened⟩ := hresv
  have hmax : recordTagMaxNormal < 2 ^ 24 := by decide
  exact ⟨by omega, (congrArg Tagged.tag hopened.word).trans (packRecord_tag htag _ _)⟩

/-- **The queue of ranges.**  At every state that calls on a new mapping lead to it is in order;
with the next call, whatever it is, it only loses ranges at the head and gains them at the tail, and
its marks do not fall or wrap; a range is retired only at the head; and once the slot of a token
that was given out stands under another tag, the token is refused for good, and nothing is changed
by it. -/
theorem lifecycle_range_queue {s₀ : Mapping} (hfresh : Fresh s₀) (calls : List Call) :
    InOrder (run step s₀ calls) ∧
      (∀ c, Proceeds (run step s₀ calls) (step (run step s₀ calls) c)) ∧
      (∀ token usedThrough,
        (call (run step s₀ calls) (.retireLifecycleRange token usedThrough)).1 = .success →
        ∃ head, head.rangeSlot = token.rangeSlot ∧ queue (run step s₀ calls) =
          head :: queue (step (run step s₀ calls) (.retireLifecycleRange token usedThrough))) ∧
      ∀ caller length deadlineNs token, ((reserveLifecycleRange caller.owner length deadlineNs).run
          (run step s₀ calls)).1 = .ok token → ∀ between later s₁ s₂,
        s₁ = run step s₀ (calls ++ .reserveLifecycleRange caller length deadlineNs :: between) →
        (s₁.ranges token.rangeSlot).word.tag ≠ token.rangeTag → s₂ = run step s₁ later →
        ∀ usedThrough, ∃ status, status ≠ .success ∧
          call s₂ (.retireLifecycleRange token usedThrough) = (status, s₂) := by
  have hsound := run_sound hfresh calls
  obtain ⟨q, hq⟩ := hsound.queued
  refine ⟨hq.inOrder, step_proceeds hsound, fun _ _ => retire_head hsound, ?_⟩
  intro caller length deadlineNs token hreserved between later s₁ s₂ hs₁ hother hs₂ usedThrough
  obtain ⟨htag, hgiven⟩ := reserve_tag hreserved
  have hbefore : token.rangeTag ≤ (s₁.ranges token.rangeSlot).word.tag := by
    rw [hs₁, run_append, ← hgiven]
    exact run_tag_le (step_sound _ _ hsound) between token.rangeSlot
  have hafter : (s₁.ranges token.rangeSlot).word.tag ≤ (s₂.ranges token.rangeSlot).word.tag := by
    rw [hs₂]
    exact run_tag_le (hs₁ ▸ run_sound hfresh _) later token.rangeSlot
  exact retire_refused htag (by omega) usedThrough

/-- The token of the first range of four. -/
def firstToken : LifecycleRangeToken := ⟨⟨1, 1⟩, 2, 5, 2, 0, 1⟩

/-- The range is reserved and retired, its slot taken over, and the token refused ever after. -/
theorem lifecycle_range_queue_reused :
    let reserve : Call := .reserveLifecycleRange someCaller 4 0
    let retire : Call := .retireLifecycleRange firstToken 3
    queue (step twoDevices reserve) = [firstToken] ∧
    InOrder (run step twoDevices [reserve, retire]) ∧
      ∀ later usedThrough, ∃ status, status ≠ .success ∧
        call (run step (run step twoDevices [reserve, retire, reserve]) later)
            (.retireLifecycleRange firstToken usedThrough) =
          (status, run step (run step twoDevices [reserve, retire, reserve]) later) := by
  refine ⟨by decide, (lifecycle_range_queue twoDevices_fresh _).1, fun later usedThrough => ?_⟩
  obtain ⟨-, -, -, hrefused⟩ := lifecycle_range_queue twoDevices_fresh []
  exact hrefused someCaller 4 0 firstToken rfl _ later _ _ rfl (by decide) rfl usedThrough

end MetaFlux.Registry
