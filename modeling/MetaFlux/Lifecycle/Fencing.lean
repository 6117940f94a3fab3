/-
# Fencing: tuples and candidates are never used twice

A request is written against a tuple and passes only against the same tuple.  For that to fence off
what happened in between, a tuple must not come back.  No single counter shows it: an absent device
has generation 0 whatever its past, an `add` keeps the epoch, and a generation handed out to a
transaction that failed is skipped.  But every effect that changes the tuple raises the pair of
epoch and generation LEXICOGRAPHICALLY (`Effect.tuple`): a removal, a reset and a recovery raise the
epoch, and an `add` keeps it and raises the generation from 0.

Candidates are reserved above two high waters that never fall, one reservation for each transaction,
so those the mirrors are told of climb from transaction to transaction (`Offered`).
-/
import MetaFlux.Lifecycle.Effect

namespace MetaFlux.Lifecycle

open Base List

variable {W : Type} {c d : Coordinator W}

/-! ## 1. Tuples -/

structure Tuple where
  identityRecordId : Nat
  generation : Nat
  epoch : Nat
deriving DecidableEq, Repr

def Coordinator.tuple (c : Coordinator W) : Tuple :=
  { identityRecordId := c.identityRecordId, generation := c.generation, epoch := c.epoch }

/-- Tuples by epoch first, and by generation within an epoch. -/
def Tuple.rank (t : Tuple) : ℕ ×ₗ ℕ := toLex (t.epoch, t.generation)

theorem Tuple.rank_lt {t t' : Tuple} :
    t.rank < t'.rank ↔
      t.epoch < t'.epoch ∨ t.epoch = t'.epoch ∧ t.generation < t'.generation :=
  Prod.Lex.toLex_lt_toLex

variable {made : List Call} {request : Request}

theorem Effect.tuple (heffect : Effect c request d made) :
    d.tuple = c.tuple ∨ c.tuple.rank < d.tuple.rank := by
  cases heffect with
  | refused | lost | rolledBack => exact .inl rfl
  | installed =>
    refine .inr (Tuple.rank_lt.2 (.inr ⟨rfl, ?_⟩))
    change c.generation < c.generationHighWater + 1
    omega
  | retired | replaced => exact .inr (Tuple.rank_lt.2 (.inl .refl))

theorem turn_tuple (h : Host W) (move : Move W) :
    (turn h move).coordinator.tuple = h.coordinator.tuple ∨
      h.coordinator.tuple.rank < (turn h move).coordinator.tuple.rank := by
  rcases turn_cases h move with ⟨hsame, -⟩ | ⟨request, d, made, details, -, heffect, hd, -⟩
  · rw [hsame]
    exact .inl rfl
  · rw [hd]
    exact heffect.tuple

/-! ## 2. Candidates -/

/-- The call told a mirror of a candidate. -/
def Call.carries (x : Call) : Bool := decide x.event.request.operation.carries

/-- Two calls of one transaction. -/
def SameOffer (x y : Call) : Prop :=
  x.event.request = y.event.request ∧ x.event.candidate = y.event.candidate

/-- One component of the candidates in a log: above what it started from, at most the high water,
below the terminal, and higher with every transaction. -/
structure Climbing (value : Candidate → Nat) (initial terminal high : Nat) (calls : List Call) :
    Prop where
  initial_le : initial ≤ high
  bounds : ∀ x ∈ calls, initial < value x.event.candidate ∧ value x.event.candidate ≤ high ∧
    value x.event.candidate < terminal
  climbs : calls.Pairwise fun x y =>
    SameOffer x y ∨ value x.event.candidate < value y.event.candidate

theorem Climbing.append {value : Candidate → Nat} {initial terminal high : Nat}
    {calls : List Call} (h : Climbing value initial terminal high calls)
    {candidate : Candidate} (hroom : high + 1 < terminal) (hvalue : value candidate = high + 1)
    (hmade : ∀ x ∈ made, x.event.request = request ∧ x.event.candidate = candidate) :
    Climbing value initial terminal (high + 1) (calls ++ made) := by
  have hinitial := h.initial_le
  have hnew : ∀ x ∈ made, value x.event.candidate = high + 1 := fun x hx => by
    rw [(hmade x hx).2, hvalue]
  refine ⟨by omega, fun x hx => ?_, pairwise_append.2 ⟨h.climbs, ?_, ?_⟩⟩
  · rcases mem_append.1 hx with hx | hx
    · have hold := h.bounds x hx
      omega
    · have hvalue := hnew x hx
      omega
  · -- the calls of the transaction itself
    refine List.Pairwise.imp_of_mem (fun {x y} hx hy _ => .inl ?_)
      (pairwise_of_forall fun _ _ => trivial)
    exact ⟨(hmade x hx).1.trans (hmade y hy).1.symm, (hmade x hx).2.trans (hmade y hy).2.symm⟩
  · -- an earlier transaction stayed at or below the high water
    intro x hx y hy
    have hold := (h.bounds x hx).2.1
    have hvalue := hnew y hy
    exact .inr (by omega)

/-- What holds of the candidates the mirrors have been told of, from a coordinator started by
`config`. -/
structure Offered (config : Config W) (h : Host W) : Prop where
  config_eq : h.coordinator.config = config
  generation : Climbing (·.generation) config.initialGeneration config.generationTerminal
    h.coordinator.generationHighWater (h.calls.filter Call.carries)
  identity : Climbing (·.identityRecordId) config.initialIdentityRecordId
    config.identityRecordTerminal h.coordinator.identityHighWater (h.calls.filter Call.carries)

theorem Offered.start (config : Config W) (world : W) :
    Offered config (Host.start config world) := by
  refine ⟨rfl, ⟨.refl, ?_, List.Pairwise.nil⟩, ⟨.refl, ?_, List.Pairwise.nil⟩⟩
  · exact fun x hx => absurd hx not_mem_nil
  · exact fun x hx => absurd hx not_mem_nil

theorem Coordinator.below_terminal (hreserve : c.reserveCandidate.isSome) :
    c.generationHighWater + 1 < c.config.generationTerminal ∧
      c.identityHighWater + 1 < c.config.identityRecordTerminal := by
  unfold Coordinator.reserveCandidate at hreserve
  split at hreserve
  · exact absurd hreserve Bool.false_ne_true
  · omega

/-- The calls of an effect carry no candidate, or all carry the one that was reserved for it. -/
theorem Effect.offers (heffect : Effect c request d made) :
    (made.filter Call.carries = [] ∧ d.generationHighWater = c.generationHighWater ∧
      d.identityHighWater = c.identityHighWater) ∨ (∃ candidate, c.reserveCandidate.isSome ∧
      candidate.generation = c.generationHighWater + 1 ∧
      candidate.identityRecordId = c.identityHighWater + 1 ∧
      d.generationHighWater = c.generationHighWater + 1 ∧
      d.identityHighWater = c.identityHighWater + 1 ∧
      ∀ x ∈ made, x.event.request = request ∧ x.event.candidate = candidate) := by
  have hnone : ∀ {made : List Call}, ¬ request.operation.carries → CallsFor c request made →
      made.filter Call.carries = [] := by
    intro made hop hmade
    refine filter_eq_nil_iff.2 fun x hx => ?_
    rw [Call.carries, (hmade x hx).1]
    simpa using hop
  have hplanned : request.operation.carries →
      (c.planned request).candidate.generation = c.generationHighWater + 1 ∧
        (c.planned request).candidate.identityRecordId = c.identityHighWater + 1 := by
    rintro (hop | hop | hop) <;> simp only [Coordinator.planned, hop] <;> exact ⟨rfl, rfl⟩
  cases heffect with
  | refused => exact .inl ⟨rfl, rfl, rfl⟩
  | lost hop _ hmade | retired hop _ _ hmade =>
    exact .inl ⟨hnone (by rw [hop]; decide) hmade, rfl, rfl⟩
  | rolledBack hop hreserve hmade =>
    obtain ⟨hgen, hident⟩ := hplanned hop
    exact .inr ⟨_, hreserve, hgen, hident, rfl, rfl, hmade⟩
  | installed _ hop _ hreserve hmade =>
    obtain ⟨hgen, hident⟩ := hplanned (.inl hop)
    exact .inr ⟨_, hreserve, hgen, hident, rfl, rfl, hmade⟩
  | replaced _ hop _ _ hreserve hmade =>
    obtain ⟨hgen, hident⟩ := hplanned (.inr hop)
    exact .inr ⟨_, hreserve, hgen, hident, rfl, rfl, hmade⟩

theorem Effect.config (heffect : Effect c request d made) : d.config = c.config := by
  cases heffect <;> rfl

theorem turn_offered {config : Config W} (h : Host W) (move : Move W) (ho : Offered config h) :
    Offered config (turn h move) := by
  rcases turn_cases h
    move with ⟨hsame, hcalls⟩ | ⟨request, d, made, details, -, heffect, hd, hcalls⟩
  · refine ⟨?_, ?_, ?_⟩ <;> rw [hsame]
    · exact ho.config_eq
    · rw [hcalls]
      exact ho.generation
    · rw [hcalls]
      exact ho.identity
  · have hconfig : d.config = config := heffect.config.trans ho.config_eq
    -- recording the request touches neither high water
    have hd : (turn h move).coordinator.config = d.config ∧
        (turn h move).coordinator.generationHighWater = d.generationHighWater ∧
        (turn h move).coordinator.identityHighWater = d.identityHighWater := by
      rw [hd]
      exact ⟨rfl, rfl, rfl⟩
    refine ⟨hd.1.trans hconfig, ?_, ?_⟩ <;> rw [hcalls, filter_append]
    · rw [hd.2.1]
      rcases heffect.offers with
        ⟨hnone, hsame, -⟩ | ⟨candidate, hreserve, hvalue, -, hraised, -, hmade⟩
      · rw [hnone, hsame, append_nil]
        exact ho.generation
      · rw [hraised]
        have hroom := (Coordinator.below_terminal hreserve).1
        rw [ho.config_eq] at hroom
        exact ho.generation.append hroom hvalue fun x hx => hmade x (mem_of_mem_filter hx)
    · rw [hd.2.2]
      rcases heffect.offers with
        ⟨hnone, -, hsame⟩ | ⟨candidate, hreserve, -, hvalue, -, hraised, hmade⟩
      · rw [hnone, hsame, append_nil]
        exact ho.identity
      · rw [hraised]
        have hroom := (Coordinator.below_terminal hreserve).2
        rw [ho.config_eq] at hroom
        exact ho.identity.append hroom hvalue fun x hx => hmade x (mem_of_mem_filter hx)

/-! ## 3. Over whole runs -/

/-- The request names the tuple of the snapshot. -/
def Request.CopiedFrom (request : Request) (snapshot : Snapshot) : Prop :=
  request.expectedIdentityRecordId = snapshot.identityRecordId ∧
    request.expectedGeneration = snapshot.generation ∧ request.expectedEpoch = snapshot.epoch

theorem tuple_eq_of_current (hcopied : request.CopiedFrom c.snapshot)
    (hcur : d.matchesTuple request = true) : d.tuple = c.tuple := by
  obtain ⟨hident, hgen, hepoch⟩ := hcopied
  simp only [Coordinator.matchesTuple, decide_eq_true_eq] at hcur
  rw [hident, hgen, hepoch] at hcur
  exact Tuple.mk.injEq .. ▸ ⟨hcur.2.1.symm, hcur.2.2.symm, hcur.1.symm⟩

/-- **Fencing without ABA.**  If a request copied from a snapshot passes at a later point of the
run, the tuple was the same at every point in between.  And over the whole run the candidates passed
to the mirrors climb strictly in both components from one transaction to the next, above the initial
values and below the terminals. -/
theorem fencing (config : Config W) (world : W) :
    (∀ before between request,
      let h := run turn (Host.start config world) before
      request.CopiedFrom h.coordinator.snapshot →
      (validRequest request (run turn h between)).1 = true →
      ∀ done rest, between = done ++ rest →
        (run turn h done).coordinator.tuple = h.coordinator.tuple) ∧
    (∀ moves,
      let offers := (run turn (Host.start config world) moves).calls.filter Call.carries
      (offers.Pairwise fun x y => SameOffer x y ∨
        x.event.candidate.generation < y.event.candidate.generation ∧
          x.event.candidate.identityRecordId < y.event.candidate.identityRecordId) ∧
      ∀ x ∈ offers,
        config.initialGeneration < x.event.candidate.generation ∧
        x.event.candidate.generation < config.generationTerminal ∧
        config.initialIdentityRecordId < x.event.candidate.identityRecordId ∧
        x.event.candidate.identityRecordId < config.identityRecordTerminal) := by
  refine ⟨?_, ?_⟩
  · rintro before between request h hcopied hvalid done rest rfl
    have hcur := ((validRequest_frame request (run turn h (done ++ rest))).2 hvalid).2
    exact run_constant (fun h : Host W => h.coordinator.tuple) Tuple.rank turn_tuple done rest
      (tuple_eq_of_current hcopied hcur)
  · intro moves offers
    have hoffered : Offered config (run turn (Host.start config world) moves) :=
      run_induction turn_offered moves (Offered.start config world)
    refine ⟨?_, fun x hx => ?_⟩
    · refine (hoffered.generation.climbs.and hoffered.identity.climbs).imp ?_
      rintro x y ⟨hsame | hgen, hsame | hident⟩
      · exact .inl hsame
      · exact .inl hsame
      · exact .inl hsame
      · exact .inr ⟨hgen, hident⟩
    · obtain ⟨hlow, -, hhigh⟩ := hoffered.generation.bounds x hx
      obtain ⟨hlow', -, hhigh'⟩ := hoffered.identity.bounds x hx
      exact ⟨hlow, hhigh, hlow', hhigh'⟩

/-- A loss does not change the tuple, so a reset written before it still passes. -/
theorem fencing_loss :
    let loss : Move Unit :=
      .apply tornMirrors { resetRequest with requestId := 2, operation := .transportLoss }
    resetRequest.CopiedFrom (Host.start {} ()).coordinator.snapshot ∧
    (validRequest resetRequest (run turn (Host.start {} ()) [loss])).1 = true ∧
    (run turn (Host.start {} ()) [loss]).coordinator.tuple =
      (Host.start {} ()).coordinator.tuple := by
  intro loss
  have hcopied : resetRequest.CopiedFrom (Host.start {} ()).coordinator.snapshot := ⟨rfl, rfl, rfl⟩
  have hvalid : (validRequest resetRequest (run turn (Host.start {} ()) [loss])).1 = true := rfl
  exact ⟨hcopied, hvalid, (fencing {} ()).1 [] [loss] resetRequest hcopied hvalid [loss] [] rfl⟩

end MetaFlux.Lifecycle
