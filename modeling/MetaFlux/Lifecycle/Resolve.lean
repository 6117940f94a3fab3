/-
# A generation that is lost stays lost

`resolve` answers from two places: the tuple the coordinator holds, and the table of tombstones.
The table is bounded and a write to a full one is dropped without notice, so that a retired
generation stays known rests on the operations testing for room BEFORE they begin.  Over runs:

* generations are handed out above a high water that bounds every generation the coordinator has
  ever held (`Bounded`), so a new one is never an old one;
* an effect that gives up the generation it holds buries it (`Effect.later`).

Hence what `resolve` says of a generation only ever goes from `online` to `deviceLost`
(`resolve_run`).
-/
import MetaFlux.Lifecycle.Effect

namespace MetaFlux.Lifecycle

open Base

variable {W : Type} {c d : Coordinator W} {generation : Nat} {request : Request} {made : List Call}

/-! ## 1. What `resolve` reads -/

/-- The generation has a tombstone. -/
def Coordinator.Buried (c : Coordinator W) (generation : Nat) : Prop :=
  ∃ tombstone ∈ c.tombstones.rows, tombstone.generation = generation

theorem Coordinator.resolve_eq_online :
    c.resolve generation = .online ↔
      generation ≠ 0 ∧ generation = c.generation ∧ c.state = .online := by
  unfold Coordinator.resolve
  split_ifs with h0 hlive hstate hburied
  · simp [h0]
  · simp only [true_iff]
    exact ⟨h0, hlive, hstate⟩
  · simp [hstate]
  · simp [hlive]
  · simp [hlive]

theorem Coordinator.resolve_eq_deviceLost :
    c.resolve generation = .deviceLost ↔ generation ≠ 0 ∧
      (generation = c.generation ∧ c.state ≠ .online ∨
        generation ≠ c.generation ∧ c.Buried generation) := by
  unfold Coordinator.resolve Coordinator.Buried
  split_ifs with h0 hlive hstate hburied
  · simp [h0]
  · simp [hlive, hstate]
  · simp only [true_iff]
    exact ⟨h0, .inl ⟨hlive, hstate⟩⟩
  · have hburied : ∃ tombstone ∈ c.tombstones.rows, tombstone.generation = generation := by
      simpa using hburied
    simp [h0, hlive, hburied]
  · have hburied : ¬ ∃ tombstone ∈ c.tombstones.rows, tombstone.generation = generation := by
      simpa using hburied
    simp [hlive, hburied]

/-! ## 2. The high water -/

/-- Every generation the coordinator holds or has buried is at most the high water. -/
structure Bounded (c : Coordinator W) : Prop where
  live : c.generation ≤ c.generationHighWater
  dead : ∀ tombstone ∈ c.tombstones.rows, tombstone.generation ≤ c.generationHighWater

theorem Bounded.buried (h : Bounded c) (hburied : c.Buried generation) :
    generation ≤ c.generationHighWater := by
  obtain ⟨tombstone, hmem, rfl⟩ := hburied
  exact h.dead tombstone hmem

theorem Bounded.init (config : Config W) : Bounded (Coordinator.init config) :=
  ⟨.refl, fun _ h => absurd h List.not_mem_nil⟩

/-- With its own tombstone written, the coordinator's generation is still bounded. -/
theorem Bounded.push (h : Bounded c) {epoch : Nat} :
    ∀ tombstone ∈ (c.appendTombstone c.generation c.identityRecordId epoch).tombstones.rows,
      tombstone.generation ≤ c.generationHighWater := by
  intro tombstone hmem
  rcases Table.eq_or_mem_of_mem_push hmem with hmem | rfl
  · exact h.dead tombstone hmem
  · exact h.live

theorem Effect.bounded (heffect : Effect c request d made) (h : Bounded c) : Bounded d := by
  have hraise : ∀ {generation : Nat}, generation ≤ c.generationHighWater →
      generation ≤ c.generationHighWater + 1 := Nat.le_succ_of_le
  cases heffect with
  | refused => exact h
  | lost => exact ⟨h.live, h.dead⟩
  | rolledBack => exact ⟨hraise h.live, fun t ht => hraise (h.dead t ht)⟩
  | installed => exact ⟨.refl, fun t ht => hraise (h.dead t ht)⟩
  | retired => exact ⟨Nat.zero_le _, h.push⟩
  | replaced => exact ⟨.refl, fun t ht => hraise (h.push t ht)⟩

theorem turn_bounded (h : Host W) (move : Move W) (hc : Bounded h.coordinator) :
    Bounded (turn h move).coordinator := by
  rcases turn_cases h move with ⟨hsame, -⟩ | ⟨request, d, made, details, -, heffect, hd, -⟩
  · rwa [hsame]
  · rw [hd]
    have hbounded := heffect.bounded hc
    exact ⟨hbounded.live, hbounded.dead⟩

/-! ## 3. What a generation can become -/

/-- Nothing that was lost is anything else later, and what was online is online or lost. -/
def Later (c d : Coordinator W) : Prop :=
  ∀ generation, (c.resolve generation = .deviceLost → d.resolve generation = .deviceLost) ∧
    (c.resolve generation = .online →
      d.resolve generation = .online ∨ d.resolve generation = .deviceLost)

theorem Later.refl (c : Coordinator W) : Later c c := fun _ => ⟨id, .inl⟩

theorem Later.trans {e : Coordinator W} (h : Later c d) (h' : Later d e) : Later c e := by
  intro generation
  refine ⟨fun hlost => (h' generation).1 ((h generation).1 hlost), fun honline => ?_⟩
  rcases (h generation).2 honline with hd | hd
  · exact (h' generation).2 hd
  · exact .inr ((h' generation).1 hd)

/-- The tuple is kept and the state does not come back to `online`. -/
theorem Later.of_same (hgen : d.generation = c.generation)
    (htombstones : d.tombstones = c.tombstones) (hstate : d.state = .online → c.state = .online) :
    Later c d := by
  intro generation
  have hburied : d.Buried generation ↔ c.Buried generation := by
    rw [Coordinator.Buried, htombstones, Coordinator.Buried]
  rw [Coordinator.resolve_eq_deviceLost, Coordinator.resolve_eq_deviceLost,
    Coordinator.resolve_eq_online, Coordinator.resolve_eq_online, hgen, hburied]
  refine ⟨?_, ?_⟩
  · rintro ⟨h0, ⟨hlive, hlost⟩ | hdead⟩
    · exact ⟨h0, .inl ⟨hlive, fun h => hlost (hstate h)⟩⟩
    · exact ⟨h0, .inr hdead⟩
  · rintro ⟨h0, hlive, -⟩
    by_cases h : d.state = .online
    · exact .inl ⟨h0, hlive, h⟩
    · exact .inr ⟨h0, .inl ⟨hlive, h⟩⟩

/-- The generation is given up: it is buried, and what takes its place is zero or above every
generation there was. -/
theorem Later.of_superseded (hbounded : Bounded c)
    (hnew : d.generation = 0 ∨ c.generationHighWater < d.generation)
    (hburied : ∀ generation, c.Buried generation → d.Buried generation)
    (hown : c.generation ≠ 0 → d.Buried c.generation) : Later c d := by
  intro generation
  have hlost : generation ≠ 0 → generation ≤ c.generationHighWater → d.Buried generation →
      d.resolve generation = .deviceLost := by
    intro h0 hle hd
    refine Coordinator.resolve_eq_deviceLost.2 ⟨h0, .inr ⟨?_, hd⟩⟩
    omega
  refine ⟨fun h => ?_, fun h => .inr ?_⟩
  · obtain ⟨h0, ⟨rfl, -⟩ | ⟨-, hdead⟩⟩ := Coordinator.resolve_eq_deviceLost.1 h
    · exact hlost h0 hbounded.live (hown h0)
    · exact hlost h0 (hbounded.buried hdead) (hburied generation hdead)
  · obtain ⟨h0, rfl, -⟩ := Coordinator.resolve_eq_online.1 h
    exact hlost h0 hbounded.live (hown h0)

/-- Where there is room, the tombstone of the tuple is written. -/
theorem Coordinator.buried_append (hroom : c.tombstones.Room) (epoch : Nat) :
    (∀ generation, c.Buried generation →
      (c.appendTombstone c.generation c.identityRecordId epoch).Buried generation) ∧
    (c.appendTombstone c.generation c.identityRecordId epoch).Buried c.generation := by
  refine ⟨?_, ?_⟩
  · rintro generation ⟨tombstone, hmem, rfl⟩
    exact ⟨tombstone, Table.mem_push_of_mem hmem, rfl⟩
  · exact ⟨_, (Table.mem_push hroom).2 (.inr rfl), rfl⟩

theorem Effect.later (heffect : Effect c request d made) (h : Bounded c) : Later c d := by
  cases heffect with
  | refused => exact .refl c
  | lost => exact .of_same rfl rfl nofun
  | rolledBack => exact .of_same rfl rfl id
  | installed _ _ hgen =>
    exact .of_superseded h (.inr .refl) (fun _ => id) (absurd hgen)
  | retired _ _ hroom =>
    obtain ⟨hburied, hown⟩ := Coordinator.buried_append hroom (c.epoch + 1)
    exact .of_superseded h (.inl rfl) hburied (fun _ => hown)
  | replaced _ _ _ hroom =>
    obtain ⟨hburied, hown⟩ := Coordinator.buried_append hroom (c.epoch + 1)
    exact .of_superseded h (.inr .refl) hburied (fun _ => hown)

theorem turn_later (h : Host W) (move : Move W) (hc : Bounded h.coordinator) :
    Later h.coordinator (turn h move).coordinator := by
  rcases turn_cases h move with ⟨hsame, -⟩ | ⟨request, d, made, details, -, heffect, hd, -⟩
  · rw [hsame]
    exact .refl _
  · rw [hd]
    exact (heffect.later hc).trans (.of_same rfl rfl id)

/-! ## 4. Over whole runs -/

/-- **`resolve` over a run.**  At any point at most one generation is online; and between any two
points, what was lost is lost, and what was online is online or lost. -/
theorem resolve_run (config : Config W) (world : W) (before after : List (Move W)) :
    let h := run turn (Host.start config world) before
    let h' := run turn h after
    (∀ g g', h.coordinator.resolve g = .online → h.coordinator.resolve g' = .online → g = g') ∧
    (∀ g, h.coordinator.resolve g = .deviceLost → h'.coordinator.resolve g = .deviceLost) ∧
    (∀ g, h.coordinator.resolve g = .online →
      h'.coordinator.resolve g = .online ∨ h'.coordinator.resolve g = .deviceLost) := by
  intro h h'
  have hbounded : Bounded h.coordinator :=
    run_induction turn_bounded before
      (Bounded.init config)
  have hlater : Later h.coordinator h'.coordinator :=
    run_rel
      (R := fun h h' : Host W => Later h.coordinator h'.coordinator)
      (fun h => .refl h.coordinator) Later.trans turn_bounded turn_later after hbounded
  refine ⟨fun g g' hg hg' => ?_, fun g => (hlater g).1, fun g => (hlater g).2⟩
  rw [Coordinator.resolve_eq_online] at hg hg'
  rw [hg.2.1, hg'.2.1]

/-- A reset that is torn between the mirrors: generation 1 was online, and is then lost for good. -/
theorem resolve_run_torn : (Host.start {} ()).coordinator.resolve 1 = .online ∧
    ((run turn (Host.start {} ()) [.apply tornMirrors resetRequest]).coordinator.resolve 1 =
        .online ∨
      (run turn (Host.start {} ()) [.apply tornMirrors resetRequest]).coordinator.resolve 1 =
        .deviceLost) :=
  ⟨rfl, (resolve_run {} () [] [.apply tornMirrors resetRequest]).2.2 1 rfl⟩

/-- **Only what was consumed is known**, after any run. -/
theorem resolve_known (config : Config W) (world : W) (moves : List (Move W)) (g : Nat) :
    let c := (run turn (Host.start config world) moves).coordinator
    c.generationConsumed g ∨ c.resolve g = .absent ∨ c.resolve g = .unknown := by
  intro c
  have hc : Bounded c := run_induction turn_bounded moves (.init config)
  unfold Coordinator.generationConsumed Coordinator.resolve
  grind [hc.live, hc.dead]

end MetaFlux.Lifecycle
