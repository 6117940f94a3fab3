/-
# Reported memory activity

When a module is prepared, its kernel is scanned for operations on global memory, and a launch that
succeeds is recorded as memory-active if there is one.  The scan leaves out the store of a single
byte.  A kernel that has none of these, or one of the operations that are looked for, is reported in
every launch that touches memory (`activity_reported`); one that only stores bytes is not
(`byte_store_unreported`).  Every store stays within a buffer that may be written
(`launch_confined`).
-/
import MetaFlux.Cpu.Alignment

namespace MetaFlux.Cpu

open Base Compiler List

variable (fpu : FloatUnit) (c : Code) (arguments : List Argument) (launch : LaunchDimensions)
  (memory other : Memory)

/-! ## 1. The scan and what it is for -/

def scanned (o : Instruction) : Bool :=
  match o.opcode with
  | .loadGlobalU32 | .storeGlobalU32 | .loadGlobalF32 | .storeGlobalF32 | .storeGlobalU64 => true
  | _ => false

def accessesGlobalMemory : Bool := c.operations.any scanned

/-- Every CTA has come to its end without an error. -/
def Grid.succeeded (g : Grid) : Bool := g.ctas.all fun cta => cta.phase = .done none

/-- What `process_launch` records of a launch that ends like this. -/
def memoryActive (g : Grid) : Bool := g.succeeded && accessesGlobalMemory c

/-- A turn changes memory, or what it does depends on what stands there. -/
def TouchesMemory (g : Grid) (turn : Nat × Bool) : Prop :=
  (gridStep fpu c arguments launch g turn).memory ≠ g.memory ∨
    ∃ other, (gridStep fpu c arguments launch { g with memory := other } turn).ctas ≠
      (gridStep fpu c arguments launch g turn).ctas

/-- Some turn of the launch touches memory. -/
def LaunchTouches (turns : List (Nat × Bool)) : Prop :=
  ∃ before turn after, turns = before ++ turn :: after ∧ TouchesMemory fpu c arguments launch
    (run (gridStep fpu c arguments launch) (newGrid c launch memory) before) turn

/-! ## 2. What is not scanned for does not touch memory -/

section Other

variable (coordinates : Coordinates) (shared : Shared)

/-- The operation is neither one that is looked for nor the store of a byte. -/
def Plain (o : Instruction) : Prop := scanned o = false ∧ o.opcode ≠ .storeGlobalU8

theorem effect_other {o : Instruction} (h : Plain o) (values : List RuntimeValue) :
    effect fpu arguments launch coordinates other shared values o =
      effect fpu arguments launch coordinates memory shared values o := by
  obtain ⟨opcode, result, inputs⟩ := o
  obtain ⟨hscan, hbyte⟩ := h
  cases opcode
  case loadGlobalU32 | storeGlobalU32 | loadGlobalF32 | storeGlobalF32 | storeGlobalU64 =>
    cases hscan
  case storeGlobalU8 => exact absurd rfl hbyte
  all_goals rfl

theorem bind_ok {α β : Type} {x : Except Fault α} {f : α → Except Fault β} {b : β}
    (h : (x >>= f) = .ok b) : ∃ a, x = .ok a ∧ f a = .ok b := by
  cases x with
  | error => cases h
  | ok a => exact ⟨a, rfl, h⟩

/-- Four operations store to memory. -/
theorem effect_store {o : Instruction} {values : List RuntimeValue} {m : Memory}
    (h : effect fpu arguments launch coordinates memory shared values o = .ok (.store m)) :
    o.opcode = .storeGlobalU32 ∨ o.opcode = .storeGlobalF32 ∨ o.opcode = .storeGlobalU8 ∨
      o.opcode = .storeGlobalU64 := by
  have hfits := ((effect_meets ⟨[], [], [], []⟩ 0).1 _ h).1
  obtain ⟨opcode⟩ := o
  cases opcode
  case storeGlobalU32 | storeGlobalF32 | storeGlobalU8 | storeGlobalU64 => simp
  case branchIf => obtain ⟨_, -, ⟨⟩⟩ := bind_ok h
  case storeSharedU32 =>
    obtain ⟨_, -, h⟩ := bind_ok h
    obtain ⟨_, -, h⟩ := bind_ok h
    obtain ⟨_, -, ⟨⟩⟩ := bind_ok h
  case barrierSync | ret => cases h
  all_goals cases hfits

theorem effect_memory {o : Instruction} (h : Plain o) {values : List RuntimeValue} {e : Effect}
    (heffect : effect fpu arguments launch coordinates memory shared values o = .ok e) :
    e.memory other = other := by
  cases e with
  | store =>
    obtain ⟨hscan, hbyte⟩ := h
    have hstores := effect_store fpu arguments launch memory coordinates shared heffect
    unfold scanned at hscan
    grind
  | _ => rfl

variable {c} (h : ∀ o ∈ c.operations, Plain o)
include h

theorem executeOne_other (t : ThreadState) :
    executeOne fpu c arguments launch coordinates t shared other =
      (executeOne fpu c arguments launch coordinates t shared memory).map fun r =>
        (r.1, r.2.1, other) := by
  unfold executeOne
  cases ho : c.operations[t.pc]? with
  | none => rfl
  | some o =>
    dsimp only
    split_ifs
    · rfl
    match guardActive t.registers o with
    | .error _ | .ok false => rfl
    | .ok true =>
      have hplain := h o (mem_of_getElem? ho)
      simp only [effect_other fpu arguments launch memory other coordinates shared hplain]
      cases heffect : effect fpu arguments launch coordinates memory shared t.registers o with
      | error => rfl
      | ok e =>
        simp only [Except.map, effect_memory fpu arguments launch memory other coordinates shared
          hplain heffect]

theorem ctaStep_other (cancelled : Bool) (cta : Cta) :
    ctaStep fpu c arguments launch cancelled cta other =
      ((ctaStep fpu c arguments launch cancelled cta memory).1, other) := by
  unfold ctaStep
  cases cta.phase with
  | done | start => split_ifs <;> rfl
  | turn index =>
    dsimp only
    cases cta.threads[index]? with
    | none => rfl
    | some t =>
      dsimp only
      split_ifs
      · rfl
      · rfl
      · rw [executeOne_other fpu arguments launch memory other _ cta.shared h t]
        cases executeOne fpu c arguments launch _ t cta.shared memory <;> rfl

theorem not_touchesMemory (g : Grid) (turn : Nat × Bool) :
    ¬ TouchesMemory fpu c arguments launch g turn := by
  have hstep : ∀ other, gridStep fpu c arguments launch { g with memory := other } turn =
      { gridStep fpu c arguments launch g turn with memory := other } := by
    intro other
    unfold gridStep
    cases g.ctas[turn.1]? with
    | none => rfl
    | some cta => simp only [ctaStep_other fpu arguments launch g.memory other h]
  rintro (hchanged | ⟨other, hreads⟩)
  · have hsame := congrArg Grid.memory (hstep g.memory)
    exact hchanged hsame
  · have hsame := congrArg Grid.ctas (hstep other)
    exact hreads hsame

end Other

/-- **Activity is reported** in every launch of a kernel that has an operation the scan looks for,
or stores no single byte: if a turn touches memory the scan has found one, and a launch that
succeeds is recorded as memory-active. -/
theorem activity_reported
    (hscan : accessesGlobalMemory c = true ∨ ∀ o ∈ c.operations, o.opcode ≠ .storeGlobalU8)
    (turns : List (Nat × Bool)) (htouches : LaunchTouches fpu c arguments launch memory turns) :
    let g := run (gridStep fpu c arguments launch) (newGrid c launch memory) turns
    accessesGlobalMemory c = true ∧ memoryActive c g = g.succeeded := by
  have hfound : accessesGlobalMemory c = true := by
    rcases hscan with hfound | hbyte
    · exact hfound
    by_contra hnone
    obtain ⟨before, turn, after, -, htouch⟩ := htouches
    refine not_touchesMemory fpu arguments launch (fun o ho => ⟨?_, hbyte o ho⟩) _ turn htouch
    exact Bool.eq_false_iff.2 (any_eq_false.1 (Bool.eq_false_iff.2 hnone) o ho)
  exact ⟨hfound, by rw [memoryActive, hfound, Bool.and_true]⟩

/-- A kernel that stores the number one at the start of its buffer. -/
def writer (opcode : Opcode) : Kernel :=
  { strided 4 with operations := [
      { opcode := .loadParameterAddress, result := 0 },
      { opcode := .moveImmediateU32, result := 1, attr := 1 },
      { opcode, inputs := #v[0, 1, 0], inputCount := 2 }, {}] }

/-- Its launch with memory zero, after so many turns. -/
def writerRun (opcode : Opcode) (turns : Nat) : Grid :=
  run (gridStep idleUnit (writer opcode).code [.buffer 0 4 true] {})
    (newGrid (writer opcode).code {} fun _ => 0) (replicate turns (0, false))

/-- The store of a word is reported. -/
theorem activity_reported_word :
    let c := (writer .storeGlobalU32).code
    LaunchTouches idleUnit c [.buffer 0 4 true] {} (fun _ => 0) (replicate 20 (0, false)) ∧
      accessesGlobalMemory c = true ∧ memoryActive c (writerRun .storeGlobalU32 20) = true := by
  intro c
  have htouches : LaunchTouches idleUnit c [.buffer 0 4 true] {} (fun _ => 0)
      (replicate 20 (0, false)) := by
    refine ⟨replicate 7 (0, false), (0, false), replicate 12 (0, false), rfl, .inl fun h => ?_⟩
    exact absurd (congrFun h 0) (by decide +kernel)
  have hscan : accessesGlobalMemory c = true := by decide +kernel
  obtain ⟨hfound, hact⟩ := activity_reported idleUnit c [.buffer 0 4 true] {} (fun _ => 0)
    (.inl hscan) _ htouches
  exact ⟨htouches, hfound, hact.trans (by decide +kernel)⟩

/-- **A stored byte goes unreported** in a launch that succeeds. -/
theorem byte_store_unreported :
    let c := (writer .storeGlobalU8).code
    (writer .storeGlobalU8).verifyKernel = [] ∧
    checkLaunch c [.buffer 0 4 true] {} ⟨true, true⟩ = none ∧
    LaunchTouches idleUnit c [.buffer 0 4 true] {} (fun _ => 0) (replicate 20 (0, false)) ∧
    accessesGlobalMemory c = false ∧ (writerRun .storeGlobalU8 20).succeeded = true ∧
    memoryActive c (writerRun .storeGlobalU8 20) = false := by
  refine ⟨?_, ?_, ?_, ?_, ?_, ?_⟩
  case refine_3 =>
    refine ⟨replicate 7 (0, false), (0, false), replicate 12 (0, false), rfl, .inl fun h => ?_⟩
    exact absurd (congrFun h 0) (by decide +kernel)
  all_goals decide +kernel

/-! ## 3. Where a launch writes -/

/-- Where the memories differ, there is a writable buffer. -/
def Confined : Prop := ∀ place, other place ≠ memory place →
  ∃ base size, .buffer base size true ∈ arguments ∧ base ≤ place ∧ place < base + size

variable {fpu c arguments launch memory}

theorem storeWord_eq (place : Nat) (value : UInt32) :
    storeWord memory place value = fun other => if other = place then value else memory other :=
  funext fun _ => Function.update_apply ..

theorem effect_confined {coordinates shared values o e}
    (h : effect fpu arguments launch coordinates memory shared values o = .ok e) :
    Confined arguments memory (e.memory memory) := by
  cases e with
  | store =>
    have hstores := effect_store _ _ _ _ _ _ h
    obtain ⟨opcode⟩ := o
    rcases hstores with rfl | rfl | rfl | rfl
    all_goals
      obtain ⟨_, -, h⟩ := bind_ok h
      obtain ⟨_, hplace, h⟩ := bind_ok h
      obtain ⟨_, hstored, ⟨⟩⟩ := bind_ok h
      intro place hne
      simp only [Effect.memory, storeByte, storeWord_eq] at hne
      simp only [storeGlobalU64, storeWord_eq] at hstored
      grind [globalWord, globalByte]
  | _ => exact fun _ h => absurd rfl h

theorem ctaStep_confined (cancelled : Bool) (cta : Cta) :
    Confined arguments memory (ctaStep fpu c arguments launch cancelled cta memory).2 := by
  have hsame : Confined arguments memory memory := fun _ h => absurd rfl h
  have hone : ∀ {coordinates t r},
      executeOne fpu c arguments launch coordinates t cta.shared memory = .ok r →
        Confined arguments memory r.2.2 := by
    intro coordinates t r h
    unfold executeOne at h
    split at h
    · cases h
    split_ifs at h
    split at h
    · cases h
    · cases h
      exact hsame
    split at h
    · cases h
    · cases h
      exact effect_confined ‹_›
  unfold ctaStep
  cases cta.phase with
  | done | start => split_ifs <;> exact hsame
  | turn index =>
    dsimp only
    split
    · exact hsame
    split_ifs
    · exact hsame
    · exact hsame
    split
    · exact hsame
    · next hrun => exact hone hrun

/-- **A launch writes only where it may**, however its CTAs interleave and wherever it stops. -/
theorem launch_confined (turns : List (Nat × Bool)) : Confined arguments memory
    (run (gridStep fpu c arguments launch) (newGrid c launch memory) turns).memory := by
  refine run_induction (P := fun g : Grid => Confined arguments memory g.memory)
    (fun g turn h => ?_) turns fun _ h => absurd rfl h
  unfold gridStep
  split
  · exact h
  next cta _ =>
    intro place hplace
    by_cases hstep : (ctaStep fpu c arguments launch turn.2 cta g.memory).2 place = g.memory place
    · exact h place (hstep ▸ hplace)
    · exact ctaStep_confined turn.2 cta place hstep

end MetaFlux.Cpu
