/-
# What threads read

`validateKernel` and `verifyKernel` both note an operation's result before they look at its inputs.
An operation may therefore name its OWN result among its inputs, and nothing but such an operation
reads a register that is not set (`reads_iff`).

The invariant of a thread (`ThreadOk`): the writes so far were made by operations before the next
one; and each of those operations that has a result has written it, unless the next operation is the
return.  Control skips operations in one way only: a branch leads to the return, which reads
nothing.  An operation with a guard that does not let it act has no result.
-/
import MetaFlux.Cpu.Interpreter

namespace MetaFlux.Cpu

open Base Compiler List

variable {fpu : FloatUnit} {c : Code} {arguments : List Argument} {launch : LaunchDimensions}

/-! ## 1. What an operation does -/

/-- The effect is one that the opcode has. -/
def EffectFits (o : Instruction) : Effect → Prop
  | .value value => (operationContract o.opcode).hasResult = true ∧
      value.kind = some (operationContract o.opcode).resultKind
  | .branch _ => o.opcode = .branchIf
  | .store _ | .storeShared _ => (operationContract o.opcode).hasResult = false ∧ o.opcode ≠ .ret
  | .wait => o.opcode = .barrierSync
  | .finish => o.opcode = .ret

variable {coordinates : Coordinates} {memory : Memory} {o : Instruction} {shared : Shared}

/-! ## 2. No bad access -/

/-- Whatever it comes to, no register was read as something it does not hold. -/
def NotBad {α : Type} (x : Except Fault α) : Prop := x ≠ .error .badAccess

/-- What it comes to is as said, and where all is `fine` no access is bad. -/
def Meets {α : Type} (fine : Prop) (Q : α → Prop) (x : Except Fault α) : Prop :=
  (∀ a, x = .ok a → Q a) ∧ (fine → NotBad x)

section Meets

variable {α β : Type} {fine : Prop} {P : α → Prop} {Q : β → Prop}

theorem Meets.bind {x : Except Fault α} {f : α → Except Fault β} (hx : Meets fine P x)
    (hf : ∀ a, Meets fine Q (f a)) : Meets fine Q (x >>= f) := by
  cases x with
  | error => exact ⟨nofun, fun hfine h => hx.2 hfine (by cases h; rfl)⟩
  | ok a => exact hf a

theorem Meets.ok {a : α} (h : P a) : Meets fine P (.ok a) := by
  refine ⟨?_, fun _ => nofun⟩
  rintro _ ⟨⟩
  exact h

theorem Meets.error {e : ExecutionError} : Meets fine P (.error (.error e)) :=
  ⟨nofun, fun _ => nofun⟩

variable {address : UInt32 × UInt64} {write : Bool}

theorem globalWord_meets : Meets fine (fun _ => True) (globalWord arguments write address) := by
  unfold globalWord
  split
  · split_ifs
    all_goals first | exact .error | exact .ok trivial
  · exact .error

theorem globalByte_meets : Meets fine (fun _ => True) (globalByte arguments write address) := by
  unfold globalByte
  split
  · split_ifs
    all_goals first | exact .error | exact .ok trivial
  · exact .error

theorem storeGlobalU64_meets {value : UInt64} :
    Meets fine (fun _ => True) (storeGlobalU64 arguments memory address value) := by
  unfold storeGlobalU64
  split
  · split_ifs
    all_goals first | exact .error | exact .ok trivial
  · exact .error

theorem sharedWord_meets : Meets fine (fun _ => True) (sharedWord shared address) := by
  unfold sharedWord
  split
  · exact .error
  · split_ifs
    · exact .error
    · split
      · exact .error
      · exact .ok trivial

end Meets

/-- The register holds a value of the kind. -/
def Holds (values : List RuntimeValue) (r : UInt32) (kind : ValueKind) : Prop :=
  ∃ value, values[r.toNat]? = some value ∧ value.kind = some kind

/-- The view is the one of the kind. -/
def Views {α : Type} (as : RuntimeValue → Option α) (kind : ValueKind) : Prop :=
  ∀ value : RuntimeValue, value.kind = some kind → ∃ a, as value = some a

open RuntimeValue in
/-- Each view reads the values of its kind. -/
structure ReadsKinds : Prop where
  predicate : Views asPredicate .predicate
  u32 : Views asU32 .u32
  u64 : Views asU64 .u64
  f32 : Views asF32 .f32
  global : Views asGlobal .globalAddress
  shared : Views asShared .sharedAddress

theorem views : ReadsKinds := by
  constructor <;> rintro (_ | _ | _ | _ | _ | _ | _) h <;> simp [RuntimeValue.kind] at h
  all_goals exact ⟨_, rfl⟩

variable {r : UInt32} {shared' : Shared} {memory' : Memory}

section Operands

variable {α β γ : Type} {values : List RuntimeValue} {fine : Prop} {Q : Effect → Prop}
  {as : RuntimeValue → Option α} {bs : RuntimeValue → Option β} {cs : RuntimeValue → Option γ}
  {k k' k'' : ValueKind} {f : α → RuntimeValue}

section

variable (hv : Views as k)

include hv

theorem fetch_meets (h : fine → Holds values r k) :
    Meets fine (fun _ => True) (fetch values r as) := by
  refine ⟨fun _ _ => trivial, fun hfine => ?_⟩
  obtain ⟨value, hvalue, hkind⟩ := h hfine
  obtain ⟨a, ha⟩ := hv value hkind
  rw [fetch, hvalue, Option.bind_some, ha]
  exact nofun

theorem unary_meets (h : fine → Holds values (getElem o.inputs 0 slot0) k)
    (hf : ∀ a, Q (.value (f a))) : Meets fine Q (unary values o as f) :=
  (fetch_meets hv h).bind fun a => .ok (hf a)

theorem binary_meets {f : α → β → RuntimeValue} (hv' : Views bs k')
    (h : fine → Holds values (getElem o.inputs 0 slot0) k)
    (h' : fine → Holds values (getElem o.inputs 1 slot1) k')
    (hf : ∀ a b, Q (.value (f a b))) : Meets fine Q (binary values o as bs f) :=
  (fetch_meets hv h).bind fun a => (fetch_meets hv' h').bind fun b => .ok (hf a b)

theorem ternary_meets {f : α → β → γ → RuntimeValue} (hv' : Views bs k')
    (hv'' : Views cs k'') (h : fine → Holds values (getElem o.inputs 0 slot0) k)
    (h' : fine → Holds values (getElem o.inputs 1 slot1) k')
    (h'' : fine → Holds values (getElem o.inputs 2 slot2) k'')
    (hf : ∀ a b c, Q (.value (f a b c))) : Meets fine Q (ternary values o as bs cs f) :=
  (fetch_meets hv h).bind fun a => (fetch_meets hv' h').bind fun b =>
    (fetch_meets hv'' h'').bind fun c => .ok (hf a b c)

theorem select_meets (h : fine → Holds values (getElem o.inputs 0 slot0) k)
    (h' : fine → Holds values (getElem o.inputs 1 slot1) k)
    (h'' : fine → Holds values (getElem o.inputs 2 slot2) .predicate)
    (hf : ∀ a, Q (.value (f a))) : Meets fine Q (select values o as f) := by
  refine (fetch_meets views.predicate h'').bind fun first => ?_
  refine Meets.bind (P := fun _ => True) ?_ fun a => .ok (hf a)
  cases first with
  | false => exact fetch_meets hv h'
  | true => exact fetch_meets hv h

end

end Operands

/-- An argument is of its parameter's kind. -/
theorem argument_fits (h : validateArguments c arguments = none) {n : Nat} {kind : ParameterKind}
    (hn : c.parameters[n]? = some kind) :
    ∃ a, arguments[n]? = some a ∧ argumentFits kind a = true := by
  unfold validateArguments at h
  split_ifs at h with hlen hall
  obtain ⟨hlt, -⟩ := List.getElem?_eq_some_iff.1 hn
  have ha : n < arguments.length := by omega
  refine ⟨arguments[n], List.getElem?_eq_getElem ha, ?_⟩
  refine List.all_eq_true.1 hall (kind, arguments[n]) ?_
  rw [mem_iff_getElem?]
  exact ⟨n, by rw [getElem?_zip_eq_some]; exact ⟨hn, getElem?_eq_getElem ha⟩⟩

/-- The arguments are as declared, and the operands hold what the contract wants. -/
def Supplied (c : Code) (arguments : List Argument) (index : Nat) (values : List RuntimeValue)
    (o : Instruction) : Prop :=
  validateArguments c arguments = none ∧ c.AttributeFits index o ∧
    ∀ (n : Nat) kind, (operationContract o.opcode).inputKinds[n]? = some kind →
      ∀ hn : n < 3, Holds values o.inputs[n] kind

variable (c) in
/-- **An operation has an effect of its opcode**, and reads nothing but what its operands hold. -/
theorem effect_meets (index : Nat) {values : List RuntimeValue} :
    Meets (Supplied c arguments index values o) (EffectFits o)
      (effect fpu arguments launch coordinates memory shared values o) := by
  have hoperand :
      ∀ (n : Nat) (hn : n < 3) kind, (operationContract o.opcode).inputKinds[n]? = some kind →
      Supplied c arguments index values o → Holds values o.inputs[n] kind :=
    fun n hn kind hkind h => h.2.2 n kind hkind hn
  have hfirst := hoperand 0 (by decide)
  have hsecond := hoperand 1 (by decide)
  have hthird := hoperand 2 (by decide)
  obtain ⟨opcode⟩ := o
  cases opcode
  case loadParameterAddress | loadSharedAddress | moveSpecialU32 | moveImmediateU32 =>
    exact .ok ⟨rfl, rfl⟩
  case barrierSync | ret => exact .ok rfl
  case loadParameterU32 | loadParameterF32 =>
    refine ⟨fun e he => ?_, fun h => ?_⟩
    · simp only [effect] at he
      split at he
      · cases he
        exact ⟨rfl, rfl⟩
      · cases he
    · obtain ⟨a, ha, hfits⟩ := argument_fits h.1 h.2.1
      cases a <;> simp [argumentFits] at hfits
      simp [effect, ha, NotBad]
  case absS32 | multiplyWideU32 | convertRnF32U32 | convertRnF32S32 =>
    exact unary_meets views.u32 (hfirst _ rfl) fun _ => ⟨rfl, rfl⟩
  case absF32 | sqrtRnF32 | expF32 | convertRziU32F32 =>
    exact unary_meets views.f32 (hfirst _ rfl) fun _ => ⟨rfl, rfl⟩
  case addU32 | subU32 | multiplyLoU32 | multiplyHiU32 | setPredicateGeU32 | setPredicateGtS32 |
      setPredicateEqU32 =>
    exact binary_meets views.u32 views.u32 (hfirst _ rfl) (hsecond _ rfl) fun _ _ => ⟨rfl, rfl⟩
  case addRnF32 | subRnF32 | divRnF32 | multiplyRnF32 | setPredicateLtF32 =>
    exact binary_meets views.f32 views.f32 (hfirst _ rfl) (hsecond _ rfl) fun _ _ => ⟨rfl, rfl⟩
  case addSharedAddress =>
    exact binary_meets views.shared views.u32 (hfirst _ rfl) (hsecond _ rfl) fun _ _ => ⟨rfl, rfl⟩
  case madLoU32 =>
    exact ternary_meets views.u32 views.u32 views.u32 (hfirst _ rfl) (hsecond _ rfl) (hthird _ rfl)
      fun _ _ _ => ⟨rfl, rfl⟩
  case madRnF32 | fmaRnF32 =>
    exact ternary_meets views.f32 views.f32 views.f32 (hfirst _ rfl) (hsecond _ rfl) (hthird _ rfl)
      fun _ _ _ => ⟨rfl, rfl⟩
  case selectU32 =>
    exact select_meets views.u32 (hfirst _ rfl) (hsecond _ rfl) (hthird _ rfl) fun _ => ⟨rfl, rfl⟩
  case selectF32 =>
    exact select_meets views.f32 (hfirst _ rfl) (hsecond _ rfl) (hthird _ rfl) fun _ => ⟨rfl, rfl⟩
  case addGlobalAddress =>
    refine (fetch_meets views.global (hfirst _ rfl)).bind fun base => ?_
    refine (fetch_meets views.u64 (hsecond _ rfl)).bind fun offset => ?_
    split
    · exact .error
    · exact .ok ⟨rfl, rfl⟩
  case branchIf =>
    exact (fetch_meets views.predicate (hfirst _ rfl)).bind fun _ => .ok rfl
  case loadGlobalU32 | loadGlobalF32 =>
    exact (fetch_meets views.global (hfirst _ rfl)).bind fun _ =>
      globalWord_meets.bind fun _ => .ok ⟨rfl, rfl⟩
  case loadSharedU32 =>
    exact (fetch_meets views.shared (hfirst _ rfl)).bind fun _ =>
      sharedWord_meets.bind fun _ => .ok ⟨rfl, rfl⟩
  case storeGlobalU32 =>
    exact (fetch_meets views.global (hfirst _ rfl)).bind fun _ => globalWord_meets.bind fun _ =>
      (fetch_meets views.u32 (hsecond _ rfl)).bind fun _ => .ok ⟨rfl, nofun⟩
  case storeGlobalF32 =>
    exact (fetch_meets views.global (hfirst _ rfl)).bind fun _ => globalWord_meets.bind fun _ =>
      (fetch_meets views.f32 (hsecond _ rfl)).bind fun _ => .ok ⟨rfl, nofun⟩
  case storeGlobalU8 =>
    exact (fetch_meets views.global (hfirst _ rfl)).bind fun _ => globalByte_meets.bind fun _ =>
      (fetch_meets views.u32 (hsecond _ rfl)).bind fun _ => .ok ⟨rfl, nofun⟩
  case storeGlobalU64 =>
    exact (fetch_meets views.global (hfirst _ rfl)).bind fun _ =>
      (fetch_meets views.u64 (hsecond _ rfl)).bind fun _ =>
        storeGlobalU64_meets.bind fun _ => .ok ⟨rfl, nofun⟩
  case storeSharedU32 =>
    exact (fetch_meets views.shared (hfirst _ rfl)).bind fun _ => sharedWord_meets.bind fun _ =>
      (fetch_meets views.u32 (hsecond _ rfl)).bind fun _ => .ok ⟨rfl, nofun⟩

/-! ## 3. Threads -/

/-- Every operation before the next one that has a result has written it, and it is still there. -/
def Caught (c : Code) (t : ThreadState) : Prop :=
  ∀ j o r, j < t.pc → c.operations[j]? = some o → o.Defines r →
    ∃ value, (j, r, value) ∈ t.written ∧ t.registers[r.toNat]? = some value ∧
      value.kind = some (operationContract o.opcode).resultKind

/-- A guard says no, or the operation has its effect. -/
theorem executeOne_cases {t t' : ThreadState}
    (hrun : executeOne fpu c arguments launch coordinates t shared memory =
      .ok (t', shared', memory')) :
    ∃ o, c.operations[t.pc]? = some o ∧
      (o.predicate ≠ noValue ∧ t' = { t with steps := t.steps + 1, pc := t.pc + 1 } ∨
        ∃ e, effect fpu arguments launch coordinates memory shared t.registers o = .ok e ∧
          t' = { t with steps := t.steps + 1 }.after o e) := by
  unfold executeOne at hrun
  split at hrun
  · cases hrun
  rename_i o ho
  refine ⟨o, ho, ?_⟩
  split_ifs at hrun
  split at hrun
  · cases hrun
  · rename_i hguard
    cases hrun
    refine .inl ⟨fun hnone => ?_, rfl⟩
    rw [guardActive, if_neg (not_not.2 hnone)] at hguard
    cases hguard
  · split at hrun
    · cases hrun
    · rename_i e heffect
      cases hrun
      exact .inr ⟨e, heffect, rfl⟩

structure ThreadOk (c : Code) (t : ThreadState) : Prop where
  size : t.registers.length = c.registers.length
  sound : ∀ e ∈ t.written, e.1 < t.pc ∧ ∃ o, c.operations[e.1]? = some o ∧ o.Defines e.2.1
  caught : t.returned = false → (c.operations[t.pc]?).map (·.opcode) = some .ret ∨ Caught c t
  waits : t.waiting = true → (c.operations[t.pc]?).map (·.opcode) = some .barrierSync

theorem newThread_ok (x y : UInt32) : ThreadOk c (newThread c x y) where
  size := length_replicate
  sound := fun _ he => absurd he not_mem_nil
  caught := fun _ => .inr fun j _ _ hj => absurd hj (Nat.not_lt_zero j)
  waits := nofun

namespace ThreadOk

variable {t : ThreadState}

/-- Only a store is guarded, and so an operation with a result or a return is not. -/
theorem guarded (hc : c.WellFormed) {index : Nat} (ho : c.operations[index]? = some o)
    (hguard : o.predicate ≠ noValue) :
    (operationContract o.opcode).hasResult = false ∧ o.opcode ≠ .ret ∧ o.opcode ≠ .barrierSync := by
  have hmay := ((hc.fits index o ho).guard hguard).1
  simp only [mayBePredicated, Bool.or_eq_true, decide_eq_true_eq] at hmay
  rcases hmay with (h | h) | h <;> simp [h, operationContract]

theorem sound_of_le (h : ThreadOk c t) {next : ThreadState} (hpc : t.pc ≤ next.pc)
    (hwritten : next.written = t.written) :
    ∀ e ∈ next.written, e.1 < next.pc ∧ ∃ o, c.operations[e.1]? = some o ∧ o.Defines e.2.1 := by
  intro e he
  rw [hwritten] at he
  obtain ⟨hlt, hop⟩ := h.sound e he
  exact ⟨Nat.lt_of_lt_of_le hlt hpc, hop⟩

/-- Unless it is at the return, a thread has caught up. -/
theorem caught_of_ne (h : ThreadOk c t) (hreturned : t.returned = false)
    (ho : c.operations[t.pc]? = some o) (hret : o.opcode ≠ .ret) : Caught c t := by
  refine (h.caught hreturned).resolve_left fun hisret => hret ?_
  rw [ho] at hisret
  exact Option.some.inj hisret

section

variable {next : ThreadState} (hcaught : Caught c t) (ho : c.operations[t.pc]? = some o)
  (hres : (operationContract o.opcode).hasResult = false) (hpc : next.pc = t.pc + 1)
  (hregs : next.registers = t.registers) (hwritten : next.written = t.written)

include hcaught ho hres hpc hregs hwritten

/-- The next operation leaves everything caught up with, if it has no result. -/
theorem caught_succ : Caught c next := by
  intro j p r hj hp hdef
  rw [hregs, hwritten]
  rw [hpc] at hj
  rcases Nat.lt_succ_iff_lt_or_eq.1 hj with hlt | rfl
  · exact hcaught j p r hlt hp hdef
  · rw [ho] at hp
    cases hp
    exact absurd (hres.symm.trans hdef.1) (by decide)

/-- Control goes on past an operation that has no result. -/
theorem passed (h : ThreadOk c t) (hwaiting : next.waiting = false) : ThreadOk c next where
  size := by rw [hregs, h.size]
  sound := h.sound_of_le (by omega) hwritten
  caught _ := .inr (caught_succ hcaught ho hres hpc hregs hwritten)
  waits hw := absurd (hwaiting.symm.trans hw) (by decide)

end

section

variable (hc : c.WellFormed) (h : ThreadOk c t) (hreturned : t.returned = false)
  (hwaiting : t.waiting = false)

include hc h hreturned hwaiting

/-- **An effect keeps the invariant.** -/
theorem after (ho : c.operations[t.pc]? = some o) {e : Effect}
    (he : EffectFits o e) : ThreadOk c (t.after o e) := by
  have hfits := hc.fits t.pc o ho
  have hcaught : o.opcode ≠ .ret → Caught c t := h.caught_of_ne hreturned ho
  cases e with
  | value value =>
    obtain ⟨hres, hkind⟩ := he
    have hret : o.opcode ≠ .ret := by
      intro heq
      rw [heq] at hres
      cases hres
    have hin : o.result.toNat < t.registers.length := by
      rw [h.size]
      exact (List.getElem?_eq_some_iff.1 (hfits.result hres)).1
    refine ⟨by rw [ThreadState.after, List.length_set]; exact h.size, fun w hw => ?_,
      fun _ => .inr ?_,
      fun hw => absurd (hwaiting.symm.trans hw) (by decide)⟩
    · rcases List.mem_cons.1 hw with rfl | hw
      · exact ⟨.refl, o, ho, hres, rfl⟩
      · obtain ⟨hlt, hop⟩ := h.sound w hw
        exact ⟨Nat.le.step hlt, hop⟩
    · intro j p r hj hp hdef
      rcases Nat.lt_succ_iff_lt_or_eq.1 hj with hlt | rfl
      · obtain ⟨v, hmem, hget, hv⟩ := hcaught hret j p r hlt hp hdef
        refine ⟨v, mem_cons_of_mem _ hmem, ?_, hv⟩
        -- another register: nothing is defined twice
        have hother : o.result.toNat ≠ r.toNat := by
          intro heq
          have hsame : o.Defines r := ⟨hres, UInt32.toNat_inj.1 heq⟩
          exact hfits.fresh r hsame ⟨j, p, hlt, hp, hdef⟩
        rw [ThreadState.after, getElem?_set_ne hother]
        exact hget
      · rw [ho] at hp
        cases hp
        obtain ⟨-, rfl⟩ := hdef
        refine ⟨value, mem_cons_self, ?_, hkind⟩
        rw [ThreadState.after, getElem?_set_self hin]
  | branch taken =>
    have hbranch : o.opcode = .branchIf := he
    have hattribute := hfits.selects
    simp only [Code.AttributeFits, hbranch] at hattribute
    have hnext := hcaught (by rw [hbranch]; decide)
    cases taken with
    | true =>
      refine ⟨h.size, h.sound_of_le (Nat.le_of_lt hattribute.1) rfl, fun _ => .inl hattribute.2,
        fun hw => absurd (hwaiting.symm.trans hw) (by decide)⟩
    | false => exact passed hnext ho (by rw [hbranch]; rfl) rfl rfl rfl h hwaiting
  | store | storeShared =>
    obtain ⟨hres, hret⟩ := he
    exact passed (hcaught hret) ho hres rfl rfl rfl h hwaiting
  | wait =>
    have hbarrier : o.opcode = .barrierSync := he
    exact ⟨h.size, h.sound, h.caught, fun _ => by rw [← hbarrier]; exact congrArg _ ho⟩
  | finish =>
    exact ⟨h.size, h.sound_of_le (Nat.le_succ _) rfl, nofun,
      fun hw => absurd (hwaiting.symm.trans hw) (by decide)⟩

/-- **One operation keeps the invariant.** -/
theorem executeOne {t' : ThreadState}
    (hrun : Cpu.executeOne fpu c arguments launch coordinates t shared memory =
      .ok (t', shared', memory')) : ThreadOk c t' := by
  obtain ⟨o, ho, ⟨hsome, rfl⟩ | ⟨e, heffect, rfl⟩⟩ := executeOne_cases hrun
  · obtain ⟨hres, hret, -⟩ := guarded hc ho hsome
    exact passed (h.caught_of_ne hreturned ho hret) ho hres rfl rfl rfl h hwaiting
  · have hcounted : ThreadOk c { t with steps := t.steps + 1 } := { h with }
    exact hcounted.after hc hreturned hwaiting ho ((effect_meets c t.pc).1 e heffect)

end

/-- A thread that waited goes on after the barrier. -/
theorem release (h : ThreadOk c t) (hwaiting : t.waiting = true) :
    ThreadOk c { t with waiting := false, pc := t.pc + 1 } := by
  obtain ⟨o, ho, hopcode⟩ := Option.map_eq_some_iff.1 (h.waits hwaiting)
  refine ⟨h.size, h.sound_of_le (Nat.le_succ _) rfl, fun hreturned => .inr ?_, nofun⟩
  have hcaught := h.caught_of_ne hreturned ho (by rw [hopcode]; decide)
  exact caught_succ hcaught ho (by rw [hopcode]; rfl) rfl rfl rfl

end ThreadOk

/-! ## 4. Launches -/

def CtaOk (c : Code) (cta : Cta) : Prop := ∀ t ∈ cta.threads, ThreadOk c t

def GridOk (c : Code) (g : Grid) : Prop := ∀ cta ∈ g.ctas, CtaOk c cta

section Threads

variable {P : ThreadState → Prop}
  (hstep : ∀ {coordinates t shared memory t' shared' memory'}, P t → t.returned = false →
    t.waiting = false →
    executeOne fpu c arguments launch coordinates t shared memory = .ok (t', shared', memory') →
    P t')
  (hrelease : ∀ {t : ThreadState}, P t → t.waiting = true →
    P { t with waiting := false, pc := t.pc + 1 })

include hrelease

theorem endRound_threads {cta : Cta} (h : ∀ t ∈ cta.threads, P t) (returned waiting : Nat)
    (progressed : Bool) : ∀ t ∈ (endRound cta returned waiting progressed).threads, P t := by
  unfold endRound
  dsimp only
  split_ifs with hreturned hwaiting hsame hend
  · exact h
  · intro t ht
    obtain ⟨u, hu, rfl⟩ := mem_map.1 ht
    have hwaits := all_eq_true.1 hsame u hu
    rw [Bool.and_eq_true] at hwaits
    exact hrelease (h u hu) hwaits.1
  · exact h
  · exact h
  · exact h
  · exact h

include hstep

theorem ctaStep_threads {cta : Cta} (h : ∀ t ∈ cta.threads, P t) (cancelled : Bool)
    (memory : Memory) :
    ∀ t ∈ (ctaStep fpu c arguments launch cancelled cta memory).1.threads, P t := by
  unfold ctaStep
  cases hphase : cta.phase with
  | done => exact h
  | start =>
    dsimp only
    split
    · exact h
    · exact h
  | turn index returned waiting progressed =>
    dsimp only
    cases hthread : cta.threads[index]? with
    | none => exact endRound_threads hrelease h returned waiting progressed
    | some t =>
      dsimp only
      split_ifs with hreturned hwaiting
      · exact h
      · exact h
      cases hrun :
        executeOne fpu c arguments launch ⟨cta.blockX, cta.blockY, t.threadX, t.threadY⟩ t
          cta.shared memory with
      | error stop => exact h
      | ok result =>
        intro u hu
        rcases mem_or_eq_of_mem_set hu with hu | rfl
        · exact h u hu
        · exact hstep (h t (mem_of_getElem? hthread)) (by simpa using hreturned)
            (by simpa using hwaiting) hrun

/-- **What holds of new threads and is kept by operations and barriers holds of every thread of
every run.** -/
theorem run_threads (hnew : ∀ x y, P (newThread c x y)) (memory : Memory)
    (turns : List (Nat × Bool)) :
    ∀ cta ∈ (run (gridStep fpu c arguments launch) (newGrid c launch memory) turns).ctas,
      ∀ t ∈ cta.threads, P t := by
  refine run_induction (P := fun g : Grid => ∀ cta ∈ g.ctas, ∀ t ∈ cta.threads, P t) ?_ turns ?_
  · intro g turn h
    unfold gridStep
    cases hcta : g.ctas[turn.1]? with
    | none => exact h
    | some cta =>
      intro next hnext
      rcases mem_or_eq_of_mem_set hnext with hnext | rfl
      · exact h next hnext
      · exact ctaStep_threads hstep hrelease (h cta (mem_of_getElem? hcta)) turn.2 g.memory
  · intro cta hcta t ht
    obtain ⟨y, -, hcta⟩ := mem_flatMap.1 hcta
    obtain ⟨x, -, rfl⟩ := mem_map.1 hcta
    obtain ⟨j, -, ht⟩ := mem_flatMap.1 ht
    obtain ⟨i, -, rfl⟩ := mem_map.1 ht
    exact hnew _ _

end Threads

theorem run_ok (hc : c.WellFormed) (memory : Memory) (turns : List (Nat × Bool)) :
    GridOk c (run (gridStep fpu c arguments launch) (newGrid c launch memory) turns) :=
  run_threads (fun h hr hw hrun => h.executeOne hc hr hw hrun) ThreadOk.release newThread_ok
    memory turns

/-! ## 5. What is read -/

/-- The register was written by an operation before the next one, it still holds what was written,
and that is of the kind. -/
def WrittenBefore (t : ThreadState) (r : UInt32) (kind : ValueKind) : Prop :=
  ∃ j value, j < t.pc ∧ (j, r, value) ∈ t.written ∧ t.registers[r.toNat]? = some value ∧
    value.kind = some kind

/-- Everything that the operation reads was. -/
def ReadsWritten (t : ThreadState) (o : Instruction) : Prop :=
  (∀ (n : Nat) r, o.used[n]? = some r →
    ∃ kind, (operationContract o.opcode).inputKinds[n]? = some kind ∧ WrittenBefore t r kind) ∧
  (o.predicate ≠ noValue → WrittenBefore t o.predicate .predicate)

variable {t : ThreadState} {kind : ValueKind}

theorem WrittenBefore.holds (h : WrittenBefore t r kind) : Holds t.registers r kind := by
  obtain ⟨j, value, -, -, hget, hkind⟩ := h
  exact ⟨value, hget, hkind⟩

/-- What is defined before the next operation was written, with the kind of its register. -/
theorem Caught.writtenBefore (hcaught : Caught c t) (hc : c.WellFormed)
    (hkind : c.registers[r.toNat]? = some kind) (hbefore : c.DefinedBefore t.pc r) :
    WrittenBefore t r kind := by
  obtain ⟨j, p, hj, hp, hdef⟩ := hbefore
  obtain ⟨value, hmem, hget, hvalue⟩ := hcaught j p r hj hp hdef
  have hres := (hc.fits j p hp).result hdef.1
  rw [hdef.2, hkind] at hres
  exact ⟨j, value, hj, hmem, hget, by rw [hvalue, hres]⟩

/-- **What an operation reads was written before it**, exactly if it does not read its own result.
-/
theorem reads_iff (hc : c.WellFormed) (h : ThreadOk c t)
    (hreturned : t.returned = false) (ho : c.operations[t.pc]? = some o) :
    ReadsWritten t o ↔ ∀ r ∈ o.reads, ¬ o.Defines r := by
  have hfits := hc.fits t.pc o ho
  have hwritten : ∀ {r kind}, WrittenBefore t r kind → ¬ o.Defines r := by
    rintro r kind ⟨j, value, hj, hmem, -⟩ hown
    obtain ⟨-, p, hp, hdef⟩ := h.sound _ hmem
    exact hfits.fresh r hown ⟨j, p, hj, hp, hdef⟩
  constructor
  · rintro ⟨hinputs, hguard⟩ r hr
    rw [Instruction.reads, mem_append] at hr
    rcases hr with hinput | hpredicate
    · obtain ⟨n, hn⟩ := mem_iff_getElem?.1 hinput
      obtain ⟨kind, -, hbefore⟩ := hinputs n r hn
      exact hwritten hbefore
    · split_ifs at hpredicate with hnone
      · cases hpredicate
      · rw [mem_singleton.1 hpredicate]
        exact hwritten (hguard hnone)
  · intro hnot
    rcases h.caught hreturned with hret | hcaught
    · -- the return reads nothing
      rw [ho] at hret
      have hopcode : o.opcode = .ret := Option.some.inj hret
      refine ⟨fun n r hn => ?_, fun hsome => ?_⟩
      · have hlen := hfits.used_length
        rw [hopcode] at hlen
        rw [length_eq_zero_iff.1 hlen] at hn
        cases hn
      · exact absurd hopcode (ThreadOk.guarded hc ho hsome).2.1
    · refine ⟨fun n r hn => ?_, fun hsome => ?_⟩
      · obtain ⟨hkind, -⟩ := hfits.inputs n r hn
        have hmem : r ∈ o.reads := List.mem_append_left _ (List.mem_of_getElem? hn)
        have hbefore := (hc.definedBefore_iff ho hmem).2 (hnot r hmem)
        have hlt : n < (operationContract o.opcode).inputKinds.length := by
          have hin := (List.getElem?_eq_some_iff.1 hn).1
          rw [hfits.used_length] at hin
          exact hin
        rw [List.getElem?_eq_getElem hlt] at hkind
        exact ⟨_, getElem?_eq_getElem hlt, hcaught.writtenBefore hc hkind hbefore⟩
      · have hmem : o.predicate ∈ o.reads := by
          rw [Instruction.reads, if_neg hsome]
          exact mem_append_right _ mem_cons_self
        have hbefore := (hc.definedBefore_iff ho hmem).2 (hnot _ hmem)
        exact hcaught.writtenBefore hc (hfits.guard hsome).2.1 hbefore

theorem guardActive_notBad (h : o.predicate ≠ noValue → Holds t.registers o.predicate .predicate) :
    NotBad (guardActive t.registers o) := by
  unfold guardActive
  split
  · next hsome =>
    have hmeets := fetch_meets views.predicate fun _ : True => h hsome
    exact (hmeets.bind (Q := fun _ => True) fun _ => .ok trivial).2 trivial
  · exact nofun

theorem stop_ne_badAccess {fault : Fault} {operation : Nat}
    (h : fault ≠ .badAccess) : fault.stop operation coordinates ≠ .badAccess := by
  cases fault with
  | error => exact nofun
  | badAccess => exact absurd rfl h

/-- **No bad access**, where what is read was written. -/
theorem executeOne_ne_badAccess (hc : c.WellFormed)
    (hargs : validateArguments c arguments = none)
    (ho : c.operations[t.pc]? = some o) (h : ReadsWritten t o)
    (coordinates : Coordinates) (shared : Shared) (memory : Memory) :
    executeOne fpu c arguments launch coordinates t shared memory ≠ .error .badAccess := by
  have hfits := hc.fits t.pc o ho
  have hholds : ∀ n kind, (operationContract o.opcode).inputKinds[n]? = some kind →
      ∀ hn : n < 3, Holds t.registers o.inputs[n] kind := by
    intro n kind hkind hn
    have hcount : n < o.inputCount.toNat := by
      rw [hfits.count]
      exact (List.getElem?_eq_some_iff.1 hkind).1
    have hused : o.used[n]? = some o.inputs[n] := by
      rw [Instruction.used, List.getElem?_take_of_lt hcount]
      simp
    obtain ⟨kind', hkind', hbefore⟩ := h.1 n _ hused
    rw [hkind, Option.some.injEq] at hkind'
    rw [hkind']
    exact hbefore.holds
  unfold executeOne
  rw [ho]
  dsimp only
  split_ifs
  · rintro ⟨⟩
  have hguard := guardActive_notBad fun hsome => (h.2 hsome).holds
  cases hact : guardActive t.registers o with
  | error =>
    rw [hact] at hguard
    intro heq
    refine stop_ne_badAccess (fun hbad => hguard (by rw [hbad])) (Except.error.inj heq)
  | ok active =>
    cases active with
    | false => rintro ⟨⟩
    | true =>
      have heffect : NotBad (effect fpu arguments launch coordinates memory shared t.registers o) :=
        (effect_meets c t.pc).2 ⟨hargs, hfits.selects, hholds⟩
      cases hres : effect fpu arguments launch coordinates memory shared t.registers o with
      | error =>
        rw [hres] at heffect
        intro heq
        refine stop_ne_badAccess (fun hbad => heffect (by rw [hbad])) (Except.error.inj heq)
      | ok => rintro ⟨⟩

/-! ## 6. Accepted kernels -/

theorem parseKernel_wellFormed {text : Text} (h : parseKernel text = .ok c) : c.WellFormed := by
  unfold parseKernel at h
  split_ifs at h
  split at h
  · cases h
  · split at h
    · cases h
    · next hvalid =>
      cases h
      exact (validateKernel_eq_none.1 hvalid).2.2.2

/-- The interpreter read it, or the compiler verified it. -/
def Accepted (c : Code) : Prop :=
  (∃ text, parseKernel text = .ok c) ∨ ∃ kernel : Kernel, kernel.verifyKernel = [] ∧ c = kernel.code

theorem Accepted.wellFormed (h : Accepted c) : c.WellFormed := by
  rcases h with ⟨text, htext⟩ | ⟨kernel, hverified, rfl⟩
  · exact parseKernel_wellFormed htext
  · exact Kernel.code_wellFormed hverified

theorem checkLaunch_arguments {host : Host} (h : checkLaunch c arguments launch host = none) :
    validateArguments c arguments = none := by
  unfold checkLaunch at h
  dsimp only at h
  split_ifs at h
  all_goals
    split at h
    · cases h
    · next hvalid => exact hvalid

/-- **What threads read.**  In every launch that the interpreter accepts and at every turn of every
thread: the registers that the next operation reads were written by operations before it, with
values of the kinds its contract names, exactly if it does not read its own result; and then it is
executed without a bad access. -/
theorem reads_defined (fpu : FloatUnit) {c : Code} (haccepted : Accepted c)
    {arguments : List Argument}
    {launch : LaunchDimensions} {host : Host} (hlaunch : checkLaunch c arguments launch host = none)
    (memory : Memory) (turns : List (Nat × Bool)) :
    ∀ cta ∈ (run (gridStep fpu c arguments launch) (newGrid c launch memory) turns).ctas,
      ∀ index returned waiting progressed t o,
        cta.phase = .turn index returned waiting progressed → cta.threads[index]? = some t →
        t.returned = false → t.waiting = false → c.operations[t.pc]? = some o →
        (ReadsWritten t o ↔ ∀ r ∈ o.reads, ¬ o.Defines r) ∧
        ((∀ r ∈ o.reads, ¬ o.Defines r) → ∀ memory',
          executeOne fpu c arguments launch ⟨cta.blockX, cta.blockY, t.threadX, t.threadY⟩
          t cta.shared memory' ≠ .error .badAccess) := by
  intro cta hcta index returned waiting progressed t o _ ht hreturned _ ho
  have hc := haccepted.wellFormed
  have hok : ThreadOk c t := run_ok hc memory turns cta hcta t (mem_of_getElem? ht)
  have hiff := reads_iff hc hok hreturned ho
  refine ⟨hiff, fun hnot memory' => ?_⟩
  exact executeOne_ne_badAccess hc (checkLaunch_arguments hlaunch) ho (hiff.2 hnot) _ _ _

/-- A unit for kernels that do not use it. -/
def idleUnit : FloatUnit where
  add := fun _ _ => 0
  sub := fun _ _ => 0
  mul := fun _ _ => 0
  div := fun _ _ => 0
  fma := fun _ _ _ => 0
  sqrt := fun _ => 0
  exp := fun _ => 0
  ofU32 := fun _ => 0
  ofS32 := fun _ => 0
  isNaN := fun _ => false
  lt := fun _ _ => false
  le := fun _ _ => false
  truncate := fun _ => 0

/-- A number is loaded and doubled. -/
def doubling : Kernel where
  name := ascii "k"
  registers := [{}, {}]
  operations := [
    { opcode := .moveImmediateU32, result := 0, attr := 21 },
    { opcode := .addU32, result := 1, inputs := #v[0, 0, noValue], inputCount := 2 }, {}]

/-- The thread of a launch before its second operation. -/
def doublingThread : ThreadState :=
  { registers := [.u32 21, .unset], threadX := 0, threadY := 0, pc := 1, steps := 1,
    written := [(0, 0, .u32 21)] }

theorem reads_defined_doubling :
    doubling.verifyKernel = [] ∧ checkLaunch doubling.code [] {} ⟨true, true⟩ = none ∧
      ReadsWritten doublingThread
        { opcode := .addU32, result := 1, inputs := #v[0, 0, noValue], inputCount := 2 } := by
  have hverified : doubling.verifyKernel = [] := by decide +kernel
  have hlaunch : checkLaunch doubling.code [] {} ⟨true, true⟩ = none := by decide +kernel
  refine ⟨hverified, hlaunch, ?_⟩
  have hrun : (run (gridStep idleUnit doubling.code [] {}) (newGrid doubling.code {} fun _ => 0)
      [(0, false), (0, false), (0, false), (0, false)]).ctas =
      [{ blockX := 0, blockY := 0, threads := [doublingThread], shared := [],
         phase := .turn 0 0 0 false }] := by
    decide +kernel
  refine (reads_defined idleUnit (.inr ⟨doubling, hverified, rfl⟩) hlaunch (fun _ => 0)
    [(0, false), (0, false), (0, false), (0, false)] _
    (by rw [hrun]; exact mem_cons_self) 0 0 0 false
    doublingThread _ rfl rfl rfl rfl rfl).1.2 ?_
  rintro r hr ⟨-, rfl⟩
  revert hr
  decide +kernel

/-- Its only operation besides the return adds a register to itself. -/
def selfReading : Kernel where
  name := ascii "k"
  registers := [{}]
  operations := [{ opcode := .addU32, result := 0, inputs := #v[0, 0, 0], inputCount := 2 }, {}]

def selfReadingText : Text :=
  ascii "MFKIR 2\nPTX 9 0\nKERNEL k\nPARAMETERS 0\nSHARED_ALLOCATIONS 0\n" ++
    ascii "REGISTERS 1\nREGISTER u32\nOPERATIONS 2\n" ++
    ascii "OP add_u32 0 2 0 0 0 0 - 0\nOP return - 0 0 0 - 0\nEND\n"

/-- Both verifiers accept it, and the first thing it does is to read a register that is not set. -/
theorem self_read_accepted :
    selfReading.verifyKernel = [] ∧
    parseKernel selfReadingText = .ok (storedCode selfReading.code) ∧
    checkLaunch selfReading.code [] {} ⟨true, true⟩ = none ∧
    (run (gridStep idleUnit selfReading.code [] {}) (newGrid selfReading.code {} fun _ => 0)
      [(0, false), (0, false)]).ctas.map Cta.phase = [.done (some .badAccess)] := by
  refine ⟨by decide +kernel, by decide +kernel, by decide +kernel, by decide +kernel⟩

end MetaFlux.Cpu
