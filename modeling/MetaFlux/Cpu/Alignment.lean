/-
# Accesses without an alignment check

The compiler leaves out the check of an address whose offset it takes to be a multiple of four
(`alignedByConstruction`): the address of a parameter or of an allocation, or a sum whose second
operand is a number times four.  It does not look at the first operand of the sum, the base, so that
a sum of sums need not be aligned (`alignedByConstruction_fails`).

Where the base is looked at too, and the base of the base (`alignedChain`), the offset is a multiple
of four in every thread of every launch, and no access through it is reported as misaligned
(`alignedChain_sound`).  What a register holds is what its one operation made of values that are
still there (`Explained`).
-/
import MetaFlux.Cpu.Soundness

namespace MetaFlux.Cpu

open Base Compiler List Option

/-! ## 1. The analysis -/

def writesRegister (o : Instruction) : Bool :=
  match o.opcode with
  | .branchIf | .barrierSync | .ret | .storeGlobalU32 | .storeGlobalF32 | .storeGlobalU64
  | .storeSharedU32 => false
  | _ => true

def uniqueDefinition (c : Code) (r : UInt32) : Option Instruction :=
  match c.operations.filter fun o => o.result = r && writesRegister o with
  | [o] => some o
  | _ => none

def alignedByConstruction (c : Code) (r : UInt32) : Bool :=
  match uniqueDefinition c r with
  | none => false
  | some address =>
    match address.opcode with
    | .loadParameterAddress | .loadSharedAddress => true
    | .addGlobalAddress =>
      (uniqueDefinition c (getElem address.inputs 1 slot1)).any fun o =>
        o.opcode = .multiplyWideU32 && o.attr = 4
    | _ => false

/-- The register is aligned by construction, and so is the base of every sum that leads to it. -/
def alignedChain (c : Code) : Nat → UInt32 → Bool
  | 0, _ => false
  | fuel + 1, r =>
    alignedByConstruction c r &&
      (uniqueDefinition c r).all fun address =>
        address.opcode ≠ .addGlobalAddress || alignedChain c fuel (getElem address.inputs 0 slot0)

variable {fpu : FloatUnit} {c : Code} {arguments : List Argument} {launch : LaunchDimensions}
  {r : UInt32} {o p : Instruction}

theorem uniqueDefinition_eq (h : uniqueDefinition c r = some p) (ho : o ∈ c.operations)
    (hdef : o.Defines r) : o = p := by
  have hwrites : writesRegister o = true := by
    have hres := hdef.1
    unfold writesRegister
    cases hopcode : o.opcode <;> simp [hopcode, operationContract] at hres ⊢
  have hmem : o ∈ c.operations.filter fun o => o.result = r && writesRegister o :=
    mem_filter.2 ⟨ho, by simp [hdef.2, hwrites]⟩
  unfold uniqueDefinition at h
  split at h
  · rename_i hone
    rw [hone, mem_singleton] at hmem
    cases h
    exact hmem
  · cases h

/-! ## 2. Where values come from -/

/-- The register is set, to this. -/
def IsSet (values : List RuntimeValue) (r : UInt32) (value : RuntimeValue) : Prop :=
  values[r.toNat]? = some value ∧ value ≠ .unset

variable (fpu arguments launch) in
/-- The operation made this of values that are still there. -/
def Made (registers : List RuntimeValue) (o : Instruction) (value : RuntimeValue) : Prop :=
  ∃ coordinates memory shared values,
    effect fpu arguments launch coordinates memory shared values o = .ok (.value value) ∧
    ∀ s v, IsSet values s v → IsSet registers s v

variable (fpu c arguments launch) in
/-- What is set was made by an operation that defines it. -/
def Explained (t : ThreadState) : Prop :=
  ∀ r value, IsSet t.registers r value → ∃ j o, (j, r, value) ∈ t.written ∧
    c.operations[j]? = some o ∧ o.Defines r ∧ Made fpu arguments launch t.registers o value

variable {t : ThreadState} {value : RuntimeValue}

theorem Explained.executeOne {t' : ThreadState} {coordinates : Coordinates}
    {shared shared' : Shared} {memory memory' : Memory} (hc : c.WellFormed) (hok : ThreadOk c t)
    (h : Explained fpu c arguments launch t)
    (hrun : Cpu.executeOne fpu c arguments launch coordinates t shared memory =
      .ok (t', shared', memory')) : Explained fpu c arguments launch t' := by
  obtain ⟨o, ho, ⟨-, rfl⟩ | ⟨e, heffect, rfl⟩⟩ := executeOne_cases hrun
  · exact h
  cases e with
  | value value =>
    have hdef : o.Defines o.result := ⟨((effect_meets c t.pc).1 _ heffect).1, rfl⟩
    -- the result was not set before, for nothing is defined twice
    have hkeep : ∀ s v, IsSet t.registers s v →
        IsSet (t.registers.set o.result.toNat value) s v := by
      intro s v hset
      obtain ⟨j, p, hmem, hp, hwrote, -⟩ := h s v hset
      refine ⟨?_, hset.2⟩
      rw [getElem?_set_ne, hset.1]
      intro heq
      rw [← UInt32.toNat_inj.1 heq] at hwrote
      exact (hc.fits t.pc o ho).fresh _ hdef ⟨j, p, (hok.sound _ hmem).1, hp, hwrote⟩
    intro r v hset
    by_cases hr : o.result = r
    · subst hr
      obtain rfl : value = v := by
        have hget := hset.1
        rw [ThreadState.after, getElem?_set, if_pos rfl] at hget
        split_ifs at hget
        exact some.inj hget
      exact ⟨t.pc, o, mem_cons_self, ho, hdef, _, _, _, _, heffect, hkeep⟩
    · have hold : IsSet t.registers r v := by
        refine ⟨?_, hset.2⟩
        rw [← hset.1, ThreadState.after, getElem?_set_ne fun h => hr (UInt32.toNat_inj.1 h)]
      obtain ⟨j, p, hmem, hp, hwrote, _, _, _, _, hmade, hkept⟩ := h r v hold
      exact ⟨j, p, mem_cons_of_mem _ hmem, hp, hwrote, _, _, _, _, hmade,
        fun s v hs => hkeep s v (hkept s v hs)⟩
  | _ => exact h

theorem run_explained (hc : c.WellFormed) (memory : Memory) (turns : List (Nat × Bool)) :
    ∀ cta ∈ (run (gridStep fpu c arguments launch) (newGrid c launch memory) turns).ctas,
      ∀ t ∈ cta.threads, ThreadOk c t ∧ Explained fpu c arguments launch t := by
  refine run_threads ?_ (fun h hw => ⟨h.1.release hw, h.2⟩)
    (fun x y => ⟨newThread_ok x y, ?_⟩) memory turns
  · exact fun h hr hw hrun => ⟨h.1.executeOne hc hr hw hrun, h.2.executeOne hc h.1 hrun⟩
  · rintro r value ⟨hget, hset⟩
    exact absurd (eq_of_mem_replicate (mem_of_getElem? hget)) hset

/-- The one operation that can have written a register did. -/
theorem Explained.of_unique (h : Explained fpu c arguments launch t)
    (hset : IsSet t.registers r value) (hp : uniqueDefinition c r = some p) :
    Made fpu arguments launch t.registers p value := by
  obtain ⟨j, o, -, ho, hdef, hmade⟩ := h r value hset
  exact uniqueDefinition_eq hp (mem_of_getElem? ho) hdef ▸ hmade

/-! ## 3. Offsets -/

/-- The offset of an address. -/
def RuntimeValue.byteOffset : RuntimeValue → Option UInt64
  | globalAddress _ offset | sharedAddress _ offset => some offset
  | _ => none

/-- The offset that the register holds, if any, is a multiple of four. -/
def Aligned (values : List RuntimeValue) (r : UInt32) : Prop :=
  ∀ value offset, values[r.toNat]? = some value → value.byteOffset = some offset → offset % 4 = 0

section

variable {coordinates : Coordinates} {memory : Memory} {shared : Shared}
    {values : List RuntimeValue}

theorem fetch_eq {α : Type} {as : RuntimeValue → Option α} {a : α} (h : fetch values r as = .ok a) :
    (values[r.toNat]?).bind as = some a := by
  unfold fetch at h
  split at h
  · cases h
    assumption
  · cases h

theorem fetch_bind {α β : Type} {as : RuntimeValue → Option α} {f : α → Except Fault β} {b : β}
    (h : (fetch values r as >>= f) = .ok b) :
    ∃ v a, values[r.toNat]? = some v ∧ as v = some a ∧ f a = .ok b := by
  unfold fetch at h
  split at h
  · obtain ⟨v, hv, ha⟩ := bind_eq_some_iff.1 ‹_›
    exact ⟨v, _, hv, ha, h⟩
  · cases h

variable (h : effect fpu arguments launch coordinates memory shared values o = .ok (.value value))

include h

/-- A number times four. -/
theorem effect_scaled (hopcode : o.opcode = .multiplyWideU32) (hattr : o.attr = 4) :
    ∃ offset : UInt64, value = .u64 offset ∧ offset.toNat % 4 = 0 := by
  simp only [effect, hopcode, hattr] at h
  obtain ⟨v, a, -, -, h⟩ := fetch_bind h
  cases h
  exact ⟨_, rfl, by simp⟩

/-- A base and an offset. -/
theorem effect_sum (hopcode : o.opcode = .addGlobalAddress) :
    ∃ n base offset, IsSet values (getElem o.inputs 0 slot0) (.globalAddress n base) ∧
      IsSet values (getElem o.inputs 1 slot1) (.u64 offset) ∧
      value = .globalAddress n (base + offset) := by
  simp only [effect, hopcode] at h
  obtain ⟨v, base, hv, hglobal, h⟩ := fetch_bind h
  obtain ⟨w, offset, hw, hword, h⟩ := fetch_bind h
  split_ifs at h
  cases h
  cases v <;> cases hglobal
  cases w <;> cases hword
  exact ⟨_, _, _, ⟨hv, by rintro ⟨⟩⟩, ⟨hw, by rintro ⟨⟩⟩, rfl⟩

end

theorem Aligned.of_isSet {values : List RuntimeValue} {offset : UInt64}
    (hset : IsSet values r value) (hoff : value.byteOffset = some offset)
    (hzero : offset % 4 = 0) : Aligned values r := by
  intro v o hget ho
  obtain rfl := some.inj (hset.1.symm.trans hget)
  exact some.inj (hoff.symm.trans ho) ▸ hzero

/-- A register is unset, and then it holds no address, or set. -/
theorem Aligned.of_forall {values : List RuntimeValue}
    (h : ∀ value, IsSet values r value → Aligned values r) : Aligned values r := by
  intro value offset hget hoff
  refine h value ⟨hget, ?_⟩ value offset hget hoff
  rintro rfl
  cases hoff

/-- What a chain leads to is aligned: by induction on the chain, from the base of a sum to the sum.
-/
theorem Explained.aligned (h : Explained fpu c arguments launch t) :
    ∀ fuel r, alignedChain c fuel r = true → Aligned t.registers r := by
  intro fuel
  induction fuel with
  | zero =>
    intro r hchain
    cases hchain
  | succ fuel ih =>
    intro r hchain
    refine .of_forall fun value hset => ?_
    obtain ⟨haligned, hbase⟩ := Bool.and_eq_true_iff.1 hchain
    unfold alignedByConstruction at haligned
    cases hp : uniqueDefinition c r with
    | none =>
      rw [hp] at haligned
      cases haligned
    | some p =>
      rw [hp] at haligned hbase
      obtain ⟨_, _, _, _, hmade, hkept⟩ := h.of_unique hset hp
      cases hopcode : p.opcode <;> simp [hopcode, Option.any_eq_true] at haligned hbase
      case loadParameterAddress | loadSharedAddress =>
        simp only [effect, hopcode] at hmade
        cases hmade
        exact .of_isSet hset rfl rfl
      case addGlobalAddress =>
        obtain ⟨q, hq, hscale, hattr⟩ := haligned
        obtain ⟨n, base, scaled, hsum, hscaled, rfl⟩ := effect_sum hmade hopcode
        obtain ⟨_, _, _, _, hmade, -⟩ := h.of_unique (hkept _ _ hscaled) hq
        obtain ⟨_, heq, hfour⟩ := effect_scaled hmade hscale hattr
        cases heq
        have hzero := ih _ hbase _ _ (hkept _ _ hsum).1 rfl
        refine .of_isSet hset rfl ?_
        simp only [← UInt64.toNat_inj, UInt64.toNat_mod, UInt64.toNat_add] at hzero ⊢
        change _ % 2 ^ 64 % 4 = 0
        change base.toNat % 4 = 0 at hzero
        omega

/-! ## 4. Accesses -/

/-- An access is not reported as misaligned. -/
def NotMisaligned {α : Type} (x : Except Fault α) : Prop := x ≠ .error (.error .misalignedAddress)

section

variable {α β γ : Type} {values : List RuntimeValue}

theorem NotMisaligned.bind {x : Except Fault α} {f : α → Except Fault β} (hx : NotMisaligned x)
    (hf : ∀ a, x = .ok a → NotMisaligned (f a)) : NotMisaligned (x >>= f) := by
  cases x with
  | error => exact fun h => hx (by cases h; rfl)
  | ok a => exact hf a rfl

theorem NotMisaligned.fetch (values : List RuntimeValue) (r : UInt32)
    (as : RuntimeValue → Option α) : NotMisaligned (fetch values r as) := by
  unfold Cpu.fetch
  split <;> rintro ⟨⟩

theorem NotMisaligned.ok (a : α) : NotMisaligned (.ok a) := by rintro ⟨⟩

/-- Operations on registers alone fail, if at all, in another way. -/
theorem NotMisaligned.unary {as : RuntimeValue → Option α} {f : α → RuntimeValue} :
    NotMisaligned (unary values o as f) :=
  .bind (.fetch _ _ _) fun _ _ => .ok _

theorem NotMisaligned.binary {as : RuntimeValue → Option α} {bs : RuntimeValue → Option β}
    {f : α → β → RuntimeValue} : NotMisaligned (binary values o as bs f) :=
  .bind (.fetch _ _ _) fun _ _ => .bind (.fetch _ _ _) fun _ _ => .ok _

theorem NotMisaligned.ternary {as : RuntimeValue → Option α} {bs : RuntimeValue → Option β}
    {cs : RuntimeValue → Option γ} {f : α → β → γ → RuntimeValue} :
    NotMisaligned (ternary values o as bs cs f) :=
  .bind (.fetch _ _ _) fun _ _ => .bind (.fetch _ _ _) fun _ _ =>
    .bind (.fetch _ _ _) fun _ _ => .ok _

theorem NotMisaligned.select {as : RuntimeValue → Option α} {f : α → RuntimeValue} :
    NotMisaligned (select values o as f) :=
  .bind (.fetch _ _ _) fun _ _ => .bind (.fetch _ _ _) fun _ _ => .ok _

theorem globalWord_aligned {arguments : List Argument} {write : Bool} {address : UInt32 × UInt64}
    (h : address.2 % 4 = 0) : NotMisaligned (globalWord arguments write address) := by
  unfold globalWord
  grind [NotMisaligned]

theorem sharedWord_aligned {shared : Shared} {address : UInt32 × UInt64}
    (h : address.2 % 4 = 0) : NotMisaligned (sharedWord shared address) := by
  unfold sharedWord
  grind [NotMisaligned]

end

/-- **An access through an aligned register** is not reported as misaligned, but for that of 64
bits, which asks for a multiple of eight. -/
theorem effect_aligned {coordinates : Coordinates} {memory : Memory} {shared : Shared}
    {values : List RuntimeValue} (haligned : Aligned values (getElem o.inputs 0 slot0))
    (hword : o.opcode ≠ .storeGlobalU64) :
    NotMisaligned (effect fpu arguments launch coordinates memory shared values o) := by
  have hoff : ∀ (as : RuntimeValue → Option (UInt32 × UInt64)) address,
      (∀ v, as v = some address → v.byteOffset = some address.2) →
      fetch values (getElem o.inputs 0 slot0) as = .ok address → address.2 % 4 = 0 := by
    intro as address has h
    obtain ⟨v, hv, ha⟩ := bind_eq_some_iff.1 (fetch_eq h)
    exact haligned v _ hv (has v ha)
  have hglobal := fun address => hoff RuntimeValue.asGlobal address fun v hv => by
    cases v <;> cases hv; rfl
  have hshared := fun address => hoff RuntimeValue.asShared address fun v hv => by
    cases v <;> cases hv; rfl
  obtain ⟨opcode⟩ := o
  cases opcode
  case storeGlobalU64 => exact absurd rfl hword
  case loadGlobalU32 | loadGlobalF32 =>
    exact .bind (.fetch _ _ _) fun a ha =>
      .bind (globalWord_aligned (hglobal a ha)) fun _ _ => .ok _
  case storeGlobalU32 | storeGlobalF32 =>
    exact .bind (.fetch _ _ _) fun a ha => .bind (globalWord_aligned (hglobal a ha)) fun _ _ =>
      .bind (.fetch _ _ _) fun _ _ => .ok _
  case loadSharedU32 =>
    exact .bind (.fetch _ _ _) fun a ha =>
      .bind (sharedWord_aligned (hshared a ha)) fun _ _ => .ok _
  case storeSharedU32 =>
    exact .bind (.fetch _ _ _) fun a ha => .bind (sharedWord_aligned (hshared a ha)) fun _ _ =>
      .bind (.fetch _ _ _) fun _ _ => .ok _
  case storeGlobalU8 =>
    refine .bind (.fetch _ _ _) fun a ha => .bind ?_ fun _ _ =>
      .bind (.fetch _ _ _) fun _ _ => .ok _
    unfold globalByte
    grind [NotMisaligned]
  case addGlobalAddress =>
    refine .bind (.fetch _ _ _) fun a ha => .bind (.fetch _ _ _) fun _ _ => ?_
    split_ifs <;> rintro ⟨⟩
  case branchIf => exact .bind (.fetch _ _ _) fun _ _ => .ok _
  case loadParameterU32 | loadParameterF32 =>
    simp only [effect]
    split <;> rintro ⟨⟩
  case selectU32 | selectF32 => exact .select
  case madLoU32 | madRnF32 | fmaRnF32 => exact .ternary
  case absS32 | absF32 | sqrtRnF32 | expF32 | multiplyWideU32 | convertRnF32U32 | convertRnF32S32 |
      convertRziU32F32 => exact .unary
  case loadParameterAddress | loadSharedAddress | moveSpecialU32 | moveImmediateU32 | barrierSync |
      ret => exact .ok _
  all_goals exact .binary

theorem executeOne_aligned (ho : c.operations[t.pc]? = some o)
    (haligned : Aligned t.registers (getElem o.inputs 0 slot0)) (hword : o.opcode ≠ .storeGlobalU64)
    (coordinates place : Coordinates) (shared : Shared) (memory : Memory) (operation : Nat) :
    executeOne fpu c arguments launch coordinates t shared memory ≠
      .error (.failed .misalignedAddress operation place) := by
  have hstop : ∀ {fault : Fault}, fault ≠ .error .misalignedAddress →
      fault.stop t.pc coordinates ≠ .failed .misalignedAddress operation place := by
    rintro (_ | _) hne ⟨⟩
    exact hne rfl
  have hguard : NotMisaligned (guardActive t.registers o) := by
    unfold guardActive
    split
    · exact .bind (.fetch _ _ _) fun _ _ => .ok _
    · exact .ok _
  have heffect : NotMisaligned
      (effect fpu arguments launch coordinates memory shared t.registers o) :=
    effect_aligned haligned hword
  unfold executeOne
  simp only [ho]
  split_ifs
  · rintro ⟨⟩
  split
  · next hfault => exact fun h => hstop (fun hbad => hguard (hbad ▸ hfault)) (Except.error.inj h)
  · rintro ⟨⟩
  split
  · next hfault => exact fun h => hstop (fun hbad => heffect (hbad ▸ hfault)) (Except.error.inj h)
  · rintro ⟨⟩

/-- **Alignment by construction, all along the chain.**  In every thread of every launch the offset
in the register is a multiple of four, and no access through it is reported as misaligned, but for
that of 64 bits, whose check the compiler keeps. -/
theorem alignedChain_sound (fpu : FloatUnit) {kernel : Kernel}
    (hverified : kernel.verifyKernel = []) {fuel : Nat} {r : UInt32}
    (hchain : alignedChain kernel.code fuel r = true)
    (arguments : List Argument) (launch : LaunchDimensions) (memory : Memory)
    (turns : List (Nat × Bool)) :
    ∀ cta ∈ (run (gridStep fpu kernel.code arguments launch) (newGrid kernel.code launch memory)
        turns).ctas, ∀ t ∈ cta.threads, Aligned t.registers r ∧
      ∀ o, kernel.code.operations[t.pc]? = some o → getElem o.inputs 0 slot0 = r →
        o.opcode ≠ .storeGlobalU64 → ∀ coordinates place shared memory' operation,
          executeOne fpu kernel.code arguments launch coordinates t shared memory' ≠
            .error (.failed .misalignedAddress operation place) := by
  intro cta hcta t ht
  have h := (run_explained (Kernel.code_wellFormed hverified) memory turns cta hcta t ht).2
  have haligned := h.aligned fuel r hchain
  refine ⟨haligned, ?_⟩
  rintro o ho rfl hword
  exact executeOne_aligned ho haligned hword

/-- An address is a sum of sums; the base of the last one lies `scale` bytes past the start of the
buffer. -/
def strided (scale : UInt32) : Kernel where
  name := ascii "k"
  parameters := [{ kind := .bufferU32 }]
  registers :=
    [.globalAddress, .u32, .u64, .globalAddress, .u64, .globalAddress, .u32].map ({ kind := · })
  operations := [
    { opcode := .loadParameterAddress, result := 0 },
    { opcode := .moveImmediateU32, result := 1, attr := 1 },
    { opcode := .multiplyWideU32, result := 2, inputs := #v[1, 0, 0], inputCount := 1,
      attr := scale },
    { opcode := .addGlobalAddress, result := 3, inputs := #v[0, 2, 0], inputCount := 2 },
    { opcode := .multiplyWideU32, result := 4, inputs := #v[1, 0, 0], inputCount := 1, attr := 4 },
    { opcode := .addGlobalAddress, result := 5, inputs := #v[3, 4, 0], inputCount := 2 },
    { opcode := .loadGlobalU32, result := 6, inputs := #v[5, 0, 0], inputCount := 1 }, {}]

/-- Its launch with memory zero, after so many turns. -/
def stridedRun (scale : UInt32) (turns : Nat) : Grid :=
  run (gridStep idleUnit (strided scale).code [.buffer 0 4 true] {})
    (newGrid (strided scale).code {} fun _ => 0) (List.replicate turns (0, false))

/-- The chain of three, before its access. -/
theorem alignedChain_sound_strided :
    (strided 4).verifyKernel = [] ∧ alignedChain (strided 4).code 3 5 = true ∧
      ∃ cta ∈ (stridedRun 4 19).ctas, ∃ t ∈ cta.threads,
        t.registers[5]? = some (.globalAddress 0 8) ∧ Aligned t.registers 5 ∧ t.pc = 6 := by
  have hverified : (strided 4).verifyKernel = [] := by decide +kernel
  have hchain : alignedChain (strided 4).code 3 5 = true := by decide +kernel
  obtain ⟨cta, hcta, t, ht, hget, hpc⟩ : ∃ cta ∈ (stridedRun 4 19).ctas, ∃ t ∈ cta.threads,
      t.registers[5]? = some (.globalAddress 0 8) ∧ t.pc = 6 := by decide +kernel
  have hsound := alignedChain_sound idleUnit hverified hchain _ _ _ _ cta hcta t ht
  exact ⟨hverified, hchain, cta, hcta, t, ht, hget, hsound.1, hpc⟩

/-- **An offset of six bytes** is aligned by construction.  The interpreter reports the access. -/
theorem alignedByConstruction_fails :
    (strided 2).verifyKernel = [] ∧
    checkLaunch (strided 2).code [.buffer 0 4 true] {} ⟨true, true⟩ = none ∧
    alignedByConstruction (strided 2).code 5 = true ∧
    (stridedRun 2 20).ctas.map Cta.phase = [.done (some (.failed .misalignedAddress 6 {}))] ∧
    ∃ cta ∈ (stridedRun 2 20).ctas, ∃ t ∈ cta.threads,
      t.registers[5]? = some (.globalAddress 0 6) := by
  refine ⟨?_, ?_, ?_, ?_, ?_⟩ <;> decide +kernel

end MetaFlux.Cpu
