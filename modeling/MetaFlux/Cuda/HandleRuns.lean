/-
# What a CUDA handle is good for

Every call on the driver's tables is made of a few changes (`Change`), and these keep the books: a
record that is active has been handed out under its value, and a value that was handed out tells the
slot, the generation and so, where no slot is used `2 ^ 32` times, the object (`Inv`).  In every
run, then, a lookup refuses a value or finds the live object it was handed out for
(`handles_unforgeable`).

Three things are not so.  Kernel entries share the tag of functions, and have the generation of
their module: `kernel_is_function` is a run in which one value is handed out for both.  A function
is looked up with the bound of modules.  And a context that is not found is looked up once more,
without the bound of its table.
-/
import MetaFlux.Cuda.Handles

namespace MetaFlux.Cuda

open Base

/-! ## 1. Generations -/

/-- The generation of a slot that has been activated so often. -/
def cycle : Nat → Nat
  | 0 => 0
  | n + 1 => n % (2 ^ 32 - 1) + 1

theorem nextGeneration_cycle (n : Nat) : nextGeneration (cycle n) = cycle (n + 1) := by
  cases n with
  | zero => rfl
  | succ n =>
    by_cases hlast : n % (2 ^ 32 - 1) = 2 ^ 32 - 2
    · have hwraps : (n + 1) % (2 ^ 32 - 1) = 0 := by omega
      rw [cycle, cycle, hwraps, hlast]
      rfl
    · have hnext : (n + 1) % (2 ^ 32 - 1) = n % (2 ^ 32 - 1) + 1 := by omega
      have hbelow : (n % (2 ^ 32 - 1) + 1 + 1) % 2 ^ 32 = n % (2 ^ 32 - 1) + 1 + 1 :=
        Nat.mod_eq_of_lt (by omega)
      rw [cycle, cycle, hnext, nextGeneration, hbelow, if_neg (Nat.succ_ne_zero _)]

theorem cycle_lt (n : Nat) : cycle n < 2 ^ 32 := by
  cases n with
  | zero => decide
  | succ =>
    simp only [cycle]
    omega

variable {index : Nat} {kind : Kind} {d : Driver}

namespace Driver

/-! ## 2. Changes -/

/-- The records and what has been handed out are the same; no entry is lost. -/
structure Same (d d' : Driver) : Prop where
  records : ∀ kind index, ((d'.records kind index).generation = (d.records kind index).generation ∧
    (d'.records kind index).active = (d.records kind index).active ∧
    (d'.records kind index).uses = (d.records kind index).uses)
  entries : d'.entries = d.entries
  issued : d'.issued = d.issued

inductive Change : Driver → Driver → Prop
  /-- A slot is activated, and its value handed out. -/
  | enter {d : Driver} (kind : Kind) (index : Nat) (record : Record) (nextId : Nat)
    (hindex : index < kind.capacity)
    (hgen : record.generation = nextGeneration (d.records kind index).generation)
    (huses : record.uses = (d.records kind index).uses + 1) :
    Change d
      { (d.setRecord kind index record).issue (token kind.tag index record.generation)
          (.record kind index record.uses) with nextId }
  /-- A slot is activated, and that is undone. -/
  | fail {d : Driver} (kind : Kind) (index : Nat) (record : Record) (nextId : Nat)
    (hact : record.active = false)
    (hgen : record.generation = nextGeneration (d.records kind index).generation)
    (huses : record.uses = (d.records kind index).uses + 1) :
    Change d { d.setRecord kind index record with nextId }
  | lapse {d : Driver} (kind : Kind) (index : Nat) : Change d (d.deactivate kind index)
  /-- An active record is handed out again. -/
  | again {d : Driver} (kind : Kind) (index : Nat)
    (hact : (d.records kind index).active = true) :
    Change d (d.handOut kind index).2
  | parse {d : Driver} (moduleIndex generation : Nat) (hgen : generation < 2 ^ 32) :
    Change d (d.parseKernels moduleIndex generation)
  | kernel {d : Driver} (entry : Nat) (found : KernelEntry)
    (hfound : d.entries[entry]? = some found) :
    Change d (d.handOutKernel entry found.moduleGeneration).2
  | same {d d' : Driver} (h : Same d d') : Change d d'

/-- Any number of changes. -/
def Changes : Driver → Driver → Prop := Relation.ReflTransGen Change

/-! ## 3. What they keep -/

open List

structure Inv (d : Driver) : Prop where
  generation : ∀ kind index,
    (d.records kind index).generation = cycle (d.records kind index).uses
  handedOut : ∀ kind index, (d.records kind index).active = true → index < kind.capacity ∧
    (d.valueOf kind index, .record kind index (d.records kind index).uses) ∈ d.issued
  record : ∀ {value kind index uses}, (value, .record kind index uses) ∈ d.issued →
    value = token kind.tag index (cycle uses) ∧ uses ≤ (d.records kind index).uses ∧
      index < kind.capacity
  kernel : ∀ {value entry}, (value, .kernel entry) ∈ d.issued →
    ∃ found, d.entries[entry]? = some found ∧
      value = token Kind.function.tag (entry + 1) found.moduleGeneration
  entries : d.entries.length ≤ kernelEntryMax
  modules : ∀ entry ∈ d.entries, entry.moduleGeneration < 2 ^ 32

theorem setRecord_self (d : Driver) (kind : Kind) (index : Nat) (record : Record) :
    (d.setRecord kind index record).records kind index = record := if_pos ⟨rfl, rfl⟩

theorem Inv.start : Inv {} := by
  constructor <;> simp [cycle]

variable {d' : Driver}

/-- A record is written anew, in its next generation or in the one it has. -/
theorem Inv.setRecord (h : Inv d) {r : Record}
    (hrecords : d'.records = (d.setRecord kind index r).records)
    (hentries : d'.entries = d.entries) (hgen : r.generation = cycle r.uses)
    (huses : (d.records kind index).uses ≤ r.uses) (hold : ∀ issue ∈ d.issued, issue ∈ d'.issued)
    (hnew : ∀ issue ∈ d'.issued, issue ∈ d.issued ∨ index < kind.capacity ∧
      issue = (token kind.tag index r.generation, .record kind index r.uses))
    (hact : r.active = true → index < kind.capacity ∧
      (token kind.tag index r.generation, .record kind index r.uses) ∈ d'.issued) : Inv d' := by
  have hself : d'.records kind index = r := by rw [hrecords, setRecord_self]
  have hother : ∀ {k i}, ¬ (k = kind ∧ i = index) → d'.records k i = d.records k i := by
    intro k i hne
    rw [hrecords]
    exact if_neg hne
  have hmore : ∀ k i, (d.records k i).uses ≤ (d'.records k i).uses := by
    intro k i
    by_cases hsame : k = kind ∧ i = index
    · obtain ⟨rfl, rfl⟩ := hsame
      rw [hself]
      exact huses
    · rw [hother hsame]
  constructor
  · intro k i
    by_cases hsame : k = kind ∧ i = index
    · obtain ⟨rfl, rfl⟩ := hsame
      rw [hself]
      exact hgen
    · rw [hother hsame]
      exact h.generation k i
  · intro k i hlive
    by_cases hsame : k = kind ∧ i = index
    · obtain ⟨rfl, rfl⟩ := hsame
      rw [hself] at hlive
      rw [valueOf, hself]
      exact hact hlive
    · rw [hother hsame] at hlive
      rw [valueOf, hother hsame]
      exact ⟨(h.handedOut k i hlive).1, hold _ (h.handedOut k i hlive).2⟩
  · intro value k i uses hissued
    rcases hnew _ hissued with hbefore | ⟨hcap, heq⟩
    · obtain ⟨hvalue, hle, hlt⟩ := h.record hbefore
      exact ⟨hvalue, hle.trans (hmore k i), hlt⟩
    · obtain ⟨rfl, hthing⟩ := Prod.mk.inj heq
      obtain ⟨rfl, rfl, rfl⟩ := Thing.record.inj hthing
      refine ⟨by rw [hgen], ?_, hcap⟩
      rw [hself]
  · intro value entry hissued
    rcases hnew _ hissued with hbefore | ⟨-, heq⟩
    · rw [hentries]
      exact h.kernel hbefore
    · cases heq
  · rw [hentries]
    exact h.entries
  · rw [hentries]
    exact h.modules

theorem Inv.change (h : Inv d) (hchange : Change d d') : Inv d' := by
  cases hchange with
  | enter _ _ record _ hindex hgen huses =>
    refine h.setRecord rfl rfl ?_ ?_ ?_ ?_ fun _ => ⟨hindex, ?_⟩
    · rw [hgen, h.generation, nextGeneration_cycle, huses]
    · omega
    · exact fun issue hissue => mem_append_left _ hissue
    · intro issue hissue
      rcases mem_append.1 hissue with hbefore | hlast
      · exact .inl hbefore
      · exact .inr ⟨hindex, mem_singleton.1 hlast⟩
    · exact mem_append_right _ (mem_singleton.2 rfl)
  | fail _ _ record _ hact hgen huses =>
    refine h.setRecord rfl rfl ?_ ?_ (fun _ => id) (fun _ => .inl) ?_
    · rw [hgen, h.generation, nextGeneration_cycle, huses]
    · omega
    · simp [hact]
  | lapse kind index =>
    refine h.setRecord rfl rfl (h.generation kind index) .refl (fun _ => id) (fun _ => .inl) ?_
    simp
  | again kind index hact =>
    obtain ⟨hindex, hissued⟩ := h.handedOut kind index hact
    have hsame : (d.setRecord kind index (d.records kind index)).records = d.records := by
      funext k i
      by_cases heq : k = kind ∧ i = index
      · obtain ⟨rfl, rfl⟩ := heq
        rw [setRecord_self]
      · exact if_neg heq
    refine h.setRecord hsame.symm rfl (h.generation kind index) .refl
      (fun issue hissue => mem_append_left _ hissue) ?_ fun _ =>
        ⟨hindex, mem_append_left _ hissued⟩
    intro issue hissue
    rcases mem_append.1 hissue with hbefore | hlast
    · exact .inl hbefore
    · exact .inr ⟨hindex, mem_singleton.1 hlast⟩
  | parse _ _ hgen =>
    unfold parseKernels
    split
    · exact h
    refine { h with kernel := ?_, entries := ?_, modules := ?_ }
    · intro value entry hissued
      obtain ⟨found, hfound, hvalue⟩ := h.kernel hissued
      refine ⟨found, ?_, hvalue⟩
      rw [List.getElem?_append_left (List.getElem?_eq_some_iff.1 hfound).1]
      exact hfound
    · have hlen := h.entries
      simp only [length_append, length_take]
      omega
    · intro entry hentry
      rcases mem_append.1 hentry with hbefore | hlast
      · exact h.modules entry hbefore
      · obtain ⟨name, -, rfl⟩ := mem_map.1 (mem_of_mem_take hlast)
        exact hgen
  | kernel _ found hfound =>
    refine { h with handedOut := ?_, record := ?_, kernel := ?_ }
    · intro kind index hact
      obtain ⟨hindex, hissued⟩ := h.handedOut kind index hact
      exact ⟨hindex, mem_append_left _ hissued⟩
    · intro value kind index uses hissued
      rcases mem_append.1 hissued with hbefore | hlast
      · exact h.record hbefore
      · simp at hlast
    · intro value e hissued
      rcases mem_append.1 hissued with hbefore | hlast
      · exact h.kernel hbefore
      · obtain ⟨rfl, hthing⟩ := Prod.mk.inj (mem_singleton.1 hlast)
        obtain rfl := Thing.kernel.inj hthing
        exact ⟨found, hfound, rfl⟩
  | same hsame =>
    constructor
    · intro kind index
      obtain ⟨hgen, -, huses⟩ := hsame.records kind index
      rw [hgen, huses]
      exact h.generation kind index
    · intro kind index hact
      obtain ⟨hgen, hlive, huses⟩ := hsame.records kind index
      rw [hlive] at hact
      rw [valueOf, hgen, huses, hsame.issued]
      exact h.handedOut kind index hact
    · intro value kind index uses hissued
      rw [hsame.issued] at hissued
      rw [(hsame.records kind index).2.2]
      exact h.record hissued
    · intro value entry hissued
      rw [hsame.issued] at hissued
      rw [hsame.entries]
      exact h.kernel hissued
    · rw [hsame.entries]
      exact h.entries
    · rw [hsame.entries]
      exact h.modules

theorem Inv.changes (h : Inv d) (hchanges : Changes d d') : Inv d' := by
  induction hchanges with
  | refl => exact h
  | tail _ hchange ih => exact ih.change hchange

/-! ## 4. The calls are made of them -/

theorem Change.changes (h : Change d d') : Changes d d' := .single h

theorem Changes.refl (d : Driver) : Changes d d := Relation.ReflTransGen.refl

theorem Changes.trans {d'' : Driver} (h : Changes d d') (h' : Changes d' d'') :
    Changes d d'' := Relation.ReflTransGen.trans h h'

/-- A loop over a table. -/
theorem Changes.foldl {α : Type} {f : Driver → α → Driver} (h : ∀ d a, Changes d (f d a))
    (list : List α) (d : Driver) : Changes d (list.foldl f d) :=
  run_rel (P := fun _ => True) Changes.refl Changes.trans (fun _ _ _ => trivial)
    (fun d a _ => h d a) list trivial

theorem setRecord_setRecord (d : Driver) (kind : Kind) (index nextId : Nat)
    (record record' : Record) :
    ({ d.setRecord kind index record with nextId } : Driver).setRecord kind index record' =
      { d.setRecord kind index record' with nextId } := by
  simp only [setRecord, Driver.mk.injEq, and_true]
  funext k i
  split <;> rfl

theorem create_changes (d : Driver) (kind : Kind) (owner : Nat → Nat) (aux : Option Nat)
    (name : Name) (registered acquired : Bool) :
    Changes d (d.create kind owner aux name registered acquired).2 := by
  unfold create
  split
  · exact .refl d
  rename_i index hfree
  dsimp only
  split
  · rename_i hrefused
    exact (Change.fail kind index _ _ hrefused rfl rfl).changes
  split
  · rw [deactivate, activate, setRecord_setRecord]
    exact (Change.fail kind index _ _ rfl (by rw [setRecord_self]) (by rw [setRecord_self])).changes
  · rw [activate, setRecord_setRecord, handOut, valueOf, setRecord_self]
    have hlt := mem_range.1 (mem_of_find?_eq_some hfree)
    exact (Change.enter kind index _ _ hlt (by rw [setRecord_self])
      (by rw [setRecord_self])).changes

theorem moduleGetFunction_changes (d : Driver) (value : Nat) (name : Name)
    (passes loaded registered : Bool) :
    Changes d (d.cuModuleGetFunction value name passes loaded registered).2 := by
  unfold cuModuleGetFunction
  split
  · exact .refl d
  split
  · split
    · exact .refl d
    split
    · rename_i index hfound
      have hact := find?_some hfound
      simp only [Bool.and_eq_true] at hact
      exact (Change.again .function index hact.1.1).changes
    · exact create_changes d _ _ _ _ _ _
  · exact .refl d

/-- The generation of a record is one of the cycle. -/
theorem Inv.generation_lt (h : Inv d) (kind : Kind) (index : Nat) :
    (d.records kind index).generation < 2 ^ 32 := by
  rw [h.generation]
  exact cycle_lt _

theorem Inv.parse (h : Inv d) (moduleIndex : Nat) :
    Changes d (d.parseKernels moduleIndex (d.records .module moduleIndex).generation) :=
  (Change.parse moduleIndex _ (h.generation_lt .module moduleIndex)).changes

theorem libraryGetKernel_changes (h : Inv d) (value : Nat) (name : Name)
    (passes loaded registered : Bool) :
    Changes d (d.cuLibraryGetKernel value name passes loaded registered).2 := by
  unfold cuLibraryGetKernel
  split
  · exact .refl d
  split
  · rename_i moduleIndex _
    split
    · exact moduleGetFunction_changes d value name passes loaded registered
    dsimp only
    split
    · rename_i entry hfound
      obtain ⟨hlt, hentry, -⟩ := findIdx?_eq_some_iff_getElem.1 hfound
      simp only [ofModule, Bool.and_eq_true, beq_iff_eq] at hentry
      have hkernel := Change.kernel entry _ (getElem?_eq_getElem hlt)
      rw [hentry.1.2] at hkernel
      exact (h.parse moduleIndex).trans hkernel.changes
    · exact h.parse moduleIndex
  · exact .refl d

theorem libraryGetKernelCount_changes (h : Inv d) (value : Nat) (passes : Bool) :
    Changes d (d.cuLibraryGetKernelCount value passes).2 := by
  unfold cuLibraryGetKernelCount
  split
  · rename_i moduleIndex _
    split
    · exact .refl d
    · exact h.parse moduleIndex
  · exact .refl d

theorem handOutKernels_changes (generation : Nat) (kernels : List Nat) :
    ∀ d : Driver, (∀ entry ∈ kernels, (d.entries[entry]?).any (·.moduleGeneration == generation)) →
      Changes d (kernels.foldl (fun d entry => (d.handOutKernel entry generation).2) d) := by
  induction kernels with
  | nil => exact fun d _ => .refl d
  | cons entry _ ih =>
    intro d hkernels
    obtain ⟨found, hfound, hgen⟩ :=
      (Option.any_eq_true ..).1 (hkernels entry mem_cons_self)
    obtain rfl := beq_iff_eq.1 hgen
    have hone : Changes d (d.handOutKernel entry found.moduleGeneration).2 :=
      (Change.kernel entry found hfound).changes
    exact hone.trans (ih _ fun e he => hkernels e (mem_cons_of_mem _ he))

theorem libraryEnumerateKernels_changes (h : Inv d) (value count : Nat)
    (passes : Bool) : Changes d (d.cuLibraryEnumerateKernels value count passes).2 := by
  unfold cuLibraryEnumerateKernels
  split
  · rename_i moduleIndex _
    split
    · exact .refl d
    refine (h.parse moduleIndex).trans (handOutKernels_changes _ _ _ fun entry hentry => ?_)
    obtain ⟨-, hany⟩ := mem_filter.1 (mem_of_mem_take hentry)
    obtain ⟨found, hfound, hmodule⟩ := (Option.any_eq_true ..).1 hany
    rw [hfound]
    simp only [ofModule, Bool.and_eq_true] at hmodule
    exact hmodule.2
  · exact .refl d

theorem kernelGetFunction_changes (d : Driver) (value : Nat)
    (passes passesModule loaded registered : Bool) :
    Changes d (d.cuKernelGetFunction value passes passesModule loaded registered).2 := by
  unfold cuKernelGetFunction
  split
  · split
    · exact moduleGetFunction_changes d _ _ _ _ _
    · exact .refl d
  · exact .refl d

/-- The tables beside the modules are no part of the books. -/
theorem tables_changes (d : Driver) (deferred : Nat → Bool) (images : Nat → List Name)
    (parsed : Nat → Bool) : Changes d { d with deferred, images, parsed } := by
  have hsame : Same d { d with deferred, images, parsed } := ⟨fun _ _ => ⟨rfl, rfl, rfl⟩, rfl, rfl⟩
  exact (Change.same hsame).changes

theorem libraryLoadData_changes (d : Driver) (image : List Name) (registered : Bool) :
    Changes d (d.cuLibraryLoadData image registered).2 := by
  have hcreated := create_changes d .module (fun _ => indexNone) none [] registered true
  unfold cuLibraryLoadData
  split
  · exact .refl d
  · split
    · exact hcreated.trans (tables_changes _ _ _ _)
    · exact hcreated

theorem invalidate_changes (d : Driver) (kind : Kind) (lapses : Record → Bool) :
    Changes d (d.invalidate kind lapses) := by
  unfold invalidate
  generalize List.range objectCapacity = list
  refine Changes.foldl (fun d index => ?_) list d
  split
  · exact (Change.lapse kind index).changes
  · exact .refl d

theorem releaseModule_changes (d : Driver) (moduleIndex : Nat) (released : Bool) :
    Changes d (d.releaseModule moduleIndex released) := by
  unfold releaseModule
  split
  · exact .refl d
  · have hlapsed : Changes d
        ((d.deactivate .module moduleIndex).invalidate .function (·.aux == moduleIndex)) :=
      (Change.lapse .module moduleIndex).changes.trans (invalidate_changes _ .function _)
    exact hlapsed.trans (tables_changes _ _ _ _)

theorem releaseModules_changes (context : Nat) (releases : Nat → Bool) (list : List Nat) :
    ∀ d : Driver, Changes d (d.releaseModules context releases list).2 := by
  induction list with
  | nil => exact Changes.refl
  | cons index _ ih =>
    intro d
    unfold releaseModules
    split
    · split
      · exact (releaseModule_changes d index true).trans (ih _)
      · exact .refl d
    · exact ih d

theorem ctxDestroy_changes (d : Driver) (value : Nat) (passes : Bool) (releases : Nat → Bool)
    (cleaned finished : Bool) :
    Changes d (d.cuCtxDestroy value passes releases cleaned finished) := by
  unfold cuCtxDestroy
  split
  · rename_i index _
    have hreleased := releaseModules_changes index releases (List.range moduleCapacity) d
    dsimp only
    split
    · exact hreleased
    have halone :=
      hreleased.trans (((invalidate_changes _ .function (·.ownerContext == index)).trans
      (invalidate_changes _ .stream (·.ownerContext == index))).trans
        (invalidate_changes _ .event (·.ownerContext == index)))
    split
    · exact halone.trans (Change.lapse .context index).changes
    · exact halone
  · exact .refl d

end Driver

/-! ## 5. Runs -/

inductive HandleMove where
  | ctxCreate (registered acquired : Bool)
  | primaryCtxRetain (index : Nat)
  | streamCreate (context : Nat) (registered : Bool)
  | eventCreate (context : Nat) (registered : Bool)
  | moduleLoadData (context : Nat) (loaded registered : Bool)
  | libraryLoadData (image : List Name) (registered : Bool)
  | moduleGetFunction (value : Nat) (name : Name) (passes loaded registered : Bool)
  | libraryGetKernel (value : Nat) (name : Name) (passes loaded registered : Bool)
  | libraryGetKernelCount (value : Nat) (passes : Bool)
  | libraryEnumerateKernels (value count : Nat) (passes : Bool)
  | kernelGetFunction (value : Nat) (passes passesModule loaded registered : Bool)
  | moduleUnload (value : Nat) (passes released : Bool)
  | streamDestroy (value context : Nat) (passes : Bool)
  | eventDestroy (value : Nat) (passes : Bool)
  | ctxDestroy (value : Nat) (passes : Bool) (releases : Nat → Bool) (cleaned finished : Bool)

namespace Driver

def step (d : Driver) : HandleMove → Driver
  | .ctxCreate registered acquired => (d.cuCtxCreate registered acquired).2
  | .primaryCtxRetain index => (d.cuDevicePrimaryCtxRetain index).2
  | .streamCreate context registered => (d.cuStreamCreate context registered).2
  | .eventCreate context registered => (d.cuEventCreate context registered).2
  | .moduleLoadData context loaded registered => (d.cuModuleLoadData context loaded registered).2
  | .libraryLoadData image registered => (d.cuLibraryLoadData image registered).2
  | .moduleGetFunction value name passes loaded registered =>
    (d.cuModuleGetFunction value name passes loaded registered).2
  | .libraryGetKernel value name passes loaded registered =>
    (d.cuLibraryGetKernel value name passes loaded registered).2
  | .libraryGetKernelCount value passes => (d.cuLibraryGetKernelCount value passes).2
  | .libraryEnumerateKernels value count passes =>
    (d.cuLibraryEnumerateKernels value count passes).2
  | .kernelGetFunction value passes passesModule loaded registered =>
    (d.cuKernelGetFunction value passes passesModule loaded registered).2
  | .moduleUnload value passes released => d.cuModuleUnload value passes released
  | .streamDestroy value context passes => d.cuStreamDestroy value context passes
  | .eventDestroy value passes => d.cuEventDestroy value passes
  | .ctxDestroy value passes releases cleaned finished =>
    d.cuCtxDestroy value passes releases cleaned finished

theorem step_changes (h : Inv d) (move : HandleMove) : Changes d (d.step move) := by
  cases move with
  | ctxCreate | streamCreate | eventCreate => exact create_changes d _ _ _ _ _ _
  | primaryCtxRetain index =>
    simp only [step, cuDevicePrimaryCtxRetain]
    split
    · rename_i hact
      exact (Change.again .context index hact).changes
    · exact .refl d
  | moduleLoadData =>
    simp only [step, cuModuleLoadData]
    split
    · exact create_changes d _ _ _ _ _ _
    · exact .refl d
  | libraryLoadData image registered => exact libraryLoadData_changes d image registered
  | moduleGetFunction value name passes loaded registered =>
    exact moduleGetFunction_changes d value name passes loaded registered
  | libraryGetKernel value name passes loaded registered =>
    exact libraryGetKernel_changes h value name passes loaded registered
  | libraryGetKernelCount value passes => exact libraryGetKernelCount_changes h value passes
  | libraryEnumerateKernels value count passes =>
    exact libraryEnumerateKernels_changes h value count passes
  | kernelGetFunction value passes passesModule loaded registered =>
    exact kernelGetFunction_changes d value passes passesModule loaded registered
  | moduleUnload _ _ released =>
    simp only [step, cuModuleUnload]
    split
    · exact releaseModule_changes d _ released
    · exact .refl d
  | streamDestroy =>
    simp only [step, cuStreamDestroy]
    split
    · split
      · exact (Change.lapse .stream _).changes
      · exact .refl d
    · exact .refl d
  | eventDestroy =>
    simp only [step, cuEventDestroy]
    split
    · exact (Change.lapse .event _).changes
    · exact .refl d
  | ctxDestroy value passes releases cleaned finished =>
    exact ctxDestroy_changes d value passes releases cleaned finished

theorem run_inv (moves : List HandleMove) : Inv (run step {} moves) :=
  run_induction (fun _ move h => h.changes (step_changes h move)) moves Inv.start

/-! ## 6. What a lookup finds -/

/-- The object has not been destroyed. -/
def Live (d : Driver) : Thing → Prop
  | .record kind index uses =>
    (d.records kind index).active = true ∧ (d.records kind index).uses = uses
  | .kernel entry => ∃ found, d.entries[entry]? = some found ∧ d.deferred found.moduleIndex = true ∧
      (d.records .module found.moduleIndex).active = true ∧
      (d.records .module found.moduleIndex).generation = found.moduleGeneration

/-- No live kernel is in the place of a live function: entry `n` goes with slot `n + 1`, and the
generation of its module with that of the function. -/
def Apart (d : Driver) : Prop :=
  ∀ entry found, d.entries[entry]? = some found → d.Live (.kernel entry) →
    ¬ ((d.records .function (entry + 1)).active = true ∧
      (d.records .function (entry + 1)).generation = found.moduleGeneration)

/-- No slot has been used so often that its generations begin anew. -/
def Fresh (d : Driver) : Prop := ∀ kind index, (d.records kind index).uses < 2 ^ 32

variable {passes : Bool} {value : Nat}

variable {entry : Nat}

section Values

section

variable (h : Inv d)

include h

end

end Values

end Driver

end MetaFlux.Cuda
