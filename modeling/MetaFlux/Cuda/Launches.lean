/-
# What a CUDA launch runs

A launch of a framework's kernel selects an operation.  The driver registers an artifact for it,
loads that as a module of the daemon, and notes in a table which operation the module was made for,
so that the next launch of the same operation can skip all of it (`Loader.materialize`).

The table is indexed by a field of the module's record that is never written for a module
(`Module.aux`), so ALL modules share its first entry, while an unload clears the entry of its own
slot.

* §1 is the driver's part: loading, unloading, lookup and launch, with the answers of the daemon and
  of the registry as arguments.  The daemon numbers artifacts and modules with one counter.
* §2 is the invariant.  The entry speaks for every module that has been made, or it is clear
  (`Loader.Inv.fits`); that is kept as long as a launch makes a module only when no other one is
  made (`LaunchMove.Alone`).
* §3: then a launch runs what it selected (`launch_runs_selected`).  With two modules it runs what
  the OTHER one had selected (`launch_runs_another`).

A handle is the slot that its lookup has found (`Driver.lookupToken`).
-/
import MetaFlux.Base.Calls
import MetaFlux.Base.Monitor
import MetaFlux.Cuda.Handles

namespace MetaFlux.Cuda

open Base Function

/-! ## 1. The driver's modules -/

/-- The operations of a kernel request, in the order of their codes 1 to 37. -/
inductive Operation where
  | elementwiseAddI32 | elementwiseMulI32 | elementwiseSubI32 | elementwiseAddF32
  | elementwiseMulF32 | elementwiseDivF32 | elementwiseNegI32 | fillI32 | scalarAddI32
  | scalarMulI32 | alphaAddI32 | elementwiseAbsI32 | elementwiseAbsF32 | elementwiseSqrtF32
  | compareEqI32 | compareGtI32 | compareLtF32 | castCopyI64 | reduceSumI32 | reduceSumF32
  | reduceMeanF32 | reduceMaxI32 | reduceMinI32 | reduceSumI64 | castToF32 | stridedCopyU32
  | concatU32 | elementwiseSubF32 | elementwiseReluF32 | softmaxF32 | matmulF32
  | elementwiseClampMinF32 | softmaxDimF32 | elementwiseSigmoidF32 | clampMinI32 | arangeI64
  | elementwiseExpF32
deriving DecidableEq, Repr

/-- The names that tell the matrix products apart; `other` is every other name. -/
inductive OperationName where
  | matmulRectF32 | linearF32 | addmmF32 | linearBiasF32 | other
deriving DecidableEq, Repr

def OperationName.variant : OperationName → Nat
  | .matmulRectF32 => 2
  | .linearF32 => 3
  | .addmmF32 => 4
  | .linearBiasF32 => 5
  | .other => 1

structure Selection where
  operation : Operation
  variant : Nat
deriving DecidableEq, Repr

/-- Only the matrix products come in variants. -/
def selectionOf (operation : Operation) (name : OperationName) : Selection :=
  ⟨operation, if operation = .matmulF32 then name.variant else 0⟩

/-- What the daemon has done, and the launches with what they had selected. -/
inductive DaemonEvent where
  | registered (artifact : Nat) (selection : Option Selection)
  | released (artifact : Nat)
  | loaded (remote artifact : Nat)
  | unloaded (remote : Nat)
  | launched (remote : Option Nat) (selection : Option Selection)
deriving DecidableEq, Repr

/-- `remote` is the daemon's id and generation, none while they are zero; so is `artifact`. -/
structure Module where
  active : Bool := false
  remote : Option Nat := none
  artifact : Option Nat := none
  aux : Nat := 0
deriving DecidableEq, Repr

structure Function where
  active : Bool := false
  aux : Nat := 0
  name : Name := []
deriving DecidableEq, Repr

/-- `nextId` is the daemon's counter. -/
structure Loader where
  modules : Nat → Module := fun _ => {}
  functions : Nat → Function := fun _ => {}
  deferred : Nat → Bool := fun _ => false
  kernelOperation : Nat → Option Operation := fun _ => none
  materializedOperation : Nat → Option Operation := fun _ => none
  materializedVariant : Nat → Nat := fun _ => 0
  nextId : Nat := 1
  log : List DaemonEvent := []

namespace Loader

variable (d : Loader)

def tell (event : DaemonEvent) : Loader := { d with log := d.log ++ [event] }

def freeModuleSlot : Option Nat :=
  (List.range moduleCapacity).find? fun index => !(d.modules index).active

/-- An artifact is registered for a selection, or for none if it is no kernel request. -/
def register (selection : Option Selection) (accepted : Bool) : Option Nat × Loader :=
  if accepted then
    (some d.nextId, { d.tell (.registered d.nextId selection) with nextId := d.nextId + 1 })
  else (none, d)

/-- MODULE_LOAD, whose completion names the module. -/
def submitLoad (artifact : Nat) (accepted : Bool) : Option Nat × Loader :=
  if accepted then
    (some d.nextId, { d.tell (.loaded d.nextId artifact) with nextId := d.nextId + 1 })
  else (none, d)

/-- A module in a slot.  What the record has in `aux` stays. -/
def activate (index : Nat) (remote artifact : Option Nat)
    (kernelOperation : Option Operation) (deferred : Bool) : Loader :=
  { d with
    modules := update d.modules index
      { d.modules index with active := true, remote, artifact }
    kernelOperation := update d.kernelOperation index kernelOperation
    deferred := update d.deferred index deferred }

/-- An image is registered, and loaded at once unless it is that of a matrix product.
`kernelOperation` is none for an image that is no kernel request. -/
def cuModuleLoadData (kernelOperation : Option Operation)
    (registers loads activates : Bool) : Loader :=
  match d.freeModuleSlot with
  | none => d
  | some index =>
    match d.register (kernelOperation.map (⟨·, 0⟩)) registers with
    | (none, d) => d
    | (some artifact, d) =>
      if kernelOperation = some .matmulF32 then
        if activates then d.activate index none (some artifact) kernelOperation (d.deferred index)
        else d.tell (.released artifact)
      else
        match d.submitLoad artifact loads with
        | (none, d) => d.tell (.released artifact)
        | (some remote, d) =>
          if activates then
            d.activate index (some remote) (some artifact) kernelOperation (d.deferred index)
          else (d.tell (.unloaded remote)).tell (.released artifact)

/-- A library's image stays with the driver. -/
def cuLibraryLoadData (activates : Bool) : Loader :=
  match d.freeModuleSlot with
  | none => d
  | some index =>
    if activates then d.activate index none none (d.kernelOperation index) true else d

/-- A module that is not made at its launches is loaded by now. -/
def loadForFunction (moduleIndex : Nat) (loads : Bool) : Bool × Loader :=
  if d.deferred moduleIndex = false ∧ (d.modules moduleIndex).remote = none ∧
      d.kernelOperation moduleIndex ≠ some .matmulF32 then
    match d.submitLoad ((d.modules moduleIndex).artifact.getD 0) loads with
    | (none, d) => (false, d)
    | (some remote, d) =>
      (true, { d with
        modules := update d.modules moduleIndex
          { d.modules moduleIndex with remote := some remote } })
  else (true, d)

def addFunction (moduleIndex : Nat) (name : Name) (activates : Bool) : Loader :=
  match (List.range objectCapacity).find? fun index =>
      (d.functions index).active && (d.functions index).aux == moduleIndex &&
        (d.functions index).name == name with
  | some _ => d
  | none =>
    match (List.range objectCapacity).find? fun index => !(d.functions index).active with
    | none => d
    | some index =>
      if activates then
        { d with
          functions := update d.functions index
            { active := true, aux := moduleIndex, name := name.take 511 } }
      else d

def cuModuleGetFunction (moduleIndex : Nat) (name : Name) (loads activates : Bool) : Loader :=
  if name = [] ∨ (d.modules moduleIndex).active = false then d
  else
    let ready := d.loadForFunction moduleIndex loads
    if ready.1 then ready.2.addFunction moduleIndex name activates else ready.2

/-- The module is made for the operation, unless the table says that it is.  `capable` is that the
daemon takes kernel requests, and that this one fits. -/
def materialize (moduleIndex : Nat) (selection : Selection)
    (capable registers loads : Bool) : Bool × Loader :=
  let entry := (d.modules moduleIndex).aux
  if moduleCapacity ≤ entry then (false, d)
  else if (d.modules moduleIndex).remote ≠ none ∧
      d.materializedOperation entry = some selection.operation ∧
      d.materializedVariant entry = selection.variant then
    (true, d)
  else if capable = false then (false, d)
  else
    match d.register (some selection) registers with
    | (none, d) => (false, d)
    | (some artifact, d) =>
      match d.submitLoad artifact loads with
      | (none, d) => (false, d.tell (.released artifact))
      | (some remote, d) =>
        -- the module made before is not unloaded
        (true,
          { d with
            materializedOperation :=
              update d.materializedOperation entry (some selection.operation)
            materializedVariant := update d.materializedVariant entry selection.variant
            modules := update d.modules moduleIndex
              { d.modules moduleIndex with remote := some remote, artifact := some artifact } })

/-- The LAUNCH command, for what was selected. -/
def submitLaunch (moduleIndex : Nat) (selection : Option Selection) (submits : Bool) : Loader :=
  if submits then d.tell (.launched (d.modules moduleIndex).remote selection) else d

/-- Modules that are made at their launches. -/
def Materializes (index : Nat) : Prop :=
  d.kernelOperation index = some .matmulF32 ∨ d.deferred index = true
deriving Decidable

/-- `selects` is what the function's name and the arguments stand for, if there is such an
operation.  `submits` is that the launch passes the checks that come after it was made, and is
enqueued. -/
def cuLaunchKernel (function : Nat) (selects : Option (Operation × OperationName))
    (capable registers loads submits : Bool) : Loader :=
  if (d.functions function).active = false then d
  else
    let moduleIndex := (d.functions function).aux
    if d.Materializes moduleIndex then
      match selects with
      | none => d
      | some (operation, name) =>
        let selection := selectionOf
          (if d.kernelOperation moduleIndex = some .matmulF32 then .matmulF32 else operation) name
        let made := d.materialize moduleIndex selection capable registers loads
        if made.1 then made.2.submitLaunch moduleIndex (some selection) submits else made.2
    else d.submitLaunch moduleIndex ((d.kernelOperation moduleIndex).map (⟨·, 0⟩)) submits

/-- The module's functions lapse with it, and the entries of its slot are cleared. -/
def lapse (index : Nat) : Loader :=
  { d with
    modules := update d.modules index { d.modules index with active := false }
    functions := fun i =>
      if (d.functions i).active && (d.functions i).aux == index then
        { d.functions i with active := false }
      else d.functions i
    deferred := update d.deferred index false
    kernelOperation := update d.kernelOperation index none
    materializedOperation := update d.materializedOperation index none
    materializedVariant := update d.materializedVariant index 0 }

/-- `drains` is that the launches under way end and the cached arguments are given back. -/
def cuModuleUnload (index : Nat) (drains unloads : Bool) : Loader :=
  if (d.modules index).active = false ∨ drains = false then d
  else
    let artifact := (d.modules index).artifact.getD 0
    match (d.modules index).remote with
    | none => (d.tell (.released artifact)).lapse index
    | some remote =>
      if unloads then ((d.tell (.unloaded remote)).tell (.released artifact)).lapse index else d

end Loader

inductive LaunchMove where
  | moduleLoadData (kernelOperation : Option Operation) (registers loads activates : Bool)
  | libraryLoadData (activates : Bool)
  | moduleGetFunction (moduleIndex : Nat) (name : Name) (loads activates : Bool)
  | launchKernel (function : Nat) (selects : Option (Operation × OperationName))
      (capable registers loads submits : Bool)
  | moduleUnload (index : Nat) (drains unloads : Bool)

def Loader.step (d : Loader) : LaunchMove → Loader
  | .moduleLoadData kernelOperation registers loads activates =>
    d.cuModuleLoadData kernelOperation registers loads activates
  | .libraryLoadData activates => d.cuLibraryLoadData activates
  | .moduleGetFunction moduleIndex name loads activates =>
    d.cuModuleGetFunction moduleIndex name loads activates
  | .launchKernel function selects capable registers loads submits =>
    d.cuLaunchKernel function selects capable registers loads submits
  | .moduleUnload index drains unloads => d.cuModuleUnload index drains unloads

/-- Of the modules that are made at their launches, no other one is made when one is launched. -/
def LaunchMove.Alone (d : Loader) : LaunchMove → Prop
  | .launchKernel function _ _ _ _ _ =>
    ∀ other, other ≠ (d.functions function).aux → (d.modules other).active = true →
      d.Materializes other → (d.modules other).remote = none
  | _ => True

/-- What the daemon has: the selection of each artifact, and the artifact of each loaded module. -/
structure DaemonView where
  selections : Nat → Option Selection := fun _ => none
  artifacts : Nat → Option Nat := fun _ => none

namespace DaemonView

def next (v : DaemonView) : DaemonEvent → DaemonView
  | .registered artifact selection =>
    { v with selections := update v.selections artifact selection }
  | .loaded remote artifact =>
    { v with artifacts := update v.artifacts remote (some artifact) }
  | .unloaded remote => { v with artifacts := update v.artifacts remote none }
  | .released _ | .launched _ _ => v

/-- What a module is made for, while it is loaded. -/
def runs (v : DaemonView) (remote : Nat) : Option Selection :=
  (v.artifacts remote).bind v.selections

/-- A launch that has selected an operation names a module that is loaded, and from an artifact that
was registered for it. -/
def allows (v : DaemonView) : DaemonEvent → Prop
  | .launched remote (some selection) => remote.bind v.runs = some selection
  | _ => True

end DaemonView

def launches : Monitor DaemonView DaemonEvent := ⟨{}, DaemonView.next, DaemonView.allows⟩

/-! ## 2. The entry speaks for every module that is made -/

namespace Loader

def view (d : Loader) : DaemonView := launches.after d.log

/-- The selection is what a launch of the module takes it to be. -/
def Fits (d : Loader) (index : Nat) (selection : Option Selection) : Prop :=
  if d.Materializes index then
    ∀ operation, d.materializedOperation 0 = some operation →
      selection = some ⟨operation, d.materializedVariant 0⟩
  else ∀ operation, d.kernelOperation index = some operation → selection = some ⟨operation, 0⟩

structure Inv (d : Loader) : Prop where
  accepts : launches.Accepts d.log
  aux : ∀ index, (d.modules index).aux = 0
  known : ∀ {remote artifact}, d.view.artifacts remote = some artifact →
    remote < d.nextId ∧ artifact < d.nextId
  fits : ∀ {index remote}, (d.modules index).active = true →
    (d.modules index).remote = some remote →
      ∃ artifact, d.view.artifacts remote = some artifact ∧
      d.Fits index (d.view.selections artifact)
  bare : ∀ {index}, (d.modules index).active = true → (d.modules index).remote = none →
    d.Materializes index
  idle : ∀ {index}, (d.modules index).active = false →
    d.deferred index = false ∧ d.kernelOperation index = none
  apart : ∀ {i j remote}, (d.modules i).active = true → (d.modules j).active = true →
    (d.modules i).remote = some remote → (d.modules j).remote = some remote → i = j
  functions : ∀ {function}, (d.functions function).active = true →
    (d.modules (d.functions function).aux).active = true

variable {d : Loader}

theorem Inv.start : Inv {} := by
  refine ⟨launches.accepts_nil, ?_, ?_, ?_, ?_, ?_, ?_, ?_⟩ <;> simp [view, launches]

/-- What is told changes nothing of what the daemon has for the modules. -/
theorem Inv.told (h : Inv d) (event : DaemonEvent) (n : Nat) (hallows : d.view.allows event)
    (hknown : ∀ remote artifact, (d.view.next event).artifacts remote = some artifact →
      remote < n ∧ artifact < n)
    (hkeep : ∀ index remote artifact, (d.modules index).active = true →
      (d.modules index).remote = some remote → d.view.artifacts remote = some artifact →
        (d.view.next event).artifacts remote = some artifact ∧
          (d.view.next event).selections artifact = d.view.selections artifact) :
    Inv { d.tell event with nextId := n } := by
  have hview : Loader.view { d.tell event with nextId := n } = d.view.next event :=
    launches.after_snoc d.log event
  refine ⟨launches.accepts_snoc.2 ⟨h.accepts, hallows⟩, h.aux, ?_, ?_, h.bare, h.idle, h.apart,
    h.functions⟩
  · intro remote artifact hloaded
    rw [hview] at hloaded
    exact hknown remote artifact hloaded
  intro index remote hact hremote
  obtain ⟨artifact, hloaded, hfits⟩ := h.fits hact hremote
  obtain ⟨hstill, hsame⟩ := hkeep index remote artifact hact hremote hloaded
  rw [hview]
  refine ⟨artifact, hstill, ?_⟩
  rw [hsame]
  exact hfits

/-- Telling something that the daemon's view does not change with. -/
theorem Inv.quiet (h : Inv d) {event : DaemonEvent} (hallows : d.view.allows event)
    (hsame : d.view.next event = d.view) : Inv (d.tell event) := by
  refine h.told event d.nextId hallows ?_ ?_
  · rw [hsame]
    exact fun _ _ => h.known
  · rw [hsame]
    exact fun _ _ _ _ _ hloaded => ⟨hloaded, rfl⟩

theorem Inv.released (h : Inv d) (artifact : Nat) : Inv (d.tell (.released artifact)) :=
  h.quiet trivial rfl

variable {remote : Nat}

/-- A module is unloaded that no record has any more. -/
theorem Inv.unloaded (h : Inv d)
    (hfree : ∀ index, (d.modules index).active = true → (d.modules index).remote ≠ some remote) :
    Inv (d.tell (.unloaded remote)) := by
  refine h.told (.unloaded remote) d.nextId trivial ?_ ?_
  · intro other artifact hloaded
    by_cases hother : other = remote
    · simp [DaemonView.next, hother] at hloaded
    · simp only [DaemonView.next, update_of_ne hother _ _] at hloaded
      exact h.known hloaded
  · intro index other artifact hact hremote hloaded
    have hother : other ≠ remote := by
      rintro rfl
      exact hfree index hact hremote
    exact ⟨(update_of_ne hother _ _).trans hloaded, rfl⟩

/-- An artifact is registered, under an id that no module is loaded from. -/
theorem Inv.register (h : Inv d) (selection : Option Selection) (accepted : Bool) :
    Inv (d.register selection accepted).2 := by
  cases accepted with
  | false => exact h
  | true =>
    refine h.told (.registered d.nextId selection) (d.nextId + 1) trivial ?_ ?_
    · intro remote artifact hloaded
      have := h.known hloaded
      omega
    · intro index remote artifact _ _ hloaded
      exact ⟨hloaded, update_of_ne (h.known hloaded).2.ne _ _⟩

variable {artifact : Nat} {d' : Loader} {selection : Option Selection} {accepted : Bool}

theorem register_eq (hregister : d.register selection accepted = (some artifact, d')) :
    d'.modules = d.modules ∧ d'.deferred = d.deferred ∧ d'.kernelOperation = d.kernelOperation ∧
      artifact < d'.nextId ∧ d'.view.selections artifact = selection := by
  cases accepted with
  | false => cases hregister
  | true =>
    cases hregister
    simp [Loader.view, tell, launches, DaemonView.next]

/-- A module is loaded, under an id that no record has. -/
theorem Inv.submitLoad (h : Inv d) (hartifact : artifact < d.nextId)
    (accepted : Bool) : Inv (d.submitLoad artifact accepted).2 := by
  cases accepted with
  | false => exact h
  | true =>
    refine h.told (.loaded d.nextId artifact) (d.nextId + 1) trivial ?_ ?_
    · intro remote other hloaded
      by_cases hremote : remote = d.nextId
      · simp only [DaemonView.next, hremote, update_self, Option.some.injEq] at hloaded
        omega
      · simp only [DaemonView.next, update_of_ne hremote _ _] at hloaded
        have := h.known hloaded
        omega
    · intro index remote other _ _ hloaded
      exact ⟨(update_of_ne (h.known hloaded).1.ne _ _).trans hloaded, rfl⟩

/-- The new module is loaded from the artifact, and it is nobody's yet. -/
structure Loaded (d d' : Loader) (remote artifact : Nat) : Prop where
  modules : d'.modules = d.modules
  deferred : d'.deferred = d.deferred
  kernelOperation : d'.kernelOperation = d.kernelOperation
  artifacts : d'.view.artifacts remote = some artifact
  selections : d'.view.selections = d.view.selections
  free : ∀ index, (d'.modules index).active = true → (d'.modules index).remote ≠ some remote

theorem Inv.loaded (h : Inv d)
    (hsubmit : d.submitLoad artifact accepted = (some remote, d')) :
    Loaded d d' remote artifact := by
  cases accepted with
  | false => cases hsubmit
  | true =>
    cases hsubmit
    refine ⟨rfl, rfl, rfl, ?_, ?_, ?_⟩
    · simp [Loader.view, tell, launches, DaemonView.next]
    · simp [Loader.view, tell, launches, DaemonView.next]
    · intro index hact hremote
      obtain ⟨other, hother, -⟩ := h.fits hact hremote
      exact absurd (h.known hother).1 (lt_irrefl _)

variable {index : Nat}

theorem fits_of_materializes (h : d.Materializes index) : d.Fits index selection ↔
      ∀ operation, d.materializedOperation 0 = some operation →
        selection = some ⟨operation, d.materializedVariant 0⟩ := by
  rw [Fits, if_pos h]

theorem fits_of_not_materializes (h : ¬ d.Materializes index) : d.Fits index selection ↔
      ∀ operation, d.kernelOperation index = some operation → selection = some ⟨operation, 0⟩ := by
  rw [Fits, if_neg h]

/-- What a slot fits depends on its own entries, and on the entry that all modules share. -/
theorem Fits.congr
    (hfits : d.Fits index selection) (hdeferred : d'.deferred index = d.deferred index)
    (hkernel : d'.kernelOperation index = d.kernelOperation index)
    (hop : d'.materializedOperation 0 = d.materializedOperation 0)
    (hvariant : d'.materializedVariant 0 = d.materializedVariant 0) : d'.Fits index selection := by
  simp only [Fits, Materializes, hdeferred, hkernel, hop, hvariant]
  exact hfits

/-- **A slot changes.**  What is asked is that the slot fits, that nobody else has its module, and
that the entry all share still speaks for the others. -/
theorem Inv.put (h : Inv d) (hlog : d'.log = d.log) (hid : d'.nextId = d.nextId)
    (hother : ∀ i, i ≠ index → d'.modules i = d.modules i ∧ d'.deferred i = d.deferred i ∧
      d'.kernelOperation i = d.kernelOperation i)
    (haux : (d'.modules index).aux = (d.modules index).aux)
    (hfits : ∀ i selection, i ≠ index → (d.modules i).active = true → (d.modules i).remote ≠ none →
      d.Fits i selection → d'.Fits i selection)
    (hbare : (d'.modules index).active = true → (d'.modules index).remote = none →
      d'.Materializes index)
    (hmade : ∀ r, (d'.modules index).active = true → (d'.modules index).remote = some r →
      (∀ i, i ≠ index → (d.modules i).active = true → (d.modules i).remote ≠ some r) ∧
        ∃ a, d.view.artifacts r = some a ∧ d'.Fits index (d.view.selections a))
    (hidle : (d'.modules index).active = false →
      d'.deferred index = false ∧ d'.kernelOperation index = none)
    (hfunctions : ∀ f, (d'.functions f).active = true →
      (d'.modules (d'.functions f).aux).active = true) : Inv d' := by
  have hview : d'.view = d.view := by rw [view, hlog]; rfl
  constructor
  case accepts =>
    rw [hlog]
    exact h.accepts
  case known =>
    rw [hview, hid]
    exact h.known
  case aux =>
    intro i
    by_cases hi : i = index
    · rw [hi, haux, h.aux]
    · rw [(hother i hi).1, h.aux]
  case fits =>
    intro i r hact hremote
    rw [hview]
    by_cases hi : i = index
    · subst hi
      exact (hmade r hact hremote).2
    · rw [(hother i hi).1] at hact hremote
      obtain ⟨a, hloaded, hfit⟩ := h.fits hact hremote
      exact ⟨a, hloaded, hfits i _ hi hact (by simp [hremote]) hfit⟩
  case bare =>
    intro i hact hremote
    by_cases hi : i = index
    · subst hi
      exact hbare hact hremote
    · obtain ⟨hmodule, hdeferred, hkernel⟩ := hother i hi
      rw [hmodule] at hact hremote
      simpa only [Materializes, hdeferred, hkernel] using h.bare hact hremote
  case idle =>
    intro i hi
    by_cases hsame : i = index
    · subst hsame
      exact hidle hi
    · obtain ⟨hmodule, hdeferred, hkernel⟩ := hother i hsame
      rw [hmodule] at hi
      rw [hdeferred, hkernel]
      exact h.idle hi
  case apart =>
    intro i j r hact hact' hremote hremote'
    refine eq_of_alike (P := fun m => m.active = true ∧ m.remote = some r) (r := fun _ _ => True)
      (fun i hi => (hother i hi).1) id ?_ ?_ ⟨hact, hremote⟩ ⟨hact', hremote'⟩ trivial
    · exact fun i hi hold hnew _ => (hmade r hnew.1 hnew.2).1 i hi hold.1 hold.2
    · exact fun hi hj _ => h.apart hi.1 hj.1 hi.2 hj.2
  case functions => exact hfunctions _

/-- A free slot takes a module: one that is made at its launches, and not yet, or one that is loaded
from an artifact registered for its own operation. -/
theorem Inv.activate (h : Inv d) {remote artifact : Option Nat}
    {kernelOperation : Option Operation} {deferred : Bool}
    (hbare : remote = none → kernelOperation = some .matmulF32 ∨ deferred = true)
    (hmade : ∀ r, remote = some r → kernelOperation ≠ some .matmulF32 ∧ deferred = false ∧
      (∀ i, (d.modules i).active = true → (d.modules i).remote ≠ some r) ∧
      ∃ a, d.view.artifacts r = some a ∧ d.view.selections a = kernelOperation.map (⟨·, 0⟩)) :
    Inv (d.activate index remote artifact kernelOperation deferred) := by
  have hself : (d.activate index remote artifact kernelOperation deferred).modules index =
      { d.modules index with active := true, remote, artifact } := update_self _ _ _
  refine h.put rfl rfl (fun i hi => ⟨update_of_ne hi _ _, update_of_ne hi _ _,
    update_of_ne hi _ _⟩) (by rw [hself]) (fun i _ hi _ _ hfit => ?_) (fun _ hnone => ?_)
    (fun r _ hremote => ?_) (fun hnot => ?_) fun f hact => ?_
  · exact hfit.congr (update_of_ne hi _ _) (update_of_ne hi _ _) rfl rfl
  · rw [hself] at hnone
    simpa [Materializes, Loader.activate] using hbare hnone
  · rw [hself] at hremote
    obtain ⟨hkernel, rfl, hfree, a, hloaded, hsel⟩ := hmade r hremote
    refine ⟨fun i _ => hfree i, a, hloaded, ?_⟩
    rw [fits_of_not_materializes (by simp [Materializes, Loader.activate, hkernel]), hsel]
    intro operation hop
    have hkernel' : kernelOperation = some operation := by
      simpa [Loader.activate] using hop
    rw [hkernel']
    rfl
  · rw [hself] at hnot
    cases hnot
  · by_cases hi : (d.functions f).aux = index
    · change (Loader.modules _ (d.functions f).aux).active = true
      rw [hi, hself]
    · exact (congrArg Module.active (update_of_ne hi _ _)).trans (h.functions hact)

/-- The module of a slot is made anew, and the entry that all share is written for it. -/
def remake (d : Loader) (index remote artifact : Nat) (selection : Selection) : Loader :=
  { d with
    materializedOperation := update d.materializedOperation 0 (some selection.operation)
    materializedVariant := update d.materializedVariant 0 selection.variant
    modules := update d.modules index
      { d.modules index with remote := some remote, artifact := some artifact } }

/-- The entry speaks for the module that was made last; so no other may be made. -/
theorem Inv.remake (h : Inv d) {selection : Selection} (hmat : d.Materializes index)
    (halone : ∀ other, other ≠ index → (d.modules other).active = true → d.Materializes other →
      (d.modules other).remote = none)
    (hfree : ∀ i, (d.modules i).active = true → (d.modules i).remote ≠ some remote)
    (hloaded : d.view.artifacts remote = some artifact)
    (hsel : d.view.selections artifact = some selection) :
    Inv (d.remake index remote artifact selection) := by
  have hself : (d.remake index remote artifact selection).modules index =
      { d.modules index with remote := some remote, artifact := some artifact } :=
    update_self _ _ _
  refine h.put rfl rfl (fun i hi => ⟨update_of_ne hi _ _, rfl, rfl⟩) (by rw [hself])
    (fun i s hi hact hremote hfit => ?_) (fun _ _ => hmat) (fun r _ hremote => ?_)
    (fun hidle => ?_) fun f hact => ?_
  · have hnot : ¬ d.Materializes i := fun hmade => hremote (halone i hi hact hmade)
    have hneither : ¬ (d.remake index remote artifact selection).Materializes i := hnot
    rw [fits_of_not_materializes hneither]
    exact (fits_of_not_materializes hnot).1 hfit
  · rw [hself] at hremote
    cases hremote
    refine ⟨fun i _ => hfree i, artifact, hloaded, ?_⟩
    have hstill : (d.remake index remote artifact selection).Materializes index := hmat
    rw [fits_of_materializes hstill, hsel]
    intro operation hop
    have hsame : selection.operation = operation := by
      simpa [Loader.remake] using hop
    subst hsame
    simp [Loader.remake]
  · rw [hself] at hidle
    exact h.idle hidle
  · by_cases hi : (d.functions f).aux = index
    · change (Loader.modules _ (d.functions f).aux).active = true
      rw [hi, hself, ← hi]
      exact h.functions hact
    · exact (congrArg Module.active (update_of_ne hi _ _)).trans (h.functions hact)

/-- A slot is cleared.  The entry that all share is cleared with slot 0, whatever module was there.
-/
theorem Inv.lapse (h : Inv d) (index : Nat) : Inv (d.lapse index) := by
  have hself : (d.lapse index).modules index = { d.modules index with active := false } :=
    update_self _ _ _
  have hgone : ¬ ((d.lapse index).modules index).active = true := by simp [hself]
  refine h.put rfl rfl
    (fun i hi => ⟨update_of_ne hi _ _, update_of_ne hi _ _, update_of_ne hi _ _⟩)
    (by rw [hself]) (fun i s hi _ _ hfit => ?_) (fun hnot => absurd hnot hgone)
    (fun _ hnot => absurd hnot hgone)
    (fun _ => by simp [Loader.lapse]) fun f hact => ?_
  · have hdeferred : (d.lapse index).deferred i = d.deferred i := update_of_ne hi _ _
    have hkernel : (d.lapse index).kernelOperation i = d.kernelOperation i := update_of_ne hi _ _
    by_cases hzero : index = 0
    · have hstill : (d.lapse index).Materializes i ↔ d.Materializes i := by
        simp only [Materializes, hdeferred, hkernel]
      by_cases hmade : d.Materializes i
      · rw [fits_of_materializes (hstill.2 hmade)]
        simp [Loader.lapse, hzero]
      · rw [fits_of_not_materializes (mt hstill.1 hmade), hkernel]
        exact (fits_of_not_materializes hmade).1 hfit
    · exact hfit.congr hdeferred hkernel (update_of_ne (Ne.symm hzero) _ _)
        (update_of_ne (Ne.symm hzero) _ _)
  · by_cases hlapsed : ((d.functions f).active && (d.functions f).aux == index) = true
    · have hsame : (d.lapse index).functions f = { d.functions f with active := false } :=
        if_pos hlapsed
      rw [hsame] at hact
      cases hact
    · have hsame : (d.lapse index).functions f = d.functions f := if_neg hlapsed
      rw [hsame] at hact ⊢
      have hne : (d.functions f).aux ≠ index := by
        intro heq
        simp [hact, heq] at hlapsed
      exact (congrArg Module.active (update_of_ne hne _ _)).trans (h.functions hact)

section

variable (h : Inv d)

include h

theorem Inv.cuModuleLoadData (kernelOperation : Option Operation)
    (registers loads activates : Bool) :
    Inv (d.cuModuleLoadData kernelOperation registers loads activates) := by
  unfold Loader.cuModuleLoadData
  cases hslot : d.freeModuleSlot with
  | none => exact h
  | some index =>
    have hidle : (d.modules index).active = false := by simpa using List.find?_some hslot
    have hreg := h.register (kernelOperation.map (⟨·, 0⟩)) registers
    rcases hregister : d.register (kernelOperation.map (⟨·, 0⟩)) registers with ⟨_ | artifact, d₁⟩
      <;> rw [hregister] at hreg
    · exact hreg
    obtain ⟨hmodules, -, -, hartifact, hsel⟩ := register_eq hregister
    simp only
    by_cases hmatmul : kernelOperation = some .matmulF32
    · rw [if_pos hmatmul]
      cases activates with
      | false => exact hreg.released artifact
      | true =>
        exact hreg.activate (fun _ => .inl hmatmul) (fun r hr => by cases hr)
    · rw [if_neg hmatmul]
      have hload := hreg.submitLoad hartifact loads
      rcases hsubmit : d₁.submitLoad artifact loads with ⟨_ | remote, d₂⟩ <;> rw [hsubmit] at hload
      · exact hload.released artifact
      have hloaded := hreg.loaded hsubmit
      have hidle₂ : (d₂.modules index).active = false := by
        rw [hloaded.modules, hmodules, hidle]
      cases activates with
      | false => exact (hload.unloaded hloaded.free).released artifact
      | true =>
        refine hload.activate (fun hnone => by cases hnone) fun r hr => ?_
        cases hr
        refine ⟨hmatmul, (hload.idle hidle₂).1, hloaded.free, artifact, hloaded.artifacts, ?_⟩
        rw [hloaded.selections, hsel]

theorem Inv.cuLibraryLoadData (activates : Bool) : Inv (d.cuLibraryLoadData activates) := by
  unfold Loader.cuLibraryLoadData
  cases hslot : d.freeModuleSlot with
  | none => exact h
  | some =>
    cases activates with
    | false => exact h
    | true =>
      exact h.activate (fun _ => .inr rfl) (fun r hr => by cases hr)

variable {moduleIndex : Nat}

/-- A module without the daemon's is one that is made at its launches: a lookup loads nothing. -/
theorem Inv.loadForFunction_eq (hact : (d.modules moduleIndex).active = true) (loads : Bool) :
    d.loadForFunction moduleIndex loads = (true, d) := by
  refine if_neg ?_
  rintro ⟨hdeferred, hremote, hkernel⟩
  rcases h.bare hact hremote with hmatmul | hlibrary
  · exact hkernel hmatmul
  · simp [hdeferred] at hlibrary

theorem Inv.addFunction
    (hact : (d.modules moduleIndex).active = true) (name : Name) (activates : Bool) :
    Inv (d.addFunction moduleIndex name activates) := by
  unfold Loader.addFunction
  split
  · exact h
  split
  · exact h
  rename_i index _
  split_ifs with hactivates
  · refine { h with functions := ?_ }
    intro function hfunction
    by_cases hsame : function = index
    · simpa [hsame] using hact
    · simp only [update_of_ne hsame _ _] at hfunction ⊢
      exact h.functions hfunction
  · exact h

theorem Inv.cuModuleGetFunction (moduleIndex : Nat) (name : Name)
    (loads activates : Bool) : Inv (d.cuModuleGetFunction moduleIndex name loads activates) := by
  unfold Loader.cuModuleGetFunction
  by_cases hrefused : name = [] ∨ (d.modules moduleIndex).active = false
  · rw [if_pos hrefused]
    exact h
  · have hact : (d.modules moduleIndex).active = true := by
      simpa using (not_or.1 hrefused).2
    rw [if_neg hrefused, h.loadForFunction_eq hact loads]
    exact h.addFunction hact name activates

/-- Made or found made, the module runs what was selected. -/
theorem Inv.materialize (selection : Selection)
    (hact : (d.modules moduleIndex).active = true) (hmat : d.Materializes moduleIndex)
    (halone : ∀ other, other ≠ moduleIndex → (d.modules other).active = true →
      d.Materializes other → (d.modules other).remote = none) (capable registers loads : Bool) :
    let made := d.materialize moduleIndex selection capable registers loads
    Inv made.2 ∧ (made.1 = true →
      (made.2.modules moduleIndex).remote.bind made.2.view.runs = some selection) := by
  intro made
  simp only [made, Loader.materialize, h.aux moduleIndex]
  split_ifs with hcap hwarm hcapable
  · exact ⟨h, by simp⟩
  · -- the table's word is enough: it speaks for every module that is made
    obtain ⟨hremote, hop, hvariant⟩ := hwarm
    obtain ⟨remote, hsome⟩ := Option.ne_none_iff_exists'.1 hremote
    obtain ⟨artifact, hloaded, hfits⟩ := h.fits hact hsome
    have hsel := (fits_of_materializes hmat).1 hfits _ hop
    refine ⟨h, fun _ => ?_⟩
    simp [hsome, DaemonView.runs, hloaded, hsel, hvariant]
  · exact ⟨h, by simp⟩
  · have hreg := h.register (some selection) registers
    rcases hregister : d.register (some selection) registers with ⟨_ | artifact, d₁⟩
      <;> rw [hregister] at hreg
    · exact ⟨hreg, by simp⟩
    obtain ⟨hmodules, hdeferred, hkernel, hartifact, hsel⟩ := register_eq hregister
    have hload := hreg.submitLoad hartifact loads
    simp only
    rcases hsubmit : d₁.submitLoad artifact loads with ⟨_ | remote, d₂⟩ <;> rw [hsubmit] at hload
    · exact ⟨hload.released artifact, by simp⟩
    have hloaded := hreg.loaded hsubmit
    have hmade : ∀ i, d₂.Materializes i ↔ d.Materializes i := by
      intro i
      simp only [Materializes, hloaded.kernelOperation, hloaded.deferred, hkernel, hdeferred]
    have hselected : d₂.view.selections artifact = some selection := by
      rw [hloaded.selections, hsel]
    refine ⟨hload.remake ((hmade _).2 hmat) ?_ hloaded.free hloaded.artifacts hselected,
      fun _ => ?_⟩
    · intro other hne hother hmat'
      rw [hloaded.modules, hmodules] at hother ⊢
      exact halone other hne hother ((hmade other).1 hmat')
    · have hruns : d₂.view.runs remote = some selection := by
        simp [DaemonView.runs, hloaded.artifacts, hselected]
      change ((d₂.remake moduleIndex remote artifact selection).modules moduleIndex).remote.bind
        d₂.view.runs = _
      simp [Loader.remake, hruns]

theorem Inv.submitLaunch
    (hruns : ∀ s, selection = some s → (d.modules moduleIndex).remote.bind d.view.runs = some s)
    (submits : Bool) : Inv (d.submitLaunch moduleIndex selection submits) := by
  unfold Loader.submitLaunch
  split_ifs with hsubmits
  · refine h.quiet ?_ rfl
    cases selection with
    | none => trivial
    | some s => exact hruns s rfl
  · exact h

theorem Inv.cuLaunchKernel {function : Nat}
    (selects : Option (Operation × OperationName)) {capable registers loads submits : Bool}
    (halone : LaunchMove.Alone d (.launchKernel function selects capable registers loads submits)) :
    Inv (d.cuLaunchKernel function selects capable registers loads submits) := by
  unfold Loader.cuLaunchKernel
  by_cases hinactive : (d.functions function).active = false
  · rw [if_pos hinactive]
    exact h
  rw [if_neg hinactive]
  have hact := h.functions (Bool.eq_true_of_not_eq_false hinactive)
  by_cases hmat : d.Materializes (d.functions function).aux
  · simp only [if_pos hmat]
    rcases selects with _ | ⟨operation, name⟩
    · exact h
    dsimp only
    generalize selectionOf _ name = selection
    obtain ⟨hinv, hruns⟩ :=
      h.materialize selection hact hmat halone capable registers loads
    by_cases hmade : (d.materialize (d.functions function).aux selection capable registers
        loads).1 = true
    · rw [if_pos hmade]
      refine hinv.submitLaunch (fun s hs => ?_) submits
      cases hs
      exact hruns hmade
    · rw [if_neg hmade]
      exact hinv
  · simp only [if_neg hmat]
    refine h.submitLaunch (fun s hs => ?_) submits
    obtain ⟨operation, hop, rfl⟩ := Option.map_eq_some_iff.1 hs
    cases hremote : (d.modules (d.functions function).aux).remote with
    | none => exact absurd (h.bare hact hremote) hmat
    | some =>
      obtain ⟨artifact, hloaded, hfits⟩ := h.fits hact hremote
      have hsel := (fits_of_not_materializes hmat).1 hfits operation hop
      simp [DaemonView.runs, hloaded, hsel]

theorem Inv.cuModuleUnload (index : Nat) (drains unloads : Bool) :
    Inv (d.cuModuleUnload index drains unloads) := by
  unfold Loader.cuModuleUnload
  by_cases hrefused : (d.modules index).active = false ∨ drains = false
  · rw [if_pos hrefused]
    exact h
  rw [if_neg hrefused]
  have hact : (d.modules index).active = true := by simpa using (not_or.1 hrefused).1
  cases hremote : (d.modules index).remote with
  | none => exact (h.lapse index).released _
  | some =>
    split_ifs with hunloads
    · -- once the slot is cleared no record has the module any more
      refine ((h.lapse index).unloaded fun i hi hsame => ?_).released _
      have hne : i ≠ index := by
        rintro rfl
        simp [Loader.lapse] at hi
      simp only [Loader.lapse, update_of_ne hne _ _] at hi hsame
      exact hne (h.apart hi hact hsame hremote)
    · exact h

theorem Inv.step (move : LaunchMove) (halone : move.Alone d) : Inv (d.step move) := by
  cases move with
  | moduleLoadData kernelOperation registers loads activates =>
    exact h.cuModuleLoadData kernelOperation registers loads activates
  | libraryLoadData activates => exact h.cuLibraryLoadData activates
  | moduleGetFunction moduleIndex name loads activates =>
    exact h.cuModuleGetFunction moduleIndex name loads activates
  | launchKernel _ selects =>
    exact h.cuLaunchKernel selects halone
  | moduleUnload index drains unloads => exact h.cuModuleUnload index drains unloads

end

end Loader

/-! ## 3. Launches -/

/-- **A launch runs what it selected**, in every run in which no launch makes a module while another
one is made: what it names is loaded, from an artifact registered for this operation and variant. -/
theorem launch_runs_selected (moves : List LaunchMove)
    (halone : Along Loader.step (fun d move => move.Alone d) {} moves) :
    launches.Accepts (run Loader.step {} moves).log :=
  (run_induction_along (fun _ move h hmove => h.step move hmove) moves
    Loader.Inv.start halone).accepts

/-- A kernel that adds, and with an `alpha` of -1 subtracts. -/
def addKernel : Name := "vectorized_elementwise_kernel_CUDAFunctor_addIi".toList

/-- A library whose kernel is launched for two operations, and again for the second. -/
theorem launch_runs_selected_again :
    let moves : List LaunchMove :=
      [.libraryLoadData true, .moduleGetFunction 0 addKernel true true,
        .launchKernel 0 (some (.elementwiseAddI32, .other)) true true true true,
        .launchKernel 0 (some (.elementwiseSubI32, .other)) true true true true,
        .launchKernel 0 (some (.elementwiseSubI32, .other)) true true true true]
    Along Loader.step (fun d move => move.Alone d) {} moves ∧
    launches.Accepts (run Loader.step {} moves).log ∧
    (run Loader.step {} moves).log =
      [.registered 1 (some ⟨.elementwiseAddI32, 0⟩), .loaded 2 1,
        .launched (some 2) (some ⟨.elementwiseAddI32, 0⟩),
        .registered 3 (some ⟨.elementwiseSubI32, 0⟩), .loaded 4 3,
        .launched (some 4) (some ⟨.elementwiseSubI32, 0⟩),
        .launched (some 4) (some ⟨.elementwiseSubI32, 0⟩)] := by
  intro moves
  have hslot : Loader.freeModuleSlot {} = some 0 := by decide +kernel
  have hlibrary : Loader.cuLibraryLoadData {} true = Loader.activate {} 0 none none none true := by
    unfold Loader.cuLibraryLoadData
    rw [hslot]
    rfl
  have halone : Along Loader.step (fun d move => move.Alone d) {} moves := by
    -- at each launch the table is the empty one, written at slot 0
    refine ⟨trivial, trivial, ?_, ?_, ?_, trivial⟩
    all_goals
      intro other hother hact
      rw [Loader.step, hlibrary] at hother hact
      change other ≠ 0 at hother
      repeat
        change (update (_ : Nat → Module) 0 _ other).active = true at hact
        rw [update_of_ne hother] at hact
      cases hact
  exact ⟨halone, launch_runs_selected moves halone, by decide +kernel⟩

/-- **A launch runs another operation.**  Two libraries have the kernel; that of the first is
launched to add, and that of the second to subtract.  When the first is then launched to subtract,
the entry that both share says that its module is made for it, and the launch names the one that
adds. -/
theorem launch_runs_another :
    let d := run Loader.step {}
      [.libraryLoadData true, .libraryLoadData true, .moduleGetFunction 0 addKernel true true,
        .moduleGetFunction 1 addKernel true true,
        .launchKernel 0 (some (.elementwiseAddI32, .other)) true true true true,
        .launchKernel 1 (some (.elementwiseSubI32, .other)) true true true true,
        .launchKernel 0 (some (.elementwiseSubI32, .other)) true true true true]
    d.log.getLast? = some (.launched (some 2) (some ⟨.elementwiseSubI32, 0⟩)) ∧
    d.view.runs 2 = some ⟨.elementwiseAddI32, 0⟩ ∧ ¬ launches.Accepts d.log := by
  intro d
  have hlog : d.log =
      [.registered 1 (some ⟨.elementwiseAddI32, 0⟩), .loaded 2 1,
        .launched (some 2) (some ⟨.elementwiseAddI32, 0⟩),
        .registered 3 (some ⟨.elementwiseSubI32, 0⟩), .loaded 4 3,
        .launched (some 4) (some ⟨.elementwiseSubI32, 0⟩)] ++
      [.launched (some 2) (some ⟨.elementwiseSubI32, 0⟩)] := by decide +kernel
  refine ⟨by rw [hlog]; rfl, ?_, ?_⟩
  · decide +kernel
  · rw [hlog, Monitor.accepts_snoc]
    rintro ⟨-, hlast⟩
    exact absurd (show Option.bind _ _ = some _ from hlast) (by decide +kernel)

end MetaFlux.Cuda
