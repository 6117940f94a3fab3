/-
# The handles of the CUDA driver

A context, module, library, function, kernel, stream or event is handed out as one 64-bit value that
packs the tag of its kind, its index in a table and a generation.  The model is of the calls that
create, look up and destroy such objects; what the registry, the daemon and the images say in them
is a parameter of the call.

Two ghosts record what the code does not: `uses` is how often a slot has been activated, which tells
objects apart even where their generations do not, and `issued` is every value handed out, with the
object it was handed out for.
-/
import MetaFlux.Base.Fields
import MetaFlux.Base.Run

namespace MetaFlux.Cuda

open Base

/-! ## 1. Values -/

def objectCapacity : Nat := 128
def moduleCapacity : Nat := 4096
def kernelEntryMax : Nat := 2714
def indexNone : Nat := 2 ^ 32 - 1

inductive Kind where
  | context | module | function | stream | event
deriving DecidableEq, Repr

/-- The two letters of the tag. -/
def Kind.code : Kind → Nat
  | .context => 0x4355
  | .module => 0x4d4f
  | .function => 0x4655
  | .stream => 0x5354
  | .event => 0x4556

def Kind.tag (kind : Kind) : Nat := kind.code <<< 48

/-- The object type of the registry; functions have that of modules. -/
def Kind.objectType : Kind → Nat
  | .context => 1
  | .module | .function => 7
  | .stream => 2
  | .event => 8

def Kind.capacity : Kind → Nat
  | .module => moduleCapacity
  | _ => objectCapacity

def tagMask : Nat := (2 ^ 16 - 1) <<< 48
def indexMask : Nat := (2 ^ 16 - 1) <<< 32
def generationMask : Nat := 2 ^ 32 - 1

def token (tag index generation : Nat) : Nat := tag ||| ((index + 1) <<< 32) ||| generation

def decode (value tag : Nat) : Option (Nat × Nat) :=
  let encodedIndex := (value &&& indexMask) >>> 32
  if value &&& tagMask ≠ tag ∨ encodedIndex = 0 ∨ moduleCapacity < encodedIndex ∨
      value &&& generationMask = 0 then
    none
  else some (encodedIndex - 1, value &&& generationMask)

/-- Zero is skipped. -/
def nextGeneration (generation : Nat) : Nat :=
  if (generation + 1) % 2 ^ 32 = 0 then 1 else (generation + 1) % 2 ^ 32

structure Handle where
  objectId : Nat := 0
  objectGeneration : Nat := 0
  objectType : Nat := 0
deriving DecidableEq, Repr

abbrev Name : Type := List Char

/-- A record of one of the tables. -/
structure Record where
  id : Nat := 0
  generation : Nat := 0
  active : Bool := false
  objectType : Nat := 0
  ownerContext : Nat := 0
  aux : Nat := 0
  handle : Handle := {}
  name : Name := []
  uses : Nat := 0
deriving DecidableEq, Repr

structure KernelEntry where
  moduleIndex : Nat
  moduleGeneration : Nat
  name : Name
deriving DecidableEq, Repr

/-- An object that a value is handed out for: the activation of a record, or a kernel entry. -/
inductive Thing where
  | record (kind : Kind) (index uses : Nat)
  | kernel (entry : Nat)
deriving DecidableEq, Repr

structure Driver where
  records : Kind → Nat → Record := fun _ _ => {}
  deferred : Nat → Bool := fun _ => false
  images : Nat → List Name := fun _ => []
  parsed : Nat → Bool := fun _ => false
  entries : List KernelEntry := []
  nextId : Nat := 0
  issued : List (Nat × Thing) := []

/-- What a lookup comes to: a refusal, a read outside the table, or an object. -/
inductive Outcome where
  | refused | outside
  | found (index : Nat)
deriving DecidableEq, Repr

namespace Driver

variable (d : Driver)

def setRecord (kind : Kind) (index : Nat) (record : Record) : Driver :=
  { d with
    records := fun k i => if k = kind ∧ i = index then record else d.records k i }

def deactivate (kind : Kind) (index : Nat) : Driver :=
  d.setRecord kind index { d.records kind index with active := false }

def issue (value : Nat) (thing : Thing) : Driver :=
  { d with issued := d.issued ++ [(value, thing)] }

def nextIdOf (id : Nat) : Nat := if (id + 1) % 2 ^ 64 = 0 then 1 else (id + 1) % 2 ^ 64

def freeSlot (kind : Kind) : Option Nat :=
  (List.range kind.capacity).find? fun index => !(d.records kind index).active

/-- The record as it is activated; `registered` is whether the registry makes a handle for it. -/
def activate (kind : Kind) (index owner : Nat) (registered : Bool) : Driver :=
  let old := d.records kind index
  let generation := nextGeneration old.generation
  let id := nextIdOf d.nextId
  { d.setRecord kind index
      { old with
        generation
        id
        objectType := kind.objectType
        ownerContext := owner
        active := registered
        handle := if registered then ⟨id, generation, kind.objectType⟩ else old.handle
        uses := old.uses + 1 } with
    nextId := id }

/-- The value of the record as it is. -/
def valueOf (kind : Kind) (index : Nat) : Nat :=
  token kind.tag index (d.records kind index).generation

/-- A record is handed out. -/
def handOut (kind : Kind) (index : Nat) : Option Nat × Driver :=
  (some (d.valueOf kind index),
    d.issue (d.valueOf kind index) (.record kind index (d.records kind index).uses))

/-- An object in a free slot.  What follows the activation may fail, and then it is undone. -/
def create (kind : Kind) (owner : Nat → Nat) (aux : Option Nat) (name : Name)
    (registered acquired : Bool) : Option Nat × Driver :=
  match d.freeSlot kind with
  | none => (none, d)
  | some index =>
    let activated := d.activate kind index (owner index) registered
    if registered = false then (none, activated)
    else if acquired = false then (none, activated.deactivate kind index)
    else
      let record := activated.records kind index
      (activated.setRecord kind index { record with aux := aux.getD record.aux, name }).handOut
        kind index

/-! ## 3. Lookups -/

/-- The record passes for an object of the type in that generation; `passes` is what the registry
says to its handle. -/
def validate (record : Record) (generation objectType : Nat) (passes : Bool) : Bool :=
  decide (record.active = true ∧ record.generation = generation ∧ record.objectType = objectType ∧
    record.handle.objectId = record.id ∧ record.handle.objectGeneration = record.generation ∧
    record.handle.objectType = objectType) && passes

/-- The bound of an index goes by the object type, so that functions have that of modules. -/
def lookupBound (objectType : Nat) : Nat :=
  if objectType = Kind.module.objectType then moduleCapacity else objectCapacity

/-- An index below the bound may lie past the end of the table. -/
def lookupToken (kind : Kind) (value : Nat) (passes : Bool) : Outcome :=
  match decode value kind.tag with
  | none => .refused
  | some (index, generation) =>
    if lookupBound kind.objectType ≤ index then .refused
    else if kind.capacity ≤ index then .outside
    else if validate (d.records kind index) generation kind.objectType passes then .found index
    else .refused

/-- A value that is refused is decoded once more, to tell a context that is destroyed; the index is
not compared with the capacity of the table then. -/
def contextLookup (value : Nat) (passes : Bool) : Outcome :=
  match d.lookupToken .context value passes with
  | .found index => .found index
  | other =>
    match decode value Kind.context.tag with
    | none => other
    | some (index, _) => if objectCapacity ≤ index then .outside else other

def kernelDecode (value : Nat) (passes : Bool) : Outcome :=
  match decode value Kind.function.tag with
  | none => .refused
  | some (index, generation) =>
    if index = 0 then .refused
    else
      match d.entries[index - 1]? with
      | none => .refused
      | some entry =>
        if moduleCapacity ≤ entry.moduleIndex ∨ entry.moduleGeneration ≠ generation ∨
            d.deferred entry.moduleIndex = false then
          .refused
        else if validate (d.records .module entry.moduleIndex) generation Kind.module.objectType
            passes then
          .found (index - 1)
        else .refused

/-! ## 4. Calls -/

def cuCtxCreate (registered acquired : Bool) : Option Nat × Driver :=
  d.create .context id none [] registered acquired

/-- A primary context that exists is handed out again. -/
def cuDevicePrimaryCtxRetain (index : Nat) : Option Nat × Driver :=
  if (d.records .context index).active then d.handOut .context index else (none, d)

def cuStreamCreate (context : Nat) (registered : Bool) : Option Nat × Driver :=
  d.create .stream (fun _ => context) none [] registered true

def cuEventCreate (context : Nat) (registered : Bool) : Option Nat × Driver :=
  d.create .event (fun _ => context) (some 0) [] registered true

def cuModuleLoadData (context : Nat) (loaded registered : Bool) : Option Nat × Driver :=
  if loaded then d.create .module (fun _ => context) none [] registered true else (none, d)

/-- A library is a module whose image is kept, with the kernels it names. -/
def cuLibraryLoadData (image : List Name) (registered : Bool) : Option Nat × Driver :=
  match d.freeSlot .module with
  | none => (none, d)
  | some index =>
    let created := d.create .module (fun _ => indexNone) none [] registered true
    if registered then
      (created.1,
        { created.2 with
          deferred := fun i => if i = index then true else created.2.deferred i
          images := fun i => if i = index then image else created.2.images i })
    else created

/-- A function that has been looked up before is found again.  Names are stored in 511 characters.
-/
def cuModuleGetFunction (value : Nat) (name : Name) (passes loaded registered : Bool) :
    Option Nat × Driver :=
  if name = [] then (none, d)
  else
    match d.lookupToken .module value passes with
    | .found moduleIndex =>
      if loaded = false then (none, d)
      else
        match (List.range objectCapacity).find? fun index =>
            (d.records .function index).active && (d.records .function index).aux == moduleIndex &&
              (d.records .function index).name == name with
        | some index => d.handOut .function index
        | none =>
          d.create .function (fun _ => (d.records .module moduleIndex).ownerContext)
            (some moduleIndex) (name.take 511) registered true
    | _ => (none, d)

/-- The names of a module's image become kernel entries, as long as there is room. -/
def parseKernels (moduleIndex generation : Nat) : Driver :=
  if d.parsed moduleIndex then d
  else
    let found := (d.images moduleIndex).map (KernelEntry.mk moduleIndex generation)
    { d with
      parsed := fun i => if i = moduleIndex then true else d.parsed i
      entries := d.entries ++ found.take (kernelEntryMax - d.entries.length) }

/-- A kernel entry is handed out: in the tag of functions, with the generation of its module. -/
def handOutKernel (entry generation : Nat) : Option Nat × Driver :=
  (some (token Kind.function.tag (entry + 1) generation),
    d.issue (token Kind.function.tag (entry + 1) generation) (.kernel entry))

def ofModule (moduleIndex generation : Nat) (entry : KernelEntry) : Bool :=
  entry.moduleIndex == moduleIndex && entry.moduleGeneration == generation

def cuLibraryGetKernel (value : Nat) (name : Name) (passes loaded registered : Bool) :
    Option Nat × Driver :=
  if name = [] then (none, d)
  else
    match d.lookupToken .module value passes with
    | .found moduleIndex =>
      if d.deferred moduleIndex = false then d.cuModuleGetFunction value name passes
        loaded registered
      else
        let generation := (d.records .module moduleIndex).generation
        let parsed := d.parseKernels moduleIndex generation
        match parsed.entries.findIdx? fun entry =>
            ofModule moduleIndex generation entry && entry.name == name with
        | some entry => parsed.handOutKernel entry generation
        | none => (none, parsed)
    | _ => (none, d)

def cuLibraryGetKernelCount (value : Nat) (passes : Bool) : Option Nat × Driver :=
  match d.lookupToken .module value passes with
  | .found moduleIndex =>
    if d.deferred moduleIndex = false then (none, d)
    else
      let generation := (d.records .module moduleIndex).generation
      let parsed := d.parseKernels moduleIndex generation
      (some (parsed.entries.countP (ofModule moduleIndex generation)), parsed)
  | _ => (none, d)

/-- The first `count` kernels of a library, one after the other. -/
def cuLibraryEnumerateKernels (value count : Nat) (passes : Bool) : List Nat × Driver :=
  match d.lookupToken .module value passes with
  | .found moduleIndex =>
    if d.deferred moduleIndex = false then ([], d)
    else
      let generation := (d.records .module moduleIndex).generation
      let parsed := d.parseKernels moduleIndex generation
      let kernels := ((List.range parsed.entries.length).filter fun entry =>
        (parsed.entries[entry]?).any (ofModule moduleIndex generation)).take count
      (kernels.map fun entry => token Kind.function.tag (entry + 1) generation,
        kernels.foldl (fun d entry => (d.handOutKernel entry generation).2) parsed)
  | _ => ([], d)

def cuKernelGetFunction (value : Nat) (passes passesModule loaded registered : Bool) :
    Option Nat × Driver :=
  match d.kernelDecode value passes with
  | .found index =>
    match d.entries[index]? with
    | some entry =>
      d.cuModuleGetFunction (d.valueOf .module entry.moduleIndex) entry.name passesModule loaded
        registered
    | none => (none, d)
  | _ => (none, d)

/-- The records of a table that satisfy the condition lapse. -/
def invalidate (kind : Kind) (lapses : Record → Bool) : Driver :=
  (List.range objectCapacity).foldl (fun d index =>
    if (d.records kind index).active && lapses (d.records kind index) then d.deactivate kind index
    else d) d

/-- A module is unloaded, with its functions and the tables beside it. -/
def releaseModule (moduleIndex : Nat) (released : Bool) : Driver :=
  if released = false then d
  else
    let lapsed := (d.deactivate .module moduleIndex).invalidate .function (·.aux == moduleIndex)
    { lapsed with
      deferred := fun i => if i = moduleIndex then false else lapsed.deferred i
      images := fun i => if i = moduleIndex then [] else lapsed.images i
      parsed := fun i => if i = moduleIndex then false else lapsed.parsed i }

def cuModuleUnload (value : Nat) (passes released : Bool) : Driver :=
  match d.lookupToken .module value passes with
  | .found moduleIndex => d.releaseModule moduleIndex released
  | _ => d

def cuStreamDestroy (value context : Nat) (passes : Bool) : Driver :=
  match d.lookupToken .stream value passes with
  | .found index =>
    if (d.records .stream index).ownerContext = context then d.deactivate .stream index else d
  | _ => d

def cuEventDestroy (value : Nat) (passes : Bool) : Driver :=
  match d.lookupToken .event value passes with
  | .found index => d.deactivate .event index
  | _ => d

/-- The modules of a context, up to the first that is not released. -/
def releaseModules (d : Driver) (context : Nat) (releases : Nat → Bool) :
    List Nat → Bool × Driver
  | [] => (true, d)
  | index :: rest =>
    if (d.records .module index).active && (d.records .module index).ownerContext == context then
      if releases index then (d.releaseModule index true).releaseModules context releases rest
      else (false, d)
    else d.releaseModules context releases rest

/-- What is in a context goes with it; `cleaned` is whether its memories and caches are released,
and `finished` whether the daemon lets go of it. -/
def cuCtxDestroy (value : Nat) (passes : Bool) (releases : Nat → Bool)
    (cleaned finished : Bool) : Driver :=
  match d.contextLookup value passes with
  | .found index =>
    let released := d.releaseModules index releases (List.range moduleCapacity)
    if released.1 = false ∨ cleaned = false then released.2
    else
      let alone := ((released.2.invalidate .function (·.ownerContext == index)).invalidate .stream
        (·.ownerContext == index)).invalidate .event (·.ownerContext == index)
      if finished then alone.deactivate .context index else alone
  | _ => d

end Driver

end MetaFlux.Cuda
