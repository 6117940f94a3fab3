/-
# Who owns a context

A primary context is shared: `cuDevicePrimaryCtxRetain` counts its owners in the context's record,
and the release of the last one tears the context down.  The release decides that from the count,
and then waits for the context's work (`mf_cuda_reset_context_state_locked`) with the driver's lock
let go, while the record is still active.

* §1 is the code, cut there.  Acquiring and releasing a context at the daemon are control calls,
  which do not let go of the lock; so a creation is one step, and the end of a teardown is one.
* §2 is the invariant, and what keeps it (`ContextMove.Clear`): nobody retains, releases or destroys
  a context that is being torn down.
* §3: then contexts have owners (`contexts_owned`).  A retain in the middle of a teardown is given a
  context that dies with it, and a second release tears the context down again (`owner_lost`).

How the wait ends is a parameter (`Cuda/Waits.lean` has the waits themselves).  Contexts are
numbered in the order of their creation, as a slot and its generation come back.
-/
import MetaFlux.Base.Calls
import MetaFlux.Cuda.Handles

open Function

namespace MetaFlux.Cuda

open Base List

/-! ## 1. The calls, cut where they wait -/

/-- `aux` counts the owners of a primary context. -/
structure Context where
  active : Bool := false
  primary : Bool := false
  aux : Nat := 0
  device : Nat := 0
  generation : Nat := 0
  serial : Nat := 0
deriving DecidableEq, Repr

/-- A call that waits.  A teardown is that of a release, which was for the context with this number,
or that of a destruction. -/
inductive ContextCall where
  | tearing (slot : Nat) (release : Option Nat)
  | resetting (slot : Nat)
deriving DecidableEq, Repr

/-- `acquired` and `released` are the control calls that the daemon has granted; `retains` and
`releases` are, for each context, the calls that have succeeded, and `torn` the contexts that were
torn down. -/
structure Owners where
  contexts : Nat → Context := fun _ => {}
  calls : Nat → Option ContextCall := fun _ => none
  nextSerial : Nat := 0
  acquired : Nat := 0
  released : Nat := 0
  retains : Nat → Nat := fun _ => 0
  releases : Nat → Nat := fun _ => 0
  torn : List Nat := []

/-- The answers of the registry and the daemon to a creation: the device is there, a handle is made
for the record, and the context is acquired. -/
structure CreateAnswers where
  known : Bool
  handled : Bool
  acquired : Bool

namespace Owners

variable (d : Owners)

def freeSlot : Option Nat :=
  (List.range objectCapacity).find? fun slot => !(d.contexts slot).active

/-- The record of the device's primary context. -/
def primaryOf (device : Nat) : Option Nat :=
  (List.range objectCapacity).find? fun slot =>
    (d.contexts slot).active && (d.contexts slot).primary && (d.contexts slot).device == device

def setCall (thread : Nat) (call : Option ContextCall) : Owners :=
  { d with calls := update d.calls thread call }

def setContext (slot : Nat) (c : Context) : Owners :=
  { d with contexts := update d.contexts slot c }

/-- `mf_cuda_create_context_locked`. -/
def create (device : Nat) (primary : Bool) (answers : CreateAnswers) : Owners :=
  if answers.known = false then d
  else
    match d.freeSlot with
    | none => d
    | some slot =>
      let record := { d.contexts slot with
        generation := nextGeneration (d.contexts slot).generation
        device := device
        serial := d.nextSerial }
      if answers.handled && answers.acquired then
        { d.setContext slot { record with
            active := true, primary := primary, aux := if primary then 1 else 0 } with
          nextSerial := d.nextSerial + 1
          acquired := d.acquired + 1
          retains :=
            if primary then update d.retains d.nextSerial (d.retains d.nextSerial + 1)
            else d.retains }
      else { d.setContext slot record with nextSerial := d.nextSerial + 1 }

def cuCtxCreate (thread device : Nat) (answers : CreateAnswers) : Owners :=
  if d.calls thread ≠ none then d else d.create device false answers

def cuDevicePrimaryCtxRetain (thread device : Nat) (validates : Bool)
    (answers : CreateAnswers) : Owners :=
  if d.calls thread ≠ none then d
  else
    match d.primaryOf device with
    | none => d.create device true answers
    | some slot =>
      let c := d.contexts slot
      if validates = false ∨ c.aux = 2 ^ 32 - 1 then d
      else
        { d.setContext slot { c with aux := c.aux + 1 } with
          retains := update d.retains c.serial (d.retains c.serial + 1) }

/-- `cuCtxDestroy_v2`, up to the wait; primary contexts are refused. -/
def cuCtxDestroy (thread slot generation : Nat) (validates : Bool) : Owners :=
  if d.calls thread ≠ none ∨ objectCapacity ≤ slot ∨ (d.contexts slot).active = false ∨
      (d.contexts slot).generation ≠ generation ∨ validates = false ∨
      (d.contexts slot).primary = true then d
  else d.setCall thread (some (.tearing slot none))

/-- `cuDevicePrimaryCtxRelease_v2`: one owner less, or up to the wait of the teardown. -/
def cuDevicePrimaryCtxRelease (thread device : Nat) (validates : Bool) : Owners :=
  if d.calls thread ≠ none then d
  else
    match d.primaryOf device with
    | none => d
    | some slot =>
      let c := d.contexts slot
      if 1 < c.aux then
        { d.setContext slot { c with aux := c.aux - 1 } with
          releases := update d.releases c.serial (d.releases c.serial + 1) }
      else if validates then d.setCall thread (some (.tearing slot (some c.serial)))
      else d

/-- `cuDevicePrimaryCtxReset_v2`, up to the wait. -/
def cuDevicePrimaryCtxReset (thread device : Nat) : Owners :=
  if d.calls thread ≠ none then d
  else
    match d.primaryOf device with
    | none => d
    | some slot => d.setCall thread (some (.resetting slot))

def resetEnd (thread : Nat) : Owners :=
  match d.calls thread with
  | some (.resetting _) => d.setCall thread none
  | _ => d

/-- The end of a teardown: `cleaned` is that the context's work and children are gone, `released`
that the daemon lets go of the context.  The record is the one that was found before the wait. -/
def tearEnd (thread : Nat) (cleaned released : Bool) : Owners :=
  match d.calls thread with
  | some (.tearing slot release) =>
    if cleaned && released then
      { (d.setContext slot { d.contexts slot with active := false }).setCall thread none with
        released := d.released + 1
        torn := d.torn ++ [(d.contexts slot).serial]
        releases :=
          match release with
          | none => d.releases
          | some serial => update d.releases serial (d.releases serial + 1) }
    else d.setCall thread none
  | _ => d

end Owners

inductive ContextMove where
  | create (thread device : Nat) (answers : CreateAnswers)
  | retain (thread device : Nat) (validates : Bool) (answers : CreateAnswers)
  | destroy (thread slot generation : Nat) (validates : Bool)
  | release (thread device : Nat) (validates : Bool)
  | reset (thread device : Nat)
  | resetEnd (thread : Nat)
  | tearEnd (thread : Nat) (cleaned released : Bool)

def Owners.step (d : Owners) : ContextMove → Owners
  | .create thread device answers => d.cuCtxCreate thread device answers
  | .retain thread device validates answers =>
    d.cuDevicePrimaryCtxRetain thread device validates answers
  | .destroy thread slot generation validates => d.cuCtxDestroy thread slot generation validates
  | .release thread device validates => d.cuDevicePrimaryCtxRelease thread device validates
  | .reset thread device => d.cuDevicePrimaryCtxReset thread device
  | .resetEnd thread => d.resetEnd thread
  | .tearEnd thread cleaned released => d.tearEnd thread cleaned released

/-! ## 2. The invariant -/

namespace Owners

/-- The contexts that are alive. -/
def live (d : Owners) : Finset Nat :=
  (Finset.range objectCapacity).filter fun slot => (d.contexts slot).active = true

/-- No call under way tears the context in this slot down. -/
def Stays (d : Owners) (slot : Nat) : Prop :=
  ∀ thread release, d.calls thread ≠ some (.tearing slot release)

/-- What a teardown relies on: a destruction's context is not shared, and a release's has one owner.
-/
def Relies (d : Owners) (slot : Nat) : Option Nat → Prop
  | none => (d.contexts slot).primary = false
  | some serial => (d.contexts slot).primary = true ∧ (d.contexts slot).aux = 1 ∧
    (d.contexts slot).serial = serial

structure Inv (d : Owners) : Prop where
  slots : ∀ {i}, (d.contexts i).active = true → i < objectCapacity
  serials : ∀ {i}, (d.contexts i).active = true →
    (d.contexts i).serial < d.nextSerial ∧ (d.contexts i).serial ∉ d.torn
  named : ∀ {i j}, (d.contexts i).active = true → (d.contexts j).active = true →
    (d.contexts i).serial = (d.contexts j).serial → i = j
  one : ∀ {i j}, (d.contexts i).active = true → (d.contexts j).active = true →
    (d.contexts i).primary = true → (d.contexts j).primary = true →
    (d.contexts i).device = (d.contexts j).device → i = j
  owned : ∀ {i}, (d.contexts i).active = true → (d.contexts i).primary = true →
    0 < (d.contexts i).aux ∧
      d.retains (d.contexts i).serial = d.releases (d.contexts i).serial + (d.contexts i).aux
  settled : ∀ {serial}, (∀ i, (d.contexts i).active = true → (d.contexts i).primary = true →
    (d.contexts i).serial ≠ serial) → d.retains serial = d.releases serial
  below : ∀ {serial}, serial ∈ d.torn → serial < d.nextSerial
  once : d.torn.Nodup
  accounted : d.acquired = d.released + d.live.card
  relies : ∀ {thread slot release}, d.calls thread = some (.tearing slot release) →
    (d.contexts slot).active = true ∧ d.Relies slot release
  lone : ∀ {t t' slot release release'}, d.calls t = some (.tearing slot release) →
    d.calls t' = some (.tearing slot release') → t = t'

end Owners

/-- What a step has to meet: the context that it is about is not being torn down. -/
def ContextMove.Clear (d : Owners) : ContextMove → Prop
  | .retain _ device _ _ | .release _ device _ =>
    ∀ slot, d.primaryOf device = some slot → d.Stays slot
  | .destroy _ slot _ _ => d.Stays slot
  | _ => True

namespace Owners

variable {d : Owners} {slot i : Nat}

theorem Inv.start : Inv {} := by
  constructor <;> simp [live]

theorem primaryOf_eq_some {device : Nat} (h : d.primaryOf device = some slot) :
    (d.contexts slot).active = true ∧ (d.contexts slot).primary = true ∧
      (d.contexts slot).device = device := by
  have hfound := find?_some h
  simp only [Bool.and_eq_true, beq_iff_eq] at hfound
  exact ⟨hfound.1.1, hfound.1.2, hfound.2⟩

@[simp] theorem setContext_self (slot : Nat) (c : Context) :
    (d.setContext slot c).contexts slot = c := update_self _ _ _

theorem setContext_of_ne (c : Context) (h : i ≠ slot) :
    (d.setContext slot c).contexts i = d.contexts i := update_of_ne h _ _

/-! The number of contexts that are alive, when one record changes. -/

variable {c : Context}

theorem live_same (h : c.active = (d.contexts slot).active) :
    (d.setContext slot c).live = d.live := by
  refine Finset.filter_congr fun i _ => ?_
  by_cases hi : i = slot
  · rw [hi, setContext_self, h]
  · rw [setContext_of_ne c hi]

theorem live_more (hslot : slot < objectCapacity)
    (hidle : (d.contexts slot).active = false) (h : c.active = true) :
    (d.setContext slot c).live.card = d.live.card + 1 := by
  have hnot : slot ∉ d.live := by simp [live, hidle]
  have hlive : (d.setContext slot c).live = insert slot d.live := by
    ext i
    by_cases hi : i = slot
    · simp [live, hi, hslot, h]
    · simp [live, hi, setContext_of_ne c hi]
  rw [hlive, Finset.card_insert_of_notMem hnot]

/-! What each change keeps. -/

section

variable (h : Inv d)

include h

/-- A call ends, or waits for something else than the end of a teardown. -/
theorem Inv.setCall (thread : Nat) {call : Option ContextCall}
    (hcall : ∀ slot release, call = some (.tearing slot release) →
      (d.contexts slot).active = true ∧ d.Relies slot release ∧ d.Stays slot) :
    Inv (d.setCall thread call) := by
  refine { h with relies := ?_, lone := ?_ }
  · intro t slot release ht
    rcases update_eq_some ht with ⟨-, hnew⟩ | ⟨-, hold⟩
    · exact ⟨(hcall slot release hnew).1, (hcall slot release hnew).2.1⟩
    · exact h.relies hold
  · intro t t' slot release release' ht ht'
    refine eq_of_alike (P := fun c => ∃ release, c = some (ContextCall.tearing slot release))
      (r := fun _ _ => True) (fun _ hne => update_of_ne hne _ _) id ?_
      (fun ⟨_, hold⟩ ⟨_, hold'⟩ _ => h.lone hold hold') ⟨_, ht⟩ ⟨_, ht'⟩ trivial
    rintro t - ⟨release, hold⟩ ⟨release', hnew⟩ -
    simp only [Owners.setCall, update_self] at hnew
    exact (hcall slot release' hnew).2.2 t release hold

theorem Inv.ended (thread : Nat) : Inv (d.setCall thread none) :=
  h.setCall thread nofun

theorem Inv.stays_of_idle (hidle : (d.contexts slot).active = false) : d.Stays slot := by
  intro thread release hcall
  have hact := (h.relies hcall).1
  rw [hidle] at hact
  cases hact

/-- A context that is not there yet. -/
theorem Inv.fresh : d.retains d.nextSerial = d.releases d.nextSerial :=
  h.settled fun _ hact _ => Nat.ne_of_lt (h.serials hact).1

omit h in
theorem ne_of_idle (hidle : (d.contexts slot).active = false)
    (hi : (d.contexts i).active = true) : i ≠ slot := by
  rintro rfl
  rw [hidle] at hi
  cases hi

/-- **A record changes**, and the counts with it.  What is asked of the new record is asked beside
the others, whose counts stay. -/
theorem Inv.put {d' : Owners}
    (hcontexts : d'.contexts = (d.setContext slot c).contexts) (hcalls : d'.calls = d.calls)
    (hstays : d.Stays slot) (hothers : ∀ i, i ≠ slot → (d.contexts i).active = true →
      ((d.contexts i).serial < d'.nextSerial ∧ (d.contexts i).serial ∉ d'.torn) ∧
        d'.retains (d.contexts i).serial = d.retains (d.contexts i).serial ∧
        d'.releases (d.contexts i).serial = d.releases (d.contexts i).serial)
    (hnew : c.active = true →
      slot < objectCapacity ∧ (c.serial < d'.nextSerial ∧ c.serial ∉ d'.torn) ∧
        (∀ i, i ≠ slot → (d.contexts i).active = true → (d.contexts i).serial ≠ c.serial) ∧
        (c.primary = true →
          (∀ i, i ≠ slot → (d.contexts i).active = true → (d.contexts i).primary = true →
            (d.contexts i).device ≠ c.device) ∧
          0 < c.aux ∧ d'.retains c.serial = d'.releases c.serial + c.aux)) (hsettled : ∀ serial,
      (∀ i, i ≠ slot → (d.contexts i).active = true → (d.contexts i).primary = true →
        (d.contexts i).serial ≠ serial) →
      (c.active = true → c.primary = true → c.serial ≠ serial) →
      d'.retains serial = d'.releases serial)
    (hbelow : ∀ serial ∈ d'.torn, serial < d'.nextSerial) (honce : d'.torn.Nodup)
    (haccounted : d'.acquired = d'.released + (d.setContext slot c).live.card) : Inv d' := by
  have hself : d'.contexts slot = c := by rw [hcontexts, setContext_self]
  have hother : ∀ {i}, i ≠ slot → d'.contexts i = d.contexts i := fun hi => by
    rw [hcontexts, setContext_of_ne c hi]
  -- an active record is the new one, or one from before
  have hcases : ∀ {i}, (d'.contexts i).active = true →
      (i = slot ∧ d'.contexts i = c ∧ c.active = true) ∨
        i ≠ slot ∧ d'.contexts i = d.contexts i ∧ (d.contexts i).active = true := by
    intro i hi
    by_cases hs : i = slot
    · subst hs
      exact .inl ⟨rfl, hself, hself ▸ hi⟩
    · exact .inr ⟨hs, hother hs, hother hs ▸ hi⟩
  constructor
  case slots =>
    intro i hi
    rcases hcases hi with ⟨rfl, -, hc⟩ | ⟨-, -, hwas⟩
    · exact (hnew hc).1
    · exact h.slots hwas
  case serials =>
    intro i hi
    rcases hcases hi with ⟨-, hsame, hc⟩ | ⟨hne, hsame, hwas⟩
    · rw [hsame]
      exact (hnew hc).2.1
    · rw [hsame]
      exact (hothers i hne hwas).1
  case named =>
    refine eq_of_alike (P := (·.active = true)) (r := (·.serial = ·.serial))
      (fun _ => hother) Eq.symm ?_ h.named
    rw [hself]
    exact fun i hne hi hc => (hnew hc).2.2.1 i hne hi
  case one =>
    intro i j hi hj hprim hprim' hdev
    refine eq_of_alike (P := (·.active = true))
      (r := fun a b => a.primary = true ∧ b.primary = true ∧ a.device = b.device) (fun _ => hother)
      (fun ⟨ha, hb, hab⟩ => ⟨hb, ha, hab.symm⟩) ?_ ?_ hi hj ⟨hprim, hprim', hdev⟩
    · rw [hself]
      exact fun i hne hi hc ⟨ha, hb, hab⟩ => ((hnew hc).2.2.2 hb).1 i hne hi ha hab
    · exact fun hi hj ⟨ha, hb, hab⟩ => h.one hi hj ha hb hab
  case owned =>
    intro i hi hprim
    rcases hcases hi with ⟨-, hsame, hc⟩ | ⟨hne, hsame, hwas⟩
    · rw [hsame] at hprim ⊢
      exact ((hnew hc).2.2.2 hprim).2
    · rw [hsame] at hprim ⊢
      rw [(hothers i hne hwas).2.1, (hothers i hne hwas).2.2]
      exact h.owned hwas hprim
  case settled =>
    intro serial hnone
    refine hsettled serial (fun i hi => ?_) ?_
    · rw [← hother hi]
      exact hnone i
    · rw [← hself]
      exact hnone slot
  case below => exact hbelow _
  case once => exact honce
  case accounted =>
    rw [haccounted]
    simp only [live, hcontexts]
  case relies =>
    intro thread s release hcall
    rw [hcalls] at hcall
    have hne : s ≠ slot := by
      rintro rfl
      exact hstays thread release hcall
    unfold Relies
    rw [hother hne]
    exact h.relies hcall
  case lone =>
    rw [hcalls]
    exact h.lone

/-- A slot is used and left idle. -/
theorem Inv.skipped (hidle : (d.contexts slot).active = false)
    (hc : c.active = false) : Inv { d.setContext slot c with nextSerial := d.nextSerial + 1 } := by
  refine h.put rfl rfl (h.stays_of_idle hidle) (fun i _ hi => ?_) (fun hact => ?_)
    (fun serial hnone _ => ?_) (fun serial htorn => Nat.lt_succ_of_lt (h.below htorn)) h.once ?_
  · exact ⟨⟨Nat.lt_succ_of_lt (h.serials hi).1, (h.serials hi).2⟩, rfl, rfl⟩
  · rw [hc] at hact
    cases hact
  · exact h.settled fun i hi => hnone i (ne_of_idle hidle hi) hi
  · rw [live_same (by rw [hc, hidle])]
    exact h.accounted

/-- A context is born: nobody owns it, or one does if it is shared. -/
theorem Inv.born {retains : Nat → Nat}
    (hslot : slot < objectCapacity) (hidle : (d.contexts slot).active = false)
    (hc : c.active = true) (hserial : c.serial = d.nextSerial)
    (hone : c.primary = true → ∀ i, (d.contexts i).active = true → (d.contexts i).primary = true →
      (d.contexts i).device ≠ c.device)
    (hothers : ∀ serial, serial ≠ d.nextSerial → retains serial = d.retains serial)
    (howned : c.primary = true → 0 < c.aux ∧ retains d.nextSerial = d.releases d.nextSerial + c.aux)
    (hfree : c.primary = false → retains d.nextSerial = d.retains d.nextSerial) :
    Inv { d.setContext slot c with
      nextSerial := d.nextSerial + 1, acquired := d.acquired + 1, retains := retains } := by
  have hne : ∀ {i}, (d.contexts i).active = true → (d.contexts i).serial ≠ d.nextSerial :=
    fun hi => Nat.ne_of_lt (h.serials hi).1
  refine h.put rfl rfl (h.stays_of_idle hidle) (fun i _ hi => ?_) (fun _ => ?_)
    (fun serial hnone hnot => ?_) (fun serial htorn => Nat.lt_succ_of_lt (h.below htorn)) h.once ?_
  · exact ⟨⟨Nat.lt_succ_of_lt (h.serials hi).1, (h.serials hi).2⟩, hothers _ (hne hi), rfl⟩
  · rw [hserial]
    refine ⟨hslot, ⟨.refl, fun htorn => lt_irrefl _ (h.below htorn)⟩,
      fun i _ hi => hne hi, fun hprim => ⟨fun i _ => hone hprim i, howned hprim⟩⟩
  · change retains serial = d.releases serial
    by_cases hthis : serial = d.nextSerial
    · subst hthis
      rw [hfree (by simpa using fun hprim => hnot hc hprim hserial), h.fresh]
    · rw [hothers serial hthis]
      exact h.settled fun i hi => hnone i (ne_of_idle hidle hi) hi
  · change d.acquired + 1 = d.released + (d.setContext slot c).live.card
    rw [live_more hslot hidle hc, h.accounted]
    omega

/-- The owners of a shared context become more or fewer. -/
theorem Inv.recount {aux : Nat} {retains releases : Nat → Nat}
    (hact : (d.contexts slot).active = true) (hprim : (d.contexts slot).primary = true)
    (hstays : d.Stays slot) (haux : 0 < aux)
    (hcount : retains (d.contexts slot).serial = releases (d.contexts slot).serial + aux)
    (hothers : ∀ serial, serial ≠ (d.contexts slot).serial →
      retains serial = d.retains serial ∧ releases serial = d.releases serial) :
    Inv { d.setContext slot { d.contexts slot with aux := aux } with
      retains := retains, releases := releases } := by
  have hne : ∀ i, i ≠ slot → (d.contexts i).active = true →
      (d.contexts i).serial ≠ (d.contexts slot).serial :=
    fun i his hi heq => his (h.named hi hact heq)
  refine h.put rfl rfl hstays (fun i his hi => ⟨h.serials hi, hothers _ (hne i his hi)⟩)
    (fun _ => ⟨h.slots hact, h.serials hact, hne, fun _ => ⟨?_, haux, hcount⟩⟩)
    (fun serial hnone hnot => ?_) (fun _ => h.below) h.once ?_
  · exact fun i his hi hshared hdev => his (h.one hi hact hshared hprim hdev)
  · have hthis := (hnot hact hprim).symm
    change retains serial = releases serial
    rw [(hothers serial hthis).1, (hothers serial hthis).2]
    refine h.settled fun i hi hshared => ?_
    by_cases his : i = slot
    · rw [his]
      exact hthis.symm
    · exact hnone i his hi hshared
  · rw [live_same (c := { d.contexts slot with aux }) rfl]
    exact h.accounted

/-- A context is torn down: its last owner has released it, or it has none. -/
theorem Inv.torn {slot : Nat} {releases : Nat → Nat}
    (hact : (d.contexts slot).active = true) (hstays : d.Stays slot)
    (hothers : ∀ serial, serial ≠ (d.contexts slot).serial → releases serial = d.releases serial)
    (hlast : d.retains (d.contexts slot).serial = releases (d.contexts slot).serial) :
    Inv { d.setContext slot { d.contexts slot with active := false } with
      released := d.released + 1
      torn := d.torn ++ [(d.contexts slot).serial]
      releases := releases } := by
  refine h.put rfl rfl hstays (fun i his hi => ?_) (nofun)
    (fun serial hnone _ => ?_) (fun serial htorn => ?_) ?_ ?_
  · have hne : (d.contexts i).serial ≠ (d.contexts slot).serial :=
      fun heq => his (h.named hi hact heq)
    simp only [mem_append, mem_singleton, not_or]
    exact ⟨⟨(h.serials hi).1, (h.serials hi).2, hne⟩, rfl, hothers _ hne⟩
  · change d.retains serial = releases serial
    by_cases hthis : serial = (d.contexts slot).serial
    · rw [hthis, hlast]
    rw [hothers serial hthis]
    refine h.settled fun i hi hprim => ?_
    by_cases hs : i = slot
    · rw [hs]
      exact fun heq => hthis heq.symm
    · exact hnone i hs hi hprim
  · rcases mem_append.1 htorn with hbefore | hlast
    · exact h.below hbefore
    · rw [mem_singleton.1 hlast]
      exact (h.serials hact).1
  · simpa [nodup_append, h.once] using fun _ ha => ne_of_mem_of_not_mem ha (h.serials hact).2
  · change d.acquired = d.released + 1 + (d.setContext slot _).live.card
    -- the context entered again gives the driver back
    have hmore := live_more (d := d.setContext slot { d.contexts slot with active := false })
      (h.slots hact) (by rw [setContext_self]) hact
    rw [show (d.setContext slot _).setContext slot (d.contexts slot) = d by
      simp [setContext]] at hmore
    rw [h.accounted]
    omega

end

/-! What each step keeps. -/

section

variable (h : Inv d)

include h

theorem Inv.create (device : Nat) (primary : Bool) (answers : CreateAnswers)
    (hone : primary = true → d.primaryOf device = none) :
    Inv (d.create device primary answers) := by
  unfold Owners.create
  split
  · exact h
  split
  · exact h
  next slot hslot =>
  have hrange := mem_range.1 (mem_of_find?_eq_some hslot)
  have hidle : (d.contexts slot).active = false := by simpa using find?_some hslot
  split
  · refine h.born hrange hidle rfl rfl ?_ ?_ ?_ ?_
    · intro hprim i hi hshared hdev
      have hnot := find?_eq_none.1 (hone hprim) i (mem_range.2 (h.slots hi))
      simp [hi, hshared, hdev] at hnot
    · intro serial hne
      split
      · exact update_of_ne hne _ _
      · rfl
    · intro hprim
      change primary = true at hprim
      rw [hprim, if_pos rfl, if_pos rfl, update_self, h.fresh]
      exact ⟨Nat.one_pos, rfl⟩
    · intro hprim
      change primary = false at hprim
      rw [hprim]
      rfl
  · exact h.skipped hidle hidle

theorem Inv.retain (thread device : Nat) (validates : Bool) (answers : CreateAnswers)
    (hclear : ∀ slot, d.primaryOf device = some slot → d.Stays slot) :
    Inv (d.cuDevicePrimaryCtxRetain thread device validates answers) := by
  unfold cuDevicePrimaryCtxRetain
  split
  · exact h
  split
  · next hnone => exact h.create device true answers fun _ => hnone
  next slot hslot =>
  obtain ⟨hact, hprim, -⟩ := primaryOf_eq_some hslot
  obtain ⟨-, hcount⟩ := h.owned hact hprim
  dsimp only
  split
  · exact h
  · refine h.recount hact hprim (hclear slot hslot) (Nat.succ_pos _) ?_ ?_
    · rw [update_self, hcount]
      rfl
    · exact fun serial hne => ⟨update_of_ne hne _ _, rfl⟩

theorem Inv.destroy (thread slot generation : Nat) (validates : Bool)
    (hclear : d.Stays slot) : Inv (d.cuCtxDestroy thread slot generation validates) := by
  unfold cuCtxDestroy
  split
  · exact h
  · next hnot =>
    simp only [not_or, Bool.not_eq_false, Bool.not_eq_true] at hnot
    refine h.setCall thread fun s release hcall => ?_
    cases hcall
    exact ⟨hnot.2.2.1, hnot.2.2.2.2.2, hclear⟩

theorem Inv.release (thread device : Nat) (validates : Bool)
    (hclear : ∀ slot, d.primaryOf device = some slot → d.Stays slot) :
    Inv (d.cuDevicePrimaryCtxRelease thread device validates) := by
  unfold cuDevicePrimaryCtxRelease
  split
  · exact h
  split
  · exact h
  next slot hslot =>
  obtain ⟨hact, hprim, -⟩ := primaryOf_eq_some hslot
  obtain ⟨hpos, hcount⟩ := h.owned hact hprim
  dsimp only
  split
  · refine h.recount hact hprim (hclear slot hslot) (by omega) ?_ ?_
    · change d.retains _ = _
      rw [update_self]
      omega
    · exact fun serial hne => ⟨rfl, update_of_ne hne _ _⟩
  · split
    · refine h.setCall thread fun s release hcall => ?_
      cases hcall
      exact ⟨hact, ⟨hprim, by omega, rfl⟩, hclear slot hslot⟩
    · exact h

theorem Inv.reset (thread device : Nat) : Inv (d.cuDevicePrimaryCtxReset thread device) := by
  unfold cuDevicePrimaryCtxReset
  split
  · exact h
  · split
    · exact h
    · exact h.setCall thread nofun

theorem Inv.resetEnd (thread : Nat) : Inv (d.resetEnd thread) := by
  unfold Owners.resetEnd
  split
  · exact h.ended thread
  · exact h

theorem Inv.tearEnd (thread : Nat) (cleaned released : Bool) :
    Inv (d.tearEnd thread cleaned released) := by
  unfold Owners.tearEnd
  split
  · next slot release hcall =>
    obtain ⟨hact, hrelies⟩ := h.relies hcall
    have hended := h.ended thread
    -- the call was the only one that tore this context down
    have hstays : (d.setCall thread none).Stays slot := by
      intro t release' ht
      rcases update_eq_some ht with ⟨-, hnew⟩ | ⟨hne, hold⟩
      · cases hnew
      · exact hne (h.lone hold hcall)
    split
    · refine @Inv.torn _ hended slot _ hact hstays ?_ ?_
      · intro serial hne
        cases release with
        | none => rfl
        | some =>
          rw [← hrelies.2.2]
          exact update_of_ne hne _ _
      · cases release with
        | none =>
          refine h.settled fun i hi hprim heq => ?_
          rw [h.named hi hact heq,
            show (d.contexts slot).primary = false from hrelies] at hprim
          cases hprim
        | some s =>
          obtain ⟨hprim, haux, hserial⟩ := hrelies
          change d.retains (d.contexts slot).serial =
            update d.releases s (d.releases s + 1) (d.contexts slot).serial
          rw [(h.owned hact hprim).2, ← hserial, update_self, haux]
    · exact hended
  · exact h

/-- **One step.** -/
theorem Inv.step {m : ContextMove} (hclear : m.Clear d) : Inv (d.step m) := by
  cases m with
  | create thread device answers =>
    change Inv (d.cuCtxCreate thread device answers)
    unfold cuCtxCreate
    split
    · exact h
    · exact h.create device false answers nofun
  | retain thread device validates answers => exact h.retain thread device validates answers hclear
  | destroy thread slot generation validates =>
    exact h.destroy thread slot generation validates hclear
  | release thread device validates => exact h.release thread device validates hclear
  | reset thread device => exact h.reset thread device
  | resetEnd thread => exact h.resetEnd thread
  | tearEnd thread cleaned released => exact h.tearEnd thread cleaned released

/-! ## 3. Owners and their contexts -/

/-- Retained contexts are alive, a device has one primary context at most, nothing is torn down
twice, and the daemon's count is that of the contexts. -/
structure Owned (d : Owners) : Prop where
  alive : ∀ serial, d.releases serial < d.retains serial →
    ∃ slot, slot < objectCapacity ∧ (d.contexts slot).active = true ∧
    (d.contexts slot).primary = true ∧
      (d.contexts slot).serial = serial
  one : ∀ i j, (d.contexts i).active = true → (d.contexts j).active = true →
    (d.contexts i).primary = true → (d.contexts j).primary = true →
    (d.contexts i).device = (d.contexts j).device → i = j
  once : d.torn.Nodup
  accounted : d.acquired = d.released + d.live.card

theorem Inv.toOwned : Owned d where
  alive serial hlt := by
    by_contra hnone
    refine absurd (h.settled fun i hi hprim heq => ?_) hlt.ne'
    exact hnone ⟨i, h.slots hi, hi, hprim, heq⟩
  one _ _ := h.one
  once := h.once
  accounted := h.accounted

end

end Owners

/-- **Contexts have owners**, if nobody retains, releases or destroys a context that is being torn
down. -/
theorem contexts_owned (moves : List ContextMove)
    (hclear : Along Owners.step (fun d m => m.Clear d) {} moves) :
    (run Owners.step {} moves).Owned :=
  (run_induction_along (fun _ _ h hm => h.step hm) moves Owners.Inv.start hclear).toOwned

/-- Everything that is asked is granted. -/
def granted : CreateAnswers := ⟨true, true, true⟩

/-- Two owners, one after the other. -/
theorem contexts_owned_shared :
    Along Owners.step (fun d m => m.Clear d) {}
      [.retain 0 0 true granted, .retain 1 0 true granted, .release 0 0 true, .release 1 0 true,
        .tearEnd 1 true true] ∧
    (run Owners.step {} [.retain 0 0 true granted, .retain 1 0 true granted, .release 0 0 true,
      .release 1 0 true, .tearEnd 1 true true]).Owned := by
  have hidle : ∀ {d : Owners}, d.calls = (fun _ => none) → ∀ slot, d.Stays slot := by
    intro d hcalls slot thread release hcall
    rw [hcalls] at hcall
    cases hcall
  refine ⟨?_, contexts_owned _ ?_⟩ <;>
  exact ⟨fun slot _ => hidle rfl slot, fun slot _ => hidle rfl slot, fun slot _ => hidle rfl slot,
    fun slot _ => hidle rfl slot, trivial, trivial⟩

/-- **An owner loses the context.**  A release tears a context down; before that has ended the
context is retained, with success, and dies.  A second release in its place tears it down again, and
the daemon lets go of the context of somebody else. -/
theorem owner_lost :
    (∃ d,
    d = run Owners.step {} [.retain 0 0 true granted, .release 0 0 true, .retain 1 0 true granted,
        .tearEnd 0 true true] ∧
      d.retains 0 = 2 ∧ d.releases 0 = 1 ∧ ∀ slot, slot < objectCapacity →
      (d.contexts slot).active = false) ∧
    ∃ d, d = run Owners.step {} [.create 2 0 granted, .retain 0 0 true granted, .release 0 0 true,
        .release 1 0 true, .tearEnd 0 true true, .tearEnd 1 true true] ∧
      d.torn = [1, 1] ∧ d.acquired = d.released ∧ d.live = {0} := by
  refine ⟨⟨_, rfl, ?_, ?_, ?_⟩, ⟨_, rfl, ?_, ?_, ?_⟩⟩ <;> decide +kernel

end MetaFlux.Cuda
