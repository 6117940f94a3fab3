/-
# The client protocol

Messages are byte buffers with their fields at fixed places: they are zeroed and stored into, and
loaded from where they are checked.

**Negotiation.**  The runtime accepts a request exactly if it is well formed, the two version ranges
meet and the runtime has all that is required; it also refuses whatever is asked of it when its own
range is empty or contains version zero, or a layout has no version.  Whatever it answers passes the
check of responses (`negotiate_spec`).
-/
import MetaFlux.Base.Codec

namespace MetaFlux.Client

open Base

/-! ## 1. Fields -/

/-- The number that stands at a place, in so many bytes. -/
def load (width : Nat) (bytes : List UInt8) (offset : Nat) : BitVec (8 * width) :=
  .ofNat _ (unsigned ((bytes.drop offset).take width))

/-- Bytes are written over those that stood there. -/
def overwrite : Nat → List UInt8 → List UInt8 → List UInt8
  | offset + 1, data, byte :: bytes => byte :: overwrite offset data bytes
  | 0, datum :: data, _ :: bytes => datum :: overwrite 0 data bytes
  | _, _, bytes => bytes

def store (width offset : Nat) (value : BitVec (8 * width)) : List UInt8 → List UInt8 :=
  overwrite offset (fixed width value.toNat)

def reservedIsZero (bytes : List UInt8) (start stop : Nat) : Bool :=
  ((bytes.drop start).take (stop - start)).all (· == 0)

variable {width offset : Nat} {bytes : List UInt8} (value : BitVec (8 * width))

theorem toNat_lt : value.toNat < 256 ^ width := by
  have h := value.isLt
  rwa [Nat.pow_mul] at h

theorem load_eq
    (h : (bytes.drop offset).take width = fixed width value.toNat) :
    load width bytes offset = value := by
  rw [load, h, unsigned_fixed (toNat_lt value), BitVec.ofNat_toNat, BitVec.setWidth_eq]

/-! ## 2. Negotiation -/

def wireSize : Nat := 64

/-- The bytes of a message. -/
abbrev Wire := { bytes : List UInt8 // bytes.length = wireSize }

def protocolMagic : BitVec 32 := 0x3143464d

inductive NegotiationStatus where
  | ok | malformed | unsupportedVersion | unsupportedCapability | incompatibleView
deriving DecidableEq

def NegotiationStatus.code : NegotiationStatus → BitVec 32
  | .ok => 0
  | .malformed => 1
  | .unsupportedVersion => 2
  | .unsupportedCapability => 3
  | .incompatibleView => 4

def knownFlags : BitVec 32 := 1

/-- The start of every message. -/
def messageInit (message : BitVec 16) : List UInt8 :=
  List.replicate wireSize 0 |> store 4 0 protocolMagic |> store 2 4 message |> store 2 6 64 |>
    store 4 8 64

def messageValidate (message : BitVec 16) (bytes : List UInt8) : Bool :=
  load 4 bytes 0 == protocolMagic && load 2 bytes 4 == message && load 2 bytes 6 == 64 &&
    load 4 bytes 8 == 64

def requestInit (minimumVersion maximumVersion : BitVec 16) (required optional : BitVec 64)
    (flags : BitVec 32) : Wire :=
  ⟨messageInit 1 |> store 2 12 minimumVersion |> store 2 14 maximumVersion |> store 8 16 required |>
    store 8 24 optional |> store 4 32 flags, rfl⟩

def requestValidate (request : Wire) : NegotiationStatus :=
  if messageValidate 1 request.1 = false then .malformed
  else if load 2 request.1 12 = 0 ∨ load 2 request.1 14 < load 2 request.1 12 ∨
      load 4 request.1 32 &&& ~~~knownFlags ≠ 0 ∨ reservedIsZero request.1 36 wireSize = false then
    .malformed
  else .ok

def responseInit (status : NegotiationStatus) (selected : BitVec 32) (granted : BitVec 64)
    (sharedLayoutVersion ringLayoutVersion : BitVec 32) (daemonIncarnation viewSerial : BitVec 64) :
    Wire :=
  ⟨messageInit 2 |> store 4 12 status.code |> store 4 16 selected |> store 8 24 granted |>
    store 4 32 sharedLayoutVersion |> store 4 36 ringLayoutVersion |>
    store 8 40 daemonIncarnation |> store 8 48 viewSerial, rfl⟩

def responseValidate (response : Wire) : NegotiationStatus :=
  if messageValidate 2 response.1 = false ∨
      NegotiationStatus.incompatibleView.code < load 4 response.1 12 ∨ load 4 response.1 20 ≠ 0 ∨
      reservedIsZero response.1 56 wireSize = false then
    .malformed
  else if load 4 response.1 12 = NegotiationStatus.ok.code ∧
      (load 4 response.1 16 = 0 ∨ load 4 response.1 32 = 0 ∨ load 4 response.1 36 = 0 ∨
        load 8 response.1 40 = 0 ∨ load 8 response.1 48 = 0) then
    .malformed
  else .ok

/-- What the runtime brings to a negotiation. -/
structure Runtime where
  minimumVersion : BitVec 16
  maximumVersion : BitVec 16
  capabilities : BitVec 64
  sharedLayoutVersion : BitVec 32
  ringLayoutVersion : BitVec 32
  daemonIncarnation : BitVec 64
  viewSerial : BitVec 64

def refuse (status : NegotiationStatus) : NegotiationStatus × Wire :=
  (status, responseInit status 0 0 0 0 0 0)

/-- The smaller of the two maxima. -/
def selectedVersion (request : Wire) (runtime : Runtime) : BitVec 16 :=
  if load 2 request.1 14 < runtime.maximumVersion then load 2 request.1 14
    else runtime.maximumVersion

def negotiate (request : Wire) (runtime : Runtime) : NegotiationStatus × Wire :=
  if requestValidate request ≠ .ok ∨ runtime.minimumVersion = 0 ∨
      runtime.maximumVersion < runtime.minimumVersion ∨ runtime.sharedLayoutVersion = 0 ∨
      runtime.ringLayoutVersion = 0 then
    refuse .malformed
  else
    let selected := selectedVersion request runtime
    if selected < load 2 request.1 12 ∨ selected < runtime.minimumVersion then
      refuse .unsupportedVersion
    else
      let required := load 8 request.1 16
      let optional := load 8 request.1 24
      if required &&& ~~~runtime.capabilities ≠ 0 then refuse .unsupportedCapability
      else
        (.ok, responseInit .ok (selected.setWidth 32)
          (required ||| optional &&& runtime.capabilities)
          runtime.sharedLayoutVersion runtime.ringLayoutVersion runtime.daemonIncarnation
          runtime.viewSerial)

variable {request : Wire} {runtime : Runtime}

/-- A version both sides have. -/
def Common (request : Wire) (runtime : Runtime) (version : BitVec 16) : Prop :=
  (load 2 request.1 12 ≤ version ∧ version ≤ load 2 request.1 14) ∧
    runtime.minimumVersion ≤ version ∧ version ≤ runtime.maximumVersion

/-- The runtime's own side: a range of versions from one on, and layouts that have one. -/
def Runtime.Proper (runtime : Runtime) : Prop :=
  runtime.minimumVersion ≠ 0 ∧ runtime.minimumVersion ≤ runtime.maximumVersion ∧
    runtime.sharedLayoutVersion ≠ 0 ∧ runtime.ringLayoutVersion ≠ 0

/-- What a request has to be for the runtime to accept it. -/
def Acceptable (request : Wire) (runtime : Runtime) : Prop :=
  requestValidate request = .ok ∧ runtime.Proper ∧ (∃ version, Common request runtime version) ∧
    ∀ i, (load 8 request.1 16).getLsbD i = true → runtime.capabilities.getLsbD i = true

theorem and_not_eq_zero_iff {n : Nat} (a b : BitVec n) :
    a &&& ~~~b = 0 ↔ ∀ i, a.getLsbD i = true → b.getLsbD i = true := by
  constructor
  · intro h i ha
    have hi := congrArg (·.getLsbD i) h
    simpa [ha, a.lt_of_getLsbD ha] using hi
  · intro h
    refine BitVec.eq_of_getLsbD_eq fun i hi => ?_
    cases ha : a.getLsbD i
    · simp [ha]
    · simp [h i ha]

section Response

variable (status : NegotiationStatus) (selected : BitVec 32) (granted : BitVec 64)
  (shared ring : BitVec 32) (incarnation serial : BitVec 64)

/-- What was stored is loaded. -/
theorem responseInit_fields :
    let bytes := (responseInit status selected granted shared ring incarnation serial).1
    (messageValidate 2 bytes = true ∧ load 4 bytes 20 = 0 ∧
    reservedIsZero bytes 56 wireSize = true) ∧
      load 4 bytes 12 = status.code ∧ load 4 bytes 16 = selected ∧ load 8 bytes 24 = granted ∧
      load 4 bytes 32 = shared ∧ load 4 bytes 36 = ring ∧ load 8 bytes 40 = incarnation ∧
      load 8 bytes 48 = serial := by
  refine ⟨⟨?_, load_eq 0 rfl, rfl⟩, load_eq _ rfl, load_eq _ rfl, load_eq _ rfl, load_eq _ rfl,
    load_eq _ rfl, load_eq _ rfl, load_eq _ rfl⟩
  simp only [messageValidate, Bool.and_eq_true, beq_iff_eq]
  exact ⟨⟨⟨load_eq _ rfl, load_eq _ rfl⟩, load_eq _ rfl⟩, load_eq _ rfl⟩

theorem responseInit_accepted (hok : status = .ok →
      ¬ (selected = 0 ∨ shared = 0 ∨ ring = 0 ∨ incarnation = 0 ∨ serial = 0)) :
    responseValidate (responseInit status selected granted shared ring incarnation serial) =
    .ok := by
  obtain ⟨⟨hmessage, hpadding, hzero⟩, hstat, hselected, -, hshared, hring,
    hinc, hserial⟩ :=
    responseInit_fields status selected granted shared ring incarnation serial
  unfold responseValidate
  rw [hmessage, hpadding, hzero, hstat, hselected, hshared, hring, hinc, hserial, if_neg,
    if_neg]
  · rintro ⟨hcode, hbad⟩
    refine hok ?_ hbad
    cases status <;> first | rfl | cases hcode
  · cases status <;> decide

end Response

theorem not_selected_lt {version : BitVec 16} (h : Common request runtime version) :
    ¬ (selectedVersion request runtime < load 2 request.1 12 ∨
      selectedVersion request runtime < runtime.minimumVersion) := by
  obtain ⟨⟨hclient, hclient'⟩, hruntime, hruntime'⟩ := h
  unfold selectedVersion
  split_ifs <;> bv_omega

theorem selectedVersion_isGreatest
    (h : ¬ (selectedVersion request runtime < load 2 request.1 12 ∨
      selectedVersion request runtime < runtime.minimumVersion)) :
    IsGreatest {version | Common request runtime version} (selectedVersion request runtime) := by
  unfold selectedVersion at h ⊢
  constructor
  · simp only [Set.mem_ofPred_eq, Common]
    split_ifs at h ⊢ <;> bv_omega
  · rintro version ⟨⟨-, hclient⟩, -, hruntime⟩
    split_ifs <;> assumption

/-- What is refused, and what is answered otherwise. -/
theorem negotiate_cases (request : Wire) (runtime : Runtime) :
    (∃ status ≠ .ok, negotiate request runtime = refuse status ∧ ¬ Acceptable request runtime) ∨
      (Acceptable request runtime ∧ negotiate request runtime = (.ok, responseInit .ok
        ((selectedVersion request runtime).setWidth 32)
        (load 8 request.1 16 ||| load 8 request.1 24 &&& runtime.capabilities)
        runtime.sharedLayoutVersion runtime.ringLayoutVersion runtime.daemonIncarnation
        runtime.viewSerial)) := by
  unfold negotiate
  dsimp only
  split_ifs with hargs hversion hcapability
  · refine .inl ⟨.malformed, by decide, rfl, ?_⟩
    rintro ⟨hvalid, ⟨hminimum, hrange, hshared, hring⟩, -⟩
    rcases hargs with h | h | h | h | h
    · exact h hvalid
    · exact hminimum h
    · exact BitVec.not_lt.2 hrange h
    · exact hshared h
    · exact hring h
  · refine .inl ⟨.unsupportedVersion, by decide, rfl, ?_⟩
    rintro ⟨-, -, ⟨version, hcommon⟩, -⟩
    exact not_selected_lt hcommon hversion
  · refine .inl ⟨.unsupportedCapability, by decide, rfl, ?_⟩
    rintro ⟨-, -, -, hsubset⟩
    exact hcapability ((and_not_eq_zero_iff _ _).2 hsubset)
  · simp only [not_or, not_not, BitVec.not_lt] at hargs
    refine .inr ⟨⟨hargs.1, hargs.2, ?_, ?_⟩, rfl⟩
    · exact ⟨_, (selectedVersion_isGreatest hversion).1⟩
    · exact (and_not_eq_zero_iff _ _).1 (not_not.1 hcapability)

/-- **Negotiation.** -/
theorem negotiate_spec (request : Wire) (runtime : Runtime)
    (hview : runtime.daemonIncarnation ≠ 0 ∧ runtime.viewSerial ≠ 0) :
    ((negotiate request runtime).1 = .ok ↔ Acceptable request runtime) ∧
    ((negotiate request runtime).1 = .ok →
      (∃ selected, IsGreatest {version | Common request runtime version} selected ∧
        load 4 (negotiate request runtime).2.1 16 = selected.setWidth 32) ∧
      ∀ i, (load 8 (negotiate request runtime).2.1 24).getLsbD i =
        ((load 8 request.1 16).getLsbD i ||
          (load 8 request.1 24).getLsbD i && runtime.capabilities.getLsbD i)) ∧
    load 4 (negotiate request runtime).2.1 12 = (negotiate request runtime).1.code ∧
      responseValidate (negotiate request runtime).2 = .ok := by
  rcases negotiate_cases request runtime with ⟨status, hstat, heq, hnot⟩ | ⟨haccept, heq⟩
  · rw [heq]
    refine ⟨iff_of_false hstat hnot, fun hok => absurd hok hstat, ?_, ?_⟩
    · exact (responseInit_fields ..).2.1
    · exact responseInit_accepted _ _ _ _ _ _ _ fun hok => absurd hok hstat
  · obtain ⟨-, ⟨hminimum, -, hshared, hring⟩, ⟨version, hcommon⟩, -⟩ := id haccept
    have hselected := not_selected_lt hcommon
    obtain ⟨-, hcode, hversion, hgranted, -⟩ := responseInit_fields .ok
      ((selectedVersion request runtime).setWidth 32)
      (load 8 request.1 16 ||| load 8 request.1 24 &&& runtime.capabilities)
      runtime.sharedLayoutVersion runtime.ringLayoutVersion runtime.daemonIncarnation
      runtime.viewSerial
    rw [heq]
    refine ⟨iff_of_true rfl haccept, fun _ => ⟨?_, ?_⟩, hcode, ?_⟩
    · exact ⟨_, selectedVersion_isGreatest hselected, hversion⟩
    · intro i
      rw [hgranted, BitVec.getLsbD_or, BitVec.getLsbD_and]
    refine responseInit_accepted _ _ _ _ _ _ _ ?_
    rintro - (h | h | h | h | h)
    · bv_omega
    · exact hshared h
    · exact hring h
    · exact hview.1 h
    · exact hview.2 h

/-- Two capabilities are asked for, one of them required; the runtime has both. -/
theorem negotiate_granted :
    (negotiate (requestInit 1 2 1 2 0) ⟨1, 1, 3, 1, 1, 7, 9⟩).1 = .ok ∧
      responseValidate (negotiate (requestInit 1 2 1 2 0) ⟨1, 1, 3, 1, 1, 7, 9⟩).2 = .ok :=
  have h := negotiate_spec (requestInit 1 2 1 2 0) ⟨1, 1, 3, 1, 1, 7, 9⟩ (by decide)
  ⟨by decide +kernel, h.2.2.2⟩

/-- The ranges meet in version one, nothing is required, and yet: the runtime's range starts at
zero. -/
theorem negotiate_from_zero :
    requestValidate (requestInit 1 1 0 0 0) = .ok ∧
      Common (requestInit 1 1 0 0 0) ⟨0, 1, 0, 1, 1, 7, 9⟩ 1 ∧
      (negotiate (requestInit 1 1 0 0 0) ⟨0, 1, 0, 1, 1, 7, 9⟩).1 = .malformed := by
  unfold Common
  decide +kernel

end MetaFlux.Client
