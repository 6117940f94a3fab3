/-
# Cache identities

A compiled kernel is found under the digest of one text: the fields of its identity and the kernel,
each with its name and its length, the features sorted and without repetition.

The text says what it was made from (`cacheEncoding_injective`).  A field comes with its length, so
that a value may contain whatever it likes.  The number of features, which is written modulo `2 ^
32`, is not needed for that: every feature comes under a name of its own.
-/
import MetaFlux.Base.Text

namespace MetaFlux.Compiler

open Base List

structure CacheIdentity where
  toolchainFingerprint : Text
  compilerEpoch : UInt32
  kernelIrSchema : UInt32
  passPipeline : Text
  targetTriple : Text
  cpuName : Text
  canonicalFeatures : List Text
  optimizationLevel : Text
  fpSemantics : Text
  backendAbi : UInt32
  helperAbi : UInt32
  pgoId : Text

def appendField (name : String) (value : Text) : Text :=
  ascii name ++ 58 :: (decimal value.length ++ 58 :: (value ++ [10]))

def appendNumber (name : String) (value : UInt32) : Text := appendField name (decimal value.toNat)

/-- Of equal neighbours one stays. -/
def unique : List Text → List Text
  | [] => []
  | a :: rest => if rest.head? = some a then unique rest else a :: unique rest

def sortedFeatures (features : List Text) : List Text := unique (features.insertionSort (· ≤ ·))

/-- What `make_cache_key` hashes. -/
def cacheEncoding (identity : CacheIdentity) (kernelIr : Text) : Text :=
  let features := sortedFeatures identity.canonicalFeatures
  [ascii "metaflux-cache-identity-v1\n",
    appendField "toolchain" identity.toolchainFingerprint,
    appendNumber "compiler_epoch" identity.compilerEpoch,
    appendNumber "kernel_ir_schema" identity.kernelIrSchema,
    appendField "pipeline" identity.passPipeline,
    appendField "target_triple" identity.targetTriple,
    appendField "cpu_name" identity.cpuName,
    appendNumber "feature_count" (.ofNat features.length),
    features.flatMap (appendField "feature"),
    appendField "optimization" identity.optimizationLevel,
    appendField "fp_semantics" identity.fpSemantics,
    appendNumber "backend_abi" identity.backendAbi,
    appendNumber "helper_abi" identity.helperAbi,
    appendField "pgo_id" identity.pgoId,
    appendField "kernel_ir" kernelIr].flatten

theorem decimal_injective {n m : Nat} (h : decimal n = decimal m) : n = m := by
  rw [← (decimal_spec n).2.2, h, (decimal_spec m).2.2]

theorem takeWhile_decimal (n : Nat) (rest : Text) :
    (decimal n ++ 58 :: rest).takeWhile isDigit = decimal n := by
  rw [takeWhile_append_of_pos (all_eq_true.1 (decimal_spec n).2.1)]
  exact append_nil _

variable {name : String} {rest rest' : Text}

/-- **A field is read in one way.** -/
theorem appendField_inj {value value' : Text} :
    appendField name value ++ rest = appendField name value' ++ rest' ↔ value = value' ∧
    rest = rest' := by
  refine ⟨fun h => ?_, fun ⟨hvalue, hrest⟩ => by rw [hvalue, hrest]⟩
  simp only [appendField, append_assoc, cons_append, append_cancel_left_eq,
    cons.injEq, true_and] at h
  have hdigits := congrArg (takeWhile isDigit) h
  rw [takeWhile_decimal, takeWhile_decimal] at hdigits
  rw [hdigits, append_cancel_left_eq, cons.injEq] at h
  obtain ⟨hvalue, htail⟩ := append_inj h.2 (decimal_injective hdigits)
  exact ⟨hvalue, (cons.inj htail).2⟩

theorem appendNumber_inj {value value' : UInt32} :
    appendNumber name value ++ rest = appendNumber name value' ++ rest' ↔ value = value' ∧
    rest = rest' := by
  rw [appendNumber, appendNumber, appendField_inj, ← UInt32.toNat_inj]
  exact and_congr_left fun _ => ⟨decimal_injective, congrArg decimal⟩

/-- The features end where another name begins. -/
theorem features_inj {level level' : Text} : ∀ {features features' : List Text},
    features.flatMap (appendField "feature") ++ (appendField "optimization" level ++ rest) =
      features'.flatMap (appendField "feature") ++ (appendField "optimization" level' ++ rest') →
    features = features' ∧ level = level' ∧ rest = rest'
  | [], [], h => ⟨rfl, appendField_inj.1 h⟩
  | [], _ :: _, h => nomatch (cons.inj h).1
  | _ :: _, [], h => nomatch (cons.inj h).1
  | feature :: features, feature' :: features', h => by
    rw [flatMap_cons, flatMap_cons, append_assoc, append_assoc] at h
    obtain ⟨rfl, hrest⟩ := appendField_inj.1 h
    obtain ⟨rfl, hlevel⟩ := features_inj hrest
    exact ⟨rfl, hlevel⟩

theorem mem_unique {feature : Text} : ∀ features, feature ∈ unique features ↔ feature ∈ features
  | [] => Iff.rfl
  | a :: rest => by
    rw [unique]
    split
    · next hsame =>
      rw [mem_unique rest, mem_cons, or_iff_right_of_imp]
      rintro rfl
      exact mem_of_mem_head? hsame
    · rw [mem_cons, mem_unique rest, mem_cons]

theorem cacheEncoding_injective {identity identity' : CacheIdentity} {kernelIr kernelIr' : Text}
    (h : cacheEncoding identity kernelIr = cacheEncoding identity' kernelIr') :
    { identity with canonicalFeatures := [] } = { identity' with canonicalFeatures := [] } ∧
      (∀ feature, feature ∈ identity.canonicalFeatures ↔ feature ∈ identity'.canonicalFeatures) ∧
      kernelIr = kernelIr' := by
  simp only [cacheEncoding, flatten_cons, append_cancel_left_eq, appendField_inj,
    appendNumber_inj] at h
  obtain ⟨htoolchain, hepoch, hschema, hpipeline, htriple, hcpu, -, h⟩ := h
  obtain ⟨hfeatures, hlevel, h⟩ := features_inj h
  simp only [appendField_inj, appendNumber_inj] at h
  obtain ⟨hfp, hbackend, hhelper, hpgo, hkernel, -⟩ := h
  refine ⟨?_, fun feature => ?_, hkernel⟩
  · rw [htoolchain, hepoch, hschema, hpipeline, htriple, hcpu, hlevel, hfp, hbackend, hhelper, hpgo]
  · rw [← mem_insertionSort (· ≤ ·), ← mem_unique, ← sortedFeatures, hfeatures, sortedFeatures,
      mem_unique, mem_insertionSort]

def featured (features : List Text) : CacheIdentity :=
  ⟨[], 1, 2, [], [], [], features, [], [], 1, 1, []⟩

/-- The order of the features and how often each is named do not matter. -/
theorem cacheEncoding_injective_features :
    cacheEncoding (featured [[98], [97], [98]]) [] = cacheEncoding (featured [[97], [98]]) [] ∧
      ∀ feature, feature ∈ [[98], [97], [98]] ↔ feature ∈ ([[97], [98]] : List Text) :=
  have h : cacheEncoding (featured [[98], [97], [98]])
      [] = cacheEncoding (featured [[97], [98]]) [] := by
    decide +kernel
  ⟨h, (cacheEncoding_injective h).2.1⟩

end MetaFlux.Compiler
