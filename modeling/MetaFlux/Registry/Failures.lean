/-
# Fences that are not published

Publishing a fence without the recovery extension takes the device from open to updating before it
looks at the fence.  What is refused before that leaves everything as it was; what is refused after
it closes the device (`legacy_failure_iff`).
-/
import MetaFlux.Registry.Steps

namespace MetaFlux.Registry

open Base

variable {s : Mapping} {index expectedGeneration : Nat} {intended : FenceSnapshot}

/-! ## 1. Without the extension -/

/-- **A fence that is not published leaves its device as it was**, and what would have succeeded
before the call succeeds after it, if and only if the call was refused before it took the device
from open. -/
theorem legacy_failure_iff (hlegacy : s.extended = false) (caller : Caller) :
    let c : Call := .publishFence caller index expectedGeneration intended
    ¬ Succeeds s c →
      ((((step s c).devices index).admission = (s.devices index).admission ∧
          ((step s c).devices index).fence = (s.devices index).fence ∧
          ∀ later, Succeeds s later → Succeeds (step s c) later) ↔
        ¬ Enters index expectedGeneration intended s) := by
  intro c hfailed
  have hrun : call s c = (publishFenceLegacy index expectedGeneration intended).run s := by
    simp [call, c, Call.program, publishFence, hlegacy]
  have hends : LegacyEnds index expectedGeneration intended s (call s c).1 (step s c) := by
    rw [step, hrun]
    exact (publishFenceLegacy_does (K := fun _ => True) trivial trivial trivial s s rfl).2
  rcases hends with ⟨-, hnot, hsame⟩ | ⟨henters, ⟨-, hclosed⟩ | ⟨hok, -⟩⟩
  · rw [hsame]
    exact iff_of_true ⟨rfl, rfl, fun _ => id⟩ hnot
  · refine iff_of_false (fun hsame => ?_) (not_not.2 henters)
    have hopen := congrArg DeviceWord.state (hsame.1.trans henters.2.2.2.2)
    cases hopen.symm.trans hclosed
  · exact absurd hok hfailed

/-- Two devices, without the extension. -/
def twoPlain : Mapping :=
  initialMapping false ⟨1, 1⟩ [(⟨1, 1, true⟩, plainFence 1 1), (⟨2, 1, true⟩, plainFence 2 1)]

/-- A call with an old generation is refused and changes nothing. -/
theorem legacy_failure_iff_stale :
    ((step twoPlain (.publishFence someCaller 0 2 (plainFence 1 4))).devices 0).admission =
        (twoPlain.devices 0).admission ∧
      Succeeds (step twoPlain (.publishFence someCaller 0 2 (plainFence 1 4)))
        (.publishFence someCaller 0 1 (plainFence 1 4)) := by
  have hkept :=
    (@legacy_failure_iff twoPlain 0 2 (plainFence 1 4) rfl someCaller (by decide +kernel)).2 ?_
  · exact ⟨hkept.1, hkept.2.2 _ (by decide +kernel)⟩
  · rintro ⟨-, -, -, -, hword⟩
    exact absurd hword (by decide +kernel)

/-- **A fence for another identity closes the device**: it is refused as an invalid argument, and
the right one is refused after it. -/
theorem wrong_identity_closes :
    Fresh twoPlain ∧
      (call twoPlain (.publishFence someCaller 0 1 (plainFence 2 4))).1 = .invalidArgument ∧
      Succeeds twoPlain (.publishFence someCaller 0 1 (plainFence 1 4)) ∧
      ((step twoPlain (.publishFence someCaller 0 1 (plainFence 2 4))).devices 0).admission.state =
        .closed ∧
      ∀ generation ∈ [1, 2],
      ¬ Succeeds (step twoPlain (.publishFence someCaller 0 1 (plainFence 2 4)))
        (.publishFence someCaller 0 generation (plainFence 1 4)) := by
  refine ⟨⟨false, ⟨1, 1⟩, 1, [⟨1, 1, true⟩, ⟨2, 1, true⟩], [plainFence 1 1, plainFence 2 1],
    rfl, by decide⟩,
    ?_, ?_, ?_, ?_⟩ <;> decide +kernel

end MetaFlux.Registry
