import Mathlib.Tactic.SplitIfs
import Tablecast.Artifact.Render
import Tablecast.Proofs.Success

/-!
# What can be rendered

Settings pass if their outputs differ and their names are made of identifiers; then every document
that resolves is rendered.
-/

namespace Tablecast

open Text

/-- What an identifier is made of. -/
def isNameChar (c : Char) : Bool := c.isAlphanum || c == '_'

theorem isNameChar_of_mem {s : List Char} (h : isIdentifier s = true) :
    ∀ c ∈ s, isNameChar c = true := by
  cases s with
  | nil => exact fun _ hc => absurd hc List.not_mem_nil
  | cons first rest =>
    rw [isIdentifier, Bool.and_eq_true, List.all_eq_true] at h
    obtain ⟨letter, others⟩ := h
    rw [List.forall_mem_cons]
    refine ⟨?_, others⟩
    simp only [isNameChar, Bool.or_eq_true, Char.isAlphanum] at letter ⊢
    exact letter.imp_left .inl

theorem toNat_of_isNameChar {c : Char} (h : isNameChar c = true) :
    48 ≤ c.toNat ∧ c.toNat ≤ 122 := by
  rcases Bool.or_eq_true_iff.mp h with word | underscore
  · rcases Bool.or_eq_true_iff.mp word with letter | digit
    · rcases Bool.or_eq_true_iff.mp letter with capital | small
      · obtain ⟨low, high⟩ := of_decide_eq_true capital
        have low : 65 ≤ c.toNat := UInt32.le_iff_toNat_le.mp low
        have high : c.toNat ≤ 90 := UInt32.le_iff_toNat_le.mp high
        omega
      · obtain ⟨low, high⟩ := Bool.and_eq_true_iff.mp small
        have low : 97 ≤ c.toNat := UInt32.le_iff_toNat_le.mp (of_decide_eq_true low)
        have high : c.toNat ≤ 122 := UInt32.le_iff_toNat_le.mp (of_decide_eq_true high)
        omega
    · obtain ⟨low, high⟩ := Bool.and_eq_true_iff.mp digit
      have low : 48 ≤ c.toNat := UInt32.le_iff_toNat_le.mp (of_decide_eq_true low)
      have high : c.toNat ≤ 57 := UInt32.le_iff_toNat_le.mp (of_decide_eq_true high)
      omega
  · rw [beq_iff_eq.mp underscore]
    decide

theorem isBlank_of_isNameChar {c : Char} (h : isNameChar c = true) : isBlank c = false := by
  have range := toNat_of_isNameChar h
  simp only [isBlank, blankRanges, CodeRanges.contains]
  grind

/-- Settings pass whose outputs differ and whose names are made of identifiers. -/
theorem Settings.validate_eq_ok {s : Settings} :
    s.validate = .ok () ↔
      Path.components s.modelOutput ≠ Path.components s.wireOutput ∧
        (∀ name ∈ pieces (· == '.') s.protoPackage.toList, isIdentifier name = true) ∧
        isIdentifier s.serviceName.toList = true ∧
        (∀ name ∈ modulePath s.protoModule.toList, isIdentifier name = true) ∧
        ∀ name ∈ modulePath s.supportModule.toList, isIdentifier name = true := by
  unfold Settings.validate checkModule
  simp only [← List.all_eq_true]
  split_ifs <;> simp_all [bind, Except.bind]

theorem Document.render_eq_ok {d : Document} {s : Settings} {a : Artifacts} :
    d.render s = .ok a ↔
      s.validate = .ok () ∧ ∃ plan, d.resolve = .ok plan ∧ plan.artifacts s = a := by
  rw [Document.render, andThen_eq_ok, mapError_eq_ok]
  simp only [bind_eq_ok, mapError_eq_ok, pure_eq_ok]

end Tablecast
