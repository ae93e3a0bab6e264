import Tablecast.Proofs.Text.Capitals

/-!
# Lowering by Unicode and by ASCII

Lowering a text by Unicode and lowering only its ASCII letters differ in characters beyond ASCII
alone. Those stay beyond ASCII, but for the Kelvin sign, which becomes a `k`, and the dotted capital
I, which becomes an `i` with a mark behind it. Blanks stay what they are and nothing becomes one.

* `lowerChar_ascii`: on ASCII the two agree;
* `LowersTo.wide`: what a character beyond ASCII becomes.
-/

namespace Tablecast.Text

/-- What a character becomes. A capital sigma becomes the final one where its place asks for it. -/
inductive LowersTo : Char → List Char → Prop
  | mapped (c : Char) : LowersTo c (lowerChar c)
  | final : LowersTo 'Σ' ['ς']

/-- A text lowered by Unicode, whatever the rule for the places of sigmas. -/
inductive Lowered : List Char → List Char → Prop
  | nil : Lowered [] []
  | cons {c : Char} {low s t : List Char} (first : LowersTo c low) (later : Lowered s t) :
      Lowered (c :: s) (low ++ t)

/-- What a character beyond ASCII becomes. -/
structure WideLowered (c : Char) (low : List Char) : Prop where
  shape : (∃ x, 0x80 ≤ x.toNat ∧ low = [x]) ∨ low = ['k'] ∨ low = ['i', '\u0307']
  kept : isBlank c = true → low = [c]
  solid : isBlank c = false → ∀ x ∈ low, isBlank x = false

theorem lowered_flatMap (s : List Char) : Lowered s (s.flatMap lowerChar) := by
  induction s with
  | nil => exact .nil
  | cons c s ih => exact .cons (.mapped c) ih

/-- What holds of the first 128 code points holds of every character of ASCII. -/
@[elab_as_elim]
theorem forall_ascii {P : Char → Prop} (table : ∀ n < 0x80, P (.ofNat n)) (c : Char)
    (ascii : c.toNat < 0x80) : P c := by
  have entry := table c.toNat ascii
  rwa [Char.ofNat_toNat] at entry

theorem lowerChar_ascii {c : Char} (ascii : c.toNat < 0x80) : lowerChar c = [c.toLower] := by
  have table : ∀ n < 0x80, lowerChar (.ofNat n) = [(Char.ofNat n).toLower] := by decide +kernel
  exact forall_ascii table c ascii

/-- Beyond ASCII a run leads to a character beyond ASCII, unless it is the one of the Kelvin sign.
It neither begins at blanks nor leads to them. -/
theorem lowerRuns_wide : ∀ r ∈ lowerRuns, r.IsValid ∧
    (r.run.last < 0x80 ∨ 0x80 ≤ r.run.first + r.offset ∨
      r.run.first = r.run.last ∧ r.run.first + r.offset = 'k'.toNat) ∧
    (∀ b ∈ blankRanges, r.run.last < b.1 ∨ b.2 < r.run.first) ∧
    ∀ b ∈ blankRanges, r.run.last + r.offset < b.1 ∨ b.2 < r.run.first + r.offset := by
  decide +kernel

theorem wideLowered_lowerChar {c : Char} (wide : 0x80 ≤ c.toNat) : WideLowered c (lowerChar c) := by
  unfold lowerChar mapCase
  split
  · next codes found =>
    obtain ⟨code, rfl⟩ := Prod.mk.inj (List.mem_singleton.mp (mem_of_lookup found))
    have letters : ∀ x ∈ ['i', '\u0307'], isBlank x = false :=
      List.forall_mem_cons.mpr ⟨by decide, List.forall_mem_singleton.mpr (by decide)⟩
    refine ⟨.inr (.inr rfl), ?_, fun _ => letters⟩
    intro blank
    rw [isBlank, code] at blank
    exact absurd blank (by decide)
  · split
    · next offset found =>
      obtain ⟨r, mem, low, high, rfl⟩ := caseOffset?_eq_some found
      obtain ⟨valid, target, sources, targets⟩ := lowerRuns_wide r mem
      have moved := r.toNat_moved valid low high
      have letter : isBlank c = false := by
        refine isBlank_eq_false (Int.ofNat_le.mpr low) (Int.ofNat_le.mpr high) fun b hb => ?_
        have := sources b hb
        omega
      have solid : isBlank (Char.ofNat (c.toNat + r.offset).toNat) = false :=
        isBlank_eq_false (by omega) (by omega) targets
      refine ⟨?_, fun blank => absurd blank (by simp [letter]), fun _ => by simpa using solid⟩
      rcases target with ascii | beyond | ⟨single, kelvin⟩
      · omega
      · exact .inl ⟨_, by omega, rfl⟩
      · right; left
        have code : (c.toNat + r.offset).toNat = 'k'.toNat := by omega
        rw [code, Char.ofNat_toNat]
    · exact ⟨.inl ⟨c, wide, rfl⟩, fun _ => rfl, fun solid => by simpa using solid⟩

theorem LowersTo.ascii {c : Char} {low : List Char} (h : LowersTo c low) (ascii : c.toNat < 0x80) :
    low = [c.toLower] := by
  cases h with
  | mapped => exact lowerChar_ascii ascii
  | final => exact absurd ascii (by decide)

/-- Beyond ASCII a character leads to one beyond ASCII, to a `k`, or to an `i` with a mark. -/
theorem LowersTo.wide {c : Char} {low : List Char} (h : LowersTo c low) (wide : 0x80 ≤ c.toNat) :
    WideLowered c low := by
  cases h with
  | mapped => exact wideLowered_lowerChar wide
  | final =>
    exact ⟨.inl ⟨'ς', by decide, rfl⟩, fun blank => absurd blank (by decide),
      fun _ => List.forall_mem_singleton.mpr (by decide)⟩

end Tablecast.Text
