import Mathlib.Algebra.Order.Ring.Nat
import Tablecast.Codec.Value
import Tablecast.Proofs.Declaration.Number

/-!
# The range of numeric columns

A column `NUMBER(p,s)` with `s ≤ 0` stores the integers of `p` digits with `-s` zeros behind them.
The family it resolves to is chosen by `p`, which is the number of all digits only if `s` is zero.

- `Semantic.holds_upTo_iff`: up to which magnitude a family holds every integer,
- `Declaration.largest_lt_iff`: when the largest integer of a column stays below a bound,
- `Declaration.range_preserved_iff`: when a column stores nothing beyond its family.
-/

namespace Tablecast

/-! ## What a family holds -/

/-- The integer that a value is. -/
def Value.integer? : Value → Option Int
  | .shortInt n => some n.toInt
  | .int n => some n.toInt
  | .longInt n => some n.toInt
  | _ => none

/-- Some value of the family is the integer `v`. -/
def Semantic.Holds (family : Semantic) (v : Int) : Prop :=
  ∃ value : Value, value.semantic? = some family ∧ value.integer? = some v

/-- The size of an integer in memory. -/
def Semantic.bits? : Semantic → Option Nat
  | .shortInt => some 16
  | .int => some 32
  | .longInt => some 64
  | _ => none

/-- How many digits an integer of the family may have, whichever they are. -/
def Semantic.digits? : Semantic → Option Nat
  | .shortInt => some 4
  | .int => some 9
  | .longInt => some 18
  | _ => none

theorem Semantic.holds_iff {family : Semantic} {bits : Nat} {v : Int}
    (integer : family.bits? = some bits) :
    family.Holds v ↔ -2 ^ (bits - 1) ≤ v ∧ v < 2 ^ (bits - 1) := by
  constructor
  · intro ⟨value, semantic, denotes⟩
    cases value with
    | shortInt n => cases semantic; cases denotes; cases integer; exact ⟨n.le_toInt, n.toInt_lt⟩
    | int n => cases semantic; cases denotes; cases integer; exact ⟨n.le_toInt, n.toInt_lt⟩
    | longInt n => cases semantic; cases denotes; cases integer; exact ⟨n.le_toInt, n.toInt_lt⟩
    | _ => cases denotes
  · intro ⟨low, high⟩
    cases family with
    | shortInt =>
      cases integer
      exact ⟨.shortInt (.ofInt v), rfl, congrArg some (Int16.toInt_ofInt_of_le low high)⟩
    | int =>
      cases integer
      exact ⟨.int (.ofInt v), rfl, congrArg some (Int32.toInt_ofInt_of_le low high)⟩
    | longInt =>
      cases integer
      exact ⟨.longInt (.ofInt v), rfl, congrArg some (Int64.toInt_ofInt_of_le low high)⟩
    | _ => cases integer

/-- A family holds every integer up to a magnitude if that is below its bound. -/
theorem Semantic.holds_upTo_iff {family : Semantic} {bits n : Nat}
    (integer : family.bits? = some bits) :
    (∀ v : Int, v.natAbs ≤ n → family.Holds v) ↔ n < 2 ^ (bits - 1) := by
  have bound : ((2 ^ (bits - 1) : Nat) : Int) = 2 ^ (bits - 1) := by simp
  constructor
  · intro holds
    have top := (holds_iff integer).mp (holds n (Int.natAbs_natCast n).le)
    omega
  · intro below v magnitude
    apply (holds_iff integer).mpr
    omega

namespace Declaration

/-! ## What a column stores -/

/-- The largest number of `p` digits with `-s` zeros behind them. -/
def largest (p : Nat) (s : Int) : Nat := (10 ^ p - 1) * 10 ^ (-s).toNat

/-- With at least `q` digits in front of the zeros, the largest number passes a bound between
`10 ^ d` and that of `q` nines with zeros as soon as there are more than `d` digits. -/
theorem largest_lt_iff {q d bound p : Nat} {s : Int} (above : q ≤ p)
    (reached : 10 ^ d ≤ bound) (passed : bound ≤ (10 ^ q - 1) * 10 ^ (d + 1 - q)) :
    largest p s < bound ↔ p + (-s).toNat ≤ d := by
  obtain ⟨extra, rfl⟩ := Nat.exists_eq_add_of_le above
  constructor
  · intro below
    by_contra wide
    have zeros : 10 ^ (d + 1 - q) ≤ 10 ^ (extra + (-s).toNat) :=
      Nat.pow_le_pow_right (by decide) (by omega)
    have nines : (10 ^ q - 1) * 10 ^ extra ≤ 10 ^ (q + extra) - 1 := by
      have := Nat.one_le_pow extra 10 (by decide)
      rw [Nat.pow_add, Nat.sub_mul, Nat.one_mul]
      omega
    have := calc
      bound ≤ (10 ^ q - 1) * 10 ^ (d + 1 - q) := passed
      _ ≤ (10 ^ q - 1) * 10 ^ (extra + (-s).toNat) := Nat.mul_le_mul_left _ zeros
      _ = (10 ^ q - 1) * 10 ^ extra * 10 ^ (-s).toNat := by rw [Nat.pow_add, Nat.mul_assoc]
      _ ≤ largest (q + extra) s := Nat.mul_le_mul_right _ nines
    omega
  · intro short
    calc largest (q + extra) s
        < 10 ^ (q + extra) * 10 ^ (-s).toNat :=
          Nat.mul_lt_mul_of_pos_right (Nat.sub_one_lt (Nat.pow_pos (by decide)).ne')
            (Nat.pow_pos (by decide))
      _ = 10 ^ (q + extra + (-s).toNat) := (Nat.pow_add ..).symm
      _ ≤ 10 ^ d := Nat.pow_le_pow_right (by decide) short
      _ ≤ bound := reached

theorem holds_largest_iff {family : Semantic} {bits q d p : Nat} {s : Int}
    (integer : family.bits? = some bits) (above : q ≤ p)
    (reached : 10 ^ d ≤ 2 ^ (bits - 1))
    (passed : 2 ^ (bits - 1) ≤ (10 ^ q - 1) * 10 ^ (d + 1 - q)) :
    (∀ v : Int, v.natAbs ≤ largest p s → family.Holds v) ↔ p + (-s).toNat ≤ d :=
  (Semantic.holds_upTo_iff integer).trans (largest_lt_iff above reached passed)

/-- **When a column loses no range.** If a column of `p` digits with `-s` zeros behind them
resolves to a family of integers, the family has room for the `p` digits. It holds every number
that the column stores exactly if it has room for the zeros as well. -/
theorem range_preserved_iff {p : Nat} {s : Int} {column : String} {family : Semantic} {d : Nat}
    (digits : 1 ≤ p) (scaleless : s ≤ 0) (plain : ¬ ['I', 'D'] <:+ column.toList)
    (resolves : semantic? (number p s) column = some family) (room : family.digits? = some d) :
    p ≤ d ∧
      ((∀ v : Int, v.natAbs ≤ largest p s → family.Holds v) ↔ p + (-s).toNat ≤ d) := by
  have unmarked : isIdentifier column = false := by
    rwa [isIdentifier, ← Bool.not_eq_true, List.isSuffixOf_iff_suffix]
  rw [semantic?_number_of_nonpos unmarked scaleless, Option.some_inj] at resolves
  -- A family starts where the narrower one has no more room, so `p` is at least one digit above.
  by_cases short : p ≤ 4
  · rw [if_pos short] at resolves
    cases resolves; cases room
    exact ⟨short,
      holds_largest_iff (q := 1) rfl digits (by decide) (by decide)⟩
  rw [if_neg short] at resolves
  by_cases middle : p ≤ 9
  · rw [if_pos middle] at resolves
    cases resolves; cases room
    exact ⟨middle,
      holds_largest_iff (q := 5) rfl (by omega) (by decide) (by decide)⟩
  rw [if_neg middle] at resolves
  by_cases long : p ≤ 18
  · rw [if_pos long] at resolves
    cases resolves; cases room
    exact ⟨long,
      holds_largest_iff (q := 10) rfl (by omega) (by decide) (by decide)⟩
  · rw [if_neg long] at resolves
    cases resolves; cases room

/-- Nine digits and no zeros lose nothing. -/
theorem nineDigits_preserved :
    semantic? (number 9 0) "AMOUNT" = some .int ∧
      ∀ v : Int, v.natAbs ≤ largest 9 0 → Semantic.int.Holds v := by
  have resolves : semantic? (number 9 0) "AMOUNT" = some .int := by decide
  exact ⟨resolves,
    (range_preserved_iff (by decide) (by decide) (by decide) resolves rfl).2.mpr (by decide)⟩

/-- Four digits and two zeros make a short integer, which does not hold `999900`. -/
theorem hundreds_lost :
    semantic? "NUMBER(4,-2)" "AMOUNT" = some .shortInt ∧
      (999900 : Int).natAbs ≤ largest 4 (-2) ∧ ¬ Semantic.shortInt.Holds 999900 := by
  refine ⟨by decide, by decide, ?_⟩
  rw [Semantic.holds_iff rfl]
  decide

end Declaration

end Tablecast
