import Mathlib.Algebra.Order.Field.Basic
import Mathlib.Algebra.Order.Round
import Mathlib.Tactic.Linarith
import Mathlib.Tactic.NormNum

/-! Rounding to the nearest, halves away from zero, and which bounds it keeps. -/
namespace Wiremap.Library.Rounding

variable {K : Type u} [Field K] [LinearOrder K] [FloorRing K]

def mathRound (x : K) : Int := if 0 ≤ x then round x else -round (-x)

def roundTo (parts : Nat) (x : K) : K := mathRound (x * parts) / parts

def roundHundredths (x : K) : K := roundTo 100 x

variable [IsStrictOrderedRing K]

theorem mathRound_nonneg {x : K} (h : 0 ≤ x) : 0 ≤ mathRound x := by
  rw [mathRound, if_pos h, round_eq]
  exact Int.floor_nonneg.mpr (by linarith)

theorem mathRound_le_iff {x : K} {n : Int} (hn : 0 ≤ n) : mathRound x ≤ n ↔ x < n + 1 / 2 := by
  have hcast : (0 : K) ≤ n := by exact_mod_cast hn
  rw [mathRound, round_eq, round_eq]
  split
  · rw [← Int.lt_add_one_iff, Int.floor_lt]
    push_cast
    constructor <;> intro h <;> linarith
  · -- below zero both sides hold
    rename_i hneg
    have hfloor : 0 ≤ ⌊-x + 1 / 2⌋ := Int.floor_nonneg.mpr (by linarith)
    exact iff_of_true (by omega) (by linarith)

theorem roundTo_nonneg {parts : Nat} {x : K} (h : 0 ≤ x) : 0 ≤ roundTo parts x := by
  have hround : (0 : K) ≤ mathRound (x * parts) := by
    exact_mod_cast mathRound_nonneg (mul_nonneg h parts.cast_nonneg)
  exact div_nonneg hround parts.cast_nonneg

/-- Rounding keeps a value below a whole number, or within half of a part above it. -/
theorem roundTo_le_iff {parts : Nat} (hparts : 0 < parts) {x : K} (n : Nat) :
    roundTo parts x ≤ n ↔ x * parts < n * parts + 1 / 2 := by
  have hpos : (0 : K) < parts := by exact_mod_cast hparts
  have hcast : (mathRound (x * parts) : K) ≤ n * parts ↔
      mathRound (x * parts) ≤ (n * parts : Int) := by
    norm_cast
  rw [roundTo, div_le_iff₀ hpos, hcast, mathRound_le_iff (by positivity)]
  push_cast
  rfl

theorem roundHundredths_nonneg {x : K} (h : 0 ≤ x) : 0 ≤ roundHundredths x := roundTo_nonneg h

theorem roundHundredths_le_iff {x : K} (n : Nat) : roundHundredths x ≤ n ↔ x < n + 1 / 200 := by
  rw [roundHundredths, roundTo_le_iff (by norm_num)]
  push_cast
  constructor <;> intro h <;> linarith

theorem roundHundredths_percent_le_iff {part whole : Int} (hwhole : 0 < whole) :
    roundHundredths ((part : K) / whole * 100) ≤ (100 : Nat) ↔ 20000 * part < 20001 * whole := by
  have hpos : (0 : K) < whole := by exact_mod_cast hwhole
  rw [roundHundredths_le_iff, div_mul_eq_mul_div, div_lt_iff₀ hpos]
  have hcast : (20000 * part : K) < 20001 * whole ↔ 20000 * part < 20001 * whole := by
    norm_cast
  rw [← hcast]
  push_cast
  constructor <;> intro h <;> linarith

end Wiremap.Library.Rounding
