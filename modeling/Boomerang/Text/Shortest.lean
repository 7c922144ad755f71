/-!
The text of a floating point number: the fewest digits that read back as the number, and of those
the nearest. The decimal grids `10 ^ power` are tried from the coarsest on. All arithmetic is in
natural numbers, so nothing is rounded on the way.
-/

set_option autoImplicit false

namespace Boomerang.Text

/-- The number `mantissa * 2 ^ exponent`. It is narrow if the next smaller number is only half as
far away as the next larger one. -/
structure Binary where
  mantissa : Nat
  exponent : Int
  narrow : Bool
  deriving DecidableEq, Repr

namespace Binary

def ofBits (bits : UInt64) : Binary :=
  let unit := 1 <<< 52
  let fraction := bits.toNat % unit
  let biased : Nat := bits.toNat / unit % 2048
  if biased = 0 then ⟨fraction, -1074, false⟩
  else ⟨unit + fraction, biased - 1075, fraction = 0 && biased ≠ 1⟩

-- Quarters of a unit in the last place and points of the grid are brought to one scale.
def quarter (b : Binary) (power : Int) : Nat :=
  Nat.pow 2 (b.exponent - 2).toNat * Nat.pow 10 (-power).toNat

def point (b : Binary) (power : Int) : Nat :=
  Nat.pow 10 power.toNat * Nat.pow 2 (2 - b.exponent).toNat

def value (b : Binary) (power : Int) : Nat := 4 * b.mantissa * b.quarter power

def low (b : Binary) (power : Int) : Nat :=
  (4 * b.mantissa - if b.narrow then 1 else 2) * b.quarter power

def high (b : Binary) (power : Int) : Nat := (4 * b.mantissa + 2) * b.quarter power

/-- Whether `c * 10 ^ power` is nearer to the number than to its neighbours; the middle between two
numbers goes to the one with the even mantissa. -/
def Reads (b : Binary) (power : Int) (c : Nat) : Prop :=
  if b.mantissa % 2 = 0 then b.low power ≤ c * b.point power ∧ c * b.point power ≤ b.high power
  else b.low power < c * b.point power ∧ c * b.point power < b.high power

instance (b : Binary) (power : Int) (c : Nat) : Decidable (b.Reads power c) := by
  unfold Reads
  infer_instance

def onGrid? (b : Binary) (power : Int) : Option Nat :=
  let below := b.value power / b.point power
  let past := b.value power % b.point power
  if b.Reads power (below + 1) ∧ (¬ b.Reads power below ∨ b.point power ≤ 2 * past) then
    some (below + 1)
  else if b.Reads power below then some below
  else none

def digits (b : Binary) : Nat → Nat × Int
  | 0 => (0, 0)
  | rest + 1 =>
    match b.onGrid? ((rest : Int) - 343) with
    | some c => (c, (rest : Int) - 343)
    | none => digits b rest

variable {b : Binary} {power : Int} {c : Nat}

theorem point_pos (b : Binary) (power : Int) : 0 < b.point power :=
  Nat.mul_pos (Nat.pow_pos (by decide)) (Nat.pow_pos (by decide))

theorem low_le_value (b : Binary) (power : Int) : b.low power ≤ b.value power :=
  Nat.mul_le_mul_right _ (Nat.sub_le _ _)

theorem value_lt_high (b : Binary) (power : Int) : b.value power < b.high power :=
  Nat.mul_lt_mul_of_pos_right (Nat.lt_add_of_pos_right (by decide))
    (Nat.mul_pos (Nat.pow_pos (by decide)) (Nat.pow_pos (by decide)))

theorem Reads.around (reads : b.Reads power c) :
    b.Reads power (b.value power / b.point power) ∨
      b.Reads power (b.value power / b.point power + 1) := by
  have low := b.low_le_value power
  have high := b.value_lt_high power
  have before := Nat.div_mul_le_self (b.value power) (b.point power)
  have behind := Nat.lt_mul_div_succ (b.value power) (b.point_pos power)
  rw [Nat.mul_comm] at behind
  generalize b.value power / b.point power = below at *
  unfold Reads at reads ⊢
  rcases Nat.lt_or_ge below c with later | earlier
  · have step : (below + 1) * b.point power ≤ c * b.point power := Nat.mul_le_mul_right _ later
    refine .inr ?_
    split <;> split at reads <;> omega
  · have step : c * b.point power ≤ below * b.point power := Nat.mul_le_mul_right _ earlier
    refine .inl ?_
    split <;> split at reads <;> omega

theorem onGrid?_eq_none_iff : b.onGrid? power = none ↔ ∀ c, ¬ b.Reads power c := by
  unfold onGrid?
  dsimp only
  constructor
  · intro nothing c reads
    split at nothing
    · cases nothing
    case isFalse above =>
      split at nothing
      · cases nothing
      case isFalse below => exact above ⟨reads.around.resolve_left below, .inl below⟩
  · intro none
    rw [if_neg fun above => none _ above.1, if_neg (none _)]

theorem reads_of_onGrid? (found : b.onGrid? power = some c) : b.Reads power c := by
  unfold onGrid? at found
  dsimp only at found
  split at found
  case isTrue above =>
    cases found
    exact above.1
  case isFalse =>
    split at found
    case isTrue below =>
      cases found
      exact below
    case isFalse => cases found

/-- The digits read back as the number, and no coarser grid has digits that do. -/
theorem digits_shortest (b : Binary) (grids : Nat) :
    (∀ k < grids, ∀ c, ¬ b.Reads ((k : Int) - 343) c) ∨
      b.Reads (b.digits grids).2 (b.digits grids).1 ∧
        ∀ k < grids, (b.digits grids).2 < (k : Int) - 343 → ∀ c, ¬ b.Reads ((k : Int) - 343) c := by
  induction grids with
  | zero => exact .inl fun _ never => absurd never (Nat.not_lt_zero _)
  | succ grids ih =>
    rw [digits]
    cases found : b.onGrid? ((grids : Int) - 343) with
    | some c =>
      dsimp only
      exact .inr ⟨reads_of_onGrid? found, fun k inside coarser => by omega⟩
    | none =>
      have coarsest := onGrid?_eq_none_iff.1 found
      rcases ih with nothing | ⟨reads, nothing⟩
      · refine .inl fun k inside => ?_
        rcases Nat.lt_succ_iff_lt_or_eq.1 inside with finer | rfl
        · exact nothing k finer
        · exact coarsest
      · refine .inr ⟨reads, fun k inside coarser => ?_⟩
        rcases Nat.lt_succ_iff_lt_or_eq.1 inside with finer | rfl
        · exact nothing k finer coarser
        · exact coarsest

end Binary

/-- Digits with a point behind the first `place` of them. Numbers that are very large or very small
get an exponent. -/
def pointed (digits : List Char) (place : Int) : List Char :=
  if 16 < place ∨ place < -3 then
    digits.take 1 ++ (if digits.length = 1 then [] else '.' :: digits.drop 1) ++
      'e' :: (toString (place - 1)).toList
  else if place ≤ 0 then '0' :: '.' :: List.replicate (-place).toNat '0' ++ digits
  else if digits.length ≤ place.toNat then
    digits ++ List.replicate (place.toNat - digits.length) '0' ++ ['.', '0']
  else digits.take place.toNat ++ '.' :: digits.drop place.toNat

def float (x : Float) : String :=
  if x.isNaN then "NaN"
  else
    let sign := if x.toBits.toNat >>> 63 = 0 then "" else "-"
    let b := Binary.ofBits x.toBits
    if x.isInf then sign ++ "inf"
    else if b.mantissa = 0 then sign ++ "0.0"
    else
      let (c, power) := b.digits 653
      let digits := Nat.toDigits 10 c
      sign ++ String.ofList (pointed digits (digits.length + power))

end Boomerang.Text
