import Boomerang.Address
import Boomerang.Text.Number
import Mathlib.Data.List.Forall2
import Mathlib.Data.Nat.Digits.Defs
import Mathlib.Tactic.IntervalCases

/-!
Numbers in text. A numeral is a row of digits with its value in positional notation; what is read
as a number is a numeral below the limit, at most with a plus sign in front. A signed number may have
a minus sign instead. What is printed is a numeral of the number.
-/

set_option autoImplicit false

namespace Boomerang.Text

/-- A character as a digit: letters continue the decimal digits, in either case. -/
def Digit (c : Char) (value : Nat) : Prop :=
  value < 16 ∧ (c = Nat.digitChar value ∨ c = (Nat.digitChar value).toUpper)

instance (c : Char) (value : Nat) : Decidable (Digit c value) :=
  inferInstanceAs (Decidable (_ ∧ (_ ∨ _)))

/-- A row of digits, the highest first. -/
def Numeral (base value : Nat) (cs : List Char) : Prop :=
  cs ≠ [] ∧ ∃ digits : List Nat, List.Forall₂ Digit cs digits ∧ (∀ d ∈ digits, d < base) ∧
    Nat.ofDigits base digits.reverse = value

def Number (base limit value : Nat) (cs : List Char) : Prop :=
  value < limit ∧ (Numeral base value cs ∨ ∃ digits, cs = '+' :: digits ∧ Numeral base value digits)

/-- A decimal numeral behind at most one sign. -/
inductive SignedNumeral : Int → List Char → Prop
  | bare {n : Nat} {digits : List Char} (numeral : Numeral 10 n digits) : SignedNumeral n digits
  | plus {n : Nat} {digits : List Char} (numeral : Numeral 10 n digits) :
      SignedNumeral n ('+' :: digits)
  | minus {n : Nat} {digits : List Char} (numeral : Numeral 10 n digits) :
      SignedNumeral (-n) ('-' :: digits)

structure Integer (bits : Nat) (value : Int) (cs : List Char) : Prop where
  low : -2 ^ (bits - 1) ≤ value
  high : value < 2 ^ (bits - 1)
  numeral : SignedNumeral value cs

variable {base limit value n : Nat} {c : Char} {cs : List Char}

theorem digit_digitChar (small : n < 16) : Digit (Nat.digitChar n) n := ⟨small, Or.inl rfl⟩

theorem digit?_of_digit (digit : Digit c value) (inside : value < base) :
    digit? base c = some value := by
  obtain ⟨small, shape⟩ := digit
  have bare : digit? 16 c = some value := by
    rcases shape with rfl | rfl
    all_goals
      interval_cases value
      all_goals decide
  unfold digit? at bare ⊢
  rw [Option.filter_eq_some_iff] at bare ⊢
  exact ⟨bare.1, decide_eq_true inside⟩

theorem digit_of_run {low high : Char} (first : Nat)
    (run : ∀ i ≤ high.toNat - low.toNat, Digit (Char.ofNat (low.toNat + i)) (first + i))
    (above : low ≤ c) (below : c ≤ high) : Digit c (first + (c.toNat - low.toNat)) := by
  have above : low.toNat ≤ c.toNat := above
  have below : c.toNat ≤ high.toNat := below
  have digit := run (c.toNat - low.toNat) (by omega)
  rwa [Nat.add_sub_cancel' above, Char.ofNat_toNat] at digit

theorem digit_of_digit? (read : digit? base c = some value) : value < base ∧ Digit c value := by
  unfold digit? at read
  rw [Option.filter_eq_some_iff, decide_eq_true_eq] at read
  obtain ⟨shape, inside⟩ := read
  refine ⟨inside, ?_⟩
  split at shape
  case isTrue decimal =>
    have digit := digit_of_run 0 (by decide) decimal.1 decimal.2
    rwa [Nat.zero_add, show c.toNat - '0'.toNat = value from Option.some.inj shape] at digit
  case isFalse =>
    split at shape
    case isTrue lower =>
      have above : 97 ≤ c.toNat := lower.1
      have place : 10 + (c.toNat - 'a'.toNat) = c.toNat - 87 := by
        rw [show 'a'.toNat = 97 from rfl]
        omega
      have digit := digit_of_run 10 (by decide) lower.1 lower.2
      rwa [place, Option.some.inj shape] at digit
    case isFalse =>
      split at shape
      case isTrue upper =>
        have above : 65 ≤ c.toNat := upper.1
        have place : 10 + (c.toNat - 'A'.toNat) = c.toNat - 55 := by
          rw [show 'A'.toNat = 65 from rfl]
          omega
        have digit := digit_of_run 10 (by decide) upper.1 upper.2
        rwa [place, Option.some.inj shape] at digit
      case isFalse => cases shape

theorem digit?_eq_some_iff : digit? base c = some value ↔ value < base ∧ Digit c value :=
  ⟨digit_of_digit?, fun ⟨inside, digit⟩ => digit?_of_digit digit inside⟩

theorem Digit.ne {d : Char} (digit : Digit c value) (unread : digit? 16 d = none) : c ≠ d := by
  rintro rfl
  rw [digit?_of_digit digit digit.1] at unread
  cases unread

/-! ## Reading -/

theorem digitsFrom?_eq_some_iff {high : Nat} : digitsFrom? base high cs = some value ↔
    ∃ digits : List Nat, List.Forall₂ Digit cs digits ∧ (∀ d ∈ digits, d < base) ∧
      digits.foldl (fun high d => base * high + d) high = value := by
  induction cs generalizing high with
  | nil => simp [digitsFrom?]
  | cons c rest ih =>
    rw [digitsFrom?, Option.bind_eq_some_iff]
    simp only [digit?_eq_some_iff, ih, List.forall₂_cons_left_iff]
    constructor
    · rintro ⟨d, ⟨inside, digit⟩, digits, all, bound, rfl⟩
      exact ⟨d :: digits, ⟨d, digits, digit, all, rfl⟩, List.forall_mem_cons.2 ⟨inside, bound⟩, rfl⟩
    · rintro ⟨_, ⟨d, digits, digit, all, rfl⟩, bound, rfl⟩
      obtain ⟨inside, bound⟩ := List.forall_mem_cons.1 bound
      exact ⟨d, ⟨inside, digit⟩, digits, all, bound, rfl⟩

theorem ofDigits_reverse (base : Nat) (digits : List Nat) :
    Nat.ofDigits base digits.reverse = digits.foldl (fun high d => base * high + d) 0 := by
  rw [Nat.ofDigits_eq_foldr, List.foldr_reverse]
  simp only [Nat.cast_id, Nat.add_comm]

theorem digits?_eq_some_iff : digits? base cs = some value ↔ Numeral base value cs := by
  rw [Numeral]
  simp only [ofDigits_reverse]
  cases cs with
  | nil => simp [digits?]
  | cons c rest =>
    rw [digits?, digitsFrom?_eq_some_iff]
    · simp
    · simp

theorem Numeral.exists_digit (numeral : Numeral base value cs) (member : c ∈ cs) :
    ∃ d, Digit c d := by
  obtain ⟨-, digits, all, -⟩ := numeral
  induction all with
  | nil => cases member
  | cons digit _ ih =>
    rcases List.mem_cons.1 member with rfl | later
    · exact ⟨_, digit⟩
    · exact ih later

theorem not_numeral_plus (digits : List Char) : ¬ Numeral base value ('+' :: digits) := by
  intro numeral
  obtain ⟨d, digit⟩ := numeral.exists_digit List.mem_cons_self
  exact digit.ne rfl rfl

theorem natural?_eq_some_iff :
    natural? base limit cs = some value ↔ Number base limit value cs := by
  unfold natural?
  rw [Option.filter_eq_some_iff, decide_eq_true_eq, and_comm, Number]
  refine and_congr_right fun _ => ?_
  split
  case h_1 rest =>
    rw [digits?_eq_some_iff]
    constructor
    · exact fun numeral => Or.inr ⟨rest, rfl, numeral⟩
    · rintro (numeral | ⟨digits, same, numeral⟩)
      · exact absurd numeral (not_numeral_plus rest)
      · cases same
        exact numeral
  case h_2 unsigned =>
    rw [digits?_eq_some_iff]
    constructor
    · exact Or.inl
    · rintro (numeral | ⟨digits, same, _⟩)
      · exact numeral
      · exact absurd same (unsigned digits)

theorem numeral_singleton_iff : Numeral base value [c] ↔ value < base ∧ Digit c value := by
  rw [← digits?_eq_some_iff, ← digit?_eq_some_iff, digits?, digitsFrom?]
  · simp [digitsFrom?]
  · simp

theorem numeral_pair_iff {d : Char} : Numeral base value [c, d] ↔
    ∃ high low, (high < base ∧ Digit c high) ∧ (low < base ∧ Digit d low) ∧
      value = base * high + low := by
  rw [← digits?_eq_some_iff, digits?, digitsFrom?_eq_some_iff]
  · constructor
    · rintro ⟨digits, all, bound, rfl⟩
      obtain ⟨high, _, first, rest, rfl⟩ := List.forall₂_cons_left_iff.1 all
      obtain ⟨low, _, second, none, rfl⟩ := List.forall₂_cons_left_iff.1 rest
      cases none
      exact ⟨high, low, ⟨bound high (by simp), first⟩, ⟨bound low (by simp), second⟩, by simp⟩
    · rintro ⟨high, low, ⟨inside, first⟩, ⟨within, second⟩, rfl⟩
      exact ⟨[high, low], .cons first (.cons second .nil), by simp [inside, within], by simp⟩
  · simp

theorem Number.ne_nil (number : Number base limit value cs) : cs ≠ [] := by
  obtain ⟨_, numeral | ⟨digits, rfl, _⟩⟩ := number
  · exact numeral.1
  · exact List.cons_ne_nil _ _

theorem Number.ne {d : Char} (number : Number base limit value cs) (unread : digit? 16 d = none)
    (unsigned : d ≠ '+') (member : c ∈ cs) : c ≠ d := by
  obtain ⟨_, numeral | ⟨digits, rfl, numeral⟩⟩ := number
  · obtain ⟨n, digit⟩ := numeral.exists_digit member
    exact digit.ne unread
  · rcases List.mem_cons.1 member with rfl | later
    · exact unsigned.symm
    · obtain ⟨n, digit⟩ := numeral.exists_digit later
      exact digit.ne unread

theorem SignedNumeral.ne {d : Char} {i : Int} (numeral : SignedNumeral i cs)
    (unread : digit? 16 d = none) (unsigned : d ≠ '+' ∧ d ≠ '-') (member : c ∈ cs) : c ≠ d := by
  have inside : ∀ {n : Nat} {digits : List Char}, Numeral 10 n digits → c ∈ digits → c ≠ d := by
    intro n digits numeral member
    obtain ⟨_, digit⟩ := numeral.exists_digit member
    exact digit.ne unread
  cases numeral with
  | bare numeral => exact inside numeral member
  | plus numeral =>
    rcases List.mem_cons.1 member with rfl | later
    · exact unsigned.1.symm
    · exact inside numeral later
  | minus numeral =>
    rcases List.mem_cons.1 member with rfl | later
    · exact unsigned.2.symm
    · exact inside numeral later

theorem not_numeral_minus (digits : List Char) : ¬ Numeral base value ('-' :: digits) := by
  intro numeral
  obtain ⟨d, digit⟩ := numeral.exists_digit List.mem_cons_self
  exact digit.ne rfl rfl

theorem integer?_eq_some_iff {bits : Nat} {i : Int} :
    integer? bits cs = some i ↔ Integer bits i cs := by
  have limit : Int.ofNat (1 <<< (bits - 1)) = 2 ^ (bits - 1) := by
    rw [Nat.one_shiftLeft]
    simp
  unfold integer?
  rw [Option.filter_eq_some_iff, decide_eq_true_eq, limit]
  constructor
  · rintro ⟨read, low, high⟩
    refine ⟨low, high, ?_⟩
    split at read
    all_goals
      obtain ⟨_, cast, rfl⟩ := Option.map_eq_some_iff.1 read
      obtain ⟨n, digits, rfl⟩ := Option.map_eq_some_iff.1 ((Option.map_eq_bind ..).trans cast)
      have numeral := digits?_eq_some_iff.1 digits
    case h_1 => exact .minus numeral
    case h_2 => exact .plus numeral
    case h_3 => exact .bare numeral
  · rintro ⟨low, high, numeral⟩
    refine ⟨?_, low, high⟩
    cases numeral with
    | plus numeral | minus numeral => simp [digits?_eq_some_iff.2 numeral]
    | bare numeral =>
      have read := digits?_eq_some_iff.2 numeral
      split
      case h_1 rest => exact absurd numeral (not_numeral_minus rest)
      case h_2 rest => exact absurd numeral (not_numeral_plus rest)
      case h_3 => simp [read]

/-! ## Printing -/

theorem numeral_singleton (small : n < 16) (inside : n < base) :
    Numeral base n [Nat.digitChar n] :=
  ⟨List.cons_ne_nil _ _, [n], .cons (digit_digitChar small) .nil, by simpa using inside,
    by simp⟩

theorem Numeral.snoc (numeral : Numeral base value cs) (digit : Digit c n) (inside : n < base) :
    Numeral base (base * value + n) (cs ++ [c]) := by
  obtain ⟨_, digits, all, bound, rfl⟩ := numeral
  refine ⟨by simp, digits ++ [n], List.rel_append all (.cons digit .nil), ?_, ?_⟩
  · intro d member
    rcases List.mem_append.1 member with earlier | last
    · exact bound d earlier
    · rw [List.mem_singleton.1 last]
      exact inside
  · rw [List.reverse_concat, Nat.ofDigits_cons, Nat.add_comm]

theorem numeral_toDigits (proper : 1 < base) (known : base ≤ 16) (n : Nat) :
    Numeral base n (Nat.toDigits base n) := by
  induction n using Nat.strong_induction_on with
  | _ n ih =>
    by_cases single : n < base
    · rw [Nat.toDigits_of_lt_base single]
      exact numeral_singleton (by omega) single
    · have last : n % base < base := Nat.mod_lt n (by omega)
      have shorter : n / base < n := Nat.div_lt_self (by omega) proper
      rw [Nat.toDigits_of_base_le proper (Nat.le_of_not_lt single)]
      have printed := (ih (n / base) shorter).snoc (digit_digitChar (by omega)) last
      rwa [Nat.div_add_mod] at printed

theorem numeral_toString (n : Nat) : Numeral 10 n (toString n).toList := by
  rw [Nat.toString_eq_ofList_toDigits, String.toList_ofList]
  exact numeral_toDigits (by decide) (by decide) n

theorem exists_digit_of_mem_toString (member : c ∈ (toString n).toList) : ∃ d, Digit c d :=
  (numeral_toString n).exists_digit member

theorem number_toString (small : n < limit) : Number 10 limit n (toString n).toList :=
  ⟨small, Or.inl (numeral_toString n)⟩

theorem signedNumeral_toString (i : Int) : SignedNumeral i (toString i).toList := by
  cases i with
  | ofNat n => exact .bare (numeral_toString n)
  | negSucc n =>
    have printed : (toString (Int.negSucc n)).toList = '-' :: (toString (n + 1)).toList := by
      rw [show toString (Int.negSucc n) = "-" ++ toString (n + 1) from rfl, String.toList_append]
      rfl
    rw [printed, Int.negSucc_eq]
    exact .minus (numeral_toString (n + 1))

end Boomerang.Text
