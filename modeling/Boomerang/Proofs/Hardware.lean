import Boomerang.Config.Basic
import Boomerang.Proofs.Numeral
import Boomerang.Proofs.Pieces

/-!
Which texts are hardware addresses. The grammar has six groups of two hexadecimal digits; what is
read is wider by one form, a group of a plus sign and one digit. Apart from texts with such a group
the two agree, and what is written in two digits for each octet is read back.
-/

set_option autoImplicit false

namespace Boomerang.Mac

open Text

def Pair (group : List Char) (b : UInt8) : Prop :=
  ∃ c d high low, group = [c, d] ∧ Digit c high ∧ Digit d low ∧ b.toNat = 16 * high + low

/-- A plus sign and one hexadecimal digit. -/
def Signed (group : List Char) (b : UInt8) : Prop :=
  ∃ d, group = ['+', d] ∧ Digit d b.toNat

def PairOrSigned (group : List Char) (b : UInt8) : Prop := Pair group b ∨ Signed group b

/-- A group for each of the six octets, in order, with single separators between them. -/
def Grouped (Group : List Char → UInt8 → Prop) (s : String) (m : Mac) : Prop :=
  ∃ groups, Joined isSeparator groups s.toList ∧ List.Forall₂ Group groups m.octets

/-- What reading a text comes to if addresses are made of such groups: the address, or else an
error with the text. -/
structure Reading (Group : List Char → UInt8 → Prop) (s : String)
    (result : Except ConfigError Mac) : Prop where
  accepted (m : Mac) : result = .ok m ↔ Grouped Group s m
  refused : (∀ m, ¬ Grouped Group s m) → result = .error (.invalidMac s)

def text (separator : Char) (m : Mac) : String :=
  separator.toString.intercalate (m.octets.map fun b => Address.hexPadded 2 b.toNat)

variable {b : UInt8} {group : List Char} {m : Mac} {s : String}

/-! ## Groups -/

theorem pair_of_number {c d : Char} {n : Nat} (small : n < 256) (numeral : Numeral 16 n [c, d]) :
    Pair [c, d] (UInt8.ofNat n) := by
  obtain ⟨high, low, ⟨_, first⟩, ⟨_, second⟩, value⟩ := numeral_pair_iff.1 numeral
  exact ⟨c, d, high, low, rfl, first, second, by rw [UInt8.toNat_ofNat_of_lt' small, value]⟩

theorem signed_of_number {d : Char} {n : Nat} (small : n < 256) (numeral : Numeral 16 n [d]) :
    Signed ['+', d] (UInt8.ofNat n) := by
  refine ⟨d, rfl, ?_⟩
  rw [UInt8.toNat_ofNat_of_lt' small]
  exact (numeral_singleton_iff.1 numeral).2

theorem group?_of_number {c d : Char} (number : Number 16 256 b.toNat [c, d]) :
    group? [c, d] = some b := by
  have read : natural? 16 256 [c, d] = some b.toNat := natural?_eq_some_iff.2 number
  rw [group?, if_pos (show [c, d].length = 2 from rfl), read, Option.map_some, UInt8.ofNat_toNat]

theorem group?_eq_some_iff : group? group = some b ↔ PairOrSigned group b := by
  constructor
  · intro read
    unfold group? at read
    split at read
    case isFalse => cases read
    case isTrue two =>
      obtain ⟨c, d, rfl⟩ := List.length_eq_two.1 two
      rw [Option.map_eq_some_iff] at read
      obtain ⟨n, number, rfl⟩ := read
      obtain ⟨small, numeral | ⟨digits, sign, numeral⟩⟩ := natural?_eq_some_iff.1 number
      · exact Or.inl (pair_of_number small numeral)
      · cases sign
        exact Or.inr (signed_of_number small numeral)
  · rintro (⟨c, d, high, low, rfl, first, second, value⟩ | ⟨d, rfl, digit⟩)
    · have numeral : Numeral 16 b.toNat [c, d] :=
        numeral_pair_iff.2 ⟨high, low, ⟨first.1, first⟩, ⟨second.1, second⟩, value⟩
      exact group?_of_number ⟨b.toNat_lt, Or.inl numeral⟩
    · have numeral : Numeral 16 b.toNat [d] := numeral_singleton_iff.2 ⟨digit.1, digit⟩
      exact group?_of_number ⟨b.toNat_lt, Or.inr ⟨[d], rfl, numeral⟩⟩

theorem Pair.exists_digit (pair : Pair group b) {c : Char} (member : c ∈ group) :
    ∃ value, Digit c value := by
  obtain ⟨c, d, high, low, rfl, first, second, _⟩ := pair
  rcases List.mem_pair.1 member with rfl | rfl
  · exact ⟨high, first⟩
  · exact ⟨low, second⟩

theorem Pair.plus_notMem (pair : Pair group b) : '+' ∉ group := by
  intro plus
  obtain ⟨value, digit⟩ := pair.exists_digit plus
  exact digit.ne rfl rfl

theorem Pair.unseparated (pair : Pair group b) {c : Char} (member : c ∈ group) :
    isSeparator c = false := by
  obtain ⟨value, digit⟩ := pair.exists_digit member
  have colon : c ≠ ':' := digit.ne rfl
  have hyphen : c ≠ '-' := digit.ne rfl
  simp [isSeparator, colon, hyphen]

theorem pair_hexPadded (b : UInt8) : Pair (Address.hexPadded 2 b.toNat).toList b := by
  have bound := b.toNat_lt
  rw [Address.hexPadded, String.toList_ofList]
  by_cases single : b.toNat < 16
  · rw [Nat.toDigits_of_lt_base single]
    exact ⟨_, _, 0, b.toNat, rfl, digit_digitChar (by decide), digit_digitChar single, by simp⟩
  · rw [Nat.toDigits_of_base_le (by decide) (by omega), Nat.toDigits_of_lt_base (by omega)]
    exact ⟨_, _, b.toNat / 16, b.toNat % 16, rfl, digit_digitChar (by omega),
      digit_digitChar (by omega), by omega⟩

/-! ## Texts -/

theorem ofText?_eq_some_iff : ofText? s = some m ↔ Grouped PairOrSigned s m := by
  have made (octets : Octets) : Address.ofOctets? 6 octets = some m ↔ octets = m.octets := by
    rw [Address.ofOctets?]
    constructor
    · intro found
      split at found
      · cases found
        rfl
      · cases found
    · rintro rfl
      exact dif_pos m.size_eq
  simp only [ofText?, Grouped, Option.bind_eq_some_iff, mapM_eq_some_iff, group?_eq_some_iff, made,
    exists_eq_right, ← pieces_eq_iff, exists_eq_left']

theorem reading_read (s : String) : Reading PairOrSigned s (read s) := by
  unfold read
  cases found : ofText? s with
  | some address =>
    have grouped := ofText?_eq_some_iff.1 found
    refine ⟨fun m => ?_, fun none => absurd grouped (none address)⟩
    rw [← ofText?_eq_some_iff, found, Except.ok.injEq, Option.some.injEq]
  | none =>
    refine ⟨fun m => ?_, fun _ => rfl⟩
    rw [← ofText?_eq_some_iff, found]
    simp

theorem Grouped.widen (grouped : Grouped Pair s m) : Grouped PairOrSigned s m := by
  obtain ⟨groups, joined, all⟩ := grouped
  exact ⟨groups, joined, all.imp fun _ _ => Or.inl⟩

theorem Grouped.plus_notMem (grouped : Grouped Pair s m) : '+' ∉ s.toList := by
  obtain ⟨groups, joined, all⟩ := grouped
  have signs : List.Forall₂ (fun group b => '+' ∉ group ∧ Pair group b) groups m.octets :=
    all.imp fun _ _ pair => ⟨pair.plus_notMem, pair⟩
  have unsigned := ((List.forall₂_and_left _ _).1 signs).1
  intro plus
  obtain ⟨group, among, inside⟩ := joined.exists_group plus rfl
  exact unsigned group among inside

theorem Grouped.narrow (grouped : Grouped PairOrSigned s m) (unsigned : '+' ∉ s.toList) :
    Grouped Pair s m := by
  obtain ⟨groups, joined, all⟩ := grouped
  have plain : ∀ group ∈ groups, '+' ∉ group :=
    fun group among plus => unsigned (joined.mem_of_group among plus)
  refine ⟨groups, joined, ((List.forall₂_and_left _ _).2 ⟨plain, all⟩).imp ?_⟩
  rintro group b ⟨plain, pair | ⟨d, rfl, _⟩⟩
  · exact pair
  · exact absurd List.mem_cons_self plain

theorem grouped_text {separator : Char} (proper : isSeparator separator = true) (m : Mac) :
    Grouped Pair (text separator m) m := by
  have printed : List.Forall₂ Pair
      (m.octets.map fun b => (Address.hexPadded 2 b.toNat).toList) m.octets :=
    List.forall₂_map_left_iff.2 (List.forall₂_same.2 fun b _ => pair_hexPadded b)
  refine ⟨_, ?_, printed⟩
  rw [text, String.toList_intercalate, List.map_map, Char.toString_eq_singleton,
    String.toList_singleton]
  refine joined_intercalate ?_ ?_ proper
  · intro none
    have six := m.size_eq
    rw [List.map_eq_nil_iff.1 none] at six
    cases six
  · intro group among c member
    obtain ⟨b, _, rfl⟩ := List.mem_map.1 among
    exact (pair_hexPadded b).unseparated member

/-- A text is read as it should be by the grammar of digit pairs, unless a group with a sign makes
an address of it; and an address is read back from its digit pairs. -/
theorem reads_pairs_iff (s : String) : Reading PairOrSigned s (read s) ∧
    (Reading Pair s (read s) ↔ ¬ ((∃ m, Grouped PairOrSigned s m) ∧ '+' ∈ s.toList)) ∧
    ∀ m, read (text ':' m) = .ok m ∧ read (text '-' m) = .ok m := by
  have wide := reading_read s
  refine ⟨wide, ⟨?_, ?_⟩, ?_⟩
  · rintro strict ⟨⟨m, grouped⟩, plus⟩
    exact ((strict.accepted m).1 ((wide.accepted m).2 grouped)).plus_notMem plus
  · intro proper
    have same (m : Mac) : Grouped Pair s m ↔ Grouped PairOrSigned s m :=
      ⟨Grouped.widen, fun grouped => grouped.narrow fun plus => proper ⟨⟨m, grouped⟩, plus⟩⟩
    exact ⟨fun m => (wide.accepted m).trans (same m).symm,
      fun none => wide.refused fun m grouped => none m ((same m).2 grouped)⟩
  · intro m
    exact ⟨((reading_read _).accepted m).2 (grouped_text rfl m).widen,
      ((reading_read _).accepted m).2 (grouped_text rfl m).widen⟩

/-- A plus sign in the place of a digit is taken. -/
theorem read_takes_sign : read "+2:00:00:00:00:01" = .ok (Address.mac 2 0 0 0 0 1) ∧
    ¬ Reading Pair "+2:00:00:00:00:01" (read "+2:00:00:00:00:01") := by
  have taken : read "+2:00:00:00:00:01" = .ok (Address.mac 2 0 0 0 0 1) := by decide +kernel
  refine ⟨taken, fun strict => ?_⟩
  exact ((strict.accepted _).1 taken).plus_notMem (by decide)

end Boomerang.Mac
