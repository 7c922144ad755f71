import Boomerang.Config.Basic
import Boomerang.Proofs.Numeral
import Boomerang.Proofs.Pieces

/-!
Which texts are device specs. A spec has one to three parts between colons, each a number but the
first; nothing may be left empty. A device with a name that can stand in front of a colon is read
back from what it is written as, and so is every device that was read.
-/

set_option autoImplicit false

namespace Boomerang.DeviceSpec

open Text

/-- The parts of a spec and the device they make: a name, behind it the number of queues, behind
that the node. -/
inductive Parts : List (List Char) → DeviceSpec → Prop
  | name {name : List Char} (named : name ≠ []) : Parts [name] ⟨String.ofList name, 1, none⟩
  | queues {name queues : List Char} {count : UInt16} (named : name ≠ [])
      (number : Number 10 65536 count.toNat queues) :
      Parts [name, queues] ⟨String.ofList name, count, none⟩
  | node {name queues node : List Char} {count : UInt16} {home : Int32} (named : name ≠ [])
      (number : Number 10 65536 count.toNat queues) (integer : Integer 32 home.toInt node) :
      Parts [name, queues, node] ⟨String.ofList name, count, some home⟩

/-- The text has exactly these parts, with single colons between them. -/
def Spells (s : String) (d : DeviceSpec) : Prop :=
  ∃ parts, Joined isSeparator parts s.toList ∧ Parts parts d

/-- A name that leaves no doubt where it ends. -/
structure Named (d : DeviceSpec) : Prop where
  some : d.name ≠ ""
  plain : ':' ∉ d.name.toList

variable {s : String} {d : DeviceSpec} {cs : List Char}

/-! ## Numbers -/

theorem queues?_eq_some_iff {count : UInt16} :
    queues? cs = some count ↔ Number 10 65536 count.toNat cs := by
  rw [queues?, Option.map_eq_some_iff]
  constructor
  · rintro ⟨n, read, rfl⟩
    have number := natural?_eq_some_iff.1 read
    rwa [UInt16.toNat_ofNat_of_lt' number.1]
  · intro number
    exact ⟨count.toNat, natural?_eq_some_iff.2 number, UInt16.ofNat_toNat⟩

theorem numaNode?_eq_some_iff {home : Int32} :
    numaNode? cs = some home ↔ Integer 32 home.toInt cs := by
  rw [numaNode?, Option.map_eq_some_iff]
  constructor
  · rintro ⟨i, read, rfl⟩
    have integer := integer?_eq_some_iff.1 read
    rwa [Int32.toInt_ofInt_of_le integer.low integer.high]
  · intro integer
    exact ⟨home.toInt, integer?_eq_some_iff.2 integer, Int32.ofInt_toInt home⟩

/-! ## Texts -/

theorem ofList_ne_empty_iff : String.ofList cs ≠ "" ↔ cs ≠ [] := by
  rw [ne_eq, ← String.toList_inj, String.toList_ofList]
  rfl

theorem ofPieces?_eq_some_iff {parts : List (List Char)} :
    ofPieces? parts = some d ∧ d.name ≠ "" ↔ Parts parts d := by
  constructor
  · rintro ⟨read, named⟩
    unfold ofPieces? at read
    split at read
    case h_1 =>
      cases read
      exact .name (ofList_ne_empty_iff.1 named)
    case h_2 =>
      obtain ⟨count, counted, rfl⟩ := Option.map_eq_some_iff.1 read
      exact .queues (ofList_ne_empty_iff.1 named) (queues?_eq_some_iff.1 counted)
    case h_3 =>
      obtain ⟨count, counted, read⟩ := Option.bind_eq_some_iff.1 read
      obtain ⟨home, placed, rfl⟩ := Option.map_eq_some_iff.1 read
      exact .node (ofList_ne_empty_iff.1 named) (queues?_eq_some_iff.1 counted)
        (numaNode?_eq_some_iff.1 placed)
    case h_4 => cases read
  · intro spelled
    cases spelled with
    | name named => exact ⟨rfl, ofList_ne_empty_iff.2 named⟩
    | queues named number =>
      rw [ofPieces?, queues?_eq_some_iff.2 number]
      exact ⟨rfl, ofList_ne_empty_iff.2 named⟩
    | node named number integer =>
      rw [ofPieces?, queues?_eq_some_iff.2 number, numaNode?_eq_some_iff.2 integer]
      exact ⟨rfl, ofList_ne_empty_iff.2 named⟩

theorem ofText?_eq_some_iff : ofText? s = some d ↔ Spells s d := by
  simp only [ofText?, Spells, Option.filter_eq_some_iff, bne_iff_ne, ofPieces?_eq_some_iff,
    ← pieces_eq_iff, exists_eq_left']

theorem read_eq_ok_iff : read s = .ok d ↔ Spells s d := by
  rw [← ofText?_eq_some_iff]
  unfold read
  cases ofText? s with
  | some other => rw [Except.ok.injEq, Option.some.injEq]
  | none => simp

theorem read_of_not_spelled (none : ∀ d, ¬ Spells s d) : read s = .error (.invalidDevice s) := by
  unfold read
  cases found : ofText? s with
  | some other => exact absurd (ofText?_eq_some_iff.1 found) (none other)
  | none => rfl

/-! ## Written specs -/

theorem isSeparator_of_numeral {i : Int} (numeral : SignedNumeral i cs) :
    ∀ c ∈ cs, isSeparator c = false :=
  fun _ member => decide_eq_false (numeral.ne rfl (by decide) member)

theorem isSeparator_of_number {base limit value : Nat} (number : Number base limit value cs) :
    ∀ c ∈ cs, isSeparator c = false :=
  fun _ member => decide_eq_false (number.ne rfl (by decide) member)

theorem spells_text (named : Named d) : Spells d.text d := by
  obtain ⟨name, count, node⟩ := d
  have some : name.toList ≠ [] := mt String.toList_eq_nil_iff.1 named.some
  have plain : ∀ c ∈ name.toList, isSeparator c = false := by
    intro c member
    refine decide_eq_false ?_
    rintro rfl
    exact named.plain member
  have number : Number 10 65536 count.toNat (toString count.toNat).toList :=
    number_toString count.toNat_lt
  have digits := isSeparator_of_number number
  cases node with
  | none =>
    refine ⟨[name.toList, (toString count.toNat).toList], ?_, ?_⟩
    · simpa [text] using Joined.more plain rfl (.last digits)
    · simpa using Parts.queues some number
  | some home =>
    have integer : Integer 32 home.toInt (toString home.toInt).toList :=
      ⟨home.le_toInt, home.toInt_lt, signedNumeral_toString _⟩
    refine ⟨[name.toList, (toString count.toNat).toList, (toString home.toInt).toList], ?_, ?_⟩
    · simpa [text] using Joined.more plain rfl
        (.more digits rfl (.last (isSeparator_of_numeral integer.numeral)))
    · simpa using Parts.node some number integer

theorem Spells.named (spells : Spells s d) : Named d := by
  obtain ⟨parts, joined, made⟩ := spells
  have plain : ∀ {name}, name ∈ parts → ':' ∉ (String.ofList name).toList := by
    intro name member colon
    rw [String.toList_ofList] at colon
    have inside := joined.plain member colon
    cases inside
  cases made with
  | name named | queues named _ | node named _ _ =>
    exact ⟨ofList_ne_empty_iff.2 named, plain List.mem_cons_self⟩

structure Exact (read : String → Except ConfigError DeviceSpec) : Prop where
  accepted (s : String) (d : DeviceSpec) : read s = .ok d ↔ Spells s d
  refused (s : String) : (∀ d, ¬ Spells s d) → read s = .error (.invalidDevice s)
  written (d : DeviceSpec) : Named d → read d.text = .ok d
  /-- The written form need not be the text that was read. -/
  rewritten (s : String) (d : DeviceSpec) : read s = .ok d → read d.text = .ok d

theorem read_exact : Exact read where
  accepted _ _ := read_eq_ok_iff
  refused _ none := read_of_not_spelled none
  written _ named := read_eq_ok_iff.2 (spells_text named)
  rewritten _ _ ok := read_eq_ok_iff.2 (spells_text (read_eq_ok_iff.1 ok).named)

end Boomerang.DeviceSpec
