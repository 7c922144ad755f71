import Boomerang.Proofs.Numeral
import Boomerang.Proofs.Pieces
import Boomerang.Topology.CpuList
import Mathlib.Data.Finset.Sort
import Mathlib.Order.Interval.Finset.Nat

/-!
What a list of CPUs in text means. An item stands for the CPUs between its two ends, and a list for
all the CPUs of its items; reading a list gives exactly these, in ascending order, and fails on
nothing but an item that stands for none. Hence the order of the items and repetitions among them
do not matter, and any set of CPUs is read back from any way of writing it down.
-/

set_option autoImplicit false

namespace Boomerang.CpuList

open Text

/-- What stands between two commas of a text, without the blanks around it, if anything is left. -/
def Item (s : String) (item : List Char) : Prop :=
  item ≠ [] ∧ ∃ parts, Joined isSeparator parts s.toList ∧ ∃ part ∈ parts, Trimmed item part

/-- The first and the last of the CPUs that an item stands for. A range is cut at its first hyphen,
and blanks may stand around its ends. -/
inductive Denotes : List Char → Nat → Nat → Prop
  | single {item : List Char} {cpu : Nat} (number : Number 10 limit64 cpu item) :
      Denotes item cpu cpu
  | range {before after start finish : List Char} {first last : Nat} (cut : '-' ∉ before)
      (trimmedStart : Trimmed start before) (numberStart : Number 10 limit64 first start)
      (trimmedFinish : Trimmed finish after) (numberFinish : Number 10 limit64 last finish)
      (ordered : first ≤ last) : Denotes (before ++ '-' :: after) first last

/-- The result of reading a text is the union of its items. -/
structure Union (s : String) (result : Except CpuError (List Nat)) : Prop where
  accepted : (∃ cpus, result = .ok cpus) ↔
    ∀ item, Item s item → ∃ first last, Denotes item first last
  ascending (cpus : List Nat) : result = .ok cpus → cpus.Pairwise (· < ·)
  members (cpus : List Nat) : result = .ok cpus → ∀ cpu, cpu ∈ cpus ↔
    ∃ item first last, Item s item ∧ Denotes item first last ∧ first ≤ cpu ∧ cpu ≤ last
  refused (e : CpuError) : result = .error e → e = .invalidList s

/-- A CPU or a range of CPUs to be written. -/
inductive Entry where
  | single (cpu : Fin limit64)
  | range (first last : Fin limit64) (ordered : first ≤ last)

namespace Entry

def first : Entry → Nat
  | .single cpu => cpu
  | .range first _ _ => first

def last : Entry → Nat
  | .single cpu => cpu
  | .range _ last _ => last

def text : Entry → String
  | .single cpu => toString cpu.val
  | .range first last _ => toString first.val ++ "-" ++ toString last.val

end Entry

def listText (entries : List Entry) : String := ",".intercalate (entries.map Entry.text)

/-- The entries name the CPUs of the set and no others; they may overlap and stand in any order. -/
def Covers (entries : List Entry) (cpus : Finset Nat) : Prop :=
  ∀ cpu, cpu ∈ cpus ↔ ∃ e ∈ entries, e.first ≤ cpu ∧ cpu ≤ e.last

variable {s : String} {item : List Char} {cpus : List Nat} {cpu first last : Nat}

/-! ## Items -/

theorem isSeparator_of_isBlank (c : Char) (blank : isBlank c = true) : isSeparator c = false := by
  rw [isSeparator, decide_eq_false_iff_not]
  rintro rfl
  cases blank

theorem mem_items_iff : item ∈ items s.toList ↔ Item s item := by
  rw [items, trimmed_pieces_trim isSeparator_of_isBlank, List.mem_filter, List.mem_map, Item]
  simp only [← pieces_eq_iff, exists_eq_left', ← trim_eq_iff]
  rw [and_comm, Bool.not_eq_true', List.isEmpty_eq_false_iff]

theorem item?_of_denotes (denotes : Denotes item first last) :
    item? item = some (List.range' first (last + 1 - first)) := by
  cases denotes with
  | single number =>
    have plain : '-' ∉ item := fun hyphen => number.ne rfl (by decide) hyphen rfl
    rw [item?, cut?_eq_none plain]
    simp only [cpu?, natural?_eq_some_iff.2 number, Option.map_some, Nat.add_sub_cancel_left]
    rfl
  | range cut trimmedStart numberStart trimmedFinish numberFinish ordered =>
    rw [item?, cut?_append_cons _ cut]
    simp only [trim_eq_iff.2 trimmedStart, trim_eq_iff.2 trimmedFinish, cpu?,
      natural?_eq_some_iff.2 numberStart, natural?_eq_some_iff.2 numberFinish, Option.bind_some]
    exact if_pos ordered

theorem denotes_of_item? (read : item? item = some cpus) :
    ∃ first last, Denotes item first last ∧ cpus = List.range' first (last + 1 - first) := by
  unfold item? at read
  split at read
  case h_1 before after cut =>
    obtain ⟨rfl, absent⟩ := eq_of_cut? cut
    obtain ⟨first, start, read⟩ := Option.bind_eq_some_iff.1 read
    obtain ⟨last, finish, read⟩ := Option.bind_eq_some_iff.1 read
    unfold range? at read
    split at read
    case isTrue ordered =>
      refine ⟨first, last, ?_, (Option.some.inj read).symm⟩
      exact .range absent (trimmed_trim before) (natural?_eq_some_iff.1 start)
        (trimmed_trim after) (natural?_eq_some_iff.1 finish) ordered
    case isFalse => cases read
  case h_2 =>
    obtain ⟨cpu, number, rfl⟩ := Option.map_eq_some_iff.1 read
    refine ⟨cpu, cpu, .single (natural?_eq_some_iff.1 number), ?_⟩
    rw [Nat.add_sub_cancel_left]
    rfl

theorem mem_range'_iff (ordered : first ≤ last) :
    cpu ∈ List.range' first (last + 1 - first) ↔ first ≤ cpu ∧ cpu ≤ last := by
  rw [List.mem_range'_1]
  omega

theorem Denotes.ordered (denotes : Denotes item first last) : first ≤ last := by
  cases denotes with
  | single => exact Nat.le_refl _
  | range _ _ _ _ _ ordered => exact ordered

theorem exists_item?_iff :
    (∃ cpus, item? item = some cpus) ↔ ∃ first last, Denotes item first last := by
  constructor
  · rintro ⟨cpus, read⟩
    obtain ⟨first, last, denotes, _⟩ := denotes_of_item? read
    exact ⟨first, last, denotes⟩
  · rintro ⟨first, last, denotes⟩
    exact ⟨_, item?_of_denotes denotes⟩

theorem exists_item?_mem_iff : (∃ cpus, item? item = some cpus ∧ cpu ∈ cpus) ↔
    ∃ first last, Denotes item first last ∧ first ≤ cpu ∧ cpu ≤ last := by
  constructor
  · rintro ⟨cpus, read, member⟩
    obtain ⟨first, last, denotes, rfl⟩ := denotes_of_item? read
    exact ⟨first, last, denotes, (mem_range'_iff denotes.ordered).1 member⟩
  · rintro ⟨first, last, denotes, within⟩
    exact ⟨_, item?_of_denotes denotes, (mem_range'_iff denotes.ordered).2 within⟩

/-! ## Lists -/

theorem ofText_eq_ok_iff : ofText s = .ok cpus ↔
    ∃ ranges, (items s.toList).mapM item? = some ranges ∧
      dropRepeats (sorted ranges.flatten) = cpus := by
  unfold ofText
  split
  case h_1 ranges read => simp [read]
  case h_2 unread => simp [unread]

theorem union_ofText (s : String) : Union s (ofText s) where
  accepted := by
    simp only [ofText_eq_ok_iff]
    rw [exists_comm]
    simp only [exists_and_left, exists_eq', and_true, exists_mapM_iff, mem_items_iff,
      exists_item?_iff]
  ascending cpus read := by
    obtain ⟨ranges, _, rfl⟩ := ofText_eq_ok_iff.1 read
    exact pairwise_dropRepeats (pairwise_sorted _)
  members cpus read cpu := by
    obtain ⟨ranges, all, rfl⟩ := ofText_eq_ok_iff.1 read
    rw [mem_dropRepeats, mem_sorted, mem_flatten_of_mapM all]
    simp only [mem_items_iff, exists_item?_mem_iff, exists_and_left]
  refused e failed := by
    unfold ofText at failed
    split at failed
    · cases failed
    · exact (Except.error.inj failed).symm

/-- Texts with the same items come to the same list, or both to none. -/
theorem Union.toOption_eq {t : String} {here there : Except CpuError (List Nat)}
    (left : Union s here) (right : Union t there) (same : ∀ item, Item s item ↔ Item t item) :
    here.toOption = there.toOption := by
  have both : (∃ cpus, here = .ok cpus) ↔ ∃ cpus, there = .ok cpus := by
    rw [left.accepted, right.accepted]
    simp only [same]
  cases here with
  | ok cpus =>
    obtain ⟨others, rfl⟩ := both.1 ⟨cpus, rfl⟩
    have members (cpu : Nat) : cpu ∈ cpus ↔ cpu ∈ others := by
      rw [left.members cpus rfl, right.members others rfl]
      simp only [same]
    rw [(left.ascending cpus rfl).eq_of_mem_iff (right.ascending others rfl) members]
  | error e =>
    cases there with
    | ok others =>
      obtain ⟨_, impossible⟩ := both.2 ⟨others, rfl⟩
      cases impossible
    | error e' => rfl

/-! ## Written lists -/

theorem isBlank_of_digit {c : Char} {value : Nat} (digit : Digit c value) : isBlank c = false := by
  obtain ⟨small, shape⟩ := digit
  rcases shape with rfl | rfl
  all_goals
    interval_cases value
    all_goals decide

theorem trim_toString (n : Nat) : trim (toString n).toList = (toString n).toList := by
  refine trim_eq_self fun c member => ?_
  obtain ⟨d, digit⟩ := exists_digit_of_mem_toString member
  exact isBlank_of_digit digit

namespace Entry

theorem digit_or_hyphen (e : Entry) {c : Char} (member : c ∈ e.text.toList) :
    (∃ d, Digit c d) ∨ c = '-' := by
  cases e with
  | single cpu => exact Or.inl (exists_digit_of_mem_toString member)
  | range first last _ =>
    rw [text, String.toList_append, String.toList_append, List.mem_append, List.mem_append]
      at member
    rcases member with (before | hyphen) | after
    · exact Or.inl (exists_digit_of_mem_toString before)
    · exact Or.inr (List.mem_singleton.1 hyphen)
    · exact Or.inl (exists_digit_of_mem_toString after)

theorem isBlank_text (e : Entry) (c : Char) (member : c ∈ e.text.toList) : isBlank c = false := by
  obtain ⟨d, digit⟩ | rfl := e.digit_or_hyphen member
  · exact isBlank_of_digit digit
  · rfl

theorem isSeparator_text (e : Entry) (c : Char) (member : c ∈ e.text.toList) :
    isSeparator c = false := by
  obtain ⟨d, digit⟩ | rfl := e.digit_or_hyphen member
  · exact decide_eq_false (digit.ne rfl)
  · rfl

theorem denotes (e : Entry) : Denotes e.text.toList e.first e.last := by
  cases e with
  | single cpu => exact .single (number_toString cpu.isLt)
  | range first last ordered =>
    have plain : '-' ∉ (toString first.val).toList := by
      intro hyphen
      obtain ⟨d, digit⟩ := exists_digit_of_mem_toString hyphen
      exact digit.ne rfl rfl
    rw [text, String.toList_append, String.toList_append, List.append_assoc]
    exact .range plain (trim_eq_iff.1 (trim_toString _)) (number_toString first.isLt)
      (trim_eq_iff.1 (trim_toString _)) (number_toString last.isLt) ordered

theorem text_ne_nil (e : Entry) : e.text.toList ≠ [] := by
  cases e with
  | single cpu => exact (number_toString cpu.isLt).ne_nil
  | range first last _ =>
    rw [text, String.toList_append, String.toList_append]
    simp

end Entry

theorem pieces_listText {entries : List Entry} (some : entries ≠ []) :
    pieces isSeparator (listText entries).toList = entries.map fun e => e.text.toList := by
  rw [pieces_eq_iff, listText, String.toList_intercalate, List.map_map]
  refine joined_intercalate (mt List.map_eq_nil_iff.1 some) ?_ rfl
  intro group among
  obtain ⟨e, _, rfl⟩ := List.mem_map.1 among
  exact e.isSeparator_text

theorem items_listText (entries : List Entry) {tail : String}
    (blank : ∀ c ∈ tail.toList, isBlank c = true) :
    items (listText entries ++ tail).toList = entries.map fun e => e.text.toList := by
  rw [items, trimmed_pieces_trim isSeparator_of_isBlank, String.toList_append,
    trimmed_pieces_append_blanks isSeparator_of_isBlank blank]
  by_cases some : entries = []
  · rw [some]
    rfl
  · have trimmed (e : Entry) : trim e.text.toList = e.text.toList := trim_eq_self e.isBlank_text
    rw [pieces_listText some, List.map_map]
    simp only [Function.comp_def, trimmed]
    rw [List.filter_eq_self]
    intro item among
    obtain ⟨e, _, rfl⟩ := List.mem_map.1 among
    rw [Bool.not_eq_true', List.isEmpty_eq_false_iff]
    exact e.text_ne_nil

theorem ofText_listText {entries : List Entry} {set : Finset Nat} {tail : String}
    (covers : Covers entries set) (blank : ∀ c ∈ tail.toList, isBlank c = true) :
    ofText (listText entries ++ tail) = .ok (set.sort (· ≤ ·)) := by
  have all : (items (listText entries ++ tail).toList).mapM item? =
      some (entries.map fun e => List.range' e.first (e.last + 1 - e.first)) := by
    rw [items_listText entries blank, mapM_eq_some_iff, List.forall₂_map_left_iff,
      List.forall₂_map_right_iff]
    exact List.forall₂_same.2 fun e _ => item?_of_denotes e.denotes
  have read := ofText_eq_ok_iff.2 ⟨_, all, rfl⟩
  rw [read, Except.ok.injEq]
  refine (pairwise_dropRepeats (pairwise_sorted _)).eq_of_mem_iff
    (Finset.sortedLT_sort set).pairwise fun cpu => ?_
  rw [mem_dropRepeats, mem_sorted, List.mem_flatten, Finset.mem_sort, covers]
  simp only [List.mem_map, exists_exists_and_eq_and]
  exact exists_congr fun e => and_congr_right fun _ => mem_range'_iff e.denotes.ordered

theorem exists_covers {set : Finset Nat} (known : ∀ cpu ∈ set, cpu < limit64) :
    ∃ entries, Covers entries set := by
  refine ⟨set.attach.toList.map fun cpu => .single ⟨cpu.1, known cpu.1 cpu.2⟩, fun cpu => ?_⟩
  simp only [List.mem_map, Finset.mem_toList, Finset.mem_attach, true_and]
  constructor
  · intro member
    exact ⟨_, ⟨⟨cpu, member⟩, rfl⟩, Nat.le_refl _, Nat.le_refl _⟩
  · rintro ⟨_, ⟨⟨other, member⟩, rfl⟩, above, below⟩
    rwa [Nat.le_antisymm below above]

/-- What reading lists of CPUs comes to. -/
structure Exact (read : String → Except CpuError (List Nat)) : Prop where
  union (s : String) : Union s (read s)
  /-- Neither the order of the items matters nor how often they are repeated. -/
  unordered (s t : String) : (∀ item, Item s item ↔ Item t item) →
    (read s).toOption = (read t).toOption
  /-- Any set can be written down, and is read back however it was written. -/
  written (set : Finset Nat) : (∀ cpu ∈ set, cpu < limit64) → (∃ entries, Covers entries set) ∧
    ∀ entries, Covers entries set → ∀ tail : String, (∀ c ∈ tail.toList, isBlank c = true) →
      read (listText entries ++ tail) = .ok (set.sort (· ≤ ·))

theorem ofText_exact : Exact ofText where
  union := union_ofText
  unordered s t same := (union_ofText s).toOption_eq (union_ofText t) same
  written _ known := ⟨exists_covers known, fun _ covers _ blank => ofText_listText covers blank⟩

example : ofText "8, 10-11,0-3,9-10\n" = .ok [0, 1, 2, 3, 8, 9, 10, 11] := by
  cbv

end Boomerang.CpuList
