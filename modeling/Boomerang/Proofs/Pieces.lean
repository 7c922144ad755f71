import Boomerang.Text.Blank
import Boomerang.Text.Split
import Mathlib.Data.List.Forall2
import Mathlib.Data.List.TakeWhile

/-!
What cutting and trimming text come to. The pieces of a text are the only way of writing it as
groups with one separator between neighbours; the trimmed text is the only way of writing it as a
core between blanks. Blanks at the ends of a text belong to its first and last pieces.
-/

set_option autoImplicit false

namespace Boomerang.Text

/-- Groups with one separator between neighbours, and none inside. -/
inductive Joined (isSeparator : Char → Bool) : List (List Char) → List Char → Prop
  | last {group : List Char} (plain : ∀ c ∈ group, isSeparator c = false) :
      Joined isSeparator [group] group
  | more {group rest : List Char} {groups : List (List Char)} {c : Char}
      (plain : ∀ d ∈ group, isSeparator d = false) (separator : isSeparator c = true)
      (joined : Joined isSeparator groups rest) :
      Joined isSeparator (group :: groups) (group ++ c :: rest)

structure Trimmed (core cs : List Char) : Prop where
  around : ∃ before after, cs = before ++ core ++ after ∧
    (∀ c ∈ before, isBlank c = true) ∧ ∀ c ∈ after, isBlank c = true
  start : ∀ c ∈ core.head?, isBlank c = false
  finish : ∀ c ∈ core.getLast?, isBlank c = false

variable {isSeparator : Char → Bool} {group cs blanks core : List Char}
  {groups : List (List Char)} {c : Char}

/-! ## Pieces -/

theorem Joined.cons (joined : Joined isSeparator (group :: groups) cs)
    (plain : isSeparator c = false) : Joined isSeparator ((c :: group) :: groups) (c :: cs) := by
  cases joined with
  | last inside => exact .last (List.forall_mem_cons.2 ⟨plain, inside⟩)
  | more inside separator rest =>
    exact .more (List.forall_mem_cons.2 ⟨plain, inside⟩) separator rest

theorem joined_pieces (isSeparator : Char → Bool) (cs : List Char) :
    Joined isSeparator (pieces isSeparator cs) cs := by
  induction cs with
  | nil => exact .last (by simp)
  | cons c rest ih =>
    rw [pieces]
    split
    case isTrue separator => exact .more (by simp) separator ih
    case isFalse plain =>
      cases cut : pieces isSeparator rest with
      | nil => exact absurd cut (pieces_ne_nil isSeparator rest)
      | cons first others =>
        rw [cut] at ih
        exact ih.cons (eq_false_of_ne_true plain)

theorem pieces_eq_iff : pieces isSeparator cs = groups ↔ Joined isSeparator groups cs := by
  constructor
  · rintro rfl
    exact joined_pieces isSeparator cs
  · intro joined
    induction joined with
    | last plain => exact pieces_eq_singleton plain
    | more plain separator _ ih => rw [pieces_append_cons _ plain separator, ih]

theorem Joined.mem_of_group (joined : Joined isSeparator groups cs) (member : group ∈ groups)
    (inside : c ∈ group) : c ∈ cs := by
  induction joined with
  | last _ => rwa [List.mem_singleton.1 member] at inside
  | more _ _ _ ih =>
    rcases List.mem_cons.1 member with rfl | later
    · exact List.mem_append_left _ inside
    · exact List.mem_append_right _ (List.mem_cons_of_mem _ (ih later))

theorem Joined.plain (joined : Joined isSeparator groups cs) (member : group ∈ groups)
    (inside : c ∈ group) : isSeparator c = false := by
  induction joined with
  | last plain =>
    rw [List.mem_singleton.1 member] at inside
    exact plain c inside
  | more plain _ _ ih =>
    rcases List.mem_cons.1 member with rfl | later
    · exact plain c inside
    · exact ih later

theorem Joined.exists_group (joined : Joined isSeparator groups cs) (member : c ∈ cs)
    (plain : isSeparator c = false) : ∃ group ∈ groups, c ∈ group := by
  induction joined with
  | @last group _ => exact ⟨group, List.mem_singleton_self group, member⟩
  | @more group _ _ _ _ separator _ ih =>
    rcases List.mem_append.1 member with here | later
    · exact ⟨group, List.mem_cons_self, here⟩
    · rcases List.mem_cons.1 later with rfl | later
      · rw [separator] at plain
        cases plain
      · obtain ⟨other, among, inside⟩ := ih later
        exact ⟨other, List.mem_cons_of_mem _ among, inside⟩

theorem joined_intercalate (some : groups ≠ [])
    (plain : ∀ group ∈ groups, ∀ c ∈ group, isSeparator c = false)
    (separator : isSeparator c = true) :
    Joined isSeparator groups ([c].intercalate groups) := by
  induction groups with
  | nil => exact absurd rfl some
  | cons group rest ih =>
    obtain ⟨inside, others⟩ := List.forall_mem_cons.1 plain
    cases rest with
    | nil =>
      rw [List.intercalate_singleton]
      exact .last inside
    | cons next later =>
      rw [List.intercalate_cons_cons, List.append_assoc, List.singleton_append]
      exact .more inside separator (ih (List.cons_ne_nil _ _) others)

/-! ## The first separator -/

theorem cut?_append_cons {separator : Char} {before : List Char} (after : List Char)
    (absent : separator ∉ before) :
    cut? separator (before ++ separator :: after) = some (before, after) := by
  induction before with
  | nil => exact if_pos rfl
  | cons c before ih =>
    obtain ⟨different, absent⟩ := not_or.1 (mt List.mem_cons.2 absent)
    rw [List.cons_append, cut?, if_neg (Ne.symm different), ih absent, Option.map_some]

theorem cut?_eq_none {separator : Char} (absent : separator ∉ cs) : cut? separator cs = none := by
  induction cs with
  | nil => rfl
  | cons c rest ih =>
    obtain ⟨different, absent⟩ := not_or.1 (mt List.mem_cons.2 absent)
    rw [cut?, if_neg (Ne.symm different), ih absent, Option.map_none]

/-! ## Reading pieces -/

theorem mapM_eq_some_iff {α β : Type} {read : α → Option β} {xs : List α} {ys : List β} :
    xs.mapM read = some ys ↔ List.Forall₂ (fun x y => read x = some y) xs ys := by
  induction xs generalizing ys with
  | nil => simp [eq_comm]
  | cons x xs ih =>
    rw [List.mapM_cons, List.forall₂_cons_left_iff]
    simp only [Option.bind_eq_bind, Option.bind_eq_some_iff, ih, Option.pure_def,
      Option.some.injEq]
    constructor
    · rintro ⟨y, head, ys, tail, rfl⟩
      exact ⟨y, ys, head, tail, rfl⟩
    · rintro ⟨y, ys, head, tail, rfl⟩
      exact ⟨y, head, ys, tail, rfl⟩

theorem exists_mapM_iff {α β : Type} {read : α → Option β} {xs : List α} :
    (∃ ys, xs.mapM read = some ys) ↔ ∀ x ∈ xs, ∃ y, read x = some y := by
  simp only [mapM_eq_some_iff]
  induction xs with
  | nil => simp
  | cons x xs ih =>
    rw [List.forall_mem_cons, ← ih]
    simp only [List.forall₂_cons_left_iff]
    constructor
    · rintro ⟨_, y, ys, head, tail, rfl⟩
      exact ⟨⟨y, head⟩, ys, tail⟩
    · rintro ⟨⟨y, head⟩, ys, tail⟩
      exact ⟨y :: ys, y, ys, head, tail, rfl⟩

theorem mem_flatten_of_mapM {α β : Type} {read : α → Option (List β)} {xs : List α}
    {ys : List (List β)} (all : xs.mapM read = some ys) {b : β} :
    b ∈ ys.flatten ↔ ∃ x ∈ xs, ∃ y, read x = some y ∧ b ∈ y := by
  rw [mapM_eq_some_iff] at all
  induction all with
  | nil => simp
  | cons head _ ih =>
    rw [List.flatten_cons, List.mem_append, ih]
    simp [head]

/-! ## Blanks at the ends -/

theorem trimmed_trim (cs : List Char) : Trimmed (trim cs) cs := by
  have front := List.takeWhile_append_dropWhile (p := isBlank) (l := cs)
  have back := List.takeWhile_append_dropWhile (p := isBlank) (l := (trimStart cs).reverse)
  have core : trimStart cs = trim cs ++ ((trimStart cs).reverse.takeWhile isBlank).reverse := by
    rw [trim, trimEnd, ← List.reverse_append, back, List.reverse_reverse]
  have lastOf := List.head?_dropWhile_not isBlank (trimStart cs).reverse
  refine ⟨⟨cs.takeWhile isBlank, ((trimStart cs).reverse.takeWhile isBlank).reverse, ?_, ?_, ?_⟩,
    ?_, ?_⟩
  · rw [List.append_assoc, ← core]
    exact front.symm
  · exact fun c member => List.mem_takeWhile_imp member
  · exact fun c member => List.mem_takeWhile_imp (List.mem_reverse.1 member)
  · intro c first
    have firstOf := List.head?_dropWhile_not isBlank cs
    rw [show cs.dropWhile isBlank = trimStart cs from rfl, core, List.head?_append,
      Option.mem_def.1 first] at firstOf
    exact firstOf
  · intro c last
    rw [trim, trimEnd, List.getLast?_reverse] at last
    rw [Option.mem_def.1 last] at lastOf
    exact lastOf

theorem dropWhile_blanks_append (blank : ∀ c ∈ blanks, isBlank c = true)
    (start : ∀ c ∈ core.head?, isBlank c = false) :
    (blanks ++ core).dropWhile isBlank = core := by
  rw [List.dropWhile_append_of_pos blank]
  cases core with
  | nil => rfl
  | cons c rest =>
    rw [List.dropWhile_cons_of_neg]
    simp [start c rfl]

theorem trim_eq_iff : trim cs = core ↔ Trimmed core cs := by
  constructor
  · rintro rfl
    exact trimmed_trim cs
  · rintro ⟨⟨before, after, rfl, front, back⟩, start, finish⟩
    have back : ∀ c ∈ after.reverse, isBlank c = true := fun c h => back c (List.mem_reverse.1 h)
    cases core with
    | nil =>
      have all : ∀ c ∈ before ++ [] ++ after, isBlank c = true := by
        simp only [List.append_nil, List.mem_append]
        rintro c (h | h)
        · exact front c h
        · exact back c (List.mem_reverse.2 h)
      rw [trim, trimStart, List.dropWhile_eq_nil_iff.2 all]
      rfl
    | cons c rest =>
      rw [trim, trimStart, List.append_assoc, dropWhile_blanks_append front (by simpa using start),
        trimEnd, List.reverse_append,
        dropWhile_blanks_append back (by rwa [List.head?_reverse]),
        List.reverse_reverse]

theorem Trimmed.blanks_append (trimmed : Trimmed core cs)
    (blank : ∀ c ∈ blanks, isBlank c = true) : Trimmed core (blanks ++ cs) := by
  obtain ⟨⟨before, after, rfl, front, back⟩, start, finish⟩ := trimmed
  refine ⟨⟨blanks ++ before, after, by simp, ?_, back⟩, start, finish⟩
  exact List.forall_mem_append.2 ⟨blank, front⟩

theorem Trimmed.append_blanks (trimmed : Trimmed core cs)
    (blank : ∀ c ∈ blanks, isBlank c = true) : Trimmed core (cs ++ blanks) := by
  obtain ⟨⟨before, after, rfl, front, back⟩, start, finish⟩ := trimmed
  refine ⟨⟨before, after ++ blanks, by simp, front, ?_⟩, start, finish⟩
  exact List.forall_mem_append.2 ⟨back, blank⟩

theorem trim_blanks_append (blank : ∀ c ∈ blanks, isBlank c = true) (cs : List Char) :
    trim (blanks ++ cs) = trim cs :=
  trim_eq_iff.2 ((trimmed_trim cs).blanks_append blank)

theorem trim_append_blanks (blank : ∀ c ∈ blanks, isBlank c = true) (cs : List Char) :
    trim (cs ++ blanks) = trim cs :=
  trim_eq_iff.2 ((trimmed_trim cs).append_blanks blank)

theorem trim_eq_self (plain : ∀ c ∈ cs, isBlank c = false) : trim cs = cs :=
  trim_eq_iff.2 ⟨⟨[], [], by simp⟩, fun c first => plain c (List.mem_of_head? first),
    fun c last => plain c (List.mem_of_getLast? last)⟩

/-! ## Blanks around pieces -/

theorem Joined.prepend (joined : Joined isSeparator (group :: groups) cs)
    (plain : ∀ c ∈ blanks, isSeparator c = false) :
    Joined isSeparator ((blanks ++ group) :: groups) (blanks ++ cs) := by
  cases joined with
  | last inside => exact .last (List.forall_mem_append.2 ⟨plain, inside⟩)
  | more inside separator rest =>
    rw [← List.append_assoc]
    exact .more (List.forall_mem_append.2 ⟨plain, inside⟩) separator rest

theorem Joined.append (joined : Joined isSeparator groups cs)
    (plain : ∀ c ∈ blanks, isSeparator c = false) :
    ∃ front last, groups = front ++ [last] ∧
      Joined isSeparator (front ++ [last ++ blanks]) (cs ++ blanks) := by
  induction joined with
  | last inside =>
    exact ⟨[], _, rfl, .last (List.forall_mem_append.2 ⟨inside, plain⟩)⟩
  | @more group rest groups c inside separator _ ih =>
    obtain ⟨front, last, rfl, joined⟩ := ih
    refine ⟨group :: front, last, rfl, ?_⟩
    rw [List.append_assoc, List.cons_append]
    exact .more inside separator joined

variable (apart : ∀ c, isBlank c = true → isSeparator c = false)
include apart

theorem trimmed_pieces_blanks_append (blank : ∀ c ∈ blanks, isBlank c = true) (cs : List Char) :
    (pieces isSeparator (blanks ++ cs)).map trim = (pieces isSeparator cs).map trim := by
  cases cut : pieces isSeparator cs with
  | nil => exact absurd cut (pieces_ne_nil isSeparator cs)
  | cons first others =>
    have joined := (pieces_eq_iff.1 cut).prepend fun c h => apart c (blank c h)
    rw [pieces_eq_iff.2 joined, List.map_cons, List.map_cons, trim_blanks_append blank]

theorem trimmed_pieces_append_blanks (blank : ∀ c ∈ blanks, isBlank c = true) (cs : List Char) :
    (pieces isSeparator (cs ++ blanks)).map trim = (pieces isSeparator cs).map trim := by
  obtain ⟨front, last, cut, joined⟩ :=
    (joined_pieces isSeparator cs).append fun c h => apart c (blank c h)
  rw [pieces_eq_iff.2 joined, cut, List.map_append, List.map_append, List.map_singleton,
    List.map_singleton, trim_append_blanks blank]

/-- Where no separator is a blank, trimming before the cut adds nothing to trimming after it. -/
theorem trimmed_pieces_trim (cs : List Char) :
    (pieces isSeparator (trim cs)).map trim = (pieces isSeparator cs).map trim := by
  obtain ⟨before, after, split, front, back⟩ := (trimmed_trim cs).around
  rw [split, trimmed_pieces_append_blanks apart back, trimmed_pieces_blanks_append apart front,
    ← split]

end Boomerang.Text
