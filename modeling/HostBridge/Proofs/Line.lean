/-
This file shows where the lines of a text begin and what they hold.
-/
import HostBridge.Text.Blank
import HostBridge.Text.Lines
import Mathlib.Data.List.Basic

namespace HostBridge.Text

/-- A line begins behind the text. -/
def Ended (text : List Char) : Prop := ∀ c ∈ text.getLast?, c = '\n'

instance (text : List Char) : Decidable (Ended text) :=
  decidable_of_iff (text.getLast?.all (· = '\n') = true) (by simp [Ended, Option.all_eq_true])

/-- A line of the text begins so. -/
def BeginsLine (start text : List Char) : Prop :=
  ∃ before rest, text = before ++ start ++ rest ∧ Ended before

/-- A line without the carriage return of its end. -/
def withoutReturn (line : List Char) : List Char :=
  if line.getLast? = some '\r' then line.dropLast else line

theorem withoutReturn_cons (c : Char) (line : List Char) (filled : line ≠ []) :
    withoutReturn (c :: line) = c :: withoutReturn line := by
  obtain ⟨d, line, rfl⟩ := List.exists_cons_of_ne_nil filled
  rw [withoutReturn, withoutReturn, List.getLast?_cons_cons, List.dropLast_cons_of_ne_nil filled]
  split <;> rfl

/-- A character that ends no line is added to the first line. -/
theorem lines_cons {c : Char} {line text : List Char} {more : List (List Char)} (plain : c ≠ '\n')
    (middle : c = '\r' → text.head? ≠ some '\n') (read : lines text = line :: more) :
    lines (c :: text) = (c :: line) :: more := by
  rw [lines.eq_def]
  split
  · next same => cases same
  · next rest same =>
      cases same
      exact absurd rfl (middle rfl)
  · next rest same =>
      cases same
      exact absurd rfl plain
  · next d rest _ _ same =>
      cases same
      rw [read]

/-- A line ends at the first line feed. -/
theorem lines_line (line rest : List Char) (free : '\n' ∉ line) :
    lines (line ++ '\n' :: rest) = withoutReturn line :: lines rest := by
  induction line with
  | nil => simp [lines, withoutReturn]
  | cons c line ih =>
      obtain ⟨plain, free⟩ := List.ne_and_not_mem_of_not_mem_cons free
      by_cases filled : line = []
      · subst filled
        by_cases last : c = '\r'
        · subst last
          simp [lines, withoutReturn]
        · have read : lines ('\n' :: rest) = [] :: lines rest := by simp [lines]
          have kept : withoutReturn [c] = [c] := by simp [withoutReturn, last]
          rw [kept]
          exact lines_cons (Ne.symm plain) (fun same => absurd same last) read
      · rw [withoutReturn_cons c line filled]
        refine lines_cons (Ne.symm plain) (fun _ begins => ?_) (ih free)
        obtain ⟨d, line, rfl⟩ := List.exists_cons_of_ne_nil filled
        exact free (List.mem_cons.mpr (.inl (Option.some.inj begins).symm))

/-- What follows the last line feed is a line when it is not empty, and keeps all of its carriage
returns. -/
theorem lines_last (line : List Char) (free : '\n' ∉ line) (filled : line ≠ []) :
    lines line = [line] := by
  induction line with
  | nil => exact absurd rfl filled
  | cons c line ih =>
      obtain ⟨plain, free⟩ := List.ne_and_not_mem_of_not_mem_cons free
      cases line with
      | nil => simp [lines, Ne.symm plain]
      | cons d line =>
          refine lines_cons (Ne.symm plain) (fun _ begins => ?_) (ih free (by simp))
          exact free (List.mem_cons.mpr (.inl (Option.some.inj begins).symm))

/-- A text is a line after the other, and the last one has no end. -/
theorem line_induction {motive : List Char → Prop}
    (last : ∀ line, '\n' ∉ line → motive line)
    (line : ∀ line rest, '\n' ∉ line → motive rest → motive (line ++ '\n' :: rest))
    (text : List Char) : motive text := by
  induction size : text.length using Nat.strongRecOn generalizing text with
  | ind length ih =>
      by_cases fed : '\n' ∈ text
      · obtain ⟨first, rest, rfl, free⟩ := List.eq_append_cons_of_mem fed
        refine line first rest free (ih rest.length ?_ rest rfl)
        rw [← size, List.length_append, List.length_cons]
        omega
      · exact last text fed

/-- A text ends with a line feed when the part behind a line does. -/
theorem ended_line_iff (line rest : List Char) :
    Ended (line ++ '\n' :: rest) ↔ Ended rest := by
  cases rest with
  | nil => simp [Ended]
  | cons c rest => simp [Ended, List.getLast?_append]

/-- A text without a line feed has an end of a line only if it is empty. -/
theorem ended_eq_nil {line : List Char} (free : '\n' ∉ line) (ended : Ended line) : line = [] := by
  by_contra filled
  have last := ended _ (List.getLast?_eq_some_getLast filled)
  exact free (last ▸ List.getLast_mem filled)

/-- The lines of a text that ends in a line feed are read before those of what follows. -/
theorem lines_append (before rest : List Char) (ended : Ended before) :
    lines (before ++ rest) = lines before ++ lines rest := by
  induction before using line_induction with
  | last line free =>
      rw [ended_eq_nil free ended]
      rfl
  | line line more free ih =>
      rw [List.append_assoc, List.cons_append, lines_line line _ free, lines_line line _ free,
        ih ((ended_line_iff line more).mp ended)]
      rfl

section Beginning

variable {start : List Char}

/-- The last line begins with a text when the text is in front of it. -/
theorem beginsLine_last_iff {line : List Char} (free : '\n' ∉ line) :
    BeginsLine start line ↔ start <+: line := by
  constructor
  · rintro ⟨before, rest, rfl, ended⟩
    have none : before = [] := ended_eq_nil (fun member => free (by simp [member])) ended
    rw [none, List.nil_append]
    exact List.prefix_append start rest
  · rintro ⟨rest, rfl⟩
    exact ⟨[], rest, rfl, by simp [Ended]⟩

/-- A text without a line feed stands in front of a line when it does not reach behind it. -/
theorem prefix_line_iff (solid : '\n' ∉ start) (line rest : List Char) :
    start <+: line ++ '\n' :: rest ↔ start <+: line := by
  constructor
  · intro begins
    rcases List.prefix_or_prefix_of_prefix begins (List.prefix_append line _) with
      here | ⟨beyond, rfl⟩
    · exact here
    · cases beyond with
      | nil => exact ⟨[], by simp⟩
      | cons c beyond =>
          have shorter := (List.prefix_append_right_inj line).mp begins
          obtain ⟨rfl, -⟩ := List.cons_prefix_cons.mp shorter
          exact absurd (by simp) solid
  · intro begins
    exact begins.trans (List.prefix_append line _)

/-- The first line begins so, or one of the others does. -/
theorem beginsLine_line_iff (solid : '\n' ∉ start) {line : List Char} (free : '\n' ∉ line)
    (rest : List Char) :
    BeginsLine start (line ++ '\n' :: rest) ↔ start <+: line ∨ BeginsLine start rest := by
  constructor
  · rintro ⟨before, after, same, ended⟩
    rw [List.append_assoc] at same
    -- The beginning stands in the first line unless a whole line stands before it.
    rcases List.append_eq_append_iff.mp same with ⟨middle, rfl, split⟩ | ⟨middle, rfl, split⟩
    · cases middle with
      | nil =>
          rw [List.append_nil] at ended
          have empty := ended_eq_nil free ended
          refine .inl ((prefix_line_iff solid line rest).mp ⟨after, ?_⟩)
          rw [empty, List.nil_append, split, List.nil_append]
      | cons c middle =>
          simp only [List.cons_append, List.cons.injEq] at split
          obtain ⟨rfl, rfl⟩ := split
          exact .inr ⟨middle, after, (List.append_assoc ..).symm,
            (ended_line_iff line middle).mp ended⟩
    · have none : before = [] := ended_eq_nil (fun member => free (by simp [member])) ended
      subst none
      exact .inl ((prefix_line_iff solid _ rest).mp ⟨after, split⟩)
  · rintro (begins | ⟨before, after, rfl, ended⟩)
    · obtain ⟨after, same⟩ := (prefix_line_iff solid line rest).mpr begins
      exact ⟨[], after, same.symm, by simp [Ended]⟩
    · exact ⟨line ++ '\n' :: before, after, by simp, (ended_line_iff line before).mpr ended⟩

/-- A text without a carriage return stands in front of a line with or without its last one. -/
theorem prefix_withoutReturn_iff (solid : '\r' ∉ start) (line : List Char) :
    start <+: withoutReturn line ↔ start <+: line := by
  unfold withoutReturn
  split
  · next last =>
      obtain ⟨line, rfl⟩ := List.getLast?_eq_some_iff.mp last
      rw [List.dropLast_concat, List.prefix_concat_iff]
      constructor
      · exact .inr
      · rintro (rfl | begins)
        · exact absurd (by simp) solid
        · exact begins
  · rfl

/-- A line begins so if one of the lines that are read does. -/
theorem beginsLine_iff (filled : start ≠ []) (solid : '\n' ∉ start ∧ '\r' ∉ start)
    (text : List Char) : BeginsLine start text ↔ ∃ line ∈ lines text, start <+: line := by
  induction text using line_induction with
  | last line free =>
      rw [beginsLine_last_iff free]
      by_cases empty : line = []
      · simp [empty, lines, filled]
      · simp [lines_last line free empty]
  | line line rest free ih =>
      rw [beginsLine_line_iff solid.1 free, lines_line line rest free, ih]
      simp [prefix_withoutReturn_iff solid.2]

/-- Lines with their ends begin so if one of them does. -/
theorem beginsLine_flatMap_iff (filled : start ≠ []) (solid : '\n' ∉ start)
    {lines : List (List Char)} (free : ∀ line ∈ lines, '\n' ∉ line) :
    BeginsLine start (lines.flatMap (· ++ ['\n'])) ↔ ∃ line ∈ lines, start <+: line := by
  induction lines with
  | nil =>
      rw [List.flatMap_nil, beginsLine_last_iff (by simp)]
      simpa using filled
  | cons line lines ih =>
      obtain ⟨first, others⟩ := List.forall_mem_cons.mp free
      rw [List.flatMap_cons, List.append_assoc, List.singleton_append,
        beginsLine_line_iff solid first, ih others, List.exists_mem_cons_iff]

end Beginning

/-- Lines that each end with a line feed make a text that does. -/
theorem ended_flatMap {lines : List (List Char)} (free : ∀ line ∈ lines, '\n' ∉ line) :
    Ended (lines.flatMap (· ++ ['\n'])) := by
  induction lines with
  | nil => simp [Ended]
  | cons line lines ih =>
      obtain ⟨_, others⟩ := List.forall_mem_cons.mp free
      rw [List.flatMap_cons, List.append_assoc, List.singleton_append, ended_line_iff]
      exact ih others

theorem dropEndWhile_eq_nil {test : Char → Bool} {text : List Char}
    (passed : ∀ c ∈ text, test c = true) : dropEndWhile test text = [] := by
  induction text with
  | nil => rfl
  | cons c text ih =>
      obtain ⟨first, others⟩ := List.forall_mem_cons.mp passed
      rw [dropEndWhile, ih others]
      exact if_pos first

/-- What passes the test is dropped from the end up to a character that does not. -/
theorem dropEndWhile_append {test : Char → Bool} {kept dropped : List Char}
    (passed : ∀ c ∈ dropped, test c = true) (stays : ∀ c ∈ kept.getLast?, test c = false) :
    dropEndWhile test (kept ++ dropped) = kept := by
  induction kept with
  | nil => exact dropEndWhile_eq_nil passed
  | cons c kept ih =>
      rw [List.cons_append, dropEndWhile]
      cases kept with
      | nil =>
          rw [List.nil_append, dropEndWhile_eq_nil passed]
          simp [stays c rfl]
      | cons d kept => rw [ih (by simpa using stays)]

end HostBridge.Text
