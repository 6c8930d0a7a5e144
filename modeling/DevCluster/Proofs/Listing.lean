import Mathlib
import DevCluster.Listing

/-!
Listings as they are printed: a row for each cluster, its name between blanks. The names that are
read off a listing are those of its rows.
-/

namespace DevCluster

namespace Text

variable {text before after : List Char}

/-- The characters with the property White_Space. -/
def whiteSpace : List Char := [
  '\t', '\n', '\x0b', '\x0c', '\r', ' ', '\u0085', '\u00a0', '\u1680', '\u2000', '\u2001',
  '\u2002', '\u2003', '\u2004', '\u2005', '\u2006', '\u2007', '\u2008', '\u2009', '\u200a',
  '\u2028', '\u2029', '\u202f', '\u205f', '\u3000']

theorem isBlank_iff_mem {c : Char} : isBlank c = true ↔ c ∈ whiteSpace := by
  have injective : Function.Injective Char.toNat := fun _ _ => Char.toNat_inj.mp
  rw [← List.mem_map_of_injective injective]
  simp only [isBlank, whiteSpace, List.map_cons, List.map_nil, Char.reduceToNat, List.mem_cons,
    List.not_mem_nil, or_false, Bool.or_eq_true, Bool.and_eq_true, decide_eq_true_eq, beq_iff_eq]
  omega

def Bare (text : List Char) : Prop :=
  (∀ c ∈ text.head?, isBlank c = false) ∧ ∀ c ∈ text.getLast?, isBlank c = false

theorem trim_blanks_append (blank : ∀ c ∈ before, isBlank c = true) :
    trim (before ++ text) = trim text := by
  rw [trim, trimStart, List.dropWhile_append_of_pos blank]
  rfl

theorem trimEnd_append_blanks (blank : ∀ c ∈ after, isBlank c = true) :
    trimEnd (text ++ after) = trimEnd text := by
  rw [trimEnd, List.reverse_append, List.dropWhile_append_of_pos (by simpa using blank), trimEnd]

theorem trim_append_blanks (blank : ∀ c ∈ after, isBlank c = true) :
    trim (text ++ after) = trim text := by
  rw [trim, trimStart, List.dropWhile_append]
  split
  · rename_i empty
    rw [trim, trimStart, List.isEmpty_iff.mp empty, List.dropWhile_eq_nil_iff.mpr blank]
  · exact trimEnd_append_blanks blank

theorem trim_bare (bare : Bare text) : trim text = text := by
  have starts : trimStart text = text := by
    cases text with
    | nil => rfl
    | cons c rest => exact List.dropWhile_cons_of_neg (by simp [bare.1 c rfl])
  rw [trim, starts]
  refine (List.rdropWhile_eq_self_iff ..).mpr fun nonempty => ?_
  simp [bare.2 _ (List.getLast?_eq_some_getLast nonempty)]

theorem trim_padded (leading : ∀ c ∈ before, isBlank c = true)
    (trailing : ∀ c ∈ after, isBlank c = true) (bare : Bare text) :
    trim (before ++ text ++ after) = text := by
  rw [trim_append_blanks trailing, trim_blanks_append leading, trim_bare bare]

/-- What is cut from a text are blanks before and behind a bare text. -/
theorem exists_padded (text : List Char) :
    ∃ before core after, text = before ++ core ++ after ∧ Bare core ∧
      (∀ c ∈ before, isBlank c = true) ∧ ∀ c ∈ after, isBlank c = true := by
  refine ⟨text.takeWhile isBlank, trim text, (trimStart text).rtakeWhile isBlank, ?_, ⟨?_, ?_⟩,
    fun c => List.mem_takeWhile_imp, fun c => List.mem_rtakeWhile_imp⟩
  · have ends : trim text ++ (trimStart text).rtakeWhile isBlank = trimStart text :=
      List.rdropWhile_append_rtakeWhile ..
    rw [List.append_assoc, ends, trimStart, List.takeWhile_append_dropWhile]
  · intro c first
    obtain ⟨cut, whole⟩ : trim text <+: trimStart text := List.rdropWhile_prefix ..
    have starts : (trimStart text).head? = some c := by
      rw [← whole, List.head?_append, first]
      rfl
    have stops := List.head?_dropWhile_not isBlank text
    rwa [← trimStart, starts] at stops
  · intro c last
    obtain ⟨nonempty, rfl⟩ := List.mem_getLast?_eq_getLast last
    exact Bool.eq_false_iff.mpr (List.rdropWhile_last_not _ _ nonempty)

/-- Texts by their line feeds: the text up to the first one, and what is behind it. -/
theorem induction_feed {motive : List Char → Prop}
    (last : ∀ text, '\n' ∉ text → motive text)
    (feed : ∀ text rest, '\n' ∉ text → motive rest → motive (text ++ '\n' :: rest))
    (text : List Char) : motive text := by
  induction size : text.length using Nat.strongRecOn generalizing text with
  | ind length ih =>
      by_cases broken : '\n' ∈ text
      · obtain ⟨first, rest, rfl, unbroken⟩ := List.eq_append_cons_of_mem broken
        have shorter : rest.length < length := by
          simp only [List.length_append, List.length_cons] at size
          omega
        exact feed first rest unbroken (ih rest.length shorter rest rfl)
      · exact last text broken

theorem lines_cons {c : Char} (other : c ≠ '\n') (alone : c = '\r' → text.head? ≠ some '\n') :
    lines (c :: text) = match lines text with
      | [] => [[c]]
      | line :: others => (c :: line) :: others := by
  refine lines.eq_4 c text other fun rest returned followed => ?_
  subst followed
  exact alone returned rfl

theorem lines_unbroken (unbroken : '\n' ∉ text) (nonempty : text ≠ []) : lines text = [text] := by
  induction text with
  | nil => exact absurd rfl nonempty
  | cons c rest ih =>
      obtain ⟨other, unbroken⟩ := List.ne_and_not_mem_of_not_mem_cons unbroken
      rw [lines_cons other.symm fun _ first => unbroken (List.mem_of_mem_head? first)]
      cases rest with
      | nil => rfl
      | cons d others => rw [ih unbroken (by simp)]

/-- A carriage return is all that a line feed takes with it, if it stands right before. -/
theorem exists_line (unbroken : '\n' ∉ text) :
    ∃ line, (line = text ∨ line ++ ['\r'] = text) ∧
      ∀ rest, lines (text ++ '\n' :: rest) = line :: lines rest := by
  induction text with
  | nil => exact ⟨[], .inl rfl, fun rest => rfl⟩
  | cons c text ih =>
      obtain ⟨other, unbroken⟩ := List.ne_and_not_mem_of_not_mem_cons unbroken
      by_cases returned : c = '\r' ∧ text = []
      · obtain ⟨rfl, rfl⟩ := returned
        exact ⟨[], .inr rfl, fun rest => rfl⟩
      · obtain ⟨line, same, read⟩ := ih unbroken
        refine ⟨c :: line, by simpa using same, fun rest => ?_⟩
        have alone : c = '\r' → (text ++ '\n' :: rest).head? ≠ some '\n' := by
          rintro rfl first
          cases text with
          | nil => exact returned ⟨rfl, rfl⟩
          | cons d others => exact unbroken (by simp_all)
        rw [List.cons_append, lines_cons other.symm alone, read]

theorem trim_lines_feed (unbroken : '\n' ∉ text) (rest : List Char) :
    (lines (text ++ '\n' :: rest)).map trim = trim text :: (lines rest).map trim := by
  obtain ⟨line, rfl | rfl, read⟩ := exists_line unbroken
  · rw [read, List.map_cons]
  · rw [read, List.map_cons, trim_append_blanks (by simp [isBlank])]

theorem trim_lines_unbroken (unbroken : '\n' ∉ text) (nonempty : text ≠ []) :
    (lines text).map trim = [trim text] := by
  rw [lines_unbroken unbroken nonempty, List.map_singleton]

/-- A line feed keeps the lines before it from those behind it. -/
theorem trim_lines_append (text rest : List Char) :
    (lines (text ++ '\n' :: rest)).map trim =
      (lines (text ++ ['\n'])).map trim ++ (lines rest).map trim := by
  induction text using induction_feed with
  | last text unbroken =>
      rw [trim_lines_feed unbroken, trim_lines_feed unbroken]
      rfl
  | feed first others unbroken ih =>
      rw [List.append_assoc, List.cons_append, trim_lines_feed unbroken, ih, List.append_assoc,
        List.cons_append, trim_lines_feed unbroken, List.cons_append]

end Text

namespace Listing

open Text

/-- A row is the core of a text between blanks. It is on one line. -/
structure Row where
  leading : List Char
  core : List Char
  trailing : List Char
  leading_blank : ∀ c ∈ leading, isBlank c = true ∧ c ≠ '\n'
  trailing_blank : ∀ c ∈ trailing, isBlank c = true ∧ c ≠ '\n'
  core_bare : Bare core
  core_unbroken : '\n' ∉ core

namespace Row

def text (row : Row) : List Char :=
  row.leading ++ row.core ++ row.trailing

theorem text_unbroken (row : Row) : '\n' ∉ row.text := by
  simp only [text, List.mem_append, not_or]
  exact ⟨⟨fun member => (row.leading_blank _ member).2 rfl, row.core_unbroken⟩,
    fun member => (row.trailing_blank _ member).2 rfl⟩

theorem trim_text (row : Row) : trim row.text = row.core :=
  trim_padded (fun c member => (row.leading_blank c member).1)
    (fun c member => (row.trailing_blank c member).1) row.core_bare

theorem core_eq_nil_iff (row : Row) : row.core = [] ↔ ∀ c ∈ row.text, isBlank c = true := by
  constructor
  · intro empty c member
    simp only [text, empty, List.append_nil, List.mem_append] at member
    rcases member with member | member
    · exact (row.leading_blank c member).1
    · exact (row.trailing_blank c member).1
  · intro blank
    have cut : trim ([] ++ row.text) = trim [] := trim_append_blanks blank
    rwa [List.nil_append, row.trim_text] at cut

theorem exists_of_unbroken {text : List Char} (unbroken : '\n' ∉ text) :
    ∃ row : Row, row.text = text := by
  obtain ⟨before, core, after, rfl, bare, leading, trailing⟩ := exists_padded text
  simp only [List.mem_append, not_or] at unbroken
  refine ⟨⟨before, core, after, fun c member => ⟨leading c member, ?_⟩,
    fun c member => ⟨trailing c member, ?_⟩, bare, unbroken.1.2⟩, rfl⟩
  · rintro rfl
    exact unbroken.1.1 member
  · rintro rfl
    exact unbroken.2 member

end Row

inductive Terminator
  | feed
  | returnAndFeed

def Terminator.text : Terminator → List Char
  | feed => ['\n']
  | returnAndFeed => ['\r', '\n']

/-- The listing is the rows in order, each with its terminator. The last one may go without, unless
there is nothing in it. -/
inductive Printed : List Row → List Char → Prop
  | nothing : Printed [] []
  | unterminated {row} : row.text ≠ [] → Printed [row] row.text
  | terminated {row rows rest} (terminator : Terminator) : Printed rows rest →
      Printed (row :: rows) (row.text ++ terminator.text ++ rest)

variable {rows : List Row} {listing : List Char}

theorem Printed.trim_lines (printed : Printed rows listing) :
    (lines listing).map trim = rows.map Row.core := by
  induction printed with
  | nothing => rfl
  | @unterminated row nonempty =>
      rw [trim_lines_unbroken row.text_unbroken nonempty, row.trim_text, List.map_singleton]
  | @terminated row rows rest terminator _ ih =>
      rw [List.map_cons, ← ih, ← row.trim_text]
      cases terminator with
      | feed =>
          rw [Terminator.text, List.append_assoc]
          exact trim_lines_feed row.text_unbroken rest
      | returnAndFeed =>
          -- Read as the last blank of the row, the carriage return is cut in any case.
          have unbroken : '\n' ∉ row.text ++ ['\r'] := by simp [row.text_unbroken]
          have cut : trim (row.text ++ ['\r']) = trim row.text :=
            trim_append_blanks (by simp [isBlank])
          rw [Terminator.text, ← cut, ← trim_lines_feed unbroken]
          simp

theorem exists_printed (listing : List Char) : ∃ rows, Printed rows listing := by
  induction listing using induction_feed with
  | last text unbroken =>
      obtain ⟨row, rfl⟩ := Row.exists_of_unbroken unbroken
      by_cases empty : row.text = []
      · exact ⟨[], empty ▸ .nothing⟩
      · exact ⟨[row], .unterminated empty⟩
  | feed text rest unbroken ih =>
      obtain ⟨row, rfl⟩ := Row.exists_of_unbroken unbroken
      obtain ⟨rows, printed⟩ := ih
      have whole : Printed (row :: rows) (row.text ++ Terminator.feed.text ++ rest) :=
        .terminated .feed printed
      exact ⟨row :: rows, by simpa [Terminator.text] using whole⟩

theorem lists_iff {listing name : String} :
    lists listing name = true ↔ name.toList ∈ (lines listing.toList).map trim := by
  simp only [lists, names, List.contains_iff_mem, List.mem_map]
  constructor
  · rintro ⟨line, member, rfl⟩
    exact ⟨line, member, by simp⟩
  · rintro ⟨line, member, same⟩
    exact ⟨line, member, by simp [same]⟩

theorem Printed.lists_iff_mem {text name : String} (printed : Printed rows text.toList) :
    lists text name = true ↔ ∃ row ∈ rows, row.core = name.toList := by
  rw [lists_iff, printed.trim_lines, List.mem_map]

/-- A listing names exactly the cores of its rows, and every text is a listing. -/
theorem lists_by_rows (listing name : String) :
    (∀ c, isBlank c = true ↔ c ∈ whiteSpace) ∧
    (∃ rows, Printed rows listing.toList) ∧
    (∀ rows, Printed rows listing.toList →
      (lists listing name = true ↔ ∃ row ∈ rows, row.core = name.toList) ∧
      (lists listing "" = true ↔ ∃ row ∈ rows, ∀ c ∈ row.text, isBlank c = true)) ∧
    (¬ Bare name.toList ∨ '\n' ∈ name.toList → lists listing name = false) ∧
    ∀ more, lists (listing ++ "\n" ++ more) name =
      (lists (listing ++ "\n") name || lists more name) := by
  refine ⟨fun _ => isBlank_iff_mem, exists_printed _,
    fun rows printed => ⟨printed.lists_iff_mem, ?_⟩, ?_, fun more => ?_⟩
  · rw [printed.lists_iff_mem]
    exact exists_congr fun row => and_congr_right fun _ => row.core_eq_nil_iff
  · intro odd
    obtain ⟨rows, printed⟩ := exists_printed listing.toList
    refine Bool.eq_false_iff.mpr fun listed => ?_
    obtain ⟨row, _, same⟩ := printed.lists_iff_mem.mp listed
    rw [← same] at odd
    exact odd.elim (fun padded => padded row.core_bare) row.core_unbroken
  · rw [Bool.eq_iff_iff, Bool.or_eq_true, lists_iff, lists_iff, lists_iff, ← List.mem_append]
    have feed : "\n".toList = ['\n'] := rfl
    rw [String.toList_append, String.toList_append, feed, ← trim_lines_append, List.append_assoc,
      List.singleton_append]

example :
    names "\u0085kind\x0b\r\n\u2028\n\r lifeguard-test" = ["kind", "", "lifeguard-test"] := by
  decide

end Listing

end DevCluster
