import Mathlib
import DevCluster.Console

/-!
What the operator sees on the standard output, row by row. A line begins one row, which its mark
opens. Each line feed in its text begins another one, which nothing marks.
-/

namespace DevCluster

namespace Line

def mark : Line → String
  | info _ => "[INFO] "
  | warn _ => "[WARN] "
  | error _ => "[ERROR] "
  | detail _ => "   "
  | blank => ""

def text : Line → String
  | info text | warn text | error text | detail text => text
  | blank => ""

def isStatus : Line → Bool
  | info _ | warn _ => true
  | _ => false

/-- The row that a line begins. -/
def opening (line : Line) : List Char :=
  line.mark.toList ++ (line.text.toList.splitOn '\n').headD []

def overflow (line : Line) : List (List Char) :=
  (line.text.toList.splitOn '\n').tail

theorem print_eq (line : Line) : line.print = line.mark ++ line.text ++ "\n" := by
  cases line <;> rfl

theorem overflow_eq_nil {line : Line} (unbroken : '\n' ∉ line.text.toList) :
    line.overflow = [] := by
  rw [overflow, List.splitOn_eq_singleton unbroken]
  rfl

theorem mark_unbroken (line : Line) : '\n' ∉ line.mark.toList := by
  cases line <;> simp [mark]

end Line

theorem Text.splitOn_append {first : List Char} (unbroken : '\n' ∉ first) (rest : List Char) :
    (first ++ rest).splitOn '\n' = (rest.splitOn '\n').modifyHead (first ++ ·) := by
  induction first with
  | nil => exact (congrFun List.modifyHead_id _).symm
  | cons c first ih =>
      obtain ⟨other, unbroken⟩ := List.ne_and_not_mem_of_not_mem_cons unbroken
      have step := ih unbroken
      simp only [List.splitOn] at step ⊢
      rw [List.cons_append, List.splitOnP_cons_eq_if_modifyHead, if_neg (by simpa using other.symm),
        step, List.modifyHead_modifyHead]
      rfl

namespace Console

open Line

def output (lines : List Line) : String :=
  String.join ((lines.filter (·.channel = .stdout)).map print)

def rows (lines : List Line) : List (List Char) :=
  (output lines).toList.splitOn '\n'

def Plain (row : List Char) : Prop :=
  row = [] ∨ "[INFO] ".toList <+: row ∨ "[WARN] ".toList <+: row ∨ "   ".toList <+: row

def bracketed (row : List Char) : Bool :=
  row.head? = some '['

/-- Every row can be read as one of the narrative, and no row passes for a status but those that
are one. -/
structure Faithful (lines : List Line) : Prop where
  plain : ∀ row ∈ rows lines, Plain row
  counted : (rows lines).countP bracketed = lines.countP isStatus

def Continues (row : List Char) : Prop :=
  row = [] ∨ "   ".toList <+: row

variable {row : List Char} {line : Line} {lines : List Line}

theorem continues_iff : Continues row ↔ Plain row ∧ bracketed row = false := by
  constructor
  · rintro (rfl | ⟨rest, rfl⟩)
    · exact ⟨.inl rfl, rfl⟩
    · exact ⟨.inr (.inr (.inr (List.prefix_append ..))), rfl⟩
  · rintro ⟨rfl | ⟨rest, rfl⟩ | ⟨rest, rfl⟩ | indented, unmarked⟩
    · exact .inl rfl
    · cases unmarked
    · cases unmarked
    · exact .inr indented

theorem plain_opening (shown : line.channel = .stdout) : Plain line.opening := by
  cases line with
  | info text => exact .inr (.inl (List.prefix_append ..))
  | warn text => exact .inr (.inr (.inl (List.prefix_append ..)))
  | error text => cases shown
  | detail text => exact .inr (.inr (.inr (List.prefix_append ..)))
  | blank => exact .inl rfl

theorem bracketed_opening (shown : line.channel = .stdout) :
    bracketed line.opening = line.isStatus := by
  cases line with
  | info text => simp [bracketed, opening, mark, isStatus]
  | warn text => simp [bracketed, opening, mark, isStatus]
  | error text => cases shown
  | detail text => simp [bracketed, opening, mark, isStatus]
  | blank => rfl

theorem rows_cons_of_stdout (shown : line.channel = .stdout) :
    rows (line :: lines) = line.opening :: (line.overflow ++ rows lines) := by
  have own : (line.mark ++ line.text).toList.splitOn '\n' = line.opening :: line.overflow := by
    rw [String.toList_append, Text.splitOn_append line.mark_unbroken, opening, overflow]
    cases split : line.text.toList.splitOn '\n' with
    | nil => exact absurd split (List.splitOnP_ne_nil _ _)
    | cons first others => rfl
  have feed : "\n".toList = ['\n'] := rfl
  rw [rows, output, List.filter_cons_of_pos (by simpa using shown), List.map_cons, String.join_cons,
    print_eq, String.toList_append, String.toList_append, feed, List.append_assoc,
    List.singleton_append, List.splitOn, List.splitOnP_append_cons _ _ (by simp)]
  exact congrArg (· ++ rows lines) own

theorem rows_cons_of_stderr (hidden : line.channel ≠ .stdout) :
    rows (line :: lines) = rows lines := by
  rw [rows, output, List.filter_cons_of_neg (by simpa using hidden)]
  rfl

def overflows (lines : List Line) : List (List Char) :=
  (lines.filter (·.channel = .stdout)).flatMap overflow

theorem overflows_cons_of_stdout (shown : line.channel = .stdout) :
    overflows (line :: lines) = line.overflow ++ overflows lines := by
  rw [overflows, List.filter_cons_of_pos (by simpa using shown), List.flatMap_cons]
  rfl

theorem overflows_cons_of_stderr (hidden : line.channel ≠ .stdout) :
    overflows (line :: lines) = overflows lines := by
  rw [overflows, List.filter_cons_of_neg (by simpa using hidden)]
  rfl

theorem countP_rows (lines : List Line) :
    (rows lines).countP bracketed =
      lines.countP isStatus + (overflows lines).countP bracketed := by
  induction lines with
  | nil => rfl
  | cons line lines ih =>
      by_cases shown : line.channel = .stdout
      · rw [rows_cons_of_stdout shown, overflows_cons_of_stdout shown, List.countP_cons,
          List.countP_append, List.countP_append, ih, bracketed_opening shown, List.countP_cons]
        omega
      · have unmarked : line.isStatus = false := by
          cases line with
          | error text => rfl
          | _ => exact absurd rfl shown
        rw [rows_cons_of_stderr shown, overflows_cons_of_stderr shown, ih,
          List.countP_cons_of_neg (by simpa using unmarked)]

theorem plain_rows (lines : List Line) :
    (∀ row ∈ rows lines, Plain row) ↔ ∀ row ∈ overflows lines, Plain row := by
  induction lines with
  | nil => simp [rows, output, overflows, Plain]
  | cons line lines ih =>
      by_cases shown : line.channel = .stdout
      · rw [rows_cons_of_stdout shown, overflows_cons_of_stdout shown, List.forall_mem_cons,
          List.forall_mem_append, List.forall_mem_append, ih]
        exact and_iff_right (plain_opening shown)
      · rw [rows_cons_of_stderr shown, overflows_cons_of_stderr shown, ih]

theorem mem_rows_of_overflow (told : line ∈ lines) (shown : line.channel = .stdout)
    (member : row ∈ line.overflow) : row ∈ rows lines := by
  induction lines with
  | nil => cases told
  | cons other lines ih =>
      rcases List.mem_cons.mp told with rfl | told
      · rw [rows_cons_of_stdout shown]
        exact List.mem_cons_of_mem _ (List.mem_append_left _ member)
      · by_cases visible : other.channel = .stdout
        · rw [rows_cons_of_stdout visible]
          exact List.mem_cons_of_mem _ (List.mem_append_right _ (ih told))
        · rw [rows_cons_of_stderr visible]
          exact ih told

/-- The output is faithful exactly if what line feeds in texts begin is empty or indented. -/
theorem faithful_iff :
    Faithful lines ↔
      ∀ line ∈ lines, line.channel = .stdout → ∀ row ∈ line.overflow, Continues row := by
  have split : Faithful lines ↔ ∀ row ∈ overflows lines, Continues row := by
    simp only [continues_iff, forall_and]
    constructor
    · rintro ⟨plain, counted⟩
      -- The opening rows use up the statuses, so what overflows has no bracketed row.
      have none : (overflows lines).countP bracketed = 0 := by
        have all := countP_rows lines
        omega
      exact ⟨(plain_rows lines).mp plain, by simpa using List.countP_eq_zero.mp none⟩
    · rintro ⟨plain, unmarked⟩
      have none : (overflows lines).countP bracketed = 0 :=
        List.countP_eq_zero.mpr (by simpa using unmarked)
      exact ⟨(plain_rows lines).mpr plain, by rw [countP_rows, none, Nat.add_zero]⟩
  rw [split]
  simp only [overflows, List.mem_flatMap, List.mem_filter, decide_eq_true_eq]
  constructor
  · intro continued line told shown row member
    exact continued row ⟨line, ⟨told, shown⟩, member⟩
  · rintro continued row ⟨line, ⟨told, shown⟩, member⟩
    exact continued line told shown row member

example : rows [.warn "one\ntwo", .error "three", .blank] =
    ["[WARN] one".toList, "two".toList, [], []] := by
  decide

end Console

end DevCluster
