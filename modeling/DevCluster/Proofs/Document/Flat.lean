import DevCluster.Document.Text
import DevCluster.Proofs.Document.Quotation

/-!
Flat documents: one assignment of a string to a name on each line. They are read back as the table
of their assignments, in order, unless a name is assigned twice.
-/

namespace DevCluster.Document

open Reader

inductive Named (name : List Char) : List Char → Prop
  | quoted {spelling} : Quoted name spelling → Named name spelling
  | bare : name ≠ [] → (∀ c ∈ name, isBareChar c = true) → Named name name

/-- How assignments can be written, one on each line. The last line may go without a line feed. -/
inductive Flat : List (String × String) → List Char → Prop
  | nil : Flat [] []
  | last {name value key quoted} : Named name.toList key → Quoted value.toList quoted →
      Flat [(name, value)] (key ++ " = ".toList ++ quoted)
  | cons {name value key quoted others text} : Named name.toList key → Quoted value.toList quoted →
      Flat others text →
      Flat ((name, value) :: others) (key ++ " = ".toList ++ quoted ++ '\n' :: text)

/-- All assignments can be written, whatever their names and values. -/
def write : List (String × String) → List Char
  | [] => []
  | (name, value) :: others => quote name ++ " = ".toList ++ quote value ++ '\n' :: write others

theorem write_flat (assignments : List (String × String)) :
    Flat assignments (write assignments) := by
  induction assignments with
  | nil => exact .nil
  | cons assignment others ih => exact .cons (.quoted (quote_quoted _)) (quote_quoted _) ih

variable {text rest : List Char}

theorem Quoted.head {quoted : List Char} (isQuoted : Quoted text quoted) :
    ∃ c others, quoted = c :: others ∧ (c = '"' ∨ c = '\'') := by
  cases isQuoted with
  | basic => exact ⟨_, _, rfl, .inl rfl⟩
  | literal => exact ⟨_, _, rfl, .inr rfl⟩

theorem keyName_named {name : String} {key : List Char} (named : Named name.toList key)
    (boundary : ∀ c ∈ rest.head?, isBareChar c = false) :
    keyName (key ++ rest) = some (name, rest) := by
  cases named with
  | quoted quoted =>
      cases quoted with
      | @basic spelling spelled =>
          have read : basicRest (spelling ++ (['"'] ++ rest)) = some (name.toList, rest) :=
            basicRest_spelled spelled
          rw [List.cons_append, List.append_assoc, keyName.eq_1, read]
          simp
      | literal allowed =>
          have read : literalRest (name.toList ++ (['\''] ++ rest)) = some (name.toList, rest) :=
            literalRest_text allowed
          rw [List.cons_append, List.append_assoc, keyName.eq_2, read]
          simp
  | bare filled allowed =>
      obtain ⟨c, others, same⟩ := List.exists_cons_of_ne_nil filled
      have first : isBareChar c = true := allowed c (by simp [same])
      rw [keyName.eq_3, run_eq _ allowed boundary]
      · simp [filled]
      · intro others quote
        rw [same] at quote
        obtain rfl := (List.cons.inj quote).1
        cases first
      · intro others quote
        rw [same] at quote
        obtain rfl := (List.cons.inj quote).1
        cases first

/-- Neither a name nor a string begins like anything else that can stand on a line. -/
theorem Named.head {name key : List Char} (named : Named name key) :
    ∃ c others, key = c :: others ∧ (c = '"' ∨ c = '\'' ∨ isBareChar c = true) := by
  cases named with
  | quoted quoted =>
      obtain ⟨c, others, rfl, quote⟩ := quoted.head
      exact ⟨c, others, rfl, quote.imp_right .inl⟩
  | bare filled allowed =>
      obtain ⟨c, others, rfl⟩ := List.exists_cons_of_ne_nil filled
      exact ⟨c, others, rfl, .inr (.inr (allowed c List.mem_cons_self))⟩

theorem spaces_named {name written : List Char} (named : Named name written) (rest : List Char) :
    spaces (written ++ rest) = some ((), written ++ rest) := by
  refine spaces_eq_self fun c next => ?_
  obtain ⟨_, others, rfl, first⟩ := named.head
  cases next
  rcases first with rfl | rfl | bare
  · rfl
  · rfl
  · by_contra space
    simp only [isSpace, Bool.or_eq_false_iff, decide_eq_false_iff_not, not_and_or,
      not_not] at space
    rcases space with rfl | rfl <;> cases bare

theorem key_named {name : String} {written : List Char} (named : Named name.toList written)
    (rest : List Char) : ∃ extent, key (written ++ " = ".toList ++ rest) =
      some (⟨[], name, extent⟩, '=' :: ' ' :: rest) := by
  rw [List.append_assoc]
  have read : keyName (written ++ (" = ".toList ++ rest)) =
      some (name, ' ' :: '=' :: ' ' :: rest) :=
    keyName_named named (by simp [isBareChar])
  have closing : spaces (' ' :: '=' :: ' ' :: rest) = some ((), '=' :: ' ' :: rest) :=
    spaces_eq (by simp [isSpace])
  refine ⟨⟨written ++ (" = ".toList ++ rest), ' ' :: '=' :: ' ' :: rest⟩, ?_⟩
  rw [key, bind_eq (spaces_named named _)]
  refine (bind_eq (withExtent_eq read)).trans ?_
  refine (bind_eq closing).trans ?_
  refine (bind_eq (many_eq_nil (by simp))).trans ?_
  rfl

theorem value_quoted {value : String} {quoted : List Char} (isQuoted : Quoted value.toList quoted)
    (boundary : ∀ c ∈ rest.head?, c ≠ '"' ∧ c ≠ '\'') :
    Document.value (quoted ++ rest) = some (.text value, rest) := by
  have read : quotation (quoted ++ rest) = some (value.toList, rest) :=
    quotation_quoted isQuoted boundary
  obtain ⟨c, others, rfl, quote⟩ := isQuoted.head
  rw [Document.value, deepestValue, valueWithin, ahead_bind_eq]
  rcases quote with rfl | rfl
  · exact (bind_eq read).trans (by rw [String.ofList_toList]; rfl)
  · exact (bind_eq read).trans (by rw [String.ofList_toList]; rfl)

def Assignment.Flat (assignment : Assignment) (name value : String) : Prop :=
  assignment.key.path = [] ∧ assignment.key.name = name ∧ assignment.item = .text value

theorem assignment_flat {name value : String} {written quoted : List Char}
    (named : Named name.toList written) (isQuoted : Quoted value.toList quoted)
    (boundary : ∀ c ∈ rest.head?, c = '\n') :
    ∃ assigned, assignment Document.value (written ++ " = ".toList ++ quoted ++ rest) =
      some (assigned, rest) ∧ assigned.Flat name value := by
  obtain ⟨extent, keyRead⟩ := key_named named (quoted ++ rest)
  have opening : spaces (' ' :: (quoted ++ rest)) = some ((), quoted ++ rest) := by
    obtain ⟨c, others, rfl, quote⟩ := isQuoted.head
    refine spaces_eq ?_
    rcases quote with rfl | rfl <;> simp [isSpace]
  have read : Document.value (quoted ++ rest) = some (.text value, rest) := by
    refine value_quoted isQuoted fun c next => ?_
    rw [boundary c next]
    decide
  have closing : spaces rest = some ((), rest) := by
    refine spaces_eq_self fun c next => ?_
    rw [boundary c next]
    decide
  refine ⟨⟨⟨[], name, extent⟩, .text value, ⟨quoted ++ rest, rest⟩⟩, ?_, rfl, rfl, rfl⟩
  rw [assignment, List.append_assoc, bind_eq keyRead, bind_eq (expect_eq '='), bind_eq opening]
  refine (bind_eq (withExtent_eq read)).trans ?_
  exact bind_eq closing

theorem line_flat {name value : String} {written quoted : List Char}
    (named : Named name.toList written) (isQuoted : Quoted value.toList quoted)
    (ending : List Char) (boundary : ∀ c ∈ ending.head?, c = '\n')
    (ended : lineEnd ending = some ((), rest)) :
    ∃ assigned, line (written ++ " = ".toList ++ quoted ++ ending) =
      some (some (.assign assigned), rest) ∧ assigned.Flat name value := by
  obtain ⟨assigned, read, flat⟩ := assignment_flat named isQuoted boundary
  refine ⟨assigned, ?_, flat⟩
  have closing : spaces ending = some ((), ending) := by
    refine spaces_eq_self fun c next => ?_
    rw [boundary c next]
    decide
  have unremarked : remark ending = some ((), ending) := by
    have silent : ending.head? ≠ some '#' := fun next => by cases boundary _ next
    rw [remark, ahead_bind_eq, if_neg silent]
    rfl
  have opening := spaces_named named (" = ".toList ++ quoted ++ ending)
  obtain ⟨c, others, rfl, first⟩ := named.head
  have plain : c ≠ '#' ∧ c ≠ '\n' ∧ c ≠ '\r' ∧ c ≠ '[' := by
    rcases first with rfl | rfl | bare
    · decide
    · decide
    · refine ⟨?_, ?_, ?_, ?_⟩ <;> rintro rfl <;> cases bare
  obtain ⟨comment, feed, carriage, bracket⟩ := plain
  simp only [List.append_assoc] at opening read ⊢
  rw [line, bind_eq opening, ahead_bind_eq]
  simp only [List.cons_append, List.head?_cons]
  refine (bind_eq read).trans ?_
  rw [pure_bind]
  refine (bind_eq closing).trans ?_
  refine (bind_eq unremarked).trans ?_
  exact bind_eq ended

theorem Flat.length_le {assignments : List (String × String)} (flat : Flat assignments text) :
    assignments.length ≤ text.length := by
  induction flat with
  | nil => simp
  | last => simp; omega
  | cons _ _ _ ih => simp; omega

/-- The lines of a flat document hold its assignments, one after another. -/
theorem lines_flat {assignments : List (String × String)} (flat : Flat assignments text)
    {rounds : Nat} (enough : assignments.length ≤ rounds) :
    ∃ statements : List Assignment,
      manyWithin (fun _ => true) line rounds text =
        some (statements.map (fun assigned => some (.assign assigned)), []) ∧
      List.Forall₂ (fun assigned assignment => assigned.Flat assignment.1 assignment.2)
        statements assignments := by
  induction flat generalizing rounds with
  | nil => exact ⟨[], manyWithin_eq_nil (by simp), .nil⟩
  | last named isQuoted =>
      obtain ⟨rounds, rfl⟩ := Nat.exists_eq_add_one_of_ne_zero (Nat.ne_of_gt enough)
      obtain ⟨assigned, read, flat⟩ := line_flat named isQuoted [] (by simp) rfl
      rw [List.append_nil] at read
      obtain ⟨c, _, rfl, _⟩ := named.head
      exact ⟨[assigned], manyWithin_eq_cons ⟨c, rfl, rfl⟩ read (manyWithin_eq_nil (by simp)),
        .cons flat .nil⟩
  | @cons _ _ _ _ _ text named isQuoted _ ih =>
      obtain ⟨rounds, rfl⟩ := Nat.exists_eq_add_one_of_ne_zero
        (Nat.ne_of_gt (Nat.lt_of_lt_of_le (Nat.succ_pos _) enough))
      obtain ⟨assigned, read, flat⟩ :=
        line_flat named isQuoted ('\n' :: text) (by simp) rfl
      obtain ⟨statements, others, flats⟩ := ih (Nat.le_of_succ_le_succ enough)
      obtain ⟨c, _, rfl, _⟩ := named.head
      exact ⟨assigned :: statements, manyWithin_eq_cons ⟨c, rfl, rfl⟩ read others,
        .cons flat flats⟩

theorem Flat.unmarked {assignments : List (String × String)} (flat : Flat assignments text) :
    text.head? ≠ some '\uFEFF' := by
  have unmarked {name written : List Char} (named : Named name written) (others : List Char) :
      (written ++ others).head? ≠ some '\uFEFF' := by
    obtain ⟨c, _, rfl, first⟩ := named.head
    rintro ⟨⟩
    revert first
    decide
  cases flat with
  | nil => simp
  | last named _ =>
      rw [List.append_assoc]
      exact unmarked named _
  | cons named _ _ =>
      rw [List.append_assoc, List.append_assoc]
      exact unmarked named _

theorem statements?_flat {assignments : List (String × String)} (flat : Flat assignments text) :
    ∃ statements : List Assignment, statements? text = some (statements.map .assign) ∧
      List.Forall₂ (fun assigned assignment => assigned.Flat assignment.1 assignment.2)
        statements assignments := by
  obtain ⟨statements, read, flats⟩ := lines_flat flat flat.length_le
  refine ⟨statements, ?_, flats⟩
  have lines : many (fun _ => true) line text =
      some (statements.map (fun assigned => some (.assign assigned)), []) :=
    ahead_bind_eq.trans read
  simp [statements?, flat.unmarked, lines]

def Table.ofStrings (assignments : List (String × String)) : Table :=
  assignments.map fun assignment => (assignment.1, .text assignment.2)

theorem Table.get?_ofStrings {assignments : List (String × String)} {name : String} :
    ((ofStrings assignments).get? name).isSome ↔ name ∈ assignments.map Prod.fst := by
  simp [get?, ofStrings, List.lookup_isSome_iff]

theorem Table.assign_known {assignments : List (String × String)} {name : String} {item : Item}
    (known : name ∈ assignments.map Prod.fst) :
    (ofStrings assignments).assign none [] name item = none := by
  simp [assign, get?_ofStrings.mpr known]

theorem Table.assign_fresh {assignments : List (String × String)} {name value : String}
    (fresh : name ∉ assignments.map Prod.fst) :
    (ofStrings assignments).assign none [] name (.text value) =
      some (ofStrings (assignments ++ [(name, value)])) := by
  rw [← get?_ofStrings] at fresh
  have added : (ofStrings assignments).add name (.text value) =
      ofStrings (assignments ++ [(name, value)]) := by
    simp [add, ofStrings]
  simp [assign, fresh, added]

/-- A draft with assignments of strings, before any header. -/
structure Draft.Holds (draft : Draft) (assignments : List (String × String)) : Prop where
  top : draft.current = []
  entries : draft.root = .ofStrings assignments

variable {draft : Draft} {assignments : List (String × String)}

theorem Draft.apply_known (holds : draft.Holds assignments) {assigned : Assignment}
    {name value : String} (flat : assigned.Flat name value)
    (known : name ∈ assignments.map Prod.fst) : draft.apply (.assign assigned) = none := by
  obtain ⟨root, marks, current⟩ := draft
  obtain ⟨rfl, rfl⟩ := holds
  obtain ⟨⟨path, _, extent⟩, item, _⟩ := assigned
  obtain ⟨rfl, rfl, rfl⟩ := flat
  simp [apply, Table.reach, Table.assign_known known]

theorem Draft.apply_fresh (holds : draft.Holds assignments) {assigned : Assignment}
    {name value : String} (flat : assigned.Flat name value)
    (fresh : name ∉ assignments.map Prod.fst) :
    ∃ next, draft.apply (.assign assigned) = some next ∧
      next.Holds (assignments ++ [(name, value)]) := by
  obtain ⟨root, marks, current⟩ := draft
  obtain ⟨rfl, rfl⟩ := holds
  obtain ⟨⟨path, name, extent⟩, item, valueExtent⟩ := assigned
  obtain ⟨rfl, rfl, rfl⟩ := flat
  refine ⟨⟨.ofStrings (assignments ++ [(name, value)]),
    marks.apply [] (.assign ⟨⟨[], name, extent⟩, .text value, valueExtent⟩), []⟩, ?_, rfl, rfl⟩
  rw [apply, Table.reach, Table.assign_fresh fresh]
  rfl

theorem Draft.holds_nothing : Draft.Holds {} [] := ⟨rfl, rfl⟩

variable {statements : List Assignment} {later : List (String × String)}

theorem Draft.foldlM_distinct
    (flats : List.Forall₂ (fun assigned assignment => assigned.Flat assignment.1 assignment.2)
      statements later)
    (holds : draft.Holds assignments) (distinct : ((assignments ++ later).map Prod.fst).Nodup) :
    ∃ final, (statements.map .assign).foldlM Draft.apply draft = some final ∧
      final.Holds (assignments ++ later) := by
  induction flats generalizing draft assignments with
  | nil => exact ⟨draft, rfl, by rwa [List.append_nil]⟩
  | @cons assigned assignment statements later flat _ ih =>
      have fresh : assignment.1 ∉ assignments.map Prod.fst := by
        rw [List.map_append, List.map_cons, List.nodup_middle, List.nodup_cons] at distinct
        exact fun known => distinct.1 (List.mem_append_left _ known)
      obtain ⟨next, applied, holds⟩ := apply_fresh holds flat fresh
      rw [List.append_cons] at distinct ⊢
      rw [List.map_cons, List.foldlM_cons, applied]
      exact ih holds distinct

theorem Draft.foldlM_repeated
    (flats : List.Forall₂ (fun assigned assignment => assigned.Flat assignment.1 assignment.2)
      statements later)
    (holds : draft.Holds assignments) (distinct : (assignments.map Prod.fst).Nodup)
    (repeated : ¬ ((assignments ++ later).map Prod.fst).Nodup) :
    (statements.map .assign).foldlM Draft.apply draft = none := by
  induction flats generalizing draft assignments with
  | nil =>
      rw [List.append_nil] at repeated
      exact absurd distinct repeated
  | @cons assigned assignment statements later flat _ ih =>
      -- Either this statement repeats a name, or the draft goes on without a repeated one.
      rw [List.map_cons, List.foldlM_cons]
      by_cases known : assignment.1 ∈ assignments.map Prod.fst
      · rw [apply_known holds flat known]
        rfl
      · obtain ⟨next, applied, holds⟩ := apply_fresh holds flat known
        rw [applied]
        refine ih holds ?_ ?_
        · rw [List.map_append]
          exact List.nodup_append_comm.mp (List.nodup_cons.mpr ⟨known, distinct⟩)
        · rwa [← List.append_cons]

/-- A flat document is the table of its assignments if no name is assigned twice. -/
theorem ofText?_distinct (flat : Flat assignments text)
    (distinct : (assignments.map Prod.fst).Nodup) :
    ∃ marks, ofText? (String.ofList text) = some (.ofStrings assignments, marks) := by
  obtain ⟨statements, read, flats⟩ := statements?_flat flat
  obtain ⟨final, drafted, holds⟩ := Draft.foldlM_distinct flats Draft.holds_nothing distinct
  refine ⟨final.marks, ?_⟩
  simp [ofText?, read, drafted, holds.entries]

theorem ofText?_repeated (flat : Flat assignments text)
    (repeated : ¬ (assignments.map Prod.fst).Nodup) : ofText? (String.ofList text) = none := by
  obtain ⟨statements, read, flats⟩ := statements?_flat flat
  have refused := Draft.foldlM_repeated flats Draft.holds_nothing .nil repeated
  simp [ofText?, read, refused]

end DevCluster.Document
