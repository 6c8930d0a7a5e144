import DevCluster.Proofs.Document.Values

/-!
Lines and whole texts: the statements that are read from a text are those that are written in it.
-/

namespace DevCluster.Document

open Grammar Reader

variable {text middle rest : List Char} {statement : Statement}

theorem headerKey_sound {key : Key} {isArray : Bool}
    (read : headerKey text = some ((key, isArray), rest)) :
    ∃ others start, Blanks others start ∧
      if isArray then text = '[' :: '[' :: others ∧ Keyed start key (']' :: ']' :: rest)
      else text = '[' :: others ∧ Keyed start key (']' :: rest) := by
  rw [headerKey, bind_eq_some] at read
  obtain ⟨_, others, opening, read⟩ := read
  obtain rfl := expect_eq_some.mp opening
  rw [ahead_bind_eq] at read
  split at read
  next =>
    simp only [bind_eq_some, expect_eq_some, pure_eq_some] at read
    obtain ⟨_, _, rfl, key, _, keyed, _, _, rfl, _, _, rfl, same⟩ := read
    cases same
    obtain ⟨start, blanks, keyed⟩ := key_sound keyed
    exact ⟨_, start, blanks, rfl, keyed⟩
  next =>
    simp only [bind_eq_some, expect_eq_some, pure_eq_some] at read
    obtain ⟨key, _, keyed, _, _, rfl, same⟩ := read
    cases same
    obtain ⟨start, blanks, keyed⟩ := key_sound keyed
    exact ⟨_, start, blanks, rfl, keyed⟩

theorem headerStatement_sound (read : headerStatement text = some (statement, rest)) :
    Headed text statement rest := by
  simp only [headerStatement, bind_eq_some, pure_eq_some] at read
  obtain ⟨⟨⟨key, isArray⟩, extent⟩, _, own, same⟩ := read
  obtain ⟨own, rfl⟩ := withExtent_eq_some.mp own
  obtain ⟨rfl, rfl⟩ := Prod.mk.inj same
  obtain ⟨others, start, blanks, written⟩ := headerKey_sound own
  cases isArray with
  | true =>
      obtain ⟨rfl, keyed⟩ := written
      exact .another blanks keyed
  | false =>
      obtain ⟨rfl, keyed⟩ := written
      exact .table blanks keyed

theorem apart_bracket : Apart (']' :: text) := by
  simp [Apart, isSpace, isBareChar]

theorem headerKey_complete {key : Key} (blanks : Blanks text middle)
    (keyed : Keyed middle key (']' :: rest)) :
    headerKey ('[' :: text) = some ((key, false), rest) := by
  have single : ∀ c ∈ text.head?, c ≠ '[' := by
    obtain ⟨d, others, rfl, named⟩ := keyed.head
    obtain ⟨_, _, _, _, bracket, _⟩ := nameStart_ne named
    refine blanks.head (fun c space => ?_) (by simpa using bracket)
    rintro rfl
    cases space
  have unopened : text.head? ≠ some '[' := fun next => single '[' next rfl
  refine (bind_eq (expect_eq '[')).trans ?_
  rw [ahead_bind_eq, if_neg unopened]
  refine (bind_eq (key_complete blanks keyed apart_bracket (by simp))).trans ?_
  exact bind_eq (expect_eq ']')

theorem headerKey_complete_another {key : Key} (blanks : Blanks text middle)
    (keyed : Keyed middle key (']' :: ']' :: rest)) :
    headerKey ('[' :: '[' :: text) = some ((key, true), rest) := by
  refine (bind_eq (expect_eq '[')).trans ?_
  rw [ahead_bind_eq, if_pos (show ('[' :: text).head? = some '[' from rfl)]
  refine (bind_eq (expect_eq '[')).trans ?_
  refine (bind_eq (key_complete blanks keyed apart_bracket (by simp))).trans ?_
  exact (bind_eq (expect_eq ']')).trans (bind_eq (expect_eq ']'))

theorem headerStatement_complete (headed : Headed text statement rest) :
    headerStatement text = some (statement, rest) := by
  cases headed with
  | table blanks keyed => exact bind_eq (withExtent_eq (headerKey_complete blanks keyed))
  | another blanks keyed => exact bind_eq (withExtent_eq (headerKey_complete_another blanks keyed))

def lineBody : Reader (Option Statement) := do
  match (← ahead).head? with
  | none | some '#' | some '\n' | some '\r' => pure none
  | some '[' => some <$> headerStatement
  | some _ => do pure (some (.assign (← assignment value)))

theorem line_eq : line = (do
    spaces
    let statement ← lineBody
    spaces
    remark
    lineEnd
    pure statement) := by
  rw [line]
  refine congrArg _ (funext fun _ => ?_)
  simp only [lineBody, bind_assoc]
  refine congrArg _ (funext fun seen => ?_)
  generalize seen.head? = next
  split <;> simp

theorem reads_value : Reads Document.value Value :=
  reads_valueWithin 79

/-- Whether nothing but a comment, if anything, is left of a line. -/
def Quiet (text : List Char) : Prop :=
  ∀ c ∈ text.head?, c = '#' ∨ c = '\n' ∨ c = '\r'

theorem Quiet.closes (quiet : Quiet text) : Closes text := by
  intro c next
  rcases quiet c next with rfl | rfl | rfl <;> decide

theorem Quiet.solid (quiet : Quiet text) : ∀ c ∈ text.head?, isSpace c = false :=
  fun c next => (quiet.closes c next).2

theorem lineBody_quiet (quiet : Quiet text) : lineBody text = some (none, text) := by
  cases text with
  | nil => rfl
  | cons c text => rcases quiet c rfl with rfl | rfl | rfl <;> rfl

theorem lineBody_header : lineBody ('[' :: text) =
    (headerStatement >>= fun statement => pure (some statement)) ('[' :: text) := by
  rw [bind_pure_comp]
  rfl

theorem lineBody_assignment {c : Char} (unquiet : c ≠ '#' ∧ c ≠ '\n' ∧ c ≠ '\r') (plain : c ≠ '[') :
    lineBody (c :: text) =
      (assignment Document.value >>= fun assigned => pure (some (.assign assigned)))
        (c :: text) := by
  obtain ⟨comment, feed, carriage⟩ := unquiet
  rw [lineBody, ahead_bind_eq]
  simp

theorem lineBody_sound {statement : Option Statement}
    (read : lineBody text = some (statement, rest)) :
    (statement = none ∧ rest = text) ∨
      (∃ header, statement = some header ∧ Headed text header rest) ∨
      ∃ assigned start, statement = some (.assign assigned) ∧ Blanks text start ∧
        Assigned Value start assigned rest := by
  by_cases quiet : Quiet text
  · rw [lineBody_quiet quiet] at read
    cases read
    exact .inl ⟨rfl, rfl⟩
  · obtain ⟨c, next, other⟩ : ∃ c ∈ text.head?, ¬ (c = '#' ∨ c = '\n' ∨ c = '\r') := by
      simpa [Quiet] using quiet
    obtain ⟨text, rfl⟩ := List.head?_eq_some_iff.mp next
    by_cases bracket : c = '['
    · subst bracket
      simp only [lineBody_header, bind_eq_some, pure_eq_some] at read
      obtain ⟨header, _, own, same⟩ := read
      cases same
      exact .inr (.inl ⟨header, rfl, headerStatement_sound own⟩)
    · rw [lineBody_assignment (by simpa [not_or] using other) bracket] at read
      simp only [bind_eq_some, pure_eq_some] at read
      obtain ⟨assigned, _, own, same⟩ := read
      cases same
      obtain ⟨start, blanks, written⟩ := assignment_sound reads_value own
      exact .inr (.inr ⟨assigned, start, rfl, blanks, written⟩)

theorem Grammar.Assigned.extend {value : List Char → Item → List Char → Prop}
    {assigned : Assignment} (written : Assigned value text assigned middle)
    (blanks : Blanks middle rest) : Assigned value text assigned rest := by
  cases written with
  | value keyed between own after => exact .value keyed between own (after.trans blanks)

theorem line_sound {statement : Option Statement} (read : line text = some (statement, rest)) :
    Grammar.Line text statement rest := by
  simp only [line_eq, bind_eq_some, pure_eq_some] at read
  obtain ⟨_, start, opening, own, _, body, _, _, after, _, ending, marked, _, _, ended, same⟩ :=
    read
  cases same
  have blanks := spaces_sound opening
  have between := spaces_sound after
  have remark := remark_sound marked
  have lineEnd := lineEnd_iff.mp ended
  rcases lineBody_sound body with ⟨rfl, rfl⟩ | ⟨header, rfl, headed⟩ |
    ⟨assigned, first, rfl, more, written⟩
  · exact .blank (blanks.trans between) remark lineEnd
  · exact .header blanks headed between remark lineEnd
  · exact .assign (blanks.trans more) (written.extend between) remark lineEnd

theorem Grammar.LineEnd.head (ended : LineEnd text rest) :
    ∀ c ∈ text.head?, c = '\n' ∨ c = '\r' := by
  cases ended with
  | newline newline =>
      obtain ⟨c, next, ending⟩ := newline.head
      intro d again
      rw [Option.mem_def.mp next] at again
      exact Option.some.inj again ▸ ending
  | last => nofun

theorem Grammar.Remark.quiet (remark : Remark text middle) (ended : LineEnd middle rest) :
    Quiet text := by
  cases remark with
  | none => exact fun c next => .inr (ended.head c next)
  | comment => simp [Quiet]

/-- Behind its statement, a line is read up to its end. -/
theorem lineRest_complete {statement : Option Statement} {start remark ending : List Char}
    (blanks : Blanks start remark) (marked : Remark remark ending) (ended : LineEnd ending rest) :
    (do spaces; Document.remark; lineEnd; pure statement : Reader (Option Statement)) start =
      some (statement, rest) := by
  have closing : lineEnd ending = some ((), rest) := lineEnd_iff.mpr ended
  refine (bind_eq (spaces_complete blanks (marked.quiet ended).solid)).trans ?_
  exact (bind_eq (remark_complete marked ended.head)).trans (bind_eq closing)

theorem Grammar.Headed.head (headed : Headed text statement rest) :
    ∃ others, text = '[' :: others := by
  cases headed <;> exact ⟨_, rfl⟩

theorem line_complete {statement : Option Statement} (written : Grammar.Line text statement rest) :
    line text = some (statement, rest) := by
  have unmoved {text : List Char} : Blanks text text := ⟨[], rfl, nofun⟩
  rw [line_eq]
  cases written with
  | blank blanks remark ended =>
      have quiet := remark.quiet ended
      refine (bind_eq (spaces_complete blanks quiet.solid)).trans ?_
      exact (bind_eq (lineBody_quiet quiet)).trans (lineRest_complete unmoved remark ended)
  | header blanks headed after remark ended =>
      have own := headerStatement_complete headed
      obtain ⟨others, rfl⟩ := headed.head
      refine (bind_eq (spaces_complete blanks (by simp [isSpace]))).trans ?_
      refine (bind_eq ?_).trans (lineRest_complete after remark ended)
      exact lineBody_header.trans (bind_eq own)
  | assign blanks written remark ended =>
      have closes := (remark.quiet ended).closes
      have own := assignment_complete reads_value unmoved written closes
      obtain ⟨c, others, rfl, named⟩ := written.head
      obtain ⟨solid, comment, feed, carriage, bracket, _⟩ := nameStart_ne named
      refine (bind_eq (spaces_complete blanks (by simpa using solid))).trans ?_
      refine (bind_eq ?_).trans (lineRest_complete unmoved remark ended)
      exact (lineBody_assignment ⟨comment, feed, carriage⟩ bracket).trans (bind_eq own)

theorem Grammar.LineEnd.length_lt (ended : LineEnd text rest) :
    rest.length < text.length ∨ text = [] ∧ rest = [] := by
  cases ended with
  | newline newline => exact .inl newline.length_lt
  | last => exact .inr ⟨rfl, rfl⟩

theorem Grammar.Remark.length_le (remark : Remark text rest) : rest.length ≤ text.length := by
  cases remark with
  | none => exact Nat.le_refl _
  | comment passes => exact Nat.le_succ_of_le passes.length_le

theorem Grammar.Headed.length_le (headed : Headed text statement rest) :
    rest.length ≤ text.length := by
  cases headed with
  | table blanks keyed =>
      have first := blanks.length_le
      have later := keyed.length_le
      simp only [List.length_cons] at later ⊢
      omega
  | another blanks keyed =>
      have first := blanks.length_le
      have later := keyed.length_le
      simp only [List.length_cons] at later ⊢
      omega

/-- A line takes something, be it only its end, unless there is nothing left. -/
theorem Grammar.Line.length_lt {statement : Option Statement} (filled : text ≠ [])
    (written : Grammar.Line text statement rest) : rest.length < text.length := by
  have filled : 0 < text.length := List.length_pos_iff.mpr filled
  have ends {start ending : List Char} (remark : Remark start ending) (ended : LineEnd ending rest)
      (shorter : start.length ≤ text.length) : rest.length < text.length := by
    have marked := remark.length_le
    rcases ended.length_lt with closed | ⟨rfl, rfl⟩
    · omega
    · exact filled
  cases written with
  | blank blanks remark ended => exact ends remark ended blanks.length_le
  | header blanks headed after remark ended =>
      refine ends remark ended (Nat.le_trans after.length_le ?_)
      exact Nat.le_trans headed.length_le blanks.length_le
  | assign blanks written remark ended =>
      refine ends remark ended (Nat.le_trans (written.length_le reads_value) blanks.length_le)

/-- The statements that are read from a text are those that are written in it, if it is made of
lines at all. -/
theorem statements?_iff {statements : List Statement} :
    statements? text = some statements ↔ Statements text statements := by
  rw [statements?, Statements]
  generalize (if text.head? = some '\uFEFF' then text.tail else text) = text
  simp only [Option.bind_eq_bind, Option.bind_eq_some_iff, Option.some.injEq, Prod.exists]
  have filled {text : List Char} (next : ∃ c ∈ text.head?, true = true) : text ≠ [] := by
    rintro rfl
    obtain ⟨_, next, _⟩ := next
    cases next
  constructor
  · rintro ⟨lines, rest, read, rfl⟩
    have series : Series (fun text statement rest => text ≠ [] ∧ Grammar.Line text statement rest)
        text lines rest := many_sound (fun next own => ⟨filled next, line_sound own⟩) read
    -- Every line takes something, so the reader only stops where nothing is left.
    have ended := many_stops (fun next own => (line_sound own).length_lt (filled next)) read
    cases rest with
    | nil => exact ⟨lines, rfl, series⟩
    | cons c rest => cases ended c rfl
  · rintro ⟨lines, rfl, series⟩
    refine ⟨lines, [], ?_, rfl⟩
    have follow : ∀ {text : List Char} {statement : Option Statement} {middle : List Char},
        text ≠ [] ∧ Grammar.Line text statement middle →
          True ∧ (∃ c ∈ text.head?, true = true) ∧ middle.length < text.length := by
      intro text statement middle own
      obtain ⟨c, others, rfl⟩ := List.exists_cons_of_ne_nil own.1
      exact ⟨trivial, ⟨c, rfl, rfl⟩, own.2.length_lt own.1⟩
    exact many_complete series follow (fun own _ => line_complete own.2) (by simp) trivial

theorem Grammar.Line.plain {statement : Statement}
    (written : Grammar.Line text (some statement) rest) :
    statement.Plain := by
  cases written with
  | header _ headed => cases headed <;> trivial
  | assign _ assigned => exact assigned.plain reads_value

theorem Grammar.Statements.plain {statements : List Statement}
    (written : Statements text statements) :
    ∀ statement ∈ statements, statement.Plain := by
  obtain ⟨lines, rfl, series⟩ := written
  have plain : ∀ line ∈ lines, ∀ statement, line = some statement → statement.Plain :=
    series.forall fun own statement same => (same ▸ own.2).plain
  simpa using fun statement member => plain _ member statement rfl

/-- A text with these statements, which can stand together in one document. -/
def Written (text : String) (statements : List Statement) : Prop :=
  Statements text.toList statements ∧ Consistent (fun _ => none) [] statements

/-- A text is read as a document if and only if it is one by the grammar. -/
theorem ofText?_isSome {text : String} :
    (ofText? text).isSome ↔ ∃ statements, Written text statements := by
  have empty : Table.roles [] = fun _ => none := funext fun _ => Table.role_empty
  have consistent {statements : List Statement} (written : Statements text.toList statements) :
      (statements.foldlM Draft.apply {}).isSome ↔ Consistent (fun _ => none) [] statements := by
    rw [← empty]
    exact Draft.foldlM_isSome Draft.grounded_empty written.plain
  constructor
  · intro decoded
    obtain ⟨⟨table, marks⟩, decoded⟩ := Option.isSome_iff_exists.mp decoded
    simp only [ofText?, Option.bind_eq_bind, Option.bind_eq_some_iff] at decoded
    obtain ⟨statements, read, final, applied, _⟩ := decoded
    have written := statements?_iff.mp read
    exact ⟨statements, written, (consistent written).mp (by rw [applied]; rfl)⟩
  · rintro ⟨statements, written, together⟩
    obtain ⟨final, applied⟩ := Option.isSome_iff_exists.mp ((consistent written).mpr together)
    simp [ofText?, statements?_iff.mpr written, applied]

theorem Written.unique {text : String} {statements others : List Statement}
    (written : Written text statements) (again : Written text others) : statements = others := by
  have read := statements?_iff.mpr written.1
  rw [statements?_iff.mpr again.1] at read
  exact (Option.some.inj read).symm

end DevCluster.Document
