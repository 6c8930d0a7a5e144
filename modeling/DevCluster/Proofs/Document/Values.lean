import DevCluster.Proofs.Document.Words

/-!
Values: what is read as one is written as one, and what is written as one is read as it where it is
bounded.
-/

namespace DevCluster.Document

open Grammar Reader

variable {text middle rest before : List Char} {item : Item}

/-- A reader of values and how these are written: it reads what is written where it is bounded, and
no value begins like what may stand between values. -/
structure Reads (reader : Reader Item) (value : List Char → Item → List Char → Prop) : Prop where
  sound : ∀ {text item rest}, reader text = some (item, rest) → value text item rest
  complete : ∀ {text item rest}, value text item rest → Bounded rest →
    reader text = some (item, rest)
  head : ∀ {text item rest}, value text item rest → ∃ c ∈ text.head?, isGapChar c = false ∧ c ≠ ']'
  length_lt : ∀ {text item rest}, value text item rest → rest.length < text.length
  plain : ∀ {text item rest}, value text item rest → item.Plain

variable {reader : Reader Item} {value : List Char → Item → List Char → Prop} {items : List Item}
  {assignment : Assignment}

/-- What is read behind an item of an array: a comma and a gap, or nothing before the bracket. -/
def elementEnd : Reader Unit := do
  match (← ahead).head? with
  | some ',' => do expect ','; gap
  | some ']' => pure ()
  | _ => refuse

def arrayElement (reader : Reader Item) : Reader Item := do
  let item ← reader
  gap
  elementEnd
  pure item

theorem arrayRest_eq (reader : Reader Item) : arrayRest reader = (do
    gap
    let items ← many (· ≠ ']') (arrayElement reader)
    expect ']'
    pure (.array items)) := by
  have element : (do
      let item ← reader
      gap
      match (← ahead).head? with
      | some ',' => do expect ','; gap
      | some ']' => pure ()
      | _ => refuse
      pure item) = arrayElement reader := by
    refine congrArg _ (funext fun item => congrArg _ (funext fun _ => ?_))
    simp only [elementEnd, bind_assoc]
    refine congrArg _ (funext fun seen => ?_)
    split <;> simp
  rw [← element]
  rfl

theorem elementEnd_comma : elementEnd (',' :: text) = gap text := rfl

theorem elementEnd_bracket : elementEnd (']' :: text) = some ((), ']' :: text) := rfl

theorem elementEnd_sound {result : Unit} (read : elementEnd text = some (result, rest)) :
    (∃ comma, text = ',' :: comma ∧ Gap comma rest) ∨
      ∃ others, text = ']' :: others ∧ rest = text := by
  cases text with
  | nil => cases read
  | cons c text =>
      by_cases comma : c = ','
      · subst comma
        exact .inl ⟨text, rfl, gap_sound read⟩
      · by_cases bracket : c = ']'
        · subst bracket
          cases read
          exact .inr ⟨text, rfl, rfl⟩
        · simp [elementEnd, ahead_bind_eq, comma, bracket] at read

theorem arrayElement_sound (reads : Reads reader value)
    (read : arrayElement reader text = some (item, rest)) : Element value text item rest := by
  simp only [arrayElement, bind_eq_some, pure_eq_some] at read
  obtain ⟨_, middle, own, _, ending, between, _, _, ended, same⟩ := read
  obtain ⟨rfl, rfl⟩ := Prod.mk.inj same
  have first := reads.sound own
  rcases elementEnd_sound ended with ⟨comma, rfl, more⟩ | ⟨others, rfl, rfl⟩
  · exact .more first (gap_sound between) more
  · exact .last first (gap_sound between)

theorem arrayElement_complete (reads : Reads reader value) (written : Element value text item rest)
    (ungapped : ∀ c ∈ rest.head?, isGapChar c = false) :
    arrayElement reader text = some (item, rest) := by
  cases written with
  | last own between =>
      refine (bind_eq (reads.complete own (closes_bracket.bounded between))).trans ?_
      refine (bind_eq (gap_complete between ungapped)).trans ?_
      exact bind_eq elementEnd_bracket
  | more own between more =>
      refine (bind_eq (reads.complete own (closes_comma.bounded between))).trans ?_
      refine (bind_eq (gap_complete between (by simp [isGapChar, isSpace]))).trans ?_
      exact bind_eq (elementEnd_comma.trans (gap_complete more ungapped))

theorem Grammar.Element.length_lt (reads : Reads reader value)
    (element : Element value text item rest) : rest.length < text.length := by
  cases element with
  | last own between =>
      have first := reads.length_lt own
      have later := between.length_le
      omega
  | more own between more =>
      have first := reads.length_lt own
      have later := between.length_le
      have last := more.length_le
      rw [List.length_cons] at later
      omega

theorem Grammar.Element.head (reads : Reads reader value)
    (element : Element value text item rest) : ∃ c ∈ text.head?, isGapChar c = false ∧ c ≠ ']' := by
  cases element with
  | last own _ => exact reads.head own
  | more own _ _ => exact reads.head own

theorem arrayRest_sound (reads : Reads reader value)
    (read : arrayRest reader text = some (item, rest)) :
    ∃ middle items, Gap text middle ∧ Series (Element value) middle items (']' :: rest) ∧
      item = .array items := by
  simp only [arrayRest_eq, bind_eq_some, expect_eq_some, pure_eq_some] at read
  obtain ⟨_, middle, opening, items, _, own, _, _, rfl, same⟩ := read
  obtain ⟨rfl, rfl⟩ := Prod.mk.inj same
  exact ⟨middle, items, gap_sound opening, many_sound (fun _ => arrayElement_sound reads) own, rfl⟩

theorem arrayRest_complete (reads : Reads reader value) (opening : Gap text middle)
    (elements : Series (Element value) middle items (']' :: rest)) :
    arrayRest reader text = some (.array items, rest) := by
  have starts {text : List Char} {first : Item} {middle : List Char}
      (own : Element value text first middle) :
      (∀ c ∈ text.head?, isGapChar c = false) ∧ (∃ c ∈ text.head?, decide (c ≠ ']') = true) ∧
        middle.length < text.length := by
    obtain ⟨c, next, ungapped, other⟩ := own.head reads
    refine ⟨fun d again => ?_, ⟨c, next, by simpa using other⟩, own.length_lt reads⟩
    rw [Option.mem_def.mp next] at again
    rwa [← Option.some.inj again]
  have closing : ∀ c ∈ (']' :: rest).head?, isGapChar c = false := by simp [isGapChar, isSpace]
  have more : many (· ≠ ']') (arrayElement reader) middle = some (items, ']' :: rest) :=
    many_complete elements starts (arrayElement_complete reads) (by simp) closing
  have ungapped : ∀ c ∈ middle.head?, isGapChar c = false := by
    cases elements with
    | nil => exact closing
    | cons own _ => exact (starts own).1
  rw [arrayRest_eq]
  refine (bind_eq (gap_complete opening ungapped)).trans ?_
  exact (bind_eq more).trans (bind_eq (expect_eq ']'))

theorem Reads.solid (reads : Reads reader value) (own : value text item rest) :
    ∀ c ∈ text.head?, isSpace c = false := by
  obtain ⟨c, next, ungapped, _⟩ := reads.head own
  intro d again
  rw [Option.mem_def.mp next] at again
  obtain rfl := Option.some.inj again
  simp only [isGapChar, Bool.or_eq_false_iff] at ungapped
  exact ungapped.1.1.1

theorem apart_equals : Apart ('=' :: text) := by
  simp [Apart, isSpace, isBareChar]

theorem assignment_sound (reads : Reads reader value)
    (read : Document.assignment reader text = some (assignment, rest)) :
    ∃ start, Blanks text start ∧ Assigned value start assignment rest := by
  simp only [Document.assignment, bind_eq_some, expect_eq_some, pure_eq_some] at read
  obtain ⟨key, _, keyed, _, _, rfl, _, start, blanks, ⟨item, extent⟩, ending, own, _, _, after,
    same⟩ := read
  obtain ⟨own, rfl⟩ := withExtent_eq_some.mp own
  obtain ⟨rfl, rfl⟩ := Prod.mk.inj same
  obtain ⟨before, opening, keyed⟩ := key_sound keyed
  exact ⟨before, opening, .value keyed (spaces_sound blanks) (reads.sound own) (spaces_sound after)⟩

theorem assignment_complete (reads : Reads reader value) (opening : Blanks before text)
    (assigned : Assigned value text assignment rest) (closes : Closes rest) :
    Document.assignment reader before = some (assignment, rest) := by
  cases assigned with
  | value keyed blanks own after =>
      have bounded := closes.bounded_of_blanks after
      refine (bind_eq (key_complete opening keyed apart_equals (by simp))).trans ?_
      refine (bind_eq (expect_eq '=')).trans ?_
      refine (bind_eq (spaces_complete blanks (reads.solid own))).trans ?_
      refine (bind_eq (withExtent_eq (reads.complete own bounded))).trans ?_
      exact bind_eq (spaces_complete after fun c next => (closes c next).2)

theorem Grammar.Assigned.length_le (reads : Reads reader value)
    (assigned : Assigned value text assignment rest) : rest.length ≤ text.length := by
  cases assigned with
  | value keyed blanks own after =>
      have first := keyed.length_le
      have between := blanks.length_le
      have later := reads.length_lt own
      have last := after.length_le
      rw [List.length_cons] at first
      omega

theorem Grammar.Assigned.head (assigned : Assigned value text assignment rest) :
    ∃ c others, text = c :: others ∧ (c = '"' ∨ c = '\'' ∨ isBareChar c = true) := by
  cases assigned with
  | value keyed _ _ _ => exact keyed.head

def furtherAssignment (reader : Reader Item) : Reader Assignment := do
  expect ','
  Document.assignment reader

def inlineAssignments (reader : Reader Item) : Reader (List Assignment) := do
  if (← ahead).head? = some '\x7d' then pure []
  else
    let first ← Document.assignment reader
    let others ← many (· = ',') (furtherAssignment reader)
    pure (first :: others)

def inlineTableOf (assignments : List Assignment) : Reader Item :=
  match tableOf assignments with
  | some table => pure (.inlineTable table)
  | none => refuse

theorem inlineTableRest_eq (reader : Reader Item) : inlineTableRest reader = (do
    spaces
    let assignments ← inlineAssignments reader
    expect '\x7d'
    inlineTableOf assignments) := by
  rw [inlineTableRest, inlineAssignments]
  refine congrArg _ (funext fun _ => ?_)
  simp only [bind_assoc]
  refine congrArg _ (funext fun seen => ?_)
  split
  next =>
    simp only [pure_bind]
    rfl
  next =>
    simp only [bind_assoc, pure_bind]
    rfl

theorem inlineTableOf_eq_some {assignments : List Assignment} {result : Item × List Char} :
    inlineTableOf assignments text = some result ↔
      ∃ table, tableOf assignments = some table ∧ (.inlineTable table, text) = result := by
  rw [inlineTableOf]
  cases tableOf assignments <;> simp

theorem furtherAssignment_sound (reads : Reads reader value)
    (read : furtherAssignment reader text = some (assignment, rest)) :
    Further value text assignment rest := by
  simp only [furtherAssignment, bind_eq_some, expect_eq_some] at read
  obtain ⟨_, _, rfl, own⟩ := read
  obtain ⟨start, opening, assigned⟩ := assignment_sound reads own
  exact .comma opening assigned

theorem furtherAssignment_complete (reads : Reads reader value)
    (further : Further value text assignment rest) (closes : Closes rest) :
    furtherAssignment reader text = some (assignment, rest) := by
  cases further with
  | comma opening assigned =>
      exact (bind_eq (expect_eq ',')).trans (assignment_complete reads opening assigned closes)

theorem Grammar.Further.length_lt (reads : Reads reader value)
    (further : Further value text assignment rest) : rest.length < text.length := by
  cases further with
  | comma opening assigned =>
      have first := opening.length_le
      have later := assigned.length_le reads
      rw [List.length_cons]
      omega

theorem Grammar.Assigned.plain (reads : Reads reader value)
    (assigned : Assigned value text assignment rest) : assignment.item.Plain := by
  cases assigned with
  | value _ _ own _ => exact reads.plain own

theorem Grammar.Further.plain (reads : Reads reader value)
    (further : Further value text assignment rest) : assignment.item.Plain := by
  cases further with
  | comma _ assigned => exact assigned.plain reads

theorem inlineTableRest_sound (reads : Reads reader value)
    (read : inlineTableRest reader text = some (item, rest)) :
    Compound value ('\x7b' :: text) item rest := by
  simp only [inlineTableRest_eq, bind_eq_some, expect_eq_some, inlineTableOf_eq_some] at read
  obtain ⟨_, start, blanks, assignments, _, own, _, _, rfl, table, made, same⟩ := read
  obtain ⟨rfl, rfl⟩ := Prod.mk.inj same
  have opening := spaces_sound blanks
  rw [inlineAssignments, ahead_bind_eq] at own
  split at own
  next =>
    obtain ⟨rfl, rfl⟩ := Prod.mk.inj (pure_eq_some.mp own)
    cases made
    exact .emptyTable opening
  next =>
    simp only [bind_eq_some, pure_eq_some] at own
    obtain ⟨first, middle, assigned, others, _, more, same⟩ := own
    obtain ⟨rfl, rfl⟩ := Prod.mk.inj same
    obtain ⟨before, blanks, assigned⟩ := assignment_sound reads assigned
    have series := many_sound (fun _ => furtherAssignment_sound reads) more
    have plain : ∀ assignment ∈ first :: others, assignment.item.Plain :=
      List.forall_mem_cons.mpr ⟨assigned.plain reads, series.forall (Further.plain reads)⟩
    have consistent := (tableOf_isSome plain).mp (Option.isSome_iff_exists.mpr ⟨table, made⟩)
    have written := Compound.inlineTable (opening.trans blanks) assigned series consistent
    rwa [made] at written

theorem inlineTableRest_empty (opening : Blanks text ('\x7d' :: rest)) :
    inlineTableRest reader text = some (.inlineTable [], rest) := by
  have none : inlineAssignments reader ('\x7d' :: rest) = some ([], '\x7d' :: rest) := rfl
  rw [inlineTableRest_eq]
  refine (bind_eq (spaces_complete opening (by simp [isSpace]))).trans ?_
  refine (bind_eq none).trans ((bind_eq (expect_eq '\x7d')).trans ?_)
  exact inlineTableOf_eq_some.mpr ⟨[], rfl, rfl⟩

theorem inlineTableRest_complete (reads : Reads reader value) {start : List Char}
    {first : Assignment} {others : List Assignment} (opening : Blanks text start)
    (assigned : Assigned value start first middle)
    (more : Series (Further value) middle others ('\x7d' :: rest))
    (consistent : Consistent (fun _ => none) [] ((first :: others).map .assign)) :
    inlineTableRest reader text =
      some (.inlineTable ((tableOf (first :: others)).getD []), rest) := by
  have plain : ∀ assignment ∈ first :: others, assignment.item.Plain :=
    List.forall_mem_cons.mpr ⟨assigned.plain reads, more.forall (Further.plain reads)⟩
  obtain ⟨table, made⟩ := Option.isSome_iff_exists.mp ((tableOf_isSome plain).mpr consistent)
  have starts {text : List Char} {first : Assignment} {middle : List Char}
      (own : Further value text first middle) :
      Closes text ∧ (∃ c ∈ text.head?, decide (c = ',') = true) ∧
        middle.length < text.length := by
    refine ⟨?_, ?_, own.length_lt reads⟩ <;> cases own
    · exact closes_comma
    · exact ⟨',', rfl, rfl⟩
  have closes : Closes middle := by
    cases more with
    | nil => exact closes_brace
    | cons own _ => exact (starts own).1
  have read : many (· = ',') (furtherAssignment reader) middle = some (others, '\x7d' :: rest) :=
    many_complete more starts (furtherAssignment_complete reads) (by simp) closes_brace
  obtain ⟨c, letters, rfl, named⟩ := assigned.head
  obtain ⟨solid, _, _, _, _, brace⟩ := nameStart_ne named
  have unopened : Blanks (c :: letters) (c :: letters) := ⟨[], rfl, nofun⟩
  have assignments : inlineAssignments reader (c :: letters) =
      some (first :: others, '\x7d' :: rest) := by
    rw [inlineAssignments, ahead_bind_eq, if_neg (by simpa using brace)]
    refine (bind_eq (assignment_complete reads unopened assigned closes)).trans ?_
    exact bind_eq read
  rw [inlineTableRest_eq]
  refine (bind_eq (spaces_complete opening (by simpa using solid))).trans ?_
  refine (bind_eq assignments).trans ((bind_eq (expect_eq '\x7d')).trans ?_)
  exact inlineTableOf_eq_some.mpr ⟨table, made, by rw [made, Option.getD_some]⟩

variable {c : Char} {depth : Nat}

theorem valueWithin_word (unopened : ∀ c ∈ text.head?, opensValue c = false) :
    valueWithin depth text = word text := by
  have plain : ∀ c ∈ text.head?, c ≠ '"' ∧ c ≠ '\'' ∧ c ≠ '[' ∧ c ≠ '\x7b' := by
    simpa [opensValue, and_assoc] using unopened
  cases text with
  | nil => cases depth <;> rfl
  | cons c text =>
      obtain ⟨double, single, bracket, brace⟩ := plain c rfl
      cases depth <;> rw [valueWithin, ahead_bind_eq] <;>
        simp [double, single, bracket, brace]

theorem valueWithin_text (quote : c = '"' ∨ c = '\'') :
    valueWithin depth (c :: text) =
      (quotation >>= fun chars => pure (.text (String.ofList chars))) (c :: text) := by
  rcases quote with rfl | rfl <;> cases depth <;> rfl

theorem valueWithin_simple (unopened : ∀ others, text ≠ '[' :: others ∧ text ≠ '\x7b' :: others)
    (read : valueWithin depth text = some (item, rest)) : Simple text item rest := by
  by_cases opens : ∃ c ∈ text.head?, opensValue c = true
  · obtain ⟨c, next, opens⟩ := opens
    obtain ⟨others, rfl⟩ := List.head?_eq_some_iff.mp next
    rcases opensValue_cases opens with quote | bracket | brace
    · rw [valueWithin_text quote, bind_eq_some] at read
      obtain ⟨chars, _, own, same⟩ := read
      obtain ⟨rfl, rfl⟩ := Prod.mk.inj (pure_eq_some.mp same)
      exact .text (quotation_sound own)
    · exact absurd (by rw [bracket]) (unopened others).1
    · exact absurd (by rw [brace]) (unopened others).2
  · have plain : ∀ c ∈ text.head?, opensValue c = false := fun c next => by
      by_contra opened
      exact opens ⟨c, next, by simpa using opened⟩
    rw [valueWithin_word plain] at read
    obtain ⟨written, rfl, word⟩ := word_sound read
    exact .word word

theorem valueWithin_complete_simple (simple : Simple text item rest) (bounded : Bounded rest) :
    valueWithin depth text = some (item, rest) := by
  cases simple with
  | text written =>
      obtain ⟨c, others, rfl, quote⟩ := written.head
      rw [valueWithin_text quote]
      refine bind_eq (quotation_complete written fun d next => ?_)
      rcases isWordEnd_cases (bounded.head d next) with
        rfl | rfl | rfl | rfl | rfl | rfl | rfl | rfl <;> decide
  | word written =>
      obtain ⟨c, others, rfl, inside⟩ := written.head
      rw [valueWithin_word (by simpa using not_opensValue_of_isWordChar inside)]
      exact word_complete written bounded

theorem Grammar.Simple.head (simple : Simple text item rest) :
    ∃ c ∈ text.head?, isGapChar c = false ∧ c ≠ ']' := by
  cases simple with
  | text written =>
      obtain ⟨c, others, rfl, quote⟩ := written.head
      refine ⟨c, rfl, ?_⟩
      rcases quote with rfl | rfl <;> decide
  | word written =>
      obtain ⟨c, others, rfl, inside⟩ := written.head
      have unended := not_isWordEnd_of_isWordChar inside
      refine ⟨c, rfl, ?_, ?_⟩
      · by_contra gap
        rw [isWordEnd_of_isGapChar (by simpa using gap)] at unended
        cases unended
      · rintro rfl
        cases inside

theorem Grammar.Simple.length_lt (simple : Simple text item rest) : rest.length < text.length := by
  cases simple with
  | text written => exact written.length_lt
  | word written =>
      obtain ⟨c, others, rfl, _⟩ := written.head
      simp only [List.cons_append, List.length_cons, List.length_append]
      omega

theorem Grammar.Simple.plain (simple : Simple text item rest) : item.Plain := by
  cases simple with
  | text => exact ⟨rfl, rfl⟩
  | word written => exact written.plain

theorem Grammar.Compound.plain (compound : Compound value text item rest) : item.Plain := by
  cases compound <;> exact ⟨rfl, rfl⟩

theorem Grammar.Compound.length_lt (reads : Reads reader value)
    (compound : Compound value text item rest) : rest.length < text.length := by
  cases compound with
  | array opening elements =>
      have first := opening.length_le
      have others := elements.length_le fun own => Nat.le_of_lt (own.length_lt reads)
      rw [List.length_cons] at others ⊢
      omega
  | emptyTable opening =>
      have first := opening.length_le
      rw [List.length_cons] at first ⊢
      omega
  | inlineTable opening assigned more _ =>
      have first := opening.length_le
      have second := assigned.length_le reads
      have others := more.length_le fun own => Nat.le_of_lt (own.length_lt reads)
      rw [List.length_cons] at others ⊢
      omega

theorem reads_valueWithin (depth : Nat) : Reads (valueWithin depth) (ValueWithin depth) := by
  -- Values inside an array or an inline table are read with one level less, so what `Reads` says of
  -- these readers is the hypothesis of the induction.
  induction depth with
  | zero =>
      refine ⟨fun {text item rest} read => ?_, valueWithin_complete_simple, Simple.head,
        Simple.length_lt, Simple.plain⟩
      refine valueWithin_simple (fun others => ⟨?_, ?_⟩) read
      · rintro rfl
        cases read
      · rintro rfl
        cases read
  | succ depth ih =>
      refine ⟨fun {text item rest} read => ?_, fun {text item rest} written bounded => ?_,
        fun {text item rest} written => ?_, fun {text item rest} written => ?_,
        fun {text item rest} written => ?_⟩
      · by_cases bracket : ∃ others, text = '[' :: others
        · obtain ⟨others, rfl⟩ := bracket
          obtain ⟨middle, items, opening, elements, rfl⟩ := arrayRest_sound ih read
          exact .inr (.array opening elements)
        · by_cases brace : ∃ others, text = '\x7b' :: others
          · obtain ⟨others, rfl⟩ := brace
            exact .inr (inlineTableRest_sound ih read)
          · refine .inl (valueWithin_simple (fun others => ⟨?_, ?_⟩) read)
            · exact fun same => bracket ⟨others, same⟩
            · exact fun same => brace ⟨others, same⟩
      · rcases written with simple | compound
        · exact valueWithin_complete_simple simple bounded
        · cases compound with
          | array opening elements => exact arrayRest_complete ih opening elements
          | emptyTable opening => exact inlineTableRest_empty opening
          | inlineTable opening assigned more consistent =>
              exact inlineTableRest_complete ih opening assigned more consistent
      · rcases written with simple | compound
        · exact simple.head
        · cases compound <;> exact ⟨_, rfl, by simp [isGapChar, isSpace], by simp⟩
      · rcases written with simple | compound
        · exact simple.length_lt
        · exact compound.length_lt ih
      · rcases written with simple | compound
        · exact simple.plain
        · exact compound.plain

end DevCluster.Document
