import DevCluster.Proofs.Document.Spacing
import DevCluster.Proofs.Document.Strings

/-!
Names and keys: what is read as one is written as one, and what is written as one is read as it if
no further character of a name is behind it.
-/

namespace DevCluster.Document

open Grammar Reader

variable {text rest before written : List Char} {name : String} {key : Key} {P : Char → Prop}

theorem Grammar.Passes.head {accepted : Char → Bool} (passes : Passes accepted text rest)
    (inside : ∀ c, accepted c = true → P c) (boundary : ∀ c ∈ rest.head?, P c) :
    ∀ c ∈ text.head?, P c := by
  obtain ⟨taken, rfl, all⟩ := passes
  cases taken with
  | nil => exact boundary
  | cons c taken =>
      intro d next
      cases next
      exact inside c (all c List.mem_cons_self)

/-- Whether a text goes on neither with a blank nor with a character of a bare name. -/
def Apart (text : List Char) : Prop :=
  ∀ c ∈ text.head?, isSpace c = false ∧ isBareChar c = false

theorem isBareChar_of_isSpace {c : Char} (space : isSpace c = true) : isBareChar c = false := by
  simp only [isSpace, Bool.or_eq_true, decide_eq_true_eq] at space
  rcases space with rfl | rfl <;> rfl

theorem Apart.solid (apart : Apart rest) : ∀ c ∈ rest.head?, isSpace c = false :=
  fun c next => (apart c next).1

theorem Apart.of_blanks (apart : Apart rest) (blanks : Blanks text rest) :
    ∀ c ∈ text.head?, isBareChar c = false :=
  blanks.head (fun _ => isBareChar_of_isSpace) fun c next => (apart c next).2

/-- No name begins like anything else that may stand in its place. -/
theorem nameStart_ne {c : Char} (named : c = '"' ∨ c = '\'' ∨ isBareChar c = true) :
    isSpace c = false ∧ c ≠ '#' ∧ c ≠ '\n' ∧ c ≠ '\r' ∧ c ≠ '[' ∧ c ≠ '\x7d' := by
  rcases named with rfl | rfl | bare
  · decide
  · decide
  · refine ⟨?_, ?_, ?_, ?_, ?_, ?_⟩
    · by_contra space
      rw [isBareChar_of_isSpace (by simpa using space)] at bare
      cases bare
    all_goals
      rintro rfl
      cases bare

theorem Named.solid (named : Named name.toList written) (rest : List Char) :
    ∀ c ∈ (written ++ rest).head?, isSpace c = false := by
  obtain ⟨c, others, rfl, first⟩ := named.head
  intro d next
  cases next
  exact (nameStart_ne first).1

theorem keyName_sound (read : keyName text = some (name, rest)) :
    ∃ written, Named name.toList written ∧ text = written ++ rest := by
  unfold keyName at read
  split at read
  next =>
    simp only [Option.bind_eq_bind, Option.bind_eq_some_iff, Option.some.injEq] at read
    obtain ⟨⟨chars, ending⟩, own, same⟩ := read
    obtain ⟨rfl, rfl⟩ := Prod.mk.inj same
    obtain ⟨quoted, isQuoted, same⟩ := basicRest_sound own
    exact ⟨quoted, .quoted (by rwa [String.toList_ofList]), same⟩
  next =>
    simp only [Option.bind_eq_bind, Option.bind_eq_some_iff, Option.some.injEq] at read
    obtain ⟨⟨chars, ending⟩, own, same⟩ := read
    obtain ⟨rfl, rfl⟩ := Prod.mk.inj same
    obtain ⟨quoted, isQuoted, same⟩ := literalRest_sound own
    exact ⟨quoted, .quoted (by rwa [String.toList_ofList]), same⟩
  next =>
    simp only [Option.bind_eq_bind, Option.bind_eq_some_iff] at read
    obtain ⟨⟨chars, ending⟩, own, same⟩ := read
    obtain ⟨rfl, inside, _⟩ := run_eq_some.mp own
    split at same
    next => cases same
    next filled =>
      cases same
      refine ⟨chars, ?_, rfl⟩
      rw [String.toList_ofList]
      exact .bare (by simpa using filled) inside

def dottedName : Reader String := do
  expect '.'
  spaces
  let name ← keyName
  spaces
  pure name

theorem dottedName_sound (read : dottedName text = some (name, rest)) : Dotted text name rest := by
  simp only [dottedName, bind_eq_some, expect_eq_some, pure_eq_some] at read
  obtain ⟨_, _, rfl, _, _, blanks, _, _, own, _, _, after, same⟩ := read
  obtain ⟨rfl, rfl⟩ := Prod.mk.inj same
  obtain ⟨written, named, rfl⟩ := keyName_sound own
  exact .name (spaces_sound blanks) named (spaces_sound after)

theorem dottedName_complete (dotted : Dotted text name rest) (apart : Apart rest) :
    dottedName text = some (name, rest) := by
  cases dotted with
  | name blanks named after =>
      refine (bind_eq (expect_eq '.')).trans ?_
      refine (bind_eq (spaces_complete blanks (named.solid _))).trans ?_
      refine (bind_eq (keyName_named named (apart.of_blanks after))).trans ?_
      exact bind_eq (spaces_complete after apart.solid)

theorem Grammar.Dotted.length_lt (dotted : Dotted text name rest) : rest.length < text.length := by
  cases dotted with
  | name blanks _ after =>
      have first := blanks.length_le
      have last := after.length_le
      rw [List.length_append] at first
      rw [List.length_cons]
      omega

theorem key_eq : Document.key = (do
    spaces
    let (first, extent) ← withExtent keyName
    spaces
    let others ← many (· = '.') dottedName
    let names := first :: others
    if longestKey < names.length then refuse
    else pure { path := names.dropLast, name := names.getLastD first, extent }) := rfl

theorem key_sound (read : Document.key text = some (key, rest)) :
    ∃ start, Blanks text start ∧ Keyed start key rest := by
  simp only [key_eq, bind_eq_some] at read
  obtain ⟨_, start, blanks, ⟨first, extent⟩, after, own, _, middle, between, others, ending, more,
    ended⟩ := read
  obtain ⟨own, same⟩ := withExtent_eq_some.mp own
  dsimp only at own same
  obtain ⟨written, named, rfl⟩ := keyName_sound own
  split at ended
  next => cases ended
  next short =>
    obtain ⟨rfl, rfl⟩ := Prod.mk.inj (pure_eq_some.mp ended)
    refine ⟨_, spaces_sound blanks, ?_⟩
    rw [same]
    exact .names named (spaces_sound between) (many_sound (fun _ => dottedName_sound) more)
      (Nat.not_lt.mp short)

theorem key_complete (blanks : Blanks before text) (keyed : Keyed text key rest)
    (apart : Apart rest) (undotted : ∀ c ∈ rest.head?, c ≠ '.') :
    Document.key before = some (key, rest) := by
  cases keyed with
  | @names first others written after middle _ named between dotted short =>
      have starts {text : List Char} {first : String} {middle : List Char}
          (own : Dotted text first middle) :
          Apart text ∧ (∃ c ∈ text.head?, decide (c = '.') = true) ∧
            middle.length < text.length := by
        refine ⟨?_, ?_, own.length_lt⟩ <;> cases own
        · simp [Apart, isSpace, isBareChar]
        · exact ⟨'.', rfl, rfl⟩
      have more : many (· = '.') dottedName middle = some (others, rest) :=
        many_complete dotted starts dottedName_complete (by simpa using undotted) apart
      have follows : Apart middle := by
        cases dotted with
        | nil => exact apart
        | cons own _ => exact (starts own).1
      rw [key_eq]
      refine (bind_eq (spaces_complete blanks (named.solid _))).trans ?_
      refine (bind_eq (withExtent_eq (keyName_named named (follows.of_blanks between)))).trans ?_
      refine (bind_eq (spaces_complete between follows.solid)).trans ?_
      refine (bind_eq more).trans ?_
      have bounded : ¬ longestKey < (first :: others).length := Nat.not_lt.mpr short
      rw [if_neg bounded]
      rfl

theorem Grammar.Keyed.head (keyed : Keyed text key rest) :
    ∃ c others, text = c :: others ∧ (c = '"' ∨ c = '\'' ∨ isBareChar c = true) := by
  cases keyed with
  | names named _ _ _ =>
      obtain ⟨c, others, rfl, first⟩ := named.head
      exact ⟨c, _, rfl, first⟩

theorem Grammar.Keyed.length_le (keyed : Keyed text key rest) : rest.length ≤ text.length := by
  cases keyed with
  | names _ between dotted _ =>
      have first := between.length_le
      have others := dotted.length_le fun own => Nat.le_of_lt own.length_lt
      rw [List.length_append]
      omega

end DevCluster.Document
