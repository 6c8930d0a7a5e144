import Mathlib
import DevCluster.Arguments.Invocation

/-!
Words of a command line: how an option is spelled with its value, and which words can be read as
options, as values, and as the end of the options.
-/

namespace DevCluster.Arguments

/-- A word that can be a value on its own: it does not begin with a dash, or is only a dash. -/
def IsPlain (word : String) : Prop :=
  word.toList.head? ≠ some '-' ∨ word = "-"

/-- An option with its value: in one word, or in two. -/
inductive Spelled (form value : String) : List String → Prop
  | joined : Spelled form value [form ++ "=" ++ value]
  | apart : IsPlain value → Spelled form value [form, value]

theorem splitValue_none {text : List Char} {name : String}
    (split : splitValue text = (name, none)) :
    text = name.toList := by
  have whole := List.takeWhile_append_dropWhile (p := (· ≠ '=')) (l := text)
  unfold splitValue at split
  split at split
  · rename_i complete
    cases split
    rw [complete, List.append_nil] at whole
    rw [String.toList_ofList, whole]
  · cases split

theorem splitValue_some {text : List Char} {name value : String}
    (split : splitValue text = (name, some value)) : text = name.toList ++ '=' :: value.toList := by
  have whole := List.takeWhile_append_dropWhile (p := (· ≠ '=')) (l := text)
  have stopped := List.head?_dropWhile_not (· ≠ '=') text
  unfold splitValue at split
  split at split
  · cases split
  · rename_i first others behind
    cases split
    rw [behind] at whole stopped
    have equals : first = '=' := by simpa using stopped
    rw [equals] at whole
    rw [String.toList_ofList, String.toList_ofList, whole]

theorem splitValue_joined {name : List Char} (value : String) (bare : '=' ∉ name) :
    splitValue (name ++ '=' :: value.toList) = (String.ofList name, some value) := by
  have passed : ∀ letter ∈ name, decide (letter ≠ '=') = true := by
    intro letter member
    simpa using ne_of_mem_of_not_mem member bare
  have before : (name ++ '=' :: value.toList).takeWhile (· ≠ '=') = name := by
    rw [List.takeWhile_append_of_pos passed]
    simp
  have behind : (name ++ '=' :: value.toList).dropWhile (· ≠ '=') = '=' :: value.toList := by
    rw [List.dropWhile_append_of_pos passed]
    simp
  simp only [splitValue, before, behind, String.ofList_toList]

namespace Token

variable {word : String}

theorem ofWord_separator (separates : ofWord word = .separator) : word = "--" := by
  unfold ofWord at separates
  split at separates
  · rename_i dashes
    exact String.toList_inj.mp dashes
  · cases separates
  · cases separates
  · cases separates

theorem ofWord_plain_iff : ofWord word = .plain ↔ IsPlain word := by
  have dash : word = "-" ↔ word.toList = ['-'] := String.toList_inj.symm
  unfold ofWord IsPlain
  rw [dash]
  split
  · rename_i letters
    simp [letters]
  · rename_i text others letters
    simp [letters]
  · rename_i letter text _ letters
    simp [letters]
  · rename_i notSeparator notLong notShort
    simp only [true_iff]
    by_cases dashed : word.toList.head? = some '-'
    · obtain ⟨others, letters⟩ := List.head?_eq_some_iff.mp dashed
      cases others with
      | nil => exact .inr letters
      | cons letter text => exact absurd letters (notShort letter text)
    · exact .inl dashed

theorem ofWord_long {name : String} {value : Option String}
    (long : ofWord word = .long name value) :
    ∃ text, word.toList = '-' :: '-' :: text ∧ splitValue text = (name, value) := by
  unfold ofWord at long
  split at long
  · cases long
  · rename_i text _ letters
    cases long
    exact ⟨text, letters, rfl⟩
  · cases long
  · cases long

theorem ofWord_bare {name : String} (long : ofWord word = .long name none) :
    word = "--" ++ name := by
  obtain ⟨text, letters, split⟩ := ofWord_long long
  apply String.toList_inj.mp
  rw [letters, splitValue_none split, String.toList_append]
  rfl

theorem ofWord_joined {name value : String} (long : ofWord word = .long name (some value)) :
    word = "--" ++ name ++ "=" ++ value := by
  obtain ⟨text, letters, split⟩ := ofWord_long long
  apply String.toList_inj.mp
  rw [letters, splitValue_some split]
  simp only [String.toList_append, List.append_assoc]
  rfl

variable (option : ValueOption)

theorem bare_name : '=' ∉ option.name.toList := by
  cases option <;> decide

theorem ofWord_form : ofWord ("--" ++ option.name) = .long option.name none := by
  cases option <;> decide

theorem ofWord_dashes {text : List Char} (letters : word.toList = '-' :: '-' :: text)
    (others : text ≠ []) : ofWord word = .long (splitValue text).1 (splitValue text).2 := by
  unfold ofWord
  rw [letters]
  cases text with
  | nil => exact absurd rfl others
  | cons first text => rfl

theorem ofWord_form_joined (value : String) :
    ofWord ("--" ++ option.name ++ "=" ++ value) = .long option.name (some value) := by
  have letters : ("--" ++ option.name ++ "=" ++ value).toList =
      '-' :: '-' :: (option.name.toList ++ '=' :: value.toList) := by
    simp only [String.toList_append, List.append_assoc]
    rfl
  rw [ofWord_dashes letters (by simp), splitValue_joined value (bare_name option),
    String.ofList_toList]

end Token

end DevCluster.Arguments
