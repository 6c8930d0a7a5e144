import Mathlib
import DevCluster.Document.Reader

/-!
What readers make of texts that begin as they expect.
-/

namespace DevCluster.Document.Reader

variable {α β : Type} {text middle rest : List Char}

theorem bind_eq {reader : Reader α} {next : α → Reader β} {value : α}
    (read : reader text = some (value, middle)) : (reader >>= next) text = next value middle := by
  change (reader text).bind (fun (value, middle) => next value middle) = _
  rw [read]
  rfl

theorem ahead_bind_eq {next : List Char → Reader β} : (ahead >>= next) text = next text text := rfl

theorem withExtent_eq {reader : Reader α} {value : α}
    (read : reader text = some (value, rest)) :
    withExtent reader text = some ((value, ⟨text, rest⟩), rest) := by
  rw [withExtent, ahead_bind_eq, bind_eq read]
  rfl

theorem expect_eq (c : Char) : expect c (c :: rest) = some ((), rest) := by
  simp [expect]

theorem run_eq {accepted : Char → Bool} (taken : List Char)
    (inside : ∀ c ∈ taken, accepted c = true) (outside : ∀ c ∈ rest.head?, accepted c = false) :
    run accepted (taken ++ rest) = some (taken, rest) := by
  rw [run, List.takeWhile_append_of_pos inside, List.dropWhile_append_of_pos inside]
  cases rest with
  | nil => simp
  | cons c rest => simp [outside c rfl]

/-! What readers have read, from what they give. -/

theorem bind_eq_some {reader : Reader α} {next : α → Reader β} {result : β × List Char} :
    (reader >>= next) text = some result ↔
      ∃ value middle, reader text = some (value, middle) ∧ next value middle = some result := by
  change (reader text).bind (fun (value, middle) => next value middle) = _ ↔ _
  simp [Option.bind_eq_some_iff]

@[simp] theorem pure_eq_some {value : α} {result : α × List Char} :
    (pure value : Reader α) text = some result ↔ (value, text) = result := by
  change some (value, text) = _ ↔ _
  rw [Option.some.injEq]

@[simp] theorem refuse_eq : (refuse : Reader α) text = none := rfl

theorem withExtent_eq_some {reader : Reader α} {value : α × Extent} :
    withExtent reader text = some (value, rest) ↔
      reader text = some (value.1, rest) ∧ value.2 = ⟨text, rest⟩ := by
  obtain ⟨value, extent⟩ := value
  rw [withExtent, ahead_bind_eq, bind_eq_some]
  constructor
  · rintro ⟨_, _, read, same⟩
    rw [ahead_bind_eq, pure_eq_some] at same
    cases same
    exact ⟨read, rfl⟩
  · rintro ⟨read, rfl⟩
    exact ⟨value, rest, read, rfl⟩

theorem expect_eq_some {c : Char} {value : Unit} :
    expect c text = some (value, rest) ↔ text = c :: rest := by
  cases text with
  | nil => simp [expect]
  | cons d others => simp [expect, eq_comm]

theorem run_eq_some {accepted : Char → Bool} {taken : List Char} :
    run accepted text = some (taken, rest) ↔
      text = taken ++ rest ∧ (∀ c ∈ taken, accepted c = true) ∧
        ∀ c ∈ rest.head?, accepted c = false := by
  constructor
  · rintro ⟨⟩
    refine ⟨(List.takeWhile_append_dropWhile).symm, fun c => List.mem_takeWhile_imp, ?_⟩
    intro c next
    have stopped := List.head?_dropWhile_not accepted text
    rw [Option.mem_def.mp next] at stopped
    simpa using stopped
  · rintro ⟨rfl, inside, outside⟩
    exact run_eq taken inside outside

variable {announced : Char → Bool} {item : Reader α} {rounds : Nat}

theorem manyWithin_eq_nil (outside : ∀ c ∈ text.head?, announced c = false) :
    manyWithin announced item rounds text = some ([], text) := by
  cases rounds with
  | zero => rfl
  | succ rounds =>
      rw [manyWithin, ahead_bind_eq]
      cases text with
      | nil => rfl
      | cons c rest =>
          simp only [List.head?_cons, outside c rfl]
          rfl

theorem manyWithin_eq_cons {first : α} {others : List α}
    (inside : ∃ c ∈ text.head?, announced c = true) (read : item text = some (first, middle))
    (more : manyWithin announced item rounds middle = some (others, rest)) :
    manyWithin announced item (rounds + 1) text = some (first :: others, rest) := by
  obtain ⟨c, next, accepted⟩ := inside
  rw [Option.mem_def] at next
  rw [manyWithin, ahead_bind_eq, next]
  simp only [accepted, if_true]
  exact (bind_eq read).trans (bind_eq more)

theorem many_eq_nil (outside : ∀ c ∈ text.head?, announced c = false) :
    many announced item text = some ([], text) :=
  ahead_bind_eq.trans (manyWithin_eq_nil outside)

theorem spaces_eq_self (outside : ∀ c ∈ text.head?, isSpace c = false) :
    spaces text = some ((), text) :=
  bind_eq (run_eq [] (by simp) outside)

theorem spaces_eq (outside : ∀ c ∈ rest.head?, isSpace c = false) :
    spaces (' ' :: rest) = some ((), rest) :=
  bind_eq (run_eq [' '] (by simp [isSpace]) outside)

end DevCluster.Document.Reader
