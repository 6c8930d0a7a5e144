import Mathlib

/-!
Looking up names in lists of entries, where some of the entries are removed or replaced.
-/

namespace DevCluster

variable {β : Type} {entries : List (String × β)} {name : String} {value : β}

/-- Where no name has two entries, looking one up is the same as finding it anywhere. -/
theorem lookup_eq_some_iff_mem (distinct : (entries.map Prod.fst).Nodup) :
    entries.lookup name = some value ↔ (name, value) ∈ entries := by
  induction entries with
  | nil => simp
  | cons entry entries ih =>
      obtain ⟨first, other⟩ := entry
      obtain ⟨fresh, distinct⟩ := List.nodup_cons.mp distinct
      by_cases same : name = first
      · subst same
        have absent : (name, value) ∉ entries := fun member =>
          fresh (List.mem_map.mpr ⟨_, member, rfl⟩)
        simp [absent, eq_comm]
      · rw [List.lookup_cons, beq_false_of_ne same, List.mem_cons, ← ih distinct]
        simp [same]

theorem lookup_filter_ne (entries : List (String × β)) (name other : String) :
    (entries.filter (·.1 ≠ other)).lookup name =
      if name = other then none else entries.lookup name := by
  induction entries with
  | nil => simp
  | cons entry entries ih =>
      obtain ⟨first, value⟩ := entry
      by_cases removed : first = other
      · subst removed
        rw [List.filter_cons_of_neg (by simp), ih]
        by_cases same : name = first
        · simp [same]
        · simp [same, List.lookup_cons, beq_false_of_ne same]
      · rw [List.filter_cons_of_pos (by simpa using removed)]
        rw [List.lookup_cons, List.lookup_cons, ih]
        by_cases same : name = first
        · subst same
          simp [removed]
        · simp [beq_false_of_ne same]

theorem lookup_replaced (entries : List (String × β)) (name other : String) (value : β) :
    (entries.map fun entry => if entry.1 = other then (other, value) else entry).lookup name =
      if name = other then (entries.lookup other).map fun _ => value
      else entries.lookup name := by
  induction entries with
  | nil => simp
  | cons entry entries ih =>
      obtain ⟨first, current⟩ := entry
      rw [List.map_cons, List.lookup_cons, ih, List.lookup_cons, List.lookup_cons]
      by_cases replaced : first = other
      · subst replaced
        by_cases same : name = first
        · simp [same]
        · simp [same, beq_false_of_ne same]
      · by_cases same : name = other
        · subst same
          simp [replaced, beq_false_of_ne (Ne.symm replaced)]
        · simp [replaced, same]

end DevCluster
