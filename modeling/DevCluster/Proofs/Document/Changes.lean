import DevCluster.Document.Table
import DevCluster.Proofs.Lookup

/-!
What a single step of an assignment or of a header makes of a table: it sets the entry of one name,
or takes it out and adds another one behind all others.
-/

namespace DevCluster.Document

/-- What a path of names stands for: a value, a table, or several tables, of which the last is
meant. -/
inductive Role
  | value
  | table (origin : Origin)
  | several
deriving DecidableEq

/-- How a table came to be that a role tells of. Several tables have headers of their own. -/
def Role.origin : Role → Origin
  | .table origin => origin
  | .value | .several => .declared

namespace Item

/-- What a value is, without what its tables hold. -/
def bare : Item → Item
  | .table origin _ => .table origin []
  | .tables _ _ => .tables [] []
  | item => item

def role : Item → Role
  | .table origin _ => .table origin
  | .tables _ _ => .several
  | _ => .value

def inside : Item → Table
  | .table _ entries => entries
  | .tables _ last => last
  | _ => []

@[simp] theorem role_bare (item : Item) : item.bare.role = item.role := by
  cases item <;> rfl

end Item

namespace Table

variable {table after : Table} {name other step : String} {path : List String} {item : Item}
  {change : Table → Option Table} {within : Option Origin}

theorem get?_add (fresh : table.get? name = none) :
    (table.add name item).get? other = if other = name then some item else table.get? other := by
  rw [get?, add, List.lookup_append]
  by_cases same : other = name
  · subst same
    rw [get?] at fresh
    simp [fresh]
  · simp [same, List.lookup_cons, beq_false_of_ne same, get?]

theorem get?_remove : (table.remove name).get? other =
    if other = name then none else table.get? other :=
  lookup_filter_ne table other name

theorem get?_replace {old : Item} (known : table.get? name = some old) :
    (table.replace name item).get? other =
      if other = name then some item else table.get? other := by
  rw [get?] at known
  rw [get?, replace, lookup_replaced, known]
  rfl

/-- A table with the entry of a name set, in its place if the name has one already. -/
inductive Sets (table : Table) (name : String) (item : Item) : Table → Prop
  | added : table.get? name = none → Sets table name item (table.add name item)
  | replaced {old} : table.get? name = some old → Sets table name item (table.replace name item)

theorem Sets.get? (set : table.Sets name item after) :
    after.get? other = if other = name then some item else table.get? other := by
  cases set with
  | added fresh => exact get?_add fresh
  | replaced known => exact get?_replace known

/-- The entry of a name, or else that of a new table there, without what is in it. -/
def bareOr (table : Table) (name : String) (new : Item) : Item :=
  (table.get? name).elim new Item.bare

theorem bareOr_absent {new : Item} (absent : table.get? name = none) :
    table.bareOr name new = new := by
  rw [bareOr, absent]
  rfl

def roleOr (table : Table) (name : String) (new : Role) : Role :=
  ((table.get? name).map Item.role).getD new

theorem roleOr_of_bare {new : Item} (same : item.bare = table.bareOr name new) :
    item.role = table.roleOr name new.role := by
  rw [← item.role_bare, same, bareOr, roleOr]
  cases table.get? name with
  | none => rfl
  | some old => exact old.role_bare

/-- The entries that paths behind a name lead to, none if there is no such name. -/
def below (table : Table) (name : String) : Table :=
  (table.get? name).elim [] Item.inside

/-- One step of a path of headers sets the entry of its name, and what is in it. -/
theorem reach_cons (done : reach change (step :: path) table = some after) :
    ∃ item, table.Sets step item after ∧ reach change path (table.below step) = some item.inside ∧
      item.bare = table.bareOr step (.table .implied []) ∧ item.role ≠ .value := by
  rw [below, bareOr]
  rw [reach] at done
  cases found : table.get? step with
  | none =>
      simp only [found, Option.bind_eq_bind, Option.bind_eq_some_iff, Option.some.injEq] at done
      obtain ⟨inner, reached, rfl⟩ := done
      exact ⟨.table .implied inner, .added found, reached, rfl, nofun⟩
  | some old =>
      cases old with
      | table origin entries =>
          simp only [found, Option.bind_eq_bind, Option.bind_eq_some_iff, Option.some.injEq] at done
          obtain ⟨inner, reached, rfl⟩ := done
          exact ⟨.table origin inner, .replaced found, reached, rfl, nofun⟩
      | tables earlier last =>
          simp only [found, Option.bind_eq_bind, Option.bind_eq_some_iff, Option.some.injEq] at done
          obtain ⟨inner, reached, rfl⟩ := done
          exact ⟨.tables earlier inner, .replaced found, reached, rfl, nofun⟩
      | _ => simp [found] at done

theorem exists_reach_cons {inner : Table}
    (reached : reach change path (table.below step) = some inner)
    (unvalued : table.roleOr step (.table .implied) ≠ .value) :
    ∃ after, reach change (step :: path) table = some after := by
  rw [below] at reached
  rw [roleOr] at unvalued
  rw [reach]
  cases found : table.get? step with
  | none =>
      simp only [found, Option.elim_none] at reached
      exact ⟨_, by rw [reached]; rfl⟩
  | some old =>
      simp only [found, Option.elim_some] at reached unvalued
      cases old with
      | table origin entries =>
          rw [Item.inside] at reached
          exact ⟨_, by simp only [reached]; rfl⟩
      | tables earlier last =>
          rw [Item.inside] at reached
          exact ⟨_, by simp only [reached]; rfl⟩
      | _ => exact absurd rfl unvalued

/-- One step of a dotted name sets the entry of its first name, and what is in it. -/
theorem assign_cons (done : assign table within (step :: path) name item = some after) :
    ∃ entry, table.Sets step entry after ∧
      assign (table.below step) (some entry.role.origin) path name item = some entry.inside ∧
      entry.bare = table.bareOr step (.table .dotted []) ∧
      entry.role ≠ .value ∧ entry.role ≠ .table .declared := by
  rw [below, bareOr]
  rw [assign] at done
  cases found : table.get? step with
  | none =>
      simp only [found, Option.bind_eq_bind, Option.bind_eq_some_iff, Option.some.injEq] at done
      obtain ⟨inner, assigned, rfl⟩ := done
      exact ⟨.table .dotted inner, .added found, assigned, rfl, nofun, nofun⟩
  | some old =>
      cases old with
      | table origin entries =>
          by_cases declared : origin = .declared
          · simp [found, declared] at done
          · simp only [found, declared, if_false, Option.bind_eq_bind, Option.bind_eq_some_iff,
              Option.some.injEq] at done
            obtain ⟨inner, assigned, rfl⟩ := done
            exact ⟨.table origin inner, .replaced found, assigned, rfl, nofun,
              by simpa [Item.role] using declared⟩
      | tables earlier last =>
          simp only [found, Option.bind_eq_bind, Option.bind_eq_some_iff, Option.some.injEq] at done
          obtain ⟨inner, assigned, rfl⟩ := done
          exact ⟨.tables earlier inner, .replaced found, assigned, rfl, nofun, nofun⟩
      | _ => simp [found] at done

theorem exists_assign_cons {inner : Table}
    (assigned : assign (table.below step) (some (table.roleOr step (.table .dotted)).origin) path
      name item = some inner)
    (unvalued : table.roleOr step (.table .dotted) ≠ .value)
    (undeclared : table.roleOr step (.table .dotted) ≠ .table .declared) :
    ∃ after, assign table within (step :: path) name item = some after := by
  rw [below, roleOr] at assigned
  rw [roleOr] at unvalued undeclared
  rw [assign]
  cases found : table.get? step with
  | none =>
      have assigned : assign [] (some .dotted) path name item = some inner := by
        rw [found] at assigned
        exact assigned
      exact ⟨_, by simp only [assigned]; rfl⟩
  | some old =>
      simp only [found, Option.elim_some, Option.map_some, Option.getD_some] at assigned unvalued
      simp only [found, Option.map_some, Option.getD_some] at undeclared
      cases old with
      | table origin entries =>
          have undeclared : origin ≠ .declared := by simpa [Item.role] using undeclared
          rw [Item.inside, Item.role, Role.origin] at assigned
          exact ⟨_, by simp only [undeclared, if_false, assigned]; rfl⟩
      | tables earlier last =>
          rw [Item.inside, Item.role, Role.origin] at assigned
          exact ⟨_, by simp only [assigned]; rfl⟩
      | _ => exact absurd rfl unvalued

theorem assign_nil : assign table within [] name item = some after ↔
    within.any (· ≠ .dotted) = false ∧ table.get? name = none ∧ table.add name item = after := by
  rw [assign]
  generalize within.any (· ≠ .dotted) = barred
  cases barred <;> cases table.get? name <;> simp

theorem declare_eq_some : table.declare name = some after ↔
    (table.get? name = none ∧ after = table.add name (.table .declared [])) ∨
      ∃ inner, table.get? name = some (.table .implied inner) ∧
        after = (table.remove name).add name (.table .declared inner) := by
  rw [declare]
  cases table.get? name with
  | none => simp [eq_comm]
  | some old =>
      cases old with
      | table origin inner => cases origin <;> simp [eq_comm]
      | _ => simp

theorem declareAnother_cases (done : table.declareAnother name = some after) :
    ∃ earlier, table.Sets name (.tables earlier []) after ∧
      .tables [] [] = table.bareOr name (.tables [] []) := by
  rw [bareOr]
  rw [declareAnother] at done
  cases found : table.get? name with
  | none =>
      simp only [found, Option.some.injEq] at done
      exact ⟨[], done ▸ .added found, rfl⟩
  | some old =>
      cases old with
      | tables earlier last =>
          simp only [found, Option.some.injEq] at done
          exact ⟨earlier ++ [last], done ▸ .replaced found, rfl⟩
      | _ => simp [found] at done

end Table

end DevCluster.Document
