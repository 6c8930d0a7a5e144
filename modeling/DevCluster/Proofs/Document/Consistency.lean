import DevCluster.Document.Text
import DevCluster.Proofs.Document.Changes

/-!
Which statements can stand together in one document, told by what the paths of names stand for.
-/

namespace DevCluster.Document

abbrev Roles := List String → Option Role

namespace Roles

def set (roles : Roles) (path : List String) (role : Role) : Roles :=
  fun other => if other = path then some role else roles other

def clear (roles : Roles) (path : List String) : Roles :=
  fun other => if path <+: other ∧ other ≠ path then none else roles other

/-- Paths on the way from one path to another stand for tables if they did for nothing. -/
def imply (roles : Roles) (origin : Origin) (start path : List String) : Roles :=
  fun other =>
    if roles other = none ∧ start <+: other ∧ other ≠ start ∧ other <+: start ++ path then
      some (.table origin)
    else roles other

/-- Whether the headers of a path can be passed: none of them stands for a value. -/
def Passable (roles : Roles) (path : List String) : Prop :=
  ∀ other, other <+: path → other ≠ [] → roles other ≠ some .value

/-- Whether a dotted name can be assigned to: the names before its last lead to no value and to no
table with a header of its own, the table that they end in is new or came to be by a dotted name,
and the whole name stands for nothing yet. -/
structure Extends (roles : Roles) (path : List String) (name : String) : Prop where
  passes : ∀ other, other <+: path → other ≠ [] →
    roles other ≠ some .value ∧ roles other ≠ some (.table .declared)
  last : path ≠ [] → roles path = none ∨ roles path = some (.table .dotted)
  fresh : roles (path ++ [name]) = none

theorem extends_congr {roles others : Roles} {path : List String} {name : String}
    (same : ∀ other, other ≠ [] → roles other = others other) :
    roles.Extends path name ↔ others.Extends path name := by
  have oneWay {roles others : Roles} (same : ∀ other, other ≠ [] → roles other = others other)
      (extending : roles.Extends path name) : others.Extends path name := by
    refine ⟨fun other upTo filled => ?_, fun filled => ?_, ?_⟩
    · rw [← same other filled]
      exact extending.passes other upTo filled
    · rw [← same path filled]
      exact extending.last filled
    · rw [← same _ (by simp)]
      exact extending.fresh
  exact ⟨oneWay same, oneWay fun other filled => (same other filled).symm⟩

/-- Whether a statement can stand where assignments go to the table of `current`. A table has one
header, which may come after those of tables inside it. -/
def Admits (roles : Roles) (current : List String) : Statement → Prop
  | .assign { key, .. } => Extends (fun other => roles (current ++ other)) key.path key.name
  | .header key _ =>
    roles.Passable key.path ∧
      (roles (key.path ++ [key.name]) = none ∨
        roles (key.path ++ [key.name]) = some (.table .implied))
  | .arrayHeader key _ =>
    roles.Passable key.path ∧
      (roles (key.path ++ [key.name]) = none ∨ roles (key.path ++ [key.name]) = some .several)

/-- What paths stand for after a statement. -/
def learn (roles : Roles) (current : List String) : Statement → Roles
  | .assign { key, .. } =>
    (roles.imply .dotted current key.path).set (current ++ (key.path ++ [key.name])) .value
  | .header key _ =>
    (roles.imply .implied [] key.path).set (key.path ++ [key.name]) (.table .declared)
  | .arrayHeader key _ =>
    ((roles.imply .implied [] key.path).clear (key.path ++ [key.name])).set
      (key.path ++ [key.name]) .several

end Roles

/-- The table that assignments behind a statement go to. -/
def Statement.current (current : List String) : Statement → List String
  | .assign _ => current
  | .header key _ | .arrayHeader key _ => key.path ++ [key.name]

/-- Whether statements can stand one after another where paths stand for this. -/
def Consistent : Roles → List String → List Statement → Prop
  | _, _, [] => True
  | roles, current, statement :: others =>
    roles.Admits current statement ∧
      Consistent (roles.learn current statement) (statement.current current) others

/-- A value that is no table which can be extended. -/
structure Item.Plain (item : Item) : Prop where
  role : item.role = .value
  inside : item.inside = []

/-- Whether what a statement assigns, if anything, cannot be extended. -/
def Statement.Plain : Statement → Prop
  | .assign assignment => assignment.item.Plain
  | .header _ _ | .arrayHeader _ _ => True

theorem not_append_prefix {path rest : List String} (filled : rest ≠ []) :
    ¬ path ++ rest <+: path := by
  intro upTo
  have longer := upTo.length_le
  have some := List.length_pos_iff.mpr filled
  rw [List.length_append] at longer
  omega

namespace Table

def role : List String → Table → Option Role
  | [], _ => none
  | name :: path, table =>
    (table.get? name).bind fun item => if path = [] then some item.role else role path item.inside

def inside : List String → Table → Table
  | [], table => table
  | name :: path, table => inside path (table.below name)

variable {table after : Table} {name other : String} {item : Item} {path rest : List String}

@[simp] theorem role_nil : role [] table = none := rfl

theorem role_empty : role path [] = none := by
  cases path <;> rfl

theorem role_cons : role (name :: path) table =
    if path = [] then (table.get? name).map Item.role else role path (table.below name) := by
  rw [role, below]
  cases table.get? name with
  | none => simp [role_empty]
  | some item => split <;> simp_all

theorem role_append (filled : rest ≠ []) :
    role (path ++ rest) table = role rest (inside path table) := by
  induction path generalizing table with
  | nil => rfl
  | cons name path ih =>
      rw [List.cons_append, role_cons, if_neg (by simp [filled]), ih]
      rfl

theorem roleOr_eq (table : Table) (name : String) (new : Role) :
    table.roleOr name new = (role [name] table).getD new := by
  rw [role_cons, if_pos rfl]
  rfl

def roles (table : Table) : Roles := fun path => role path table

/-- Paths stand for what they did where only one entry has changed, unless they lead through it. -/
theorem role_changed (changed : ∀ other, after.get? other =
      if other = name then some item else table.get? other) :
    role (other :: path) after =
      if other = name then (if path = [] then some item.role else role path item.inside)
      else role (other :: path) table := by
  rw [role, changed]
  split <;> rfl

variable {change : Table → Option Table} {step : String}

theorem roles_cons (inner : path ≠ []) :
    table.roles (step :: path) = roles (table.below step) path := by
  rw [roles, role_cons, if_neg inner]
  rfl

theorem reach_roles (done : reach change path table = some after) :
    table.roles.Passable path ∧ ∃ changed, change (inside path table) = some changed ∧
      ∀ other, role other after =
        if path <+: other ∧ other ≠ path then role (other.drop path.length) changed
        else table.roles.imply .implied [] path other := by
  induction path generalizing table after with
  | nil =>
      refine ⟨fun other upTo filled => absurd (List.prefix_nil.mp upTo) filled, after, done, ?_⟩
      intro other
      cases other with
      | nil => simp [Roles.imply, roles]
      | cons name other => simp
  | cons step path ih =>
      obtain ⟨item, set, reached, bare, unvalued⟩ := reach_cons done
      have same := roleOr_of_bare bare
      obtain ⟨passable, changed, own, below⟩ := ih reached
      refine ⟨?_, changed, own, ?_⟩
      · rintro (_ | ⟨name, other⟩) upTo filled
        · exact absurd rfl filled
        · obtain ⟨rfl, further⟩ := List.cons_prefix_cons.mp upTo
          rw [roles, role_cons]
          split
          next =>
            intro valued
            rw [roleOr, valued] at same
            exact unvalued same
          next below => exact passable other further below
      -- Only paths through the step have changed, as their rests have in the table behind it.
      · rintro (_ | ⟨name, other⟩)
        · simp [Roles.imply, roles]
        · rw [role_changed fun _ => set.get?]
          by_cases through : name = step
          · subst through
            rw [if_pos rfl, same, roleOr]
            by_cases last : other = []
            · subst last
              cases found : table.get? name <;> cases path <;>
                simp [Roles.imply, roles, role_cons, found, Item.role]
            · rw [if_neg last, below]
              simp [Roles.imply, roles, role_cons, last, List.cons_prefix_cons]
          · simp [Roles.imply, roles, through, Ne.symm through, List.cons_prefix_cons]

theorem exists_reach (passable : table.roles.Passable path) {changed : Table}
    (own : change (inside path table) = some changed) :
    ∃ after, reach change path table = some after := by
  induction path generalizing table with
  | nil => exact ⟨changed, own⟩
  | cons step path ih =>
      rw [inside] at own
      have further : (roles (table.below step)).Passable path := by
        intro other upTo filled
        have whole := passable (step :: other) (List.cons_prefix_cons.mpr ⟨rfl, upTo⟩) (by simp)
        rwa [roles, role_cons, if_neg filled] at whole
      obtain ⟨inner, reached⟩ := ih further own
      refine exists_reach_cons reached ?_
      have own := passable [step] (List.cons_prefix_cons.mpr ⟨rfl, List.nil_prefix⟩) (by simp)
      rw [roleOr_eq]
      cases known : role [step] table with
      | none => nofun
      | some role =>
          rw [roles, known] at own
          simpa using own

theorem reach_isSome : (reach change path table).isSome ↔
    table.roles.Passable path ∧ (change (inside path table)).isSome := by
  constructor
  · intro done
    obtain ⟨after, done⟩ := Option.isSome_iff_exists.mp done
    obtain ⟨passable, changed, own, _⟩ := reach_roles done
    exact ⟨passable, Option.isSome_iff_exists.mpr ⟨changed, own⟩⟩
  · rintro ⟨passable, own⟩
    obtain ⟨changed, own⟩ := Option.isSome_iff_exists.mp own
    exact Option.isSome_iff_exists.mpr (exists_reach passable own)

theorem declare_isSome : (table.declare name).isSome ↔
    role [name] table = none ∨ role [name] table = some (.table .implied) := by
  rw [role_cons, if_pos rfl, declare]
  cases found : table.get? name with
  | none => simp
  | some old =>
      cases old with
      | table origin inner => cases origin <;> simp [Item.role]
      | _ => simp [Item.role]

theorem declare_roles (done : table.declare name = some after) (path : List String) :
    role path after = if path = [name] then some (.table .declared) else role path table := by
  have gets : ∀ other, after.get? other =
      if other = name then some (.table .declared (table.below name))
      else table.get? other := by
    intro other
    rcases declare_eq_some.mp done with ⟨fresh, rfl⟩ | ⟨inner, known, rfl⟩
    · rw [get?_add fresh, below, fresh]
      rfl
    · have gone : (table.remove name).get? name = none := by
        rw [get?_remove, if_pos rfl]
      rw [get?_add gone, get?_remove, below, known]
      split <;> rfl
  cases path with
  | nil => simp
  | cons other path =>
      rw [role_changed gets]
      by_cases same : other = name
      · subst same
        by_cases last : path = []
        · simp [last, Item.role]
        · simp [last, Item.inside, role_cons]
      · simp [same]

theorem declareAnother_isSome : (table.declareAnother name).isSome ↔
    role [name] table = none ∨ role [name] table = some .several := by
  rw [role_cons, if_pos rfl, declareAnother]
  cases found : table.get? name with
  | none => simp
  | some old => cases old <;> simp [Item.role]

theorem declareAnother_roles (done : table.declareAnother name = some after) (path : List String) :
    role path after = if path = [name] then some .several
      else if [name] <+: path then none else role path table := by
  obtain ⟨earlier, set, _⟩ := declareAnother_cases done
  cases path with
  | nil => simp
  | cons other path =>
      rw [role_changed fun _ => set.get?]
      by_cases same : other = name
      · subst same
        by_cases last : path = []
        · simp [last, Item.role]
        · simp [last, Item.inside, role_empty]
      · simp [same, Ne.symm same, List.cons_prefix_cons]

variable {within : Option Origin}

theorem role_of_origin {role : Role} (filled : role ≠ .value)
    (dotted : (some role.origin).any (· ≠ .dotted) = false) : role = .table .dotted := by
  cases role with
  | value => exact absurd rfl filled
  | table origin => simpa [Role.origin] using dotted
  | several => cases dotted

theorem extends_nil : table.roles.Extends [] name ↔ table.get? name = none := by
  have whole : table.roles [name] = (table.get? name).map Item.role := by
    rw [roles, role_cons, if_pos rfl]
  constructor
  · intro extending
    simpa [whole] using extending.fresh
  · intro absent
    refine ⟨fun other upTo filled => absurd (List.prefix_nil.mp upTo) filled, ?_, ?_⟩
    · exact fun filled => absurd rfl filled
    · rw [List.nil_append, whole, absent]
      rfl

/-- A dotted name can be assigned to if what its first name stands for can be passed and what is
behind it can be assigned to there. -/
theorem extends_cons : table.roles.Extends (step :: path) name ↔
    table.roleOr step (.table .dotted) ≠ .value ∧
      table.roleOr step (.table .dotted) ≠ .table .declared ∧
      (path = [] → table.roleOr step (.table .dotted) = .table .dotted) ∧
      (roles (table.below step)).Extends path name := by
  rw [roleOr_eq]
  constructor
  · intro extending
    have first := extending.passes [step]
      (List.cons_prefix_cons.mpr ⟨rfl, List.nil_prefix⟩) (by simp)
    -- What holds of paths through the step holds of their rests in the table behind it.
    have further : (roles (table.below step)).Extends path name := by
      refine ⟨fun other upTo filled => ?_, fun filled => ?_, ?_⟩
      · rw [← roles_cons filled]
        exact extending.passes (step :: other) (List.cons_prefix_cons.mpr ⟨rfl, upTo⟩) (by simp)
      · rw [← roles_cons filled]
        exact extending.last (by simp)
      · rw [← roles_cons (by simp)]
        exact extending.fresh
    have last : path = [] → role [step] table = none ∨
        role [step] table = some (.table .dotted) := by
      rintro rfl
      exact extending.last (by simp)
    rw [roles] at first
    cases known : role [step] table with
    | none => exact ⟨by simp, by simp, fun _ => rfl, further⟩
    | some own =>
        rw [known] at first
        refine ⟨by simpa using first.1, by simpa using first.2, fun ended => ?_, further⟩
        simpa [known] using last ended
  · rintro ⟨unvalued, undeclared, dotted, further⟩
    have single {own : Role} (known : table.roles [step] = some own) :
        (role [step] table).getD (.table .dotted) = own := by
      rw [roles] at known
      rw [known, Option.getD_some]
    refine ⟨?_, fun _ => ?_, ?_⟩
    · rintro (_ | ⟨first, other⟩) upTo named
      · exact absurd rfl named
      · obtain ⟨rfl, upToInner⟩ := List.cons_prefix_cons.mp upTo
        by_cases last : other = []
        · subst last
          exact ⟨fun valued => unvalued (single valued),
            fun declared => undeclared (single declared)⟩
        · rw [roles_cons last]
          exact further.passes other upToInner last
    · by_cases last : path = []
      · subst last
        cases known : table.roles [step] with
        | none => exact .inl rfl
        | some own => exact .inr (by rw [← single known, dotted rfl])
      · rw [roles_cons last]
        exact further.last last
    · rw [List.cons_append, roles_cons (by simp)]
      exact further.fresh

theorem assign_within_isSome : (assign table within path name item).isSome ↔
    (path = [] → within.any (· ≠ .dotted) = false) ∧ table.roles.Extends path name := by
  -- Whether a name can be added to the last table depends on how that came to be. `within` tells
  -- this of the table at hand, so it changes on the way.
  induction path generalizing table within with
  | nil =>
      rw [extends_nil, Option.isSome_iff_exists]
      constructor
      · rintro ⟨after, done⟩
        obtain ⟨origin, absent, _⟩ := assign_nil.mp done
        exact ⟨fun _ => origin, absent⟩
      · rintro ⟨origin, absent⟩
        exact ⟨_, assign_nil.mpr ⟨origin rfl, absent, rfl⟩⟩
  | cons step path ih =>
      rw [extends_cons]
      constructor
      · intro done
        obtain ⟨after, done⟩ := Option.isSome_iff_exists.mp done
        obtain ⟨entry, _, assigned, bare, filled, undeclared⟩ := assign_cons done
        obtain ⟨origin, further⟩ := ih.mp (Option.isSome_iff_exists.mpr ⟨_, assigned⟩)
        have same : entry.role = table.roleOr step (.table .dotted) := roleOr_of_bare bare
        rw [← same]
        exact ⟨by simp, filled, undeclared, fun last => role_of_origin filled (origin last),
          further⟩
      · rintro ⟨_, unvalued, undeclared, dotted, further⟩
        have origin : path = [] →
            (some (table.roleOr step (.table .dotted)).origin).any (· ≠ .dotted) = false := by
          intro last
          rw [dotted last]
          rfl
        obtain ⟨inner, assigned⟩ := Option.isSome_iff_exists.mp (ih.mpr ⟨origin, further⟩)
        exact Option.isSome_iff_exists.mpr (exists_assign_cons assigned unvalued undeclared)

theorem assign_isSome : (assign table none path name item).isSome ↔
    table.roles.Extends path name := by
  rw [assign_within_isSome]
  exact and_iff_right fun _ => rfl

theorem assign_roles (plain : item.Plain) (done : assign table within path name item = some after)
    (other : List String) :
    role other after = (table.roles.imply .dotted [] path).set (path ++ [name]) .value other := by
  induction path generalizing table within after other with
  | nil =>
      obtain ⟨_, absent, rfl⟩ := assign_nil.mp done
      cases other with
      | nil => simp [Roles.set, Roles.imply, roles]
      | cons step other =>
          rw [role_changed fun _ => get?_add absent]
          by_cases same : step = name
          · subst same
            by_cases last : other = []
            · simp [Roles.set, last, plain.role]
            · simp [Roles.set, Roles.imply, roles, last, plain.inside, role_cons, below, absent,
                role_empty]
          · simp [Roles.set, Roles.imply, roles, same]
  | cons step path ih =>
      obtain ⟨entry, set, assigned, bare, _⟩ := assign_cons done
      have same : entry.role = (role [step] table).getD (.table .dotted) :=
        (roleOr_of_bare bare).trans (table.roleOr_eq step _)
      cases other with
      | nil => simp [Roles.set, Roles.imply, roles]
      | cons first other =>
          rw [role_changed fun _ => set.get?]
          by_cases through : first = step
          · subst through
            rw [if_pos rfl, same]
            by_cases last : other = []
            · subst last
              cases known : role [first] table <;>
                simp [Roles.set, Roles.imply, roles, known, List.cons_prefix_cons]
            · rw [if_neg last, ih assigned]
              simp [Roles.set, Roles.imply, roles, role_cons, last, List.cons_prefix_cons]
          · simp [Roles.set, Roles.imply, roles, through, List.cons_prefix_cons]

/-- What paths stand for after an assignment below headers that are all there. -/
theorem reach_assign_roles {current : List String} (plain : item.Plain)
    (known : ∀ other, other <+: current → other ≠ [] → table.roles other ≠ none)
    (done : reach (·.assign none path name item) current table = some after) :
    after.roles =
      (table.roles.imply .dotted current path).set (current ++ (path ++ [name])) .value := by
  obtain ⟨_, changed, own, below⟩ := reach_roles done
  funext other
  rw [roles, below]
  split
  next inside =>
    obtain ⟨⟨rest, rfl⟩, apart⟩ := inside
    have filled : rest ≠ [] := by simpa using apart
    have same : (inside current table).roles rest = table.roles (current ++ rest) :=
      (role_append filled).symm
    rw [List.drop_left, assign_roles plain own, Roles.set, Roles.set, Roles.imply, Roles.imply,
      same]
    simp [List.prefix_append_right_inj, filled]
  -- A path that does not lead on from the header stands for what it did.
  next aside =>
    have behind (rest : List String) (filled : rest ≠ []) : other ≠ current ++ rest := by
      rintro rfl
      exact aside ⟨⟨rest, rfl⟩, by simpa using filled⟩
    have kept : table.roles.imply .implied [] current other = table.roles other := by
      refine if_neg ?_
      rintro ⟨absent, _, filled, upTo⟩
      exact known other upTo filled absent
    rw [kept, Roles.set, if_neg (behind _ (by simp)), Roles.imply, if_neg]
    rintro ⟨_, upTo, apart, _⟩
    exact aside ⟨upTo, apart⟩

theorem reach_declare_roles (done : reach (·.declare name) path table = some after) :
    after.roles = (table.roles.imply .implied [] path).set (path ++ [name]) (.table .declared) := by
  obtain ⟨_, changed, own, below⟩ := reach_roles done
  funext other
  rw [roles, below]
  split
  next inside =>
    obtain ⟨⟨rest, rfl⟩, apart⟩ := inside
    have filled : rest ≠ [] := by simpa using apart
    have beyond : ¬ path ++ rest <+: path := not_append_prefix filled
    rw [List.drop_left, declare_roles own, ← role_append filled]
    simp [Roles.set, Roles.imply, beyond, roles]
  next aside =>
    rw [Roles.set, if_neg]
    rintro rfl
    exact aside ⟨List.prefix_append _ _, by simp⟩

theorem reach_declareAnother_roles (done : reach (·.declareAnother name) path table = some after) :
    after.roles = ((table.roles.imply .implied [] path).clear (path ++ [name])).set
      (path ++ [name]) .several := by
  obtain ⟨_, changed, own, below⟩ := reach_roles done
  funext other
  rw [roles, below]
  split
  next inside =>
    obtain ⟨⟨rest, rfl⟩, apart⟩ := inside
    have filled : rest ≠ [] := by simpa using apart
    have beyond : ¬ path ++ rest <+: path := not_append_prefix filled
    rw [List.drop_left, declareAnother_roles own, ← role_append filled]
    simp [Roles.set, Roles.clear, Roles.imply, beyond, roles, List.prefix_append_right_inj]
    by_cases last : rest = [name] <;> simp [last]
  next aside =>
    have behind (rest : List String) : other ≠ path ++ name :: rest := by
      rintro rfl
      exact aside ⟨List.prefix_append _ _, by simp⟩
    rw [Roles.set, if_neg (behind []), Roles.clear, if_neg]
    rintro ⟨⟨rest, same⟩, _⟩
    exact behind rest (by simpa using same.symm)

end Table

namespace Draft

variable {draft next final : Draft} {statement : Statement} {statements : List Statement}

/-- Whether the header that assignments go to is there, with all headers on the way to it. -/
def Grounded (draft : Draft) : Prop :=
  ∀ other, other <+: draft.current → other ≠ [] →
    ∃ role, draft.root.roles other = some role ∧ role ≠ .value

theorem grounded_empty : Grounded {} := by
  intro other upTo filled
  exact absurd (List.prefix_nil.mp upTo) filled

theorem Grounded.passable (grounded : draft.Grounded) :
    draft.root.roles.Passable draft.current := by
  intro other upTo filled valued
  obtain ⟨role, known, unvalued⟩ := grounded other upTo filled
  rw [known] at valued
  exact unvalued (Option.some.inj valued)

theorem apply_isSome (grounded : draft.Grounded) (statement : Statement) :
    (draft.apply statement).isSome ↔ draft.root.roles.Admits draft.current statement := by
  cases statement with
  | assign assignment =>
      obtain ⟨⟨path, name, first⟩, item, extent⟩ := assignment
      have whole : (draft.apply (.assign ⟨⟨path, name, first⟩, item, extent⟩)).isSome ↔
          (Table.reach (·.assign none path name item) draft.current draft.root).isSome := by
        rw [apply]
        cases Table.reach (·.assign none path name item) draft.current draft.root <;> simp
      have same : ∀ other, other ≠ [] → (Table.inside draft.current draft.root).roles other =
          draft.root.roles (draft.current ++ other) := fun other filled =>
        (Table.role_append filled).symm
      rw [whole, Table.reach_isSome, Table.assign_isSome, Roles.extends_congr same]
      exact and_iff_right grounded.passable
  | header key extent =>
      have whole : (draft.apply (.header key extent)).isSome ↔
          (Table.reach (·.declare key.name) key.path draft.root).isSome := by
        rw [apply]
        cases Table.reach (·.declare key.name) key.path draft.root <;> simp
      rw [whole, Table.reach_isSome, Table.declare_isSome, ← Table.role_append (by simp)]
      rfl
  | arrayHeader key extent =>
      have whole : (draft.apply (.arrayHeader key extent)).isSome ↔
          (Table.reach (·.declareAnother key.name) key.path draft.root).isSome := by
        rw [apply]
        cases Table.reach (·.declareAnother key.name) key.path draft.root <;> simp
      rw [whole, Table.reach_isSome, Table.declareAnother_isSome, ← Table.role_append (by simp)]
      rfl

theorem apply_learns (grounded : draft.Grounded) (plain : statement.Plain)
    (applied : draft.apply statement = some next) :
    next.root.roles = draft.root.roles.learn draft.current statement ∧
      next.current = statement.current draft.current := by
  cases statement with
  | assign assignment =>
      simp only [apply, Option.bind_eq_bind, Option.bind_eq_some_iff, Option.some.injEq] at applied
      obtain ⟨root, reached, rfl⟩ := applied
      refine ⟨Table.reach_assign_roles plain (fun other upTo filled absent => ?_) reached, rfl⟩
      obtain ⟨role, known, _⟩ := grounded other upTo filled
      rw [absent] at known
      cases known
  | header key extent =>
      simp only [apply, Option.bind_eq_bind, Option.bind_eq_some_iff, Option.some.injEq] at applied
      obtain ⟨root, reached, rfl⟩ := applied
      exact ⟨Table.reach_declare_roles reached, rfl⟩
  | arrayHeader key extent =>
      simp only [apply, Option.bind_eq_bind, Option.bind_eq_some_iff, Option.some.injEq] at applied
      obtain ⟨root, reached, rfl⟩ := applied
      exact ⟨Table.reach_declareAnother_roles reached, rfl⟩

theorem exists_implied {roles : Roles} {path other : List String} (passable : roles.Passable path)
    (upTo : other <+: path) (filled : other ≠ []) :
    ∃ role, roles.imply .implied [] path other = some role ∧ role ≠ .value := by
  cases known : roles other with
  | none => exact ⟨.table .implied, by simp [Roles.imply, known, upTo, filled], nofun⟩
  | some role =>
      refine ⟨role, by simp [Roles.imply, known], ?_⟩
      rintro rfl
      exact passable other upTo filled known

theorem grounded_learn (grounded : draft.Grounded)
    (learned : next.root.roles = draft.root.roles.learn draft.current statement)
    (moved : next.current = statement.current draft.current)
    (admitted : draft.root.roles.Admits draft.current statement) : next.Grounded := by
  intro other upTo filled
  rw [moved] at upTo
  rw [learned]
  cases statement with
  | assign assignment =>
      obtain ⟨role, known, unvalued⟩ := grounded other upTo filled
      refine ⟨role, ?_, unvalued⟩
      -- What is assigned is behind the header, and so not on the way to it.
      have apart : other ≠ draft.current ++ (assignment.key.path ++ [assignment.key.name]) := by
        rintro rfl
        exact not_append_prefix (by simp) upTo
      rw [Roles.learn, Roles.set, if_neg apart, Roles.imply, if_neg (by simp [known]), known]
  | header key extent =>
      rw [Roles.learn, Roles.set]
      rcases List.prefix_concat_iff.mp upTo with rfl | upTo
      · exact ⟨.table .declared, if_pos rfl, nofun⟩
      · have apart : other ≠ key.path ++ [key.name] := by
          rintro rfl
          exact not_append_prefix (by simp) upTo
        rw [if_neg apart]
        exact exists_implied admitted.1 upTo filled
  | arrayHeader key extent =>
      rw [Roles.learn, Roles.set]
      rcases List.prefix_concat_iff.mp upTo with rfl | upTo
      · exact ⟨.several, if_pos rfl, nofun⟩
      · have apart : other ≠ key.path ++ [key.name] := by
          rintro rfl
          exact not_append_prefix (by simp) upTo
        have above : ¬ key.path ++ [key.name] <+: other := fun longer =>
          not_append_prefix (by simp) (longer.trans upTo)
        rw [if_neg apart, Roles.clear, if_neg fun cleared => above cleared.1]
        exact exists_implied admitted.1 upTo filled

/-- Statements make up a document if and only if they can stand together. -/
theorem foldlM_isSome (grounded : draft.Grounded)
    (plain : ∀ statement ∈ statements, statement.Plain) :
    (statements.foldlM apply draft).isSome ↔
      Consistent draft.root.roles draft.current statements := by
  -- As long as a draft is grounded, all that the next statement depends on is what paths stand for.
  induction statements generalizing draft with
  | nil => simp [Consistent]
  | cons statement statements ih =>
      obtain ⟨own, others⟩ := List.forall_mem_cons.mp plain
      have admits := apply_isSome grounded statement
      rw [List.foldlM_cons, Consistent, ← admits]
      cases applied : draft.apply statement with
      | none => simp
      | some next =>
          obtain ⟨learned, moved⟩ := apply_learns grounded own applied
          have admitted := admits.mp (by rw [applied]; rfl)
          rw [← learned, ← moved, ← ih (grounded_learn grounded learned moved admitted) others]
          simp

end Draft

def Table.extend (table : Table) (assignment : Assignment) : Option Table :=
  table.assign none assignment.key.path assignment.key.name assignment.item

/-- The table that assignments make up, if none of them stands in the way of another. -/
def tableOf (assignments : List Assignment) : Option Table :=
  assignments.foldlM Table.extend []

theorem Table.foldlM_isSome {table : Table} {assignments : List Assignment}
    (plain : ∀ assignment ∈ assignments, assignment.item.Plain) :
    (assignments.foldlM extend table).isSome ↔
      Consistent table.roles [] (assignments.map .assign) := by
  induction assignments generalizing table with
  | nil => simp [Consistent]
  | cons assignment assignments ih =>
      obtain ⟨own, others⟩ := List.forall_mem_cons.mp plain
      have admits : (table.extend assignment).isSome ↔
          table.roles.Admits [] (.assign assignment) := assign_isSome
      rw [List.foldlM_cons, List.map_cons, Consistent, ← admits]
      cases extended : table.extend assignment with
      | none => simp
      | some next =>
          have learned : next.roles = table.roles.learn [] (.assign assignment) :=
            funext (assign_roles own extended)
          have further : (assignments.foldlM extend next).isSome ↔
              Consistent next.roles [] (assignments.map .assign) := ih others
          rw [learned] at further
          simpa [Statement.current] using further

theorem tableOf_isSome {assignments : List Assignment}
    (plain : ∀ assignment ∈ assignments, assignment.item.Plain) :
    (tableOf assignments).isSome ↔
      Consistent (fun _ => none) [] (assignments.map .assign) := by
  have empty : Table.roles [] = fun _ => none := funext fun _ => Table.role_empty
  rw [tableOf, Table.foldlM_isSome plain, empty]

end DevCluster.Document
