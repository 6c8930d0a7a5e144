import DevCluster.Document.Text
import DevCluster.Proofs.Document.Changes

/-!
The entries of a document by its statements: which names it has, what each of them is, and in which
order. A name takes the place of its own header, or, if it has none, of its first appearance.
-/

namespace DevCluster.Document

/-- A name on top of a document, and what the statement that it appears in makes of it. -/
structure Appearance where
  name : String
  item : Item
  /-- Whether it appears as the header of its own table. -/
  heads : Bool

def Appearance.entry (appearance : Appearance) : String × Item :=
  (appearance.name, appearance.item.bare)

namespace Statement

def isHeader : Statement → Bool
  | .assign _ => false
  | .header _ _ | .arrayHeader _ _ => true

def appearance : Statement → Appearance
  | .assign { key, item, .. } =>
    { name := key.first
      item := if key.path.isEmpty then item else .table .dotted []
      heads := false }
  | .header key _ =>
    { name := key.first
      item := .table (if key.path.isEmpty then .declared else .implied) []
      heads := key.path.isEmpty }
  | .arrayHeader key _ =>
    { name := key.first
      item := if key.path.isEmpty then .tables [] [] else .table .implied []
      heads := false }

end Statement

def appearances : List Statement → List Appearance
  | [] => []
  | statement :: others =>
    statement.appearance ::
      if statement.isHeader then (others.filter Statement.isHeader).map Statement.appearance
      else appearances others

namespace Table

def names (table : Table) : List String :=
  table.map Prod.fst

def outline (table : Table) : Table :=
  table.map fun entry => (entry.1, entry.2.bare)

/-- The table with one more appearance of a name, as far as outlines go. -/
def put (table : Table) (appearance : Appearance) : Table :=
  if appearance.heads then (table.remove appearance.name).add appearance.name appearance.item.bare
  else if appearance.name ∈ table.names then table
  else table.add appearance.name appearance.item.bare

variable {table after : Table} {name step : String} {path : List String} {item old : Item}
  {appearance : Appearance}

@[simp] theorem names_outline (table : Table) : table.outline.names = table.names := by
  simp [names, outline]

@[simp] theorem names_add (table : Table) (name : String) (item : Item) :
    (table.add name item).names = table.names ++ [name] := by
  simp [names, add]

theorem names_remove (table : Table) (name : String) :
    (table.remove name).names = table.names.filter (· ≠ name) := by
  simp [names, remove, List.filter_map, Function.comp_def]

theorem outline_add (table : Table) (name : String) (item : Item) :
    (table.add name item).outline = table.outline.add name item.bare := by
  simp [outline, add]

theorem outline_remove (table : Table) (name : String) :
    (table.remove name).outline = table.outline.remove name := by
  simp [outline, remove, List.filter_map, Function.comp_def]

theorem get?_eq_none : table.get? name = none ↔ name ∉ table.names := by
  rw [← Option.not_isSome_iff_eq_none, get?, List.lookup_isSome_iff]
  simp [names]

theorem get?_eq_some (distinct : table.names.Nodup) :
    table.get? name = some item ↔ (name, item) ∈ table :=
  lookup_eq_some_iff_mem distinct

theorem mem_names_of_get? (found : table.get? name = some item) : name ∈ table.names := by
  by_contra absent
  rw [get?_eq_none.mpr absent] at found
  cases found

theorem outline_replace (distinct : table.names.Nodup) (found : table.get? name = some old)
    (same : item.bare = old.bare) : (table.replace name item).outline = table.outline := by
  rw [outline, outline, replace, List.map_map]
  refine List.map_congr_left fun entry member => ?_
  by_cases named : entry.1 = name
  · subst named
    have value := (get?_eq_some distinct).mpr member
    rw [found] at value
    cases value
    simp [same]
  · simp [named]

theorem put_known (known : appearance.name ∈ table.names) (unheaded : appearance.heads = false) :
    table.put appearance = table := by
  simp [put, known, unheaded]

theorem put_fresh (fresh : appearance.name ∉ table.names) :
    table.put appearance = table.add appearance.name appearance.item.bare := by
  have kept : table.remove appearance.name = table := by
    refine List.filter_eq_self.mpr fun entry member => ?_
    have differs : entry.1 ≠ appearance.name := by
      rintro same
      exact fresh (same ▸ List.mem_map_of_mem member)
    simpa using differs
  simp [put, fresh, kept]

theorem nodup_put (distinct : table.names.Nodup) : (table.put appearance).names.Nodup := by
  unfold put
  split
  next heads =>
    rw [names_add, names_remove]
    refine List.Nodup.append (distinct.filter _) (List.nodup_singleton _) ?_
    simp
  next unheaded =>
    split
    next known => exact distinct
    next fresh =>
      rw [names_add]
      refine List.Nodup.append distinct (List.nodup_singleton _) ?_
      simpa using fresh

theorem mem_names_put : name ∈ (table.put appearance).names ↔
    name ∈ table.names ∨ name = appearance.name := by
  unfold put
  split
  next heads =>
    rw [names_add, names_remove]
    by_cases same : name = appearance.name <;> simp [same]
  next unheaded =>
    split
    next known =>
      refine ⟨.inl, ?_⟩
      rintro (member | rfl)
      · exact member
      · exact known
    next fresh => simp

/-- An entry that is set is one more appearance of its name, as far as outlines go. -/
theorem outline_set (appearance : Appearance) (distinct : table.names.Nodup)
    (set : table.Sets appearance.name item after)
    (same : item.bare = table.bareOr appearance.name appearance.item.bare)
    (unheaded : appearance.heads = false) : after.outline = table.outline.put appearance := by
  rw [bareOr] at same
  cases set with
  | added fresh =>
      rw [fresh, Option.elim_none] at same
      rw [put_fresh (by rwa [names_outline, ← get?_eq_none]), outline_add, same]
  | replaced found =>
      rw [found, Option.elim_some] at same
      rw [put_known (by rw [names_outline]; exact mem_names_of_get? found) unheaded]
      exact outline_replace distinct found same

/-- A way down from a table adds its first step to the table, or changes only what is below. -/
theorem outline_reach {change : Table → Option Table} (distinct : table.names.Nodup)
    (done : reach change (step :: path) table = some after) :
    after.outline = table.outline.put ⟨step, .table .implied [], false⟩ := by
  obtain ⟨item, set, _, same, _⟩ := reach_cons done
  exact outline_set ⟨step, _, false⟩ distinct set same rfl

theorem outline_assign (distinct : table.names.Nodup)
    (done : table.assign none path name item = some after) :
    after.outline = table.outline.put
      ⟨path.headD name, if path.isEmpty then item else .table .dotted [], false⟩ := by
  cases path with
  | nil =>
      obtain ⟨_, fresh, rfl⟩ := assign_nil.mp done
      exact outline_set ⟨name, item, false⟩ distinct (.added fresh) (bareOr_absent fresh).symm rfl
  | cons step path =>
      obtain ⟨entry, set, _, same, _⟩ := assign_cons done
      exact outline_set ⟨step, _, false⟩ distinct set same rfl

theorem outline_declare (done : table.declare name = some after) :
    after.outline = table.outline.put ⟨name, .table .declared [], true⟩ := by
  rcases declare_eq_some.mp done with ⟨fresh, rfl⟩ | ⟨inner, _, rfl⟩
  · rw [put_fresh (by rwa [names_outline, ← get?_eq_none]), outline_add]
  · rw [outline_add, outline_remove]
    rfl

theorem outline_declareAnother (distinct : table.names.Nodup)
    (done : table.declareAnother name = some after) :
    after.outline = table.outline.put ⟨name, .tables [] [], false⟩ := by
  obtain ⟨earlier, set, same⟩ := declareAnother_cases done
  exact outline_set ⟨name, _, false⟩ distinct set same rfl

end Table

namespace Draft

variable {draft next final : Draft} {statement : Statement} {statements : List Statement}

/-- A draft whose names are distinct and include that of the table that assignments go to. -/
structure Sound (draft : Draft) : Prop where
  distinct : draft.root.names.Nodup
  known : ∀ step ∈ draft.current.head?, step ∈ draft.root.names

theorem sound_empty : Sound {} where
  distinct := List.nodup_nil
  known := by simp

/-- A header, or an assignment before all headers, is one more appearance of its first name. -/
theorem outline_apply (sound : draft.Sound)
    (top : statement.isHeader = true ∨ draft.current = [])
    (applied : draft.apply statement = some next) :
    next.root.outline = draft.root.outline.put statement.appearance ∧
      next.current.head? = if statement.isHeader then some statement.appearance.name else none := by
  cases statement with
  | assign assignment =>
      obtain ⟨⟨path, name, extent⟩, item, _⟩ := assignment
      have top : draft.current = [] := by simpa [Statement.isHeader] using top
      simp only [apply, top, Table.reach, Option.bind_eq_bind, Option.bind_eq_some_iff,
        Option.some.injEq] at applied
      obtain ⟨root, assigned, rfl⟩ := applied
      exact ⟨Table.outline_assign sound.distinct assigned, rfl⟩
  | header key extent =>
      obtain ⟨path, name, _⟩ := key
      simp only [apply, Option.bind_eq_bind, Option.bind_eq_some_iff, Option.some.injEq] at applied
      obtain ⟨root, reached, rfl⟩ := applied
      cases path with
      | nil => exact ⟨Table.outline_declare reached, rfl⟩
      | cons step path => exact ⟨Table.outline_reach sound.distinct reached, rfl⟩
  | arrayHeader key extent =>
      obtain ⟨path, name, _⟩ := key
      simp only [apply, Option.bind_eq_bind, Option.bind_eq_some_iff, Option.some.injEq] at applied
      obtain ⟨root, reached, rfl⟩ := applied
      cases path with
      | nil => exact ⟨Table.outline_declareAnother sound.distinct reached, rfl⟩
      | cons step path => exact ⟨Table.outline_reach sound.distinct reached, rfl⟩

theorem outline_behind {assignment : Assignment} (sound : draft.Sound) (behind : draft.current ≠ [])
    (applied : draft.apply (.assign assignment) = some next) :
    next.root.outline = draft.root.outline ∧ next.current = draft.current := by
  obtain ⟨root, marks, current⟩ := draft
  obtain ⟨distinct, known⟩ := sound
  cases current with
  | nil => exact absurd rfl behind
  | cons step path =>
      simp only [apply, Option.bind_eq_bind, Option.bind_eq_some_iff, Option.some.injEq] at applied
      obtain ⟨extended, reached, rfl⟩ := applied
      refine ⟨(Table.outline_reach distinct reached).trans (Table.put_known ?_ rfl), rfl⟩
      rw [Table.names_outline]
      exact known step rfl

theorem Sound.of_outline (sound : draft.Sound) {appearance : Appearance}
    (outline : next.root.outline = draft.root.outline.put appearance)
    (current : ∀ step ∈ next.current.head?, step = appearance.name) : next.Sound := by
  have names : next.root.names = (draft.root.outline.put appearance).names := by
    rw [← outline, Table.names_outline]
  refine ⟨?_, fun step behind => ?_⟩
  · rw [names]
    exact Table.nodup_put (by rw [Table.names_outline]; exact sound.distinct)
  · rw [names, Table.mem_names_put]
    exact .inr (current step behind)

theorem sound_apply (sound : draft.Sound) (applied : draft.apply statement = some next) :
    next.Sound := by
  by_cases top : statement.isHeader = true ∨ draft.current = []
  · obtain ⟨outline, current⟩ := outline_apply sound top applied
    refine sound.of_outline outline fun step behind => ?_
    rw [current] at behind
    split at behind
    · exact (Option.some.inj behind).symm
    · cases behind
  · obtain ⟨unheaded, behind⟩ := not_or.mp top
    cases statement with
    | assign assignment =>
        obtain ⟨outline, current⟩ := outline_behind sound behind applied
        have names : next.root.names = draft.root.names := by
          rw [← Table.names_outline, outline, Table.names_outline]
        exact ⟨names ▸ sound.distinct, by rw [current, names]; exact sound.known⟩
    | _ => exact absurd rfl unheaded

theorem sound_foldlM (sound : draft.Sound)
    (applied : statements.foldlM apply draft = some final) : final.Sound := by
  induction statements generalizing draft with
  | nil =>
      cases applied
      exact sound
  | cons statement statements ih =>
      obtain ⟨next, first, others⟩ := Option.bind_eq_some_iff.mp applied
      exact ih (sound_apply sound first) others

/-- Behind a header only further headers add to the entries of the document. -/
theorem foldlM_behind (sound : draft.Sound) (behind : draft.current ≠ [])
    (applied : statements.foldlM apply draft = some final) :
    final.root.outline = ((statements.filter Statement.isHeader).map Statement.appearance).foldl
      Table.put draft.root.outline := by
  induction statements generalizing draft with
  | nil =>
      cases applied
      rfl
  | cons statement statements ih =>
      obtain ⟨next, first, others⟩ := Option.bind_eq_some_iff.mp applied
      have later := ih (sound_apply sound first)
      -- A header is one more appearance, and others follow behind it. An assignment here is none.
      cases header : statement.isHeader with
      | true =>
          obtain ⟨outline, current⟩ := outline_apply sound (.inl header) first
          have stays : next.current ≠ [] := by
            intro top
            rw [header, top] at current
            cases current
          rw [later stays others, outline, List.filter_cons_of_pos header]
          rfl
      | false =>
          cases statement with
          | assign assignment =>
              obtain ⟨outline, current⟩ := outline_behind sound behind first
              rw [later (current ▸ behind) others, outline]
              rfl
          | _ => cases header

theorem foldlM_top (sound : draft.Sound) (top : draft.current = [])
    (applied : statements.foldlM apply draft = some final) :
    final.root.outline = (appearances statements).foldl Table.put draft.root.outline := by
  induction statements generalizing draft with
  | nil =>
      cases applied
      rfl
  | cons statement statements ih =>
      obtain ⟨next, first, others⟩ := Option.bind_eq_some_iff.mp applied
      obtain ⟨outline, current⟩ := outline_apply sound (.inr top) first
      rw [appearances, List.foldl_cons, ← outline]
      cases header : statement.isHeader with
      | true =>
          refine foldlM_behind (sound_apply sound first) (fun top => ?_) others
          rw [header, top] at current
          cases current
      | false =>
          refine ih (sound_apply sound first) ?_ others
          rw [header] at current
          exact List.head?_eq_none_iff.mp current

end Draft

namespace Appearance

def Final (after : List Appearance) (name : String) : Prop :=
  ∀ other ∈ after, other.name = name → other.heads = false

/-- Whether a name takes its place here: at its own header, or, if it has none, where it first
appears. -/
def Stands (before : List Appearance) (appearance : Appearance) (after : List Appearance) : Prop :=
  Final after appearance.name ∧
    (appearance.heads = true ∨ ∀ other ∈ before, other.name ≠ appearance.name)

instance (after : List Appearance) (name : String) : Decidable (Final after name) := by
  unfold Final
  infer_instance

instance (before : List Appearance) (appearance : Appearance) (after : List Appearance) :
    Decidable (appearance.Stands before after) := by
  unfold Stands
  infer_instance

/-- The appearances that names take their places at, in order. -/
def standing (before : List Appearance) : List Appearance → List Appearance
  | [] => []
  | appearance :: after =>
    let others := standing (before ++ [appearance]) after
    if appearance.Stands before after then appearance :: others else others

variable {before after : List Appearance} {appearance : Appearance} {name : String}

theorem final_cons : Final (appearance :: after) name ↔
    (appearance.name = name → appearance.heads = false) ∧ Final after name :=
  List.forall_mem_cons

end Appearance

namespace Table

open Appearance

variable {table : Table} {before after : List Appearance} {appearance : Appearance}

theorem put_final (known : ∀ name, name ∈ table.names ↔ ∃ other ∈ before, other.name = name) :
    (table.put appearance).filter (fun entry => Final after entry.1) =
      table.filter (fun entry => Final (appearance :: after) entry.1) ++
        if appearance.Stands before after then [appearance.entry] else [] := by
  -- A name that has a place keeps it, unless it appears as the header of its own table.
  unfold put
  cases heads : appearance.heads with
  | true =>
      have earlier : (table.remove appearance.name).filter (fun entry => Final after entry.1) =
          table.filter fun entry => Final (appearance :: after) entry.1 := by
        rw [remove, List.filter_filter]
        refine List.filter_congr fun entry _ => ?_
        simp [final_cons, heads, eq_comm, Bool.and_comm]
      rw [if_pos rfl, add, List.filter_append, earlier]
      simp [Stands, heads, entry, List.filter_cons]
  | false =>
      have earlier : table.filter (fun entry => Final after entry.1) =
          table.filter fun entry => Final (appearance :: after) entry.1 := by
        refine List.filter_congr fun entry _ => ?_
        simp [final_cons, heads]
      by_cases present : appearance.name ∈ table.names
      · obtain ⟨other, member, same⟩ := (known _).mp present
        have superseded : ¬ appearance.Stands before after := by
          rintro ⟨_, headed | first⟩
          · exact absurd (heads.symm.trans headed) (by decide)
          · exact first other member same
        rw [if_neg (by decide), if_pos present, earlier, if_neg superseded, List.append_nil]
      · have first : ∀ other ∈ before, other.name ≠ appearance.name := fun other member same =>
          present ((known _).mpr ⟨other, member, same⟩)
        have stands : appearance.Stands before after ↔ Final after appearance.name :=
          ⟨And.left, fun final => ⟨final, .inr first⟩⟩
        rw [if_neg (by decide), if_neg present, add, List.filter_append, earlier]
        simp [stands, entry, List.filter_cons]

/-- Of the entries that a table has already, those stay in place that get no header later. -/
theorem foldl_put (before : List Appearance)
    (known : ∀ name, name ∈ table.names ↔ ∃ other ∈ before, other.name = name) :
    after.foldl put table =
      table.filter (fun entry => Final after entry.1) ++ (standing before after).map entry := by
  -- An appearance that has been put makes its name known, and is no longer one of those to come.
  induction after generalizing table before with
  | nil => simp [Final, standing]
  | cons appearance after ih =>
      have others : ∀ name, name ∈ (table.put appearance).names ↔
          ∃ other ∈ before ++ [appearance], other.name = name := by
        intro name
        rw [mem_names_put, known]
        simp [or_and_right, exists_or, eq_comm]
      rw [List.foldl_cons, ih _ others, put_final known, standing]
      by_cases stands : appearance.Stands before after <;> simp [stands]

end Table

/-- The entries of a document are its names in their places, each with what it stands for there. -/
theorem ofText?_entries {text : String} {table : Table} {marks : Marks}
    (decoded : ofText? text = some (table, marks)) :
    table.names.Nodup ∧ ∃ statements, statements? text.toList = some statements ∧
      table.outline =
        (Appearance.standing [] (appearances statements)).map Appearance.entry := by
  simp only [ofText?, Option.bind_eq_bind, Option.bind_eq_some_iff, Option.some.injEq] at decoded
  obtain ⟨statements, read, final, applied, same⟩ := decoded
  obtain ⟨rfl, rfl⟩ := Prod.mk.inj same
  have sound := Draft.sound_foldlM Draft.sound_empty applied
  have outline := Draft.foldlM_top Draft.sound_empty rfl applied
  refine ⟨sound.distinct, statements, read, ?_⟩
  rw [outline, Table.foldl_put [] (by simp [Table.outline, Table.names])]
  rfl

end DevCluster.Document
