import DevCluster.Proofs.Document.Grammar

/-!
Series of parts and what may stand between parts: what is read as such is written so, and what is
written as such is read so if it ends where the reader stops.
-/

namespace DevCluster.Document

open Grammar Reader

section

variable {α : Type} {announced : Char → Bool} {item : Reader α} {items : List α}
  {part : List Char → α → List Char → Prop} {rounds : Nat} {text rest : List Char}

theorem manyWithin_eq_some
    (read : manyWithin announced item (rounds + 1) text = some (items, rest)) :
    (items = [] ∧ rest = text ∧ ∀ c ∈ text.head?, announced c = false) ∨
      ∃ first middle others, (∃ c ∈ text.head?, announced c = true) ∧
        item text = some (first, middle) ∧
        manyWithin announced item rounds middle = some (others, rest) ∧
        items = first :: others := by
  rw [manyWithin, ahead_bind_eq] at read
  cases text with
  | nil =>
      cases read
      exact .inl ⟨rfl, rfl, by simp⟩
  | cons c text =>
      by_cases next : announced c = true
      · simp only [List.head?_cons, next, if_true, bind_eq_some, pure_eq_some] at read
        obtain ⟨first, middle, own, others, _, more, same⟩ := read
        obtain ⟨rfl, rfl⟩ := Prod.mk.inj same
        exact .inr ⟨first, middle, others, ⟨c, rfl, next⟩, own, more, rfl⟩
      · simp only [List.head?_cons, next, Bool.false_eq_true, if_false] at read
        cases read
        exact .inl ⟨rfl, rfl, by simpa using next⟩

theorem manyWithin_sound
    (sound : ∀ {text first middle}, (∃ c ∈ text.head?, announced c = true) →
      item text = some (first, middle) → part text first middle)
    (read : manyWithin announced item rounds text = some (items, rest)) :
    Series part text items rest := by
  induction rounds generalizing text items with
  | zero =>
      cases read
      exact .nil
  | succ rounds ih =>
      rcases manyWithin_eq_some read with
        ⟨rfl, rfl, _⟩ | ⟨first, middle, others, next, own, more, rfl⟩
      · exact .nil
      · exact .cons (sound next own) (ih more)

theorem many_sound
    (sound : ∀ {text first middle}, (∃ c ∈ text.head?, announced c = true) →
      item text = some (first, middle) → part text first middle)
    (read : many announced item text = some (items, rest)) : Series part text items rest :=
  manyWithin_sound sound read

theorem manyWithin_stops
    (shrinks : ∀ {text first middle}, (∃ c ∈ text.head?, announced c = true) →
      item text = some (first, middle) → middle.length < text.length)
    (enough : text.length ≤ rounds)
    (read : manyWithin announced item rounds text = some (items, rest)) :
    ∀ c ∈ rest.head?, announced c = false := by
  induction rounds generalizing text items with
  | zero =>
      obtain rfl := List.eq_nil_of_length_eq_zero (Nat.le_zero.mp enough)
      cases read
      nofun
  | succ rounds ih =>
      rcases manyWithin_eq_some read with
        ⟨_, rfl, ended⟩ | ⟨first, middle, others, next, own, more, _⟩
      · exact ended
      · have shorter := shrinks next own
        exact ih (by omega) more

/-- The reader of a series goes on as long as an item is announced, if each item takes something. -/
theorem many_stops
    (shrinks : ∀ {text first middle}, (∃ c ∈ text.head?, announced c = true) →
      item text = some (first, middle) → middle.length < text.length)
    (read : many announced item text = some (items, rest)) :
    ∀ c ∈ rest.head?, announced c = false :=
  manyWithin_stops shrinks (Nat.le_refl _) read

/-- A series is read item by item if each item can be told by its first character and is read as it
is written before whatever may follow it. -/
theorem many_complete {follow : List Char → Prop}
    (series : Series part text items rest)
    (starts : ∀ {text first middle}, part text first middle →
      follow text ∧ (∃ c ∈ text.head?, announced c = true) ∧ middle.length < text.length)
    (reads : ∀ {text first middle}, part text first middle → follow middle →
      item text = some (first, middle))
    (ends : ∀ c ∈ rest.head?, announced c = false) (boundary : follow rest) :
    many announced item text = some (items, rest) := by
  have read (rounds : Nat) (enough : text.length ≤ rounds) :
      manyWithin announced item rounds text = some (items, rest) ∧ follow text := by
    induction series generalizing rounds with
    | nil => exact ⟨manyWithin_eq_nil ends, boundary⟩
    | cons own _ ih =>
        obtain ⟨follows, first, shorter⟩ := starts own
        obtain ⟨rounds, rfl⟩ : ∃ fewer, rounds = fewer + 1 := ⟨rounds - 1, by omega⟩
        obtain ⟨more, next⟩ := ih ends boundary rounds (by omega)
        exact ⟨manyWithin_eq_cons first (reads own next) more, follows⟩
  exact (read text.length (Nat.le_refl _)).1

theorem Grammar.Series.length_le (series : Series part text items rest)
    (shrinks : ∀ {text first middle}, part text first middle → middle.length ≤ text.length) :
    rest.length ≤ text.length := by
  induction series with
  | nil => exact Nat.le_refl _
  | cons own _ ih => exact Nat.le_trans ih (shrinks own)

theorem Grammar.Series.forall {satisfies : α → Prop} (series : Series part text items rest)
    (each : ∀ {text first middle}, part text first middle → satisfies first) :
    ∀ item ∈ items, satisfies item := by
  induction series with
  | nil => exact List.forall_mem_nil _
  | cons own _ ih => exact List.forall_mem_cons.mpr ⟨each own, ih⟩

end

variable {text rest : List Char} {value : Unit}

theorem Grammar.Passes.length_le {accepted : Char → Bool} (passes : Passes accepted text rest) :
    rest.length ≤ text.length := by
  obtain ⟨taken, rfl, _⟩ := passes
  simp

theorem Grammar.Passes.trans {accepted : Char → Bool} {middle : List Char}
    (first : Passes accepted text middle) (later : Passes accepted middle rest) :
    Passes accepted text rest := by
  obtain ⟨taken, rfl, inside⟩ := first
  obtain ⟨more, rfl, others⟩ := later
  exact ⟨taken ++ more, (List.append_assoc ..).symm, List.forall_mem_append.mpr ⟨inside, others⟩⟩

theorem run_complete {accepted : Char → Bool} (passes : Passes accepted text rest)
    (boundary : ∀ c ∈ rest.head?, accepted c = false) :
    ∃ taken, run accepted text = some (taken, rest) := by
  obtain ⟨taken, rfl, inside⟩ := passes
  exact ⟨taken, run_eq taken inside boundary⟩

theorem spaces_sound (read : spaces text = some (value, rest)) : Blanks text rest := by
  simp only [spaces, bind_eq_some, run_eq_some, pure_eq_some] at read
  obtain ⟨taken, _, ⟨rfl, inside, _⟩, same⟩ := read
  obtain ⟨_, rfl⟩ := Prod.mk.inj same
  exact ⟨taken, rfl, inside⟩

theorem spaces_complete (blanks : Blanks text rest)
    (boundary : ∀ c ∈ rest.head?, isSpace c = false) :
    spaces text = some ((), rest) := by
  obtain ⟨taken, read⟩ := run_complete blanks boundary
  exact bind_eq read

theorem newline_iff : newline text = some (value, rest) ↔ Newline text rest := by
  constructor
  · intro read
    unfold newline at read
    split at read
    next =>
      cases read
      exact .feed
    next =>
      cases read
      exact .carriage
    next => cases read
  · intro newline
    cases newline <;> rfl

theorem Grammar.Newline.length_lt (newline : Newline text rest) : rest.length < text.length := by
  cases newline <;> simp

theorem Grammar.Newline.head (newline : Newline text rest) :
    ∃ c ∈ text.head?, c = '\n' ∨ c = '\r' := by
  cases newline with
  | feed => exact ⟨_, rfl, .inl rfl⟩
  | carriage => exact ⟨_, rfl, .inr rfl⟩

theorem comment_sound (read : comment text = some (value, rest)) :
    ∃ remark, text = '#' :: remark ∧ Passes isTextChar remark rest := by
  simp only [comment, bind_eq_some, expect_eq_some, run_eq_some, pure_eq_some] at read
  obtain ⟨_, _, rfl, taken, _, ⟨rfl, inside, _⟩, same⟩ := read
  obtain ⟨_, rfl⟩ := Prod.mk.inj same
  exact ⟨_, rfl, taken, rfl, inside⟩

theorem comment_complete (passes : Passes isTextChar text rest)
    (boundary : ∀ c ∈ rest.head?, isTextChar c = false) :
    comment ('#' :: text) = some ((), rest) := by
  obtain ⟨taken, read⟩ := run_complete passes boundary
  exact (bind_eq (expect_eq '#')).trans (bind_eq read)

def isGapChar (c : Char) : Bool := isSpace c || c = '#' || c = '\n' || c = '\r'

/-- What a gap is read by: a comment up to the end of its line, blanks or a newline. -/
def gapPart : Reader Unit := do
  match (← ahead).head? with
  | some '#' => do comment; newline
  | some c => if isSpace c then spaces else newline
  | none => refuse

theorem gap_eq : gap = (do let _ ← many isGapChar gapPart) := rfl

variable {middle : List Char} {c : Char}

theorem gapPart_comment :
    gapPart ('#' :: text) = (comment >>= fun _ => newline) ('#' :: text) := rfl

theorem gapPart_space (space : isSpace c = true) : gapPart (c :: text) = spaces (c :: text) := by
  have unmarked : c ≠ '#' := by
    rintro rfl
    cases space
  rw [gapPart, ahead_bind_eq]
  simp [space]

theorem gapPart_newline (unmarked : c ≠ '#') (solid : isSpace c = false) :
    gapPart (c :: text) = newline (c :: text) := by
  rw [gapPart, ahead_bind_eq]
  simp [solid]

theorem Grammar.Gap.of_blanks (blanks : Blanks text middle) (gap : Gap middle rest) :
    Gap text rest := by
  obtain ⟨taken, rfl, inside⟩ := blanks
  induction taken with
  | nil => exact gap
  | cons c taken ih =>
      obtain ⟨space, others⟩ := List.forall_mem_cons.mp inside
      exact .space space (ih others)

theorem gapPart_sound (read : gapPart text = some (value, middle)) (gap : Gap middle rest) :
    Gap text rest := by
  cases text with
  | nil => cases read
  | cons c text =>
      by_cases marked : c = '#'
      · subst marked
        rw [gapPart_comment, bind_eq_some] at read
        obtain ⟨_, ending, own, ended⟩ := read
        obtain ⟨remark, same, passes⟩ := comment_sound own
        cases same
        exact .comment passes (newline_iff.mp ended) gap
      · cases space : isSpace c with
        | true =>
            rw [gapPart_space space] at read
            exact .of_blanks (spaces_sound read) gap
        | false =>
            rw [gapPart_newline marked space] at read
            exact .newline (newline_iff.mp read) gap

theorem gap_sound (read : gap text = some (value, rest)) : Gap text rest := by
  rw [gap_eq, bind_eq_some] at read
  obtain ⟨parts, ending, own, same⟩ := read
  obtain ⟨_, rfl⟩ := Prod.mk.inj (pure_eq_some.mp same)
  have series : Series (fun text _ middle => ∀ rest, Gap middle rest → Gap text rest)
      text parts ending := many_sound (fun _ read _ gap => gapPart_sound read gap) own
  clear own same
  induction series with
  | nil => exact .none
  | cons first _ ih => exact first _ ih

theorem Grammar.Gap.blanks_first (gap : Gap text rest)
    (boundary : ∀ c ∈ rest.head?, isSpace c = false) :
    ∃ middle, Blanks text middle ∧ (∀ c ∈ middle.head?, isSpace c = false) ∧ Gap middle rest := by
  induction gap with
  | none => exact ⟨_, ⟨[], rfl, nofun⟩, boundary, .none⟩
  | space space _ ih =>
      obtain ⟨middle, ⟨taken, rfl, inside⟩, solid, gap⟩ := ih boundary
      exact ⟨middle, ⟨_ :: taken, rfl, List.forall_mem_cons.mpr ⟨space, inside⟩⟩, solid, gap⟩
  | newline newline gap _ =>
      refine ⟨_, ⟨[], rfl, nofun⟩, ?_, .newline newline gap⟩
      cases newline <;> simp [isSpace]
  | comment passes newline gap _ =>
      exact ⟨_, ⟨[], rfl, nofun⟩, by simp [isSpace], .comment passes newline gap⟩

theorem Grammar.Gap.length_le (gap : Gap text rest) : rest.length ≤ text.length := by
  induction gap with
  | none => exact Nat.le_refl _
  | space _ _ ih => exact Nat.le_succ_of_le ih
  | newline newline _ ih => exact Nat.le_trans ih (Nat.le_of_lt newline.length_lt)
  | comment passes newline _ ih =>
      have shorter := passes.length_le
      have ended := newline.length_lt
      rw [List.length_cons]
      omega

theorem gapParts_complete {rounds : Nat} (gap : Gap text rest)
    (boundary : ∀ c ∈ rest.head?, isGapChar c = false) (enough : text.length ≤ rounds) :
    ∃ parts, manyWithin isGapChar gapPart rounds text = some (parts, rest) := by
  -- A gap takes blanks one by one, and its reader all of them in one round. So the induction is on
  -- the rounds, and blanks are taken from the gap together.
  induction rounds generalizing text with
  | zero =>
      have shorter := gap.length_le
      obtain rfl := List.eq_nil_of_length_eq_zero (Nat.le_zero.mp enough)
      obtain rfl := List.eq_nil_of_length_eq_zero (Nat.le_zero.mp shorter)
      exact ⟨[], rfl⟩
  | succ rounds ih =>
      cases gap with
      | none => exact ⟨[], manyWithin_eq_nil boundary⟩
      | @space c text _ space gap =>
          have solid : ∀ c ∈ rest.head?, isSpace c = false := fun c next => by
            have other := boundary c next
            simp only [isGapChar, Bool.or_eq_false_iff] at other
            exact other.1.1.1
          obtain ⟨middle, blanks, stops, others⟩ := gap.blanks_first solid
          have shorter := blanks.length_le
          obtain ⟨taken, rfl, inside⟩ := blanks
          have own : gapPart (c :: (taken ++ middle)) = some ((), middle) := by
            rw [gapPart_space space]
            refine spaces_complete ⟨c :: taken, rfl, ?_⟩ stops
            exact List.forall_mem_cons.mpr ⟨space, inside⟩
          obtain ⟨parts, more⟩ := ih others (by rw [List.length_cons] at enough; omega)
          exact ⟨_, manyWithin_eq_cons ⟨c, rfl, by simp [isGapChar, space]⟩ own more⟩
      | @newline _ middle _ newline gap =>
          have shorter := newline.length_lt
          obtain ⟨parts, more⟩ := ih gap (by omega)
          have own : gapPart text = some ((), middle) := by
            cases newline <;> exact newline_iff.mpr (by constructor)
          obtain ⟨c, first, ending⟩ := newline.head
          refine ⟨_, manyWithin_eq_cons ⟨c, first, ?_⟩ own more⟩
          rcases ending with rfl | rfl <;> rfl
      | @comment text _ middle _ passes newline gap =>
          have shorter := passes.length_le
          have ended := newline.length_lt
          obtain ⟨parts, more⟩ := ih gap (by rw [List.length_cons] at enough; omega)
          have own : gapPart ('#' :: text) = some ((), middle) := by
            rw [gapPart_comment]
            refine (bind_eq (comment_complete passes ?_)).trans (newline_iff.mpr newline)
            obtain ⟨c, first, ending⟩ := newline.head
            intro d next
            rw [Option.mem_def.mp first] at next
            cases next
            rcases ending with rfl | rfl <;> rfl
          exact ⟨_, manyWithin_eq_cons ⟨'#', rfl, rfl⟩ own more⟩

theorem gap_complete (gap : Gap text rest) (boundary : ∀ c ∈ rest.head?, isGapChar c = false) :
    Document.gap text = some ((), rest) := by
  obtain ⟨parts, read⟩ := gapParts_complete gap boundary (Nat.le_refl _)
  rw [gap_eq]
  exact bind_eq (ahead_bind_eq.trans read)

theorem remark_sound (read : remark text = some (value, rest)) : Remark text rest := by
  rw [remark, ahead_bind_eq] at read
  split at read
  next =>
    obtain ⟨remark, rfl, passes⟩ := comment_sound read
    exact .comment passes
  next =>
    cases read
    exact .none

theorem remark_complete (written : Remark text rest)
    (boundary : ∀ c ∈ rest.head?, c = '\n' ∨ c = '\r') : remark text = some ((), rest) := by
  rw [remark, ahead_bind_eq]
  cases written with
  | none =>
      have unmarked : text.head? ≠ some '#' := fun marked => by simpa using boundary _ marked
      rw [if_neg unmarked]
      rfl
  | comment passes =>
      refine comment_complete passes fun c next => ?_
      rcases boundary c next with rfl | rfl <;> rfl

theorem lineEnd_iff : lineEnd text = some (value, rest) ↔ LineEnd text rest := by
  constructor
  · intro read
    cases text with
    | nil =>
        cases read
        exact .last
    | cons c text => exact .newline (newline_iff.mp read)
  · intro ended
    cases ended with
    | newline newline =>
        cases newline <;> rfl
    | last => rfl

theorem Grammar.Fold.length_le {folded : Bool} (fold : Fold folded text rest) :
    rest.length ≤ text.length := by
  induction fold with
  | done => exact Nat.le_refl _
  | space _ _ ih => exact Nat.le_succ_of_le ih
  | newline newline _ ih => exact Nat.le_trans ih (Nat.le_of_lt newline.length_lt)

theorem Grammar.LongRest.length_le {kind : LongKind} {count : Nat} {chars : List Char}
    (more : LongRest kind count text chars rest) : rest.length ≤ text.length := by
  induction more with
  | closed => simp only [List.length_cons]; omega
  | quote _ _ ih => exact Nat.le_succ_of_le ih
  | plain _ _ _ _ ih => exact Nat.le_succ_of_le ih
  | newline newline _ ih => exact Nat.le_trans ih (Nat.le_of_lt newline.length_lt)
  | escaped _ _ _ ih => simp only [List.length_cons, List.length_append]; omega
  | folded _ fold _ ih => exact Nat.le_succ_of_le (Nat.le_trans ih fold.length_le)

theorem Grammar.Opening.length_le (opening : Opening text rest) : rest.length ≤ text.length := by
  cases opening with
  | newline newline => exact Nat.le_of_lt newline.length_lt
  | none => exact Nat.le_refl _

theorem Grammar.Quotation.length_lt {chars : List Char} (written : Quotation text chars rest) :
    rest.length < text.length := by
  cases written with
  | short isQuoted =>
      obtain ⟨c, others, rfl, _⟩ := isQuoted.head
      simp only [List.length_cons, List.length_append]
      omega
  | long _ opening more =>
      have first := opening.length_le
      have later := more.length_le
      simp only [List.length_cons]
      omega

end DevCluster.Document
