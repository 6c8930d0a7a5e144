import Mathlib
import DevCluster.Document.Number

/-!
Digits and the numbers that they make, in the bases in which a document may write one, and that just
these are read.
-/

namespace DevCluster.Document

/-- A digit of a base up to sixteen, with its value. Letters are digits in either case. -/
def Digit (base value : Nat) (c : Char) : Prop :=
  value < base ∧ ("0123456789abcdef".toList[value]? = some c ∨
    "0123456789ABCDEF".toList[value]? = some c)

/-- A number by its digits, and how many these are. Underscores may stand between two of them. -/
inductive Numeral (base : Nat) : List Char → Nat → Nat → Prop
  | last {c value} : Digit base value c → Numeral base [c] 1 value
  | more {c value text count others} : Digit base value c → Numeral base text count others →
      Numeral base (c :: text) (count + 1) (value * base ^ count + others)
  | spaced {c value text count others} : Digit base value c → Numeral base text count others →
      Numeral base (c :: '_' :: text) (count + 1) (value * base ^ count + others)

/-- A number of exactly so many digits, with nothing between them. -/
def Fixed (base count : Nat) (text : List Char) (value : Nat) : Prop :=
  '_' ∉ text ∧ Numeral base text count value

variable {base count value : Nat} {c : Char} {text digits first last : List Char}

theorem exists_place {first last : Char} (least : first ≤ c) (greatest : c ≤ last) :
    ∃ place ≤ last.toNat - first.toNat, c = Char.ofNat (first.toNat + place) := by
  have low : first.toNat ≤ c.toNat := least
  have high : c.toNat ≤ last.toNat := greatest
  refine ⟨c.toNat - first.toNat, by omega, ?_⟩
  rw [Nat.add_sub_cancel' low, Char.ofNat_toNat]

theorem hexValue_eq_some_iff : Text.hexValue c = some value ↔
    "0123456789abcdef".toList[value]? = some c ∨ "0123456789ABCDEF".toList[value]? = some c := by
  constructor
  · intro valued
    rw [Text.hexValue] at valued
    split at valued
    next digit =>
      have between : 48 ≤ c.val ∧ c.val ≤ 57 := by simpa [Char.isDigit] using digit
      have least : '0' ≤ c := between.1
      have greatest : c ≤ '9' := between.2
      obtain ⟨place, (bound : place ≤ 9), rfl⟩ := exists_place least greatest
      cases valued
      interval_cases place <;> exact .inl rfl
    next =>
      split at valued
      next letter =>
        obtain ⟨least, greatest⟩ : 'a' ≤ c ∧ c ≤ 'f' := by simpa using letter
        obtain ⟨place, (bound : place ≤ 5), rfl⟩ := exists_place least greatest
        cases valued
        interval_cases place <;> exact .inl rfl
      next =>
        split at valued
        next letter =>
          obtain ⟨least, greatest⟩ : 'A' ≤ c ∧ c ≤ 'F' := by simpa using letter
          obtain ⟨place, (bound : place ≤ 5), rfl⟩ := exists_place least greatest
          cases valued
          interval_cases place <;> exact .inr rfl
        next => cases valued
  · intro placed
    have bound : value < 16 := by
      rcases placed with placed | placed <;>
        simpa using (List.getElem?_eq_some_iff.mp placed).1
    interval_cases value <;> rcases placed with placed | placed <;> cases placed <;> rfl

theorem digit_iff : Digit base value c ↔ Text.hexValue c = some value ∧ value < base := by
  rw [Digit, ← hexValue_eq_some_iff, and_comm]

theorem digit_sixteen : Digit 16 value c ↔ Text.hexValue c = some value := by
  rw [digit_iff, and_iff_left_iff_imp, hexValue_eq_some_iff]
  rintro (placed | placed) <;> simpa using (List.getElem?_eq_some_iff.mp placed).1

theorem isBaseDigit_iff : isBaseDigit base c = true ↔ ∃ value, Digit base value c := by
  simp [isBaseDigit, digit_iff, Option.any_eq_true]

theorem isBaseDigit_ten : isBaseDigit 10 = Char.isDigit := by
  funext c
  rw [isBaseDigit, Text.hexValue]
  by_cases digit : c.isDigit = true
  · have greatest : c.toNat ≤ 57 := by
      have between : 48 ≤ c.val ∧ c.val ≤ 57 := by simpa [Char.isDigit] using digit
      exact between.2
    have zero : '0'.toNat = 48 := rfl
    simp only [digit, if_true, Option.any_some, decide_eq_true_eq]
    omega
  · rw [if_neg digit]
    split
    next => simp [digit]
    next => split <;> simp [digit]

theorem Digit.ne_underscore (digit : Digit base value c) : c ≠ '_' := by
  rintro rfl
  obtain ⟨valued, _⟩ := digit_iff.mp digit
  cases valued

theorem Digit.isDigit (digit : Digit 10 value c) : c.isDigit = true := by
  rw [← isBaseDigit_ten]
  exact isBaseDigit_iff.mpr ⟨value, digit⟩

theorem natOfDigits_append (first last : List Char) : natOfDigits base (first ++ last) =
    natOfDigits base first * base ^ last.length + natOfDigits base last := by
  induction last using List.reverseRecOn with
  | nil => simp [natOfDigits]
  | append_singleton last c ih =>
      have concat (digits : List Char) : natOfDigits base (digits ++ [c]) =
          natOfDigits base digits * base + (Text.hexValue c).getD 0 := by
        simp [natOfDigits]
      rw [← List.append_assoc, concat, concat, ih, List.length_append, List.length_singleton,
        pow_succ]
      ring

theorem natOfDigits_singleton (digit : Digit base value c) : natOfDigits base [c] = value := by
  simp [natOfDigits, (digit_iff.mp digit).1]

theorem natOfDigits_cons (digit : Digit base value c) : natOfDigits base (c :: digits) =
    value * base ^ digits.length + natOfDigits base digits := by
  rw [← natOfDigits_singleton digit, ← natOfDigits_append, List.singleton_append]

theorem digitRun_cons {isDigit : Char → Bool} (nonempty : text ≠ [])
    (unspaced : text.head? ≠ some '_') : digitRun isDigit (c :: text) =
      if isDigit c then (digitRun isDigit text).map (c :: ·) else none := by
  refine digitRun.eq_4 isDigit c text nonempty fun rest spaced => ?_
  rw [spaced] at unspaced
  exact unspaced rfl

theorem Numeral.head (numeral : Numeral base text count value) :
    ∃ c others own, text = c :: others ∧ Digit base own c := by
  cases numeral with
  | last digit => exact ⟨_, _, _, rfl, digit⟩
  | more digit _ => exact ⟨_, _, _, rfl, digit⟩
  | spaced digit _ => exact ⟨_, _, _, rfl, digit⟩

theorem Numeral.of_digitRun (run : digitRun (isBaseDigit base) text = some digits) :
    Numeral base text digits.length (natOfDigits base digits) := by
  fun_induction Document.digitRun (isBaseDigit base) text generalizing digits with
  | case1 => cases run
  | case2 c accepted =>
      cases run
      obtain ⟨value, digit⟩ := isBaseDigit_iff.mp accepted
      rw [natOfDigits_singleton digit]
      exact .last digit
  | case3 => cases run
  | case4 c rest accepted ih =>
      obtain ⟨digits, others, rfl⟩ := Option.map_eq_some_iff.mp run
      obtain ⟨value, digit⟩ := isBaseDigit_iff.mp accepted
      rw [natOfDigits_cons digit]
      exact .spaced digit (ih others)
  | case5 => cases run
  | case6 c rest _ _ accepted ih =>
      obtain ⟨digits, others, rfl⟩ := Option.map_eq_some_iff.mp run
      obtain ⟨value, digit⟩ := isBaseDigit_iff.mp accepted
      rw [natOfDigits_cons digit]
      exact .more digit (ih others)
  | case7 => cases run

theorem Numeral.digitRun (numeral : Numeral base text count value) :
    ∃ digits, Document.digitRun (isBaseDigit base) text = some digits ∧ digits.length = count ∧
      natOfDigits base digits = value := by
  induction numeral with
  | @last c value digit =>
      have accepted := isBaseDigit_iff.mpr ⟨value, digit⟩
      exact ⟨[c], by simp [Document.digitRun, accepted], rfl, natOfDigits_singleton digit⟩
  | @more c value text count others digit numeral ih =>
      obtain ⟨digits, run, rfl, rfl⟩ := ih
      obtain ⟨d, rest, own, rfl, first⟩ := numeral.head
      have accepted := isBaseDigit_iff.mpr ⟨value, digit⟩
      refine ⟨c :: digits, ?_, rfl, natOfDigits_cons digit⟩
      rw [digitRun_cons (by simp) (by simpa using first.ne_underscore), if_pos accepted, run]
      rfl
  | @spaced c value text count others digit _ ih =>
      obtain ⟨digits, run, rfl, rfl⟩ := ih
      have accepted := isBaseDigit_iff.mpr ⟨value, digit⟩
      refine ⟨c :: digits, ?_, rfl, natOfDigits_cons digit⟩
      rw [Document.digitRun, if_pos accepted, run]
      rfl

theorem numeral_iff : Numeral base text count value ↔
    ∃ digits, digitRun (isBaseDigit base) text = some digits ∧ digits.length = count ∧
      natOfDigits base digits = value := by
  refine ⟨Numeral.digitRun, ?_⟩
  rintro ⟨digits, run, rfl, rfl⟩
  exact .of_digitRun run

theorem digitRun_unspaced {isDigit : Char → Bool} (unspaced : '_' ∉ text) :
    digitRun isDigit text =
      if text ≠ [] ∧ ∀ c ∈ text, isDigit c = true then some text else none := by
  induction text with
  | nil => rfl
  | cons c text ih =>
      obtain ⟨_, unspaced⟩ := List.ne_and_not_mem_of_not_mem_cons unspaced
      cases text with
      | nil => simp [digitRun]
      | cons d text =>
          obtain ⟨other, _⟩ := List.ne_and_not_mem_of_not_mem_cons unspaced
          rw [digitRun_cons (by simp) (by simpa using Ne.symm other), ih unspaced]
          split
          next accepted =>
            split
            next all => exact (if_pos ⟨by simp, List.forall_mem_cons.mpr ⟨accepted, all.2⟩⟩).symm
            next all =>
              refine (if_neg fun whole => all ⟨by simp, ?_⟩).symm
              exact (List.forall_mem_cons.mp whole.2).2
          next refused => exact (if_neg fun all => refused (all.2 c List.mem_cons_self)).symm

theorem fixed_iff : Fixed base count text value ↔
    text ≠ [] ∧ (∀ c ∈ text, isBaseDigit base c = true) ∧ text.length = count ∧
      natOfDigits base text = value := by
  constructor
  · rintro ⟨unspaced, numeral⟩
    obtain ⟨digits, run, rfl, rfl⟩ := numeral.digitRun
    rw [digitRun_unspaced unspaced] at run
    split at run
    next all =>
      cases run
      exact ⟨all.1, all.2, rfl, rfl⟩
    next => cases run
  · rintro ⟨nonempty, all, rfl, rfl⟩
    have unspaced : '_' ∉ text := fun member => by
      obtain ⟨_, digit⟩ := isBaseDigit_iff.mp (all _ member)
      exact digit.ne_underscore rfl
    refine ⟨unspaced, .of_digitRun ?_⟩
    rw [digitRun_unspaced unspaced, if_pos ⟨nonempty, all⟩]

end DevCluster.Document
