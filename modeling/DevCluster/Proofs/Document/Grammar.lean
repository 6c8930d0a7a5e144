import DevCluster.Proofs.Document.Consistency
import DevCluster.Proofs.Document.Flat

/-!
The grammar of documents. Each part of a document is given by the text that it begins and the text
that is left behind it, without a word on how the part is read or how a reader knows where it ends.
-/

namespace DevCluster.Document.Grammar

/-- From a text to what is left of it behind some accepted characters. -/
def Passes (accepted : Char → Bool) (text rest : List Char) : Prop :=
  ∃ taken, text = taken ++ rest ∧ ∀ c ∈ taken, accepted c = true

def Blanks : List Char → List Char → Prop :=
  Passes isSpace

inductive Series {α : Type} (part : List Char → α → List Char → Prop) :
    List Char → List α → List Char → Prop
  | nil {rest} : Series part rest [] rest
  | cons {text first middle others rest} : part text first middle → Series part middle others rest →
      Series part text (first :: others) rest

inductive Newline : List Char → List Char → Prop
  | feed {rest} : Newline ('\n' :: rest) rest
  | carriage {rest} : Newline ('\r' :: '\n' :: rest) rest

/-- Spaces, newlines and comments, as they may stand between the items of an array. -/
inductive Gap : List Char → List Char → Prop
  | none {rest} : Gap rest rest
  | space {c text rest} : isSpace c = true → Gap text rest → Gap (c :: text) rest
  | newline {text middle rest} : Newline text middle → Gap middle rest → Gap text rest
  | comment {text ending middle rest} : Passes isTextChar text ending → Newline ending middle →
      Gap middle rest → Gap ('#' :: text) rest

def isFolded (c : Char) : Bool := isSpace c || c = '\n' || c = '\r'

/-- What may follow a backslash for nothing at all: blanks with a newline among them, and whatever
blanks and newlines are behind it. -/
inductive Fold : Bool → List Char → List Char → Prop
  | done {rest} : (∀ c ∈ rest.head?, isFolded c = false) → Fold true rest rest
  | space {folded c text rest} : isSpace c = true → Fold folded text rest →
      Fold folded (c :: text) rest
  | newline {folded text middle rest} : Newline text middle → Fold true middle rest →
      Fold folded text rest

/-- The rest of a string of several lines and its closing quotes, behind `count` quotes in a row
that belong to it. -/
inductive LongRest (kind : LongKind) : Nat → List Char → List Char → List Char → Prop
  | closed {count rest} : count ≤ 2 →
      LongRest kind count (kind.quote :: kind.quote :: kind.quote :: rest) [] rest
  | quote {count text chars rest} : count < 2 → LongRest kind (count + 1) text chars rest →
      LongRest kind count (kind.quote :: text) (kind.quote :: chars) rest
  | plain {count c text chars rest} : isTextChar c = true → c ≠ kind.quote →
      (kind.escapes = true → c ≠ '\\') → LongRest kind 0 text chars rest →
      LongRest kind count (c :: text) (c :: chars) rest
  | newline {count text middle chars rest} : Newline text middle →
      LongRest kind 0 middle chars rest → LongRest kind count text ('\n' :: chars) rest
  | escaped {count c letters text chars rest} : kind.escapes = true → Escaped c letters →
      LongRest kind 0 text chars rest →
      LongRest kind count ('\\' :: (letters ++ text)) (c :: chars) rest
  | folded {count text middle chars rest} : kind.escapes = true → Fold false text middle →
      LongRest kind 0 middle chars rest → LongRest kind count ('\\' :: text) chars rest

/-- A newline right behind the opening quotes is not part of the string. -/
inductive Opening : List Char → List Char → Prop
  | newline {text rest} : Newline text rest → Opening text rest
  | none {rest} : (∀ middle, ¬ Newline rest middle) → Opening rest rest

inductive Quotation : List Char → List Char → List Char → Prop
  | short {chars quoted rest} : Quoted chars quoted → Quotation (quoted ++ rest) chars rest
  | long {kind text middle chars rest} : kind = .basic ∨ kind = .literal → Opening text middle →
      LongRest kind 0 middle chars rest →
      Quotation (kind.quote :: kind.quote :: kind.quote :: text) chars rest

/-- A further name of a key, behind a dot. -/
inductive Dotted : List Char → String → List Char → Prop
  | name {name written before after rest} : Blanks before (written ++ after) →
      Named name.toList written → Blanks after rest → Dotted ('.' :: before) name rest

inductive Keyed : List Char → Key → List Char → Prop
  | names {first others written after middle rest} : Named first.toList written →
      Blanks after middle → Series Dotted middle others rest →
      (first :: others).length ≤ 79 →
      Keyed (written ++ after)
        { path := (first :: others).dropLast
          name := (first :: others).getLastD first
          extent := ⟨written ++ after, after⟩ } rest

/-- A sign or none, and whether it is negative. -/
inductive Sign : List Char → Bool → Prop
  | none : Sign [] false
  | plus : Sign ['+'] false
  | minus : Sign ['-'] true

def signed (negative : Bool) (value : Nat) : Int :=
  if negative then -value else value

/-- A decimal number that does not begin with a zero, or a zero alone. -/
inductive Whole : List Char → Nat → Prop
  | zero : Whole ['0'] 0
  | number {c text count value} : c ≠ '0' → Numeral 10 (c :: text) count value →
      Whole (c :: text) value

/-- Whole numbers of 64 bits. -/
inductive Integer : List Char → Int → Prop
  | decimal {sign negative text value} : Sign sign negative → Whole text value →
      -2 ^ 63 ≤ signed negative value → signed negative value < 2 ^ 63 →
      Integer (sign ++ text) (signed negative value)
  | based {letter base text count value} : (letter, base) ∈ [('x', 16), ('o', 8), ('b', 2)] →
      Numeral base text count value → value < 2 ^ 63 → Integer ('0' :: letter :: text) value

inductive Fraction : List Char → Nat → Nat → Prop
  | none : Fraction [] 0 0
  | digits {text places value} : Numeral 10 text places value →
      Fraction ('.' :: text) places value

inductive Exponent : List Char → Int → Prop
  | none : Exponent [] 0
  | power {letter sign negative text count value} : letter = 'e' ∨ letter = 'E' →
      Sign sign negative → Numeral 10 text count value →
      Exponent (letter :: (sign ++ text)) (signed negative value)

/-- A decimal number with a fraction, an exponent or both, as its digits and a power of ten. -/
inductive Scaled : List Char → Nat → Int → Prop
  | number {whole value fraction places digits exponent power} : Whole whole value →
      Fraction fraction places digits → Exponent exponent power → fraction ++ exponent ≠ [] →
      Scaled (whole ++ (fraction ++ exponent)) (value * 10 ^ places + digits) (power - places)

/-- A number beyond the greatest one is none, but one below the least is infinite. -/
inductive Floating : List Char → Binary64 → Prop
  | infinite {sign negative} : Sign sign negative →
      Floating (sign ++ ['i', 'n', 'f']) (.infinite negative)
  | nan {sign negative} : Sign sign negative → Floating (sign ++ ['n', 'a', 'n']) .nan
  | decimal {sign negative text digits power} : Sign sign negative → Scaled text digits power →
      Binary64.ofDecimal negative digits power ≠ .infinite false →
      Floating (sign ++ text) (.ofDecimal negative digits power)

def monthLengths (year : Nat) : List Nat :=
  let february := if 4 ∣ year ∧ (100 ∣ year → 400 ∣ year) then 29 else 28
  [31, february, 31, 30, 31, 30, 31, 31, 30, 31, 30, 31]

inductive Day : List Char → Date → Prop
  | date {y year m month d day length} : Fixed 10 4 y year → Fixed 10 2 m month →
      Fixed 10 2 d day → 1 ≤ month → (monthLengths year)[month - 1]? = some length →
      1 ≤ day → day ≤ length → Day (y ++ '-' :: (m ++ '-' :: d)) { year, month, day }

inductive SecondFraction : List Char → List Char → Prop
  | none : SecondFraction [] []
  | digits {text} : text ≠ [] → (∀ c ∈ text, c.isDigit = true) → SecondFraction ('.' :: text) text

/-- The second 60 is a leap second. -/
inductive Clock : List Char → TimeOfDay → Prop
  | time {h hour m minute s second f fraction} : Fixed 10 2 h hour → Fixed 10 2 m minute →
      Fixed 10 2 s second → hour < 24 → minute < 60 → second ≤ 60 → SecondFraction f fraction →
      Clock (h ++ ':' :: (m ++ ':' :: (s ++ f))) { hour, minute, second, fraction }

/-- The minutes that local time is ahead of universal time, if they are said. -/
inductive Zone : List Char → Option Int → Prop
  | unsaid : Zone [] none
  | universal {c} : c = 'Z' ∨ c = 'z' → Zone [c] (some 0)
  | ahead {sign negative h hours m minutes} : Sign sign negative → sign ≠ [] →
      Fixed 10 2 h hours → Fixed 10 2 m minutes → hours < 24 → minutes < 60 →
      Zone (sign ++ (h ++ ':' :: m)) (some (signed negative (60 * hours + minutes)))

inductive Timed : List Char → Moment → Prop
  | date {text date} : Day text date → Timed text (.date date)
  | time {text time} : Clock text time → Timed text (.time time)
  | dateTime {d date mark t time z ahead} : Day d date → mark = 'T' ∨ mark = 't' ∨ mark = ' ' →
      Clock t time → Zone z ahead → Timed (d ++ mark :: (t ++ z)) (.dateTime date time ahead)

/-- Values of one word, but for a date and a time of day that a space may join. -/
inductive Word : List Char → Item → Prop
  | yes : Word ['t', 'r', 'u', 'e'] (.boolean true)
  | no : Word ['f', 'a', 'l', 's', 'e'] (.boolean false)
  | integer {word value} : Integer word value → Word word (.integer value)
  | float {word value} : Floating word value → Word word (.float value)
  | moment {word value} : Timed word value → Word word (.moment value)

inductive Simple : List Char → Item → List Char → Prop
  | text {text chars rest} : Quotation text chars rest →
      Simple text (.text (String.ofList chars)) rest
  | word {word item rest} : Word word item → Simple (word ++ rest) item rest

/-- An item of an array, with the comma and the gap behind it if more may follow. -/
inductive Element (value : List Char → Item → List Char → Prop) :
    List Char → Item → List Char → Prop
  | last {text item middle rest} : value text item middle → Gap middle (']' :: rest) →
      Element value text item (']' :: rest)
  | more {text item middle comma rest} : value text item middle → Gap middle (',' :: comma) →
      Gap comma rest → Element value text item rest

inductive Assigned (value : List Char → Item → List Char → Prop) :
    List Char → Assignment → List Char → Prop
  | value {text key middle start item ending rest} : Keyed text key ('=' :: middle) →
      Blanks middle start → value start item ending → Blanks ending rest →
      Assigned value text { key, item, extent := ⟨start, ending⟩ } rest

/-- A further assignment of an inline table, behind a comma. -/
inductive Further (value : List Char → Item → List Char → Prop) :
    List Char → Assignment → List Char → Prop
  | comma {text middle assignment rest} : Blanks text middle →
      Assigned value middle assignment rest → Further value (',' :: text) assignment rest

inductive Compound (value : List Char → Item → List Char → Prop) :
    List Char → Item → List Char → Prop
  | array {text middle items rest} : Gap text middle →
      Series (Element value) middle items (']' :: rest) →
      Compound value ('[' :: text) (.array items) rest
  | emptyTable {text rest} : Blanks text ('\x7d' :: rest) →
      Compound value ('\x7b' :: text) (.inlineTable []) rest
  | inlineTable {text start first middle others rest} : Blanks text start →
      Assigned value start first middle → Series (Further value) middle others ('\x7d' :: rest) →
      Consistent (fun _ => none) [] ((first :: others).map .assign) →
      Compound value ('\x7b' :: text) (.inlineTable ((tableOf (first :: others)).getD [])) rest

/-- A value with no more than `depth` arrays and inline tables around each other. -/
def ValueWithin : Nat → List Char → Item → List Char → Prop
  | 0 => Simple
  | depth + 1 => fun text item rest =>
    Simple text item rest ∨ Compound (ValueWithin depth) text item rest

def Value : List Char → Item → List Char → Prop :=
  ValueWithin 79

inductive Headed : List Char → Statement → List Char → Prop
  | table {text middle key rest} : Blanks text middle → Keyed middle key (']' :: rest) →
      Headed ('[' :: text) (.header key ⟨'[' :: text, rest⟩) rest
  | another {text middle key rest} : Blanks text middle → Keyed middle key (']' :: ']' :: rest) →
      Headed ('[' :: '[' :: text) (.arrayHeader key ⟨'[' :: '[' :: text, rest⟩) rest

inductive Remark : List Char → List Char → Prop
  | none {rest} : Remark rest rest
  | comment {text rest} : Passes isTextChar text rest → Remark ('#' :: text) rest

inductive LineEnd : List Char → List Char → Prop
  | newline {text rest} : Newline text rest → LineEnd text rest
  | last : LineEnd [] []

inductive Line : List Char → Option Statement → List Char → Prop
  | blank {text remark ending rest} : Blanks text remark → Remark remark ending →
      LineEnd ending rest → Line text none rest
  | header {text start statement after remark ending rest} : Blanks text start →
      Headed start statement after → Blanks after remark → Remark remark ending →
      LineEnd ending rest → Line text (some statement) rest
  | assign {text start assignment remark ending rest} : Blanks text start →
      Assigned Value start assignment remark → Remark remark ending → LineEnd ending rest →
      Line text (some (.assign assignment)) rest

/-- The statements of a whole text, line by line. A byte order mark before them is skipped. -/
def Statements (text : List Char) (statements : List Statement) : Prop :=
  ∃ lines, statements = lines.filterMap id ∧
    Series (fun text statement rest => text ≠ [] ∧ Line text statement rest)
      (if text.head? = some '\uFEFF' then text.tail else text) lines []

end DevCluster.Document.Grammar
