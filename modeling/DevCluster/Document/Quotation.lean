import DevCluster.Document.Reader
import DevCluster.Text.Hexadecimal

/-!
Strings of a document: on one line or over several, with escapes between double quotes and without
between single quotes. Each kind is read character by character by a small machine.
-/

namespace DevCluster.Document

/-- What one character does to a string that is being read. -/
inductive Verdict (σ : Type)
  | more (added : List Char) (state : σ)
  | closed
  | closedBefore (added : List Char)
  | fault

namespace Verdict

def addFirst {σ : Type} (first : List Char) : Verdict σ → Verdict σ
  | .more added state => .more (first ++ added) state
  | .closed => .closed
  | .closedBefore added => .closedBefore (first ++ added)
  | .fault => .fault

def readFrom {σ : Type} (step : σ → Char → Verdict σ) (atEnd : σ → Option (List Char))
    (state : σ) : Reader (List Char)
  | [] => (atEnd state).map (·, [])
  | c :: rest =>
    match step state c with
    | .more added next => do
      let (text, remaining) ← readFrom step atEnd next rest
      some (added ++ text, remaining)
    | .closed => some ([], rest)
    | .closedBefore added => some (added, c :: rest)
    | .fault => none

end Verdict

/-- After a backslash an escape awaits its letter, and after `u` or `U` its hexadecimal digits. -/
inductive Escape
  | letter
  | digits (missing value : Nat)

/-- The escape after one more character, or the character that it stands for. -/
def Escape.next : Escape → Char → Option (Escape ⊕ Char)
  | .letter, c =>
    match c with
    | 'b' => some (.inr '\x08')
    | 't' => some (.inr '\t')
    | 'n' => some (.inr '\n')
    | 'f' => some (.inr '\x0c')
    | 'r' => some (.inr '\r')
    | '"' => some (.inr '"')
    | '\\' => some (.inr '\\')
    | 'u' => some (.inl (.digits 4 0))
    | 'U' => some (.inl (.digits 8 0))
    | _ => none
  | .digits missing value, c => do
    let value := value * 16 + (← Text.hexValue c)
    if 1 < missing then some (.inl (.digits (missing - 1) value))
    else if value.isValidChar then some (.inr (Char.ofNat value))
    else none

/-- A string of one line between double quotes: its escape, if it is in one, decides. -/
def basicStep : Option Escape → Char → Verdict (Option Escape)
  | none, c =>
    if c = '"' then .closed
    else if c = '\\' then .more [] (some .letter)
    else if isTextChar c then .more [c] none
    else .fault
  | some escape, c =>
    match escape.next c with
    | some (.inl awaited) => .more [] (some awaited)
    | some (.inr meant) => .more [meant] none
    | none => .fault

def basicRest : Reader (List Char) :=
  Verdict.readFrom basicStep (fun _ => none) none

def literalRest : Reader (List Char) := do
  let text ← Reader.run fun c => isTextChar c && c ≠ '\''
  Reader.expect '\''
  pure text

inductive LongState
  | plain
  /-- After this many quotes in a row, which may close the string. -/
  | quotes (count : Nat)
  /-- After a carriage return, which only a line feed may follow. -/
  | carriage
  | escape (state : Escape)
  /-- In the blanks after a backslash, which are dropped; a newline has to be among them. -/
  | folding (seenNewline : Bool)
  | foldingCarriage

/-- The kinds of strings of several lines: by their quote, and whether a backslash escapes. -/
structure LongKind where
  quote : Char
  escapes : Bool

namespace LongKind

def basic : LongKind := ⟨'"', true⟩

def literal : LongKind := ⟨'\'', false⟩

def plainStep (kind : LongKind) (c : Char) : Verdict LongState :=
  if c = kind.quote then .more [] (.quotes 1)
  else if c = '\\' && kind.escapes then .more [] (.escape .letter)
  else if c = '\n' then .more ['\n'] .plain
  else if c = '\r' then .more [] .carriage
  else if isTextChar c then .more [c] .plain
  else .fault

def foldStep (kind : LongKind) (seenNewline : Bool) (c : Char) : Verdict LongState :=
  if isSpace c then .more [] (.folding seenNewline)
  else if c = '\n' then .more [] (.folding true)
  else if c = '\r' then .more [] .foldingCarriage
  else if seenNewline then kind.plainStep c
  else .fault

/-- Three quotes close the string, and up to two right before them belong to it. -/
def step (kind : LongKind) : LongState → Char → Verdict LongState
  | .plain, c => kind.plainStep c
  | .quotes count, c =>
    if c = kind.quote && count < 5 then .more [] (.quotes (count + 1))
    else if 3 ≤ count then .closedBefore (List.replicate (count - 3) kind.quote)
    else (kind.plainStep c).addFirst (List.replicate count kind.quote)
  | .carriage, c => if c = '\n' then .more ['\n'] .plain else .fault
  | .escape .letter, c =>
    if isSpace c || c = '\n' || c = '\r' then kind.foldStep false c
    else
      match Escape.letter.next c with
      | some (.inl awaited) => .more [] (.escape awaited)
      | some (.inr meant) => .more [meant] .plain
      | none => .fault
  | .escape state, c =>
    match state.next c with
    | some (.inl awaited) => .more [] (.escape awaited)
    | some (.inr meant) => .more [meant] .plain
    | none => .fault
  | .folding seenNewline, c => kind.foldStep seenNewline c
  | .foldingCarriage, c => if c = '\n' then .more [] (.folding true) else .fault

def atEnd (kind : LongKind) : LongState → Option (List Char)
  | .quotes count => if 3 ≤ count then some (List.replicate (count - 3) kind.quote) else none
  | _ => none

/-- The rest of a string of several lines after its three opening quotes and a newline, if one
follows them. -/
def rest (kind : LongKind) : Reader (List Char)
  | '\n' :: text => Verdict.readFrom kind.step kind.atEnd .plain text
  | '\r' :: '\n' :: text => Verdict.readFrom kind.step kind.atEnd .plain text
  | text => Verdict.readFrom kind.step kind.atEnd .plain text

end LongKind

def quotation : Reader (List Char)
  | '"' :: '"' :: '"' :: rest => LongKind.basic.rest rest
  | '\'' :: '\'' :: '\'' :: rest => LongKind.literal.rest rest
  | '"' :: rest => basicRest rest
  | '\'' :: rest => literalRest rest
  | _ => none

end DevCluster.Document
