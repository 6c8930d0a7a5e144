import DevCluster.Text.Printable

/-!
Quoted texts: for a debugging display, where hidden characters are written by their codes, and as
JSON strings. Display keeps one line, and so does JSON.
-/

namespace DevCluster.Text

/-- The lowercase hexadecimal digits of a number, at least `width` of them. -/
def hex (width n : Nat) : List Char :=
  let digits := Nat.toDigits 16 n
  List.replicate (width - digits.length) '0' ++ digits

def shownChar (c : Char) : List Char :=
  match c with
  | '\x00' => ['\\', '0']
  | '\t' => ['\\', 't']
  | '\r' => ['\\', 'r']
  | '\n' => ['\\', 'n']
  | '"' => ['\\', '"']
  | '\\' => ['\\', '\\']
  | c => if isPrintable c then [c] else '\\' :: 'u' :: '\x7b' :: hex 1 c.toNat ++ ['\x7d']

def jsonChar (c : Char) : List Char :=
  match c with
  | '"' => ['\\', '"']
  | '\\' => ['\\', '\\']
  | '\x08' => ['\\', 'b']
  | '\x0c' => ['\\', 'f']
  | '\n' => ['\\', 'n']
  | '\r' => ['\\', 'r']
  | '\t' => ['\\', 't']
  | c => if c.toNat < 0x20 then '\\' :: 'u' :: hex 4 c.toNat else [c]

def quotedBy (escape : Char → List Char) (text : String) : String :=
  String.ofList ('"' :: text.toList.flatMap escape ++ ['"'])

end DevCluster.Text

namespace DevCluster

def shown (text : String) : String :=
  Text.quotedBy Text.shownChar text

def jsonText (text : String) : String :=
  Text.quotedBy Text.jsonChar text

end DevCluster
