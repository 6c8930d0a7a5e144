import DevCluster.Text.Control
import DevCluster.Text.Utf8

/-!
Texts with parts in several styles. In colours, each part stands between the control functions that
set its style and the one that resets it. Without colours, the text is what is shown of that.
-/

namespace DevCluster.Text

inductive Tone
  | ordinary
  | heading
  /-- What is written as it stands on a command line. -/
  | literal
  | alarm
  | faulty
  | valid
deriving DecidableEq, Repr

def Tone.attributes : Tone → List Nat
  | ordinary => []
  | heading => [1, 4]
  | literal => [1]
  | alarm => [1, 31]
  | faulty => [33]
  | valid => [32]

abbrev Styled := List (Tone × String)

namespace Styled

def ordinary (text : String) : Styled := [(.ordinary, text)]

/-- A control function that sets an attribute, or resets all by the number zero. -/
def attributeCode (number : Nat) : String := s!"\x1b[{number}m"

def codedPart (part : Tone × String) : String :=
  match part.1.attributes with
  | [] => part.2
  | attributes => String.join (attributes.map attributeCode) ++ part.2 ++ attributeCode 0

def coded (text : Styled) : String :=
  String.join (text.map codedPart)

def plain (text : Styled) : String :=
  String.ofList (decodeLossy (withoutControls text.coded))

def octets (text : Styled) (inColours : Bool) : List UInt8 :=
  if inColours then text.coded.toUTF8.toList else streamedWithoutControls text.coded

def length (text : Styled) : Nat :=
  text.foldl (fun length part => length + part.2.length) 0

def joined (between : String) : List Styled → Styled
  | [] => []
  | [text] => text
  | text :: rest => text ++ ordinary between ++ joined between rest

end Styled

end DevCluster.Text
