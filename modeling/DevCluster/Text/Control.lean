/-!
Control sequences of terminals, which begin with the escape octet. What a terminal shows of a text
are its characters outside of sequences, without control characters other than blanks.
-/

namespace DevCluster.Text

inductive Position
  | ground
  | escape
  /-- Behind the escape octet and octets that ask for one more. -/
  | intermediate
  | parameters
  /-- In a command to the system, which a bell ends. -/
  | command
  /-- In a string that only another sequence or its cancellation ends. -/
  | string
deriving DecidableEq, Repr

/-- The octets that move on within a line or begin a new one. -/
def isBlankOctet (octet : UInt8) : Bool :=
  octet = 0x09 || octet = 0x0A || octet = 0x0C || octet = 0x0D || octet = 0x20

def isContinuation (octet : UInt8) : Bool := 0x80 ≤ octet && octet < 0xC0

/-- Where an octet leads that begins or continues an escape sequence. -/
def Position.afterEscape (octet : UInt8) : Position :=
  if octet < 0x30 then .intermediate
  else if octet = 0x5B then .parameters
  else if octet = 0x5D then .command
  else if octet = 0x50 || octet = 0x58 || octet = 0x5E || octet = 0x5F then .string
  else .ground

def Position.step (position : Position) (octet : UInt8) : Position × Bool :=
  if octet = 0x1B then (.escape, false)
  else if octet = 0x18 || octet = 0x1A then (.ground, false)
  else
    match position with
    | .ground => (.ground, isBlankOctet octet || (0x20 ≤ octet && octet ≠ 0x7F))
    | .command => (if octet = 0x07 then .ground else .command, false)
    | .string => (.string, false)
    | sequence =>
      if octet < 0x20 then (sequence, isBlankOctet octet)
      else if 0x7F ≤ octet then (sequence, false)
      else match sequence with
        | .escape => (.afterEscape octet, false)
        | .intermediate => (if octet < 0x30 then .intermediate else .ground, false)
        | _ => (if octet < 0x40 then .parameters else .ground, false)

/-- The octets of a whole text that are shown. Each octet that is shown ends the sequence it stands
in, and an octet that continues a character is always shown. -/
def shownOctets : Position → List UInt8 → List UInt8
  | _, [] => []
  | position, octet :: rest =>
    let (next, isShown) := position.step octet
    if isShown || isContinuation octet then octet :: shownOctets .ground rest
    else shownOctets next rest

/-- The octets of a stream that are shown. Behind an octet that is shown, octets are shown as if
outside of sequences; the first one that is not continues the sequence that was left. -/
def shownStream : Position → Bool → List UInt8 → List UInt8
  | _, _, [] => []
  | position, running, octet :: rest =>
    let (next, isShown) := position.step octet
    if isShown || (running && (Position.ground.step octet).2) then
      octet :: shownStream (if 0x80 ≤ octet then .ground else position) true rest
    else shownStream next false rest

def withoutControls (text : String) : List UInt8 :=
  shownOctets .ground text.toUTF8.toList

def streamedWithoutControls (text : String) : List UInt8 :=
  shownStream .ground false text.toUTF8.toList

end DevCluster.Text
