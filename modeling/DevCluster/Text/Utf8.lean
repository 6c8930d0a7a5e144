/-!
Octets as UTF-8. One pass cuts octets into characters and faults, where a fault is a maximal run of
octets that begins like a character and cannot be completed, or a single octet that begins none.
-/

namespace DevCluster.Text

/-- A character in the making: its bits so far, the octets it still needs, and the range that the
next of them must lie in. -/
structure Unfinished where
  value : Nat
  missing : Nat
  low : Nat := 0x80
  high : Nat := 0xBF

/-- What an octet begins: a whole character, an unfinished one, or nothing. -/
inductive Opening
  | whole (code : Nat)
  | unfinished (start : Unfinished)
  | invalid

/-- The second octet is restricted after E0, ED, F0 and F4, so that every character has one form. -/
def opening (octet : Nat) : Opening :=
  if octet < 0x80 then .whole octet
  else if octet < 0xC2 then .invalid
  else if octet < 0xE0 then .unfinished { value := octet - 0xC0, missing := 1 }
  else if octet = 0xE0 then .unfinished { value := 0, missing := 2, low := 0xA0 }
  else if octet = 0xED then .unfinished { value := 0xD, missing := 2, high := 0x9F }
  else if octet < 0xF0 then .unfinished { value := octet - 0xE0, missing := 2 }
  else if octet = 0xF0 then .unfinished { value := 0, missing := 3, low := 0x90 }
  else if octet < 0xF4 then .unfinished { value := octet - 0xF0, missing := 3 }
  else if octet = 0xF4 then .unfinished { value := 4, missing := 3, high := 0x8F }
  else .invalid

/-- The characters of a sequence of octets in order, with `none` for each fault. -/
def decodeFrom : Option Unfinished → List UInt8 → List (Option Char)
  | none, [] => []
  | some _, [] => [none]
  | state, octet :: rest =>
    let fresh : Opening → List (Option Char)
      | .whole code => some (Char.ofNat code) :: decodeFrom none rest
      | .unfinished start => decodeFrom (some start) rest
      | .invalid => none :: decodeFrom none rest
    match state with
    | none => fresh (opening octet.toNat)
    | some start =>
      if start.low ≤ octet.toNat && octet.toNat ≤ start.high then
        let value := start.value * 64 + (octet.toNat - 0x80)
        if start.missing ≤ 1 then some (Char.ofNat value) :: decodeFrom none rest
        else decodeFrom (some { value := value, missing := start.missing - 1 }) rest
      else none :: fresh (opening octet.toNat)

def decode? (octets : List UInt8) : Option (List Char) :=
  (decodeFrom none octets).mapM id

/-- The text of the octets, with U+FFFD for each fault. -/
def decodeLossy (octets : List UInt8) : List Char :=
  (decodeFrom none octets).map (·.getD '\uFFFD')

end DevCluster.Text
