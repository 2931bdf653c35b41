import LineFilter.Text.Basic

/-!
# UTF-8

Text from octets, one octet at a time. Octets that begin a character and do not
go on as one make one fault together, and so does each octet that begins none;
the octet at which a character breaks off begins something new.
-/

namespace LineFilter

abbrev Octets := List UInt8

namespace Utf8

/-- What a reader has seen of a character. -/
inductive State
  | start
  /-- The bits so far, the range of the next octet and the number of octets
  behind it. -/
  | within (bits low high more : Nat)
deriving DecidableEq, Repr

/-- Reads the first octet of a character. -/
def lead (octet : Nat) : List (Option Char) × State :=
  if octet < 0x80 then ([some (Char.ofNat octet)], .start)
  else if octet < 0xC2 then ([none], .start)
  else if octet < 0xE0 then ([], .within (octet - 0xC0) 0x80 0xBF 0)
  else if octet = 0xE0 then ([], .within 0 0xA0 0xBF 1)
  else if octet = 0xED then ([], .within 0xD 0x80 0x9F 1)
  else if octet < 0xF0 then ([], .within (octet - 0xE0) 0x80 0xBF 1)
  else if octet = 0xF0 then ([], .within 0 0x90 0xBF 2)
  else if octet < 0xF4 then ([], .within (octet - 0xF0) 0x80 0xBF 2)
  else if octet = 0xF4 then ([], .within 4 0x80 0x8F 2)
  else ([none], .start)

/-- Reads one octet: the characters and faults that end there, and the state
behind it. -/
def step (state : State) (octet : Nat) : List (Option Char) × State :=
  match state with
  | .start => lead octet
  | .within bits low high more =>
    if low ≤ octet ∧ octet ≤ high then
      let bits := bits * 64 + (octet - 0x80)
      match more with
      | 0 => ([some (Char.ofNat bits)], .start)
      | more + 1 => ([], .within bits 0x80 0xBF more)
    else
      let (found, next) := lead octet
      (none :: found, next)

/-- The fault that is left if no more octets follow. -/
def finish : State → List (Option Char)
  | .start => []
  | .within .. => [none]

/-- The characters that octets spell from a state on, with `none` for a fault. -/
def readFrom : State → Octets → List (Option Char)
  | state, [] => finish state
  | state, octet :: rest =>
    let (found, next) := step state octet.toNat
    found ++ readFrom next rest

/-- The characters that octets spell, with `none` for a fault. -/
def read (octets : Octets) : List (Option Char) := readFrom .start octets

/-- The text that octets spell, if all of them do. -/
def decode? (octets : Octets) : Option Text := (read octets).mapM id

/-- The text that octets spell, with U+FFFD for each fault. -/
def decode (octets : Octets) : Text := (read octets).map (·.getD '\ufffd')

end Utf8

end LineFilter
