import LineFilter.Number.Decimal
import LineFilter.Number.Integer

/-!
# Decimal literals

A decimal is written plainly (`-12.50`) or with an exponent (`1.25e-1`); a `_`
may stand anywhere and means nothing. `nearest` reads such a text to the digits
that a decimal has room for and rounds the next one. `read` takes that number
only if nothing was lost: its significant digits have to be those of the text.
-/

namespace LineFilter

inductive DecimalError
  | empty
  | noDigits
  | twoPoints
  | unknownCharacter
  /-- The whole part does not fit. -/
  | tooManyDigits
  /-- Rounding the fraction away leaves a whole part that does not fit. -/
  | overflowAfterRounding
  /-- The text after `e` is no exponent. -/
  | badExponent
  /-- The exponent asks for a longer fraction than a decimal has. -/
  | scaleTooLarge (scale : Nat)
  /-- The exponent makes a number that does not fit. -/
  | tooLarge
  /-- Digits were lost. -/
  | tooPrecise
deriving DecidableEq, Repr

def DecimalError.message : DecimalError → Text
  | .empty => "Invalid decimal: empty".toList
  | .noDigits => "Invalid decimal: no digits found".toList
  | .twoPoints => "Invalid decimal: two decimal points".toList
  | .unknownCharacter => "Invalid decimal: unknown character".toList
  | .tooManyDigits => "Invalid decimal: overflow from too many digits".toList
  | .overflowAfterRounding => "Invalid decimal: overflow from mantissa after rounding".toList
  | .badExponent => "Failed to parse".toList
  | .scaleTooLarge scale =>
    "Scale exceeds the maximum precision allowed: ".toList ++ Text.ofNat scale ++ " > ".toList ++
      Text.ofNat Decimal.maxScale
  | .tooLarge => "Number exceeds maximum value that can be represented.".toList
  | .tooPrecise => "Number has a high precision that can not be represented.".toList

namespace DecimalLiteral

open Decimal (maxScale mantissaBound)

/-- What has been read of a number without its sign. -/
structure Reading where
  mantissa : Nat
  scale : Nat
  pointed : Bool
  hasDigit : Bool
deriving DecidableEq, Repr

/-- Mantissa and scale once there is no room for the character `c`: a digit
rounds half up, and all that follows it is left unread. -/
def Reading.round (r : Reading) (c : Char) : Except DecimalError (Nat × Nat) :=
  match Digits.worthIn? 10 c with
  | none => if c = '.' then .ok (r.mantissa, r.scale) else .error .unknownCharacter
  | some d =>
    if d < 5 then .ok (r.mantissa, r.scale)
    else if r.mantissa + 1 < mantissaBound then .ok (r.mantissa + 1, r.scale)
    else if r.scale = 0 then .error .overflowAfterRounding
    else .ok ((r.mantissa + 5) / 10, r.scale - 1)

/-- Mantissa and scale of the digits to the end of the text. -/
def Reading.finish (r : Reading) : Text → Except DecimalError (Nat × Nat)
  | [] => if r.hasDigit then .ok (r.mantissa, r.scale) else .error .noDigits
  | c :: cs =>
    if r.scale = maxScale then r.round c
    else
      match Digits.worthIn? 10 c with
      | some d =>
        let mantissa := r.mantissa * 10 + d
        if mantissa < mantissaBound then
          let scale := if r.pointed then r.scale + 1 else r.scale
          finish ⟨mantissa, scale, r.pointed, true⟩ cs
        else if r.pointed then r.round c
        else .error .tooManyDigits
      | none =>
        if c ≠ '.' then .error .unknownCharacter
        else if r.pointed then .error .twoPoints
        else finish { r with pointed := true } cs

/-- Reads a number without an exponent. -/
def plain (text : Text) : Except DecimalError Decimal :=
  if text = [] then .error .empty
  else
    let (negative, unsigned) := IntegerLiteral.splitSign text
    (Reading.finish ⟨0, 0, false, false⟩ unsigned).map fun (mantissa, scale) =>
      ⟨if negative then -mantissa else mantissa, scale⟩

/-- A number of 32 bits, behind `+` or no sign. -/
def exponent? (text : Text) : Option Nat :=
  let digits := match text with
    | '+' :: ds => ds
    | ds => ds
  (Digits.read? 10 digits).filter (· < 4294967296)

/-- The magnitude with fewer digits of fraction, half a unit going up. -/
def dropScale (digits n : Nat) : Nat :=
  if digits = 0 then n else (n / Nat.pow 10 (digits - 1) + 5) / 10

/-- The number over a further power of ten, in what scale there is. -/
def lower (d : Decimal) (exponent : Nat) : Except DecimalError Decimal :=
  if maxScale < exponent then .error (.scaleTooLarge exponent)
  else if d.scale + exponent ≤ maxScale then .ok ⟨d.mantissa, d.scale + exponent⟩
  else
    let excess := d.scale + exponent - maxScale
    .ok ⟨d.mantissa.sign * dropScale excess d.mantissa.natAbs, maxScale⟩

/-- The number times a power of ten. -/
def raise (d : Decimal) (exponent : Nat) : Except DecimalError Decimal :=
  if exponent ≤ d.scale then .ok ⟨d.mantissa, d.scale - exponent⟩
  else if maxScale < exponent then .error (.scaleTooLarge exponent)
  else
    let mantissa := d.mantissa * Nat.pow 10 (exponent - d.scale)
    if mantissa.natAbs < mantissaBound then .ok ⟨mantissa, 0⟩ else .error .tooLarge

/-- Whether a character sets off an exponent. -/
def marksExponent (c : Char) : Bool := c = 'e' || c = 'E'

/-- Reads a number to the digits that a decimal has room for. -/
def nearest (text : Text) : Except DecimalError Decimal :=
  match text.dropWhile (!marksExponent ·) with
  | [] => plain text
  | _ :: exponent => do
    let d ← plain (text.takeWhile (!marksExponent ·))
    match exponent with
    | '-' :: digits =>
      match exponent? digits with
      | none => .error .badExponent
      | some n => lower d n
    | digits =>
      match exponent? digits with
      | none => .error .badExponent
      | some n => raise d n

/-- The digits before any exponent, without the zeros at either end. -/
def significant (text : Text) : Text :=
  let digits := (text.takeWhile (!marksExponent ·)).filter Text.isDigit
  ((digits.dropWhile (· = '0')).reverse.dropWhile (· = '0')).reverse

/-- Reads a decimal exactly. -/
def read (text : Text) : Except DecimalError Decimal := do
  let cleaned := IntegerLiteral.withoutSeparators text
  let d ← nearest cleaned
  if significant cleaned = significant (Text.ofNat d.mantissa.natAbs) then return d
  else .error .tooPrecise

end DecimalLiteral

end LineFilter
