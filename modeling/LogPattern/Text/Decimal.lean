import LogPattern.Text.Digit

/-!
# Decimal numbers

A decimal number has digits before and after a point, of which there must be one,
and an exponent if one likes.  It overflows if it rounds to no finite number of 64
bits.
-/

namespace LogPattern

/-- An unsigned decimal number: the digits without the point, times a power of ten. -/
structure Decimal where
  digits : Nat
  exponent : Int
deriving DecidableEq, Repr

namespace Decimal

/-- The least number that rounds to infinity: halfway past the greatest finite one. -/
def infinityBound : Nat := Nat.pow 2 1024 - Nat.pow 2 970

def overflows (decimal : Decimal) : Bool :=
  if decimal.digits = 0 then false
  else
    let magnitude : Int := (Nat.toDigits 10 decimal.digits).length + decimal.exponent
    if magnitude < 309 then false
    else if 310 < magnitude then true
    else if 0 ≤ decimal.exponent then
      infinityBound ≤ decimal.digits * Nat.pow 10 decimal.exponent.toNat
    else infinityBound * Nat.pow 10 (-decimal.exponent).toNat ≤ decimal.digits

/-- The exponent that a text gives: a letter, a sign if one likes, and digits. -/
def exponent? : List Char → Option Int
  | [] => some 0
  | c :: rest =>
      if c = 'e' || c = 'E' then
        match rest with
        | '+' :: digits => (digitsValue? 10 digits).map Int.ofNat
        | '-' :: digits => (digitsValue? 10 digits).map fun value => -(value : Int)
        | digits => (digitsValue? 10 digits).map Int.ofNat
      else none

def ofText? (text : List Char) : Option Decimal :=
  let (whole, rest) := text.span isDecimalDigit
  let (fraction, rest) := match rest with
    | '.' :: rest => rest.span isDecimalDigit
    | rest => ([], rest)
  match digitsValue? 10 (whole ++ fraction), exponent? rest with
  | some digits, some exponent => some ⟨digits, exponent - fraction.length⟩
  | _, _ => none

end Decimal

end LogPattern
