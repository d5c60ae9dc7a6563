import Telemetry.Numeral

/-!
# Reading floats

A float literal is a sign, digits with an optional point among or around them, and an optional
exponent; or one of the words `inf`, `infinity` and `nan` in any case. The result is the float
nearest to the number written.
-/
namespace Telemetry.Decimal

inductive LiteralError
  | empty
  | invalid
deriving DecidableEq

def LiteralError.message : LiteralError → String
  | .empty => "cannot parse float from empty string"
  | .invalid => "invalid float literal"

def infinity : Float := Float.ofBits 0x7ff0000000000000

def notANumber : Float := Float.ofBits 0x7ff8000000000000

/-- The float nearest to `significand * 10 ^ exponent`, where the significand has `count` digits, the
first of which is not zero. Beyond 10^400 and below 10^-400 the answer is known without the power of
ten. -/
def nearest (significand count : Nat) (exponent : Int) : Float :=
  if significand = 0 then 0
  else if 400 < exponent + count then infinity
  else if exponent + count < -400 then 0
  else Float.ofScientific significand (exponent < 0) exponent.natAbs

/-- A sign and what follows it. -/
def takeSign : List Char → Bool × List Char
  | '-' :: rest => (true, rest)
  | '+' :: rest => (false, rest)
  | cs => (false, cs)

/-- Digits and what follows them. -/
def takeDigits (cs : List Char) : List Char × List Char :=
  (cs.takeWhile Char.isDigit, cs.dropWhile Char.isDigit)

/-- The digits after a point, if there is one. -/
def takeFraction : List Char → List Char × List Char
  | '.' :: rest => takeDigits rest
  | cs => ([], cs)

/-- The exponent that ends a literal; zero where nothing is left. -/
def readExponent? : List Char → Option Int
  | [] => some 0
  | c :: rest =>
    if c = 'e' ∨ c = 'E' then
      let (negative, digits) := takeSign rest
      if digits.isEmpty || !digits.all Char.isDigit then none
      else some (if negative then -(Numeral.value digits : Int) else Numeral.value digits)
    else none

def readNumber? (cs : List Char) : Option Float :=
  let (whole, rest) := takeDigits cs
  let (fraction, rest) := takeFraction rest
  let digits := whole ++ fraction
  let significant := digits.dropWhile (· == '0')
  if digits.isEmpty then none
  else (readExponent? rest).map fun e =>
    nearest (Numeral.value significant) significant.length (e - fraction.length)

def readUnsigned? (cs : List Char) : Option Float :=
  let word := String.ofList (cs.map Char.toLower)
  if word = "inf" ∨ word = "infinity" then some infinity
  else if word = "nan" then some notANumber
  else readNumber? cs

def readFloat (cs : List Char) : Except LiteralError Float :=
  if cs.isEmpty then .error .empty
  else
    let (negative, rest) := takeSign cs
    match readUnsigned? rest with
    | some x => .ok (if negative then -x else x)
    | none => .error .invalid

end Telemetry.Decimal
