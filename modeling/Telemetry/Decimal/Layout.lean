import Telemetry.Decimal.Shortest

/-!
# Floats as text

The shortest digits of a float can be laid out positionally or with an exponent. A `Layout` says
which exponents are written positionally and whether a whole number keeps its `.0`.
-/
namespace Telemetry.Decimal

/-- How digits are laid out: positionally where the first digit stands at an exponent from
`leastExponent` to below `exponentFrom`, if these limits are given. -/
structure Layout where
  limits : Option (Int × Int)
  keepPointZero : Bool

/-- Attribute values are always positional and whole numbers have no point. -/
def Layout.attribute : Layout := ⟨none, false⟩

/-- Diagnostic values have at least one place, and an exponent from 10^16 on and below 10^-4. -/
def Layout.diagnostic : Layout := ⟨some (-4, 16), true⟩

def zeros (n : Nat) : List Char := List.replicate n '0'

/-- Digits with the decimal point where `exponent` puts it. -/
def positional (keepPointZero : Bool) (d : Digits) : List Char :=
  let cs := Nat.toDigits 10 d.digits
  let whole := if keepPointZero then ['.', '0'] else []
  if 0 ≤ d.exponent then cs ++ zeros d.exponent.toNat ++ whole
  else
    let places := (-d.exponent).toNat
    if places < cs.length then
      cs.take (cs.length - places) ++ '.' :: cs.drop (cs.length - places)
    else '0' :: '.' :: zeros (places - cs.length) ++ cs

/-- One digit before the point, and the exponent after an `e`. -/
def exponential (d : Digits) : List Char :=
  let cs := Nat.toDigits 10 d.digits
  let e : Int := d.exponent + cs.length - 1
  let mantissa := match cs with
    | [] => []
    | [c] => [c]
    | c :: rest => c :: '.' :: rest
  mantissa ++ 'e' :: (toString e).toList

def Layout.write (l : Layout) (d : Digits) : List Char :=
  let lead : Int := d.exponent + (Nat.toDigits 10 d.digits).length - 1
  match l.limits with
  | some (least, tooGreat) =>
    if d.digits = 0 ∨ (least ≤ lead ∧ lead < tooGreat) then positional l.keepPointZero d
    else exponential d
  | none => positional l.keepPointZero d

def signed (negative : Bool) (cs : List Char) : String :=
  String.ofList (if negative then '-' :: cs else cs)

def Layout.text (l : Layout) : Binary → String
  | .nan => "NaN"
  | .infinite negative => signed negative "inf".toList
  | .finite negative units exponent =>
    signed negative (l.write (if units = 0 then ⟨0, 0⟩ else shortest units exponent))

def Layout.floatText (l : Layout) (x : Float) : String := l.text (Binary.ofFloat x)

end Telemetry.Decimal
