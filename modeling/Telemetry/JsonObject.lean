import Telemetry.Decimal.Reading
import Telemetry.Dict

/-!
# Objects from names to numbers

The JSON texts read here are objects whose values are all numbers. A number is read as 64 bits of
significand and a power of ten that is multiplied or divided in afterwards, so its last bits may
differ from those of the nearest float. Digits that the significand cannot take any more only count
as powers of ten.
-/
namespace Telemetry.JsonObject

open Decimal

def skipBlank (cs : List Char) : List Char :=
  cs.dropWhile fun c => c == ' ' || c == '\t' || c == '\n' || c == '\r'

/-- What stands before the closing quote of a string, still escaped, and what comes after it. -/
def untilQuote : List Char → Option (List Char × List Char)
  | [] => none
  | '"' :: rest => some ([], rest)
  | '\\' :: c :: rest => (untilQuote rest).map fun r => ('\\' :: c :: r.1, r.2)
  | c :: rest =>
    if c.toNat < 0x20 then none else (untilQuote rest).map fun r => (c :: r.1, r.2)

/-- A character of a string, or one 16-bit unit written with `\u`. -/
inductive Piece
  | char (c : Char)
  | unit (n : Nat)

def hexValue? (c : Char) : Option Nat :=
  if c.isDigit then some (c.toNat - '0'.toNat)
  else if 'a' ≤ c ∧ c ≤ 'f' then some (c.toNat - 'a'.toNat + 10)
  else if 'A' ≤ c ∧ c ≤ 'F' then some (c.toNat - 'A'.toNat + 10)
  else none

def hexNumber? (cs : List Char) : Option Nat :=
  cs.foldlM (fun n c => (hexValue? c).map (16 * n + ·)) 0

/-- The character that a one-letter escape stands for. -/
def shortEscape? (c : Char) : Option Char :=
  match c with
  | '"' => some '"'
  | '\\' => some '\\'
  | '/' => some '/'
  | 'b' => some '\x08'
  | 'f' => some '\x0c'
  | 'n' => some '\n'
  | 'r' => some '\r'
  | 't' => some '\t'
  | _ => none

def unescape : List Char → Option (List Piece)
  | [] => some []
  | '\\' :: 'u' :: a :: b :: c :: d :: rest => do
    let n ← hexNumber? [a, b, c, d]
    return .unit n :: (← unescape rest)
  | '\\' :: c :: rest => do
    let e ← shortEscape? c
    return .char e :: (← unescape rest)
  | '\\' :: [] => none
  | c :: rest => (unescape rest).map (.char c :: ·)

/-- Joins surrogate pairs; a surrogate without its partner is no character. -/
def join : List Piece → Option (List Char)
  | [] => some []
  | .char c :: rest => (join rest).map (c :: ·)
  | .unit high :: .unit low :: rest =>
    if 0xd800 ≤ high ∧ high < 0xdc00 then
      if 0xdc00 ≤ low ∧ low < 0xe000 then
        (join rest).map (Char.ofNat (0x10000 + (high - 0xd800) * 0x400 + (low - 0xdc00)) :: ·)
      else none
    else if 0xdc00 ≤ high ∧ high < 0xe000 then none
    else (join (.unit low :: rest)).map (Char.ofNat high :: ·)
  | .unit n :: rest =>
    if 0xd800 ≤ n ∧ n < 0xe000 then none else (join rest).map (Char.ofNat n :: ·)

/-- A string after its opening quote. -/
def readString (cs : List Char) : Option (String × List Char) := do
  let (escaped, rest) ← untilQuote cs
  let chars ← join (← unescape escaped)
  return (String.ofList chars, rest)

/-- Takes digits into the significand until one does not fit into 64 bits; gives back the rest. -/
def absorb : Nat → List Char → Nat × List Char
  | n, [] => (n, [])
  | n, c :: rest =>
    if 10 * n + Numeral.digitValue c ≤ Numeral.greatestWord then
      absorb (10 * n + Numeral.digitValue c) rest
    else (n, c :: rest)

def powerOfTen (n : Nat) : Float := Float.ofScientific 1 false n

/-- `x / 10 ^ n`, in steps of `10 ^ 308` as long as something is left. -/
def scaleDown (x : Float) (n : Nat) : Float :=
  if 308 < n then if x == 0 then x else scaleDown (x / powerOfTen 308) (n - 308)
  else x / powerOfTen n
termination_by n
decreasing_by omega

/-- `x * 10 ^ n`, if that is finite. -/
def scaleUp? (x : Float) (n : Nat) : Option Float :=
  if 308 < n then if x == 0 then some x else none
  else
    let y := x * powerOfTen n
    if y.isInf then none else some y

def scale? (significand : Nat) (exponent : Int) : Option Float :=
  let x := Float.ofNat significand
  if exponent < 0 then some (scaleDown x exponent.natAbs) else scaleUp? x exponent.natAbs

/-- Digits of which the first is zero only if it is the only one. -/
def takeWhole? (cs : List Char) : Option (List Char × List Char) :=
  match takeDigits cs with
  | ([], _) => none
  | ('0' :: _ :: _, _) => none
  | r => some r

/-- The digits after a point, at least one where there is a point. -/
def takePlaces? : List Char → Option (List Char × List Char)
  | '.' :: rest =>
    match takeDigits rest with
    | ([], _) => none
    | r => some r
  | cs => some ([], cs)

/-- The exponent, if there is one, and what follows it. -/
def takeExponent? : List Char → Option (Int × List Char)
  | [] => some (0, [])
  | c :: rest =>
    if c = 'e' ∨ c = 'E' then
      let (negative, rest) := takeSign rest
      match takeDigits rest with
      | ([], _) => none
      | (digits, rest) =>
        let e : Int := Numeral.value digits
        some (if negative then -e else e, rest)
    else some (0, c :: rest)

def readNumber (cs : List Char) : Option (Float × List Char) := do
  let (negative, cs) := match cs with
    | '-' :: rest => (true, rest)
    | cs => (false, cs)
  let (whole, cs) ← takeWhole? cs
  let (places, cs) ← takePlaces? cs
  let (e, cs) ← takeExponent? cs
  let (n, unused) := absorb 0 whole
  let (n, unusedPlaces) := absorb n places
  let exponent : Int := e + unused.length - (places.length - unusedPlaces.length : Nat)
  let x ← scale? n exponent
  return (if negative then -x else x, cs)

/-- A name, a colon and a number. -/
def readMember (cs : List Char) : Option ((String × Float) × List Char) := do
  let '"' :: cs := skipBlank cs | none
  let (name, cs) ← readString cs
  let ':' :: cs := skipBlank cs | none
  let (x, cs) ← readNumber (skipBlank cs)
  return ((name, x), cs)

/-- Members separated by commas up to the closing brace, as many as there is fuel. -/
def readMembers : Nat → List Char → Option (List (String × Float) × List Char)
  | 0, _ => none
  | fuel + 1, cs => do
    let (member, cs) ← readMember cs
    match skipBlank cs with
    | '\x7d' :: rest => return ([member], rest)
    | ',' :: rest =>
      let (members, rest) ← readMembers fuel rest
      return (member :: members, rest)
    | _ => none

/-- The members of an object in order, where a name may stand more than once. Each member takes
characters, so the length of the text is fuel enough. -/
def read? (cs : List Char) : Option (List (String × Float)) := do
  let '\x7b' :: rest := skipBlank cs | none
  let (members, rest) ←
    match skipBlank rest with
    | '\x7d' :: rest => some ([], rest)
    | rest => readMembers rest.length rest
  if (skipBlank rest).isEmpty then some members else none

/-- Of several numbers for one name only the last one counts. -/
def numbers? (text : String) : Option (Dict String Float) := (read? text.toList).map .ofList

end Telemetry.JsonObject
