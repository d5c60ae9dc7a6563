/-!
# Whole numbers as text

An unsigned number is one or more decimal digits with an optional plus sign in front. Digits are
read from left to right up to the first fault, which is either a character that is no digit or a
digit that takes the number beyond the limit.
-/
namespace Telemetry

inductive NumeralError
  | empty
  | invalidDigit
  | tooLarge
deriving DecidableEq

def NumeralError.message : NumeralError → String
  | .empty => "cannot parse integer from empty string"
  | .invalidDigit => "invalid digit found in string"
  | .tooLarge => "number too large to fit in target type"

namespace Numeral

/-- The greatest number of 64 bits. -/
def greatestWord : Nat := 18446744073709551615

def digitValue (c : Char) : Nat := c.toNat - '0'.toNat

def readDigits (limit : Nat) : Nat → List Char → Except NumeralError Nat
  | n, [] => .ok n
  | n, c :: rest =>
    if c.isDigit then
      if 10 * n + digitValue c ≤ limit then readDigits limit (10 * n + digitValue c) rest
      else .error .tooLarge
    else .error .invalidDigit

def read (limit : Nat) : List Char → Except NumeralError Nat
  | [] => .error .empty
  | ['+'] => .error .invalidDigit
  | '+' :: rest => readDigits limit 0 rest
  | cs => readDigits limit 0 cs

/-- The number that digits stand for. -/
def value (digits : List Char) : Nat := digits.foldl (fun n c => 10 * n + digitValue c) 0

def write (n : Nat) : List Char := Nat.toDigits 10 n

end Numeral

end Telemetry
