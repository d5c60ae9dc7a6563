import Telemetry.Text.CaseTable

/-!
# Lower case

Every character has a lower-case form of its own, with two exceptions: the dotted capital I becomes
two characters, and a capital sigma becomes a final sigma at the end of its word.
-/
namespace Telemetry.Text

def capitalSigma : Char := 'Σ'

/-- The lower-case form of a character where its context does not matter. -/
def lowerOf (c : Char) : List Char :=
  if c.toNat = 0x130 then ['i', Char.ofNat 0x307]
  else match lowerRuns.find? (·.contains c.toNat) with
    | some r => [Char.ofNat (c.toNat + r.shift).toNat]
    | none => [c]

/-- Whether the first character that is not case-ignorable is a cased letter. -/
def meetsLetter (cs : List Char) : Bool :=
  match cs.dropWhile caseIgnorable.contains with
  | c :: _ => cased.contains c
  | [] => false

/-- A sigma is final if a letter comes before it and none after it; `before` is reversed. -/
def sigma (before rest : List Char) : Char :=
  if meetsLetter before && !meetsLetter rest then 'ς' else 'σ'

def lowercaseFrom (before : List Char) : List Char → List Char
  | [] => []
  | c :: rest =>
    (if c = capitalSigma then [sigma before rest] else lowerOf c) ++
      lowercaseFrom (c :: before) rest

def lowercase (cs : List Char) : List Char := lowercaseFrom [] cs

end Telemetry.Text
