import Telemetry.Log.Level
import Telemetry.Text.Blank
import Telemetry.Text.Quoted

/-!
# Log lines

A line names its level and the scopes around it, from the outermost on, and ends with the message
and the fields of the event. Line ends inside it are written as they are, so it may take several
rows.
-/
namespace Telemetry.Log

inductive FieldValue
  | int (n : Int)
  | plain (s : String)
  | quoted (s : String)

def FieldValue.text : FieldValue → String
  | int n => toString n
  | plain s => s
  | quoted s => Text.quote s

structure Field where
  name : String
  value : FieldValue

def Field.text (f : Field) : String := f.name ++ "=" ++ f.value.text

structure Scope where
  name : String
  fields : List Field

def Scope.text (s : Scope) : String :=
  let fields := String.intercalate " " (s.fields.map Field.text)
  s.name ++ (if fields.isEmpty then "" else "\x7b" ++ fields ++ "\x7d") ++ ": "

/-- The scope of the work on one transaction. -/
def Scope.reporting (guid : String) : Scope := ⟨"transform", [⟨"guid", .plain guid⟩]⟩

structure Line where
  level : Level
  message : String
  fields : List Field

/-- Controls that a terminal would act on are spelled out in a message. -/
def spellOut (c : Char) : List Char :=
  let n := c.toNat
  if n = 0x1b then "\\x1b".toList
  else if n = 0x07 then "\\x07".toList
  else if n = 0x08 then "\\x08".toList
  else if n = 0x0c then "\\x0c".toList
  else if n = 0x7f then "\\x7f".toList
  else if 0x80 ≤ n ∧ n ≤ 0x9f then Text.codePoint c
  else [c]

def Line.text (scopes : List Scope) (l : Line) : String :=
  "APM_AGENT | " ++ l.level.capitals ++ " | " ++ String.join (scopes.map Scope.text) ++
    String.ofList (l.message.toList.flatMap spellOut) ++
    String.join (l.fields.map fun f => " " ++ f.text)

/-- The rows that a line takes. -/
def Line.rows (scopes : List Scope) (l : Line) : List String :=
  (Text.rows (l.text scopes).toList).map String.ofList

end Telemetry.Log
