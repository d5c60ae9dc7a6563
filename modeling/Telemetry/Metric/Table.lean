import Telemetry.Dict
import Telemetry.Metric.Apdex
import Telemetry.Metric.Timing

/-!
# Metric tables

A table has one statistic under each name. What comes in under a known name is merged into it if it
is of the same kind and dropped if it is not.
-/
namespace Telemetry.Metric

inductive Data
  | timing (t : Timing)
  | apdex (a : Apdex)

namespace Data

instance : Inhabited Data := ⟨timing .none⟩

def count : Data → Nat
  | timing t => t.count
  | apdex a => a.total

/-- The kind of the first argument stays. -/
def merge : Data → Data → Data
  | timing a, timing b => timing (a.merge b)
  | apdex a, apdex b => apdex (a.merge b)
  | a, _ => a

def sameKind : Data → Data → Bool
  | timing _, timing _ => true
  | apdex _, apdex _ => true
  | _, _ => false

end Data

abbrev Table := Dict String Data

/-- A statistic that could not be merged, with the one that stays. -/
structure Clash where
  name : String
  kept : Data
  dropped : Data

namespace Table

def empty : Table := Dict.empty

def add (t : Table) (name : String) (d : Data) : Table :=
  t.alter name fun
    | some kept => kept.merge d
    | none => d

def addAll (t : Table) (es : List (String × Data)) : Table := es.foldl (fun t e => t.add e.1 e.2) t

def ofList (es : List (String × Data)) : Table := empty.addAll es

def addTable (t u : Table) : Table := t.addAll u.entries

/-- What `add` drops. -/
def clash? (t : Table) (name : String) (d : Data) : Option Clash :=
  match t.get? name with
  | some kept => if kept.sameKind d then none else some ⟨name, kept, d⟩
  | none => none

/-- What `addAll` drops. -/
def clashes : Table → List (String × Data) → List Clash
  | _, [] => []
  | t, e :: es => (t.clash? e.1 e.2).toList ++ clashes (t.add e.1 e.2) es

/-- The names in the order of their characters. -/
def names (t : Table) : List String := t.keys.mergeSort fun a b => decide (a ≤ b)

theorem get?_add (t : Table) (name x : String) (d : Data) :
    (t.add name d).get? x =
      if x = name then some (match t.get? name with
        | some kept => kept.merge d
        | none => d)
      else t.get? x := Dict.get?_insert t name x _

end Table

end Telemetry.Metric
