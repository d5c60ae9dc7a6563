import Telemetry.Decimal.Layout
import Telemetry.Dict

/-!
# Attributes

An attribute is a key with a value, the class it belongs to and the records it may be copied into.
For one set of records, the attributes that may reach any of them are gathered by class, where a
later value for a key replaces an earlier one.
-/
namespace Telemetry

inductive Attribute.Value
  | text (s : String)
  | int (n : Int)
  | float (x : Float)
  | bool (b : Bool)

namespace Attribute.Value

instance : Inhabited Value := ⟨bool false⟩

def asText? : Value → Option String
  | text s => some s
  | _ => none

/-- A text stands for itself, and floats never have an exponent. -/
def display : Value → String
  | text s => s
  | int n => toString n
  | float x => Decimal.Layout.attribute.floatText x
  | bool b => if b then "true" else "false"

end Attribute.Value

/-- A kind of record that attributes are copied into. -/
inductive Destination
  | transactionTrace
  | transactionEvent
  | errorTrace
  | javascriptAgent
  | errorEvent
deriving DecidableEq

namespace Destination

def all : List Destination :=
  [transactionTrace, transactionEvent, errorTrace, javascriptAgent, errorEvent]

theorem mem_all (d : Destination) : d ∈ all := by cases d <;> decide

/-- The place of the destination in a bit mask. -/
def bit : Destination → Nat
  | transactionTrace => 0
  | transactionEvent => 1
  | errorTrace => 2
  | javascriptAgent => 3
  | errorEvent => 4

end Destination

/-- A set of destinations. -/
structure Destinations where
  contains : Destination → Bool

namespace Destinations

def none : Destinations := ⟨fun _ => false⟩

def only (d : Destination) : Destinations := ⟨fun e => e == d⟩

def union (a b : Destinations) : Destinations := ⟨fun d => a.contains d || b.contains d⟩

def meets (a b : Destinations) : Bool := Destination.all.any fun d => a.contains d && b.contains d

/-- Bits that belong to no destination do not count. -/
def ofMask (mask : Nat) : Destinations := ⟨fun d => mask.testBit d.bit⟩

def toMask (a : Destinations) : Nat :=
  (Destination.all.map fun d => if a.contains d then Nat.pow 2 d.bit else 0).foldr (· + ·) 0

theorem meets_iff {a b : Destinations} :
    a.meets b = true ↔ ∃ d, a.contains d = true ∧ b.contains d = true := by
  simp [meets, Destination.mem_all]

theorem meets_only {a : Destinations} {d : Destination} : a.meets (only d) = a.contains d := by
  rw [Bool.eq_iff_iff, meets_iff]
  simp [only]

end Destinations

inductive Attribute.Class
  | agent
  | user
  | intrinsic
deriving DecidableEq

structure Attribute where
  classified : Attribute.Class
  key : String
  value : Attribute.Value
  destinations : Destinations

/-- The attributes of one record. -/
structure AttributeSet where
  agent : Dict String Attribute.Value
  user : Dict String Attribute.Value
  intrinsic : Dict String Attribute.Value

namespace AttributeSet

def empty : AttributeSet := ⟨.empty, .empty, .empty⟩

def isEmpty (s : AttributeSet) : Bool := s.agent.isEmpty && s.user.isEmpty && s.intrinsic.isEmpty

def part (s : AttributeSet) : Attribute.Class → Dict String Attribute.Value
  | .agent => s.agent
  | .user => s.user
  | .intrinsic => s.intrinsic

def insert (s : AttributeSet) (a : Attribute) : AttributeSet :=
  match a.classified with
  | .agent => { s with agent := s.agent.insert a.key a.value }
  | .user => { s with user := s.user.insert a.key a.value }
  | .intrinsic => { s with intrinsic := s.intrinsic.insert a.key a.value }

theorem part_empty (c : Attribute.Class) : empty.part c = .empty := by cases c <;> rfl

theorem part_insert (s : AttributeSet) (a : Attribute) (c : Attribute.Class) :
    (s.insert a).part c =
      if a.classified = c then (s.part c).insert a.key a.value else s.part c := by
  obtain ⟨k, key, value, destinations⟩ := a
  cases k <;> cases c <;> rfl

end AttributeSet

/-- Attributes in the order in which they were added. -/
structure Attributes where
  entries : List Attribute

namespace Attributes

def empty : Attributes := ⟨[]⟩

def add (as : Attributes) (a : Attribute) : Attributes := ⟨as.entries ++ [a]⟩

def extend (as bs : Attributes) : Attributes := ⟨as.entries ++ bs.entries⟩

def ofList (l : List Attribute) : Attributes := l.foldl add empty

def size (as : Attributes) : Nat := as.entries.length

/-- The attributes that may reach one of the destinations. -/
def routed (as : Attributes) (wanted : Destinations) : AttributeSet :=
  (as.entries.filter (·.destinations.meets wanted)).foldl AttributeSet.insert .empty

end Attributes

end Telemetry
