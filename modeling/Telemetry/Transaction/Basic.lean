import Telemetry.Instant
import Telemetry.Span

/-!
# Transactions

A transaction collects spans, facts that are given at most once, errors and attributes while a
request runs. Completing it yields a `Snapshot` once and for all.
-/
namespace Telemetry

inductive Category
  | web
  | other
deriving DecidableEq

structure TransactionName where
  category : Category
  group : String
  name : String

structure NoticedError where
  errorClass : String
  message : String
  stack : Option (List String)
  time : Instant

/-- What is known about a transaction beside its spans. -/
structure Facts where
  uri : Option String
  status : Option Nat
  queueTime : Option Duration
  referrer : Option String
  errors : List NoticedError
  attributes : Attributes

def Facts.none : Facts := ⟨.none, .none, .none, .none, [], .empty⟩

/-- A finished transaction. -/
structure Snapshot where
  name : TransactionName
  guid : String
  startTime : Instant
  duration : Duration
  spans : List Span
  facts : Facts
  ignored : Bool
  /-- How often a child left one parent for another. -/
  moved : Nat

structure Transaction where
  name : TransactionName
  guid : String
  startTime : Instant
  spans : List Span
  facts : Facts
  ignored : Bool
  completed : Bool
  moved : Nat

namespace Transaction

def start (name : TransactionName) (guid : String) (now : Instant) : Transaction where
  name := name
  guid := guid
  startTime := now
  spans := []
  facts := .none
  ignored := false
  completed := false
  moved := 0

def isWeb (t : Transaction) : Bool := t.name.category == .web

end Transaction

/-- A transaction identifier made from a number: sixteen hexadecimal digits. -/
def guidOfNumber (n : UInt64) : String :=
  let digits := Nat.toDigits 16 n.toNat
  String.ofList (List.replicate (16 - digits.length) '0' ++ digits)

end Telemetry
