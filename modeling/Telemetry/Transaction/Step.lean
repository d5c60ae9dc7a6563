import Telemetry.Duration.Text
import Telemetry.Log.Notice
import Telemetry.Transaction.Basic

/-!
# Working on a transaction

The operations on a transaction, their answers, and the reasons for which one is refused. A refused
operation leaves the transaction as it was. Identifiers of spans are their positions in order of
creation.
-/
namespace Telemetry

inductive SpanError
  | notFound (span : Nat)
  | alreadyEnded (span : Nat)
  | notEnded (span : Nat)
  | cycle (parent child : Nat)
  | transactionCompleted
deriving DecidableEq

def SpanError.message : SpanError → String
  | notFound span => s!"span {span} does not belong to this transaction"
  | alreadyEnded span => s!"span {span} has already ended"
  | notEnded span => s!"span {span} must end before it can be registered as a child"
  | cycle parent child =>
    s!"registering span {child} under span {parent} would create a cycle"
  | transactionCompleted => "transaction has already completed"

inductive ReportError
  | emptyTransaction
  | alreadyCompleted
deriving DecidableEq

def ReportError.message : ReportError → String
  | emptyTransaction => "transaction has no spans to transform"
  | alreadyCompleted => "transaction has already been completed"

/-- What is written into the facts of a transaction. -/
inductive Fact
  | uri (s : String)
  | status (code : Nat)
  | queueTime (d : Duration)
  | referrer (s : String)
  | error (e : NoticedError)
  | tagged (a : Attribute)

def Fact.name : Fact → String
  | uri _ => "uri"
  | status _ => "status code"
  | queueTime _ => "queue time"
  | referrer _ => "referrer cross process id"
  | error _ => "errors"
  | tagged _ => "attributes"

/-- The form in which a log line shows a fact that is given at most once. -/
def Fact.text? : Fact → Option String
  | uri s => some (Text.quote s)
  | status code => some (toString code)
  | queueTime d => some d.text
  | referrer s => some (Text.quote s)
  | error _ | tagged _ => none

namespace Facts

/-- Errors and attributes are collected; every other fact can be given once. -/
def add? (f : Facts) : Fact → Option Facts
  | .uri s => if f.uri.isSome then Option.none else some { f with uri := some s }
  | .status code => if f.status.isSome then Option.none else some { f with status := some code }
  | .queueTime d =>
    if f.queueTime.isSome then Option.none else some { f with queueTime := some d }
  | .referrer s => if f.referrer.isSome then Option.none else some { f with referrer := some s }
  | .error e => some { f with errors := f.errors ++ [e] }
  | .tagged a => some { f with attributes := f.attributes.add a }

end Facts

inductive Operation
  | create (name : String) (kind : SpanKind) (start : Duration)
  | finish (span : Nat) (time : Duration)
  | register (parent child : Nat)
  | tag (span : Nat) (key : String) (a : SpanAttribute)
  | note (fact : Fact)
  | ignore
  | complete (duration : Duration)

inductive Answer
  | created (span : Nat)
  | done
  | noted (accepted : Bool)
  | refused (e : SpanError)
  | completed (s : Snapshot)
  | failed (e : ReportError)

namespace Transaction

/-- The parent of the span with the given identifier. -/
def parentOf (spans : List Span) (i : Nat) : Option Nat := (spans[i]?).bind (·.parent)

/-- Whether the way up along parent links meets `target`, in as many steps as there is fuel. -/
def climbMeets (spans : List Span) (target : Nat) : Nat → Option Nat → Bool
  | _, none => false
  | 0, some _ => true
  | fuel + 1, some i => i == target || climbMeets spans target fuel (parentOf spans i)

/-- Whether `child` is `parent` or one of its ancestors. A way up without circles visits every span
at most once. -/
def closesCycle (spans : List Span) (parent child : Nat) : Bool :=
  climbMeets spans child spans.length (some parent)

def link (spans : List Span) (parent child : Nat) : List Span :=
  (spans.modify child (·.linkTo parent)).modify parent (·.listChild child)

/-- Why a registration is refused. -/
def registerFault (spans : List Span) (parent child : Nat) : Option SpanError :=
  if (spans[parent]?).isNone then some (.notFound parent)
  else match spans[child]? with
    | none => some (.notFound child)
    | some c =>
      if !c.ended then some (.notEnded child)
      else if closesCycle spans parent child then some (.cycle parent child)
      else none

/-- Attaches a finished child. The latest registration wins; leaving an earlier parent is counted,
and repeating the present one changes nothing. -/
def register (t : Transaction) (parent child : Nat) : Except SpanError Transaction :=
  match registerFault t.spans parent child with
  | some e => .error e
  | none =>
    match parentOf t.spans child with
    | none => .ok { t with spans := link t.spans parent child }
    | some earlier =>
      if earlier = parent then .ok t
      else .ok { t with spans := link t.spans parent child, moved := t.moved + 1 }

def finish (t : Transaction) (span : Nat) (time : Duration) : Except SpanError Transaction :=
  match t.spans[span]? with
  | none => .error (.notFound span)
  | some s =>
    if s.ended then .error (.alreadyEnded span)
    else .ok { t with spans := t.spans.modify span (·.finish time) }

def tag (t : Transaction) (span : Nat) (key : String) (a : SpanAttribute) :
    Except SpanError Transaction :=
  match t.spans[span]? with
  | none => .error (.notFound span)
  | some _ => .ok { t with spans := t.spans.modify span (·.tag key a) }

def create (t : Transaction) (name : String) (kind : SpanKind) (start : Duration) : Transaction :=
  { t with spans := t.spans ++ [.unfinished t.spans.length name kind start] }

def snapshot (t : Transaction) (duration : Duration) : Snapshot where
  name := t.name
  guid := t.guid
  startTime := t.startTime
  duration := duration
  spans := t.spans
  facts := t.facts
  ignored := t.ignored
  moved := t.moved

/-- What is left behind once the snapshot has been taken. -/
def close (t : Transaction) : Transaction :=
  { t with spans := [], facts := .none, completed := true }

/-- The transaction after an operation on its spans, or as it was if the operation is refused. -/
def settle (t : Transaction) : Except SpanError Transaction → Transaction × Answer
  | .ok u => (u, .done)
  | .error e => (t, .refused e)

/-- Operations before completion. -/
def stepOpen (t : Transaction) : Operation → Transaction × Answer
  | .create name kind start => (t.create name kind start, .created t.spans.length)
  | .finish span time => t.settle (t.finish span time)
  | .register parent child => t.settle (t.register parent child)
  | .tag span key a => t.settle (t.tag span key a)
  | .note fact =>
    match t.facts.add? fact with
    | some facts => ({ t with facts := facts }, .noted true)
    | none => (t, .noted false)
  | .ignore => ({ t with ignored := true }, .done)
  | .complete duration => (t.close, .completed (t.snapshot duration))

/-- After completion only the mark to ignore can still be set, and nobody sees it any more. -/
def stepClosed (t : Transaction) : Operation → Transaction × Answer
  | .note _ => (t, .noted false)
  | .ignore => ({ t with ignored := true }, .done)
  | .complete _ => (t, .failed .alreadyCompleted)
  | .create .. | .finish .. | .register .. | .tag .. => (t, .refused .transactionCompleted)

def step (t : Transaction) (op : Operation) : Transaction × Answer :=
  if t.completed then t.stepClosed op else t.stepOpen op

/-- The operations in order, each with its answer. -/
def run (t : Transaction) : List Operation → Transaction × List Answer
  | [] => (t, [])
  | op :: ops =>
    let (u, answer) := t.step op
    let (v, answers) := u.run ops
    (v, answer :: answers)

/-- What an operation is worth telling about. -/
def notices (t : Transaction) : Operation → List Notice
  | .register parent child =>
    if t.completed || (registerFault t.spans parent child).isSome then []
    else match parentOf t.spans child with
      | some earlier => if earlier = parent then [] else [.childMoved child parent earlier]
      | none => []
  | .note fact =>
    if t.completed then [.lateWrite fact.name]
    else if (t.facts.add? fact).isSome then []
    else (fact.text?.map (.secondWrite fact.name)).toList
  | _ => []

/-- What the operations of a run are worth telling about, in order. -/
def noticesOfRun (t : Transaction) : List Operation → List Notice
  | [] => []
  | op :: ops => t.notices op ++ (t.step op).1.noticesOfRun ops

end Transaction

end Telemetry
