import Telemetry.Proofs.Report.Facts
import Telemetry.Proofs.Report.Selections

/-!
# Facts above attributes

An event shows what is known about its transaction whatever attributes the transaction has, also where
they use the same keys. Everything else in the event is what the attributes select for it, and nothing
else is there.
-/
namespace Telemetry

open Telemetry.Metric

/-- The same transaction with other attributes. -/
def Snapshot.carrying (s : Snapshot) (as : Attributes) : Snapshot :=
  { s with facts := { s.facts with attributes := as } }

namespace Event

/-- The facts stand in the event that is made with any attributes, and everything under other keys is
selected from these. -/
structure FactsPrevail (make : Attributes → Event) (d : Destination)
    (facts : List (String × Attribute.Value)) : Prop where
  known : ∀ as, ∀ fact ∈ facts, (make as).intrinsic.get? fact.1 = some fact.2
  others : ∀ as key, key ∉ facts.map Prod.fst →
    (make as).intrinsic.get? key = as.latest? (.only d) .intrinsic key
  agent : ∀ as key, (make as).agent.get? key = as.latest? (.only d) .agent key
  user : ∀ as key, (make as).user.get? key = as.latest? (.only d) .user key

theorem factsPrevail_withFacts (d : Destination) {facts : List (String × Attribute.Value)}
    (hnodup : (facts.map Prod.fst).Nodup) :
    FactsPrevail (fun as => withFacts (as.routed (.only d)) facts) d facts where
  known _ _ hfact := Dict.get?_insertAll_of_mem _ hnodup hfact
  others as key hkey := by
    rw [← Attributes.get?_routed]
    exact Dict.get?_insertAll_of_notMem _ hkey
  agent as key := Attributes.get?_routed as _ .agent key
  user as key := Attributes.get?_routed as _ .user key

/-- No attribute changes what is known about a transaction or its error; the key of the queue time and
that of the zone are only taken if there is one. -/
theorem own_facts_prevail (s : Snapshot) (name : MetricName) (totalTime : Duration)
    (zone : Option Zone) (errorReported : Bool) (t : ErrorTrace) :
    FactsPrevail (fun as => ofTransaction (s.carrying as) name totalTime zone errorReported)
      .transactionEvent
      ([("type", .text "Transaction"), ("name", .text name.full),
        ("timestamp", .float s.startTime.unixSeconds), ("duration", .float s.duration.inSeconds),
        ("totalTime", .float totalTime.inSeconds), ("guid", .text s.guid),
        ("error", .bool errorReported)] ++
        (s.facts.queueTime.map fun q => ("queueDuration", .float q.inSeconds)).toList ++
        (zone.map fun z => ("apdexPerfZone", .text z.letter)).toList) ∧
    FactsPrevail (fun as => ofError (s.carrying as) t) .errorEvent
      ([("type", .text "TransactionError"), ("error.class", .text t.errorClass),
        ("error.message", .text t.message), ("timestamp", .float t.time.unixSeconds),
        ("transactionName", .text t.path), ("duration", .float s.duration.inSeconds),
        ("transactionGuid", .text s.guid)] ++
        (s.facts.queueTime.map fun q => ("queueDuration", .float q.inSeconds)).toList) :=
  ⟨factsPrevail_withFacts .transactionEvent
      (nodup_transactionFacts s name totalTime zone errorReported),
    factsPrevail_withFacts .errorEvent (nodup_errorFacts s t)⟩

/-- The key of the queue time is free here, that of the error is not. -/
example :
    let as : Attributes := ⟨[⟨.intrinsic, "error", .bool false, .only .transactionEvent⟩,
      ⟨.intrinsic, "queueDuration", .int 5, .only .transactionEvent⟩,
      ⟨.intrinsic, "queueDuration", .int 7, .only .errorEvent⟩]⟩
    let s : Snapshot := ⟨⟨.web, "Uri", "users"⟩, "guid", .epoch, 0, [], .none, false, 0⟩
    let e := ofTransaction (s.carrying as) ⟨"WebTransaction", "Uri/users", false⟩ 0 none true
    e.intrinsic.get? "error" = some (.bool true) ∧
      e.intrinsic.get? "queueDuration" = some (.int 5) := ⟨rfl, rfl⟩

end Event

end Telemetry
