import Telemetry.Proofs.Entries
import Telemetry.Report

/-!
# Facts in records

Events take in attributes from outside, but what is known about the transaction goes on top of them and
can always be found. The records of statements all carry the name of the transaction.
-/
namespace Telemetry

open Telemetry.Metric

namespace Event

theorem nodup_transactionFacts (s : Snapshot) (name : MetricName) (totalTime : Duration)
    (zone : Option Zone) (errorReported : Bool) :
    ((transactionFacts s name totalTime zone errorReported).map Prod.fst).Nodup := by
  cases hqueue : s.facts.queueTime <;> cases zone <;> simp [transactionFacts, queueFact, hqueue]

theorem nodup_errorFacts (s : Snapshot) (e : ErrorTrace) :
    ((errorFacts s e).map Prod.fst).Nodup := by
  cases hqueue : s.facts.queueTime <;> simp [errorFacts, queueFact, hqueue]

variable {key : String} {v : Attribute.Value}

/-- No attribute from outside hides what is known about a transaction. -/
theorem get?_ofTransaction {s : Snapshot} {name : MetricName} {totalTime : Duration}
    {zone : Option Zone} {errorReported : Bool}
    (h : (key, v) ∈ transactionFacts s name totalTime zone errorReported) :
    (ofTransaction s name totalTime zone errorReported).intrinsic.get? key = some v :=
  Dict.get?_insertAll_of_mem _ (nodup_transactionFacts ..) h

theorem get?_ofError {s : Snapshot} {e : ErrorTrace} (h : (key, v) ∈ errorFacts s e) :
    (ofError s e).intrinsic.get? key = some v :=
  Dict.get?_insertAll_of_mem _ (nodup_errorFacts s e) h

end Event

namespace SqlTrace

variable {full : String}

theorem transactionName_count {start : SqlTrace} (hstart : start.transactionName = full)
    {ts : List SqlTrace} (hts : ∀ t ∈ ts, t.transactionName = full) :
    ∀ t ∈ count start ts, t.transactionName = full := by
  induction ts with
  | nil => simpa [count] using hstart
  | cons t rest ih =>
    rw [List.forall_mem_cons] at hts
    rw [count]
    split
    · exact List.forall_mem_cons.2 ⟨hts.1, hts.2⟩
    · exact List.forall_mem_cons.2 ⟨hts.1, ih hts.2⟩

theorem transactionName_collect (runtimePrefix : String) (name : MetricName) (uri : Option String)
    (f : Forest) : ∀ t ∈ collect runtimePrefix name uri f, t.transactionName = name.full := by
  rw [collect]
  refine List.foldlRecOn (motive := fun ts => ∀ t ∈ ts, SqlTrace.transactionName t = name.full)
    f.nodes _ (by simp) fun ts hts t _ => ?_
  split
  · exact transactionName_count rfl hts
  · exact hts

end SqlTrace

end Telemetry
