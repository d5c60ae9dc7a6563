import Telemetry.MetricName
import Mathlib.Data.List.Basic
import Mathlib.Data.List.TakeWhile

/-!
# Topics of metric names

The name of a metric tells what it is about: the part before its first slash is one of a few words or,
for the metrics of nodes, that of the runtime prefix. The names under which a transaction counts as a
whole are told apart in this way, whatever its group and its own name are.
-/
namespace Telemetry

/-- What stands before the first slash of a name, or all of it if there is none. -/
def firstPart (name : String) : String := String.ofList (name.toList.takeWhile (· != '/'))

theorem firstPart_append {a : String} (h : '/' ∈ a.toList) (b : String) :
    firstPart (a ++ b) = firstPart a := by
  have hlength : (a.toList.takeWhile (· != '/')).length ≠ a.toList.length := by
    intro hlength
    have hall := List.takeWhile_eq_self_iff.1 ((List.takeWhile_prefix _).eq_of_length hlength)
    simpa using hall '/' h
  rw [firstPart, firstPart, String.toList_append, List.takeWhile_append, if_neg hlength]

theorem firstPart_append_slash (a : String) : firstPart (a ++ "/") = firstPart a := by
  by_cases h : '/' ∈ a.toList
  · exact firstPart_append h "/"
  · have hall : a.toList.takeWhile (· != '/') = a.toList := by
      rw [List.takeWhile_eq_self_iff]
      intro c hc
      simpa using fun hslash : c = '/' => h (hslash ▸ hc)
    rw [firstPart, firstPart, String.toList_append, List.takeWhile_append, if_pos (by rw [hall]),
      hall]
    simp

theorem slash_mem_append_left {a : String} (h : '/' ∈ a.toList) (b : String) :
    '/' ∈ (a ++ b).toList := by
  rw [String.toList_append]
  exact List.mem_append_left _ h

theorem ne_of_slash {a b : String} (ha : '/' ∈ a.toList) (hb : '/' ∉ b.toList) : a ≠ b := by
  rintro rfl
  exact hb ha

theorem append_ne_of_slash (a : String) {b x : String} (hb : '/' ∉ b.toList)
    (hx : '/' ∈ x.toList) : a ++ b ≠ a ++ x :=
  fun h => ne_of_slash hx hb ((String.append_right_inj a).1 h).symm

namespace MetricName

/-- A name of a known family that consists of a group and a name in the group. -/
structure Regular (n : MetricName) : Prop where
  family : n.family = webFamily ∨ n.family = otherFamily
  slash : '/' ∈ n.unprefixed.toList

variable {n : MetricName}

theorem slash_mem_full (n : MetricName) : '/' ∈ n.full.toList := by
  simp [full]

theorem firstPart_full (hn : n.family = webFamily ∨ n.family = otherFamily) :
    firstPart n.full = n.family := by
  rw [full, firstPart_append (by simp), firstPart_append_slash]
  rcases hn with h | h
  · rw [h]
    decide
  · rw [h]
    decide

/-- The name under which all other transactions count is not the name of one of them. -/
theorem Regular.full_ne_all (hn : n.Regular) : n.full ≠ "OtherTransaction/all" := by
  intro h
  have hfamily : n.family = "OtherTransaction" := by
    rw [← firstPart_full hn.family, h]
    decide
  rw [full, hfamily] at h
  have hne : "OtherTransaction/" ++ "all" ≠ "OtherTransaction/" ++ n.unprefixed :=
    append_ne_of_slash _ (by decide) hn.slash
  exact hne h.symm

/-- The names under which a transaction counts, the last one its own. -/
def durationNames (n : MetricName) : List String :=
  (if n.isWeb then ["WebTransaction", "HttpDispatcher"] else ["OtherTransaction/all"]) ++ [n.full]

/-- The names under which the total time of a transaction counts. -/
def totalTimeNames (n : MetricName) : List String :=
  let all := if n.isWeb then "WebTransactionTotalTime" else "OtherTransactionTotalTime"
  [all, all ++ "/" ++ n.unprefixed]

/-- The names under which the zone of a transaction counts. -/
def apdexNames (n : MetricName) : List String := ["ApdexAll", "Apdex", "Apdex/" ++ n.unprefixed]

/-- The names under which an error of a transaction counts. -/
def errorNames (n : MetricName) : List String :=
  ["Errors/all", if n.isWeb then "Errors/allWeb" else "Errors/allOther", "Errors/" ++ n.full]

/-- The own name of a transaction is none of those that it shares. -/
theorem Regular.full_mem_durationNames (hn : n.Regular) {m : MetricName} :
    n.full ∈ m.durationNames ↔ n.full = m.full := by
  have hweb : n.full ≠ "WebTransaction" := ne_of_slash n.slash_mem_full (by decide)
  have hdispatcher : n.full ≠ "HttpDispatcher" := ne_of_slash n.slash_mem_full (by decide)
  rw [durationNames]
  split <;> simp [hweb, hdispatcher, hn.full_ne_all]

theorem Regular.nodup_durationNames (hn : n.Regular) : n.durationNames.Nodup := by
  have hweb : "WebTransaction" ≠ n.full := (ne_of_slash n.slash_mem_full (by decide)).symm
  have hdispatcher : "HttpDispatcher" ≠ n.full := (ne_of_slash n.slash_mem_full (by decide)).symm
  rw [durationNames]
  split <;> simp [hweb, hdispatcher, hn.full_ne_all.symm]

theorem nodup_totalTimeNames (n : MetricName) : n.totalTimeNames.Nodup := by
  have hweb : "WebTransactionTotalTime" ≠ "WebTransactionTotalTime/" ++ n.unprefixed :=
    (ne_of_slash (slash_mem_append_left (by decide) _) (by decide)).symm
  have hother : "OtherTransactionTotalTime" ≠ "OtherTransactionTotalTime/" ++ n.unprefixed :=
    (ne_of_slash (slash_mem_append_left (by decide) _) (by decide)).symm
  rw [totalTimeNames]
  cases n.isWeb <;> simp [hweb, hother]

theorem nodup_apdexNames (n : MetricName) : n.apdexNames.Nodup := by
  have hslash : '/' ∈ ("Apdex/" ++ n.unprefixed).toList := slash_mem_append_left (by decide) _
  have hall : "ApdexAll" ≠ "Apdex/" ++ n.unprefixed := (ne_of_slash hslash (by decide)).symm
  have happdex : "Apdex" ≠ "Apdex/" ++ n.unprefixed := (ne_of_slash hslash (by decide)).symm
  simp [apdexNames, hall, happdex]

theorem nodup_errorNames (n : MetricName) : n.errorNames.Nodup := by
  have hall : "Errors/all" ≠ "Errors/" ++ n.full :=
    append_ne_of_slash "Errors/" (b := "all") (by decide) n.slash_mem_full
  have hweb : "Errors/allWeb" ≠ "Errors/" ++ n.full :=
    append_ne_of_slash "Errors/" (b := "allWeb") (by decide) n.slash_mem_full
  have hother : "Errors/allOther" ≠ "Errors/" ++ n.full :=
    append_ne_of_slash "Errors/" (b := "allOther") (by decide) n.slash_mem_full
  rw [errorNames]
  cases n.isWeb <;> simp [hall, hweb, hother]

theorem allWeb_mem_errorNames (n : MetricName) :
    "Errors/allWeb" ∈ n.errorNames ↔ n.isWeb = true := by
  have hfull : "Errors/allWeb" ≠ "Errors/" ++ n.full :=
    append_ne_of_slash "Errors/" (b := "allWeb") (by decide) n.slash_mem_full
  rw [errorNames]
  cases n.isWeb <;> simp [hfull]

theorem allOther_mem_errorNames (n : MetricName) :
    "Errors/allOther" ∈ n.errorNames ↔ n.isWeb = false := by
  have hfull : "Errors/allOther" ≠ "Errors/" ++ n.full :=
    append_ne_of_slash "Errors/" (b := "allOther") (by decide) n.slash_mem_full
  rw [errorNames]
  cases n.isWeb <;> simp [hfull]

end MetricName

theorem NamingRules.regular_nameOf (r : NamingRules) (n : TransactionName) :
    (r.nameOf n).Regular := by
  refine ⟨?_, ?_⟩
  · cases h : n.category with
    | web => exact Or.inl (congrArg Category.family h)
    | other => exact Or.inr (congrArg Category.family h)
  · show '/' ∈ (n.group ++ "/" ++ n.name).toList
    simp

namespace Metric

inductive Topic
  | node
  | duration
  | totalTime
  | queueTime
  | apdex
  | errors
  | caller
deriving DecidableEq

namespace Topic

def all : List Topic := [node, duration, totalTime, queueTime, apdex, errors, caller]

/-- The words that names start with, other than those of nodes. -/
def headings : List (String × Topic) :=
  [("WebTransaction", duration), ("OtherTransaction", duration),
    ("WebTransactionTotalTime", totalTime), ("OtherTransactionTotalTime", totalTime),
    ("WebFrontend", queueTime), ("Apdex", apdex), ("Errors", errors), ("ClientApplication", caller)]

/-- The topic of the names that start with the part. -/
def ofPart (part : String) : Topic := (headings.lookup part).getD node

def ofName (name : String) : Topic :=
  if name = "HttpDispatcher" then duration
  else if name = "ApdexAll" then apdex
  else ofPart (firstPart name)

theorem ofName_of_slash {name : String} (h : '/' ∈ name.toList) :
    ofName name = ofPart (firstPart name) := by
  rw [ofName, if_neg (ne_of_slash h (by decide)), if_neg (ne_of_slash h (by decide))]

/-- Everything up to a slash settles the topic. -/
theorem ofName_append {a : String} (h : '/' ∈ a.toList) (b : String) :
    ofName (a ++ b) = ofPart (firstPart a) := by
  rw [ofName_of_slash (slash_mem_append_left h b), firstPart_append h]

end Topic

/-- The first parts of names that are not names of nodes. -/
def reservedParts : List String := Topic.headings.map Prod.fst

example : reservedParts = ["WebTransaction", "OtherTransaction", "WebTransactionTotalTime",
  "OtherTransactionTotalTime", "WebFrontend", "Apdex", "Errors", "ClientApplication"] := rfl

namespace Topic

theorem ofPart_eq_node {part : String} (h : part ∉ reservedParts) : ofPart part = node := by
  have hnone : headings.lookup part = none := by
    rw [List.lookup_eq_none_iff]
    intro e he
    simpa using fun heq : part = e.1 => h (heq ▸ List.mem_map_of_mem he)
  rw [ofPart, hnone]
  rfl

variable {n : MetricName} {x : String}

theorem ofName_full_of_family
    (hn : n.family = MetricName.webFamily ∨ n.family = MetricName.otherFamily) :
    ofName n.full = duration := by
  rw [ofName_of_slash n.slash_mem_full, MetricName.firstPart_full hn]
  rcases hn with h | h
  · rw [h]
    decide
  · rw [h]
    decide

theorem ofName_full (hn : n.Regular) : ofName n.full = duration := ofName_full_of_family hn.family

theorem ofName_durationNames
    (hn : n.family = MetricName.webFamily ∨ n.family = MetricName.otherFamily)
    (hx : x ∈ n.durationNames) : ofName x = duration := by
  rcases List.mem_append.1 hx with hcommon | hfull
  · split at hcommon
    · rcases List.mem_pair.1 hcommon with rfl | rfl <;> decide
    · rw [List.mem_singleton.1 hcommon]
      decide
  · rw [List.mem_singleton.1 hfull]
    exact ofName_full_of_family hn

theorem ofName_totalTimeNames (hx : x ∈ n.totalTimeNames) : ofName x = totalTime := by
  rcases List.mem_pair.1 hx with rfl | rfl
  · cases n.isWeb <;> decide
  · cases n.isWeb
    · exact ofName_append (a := "OtherTransactionTotalTime/") (by decide) _
    · exact ofName_append (a := "WebTransactionTotalTime/") (by decide) _

/-- A name that starts like that of a total time is about total times. -/
theorem ofName_of_totalTime
    (hx : firstPart x ∈ ["WebTransactionTotalTime", "OtherTransactionTotalTime"]) :
    ofName x = totalTime := by
  have hdispatcher : x ≠ "HttpDispatcher" := by
    rintro rfl
    exact absurd hx (by decide)
  have hall : x ≠ "ApdexAll" := by
    rintro rfl
    exact absurd hx (by decide)
  rw [ofName, if_neg hdispatcher, if_neg hall]
  rcases List.mem_pair.1 hx with h | h <;> rw [h] <;> decide

theorem ofName_apdexNames (hx : x ∈ n.apdexNames) : ofName x = apdex := by
  rcases List.mem_cons.1 hx with rfl | hrest
  · decide
  · rcases List.mem_pair.1 hrest with rfl | rfl
    · decide
    · exact ofName_append (a := "Apdex/") (by decide) _

theorem ofName_errorNames (hx : x ∈ n.errorNames) : ofName x = errors := by
  rcases List.mem_cons.1 hx with rfl | hrest
  · decide
  · rcases List.mem_pair.1 hrest with rfl | rfl
    · cases n.isWeb <;> decide
    · exact ofName_append (a := "Errors/") (by decide) _

end Topic

end Metric

end Telemetry
