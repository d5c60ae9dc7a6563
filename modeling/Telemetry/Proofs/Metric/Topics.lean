import Telemetry.Metric.Contribution
import Telemetry.Proofs.Metric.Names

/-!
# Contributions by topic

A transaction makes its contributions topic by topic. As long as the runtime prefix keeps away from the
words that other names start with, contributions of different topics never meet under one name; and
but for the nodes, contributions of one topic all have the same data under names of their own.
-/
namespace Telemetry.Metric

/-- Whether data may stand under a name of the topic. -/
def Topic.suits (topic : Topic) : Data → Bool
  | .timing _ => decide (topic ≠ .apdex)
  | .apdex _ => decide (topic = .apdex)

/-- The topic that names of contributions tell, which for nodes the runtime prefix settles. -/
def Topic.told (runtimePrefix : String) : Topic → Topic
  | .node => .ofPart (firstPart runtimePrefix)
  | topic => topic

theorem Topic.told_eq {runtimePrefix : String} (hfirst : firstPart runtimePrefix ∉ reservedParts)
    (topic : Topic) : topic.told runtimePrefix = topic := by
  cases topic with
  | node => exact ofPart_eq_node hfirst
  | _ => rfl

theorem Topic.mem_headings {part : String} {topic : Topic} (h : ofPart part = topic)
    (htopic : topic ≠ .node) : (part, topic) ∈ headings := by
  rw [ofPart] at h
  cases hlookup : headings.lookup part with
  | none =>
    rw [hlookup] at h
    exact absurd h.symm htopic
  | some found =>
    rw [hlookup] at h
    obtain ⟨before, after, heq, _⟩ := List.lookup_eq_some_iff.1 hlookup
    rw [heq, ← h]
    exact List.mem_append_right _ List.mem_cons_self

/-- No contributions of another topic have names of this one. -/
def Topic.Alone (runtimePrefix : String) (topic : Topic) : Prop :=
  ∀ other : Topic, other.told runtimePrefix = topic → other = topic

theorem Topic.alone_of_reserved {runtimePrefix : String}
    (hfirst : firstPart runtimePrefix ∉ reservedParts) (topic : Topic) :
    topic.Alone runtimePrefix := fun other hother => (other.told_eq hfirst).symm.trans hother

/-- Only a runtime prefix that starts with a heading of the topic gives its names to nodes. -/
theorem Topic.alone_of_heading {runtimePrefix : String} {topic : Topic} (htopic : topic ≠ .node)
    (hfirst : (firstPart runtimePrefix, topic) ∉ headings) : topic.Alone runtimePrefix := by
  intro other hother
  cases other with
  | node => exact absurd (mem_headings hother htopic) hfirst
  | _ => exact hother

namespace Contribution

/-- The contributions of one topic. -/
def part (runtimePrefix : String) (f : Forest) (c : Context) : Topic → List Contribution
  | .node => ofNodes runtimePrefix f
  | .duration => ofDuration c
  | .totalTime => ofTotalTime c f
  | .queueTime => ofQueueTime c
  | .apdex => ofApdex c
  | .errors => ofErrors c
  | .caller => ofReferrer c

theorem names_ofDuration (c : Context) : (ofDuration c).map (·.name) = c.name.durationNames := by
  unfold ofDuration MetricName.durationNames
  split <;> rfl

theorem names_ofTotalTime (c : Context) (f : Forest) :
    (ofTotalTime c f).map (·.name) = c.name.totalTimeNames := rfl

theorem names_ofApdex (c : Context) :
    (ofApdex c).map (·.name) = if c.target.isSome then c.name.apdexNames else [] := by
  unfold ofApdex
  split <;> simp_all [common, MetricName.apdexNames]

theorem names_ofErrors (c : Context) :
    (ofErrors c).map (·.name) = if c.errorReported then c.name.errorNames else [] := by
  unfold ofErrors
  split <;> rfl

theorem data_ofDuration (c : Context) :
    ∀ k ∈ ofDuration c, k.data = .timing (.once c.duration c.duration) := by
  unfold ofDuration
  split <;> simp [common, within]

theorem data_ofTotalTime (c : Context) (f : Forest) :
    ∀ k ∈ ofTotalTime c f, k.data = .timing (.once f.totalExclusive f.totalExclusive) := by
  simp [ofTotalTime, common]

theorem data_ofApdex {c : Context} {target : Duration} (h : c.target = some target) :
    ∀ k ∈ ofApdex c,
      k.data = .apdex (.once (.classify c.duration target c.errorReported) target) := by
  simp [ofApdex, h, common]

theorem data_ofErrors (c : Context) : ∀ k ∈ ofErrors c, k.data = .timing (.calls 1) := by
  unfold ofErrors
  split <;> simp [common]

variable {runtimePrefix : String} {f : Forest} {c : Context} {topic : Topic}

theorem all_eq_flatMap : all runtimePrefix f c = Topic.all.flatMap (part runtimePrefix f c) := by
  simp [all, Topic.all, part]

theorem ofName_nodeName (runtimePrefix spanName : String) :
    Topic.ofName (nodeName runtimePrefix spanName) = .ofPart (firstPart runtimePrefix) := by
  rw [nodeName, Topic.ofName_append (by simp), firstPart_append_slash]

theorem topic_nodeName (hfirst : firstPart runtimePrefix ∉ reservedParts) (spanName : String) :
    Topic.ofName (nodeName runtimePrefix spanName) = .node := by
  rw [ofName_nodeName, Topic.ofPart_eq_node hfirst]

theorem told_of_mem
    (hname : c.name.family = MetricName.webFamily ∨ c.name.family = MetricName.otherFamily)
    {k : Contribution} (hk : k ∈ part runtimePrefix f c topic) :
    Topic.ofName k.name = topic.told runtimePrefix := by
  have hmem := List.mem_map_of_mem (f := Contribution.name) hk
  cases topic with
  | node =>
    obtain ⟨t, _, rfl⟩ := List.mem_map.1 hk
    exact ofName_nodeName runtimePrefix t.label.name
  | duration =>
    rw [part, names_ofDuration] at hmem
    exact Topic.ofName_durationNames hname hmem
  | totalTime => exact Topic.ofName_totalTimeNames hmem
  | queueTime =>
    obtain ⟨q, _, rfl⟩ := Option.map_eq_some_iff.1 (Option.mem_toList.1 hk)
    show Topic.ofName "WebFrontend/QueueTime" = .queueTime
    decide
  | apdex =>
    rw [part, names_ofApdex] at hmem
    split at hmem
    · exact Topic.ofName_apdexNames hmem
    · cases hmem
  | errors =>
    rw [part, names_ofErrors] at hmem
    split at hmem
    · exact Topic.ofName_errorNames hmem
    · cases hmem
  | caller =>
    obtain ⟨r, _, rfl⟩ := Option.map_eq_some_iff.1 (Option.mem_toList.1 hk)
    show Topic.ofName ("ClientApplication/" ++ r ++ "/all") = _
    rw [String.append_assoc]
    exact Topic.ofName_append (a := "ClientApplication/") (by decide) _

theorem topic_of_mem (hfirst : firstPart runtimePrefix ∉ reservedParts)
    (hname : c.name.family = MetricName.webFamily ∨ c.name.family = MetricName.otherFamily)
    {k : Contribution} (hk : k ∈ part runtimePrefix f c topic) :
    Topic.ofName k.name = topic := by rw [told_of_mem hname hk, Topic.told_eq hfirst]

/-- The data that contributions of a topic have. -/
inductive Has (c : Context) : Topic → Data → Prop
  | once {topic : Topic} (htopic : topic ≠ .apdex) {total exclusive : Duration}
      (h : exclusive ≤ total) : Has c topic (.timing (.once total exclusive))
  | calls : Has c .errors (.timing (.calls 1))
  | zone {target : Duration} (h : c.target = some target) :
      Has c .apdex (.apdex (.once (.classify c.duration target c.errorReported) target))

theorem Has.suits {d : Data} (h : Has c topic d) : topic.suits d = true := by
  cases h with
  | once htopic _ => exact decide_eq_true htopic
  | calls | zone => rfl

/-- Children may take longer than their parent, but no time is taken off that is not there. -/
theorem exclusive_le_inclusive (t : Tree Span) : t.exclusive ≤ t.inclusive :=
  (Duration.le_iff _ _).2 (Nat.sub_le _ _)

theorem has_of_mem {k : Contribution} (hk : k ∈ part runtimePrefix f c topic) :
    Has c topic k.data := by
  have hrefl (d : Duration) : d ≤ d := Nat.le_refl d.nanos
  cases topic with
  | node =>
    obtain ⟨t, _, rfl⟩ := List.mem_map.1 hk
    exact .once (by decide) (exclusive_le_inclusive t)
  | duration =>
    rw [data_ofDuration c k hk]
    exact .once (by decide) (hrefl _)
  | totalTime =>
    rw [data_ofTotalTime c f k hk]
    exact .once (by decide) (hrefl _)
  | queueTime =>
    obtain ⟨q, _, rfl⟩ := Option.map_eq_some_iff.1 (Option.mem_toList.1 hk)
    exact .once (by decide) (hrefl _)
  | apdex =>
    cases htarget : c.target with
    | none =>
      rw [part, ofApdex, htarget] at hk
      cases hk
    | some target =>
      rw [data_ofApdex htarget k hk]
      exact .zone htarget
  | errors =>
    rw [data_ofErrors c k hk]
    exact .calls
  | caller =>
    obtain ⟨r, _, rfl⟩ := Option.map_eq_some_iff.1 (Option.mem_toList.1 hk)
    exact .once (by decide) (hrefl _)

theorem has_of_mem_all {k : Contribution} (hk : k ∈ all runtimePrefix f c) :
    ∃ topic, Has c topic k.data := by
  rw [all_eq_flatMap] at hk
  obtain ⟨topic, _, hk⟩ := List.mem_flatMap.1 hk
  exact ⟨topic, has_of_mem hk⟩

theorem suits_of_mem {k : Contribution} (hk : k ∈ part runtimePrefix f c topic) :
    topic.suits k.data = true := (has_of_mem hk).suits

/-- Only nodes share names. -/
theorem nodup_names (hname : c.name.Regular) (htopic : topic ≠ .node) :
    ((part runtimePrefix f c topic).map (·.name)).Nodup := by
  cases topic with
  | node => exact absurd rfl htopic
  | duration =>
    rw [part, names_ofDuration]
    exact hname.nodup_durationNames
  | totalTime => exact c.name.nodup_totalTimeNames
  | queueTime => cases h : c.queueTime <;> simp [part, ofQueueTime, h]
  | apdex =>
    rw [part, names_ofApdex]
    split
    · exact c.name.nodup_apdexNames
    · exact List.nodup_nil
  | errors =>
    rw [part, names_ofErrors]
    split
    · exact c.name.nodup_errorNames
    · exact List.nodup_nil
  | caller => cases h : c.referrer <;> simp [part, ofReferrer, h]

/-- The contributions under one name. -/
def under (x : String) (cs : List Contribution) : List Contribution := cs.filter (·.name = x)

theorem under_flatMap {α : Type} (x : String) (l : List α) (g : α → List Contribution) :
    under x (l.flatMap g) = l.flatMap fun a => under x (g a) := List.filter_flatMap ..

/-- Only contributions of its topic come under a name that no contributions of another topic can have. -/
theorem under_all_of_alone
    (hname : c.name.family = MetricName.webFamily ∨ c.name.family = MetricName.otherFamily)
    {x : String} (hx : (Topic.ofName x).Alone runtimePrefix) :
    under x (all runtimePrefix f c) = under x (part runtimePrefix f c (Topic.ofName x)) := by
  have hempty (topic : Topic) (h : topic ≠ Topic.ofName x) :
      under x (part runtimePrefix f c topic) = [] := by
    rw [under, List.filter_eq_nil_iff]
    intro k hk heq
    refine h (hx topic ?_)
    rw [← told_of_mem hname hk, of_decide_eq_true heq]
  rw [all_eq_flatMap, under_flatMap]
  cases htopic : Topic.ofName x <;> simp [Topic.all, hempty, htopic]

theorem under_all (hfirst : firstPart runtimePrefix ∉ reservedParts) (hname : c.name.Regular)
    (x : String) : under x (all runtimePrefix f c) =
      under x (part runtimePrefix f c (Topic.ofName x)) :=
  under_all_of_alone hname.family (Topic.alone_of_reserved hfirst _)

theorem under_of_mem {cs : List Contribution} (hnodup : (cs.map (·.name)).Nodup)
    {k : Contribution} (hk : k ∈ cs) : under k.name cs = [k] := by
  induction cs with
  | nil => cases hk
  | cons e rest ih =>
    rw [List.map_cons, List.nodup_cons] at hnodup
    rcases List.mem_cons.1 hk with rfl | hrest
    · have hnone : under k.name rest = [] := by
        rw [under, List.filter_eq_nil_iff]
        intro e he heq
        exact hnodup.1 (of_decide_eq_true heq ▸ List.mem_map_of_mem he)
      rw [under, List.filter_cons_of_pos (by simp)]
      exact congrArg (k :: ·) hnone
    · have hne : e.name ≠ k.name := fun h => hnodup.1 (h ▸ List.mem_map_of_mem hrest)
      rw [under, List.filter_cons_of_neg (by simpa using hne)]
      exact ih hnodup.2 hrest

theorem under_of_notMem {cs : List Contribution} {x : String} (hx : x ∉ cs.map (·.name)) :
    under x cs = [] := by
  rw [under, List.filter_eq_nil_iff]
  intro e he heq
  exact hx (of_decide_eq_true heq ▸ List.mem_map_of_mem he)

end Contribution

end Telemetry.Metric
