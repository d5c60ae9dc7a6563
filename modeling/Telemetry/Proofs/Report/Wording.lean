import Telemetry.Proofs.Harvest.Deliveries

/-!
# Messages that stay hidden

A station that strips messages treats transactions alike if they only differ in the messages of their
errors, and no station looks at any error but the first. Nothing that is held, answered or noted tells
such transactions apart, one at a time or in a whole run.
-/
namespace Telemetry

/-- The error without its message. -/
def NoticedError.unworded (e : NoticedError) : NoticedError := { e with message := "" }

namespace Snapshot

def withErrors (s : Snapshot) (errors : List NoticedError) : Snapshot :=
  { s with facts := { s.facts with errors := errors } }

/-- The transaction without the messages of its errors. -/
def unworded (s : Snapshot) : Snapshot := s.withErrors (s.facts.errors.map NoticedError.unworded)

/-- The transaction with no error but the first. -/
def firstErrorOnly (s : Snapshot) : Snapshot := s.withErrors (s.facts.errors.take 1)

end Snapshot

/-- The same demand for the transaction that `f` makes of the one in question. -/
def Demand.map (f : Snapshot → Snapshot) : Demand → Demand
  | report s => report (f s)
  | harvest => harvest

/-! ### What becomes of an error -/

namespace ErrorRules

variable (r : ErrorRules) (s : Snapshot)

theorem finding?_unworded (hstrip : r.stripMessages = true) :
    r.finding? s.unworded = r.finding? s := by
  unfold finding?
  cases herrors : s.facts.errors with
  | nil =>
    have hnone : s.unworded.facts.errors = [] := congrArg (List.map _) herrors
    rw [hnone]
    rfl
  | cons e rest =>
    have hfirst : s.unworded.facts.errors = e.unworded :: rest.map NoticedError.unworded :=
      congrArg (List.map _) herrors
    rw [hfirst]
    simp only [ofNoticed, if_pos hstrip, NoticedError.unworded]

theorem finding?_firstErrorOnly : r.finding? s.firstErrorOnly = r.finding? s := by
  unfold finding?
  cases herrors : s.facts.errors with
  | nil =>
    have hnone : s.firstErrorOnly.facts.errors = [] := congrArg (List.take 1) herrors
    rw [hnone]
    rfl
  | cons e rest =>
    have hfirst : s.firstErrorOnly.facts.errors = [e] := congrArg (List.take 1) herrors
    rw [hfirst]

end ErrorRules

namespace ReportRules

variable {rules : ReportRules} {s : Snapshot} {errors : List NoticedError}
  (h : rules.errors.finding? (s.withErrors errors) = rules.errors.finding? s) (name : MetricName)
include h

theorem errorTrace?_withErrors :
    rules.errorTrace? (s.withErrors errors) name = rules.errorTrace? s name := by
  simp only [errorTrace?, ErrorRules.trace?_eq, ErrorRules.trace?]
  rw [h]
  rfl

theorem context_withErrors : rules.context (s.withErrors errors) name = rules.context s name := by
  unfold context
  rw [errorTrace?_withErrors h]
  rfl

/-- Errors only count for what is found among them. -/
theorem report_withErrors : rules.report (s.withErrors errors) name = rules.report s name := by
  unfold report
  rw [context_withErrors h, errorTrace?_withErrors h]
  rfl

theorem examine_withErrors : rules.examine (s.withErrors errors) = rules.examine s := by
  have hname : (s.withErrors errors).name = s.name := rfl
  have hignored : (s.withErrors errors).ignored = s.ignored := rfl
  have hspans : (s.withErrors errors).spans = s.spans := rfl
  simp only [examine, hname, hignored, hspans, report_withErrors h]

end ReportRules

/-! ### Stations -/

namespace Station

variable {rules : ReportRules}

/-- Nothing that a station holds, answers or notes tells the transactions apart. -/
def Indistinct (rules : ReportRules) (s t : Snapshot) : Prop :=
  ∀ st : Station, st.report rules s = st.report rules t ∧
    st.intake.reportNotices rules s = st.intake.reportNotices rules t

theorem indistinct_of_examine {s t : Snapshot} (h : rules.examine s = rules.examine t) :
    Indistinct rules s t := by
  intro st
  unfold Station.report Intake.report Intake.reportNotices
  rw [h]
  exact ⟨rfl, rfl⟩

theorem serve_map {f : Snapshot → Snapshot} (hf : ∀ s, rules.examine (f s) = rules.examine s)
    (st : Station) (d : Demand) : st.serve rules (d.map f) = st.serve rules d := by
  cases d with
  | harvest => rfl
  | report s =>
    have hreport := (indistinct_of_examine (hf s) st).1
    simp only [Demand.map, serve, hreport]

/-- What the rules do not look at makes no difference in any run. -/
theorem serveAll_map {f : Snapshot → Snapshot} (hf : ∀ s, rules.examine (f s) = rules.examine s)
    (st : Station) (ds : List Demand) :
    st.serveAll rules (ds.map (Demand.map f)) = st.serveAll rules ds := by
  induction ds generalizing st with
  | nil => rfl
  | cons d rest ih => simp only [List.map_cons, serveAll, serve_map hf, ih]

/-- With messages stripped, transactions that only differ in the messages of their errors come to the
same, for one transaction and in a run of any length; and whatever the settings are, errors after the
first make no difference. -/
theorem messages_stay_hidden (settings : Settings) (naming : NamingRules) :
    let rules := ReportRules.new settings naming (.ofSettings settings)
    (settings.stripMessages = true →
      (∀ s t : Snapshot, s.unworded = t.unworded → Indistinct rules s t) ∧
      ∀ (st : Station) (ds es : List Demand),
        ds.map (Demand.map Snapshot.unworded) = es.map (Demand.map Snapshot.unworded) →
        st.serveAll rules ds = st.serveAll rules es) ∧
    (∀ s t : Snapshot, s.firstErrorOnly = t.firstErrorOnly → Indistinct rules s t) ∧
    ∀ (st : Station) (ds es : List Demand),
      ds.map (Demand.map Snapshot.firstErrorOnly) = es.map (Demand.map Snapshot.firstErrorOnly) →
      st.serveAll rules ds = st.serveAll rules es := by
  intro rules
  have hfirst (s : Snapshot) : rules.examine s.firstErrorOnly = rules.examine s :=
    ReportRules.examine_withErrors (rules.errors.finding?_firstErrorOnly s)
  have hruns {f : Snapshot → Snapshot} (hf : ∀ s, rules.examine (f s) = rules.examine s)
      (st : Station) (ds es : List Demand) (heq : ds.map (Demand.map f) = es.map (Demand.map f)) :
      st.serveAll rules ds = st.serveAll rules es := by
    rw [← serveAll_map hf st ds, heq, serveAll_map hf]
  have hone {f : Snapshot → Snapshot} (hf : ∀ s, rules.examine (f s) = rules.examine s)
      (s t : Snapshot) (heq : f s = f t) : Indistinct rules s t := by
    apply indistinct_of_examine
    rw [← hf s, heq, hf]
  refine ⟨fun hstrip => ?_, hone hfirst, hruns hfirst⟩
  have hunworded (s : Snapshot) : rules.examine s.unworded = rules.examine s :=
    ReportRules.examine_withErrors (rules.errors.finding?_unworded s hstrip)
  exact ⟨hone hunworded, hruns hunworded⟩

/-- A payment that failed, and then failed to be told. -/
def payment (message : String) : Snapshot :=
  oneSpan.withErrors [⟨"PaymentError", message, some ["pay", "main"], .epoch⟩,
    ⟨"MailError", message, none, .epoch⟩]

def paymentOnly : Snapshot :=
  oneSpan.withErrors [⟨"PaymentError", "declined", some ["pay", "main"], .epoch⟩]

theorem messages_stay_hidden_payment :
    let settings := { Settings.standard with stripMessages := true }
    let rules := ReportRules.new settings (.ofSettings settings) (.ofSettings settings)
    settings.stripMessages = true ∧
    (payment "card 4111").unworded = (payment "declined").unworded ∧
    Indistinct rules (payment "card 4111") (payment "declined") ∧
    (payment "declined").firstErrorOnly = paymentOnly.firstErrorOnly ∧
    Indistinct rules (payment "declined") paymentOnly ∧
    (∀ st : Station,
      st.serveAll rules [.report (payment "card 4111"), .harvest, .report (payment "declined")] =
        st.serveAll rules [.report (payment "declined"), .harvest, .report (payment "")]) ∧
    (rules.offers .errorTrace (payment "card 4111")).map ErrorTrace.message =
      [ErrorRules.strippedMessage] := by
  intro settings rules
  obtain ⟨hstripped, hfirst, _⟩ := messages_stay_hidden settings (.ofSettings settings)
  obtain ⟨hone, hruns⟩ := hstripped rfl
  refine ⟨rfl, rfl, hone _ _ rfl, rfl, hfirst _ _ rfl, fun st => hruns st _ _ rfl, ?_⟩
  decide +kernel

end Station

end Telemetry
