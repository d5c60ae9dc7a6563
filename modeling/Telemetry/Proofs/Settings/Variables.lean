import Telemetry.JsonObject
import Telemetry.Proofs.Buffer.Layouts
import Telemetry.Proofs.Harvest.Kinds
import Telemetry.Proofs.Settings.Meanings
import Mathlib.Data.List.Nodup
import Mathlib.Logic.Function.Basic

/-!
# Variables

Every setting has a variable of its own and depends on no other. Settings come out of an environment
only if all variables that are set can be read, and what comes out is valid, so that buffers can be made
from it.
-/
namespace Telemetry.Settings

open Meaning

/-- A setting with the variable that says it, and how the variable is read. -/
structure Variable where
  α : Type
  name : String
  meaning : Meaning α
  read : String → Except ReadFault α
  readBy : meaning.ReadBy read
  field : Settings → α

namespace Variable

def all (numbers? : NumbersReader) : List Variable :=
  [⟨_, "APM_RUNTIME_PREFIX", verbatim, .ok, verbatim_readBy, (·.runtimePrefix)⟩,
    ⟨_, "APM_APDEX_T", target, readTarget, target_readBy, (·.apdexTarget)⟩,
    ⟨_, "APM_APDEX_T_OVERRIDES", overrides numbers?, _, overrides_readBy, (·.apdexOverrides)⟩,
    ⟨_, "APM_IGNORED_TRANSACTION_NAMES", names, readNames, names_readBy, (·.ignoredNames)⟩,
    ⟨_, "APM_ERROR_IGNORE_STATUS_CODES", statuses, _, statuses_readBy, (·.ignoredStatuses)⟩,
    ⟨_, "APM_TRANSACTION_TRACE_CAPACITY", word, readWord, word_readBy, (·.buffers.traces)⟩,
    ⟨_, "APM_TRANSACTION_EVENT_CAPACITY", word, readWord, word_readBy, (·.buffers.events)⟩,
    ⟨_, "APM_ERROR_TRACE_CAPACITY", word, readWord, word_readBy, (·.buffers.errorTraces)⟩,
    ⟨_, "APM_ERROR_EVENT_CAPACITY", word, readWord, word_readBy, (·.buffers.errorEvents)⟩,
    ⟨_, "APM_SQL_TRACE_CAPACITY", word, readWord, word_readBy, (·.buffers.sqlTraces)⟩,
    ⟨_, "APM_BUFFER_PARTITIONS", word, readWord, word_readBy, (·.buffers.partitions)⟩,
    ⟨_, "APM_HARVEST_INTERVAL_SECS", interval, _, interval_readBy, (·.harvestInterval)⟩,
    ⟨_, "APM_LOG_LEVEL", plain, .ok ∘ plainWord, plain_readBy, (·.logLevel)⟩,
    ⟨_, "APM_TRANSACTION_TRACER_ENABLED", flag, readBool, flag_readBy, (·.tracerEnabled)⟩,
    ⟨_, "APM_TRANSACTION_EVENTS_ENABLED", flag, readBool, flag_readBy, (·.eventsEnabled)⟩,
    ⟨_, "APM_TRANSACTION_EVENTS_TRANSACTIONS_ENABLED", flag, readBool, flag_readBy,
      (·.transactionEventsEnabled)⟩,
    ⟨_, "APM_ERROR_COLLECTOR_ENABLED", flag, readBool, flag_readBy, (·.errorsEnabled)⟩,
    ⟨_, "APM_ERROR_COLLECTOR_CAPTURE_EVENTS", flag, readBool, flag_readBy, (·.errorEventsEnabled)⟩,
    ⟨_, "APM_SQL_TRACE_ENABLED", flag, readBool, flag_readBy, (·.sqlTracesEnabled)⟩,
    ⟨_, "APM_STRIP_EXCEPTION_MESSAGES", flag, readBool, flag_readBy, (·.stripMessages)⟩,
    ⟨_, "APM_STACK_TRACE_MAX_FRAMES", word, readWord, word_readBy, (·.stackFrames)⟩]

variable {numbers? : NumbersReader}

theorem nodup_names : ((all numbers?).map name).Nodup := by simp [all]

variable {v w : Variable} {env : Environment} {s t : Settings} {e : SettingsError}

theorem name_ne (hv : v ∈ all numbers?) (hw : w ∈ all numbers?) (hne : w ≠ v) :
    w.name ≠ v.name := fun hname =>
  hne (List.inj_on_of_nodup_map nodup_names hw hv hname)

/-- The fields that the variables say are all there are. -/
theorem eq_of_fields (h : ∀ v ∈ all numbers?, v.field s = v.field t) : s = t := by
  obtain ⟨_, _, _, _, _, _, _, _, _, _, _, _, _, ⟨⟩, _, _⟩ := s
  obtain ⟨_, _, _, _, _, _, _, _, _, _, _, _, _, ⟨⟩, _, _⟩ := t
  simp only [all, List.forall_mem_cons] at h
  simp_all

/-- The setting is what the text of the variable says, or the standard value if it is not set. -/
def Told (v : Variable) (env : Environment) (s : Settings) : Prop :=
  match env v.name with
  | none => v.field s = v.field standard
  | some text => v.meaning.Says text (v.field s)

def look (v : Variable) (env : Environment) : Except SettingsError v.α :=
  Settings.look env v.name v.read (v.field standard)

theorem look_of_set {text : String} (h : env v.name = some text) :
    v.look env = (v.read text).mapError (.unreadable v.name) := by
  rw [look, Settings.look, h]

theorem look_eq_ok_iff : v.look env = .ok (v.field s) ↔ v.Told env s := by
  rw [look, Settings.look, Told]
  cases env v.name with
  | none => exact ⟨fun h => (Except.ok.inj h).symm, fun h => congrArg Except.ok h.symm⟩
  | some text => exact mapError_eq_ok_iff.trans v.readBy.ok_iff

theorem cases_of_look_eq_error (h : v.look env = .error e) :
    ∃ text fault, env v.name = some text ∧ v.meaning.Faults text fault ∧
      e = .unreadable v.name fault := by
  cases hset : env v.name with
  | none =>
    rw [look, Settings.look, hset] at h
    cases h
  | some text =>
    rw [look_of_set hset] at h
    obtain ⟨fault, hread, rfl⟩ := mapError_eq_error_iff.mp h
    exact ⟨text, fault, rfl, v.readBy.fault hread, rfl⟩

theorem look_update_self {text : String} {a : v.α} (h : v.meaning.Says text a) :
    v.look (Function.update env v.name (some text)) = .ok a := by
  rw [look_of_set (Function.update_self ..)]
  exact mapError_eq_ok_iff.mpr (v.readBy.ok_iff.mpr h)

theorem look_update_of_ne {text : Option String} (h : w.name ≠ v.name) :
    w.look (Function.update env v.name text) = w.look env := by
  rw [look, look, Settings.look, Settings.look, Function.update_of_ne h]

/-- Looks at one variable after the other and forgets what they say. -/
def lookAll (env : Environment) : List Variable → Except SettingsError Unit
  | [] => .ok ()
  | v :: vs => do
    let _ ← v.look env
    lookAll env vs

theorem exists_of_lookAll_eq_error {vs : List Variable} (h : lookAll env vs = .error e) :
    ∃ v ∈ vs, v.look env = .error e := by
  induction vs with
  | nil => cases h
  | cons v rest ih =>
    rw [lookAll, bind_eq_error_iff] at h
    rcases h with hfirst | ⟨_, _, hrest⟩
    · exact ⟨v, List.mem_cons_self, hfirst⟩
    · obtain ⟨w, hw, herror⟩ := ih hrest
      exact ⟨w, List.mem_cons_of_mem v hw, herror⟩

theorem lookAll_eq_ok {vs : List Variable} (h : ∀ v ∈ vs, ∃ a, v.look env = .ok a) :
    lookAll env vs = .ok () := by
  induction vs with
  | nil => rfl
  | cons v rest ih =>
    rw [List.forall_mem_cons] at h
    obtain ⟨a, ha⟩ := h.1
    rw [lookAll, ha]
    exact ih h.2

end Variable

open Variable (lookAll)

variable {numbers? : NumbersReader} {env : Environment} {s : Settings} {e : SettingsError}

theorem map_spelled (numbers? : NumbersReader) (env : Environment) :
    (spelled numbers? env).map (fun _ => ()) = lookAll env (Variable.all numbers?) := by
  simp only [spelled, map_bind, Variable.all, lookAll, Variable.look]
  rfl

theorem look_of_spelled (h : spelled numbers? env = .ok s) :
    ∀ v ∈ Variable.all numbers?, v.look env = .ok (v.field s) := by
  simp only [spelled, bind_eq_ok_iff] at h
  obtain ⟨_, hruntime, _, htarget, _, hoverrides, _, hnames, _, hstatuses, _, htraces, _, hevents,
    _, herrorTraces, _, herrorEvents, _, hsqlTraces, _, hpartitions, _, hinterval, _, hlevel,
    _, htracing, _, hcapturing, _, hofTransactions, _, hnoticing, _, hofErrors, _, hofStatements,
    _, hstripping, _, hframes, hs⟩ := h
  obtain rfl := Except.ok.inj hs
  simp only [Variable.all, List.forall_mem_cons, Variable.look]
  exact ⟨hruntime, htarget, hoverrides, hnames, hstatuses, htraces, hevents, herrorTraces,
    herrorEvents, hsqlTraces, hpartitions, hinterval, hlevel, htracing, hcapturing,
    hofTransactions, hnoticing, hofErrors, hofStatements, hstripping, hframes, nofun⟩

theorem spelled_of_readable (h : ∀ v ∈ Variable.all numbers?, ∃ a, v.look env = .ok a) :
    ∃ s, spelled numbers? env = .ok s := by
  have hrun := map_spelled numbers? env
  rw [Variable.lookAll_eq_ok h] at hrun
  cases hspelled : spelled numbers? env with
  | ok s => exact ⟨s, rfl⟩
  | error e =>
    rw [hspelled] at hrun
    cases hrun

theorem cases_of_spelled_eq_error (h : spelled numbers? env = .error e) :
    ∃ v ∈ Variable.all numbers?, ∃ text fault, env v.name = some text ∧
      v.meaning.Faults text fault ∧ e = .unreadable v.name fault := by
  have hrun := map_spelled numbers? env
  rw [h] at hrun
  obtain ⟨v, hv, herror⟩ := Variable.exists_of_lookAll_eq_error hrun.symm
  exact ⟨v, hv, Variable.cases_of_look_eq_error herror⟩

theorem spelled_eq_ok_iff :
    spelled numbers? env = .ok s ↔ ∀ v ∈ Variable.all numbers?, v.Told env s := by
  constructor
  · exact fun h v hv => Variable.look_eq_ok_iff.mp (look_of_spelled h v hv)
  · intro h
    have hlook (v : Variable) (hv : v ∈ Variable.all numbers?) : v.look env = .ok (v.field s) :=
      Variable.look_eq_ok_iff.mpr (h v hv)
    obtain ⟨t, ht⟩ := spelled_of_readable fun v hv => ⟨_, hlook v hv⟩
    have hsame : t = s := Variable.eq_of_fields fun v hv =>
      Except.ok.inj ((look_of_spelled ht v hv).symm.trans (hlook v hv))
    rw [ht, hsame]

/-- A variable that says something else changes its own setting alone. -/
theorem spelled_update (h : spelled numbers? env = .ok s) {v : Variable}
    (hv : v ∈ Variable.all numbers?) {text : String} {a : v.α} (htext : v.meaning.Says text a) :
    ∃ t, spelled numbers? (Function.update env v.name (some text)) = .ok t ∧ v.field t = a ∧
      ∀ w ∈ Variable.all numbers?, w ≠ v → w.field t = w.field s := by
  have hself : v.look (Function.update env v.name (some text)) = .ok a :=
    Variable.look_update_self htext
  have hother (w : Variable) (hw : w ∈ Variable.all numbers?) (hne : w ≠ v) :
      w.look (Function.update env v.name (some text)) = .ok (w.field s) := by
    rw [Variable.look_update_of_ne (Variable.name_ne hv hw hne), look_of_spelled h w hw]
  have hreadable : ∀ w ∈ Variable.all numbers?, ∃ b,
      w.look (Function.update env v.name (some text)) = .ok b := by
    intro w hw
    rcases eq_or_ne w v with rfl | hne
    · exact ⟨a, hself⟩
    · exact ⟨_, hother w hw hne⟩
  obtain ⟨t, ht⟩ := spelled_of_readable hreadable
  have htold := look_of_spelled ht
  exact ⟨t, ht, Except.ok.inj ((htold v hv).symm.trans hself), fun w hw hne =>
    Except.ok.inj ((htold w hw).symm.trans (hother w hw hne))⟩

theorem ofEnvironment_of_spelled (h : spelled numbers? env = .ok s) :
    ofEnvironment numbers? env = s.validate := by
  rw [ofEnvironment, h]
  rfl

theorem ofEnvironment_of_not_spelled (h : spelled numbers? env = .error e) :
    ofEnvironment numbers? env = .error e := by
  rw [ofEnvironment, h]
  rfl

theorem validate_eq_ok_iff {t : Settings} : s.validate = .ok t ↔ s.violation? = none ∧ s = t := by
  rw [validate]
  cases s.violation? <;> simp

theorem ofEnvironment_eq_ok_iff :
    ofEnvironment numbers? env = .ok s ↔ spelled numbers? env = .ok s ∧ s.validate = .ok s := by
  rw [ofEnvironment, bind_eq_ok_iff]
  constructor
  · rintro ⟨t, ht, hvalid⟩
    obtain rfl := (validate_eq_ok_iff.mp hvalid).2
    exact ⟨ht, hvalid⟩
  · rintro ⟨hs, hvalid⟩
    exact ⟨s, hs, hvalid⟩

/-- Buffers can be made if there is room for their partitions, and no time that must not be zero is. -/
structure Usable (s : Settings) : Prop where
  buffers : s.buffers.partitions ≤ Buffer.greatestPartitions →
    ∃ b, RecordBuffers.build s.buffers = .ok b
  /-- Nothing keeps more partitions out of the settings. -/
  overflow : Buffer.greatestPartitions < s.buffers.partitions →
    RecordBuffers.build s.buffers = .error .overflow
  interval : s.harvestInterval ≠ 0
  target : s.apdexTarget ≠ 0
  overrides : ∀ name t, s.apdexOverrides.get? name = some t → t ≠ 0

theorem ne_zero_of_isZero_eq_false {d : Duration} (h : ¬ d.isZero = true) : d ≠ 0 := by
  rintro rfl
  exact h rfl

theorem usable_of_validate (h : s.validate = .ok s) : s.Usable := by
  have hviolation := (validate_eq_ok_iff.mp h).1
  rw [violation?] at hviolation
  cases hoverride : s.zeroOverride? with
  | some name =>
    rw [hoverride] at hviolation
    split_ifs at hviolation
  | none =>
    rw [hoverride] at hviolation
    split_ifs at hviolation with hruntime htarget hpartitions hinterval hlevel
    constructor
    case buffers =>
      intro hroom
      obtain ⟨b, hb, _⟩ := RecordKind.stocked_ofSizes s.buffers (Nat.pos_of_ne_zero hpartitions)
      refine ⟨b, ?_⟩
      rw [RecordBuffers.build_eq_granted, Buffer.granted_of_le hroom, hb]
      rfl
    case overflow =>
      intro hmore
      rw [RecordBuffers.build_eq_granted, Buffer.granted_of_lt hmore]
    case interval => exact ne_zero_of_isZero_eq_false hinterval
    case target => exact ne_zero_of_isZero_eq_false htarget
    case overrides =>
      intro name t ht
      rw [zeroOverride?, Option.map_eq_none_iff, List.find?_eq_none] at hoverride
      exact ne_zero_of_isZero_eq_false (hoverride _ (Dict.mem_of_find ht))

/-- What comes out of an environment is valid, and each setting is what its own variable says. A
variable that says something else changes no other setting, one that says nothing is never passed
over, and lists say what was listed. -/
theorem ofEnvironment_tells (numbers? : NumbersReader) (env : Environment) :
    (∀ s, ofEnvironment numbers? env = .ok s ↔
      (∀ v ∈ Variable.all numbers?, v.Told env s) ∧ s.validate = .ok s) ∧
    (∀ s, ofEnvironment numbers? env = .ok s → s.Usable) ∧
    (∀ s, ofEnvironment numbers? env = .ok s →
      ∀ v ∈ Variable.all numbers?, ∀ text a, v.meaning.Says text a →
        ∃ t, ofEnvironment numbers? (Function.update env v.name (some text)) = t.validate ∧
          v.field t = a ∧ ∀ w ∈ Variable.all numbers?, w ≠ v → w.field t = w.field s) ∧
    (∀ v ∈ Variable.all numbers?, ∀ text, env v.name = some text →
      (∀ a, ¬ v.meaning.Says text a) →
        ∃ w ∈ Variable.all numbers?, ∃ text' fault, env w.name = some text' ∧
          (∀ a, ¬ w.meaning.Says text' a) ∧ w.meaning.Faults text' fault ∧
          ofEnvironment numbers? env = .error (.unreadable w.name fault)) ∧
    (∀ (names : List String) ps, (∀ x ∈ names, Text.Item x.toList) →
      Text.Lists ps (names.map String.toList) → readNames (Text.written ps) = .ok names) ∧
    ∀ (codes : List Nat) ps, (∀ n ∈ codes, n < UInt16.size) →
      Text.Lists ps (codes.map Numeral.write) → readStatuses (Text.written ps) = .ok codes := by
  refine ⟨fun s => ?_, fun s h => ?_, fun s h v hv text a htext => ?_,
    fun v hv text hset hsilent => ?_, fun names ps hnames h => readNames_written hnames h,
    fun codes ps hcodes h => readStatuses_written (fun n hn => Nat.le_of_lt_succ (hcodes n hn)) h⟩
  · rw [ofEnvironment_eq_ok_iff, spelled_eq_ok_iff]
  · exact usable_of_validate (ofEnvironment_eq_ok_iff.mp h).2
  · obtain ⟨t, ht, hsaid, hothers⟩ := spelled_update (ofEnvironment_eq_ok_iff.mp h).1 hv htext
    exact ⟨t, ofEnvironment_of_spelled ht, hsaid, hothers⟩
  · cases hspelled : spelled numbers? env with
    | ok s =>
      have htold := spelled_eq_ok_iff.mp hspelled v hv
      rw [Variable.Told, hset] at htold
      exact absurd htold (hsilent _)
    | error e =>
      obtain ⟨w, hw, text', fault, hset', hfault, rfl⟩ := cases_of_spelled_eq_error hspelled
      exact ⟨w, hw, text', fault, hset', fun a ha => w.readBy.sound ha hfault, hfault,
        ofEnvironment_of_not_spelled hspelled⟩

/-- No transaction has a target of its own, the list has an empty item, and one code comes after a tab. -/
def spoken : Environment
  | "APM_APDEX_T_OVERRIDES" => some "\x7b \x7d"
  | "APM_ERROR_IGNORE_STATUS_CODES" => some "401,\t404 ,"
  | "APM_BUFFER_PARTITIONS" => some "8"
  | "APM_LOG_LEVEL" => some " DEBUG"
  | "APM_SQL_TRACE_ENABLED" => some "No "
  | _ => none

/-- The same once with more partitions and once with a target that is no number. -/
theorem ofEnvironment_tells_spoken : ∃ s : Settings,
    ofEnvironment JsonObject.numbers? spoken = .ok s ∧ s.Usable ∧
    (∃ b, RecordBuffers.build s.buffers = .ok b) ∧ s.buffers.partitions = 8 ∧
    s.ignoredStatuses = [401, 404] ∧ s.sqlTracesEnabled = false ∧ s.harvestInterval = .ofSeconds 60 ∧
    (∃ t : Settings,
      ofEnvironment JsonObject.numbers?
          (Function.update spoken "APM_BUFFER_PARTITIONS" (some "+9")) = t.validate ∧
        t.buffers.partitions = 9 ∧ t.ignoredStatuses = [401, 404]) ∧
    ∃ v ∈ Variable.all JsonObject.numbers?, ∃ fault,
      ofEnvironment JsonObject.numbers? (Function.update spoken "APM_APDEX_T" (some "soon")) =
        .error (.unreadable v.name fault) := by
  have hinterval : (⟨_, "APM_HARVEST_INTERVAL_SECS", interval, _, interval_readBy,
      (·.harvestInterval)⟩ : Variable) ∈ Variable.all JsonObject.numbers? := by simp [Variable.all]
  have hpartitions : (⟨_, "APM_BUFFER_PARTITIONS", word, _, word_readBy,
      (·.buffers.partitions)⟩ : Variable) ∈ Variable.all JsonObject.numbers? := by simp [Variable.all]
  have hstatuses : (⟨_, "APM_ERROR_IGNORE_STATUS_CODES", statuses, _, statuses_readBy,
      (·.ignoredStatuses)⟩ : Variable) ∈ Variable.all JsonObject.numbers? := by simp [Variable.all]
  have hsqlTraces : (⟨_, "APM_SQL_TRACE_ENABLED", flag, _, flag_readBy,
      (·.sqlTracesEnabled)⟩ : Variable) ∈ Variable.all JsonObject.numbers? := by simp [Variable.all]
  have htarget : (⟨_, "APM_APDEX_T", target, _, target_readBy, (·.apdexTarget)⟩ : Variable) ∈
      Variable.all JsonObject.numbers? := by simp [Variable.all]
  obtain ⟨hiff, husable, hchange, _, _, hcodes⟩ := ofEnvironment_tells JsonObject.numbers? spoken
  obtain ⟨s, hs⟩ : ∃ s, ofEnvironment JsonObject.numbers? spoken = .ok s := by
    have hsome : (ofEnvironment JsonObject.numbers? spoken).toOption.isSome = true := by
      decide +kernel
    cases hs : ofEnvironment JsonObject.numbers? spoken with
    | ok s => exact ⟨s, rfl⟩
    | error e =>
      rw [hs] at hsome
      cases hsome
  have htold := ((hiff s).mp hs).1
  have height : s.buffers.partitions = 8 := by
    have hread : readWord "8" = .ok 8 := by decide +kernel
    exact Except.ok.inj ((word_readBy.ok_iff.mpr (htold _ hpartitions)).symm.trans hread)
  obtain ⟨ps, hwritten, hlists⟩ : ∃ ps, Text.written ps = "401,\t404 ," ∧
      Text.Lists ps ([401, 404].map Numeral.write) :=
    ⟨[[] ++ Numeral.write 401 ++ [], ['\t'] ++ Numeral.write 404 ++ [' '], []], by decide +kernel,
      .item (by decide) (by decide) (.item (by decide) (by decide) (.empty (by decide) .nil))⟩
  have hread := hcodes [401, 404] ps (by decide) hlists
  rw [hwritten] at hread
  have hignored : s.ignoredStatuses = [401, 404] :=
    Except.ok.inj ((statuses_readBy.ok_iff.mpr (htold _ hstatuses)).symm.trans hread)
  have hoff : s.sqlTracesEnabled = false := by
    have hread : readBool "No " = .ok false := by decide +kernel
    exact Except.ok.inj ((flag_readBy.ok_iff.mpr (htold _ hsqlTraces)).symm.trans hread)
  obtain ⟨t, ht, hnine, hothers⟩ := hchange s hs _ hpartitions "+9" (9 : Nat)
    (word_readBy.ok_iff.mp (by decide +kernel))
  have hsame : t.ignoredStatuses = s.ignoredStatuses := hothers _ hstatuses fun h =>
    absurd (congrArg Variable.name h) (by decide)
  have hbuilt := (husable s hs).buffers (height ▸ by decide)
  refine ⟨s, hs, husable s hs, hbuilt, height, hignored, hoff, htold _ hinterval,
    ⟨t, ht, hnine, hsame.trans hignored⟩, ?_⟩
  obtain ⟨_, _, _, hunread, _⟩ := ofEnvironment_tells JsonObject.numbers?
    (Function.update spoken "APM_APDEX_T" (some "soon"))
  have hsoon : target.Faults "soon" (.literal .invalid) := .inl ⟨.invalid, by decide +kernel, rfl⟩
  obtain ⟨v, hv, _, fault, _, _, _, herror⟩ := hunread _ htarget "soon" rfl
    fun d hd => target_readBy.sound hd hsoon
  exact ⟨v, hv, fault, herror⟩

/-- The standard settings, but as many partitions as a machine word can say. -/
def crowded : Environment
  | "APM_BUFFER_PARTITIONS" => some "18446744073709551615"
  | _ => none

/-- Settings that are valid need not make buffers: the program ends where it makes them. -/
theorem not_forall_buffers_of_validate :
    ¬ ∀ s : Settings, ofEnvironment JsonObject.numbers? crowded = .ok s → s.validate = .ok s ∧
      ∃ b, RecordBuffers.build s.buffers = .ok b := by
  have hcrowded : ofEnvironment JsonObject.numbers? crowded = .ok
      { standard with buffers := { standard.buffers with partitions := 18446744073709551615 } } := rfl
  intro h
  obtain ⟨_, b, hb⟩ := h _ hcrowded
  rw [RecordBuffers.build_eq_granted, Buffer.granted_of_lt (by decide)] at hb
  cases hb

end Telemetry.Settings
