import Telemetry.Proofs.Entries
import Telemetry.Proofs.Settings.Listings
import Mathlib.Data.List.Forall2

/-!
# What the texts of variables say

Each kind of setting has its own sort of text. What such a text says, and why it says nothing, is stated
here in terms of trimmed words, numbers, durations and listings alone. Reading a text gives exactly what
it says, and where it says nothing reading fails for a reason that the text has.
-/
namespace Telemetry

namespace Text

variable {text : String} {cs : List Char} {mark : Char}

/-- A text is what remains of it after trimming, between blanks. -/
theorem exists_padded (cs : List Char) :
    ∃ before after, Blank before ∧ Blank after ∧ cs = before ++ trim cs ++ after := by
  have htrim : cs.dropWhile isBlank = trim cs ++
      ((cs.dropWhile isBlank).reverse.takeWhile isBlank).reverse := by
    rw [trim, ← List.reverse_append, List.takeWhile_append_dropWhile, List.reverse_reverse]
  refine ⟨cs.takeWhile isBlank, ((cs.dropWhile isBlank).reverse.takeWhile isBlank).reverse,
    fun c hc => List.mem_takeWhile_imp hc, fun c hc => ?_, ?_⟩
  · exact List.mem_takeWhile_imp (List.mem_reverse.mp hc)
  · rw [List.append_assoc, ← htrim, List.takeWhile_append_dropWhile]

theorem trim_trim (cs : List Char) : trim (trim cs) = trim cs := by
  obtain ⟨before, after, hbefore, hafter, hcs⟩ := exists_padded cs
  conv_rhs => rw [hcs, trim_padded hbefore hafter]

theorem mem_of_mem_trim {c : Char} (h : c ∈ trim cs) : c ∈ cs := by
  obtain ⟨before, after, _, _, hcs⟩ := exists_padded cs
  rw [hcs]
  simp [h]

theorem blank_of_trim_eq_nil (h : trim cs = []) : Blank cs := by
  obtain ⟨before, after, hbefore, hafter, hcs⟩ := exists_padded cs
  rw [hcs, h, List.append_nil]
  exact fun c hc => (List.mem_append.mp hc).elim (hbefore c) (hafter c)

theorem mark_notMem_pieces : ∀ p ∈ pieces mark cs, mark ∉ p := by
  induction cs with
  | nil => simp [pieces]
  | cons c rest ih =>
    obtain ⟨p, ps, hps⟩ := List.exists_cons_of_ne_nil (pieces_ne_nil mark rest)
    rw [hps, List.forall_mem_cons] at ih
    rw [pieces, hps]
    split_ifs with hc
    · simpa using ih
    · exact List.forall_mem_cons.mpr ⟨by simp [Ne.symm hc, ih.1], ih.2⟩

theorem intercalate_pieces (mark : Char) (cs : List Char) :
    List.intercalate [mark] (pieces mark cs) = cs := by
  induction cs with
  | nil => rfl
  | cons c rest ih =>
    obtain ⟨p, ps, hps⟩ := List.exists_cons_of_ne_nil (pieces_ne_nil mark rest)
    rw [hps] at ih
    rw [pieces, hps]
    split_ifs with hc
    · rw [List.intercalate_cons_cons, ih, hc]
      rfl
    · cases ps with
      | nil =>
        rw [List.intercalate_singleton] at ih ⊢
        rw [ih]
      | cons q ps =>
        rw [List.intercalate_cons_cons] at ih ⊢
        rw [← ih]
        rfl

theorem lists_trimmed (ps : List (List Char)) :
    Lists ps ((ps.map trim).filter (! ·.isEmpty)) := by
  induction ps with
  | nil => exact .nil
  | cons p rest ih =>
    by_cases hp : trim p = []
    · rw [List.map_cons, List.filter_cons_of_neg (by simp [hp])]
      exact .empty (blank_of_trim_eq_nil hp) ih
    · obtain ⟨before, after, hbefore, hafter, hcs⟩ := exists_padded p
      rw [List.map_cons, List.filter_cons_of_pos (by simp [hp])]
      conv => arg 1; rw [hcs]
      exact .item hbefore hafter ih

/-- The items that a text lists. -/
def Listing (text : String) (xs : List (List Char)) : Prop :=
  (∀ x ∈ xs, Item x) ∧ ∃ ps, Lists ps xs ∧ written ps = text

/-- Every text is a listing of the items that are read off it. -/
theorem listing_iff {xs : List (List Char)} : Listing text xs ↔ items text.toList = xs := by
  constructor
  · rintro ⟨hxs, ps, hps, rfl⟩
    exact hps.items_written hxs
  · rintro rfl
    refine ⟨fun x hx => ?_, pieces ',' text.toList, lists_trimmed _, ?_⟩
    · obtain ⟨hmem, hne⟩ := List.mem_filter.mp hx
      obtain ⟨p, hp, rfl⟩ := List.mem_map.mp hmem
      exact ⟨by simpa using hne, fun h => mark_notMem_pieces p hp (mem_of_mem_trim h), trim_trim p⟩
    · rw [written, intercalate_pieces, String.ofList_toList]

end Text

namespace Settings

section

variable {ε ε' α β γ : Type}

theorem map_bind (x : Except ε α) (f : α → Except ε β) (g : β → γ) :
    (x >>= f).map g = x >>= fun a => (f a).map g := by
  cases x <;> rfl

theorem map_eq_ok_iff {x : Except ε α} {f : α → β} {b : β} :
    x.map f = .ok b ↔ ∃ a, x = .ok a ∧ f a = b := by
  cases x <;> simp [Except.map]

theorem map_eq_error_iff {x : Except ε α} {f : α → β} {e : ε} :
    x.map f = .error e ↔ x = .error e := by
  cases x <;> simp [Except.map]

theorem bind_eq_ok_iff {x : Except ε α} {f : α → Except ε β} {b : β} :
    x >>= f = .ok b ↔ ∃ a, x = .ok a ∧ f a = .ok b := by
  cases x <;> simp [bind, Except.bind]

theorem bind_eq_error_iff {x : Except ε α} {f : α → Except ε β} {e : ε} :
    x >>= f = .error e ↔ x = .error e ∨ ∃ a, x = .ok a ∧ f a = .error e := by
  cases x <;> simp [bind, Except.bind]

theorem mapError_eq_ok_iff {f : ε → ε'} {x : Except ε α} {a : α} :
    x.mapError f = .ok a ↔ x = .ok a := by
  cases x <;> simp [Except.mapError]

theorem mapError_eq_error_iff {f : ε → ε'} {x : Except ε α} {e : ε'} :
    x.mapError f = .error e ↔ ∃ fault, x = .error fault ∧ f fault = e := by
  cases x <;> simp [Except.mapError]

theorem mapM_eq_ok_iff {f : α → Except ε β} {as : List α} {bs : List β} :
    as.mapM f = .ok bs ↔ List.Forall₂ (fun a b => f a = .ok b) as bs := by
  induction as generalizing bs with
  | nil => cases bs <;> simp [pure, Except.pure]
  | cons a rest ih =>
    rw [List.mapM_cons, bind_eq_ok_iff, List.forall₂_cons_left_iff]
    simp only [bind_eq_ok_iff, ih]
    constructor
    · rintro ⟨b, hb, bs, hbs, heq⟩
      exact ⟨b, bs, hb, hbs, (Except.ok.inj heq).symm⟩
    · rintro ⟨b, bs, hb, hbs, rfl⟩
      exact ⟨b, hb, bs, hbs, rfl⟩

theorem exists_of_forall₂ {R : α → β → Prop} {as : List α} {bs : List β}
    (h : List.Forall₂ R as bs) {a : α} (ha : a ∈ as) : ∃ b, R a b := by
  induction h with
  | nil => cases ha
  | @cons _ b _ _ hab _ ih =>
    rcases List.mem_cons.mp ha with rfl | hrest
    · exact ⟨b, hab⟩
    · exact ih hrest

/-- Reading one after the other fails with the fault of one that cannot be read. -/
theorem exists_of_mapM_eq_error {f : α → Except ε β} {as : List α} {e : ε}
    (h : as.mapM f = .error e) : ∃ a ∈ as, f a = .error e := by
  induction as with
  | nil => cases h
  | cons a rest ih =>
    rw [List.mapM_cons, bind_eq_error_iff] at h
    rcases h with hfirst | ⟨b, _, hmore⟩
    · exact ⟨a, List.mem_cons_self, hfirst⟩
    · rw [bind_eq_error_iff] at hmore
      rcases hmore with hrest | ⟨_, _, hreturn⟩
      · obtain ⟨c, hc, herror⟩ := ih hrest
        exact ⟨c, List.mem_cons_of_mem a hc, herror⟩
      · cases hreturn

end

/-- What texts of one sort say, and the faults of those that say nothing. -/
structure Meaning (α : Type) where
  Says : String → α → Prop
  Faults : String → ReadFault → Prop

/-- Reading gives what a text says and fails with one of its faults. -/
structure Meaning.ReadBy {α : Type} (m : Meaning α) (read : String → Except ReadFault α) : Prop where
  ok_iff : ∀ {text a}, read text = .ok a ↔ m.Says text a
  fault : ∀ {text fault}, read text = .error fault → m.Faults text fault
  /-- A text that says something has no fault. -/
  sound : ∀ {text a fault}, m.Says text a → ¬ m.Faults text fault

namespace Meaning

def bare (text : String) : List Char := Text.trim text.toList

def lowered (text : String) : String := String.ofList (Text.lowercase (bare text))

def verbatim : Meaning String where
  Says text a := a = text
  Faults _ _ := False

def plain : Meaning String where
  Says text a := a = lowered text
  Faults _ _ := False

def flag : Meaning Bool where
  Says text b := lowered text ∈ if b then ["true", "1", "yes"] else ["false", "0", "no"]
  Faults text fault := fault = .boolean (lowered text) ∧
    lowered text ∉ ["true", "1", "yes", "false", "0", "no"]

def word : Meaning Nat where
  Says text n := Numeral.read (UInt64.size - 1) (bare text) = .ok n
  Faults text fault :=
    ∃ e, Numeral.read (UInt64.size - 1) (bare text) = .error e ∧ fault = .numeral e

/-- A word is a number of seconds. -/
def interval : Meaning Duration where
  Says text d := ∃ n, word.Says text n ∧ d.nanos = n * 1000000000
  Faults := word.Faults

def target : Meaning Duration where
  Says text d := ∃ x, Decimal.readFloat (bare text) = .ok x ∧ Duration.ofFloatSeconds x = .ok d
  Faults text fault := (∃ e, Decimal.readFloat (bare text) = .error e ∧ fault = .literal e) ∨
    ∃ x e, Decimal.readFloat (bare text) = .ok x ∧ Duration.ofFloatSeconds x = .error e ∧
      fault = .seconds e

/-- Every number of the object is one of seconds. -/
def overrides (numbers? : NumbersReader) : Meaning (Dict String Duration) where
  Says text targets := ∃ numbers, numbers? text = some numbers ∧
    List.Forall₂ (fun e e' => e'.1 = e.1 ∧ Duration.ofFloatSeconds e.2 = .ok e'.2)
      numbers.entries targets.entries
  Faults text fault := (numbers? text = none ∧ fault = .json) ∨
    ∃ numbers, numbers? text = some numbers ∧ ∃ e ∈ numbers.entries, ∃ e',
      Duration.ofFloatSeconds e.2 = .error e' ∧ fault = .seconds e'

def names : Meaning (List String) where
  Says text xs := Text.Listing text (xs.map String.toList)
  Faults _ _ := False

def statuses : Meaning (List Nat) where
  Says text codes := ∃ xs, Text.Listing text xs ∧
    List.Forall₂ (fun x n => Numeral.read (UInt16.size - 1) x = .ok n) xs codes
  Faults text fault := ∃ xs, Text.Listing text xs ∧ ∃ x ∈ xs, ∃ e,
    Numeral.read (UInt16.size - 1) x = .error e ∧ fault = .status (String.ofList x) e

variable {numbers? : NumbersReader}

theorem verbatim_readBy : verbatim.ReadBy .ok where
  ok_iff := ⟨fun h => (Except.ok.inj h).symm, fun h => congrArg Except.ok h.symm⟩
  fault h := nomatch h
  sound _ h := h

theorem plain_readBy : plain.ReadBy (.ok ∘ plainWord) where
  ok_iff := ⟨fun h => (Except.ok.inj h).symm, fun h => congrArg Except.ok h.symm⟩
  fault h := nomatch h
  sound _ h := h

theorem readBool_eq (text : String) : readBool text =
    if lowered text ∈ ["true", "1", "yes"] then .ok true
    else if lowered text ∈ ["false", "0", "no"] then .ok false
    else .error (.boolean (lowered text)) := by
  simp only [List.mem_cons, List.not_mem_nil, or_false]
  rfl

theorem flag_readBy : flag.ReadBy readBool where
  ok_iff {text b} := by
    rw [readBool_eq]
    have hboth : lowered text ∈ ["true", "1", "yes"] → lowered text ∉ ["false", "0", "no"] := by
      simp only [List.mem_cons, List.not_mem_nil, or_false]
      rintro (h | h | h) <;> rw [h] <;> decide
    split_ifs with hyes hno <;> cases b <;> simp_all [flag]
  fault {text fault} h := by
    rw [readBool_eq] at h
    split_ifs at h with hyes hno
    obtain rfl := Except.error.inj h
    exact ⟨rfl, by simp_all⟩
  sound {text b fault} h := by
    rintro ⟨_, hnone⟩
    cases b <;> simp_all [flag]

theorem word_readBy : word.ReadBy readWord where
  ok_iff := mapError_eq_ok_iff
  fault h := by
    obtain ⟨e, he, rfl⟩ := mapError_eq_error_iff.mp h
    exact ⟨e, he, rfl⟩
  sound h := by
    rintro ⟨e, he, _⟩
    cases h.symm.trans he

theorem interval_readBy : interval.ReadBy readInterval where
  ok_iff {text d} := by
    rw [readInterval, map_eq_ok_iff]
    refine exists_congr fun n => ?_
    rw [word_readBy.ok_iff]
    refine and_congr_right fun hn => ?_
    have hnanos : (Duration.ofSeconds n).nanos = n * 1000000000 := by
      have hle : n ≤ UInt64.size - 1 := Numeral.le_of_read hn
      refine Nat.min_eq_left ?_
      rw [greatestNanos, nanosPerSecond]
      simp only [UInt64.size] at hle
      omega
    rw [← hnanos, Duration.ext_iff, eq_comm]
  fault h := word_readBy.fault (map_eq_error_iff.mp h)
  sound := by
    rintro text d fault ⟨n, hn, _⟩
    exact word_readBy.sound hn

theorem target_readBy : target.ReadBy readTarget where
  ok_iff {text d} := by
    simp only [readTarget, bind_eq_ok_iff, mapError_eq_ok_iff]
    rfl
  fault {text fault} h := by
    simp only [readTarget, bind_eq_error_iff, mapError_eq_error_iff, mapError_eq_ok_iff] at h
    rcases h with ⟨e, he, rfl⟩ | ⟨x, hx, e, he, rfl⟩
    · exact .inl ⟨e, he, rfl⟩
    · exact .inr ⟨x, e, hx, he, rfl⟩
  sound := by
    rintro text d fault ⟨x, hx, hd⟩ (⟨e, he, _⟩ | ⟨y, e, hy, he, _⟩)
    · cases hx.symm.trans he
    · obtain rfl := Except.ok.inj (hx.symm.trans hy)
      cases hd.symm.trans he

theorem readOverride_eq_ok_iff {e : String × Float} {e' : String × Duration} :
    readOverride e = .ok e' ↔ e'.1 = e.1 ∧ Duration.ofFloatSeconds e.2 = .ok e'.2 := by
  simp only [readOverride, bind_eq_ok_iff, mapError_eq_ok_iff]
  constructor
  · rintro ⟨d, hd, heq⟩
    obtain rfl := Except.ok.inj heq
    exact ⟨rfl, hd⟩
  · rintro ⟨hname, hd⟩
    exact ⟨e'.2, hd, by rw [← hname]; rfl⟩

/-- The targets have the names of the numbers. -/
theorem keys_eq_of_forall₂ {es : List (String × Float)} {es' : List (String × Duration)}
    (h : List.Forall₂ (fun e e' => e'.1 = e.1 ∧ Duration.ofFloatSeconds e.2 = .ok e'.2) es es') :
    es'.map Prod.fst = es.map Prod.fst := by
  induction h with
  | nil => rfl
  | cons he _ ih => rw [List.map_cons, List.map_cons, he.1, ih]

theorem overrides_readBy : (overrides numbers?).ReadBy (readOverrides numbers?) where
  ok_iff {text targets} := by
    show _ ↔ ∃ numbers, numbers? text = some numbers ∧ _
    rw [readOverrides]
    cases numbers? text with
    | none => simp
    | some numbers =>
      simp only [map_eq_ok_iff, mapM_eq_ok_iff, readOverride_eq_ok_iff, Option.some.injEq,
        exists_eq_left']
      constructor
      · rintro ⟨es, hes, hofList⟩
        have hnodup : (es.map Prod.fst).Nodup := keys_eq_of_forall₂ hes ▸ numbers.nodup
        rwa [(Dict.ofList_eq_iff targets hnodup).mp hofList] at hes
      · intro hes
        exact ⟨targets.entries, hes, (Dict.ofList_eq_iff targets targets.nodup).mpr rfl⟩
  fault {text fault} h := by
    rw [readOverrides] at h
    cases hnumbers : numbers? text with
    | none =>
      rw [hnumbers] at h
      exact .inl ⟨hnumbers, (Except.error.inj h).symm⟩
    | some numbers =>
      rw [hnumbers] at h
      obtain ⟨e, he, herror⟩ := exists_of_mapM_eq_error (map_eq_error_iff.mp h)
      refine .inr ⟨numbers, hnumbers, e, he, ?_⟩
      rw [readOverride, bind_eq_error_iff, mapError_eq_error_iff] at herror
      rcases herror with ⟨e', he', rfl⟩ | ⟨_, _, hreturn⟩
      · exact ⟨e', he', rfl⟩
      · cases hreturn
  sound := by
    rintro text targets fault ⟨numbers, hnumbers, hes⟩
      (⟨hnone, _⟩ | ⟨numbers', hnumbers', e, he, e', he', _⟩)
    · cases hnumbers.symm.trans hnone
    · obtain rfl := Option.some.inj (hnumbers.symm.trans hnumbers')
      obtain ⟨_, _, hd⟩ := exists_of_forall₂ hes he
      cases hd.symm.trans he'

theorem names_readBy : names.ReadBy readNames where
  ok_iff {text xs} := by
    have hinj : Function.Injective String.toList := fun _ _ => String.toList_inj.mp
    have hback : String.toList ∘ String.ofList = id := funext fun _ => String.toList_ofList
    show _ ↔ Text.Listing text (xs.map String.toList)
    rw [readNames, Text.listing_iff, Except.ok.injEq, ← hinj.list_map.eq_iff, List.map_map,
      hback, List.map_id]
  fault h := nomatch h
  sound _ h := h

theorem statuses_readBy : statuses.ReadBy readStatuses where
  ok_iff {text codes} := by
    rw [readStatuses, mapM_eq_ok_iff]
    simp only [readStatus, mapError_eq_ok_iff, statuses, Text.listing_iff, exists_eq_left']
    rfl
  fault {text fault} h := by
    obtain ⟨x, hx, herror⟩ := exists_of_mapM_eq_error h
    obtain ⟨e, he, rfl⟩ := mapError_eq_error_iff.mp herror
    exact ⟨_, Text.listing_iff.mpr rfl, x, hx, e, he, rfl⟩
  sound := by
    rintro text codes fault ⟨xs, hxs, hcodes⟩ ⟨xs', hxs', x, hx, e, he, _⟩
    obtain rfl := (Text.listing_iff.mp hxs).symm.trans (Text.listing_iff.mp hxs')
    obtain ⟨_, hn⟩ := exists_of_forall₂ hcodes hx
    cases hn.symm.trans he

end Meaning

end Settings

end Telemetry
