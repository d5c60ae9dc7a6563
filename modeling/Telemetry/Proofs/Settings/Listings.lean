import Telemetry.Settings.Environment
import Mathlib.Data.List.DropRight

/-!
# Listings

A listing writes items between commas, each with any blanks around it, and may have empty items among
them. Reading it gives the items back, texts as well as numbers in their decimal digits.
-/
namespace Telemetry

namespace Text

/-- Nothing but blank characters. -/
def Blank (cs : List Char) : Prop := ∀ c ∈ cs, isBlank c = true

instance (cs : List Char) : Decidable (Blank cs) :=
  decidable_of_iff (cs.all isBlank = true) List.all_eq_true

/-- A text that can stand in a listing. -/
structure Item (cs : List Char) : Prop where
  ne_nil : cs ≠ []
  noComma : ',' ∉ cs
  trimmed : trim cs = cs

/-- What stands between the commas where the items are listed. -/
inductive Lists : List (List Char) → List (List Char) → Prop
  | nil : Lists [] []
  | item {before after item : List Char} {ps items : List (List Char)} (hbefore : Blank before)
      (hafter : Blank after) (h : Lists ps items) :
      Lists ((before ++ item ++ after) :: ps) (item :: items)
  | empty {blanks : List Char} {ps items : List (List Char)} (hblanks : Blank blanks)
      (h : Lists ps items) : Lists (blanks :: ps) items

def written (ps : List (List Char)) : String := String.ofList (List.intercalate [','] ps)

theorem trim_padded {before after : List Char} (hbefore : Blank before) (hafter : Blank after)
    (cs : List Char) : trim (before ++ cs ++ after) = trim cs := by
  have hend : after.dropWhile isBlank = [] := List.dropWhile_eq_nil_iff.mpr hafter
  rw [trim, List.append_assoc, List.dropWhile_append_of_pos hbefore, List.dropWhile_append]
  split_ifs with hcs
  · rw [hend, trim, List.isEmpty_iff.mp hcs]
  · rw [List.reverse_append, List.dropWhile_append_of_pos (by simpa [Blank] using hafter), trim]

theorem trim_of_blank {cs : List Char} (h : Blank cs) : trim cs = [] := by
  have hnone : Blank [] := nofun
  have hcs := trim_padded h hnone []
  rwa [List.append_nil, List.append_nil] at hcs

theorem trim_eq_self {cs : List Char} (h : ∀ c ∈ cs, isBlank c = false) : trim cs = cs := by
  have hkeep {l : List Char} (hl : ∀ c ∈ l, isBlank c = false) : l.dropWhile isBlank = l := by
    cases l with
    | nil => rfl
    | cons c rest => rw [List.dropWhile_cons_of_neg (by simp [hl c List.mem_cons_self])]
  rw [trim, hkeep h, hkeep (by simpa using h), List.reverse_reverse]

theorem isBlank_of_isDigit {c : Char} (h : c.isDigit = true) : isBlank c = false := by
  have hrange : 48 ≤ c.toNat ∧ c.toNat ≤ 57 := Char.isDigit_iff_toNat.mp h
  simp only [isBlank, Bool.or_eq_false_iff, Bool.and_eq_false_iff, decide_eq_false_iff_not,
    beq_eq_false_iff_ne]
  omega

theorem comma_notMem_of_blank {cs : List Char} (h : Blank cs) : ',' ∉ cs := fun hmem =>
  absurd (h ',' hmem) (by decide)

variable {mark : Char}

theorem pieces_of_notMem {cs : List Char} (h : mark ∉ cs) : pieces mark cs = [cs] := by
  induction cs with
  | nil => rfl
  | cons c rest ih =>
    rw [List.mem_cons, not_or] at h
    rw [pieces, if_neg (Ne.symm h.1), ih h.2]

theorem pieces_append {cs : List Char} (h : mark ∉ cs) (rest : List Char) :
    pieces mark (cs ++ mark :: rest) = cs :: pieces mark rest := by
  induction cs with
  | nil => rw [List.nil_append, pieces, if_pos rfl]
  | cons c cs ih =>
    rw [List.mem_cons, not_or] at h
    rw [List.cons_append, pieces, if_neg (Ne.symm h.1), ih h.2]

theorem pieces_intercalate {ps : List (List Char)} (hne : ps ≠ []) (h : ∀ p ∈ ps, mark ∉ p) :
    pieces mark (List.intercalate [mark] ps) = ps := by
  induction ps with
  | nil => exact absurd rfl hne
  | cons p rest ih =>
    rw [List.forall_mem_cons] at h
    cases rest with
    | nil => rw [List.intercalate_singleton, pieces_of_notMem h.1]
    | cons q rest =>
      rw [List.intercalate_cons_cons, List.append_assoc, List.singleton_append,
        pieces_append h.1, ih (List.cons_ne_nil q rest) h.2]

namespace Lists

variable {ps xs : List (List Char)}

theorem comma_notMem (h : Lists ps xs) (hxs : ∀ x ∈ xs, Item x) : ∀ p ∈ ps, ',' ∉ p := by
  induction h with
  | nil => simp
  | item hbefore hafter _ ih =>
    rw [List.forall_mem_cons] at hxs
    refine List.forall_mem_cons.mpr ⟨?_, ih hxs.2⟩
    simp only [List.mem_append, not_or]
    exact ⟨⟨comma_notMem_of_blank hbefore, hxs.1.noComma⟩, comma_notMem_of_blank hafter⟩
  | empty hblanks _ ih => exact List.forall_mem_cons.mpr ⟨comma_notMem_of_blank hblanks, ih hxs⟩

theorem trimmed (h : Lists ps xs) (hxs : ∀ x ∈ xs, Item x) :
    (ps.map trim).filter (! ·.isEmpty) = xs := by
  induction h with
  | nil => rfl
  | item hbefore hafter _ ih =>
    rw [List.forall_mem_cons] at hxs
    rw [List.map_cons, trim_padded hbefore hafter, hxs.1.trimmed,
      List.filter_cons_of_pos (by simp [hxs.1.ne_nil]), ih hxs.2]
  | empty hblanks _ ih =>
    rw [List.map_cons, trim_of_blank hblanks, List.filter_cons_of_neg (by simp), ih hxs]

theorem items_written (h : Lists ps xs) (hxs : ∀ x ∈ xs, Item x) :
    items (written ps).toList = xs := by
  rw [written, String.toList_ofList, items]
  cases ps with
  | nil =>
    cases h
    rfl
  | cons p rest =>
    rw [pieces_intercalate (List.cons_ne_nil p rest) (h.comma_notMem hxs)]
    exact h.trimmed hxs

end Lists

end Text

namespace Numeral

theorem le_ofDigitChars (n : Nat) (ds : List Char) : n ≤ Nat.ofDigitChars 10 ds n := by
  induction ds generalizing n with
  | nil => exact le_rfl
  | cons c rest ih =>
    rw [Nat.ofDigitChars_cons]
    exact le_trans (by omega) (ih _)

theorem readDigits_eq_ok {limit n : Nat} {ds : List Char} (hdigits : ∀ c ∈ ds, c.isDigit = true)
    (h : Nat.ofDigitChars 10 ds n ≤ limit) :
    readDigits limit n ds = .ok (Nat.ofDigitChars 10 ds n) := by
  induction ds generalizing n with
  | nil => rfl
  | cons c rest ih =>
    rw [List.forall_mem_cons] at hdigits
    rw [Nat.ofDigitChars_cons] at h ⊢
    have hfits : 10 * n + digitValue c ≤ limit := (le_ofDigitChars _ rest).trans h
    rw [readDigits, if_pos hdigits.1, if_pos hfits]
    exact ih hdigits.2 h

theorem le_of_readDigits {limit n m : Nat} {cs : List Char} (hn : n ≤ limit)
    (h : readDigits limit n cs = .ok m) : m ≤ limit := by
  induction cs generalizing n with
  | nil => exact Except.ok.inj h ▸ hn
  | cons c rest ih =>
    rw [readDigits] at h
    split_ifs at h with hdigit hfits
    exact ih hfits h

theorem le_of_read {limit m : Nat} {cs : List Char} (h : read limit cs = .ok m) : m ≤ limit := by
  unfold read at h
  split at h
  · cases h
  · cases h
  · exact le_of_readDigits (Nat.zero_le limit) h
  · exact le_of_readDigits (Nat.zero_le limit) h

theorem isDigit_of_mem_write {n : Nat} {c : Char} (h : c ∈ write n) : c.isDigit = true :=
  Nat.isDigit_of_mem_toDigits (by decide) (by decide) h

theorem read_of_isDigit {limit : Nat} {cs : List Char} (hne : cs ≠ [])
    (h : ∀ c ∈ cs, c.isDigit = true) : read limit cs = readDigits limit 0 cs := by
  have hplus : '+' ∉ cs := fun hmem => absurd (h '+' hmem) (by decide)
  unfold read
  split
  · exact absurd rfl hne
  · exact absurd List.mem_cons_self hplus
  · exact absurd List.mem_cons_self hplus
  · rfl

theorem read_write {limit n : Nat} (h : n ≤ limit) : read limit (write n) = .ok n := by
  have hne : write n ≠ [] := Nat.toDigits_ne_nil
  have hdigits : ∀ c ∈ write n, c.isDigit = true := fun _ => isDigit_of_mem_write
  have hvalue : Nat.ofDigitChars 10 (write n) 0 = n :=
    Nat.ofDigitChars_toDigits (by decide) (by decide)
  rw [read_of_isDigit hne hdigits, readDigits_eq_ok hdigits (by rwa [hvalue]), hvalue]

theorem item_write (n : Nat) : Text.Item (write n) where
  ne_nil := Nat.toDigits_ne_nil
  noComma h := absurd (isDigit_of_mem_write h) (by decide)
  trimmed := Text.trim_eq_self fun _ h => Text.isBlank_of_isDigit (isDigit_of_mem_write h)

end Numeral

namespace Settings

variable {ps : List (List Char)}

theorem readNames_written {names : List String} (hnames : ∀ x ∈ names, Text.Item x.toList)
    (h : Text.Lists ps (names.map String.toList)) : readNames (Text.written ps) = .ok names := by
  have hback : String.ofList ∘ String.toList = id := funext fun _ => String.ofList_toList
  rw [readNames, h.items_written (List.forall_mem_map.mpr hnames), List.map_map, hback, List.map_id]

theorem mapM_readStatus {codes : List Nat} (h : ∀ n ∈ codes, n ≤ greatestStatus) :
    (codes.map Numeral.write).mapM readStatus = .ok codes := by
  induction codes with
  | nil => rfl
  | cons n rest ih =>
    rw [List.forall_mem_cons] at h
    rw [List.map_cons, List.mapM_cons, readStatus, Numeral.read_write h.1, ih h.2]
    rfl

theorem readStatuses_written {codes : List Nat} (hcodes : ∀ n ∈ codes, n ≤ greatestStatus)
    (h : Text.Lists ps (codes.map Numeral.write)) :
    readStatuses (Text.written ps) = .ok codes := by
  have hitems : ∀ x ∈ codes.map Numeral.write, Text.Item x :=
    List.forall_mem_map.mpr fun n _ => Numeral.item_write n
  rw [readStatuses, h.items_written hitems, mapM_readStatus hcodes]

end Settings

end Telemetry
