/-!
# Finite maps in order of first insertion

A `Dict` is a list of entries whose keys are pairwise distinct. A new key goes to the end and a
known key keeps its place, so the order of the entries tells which name was met first. Everything
else about a `Dict` is said through `get?`.
-/
namespace Telemetry

structure Dict (α β : Type) where
  entries : List (α × β)
  nodup : (entries.map Prod.fst).Nodup

namespace Dict

variable {α β γ : Type}

def empty : Dict α β := ⟨[], List.nodup_nil⟩

instance : Inhabited (Dict α β) := ⟨empty⟩

def keys (d : Dict α β) : List α := d.entries.map Prod.fst

def values (d : Dict α β) : List β := d.entries.map Prod.snd

def size (d : Dict α β) : Nat := d.entries.length

def isEmpty (d : Dict α β) : Bool := d.entries.isEmpty

def mapValues (f : β → γ) (d : Dict α β) : Dict α γ where
  entries := d.entries.map fun e => (e.1, f e.2)
  nodup := by rw [List.map_map]; exact d.nodup

variable [DecidableEq α]

/-- The value under the first entry for `k`. -/
def find (k : α) : List (α × β) → Option β
  | [] => none
  | (a, b) :: rest => if a = k then some b else find k rest

/-- Replaces the value of the first entry for `k`, or appends an entry. -/
def put (k : α) (v : β) : List (α × β) → List (α × β)
  | [] => [(k, v)]
  | (a, b) :: rest => if a = k then (a, v) :: rest else (a, b) :: put k v rest

theorem mem_keys_put {k x : α} {v : β} {l : List (α × β)} :
    x ∈ (put k v l).map Prod.fst ↔ x = k ∨ x ∈ l.map Prod.fst := by
  induction l with
  | nil => simp [put]
  | cons e rest ih =>
    obtain ⟨a, b⟩ := e
    by_cases h : a = k
    · simp [put, h]
    · simp only [put, if_neg h, List.map_cons, List.mem_cons, ih]
      exact ⟨fun h => h.elim (fun h => .inr (.inl h)) fun h => h.elim .inl fun h => .inr (.inr h),
        fun h => h.elim (fun h => .inr (.inl h)) fun h => h.elim .inl fun h => .inr (.inr h)⟩

theorem nodup_put {k : α} {v : β} {l : List (α × β)} (h : (l.map Prod.fst).Nodup) :
    ((put k v l).map Prod.fst).Nodup := by
  induction l with
  | nil => simp [put]
  | cons e rest ih =>
    obtain ⟨a, b⟩ := e
    by_cases ha : a = k
    · simpa [put, ha] using h
    · simp only [List.map_cons, List.nodup_cons] at h
      simp only [put, if_neg ha, List.map_cons, List.nodup_cons]
      exact ⟨fun hm => (mem_keys_put.1 hm).elim ha h.1, ih h.2⟩

theorem find_put (k x : α) (v : β) (l : List (α × β)) :
    find x (put k v l) = if x = k then some v else find x l := by
  induction l with
  | nil =>
    by_cases h : x = k
    · simp [put, find, h]
    · simp [put, find, h, Ne.symm h]
  | cons e rest ih =>
    obtain ⟨a, b⟩ := e
    by_cases ha : a = k
    · by_cases hx : x = k
      · simp [put, find, ha, hx]
      · simp [put, find, ha, hx, Ne.symm hx]
    · by_cases hx : a = x
      · simp [put, find, ha, ← hx]
      · simp only [put, if_neg ha, find, if_neg hx, ih]

def get? (d : Dict α β) (k : α) : Option β := find k d.entries

def contains (d : Dict α β) (k : α) : Bool := (d.get? k).isSome

def insert (d : Dict α β) (k : α) (v : β) : Dict α β := ⟨put k v d.entries, nodup_put d.nodup⟩

/-- Puts under `k` what `f` makes of the value found there. -/
def alter (d : Dict α β) (k : α) (f : Option β → β) : Dict α β := d.insert k (f (d.get? k))

/-- Inserts the entries one after the other, so the last of several for one key stays. -/
def insertAll (d : Dict α β) (es : List (α × β)) : Dict α β :=
  es.foldl (fun d e => d.insert e.1 e.2) d

def ofList (es : List (α × β)) : Dict α β := empty.insertAll es

@[simp] theorem get?_empty (x : α) : (empty : Dict α β).get? x = none := rfl

theorem get?_insert (d : Dict α β) (k x : α) (v : β) :
    (d.insert k v).get? x = if x = k then some v else d.get? x := find_put k x v d.entries

theorem mem_keys_insert {d : Dict α β} {k x : α} {v : β} :
    x ∈ (d.insert k v).keys ↔ x = k ∨ x ∈ d.keys := mem_keys_put

theorem find_eq_none_iff {x : α} {l : List (α × β)} :
    find x l = none ↔ x ∉ l.map Prod.fst := by
  induction l with
  | nil => simp [find]
  | cons e rest ih =>
    obtain ⟨a, b⟩ := e
    by_cases h : a = x
    · simp [find, h]
    · simp only [find, if_neg h, ih, List.map_cons, List.mem_cons, not_or]
      exact ⟨fun hr => ⟨fun hx => h hx.symm, hr⟩, fun hr => hr.2⟩

theorem get?_eq_none_iff {d : Dict α β} {x : α} : d.get? x = none ↔ x ∉ d.keys :=
  find_eq_none_iff

end Dict

end Telemetry
