/-!
# Dictionaries in key order

A `Dict` maps texts to values and lists its entries in the order of the keys (by code point, which
is the byte order of their UTF-8 form). The order is part of the type, so two dictionaries with the
same entries are written alike.

* `insert`, `find?`, `ofList` — an entry put twice keeps the last value.
* `map`, `filterMap` — change values; keys stay in order.
-/

namespace PolicyFields

universe u v

/-- Entries in strictly increasing order of their keys. -/
structure Dict (α : Type u) where
  entries : List (String × α)
  sorted : entries.Pairwise fun a b => a.1 < b.1

namespace Dict

variable {α : Type u} {β : Type v}

/-- No entries. -/
def empty : Dict α := ⟨[], .nil⟩

instance : Inhabited (Dict α) := ⟨empty⟩

/-- Puts `(k, v)` into an ordered list of entries. -/
def insertEntry (k : String) (v : α) : List (String × α) → List (String × α)
  | [] => [(k, v)]
  | e :: r => if k < e.1 then (k, v) :: e :: r
    else if e.1 < k then e :: insertEntry k v r
    else (k, v) :: r

theorem fst_of_mem_insertEntry {k : String} {v : α} {es : List (String × α)} {e : String × α}
    (h : e ∈ insertEntry k v es) : e = (k, v) ∨ e ∈ es := by
  induction es with
  | nil => simpa [insertEntry] using h
  | cons d r ih =>
    unfold insertEntry at h
    split at h
    · simpa using h
    · split at h
      · rcases List.mem_cons.1 h with rfl | h
        · simp
        · rcases ih h with h | h <;> simp [h]
      · rcases List.mem_cons.1 h with rfl | h <;> simp [*]

theorem sorted_insertEntry {k : String} {v : α} {es : List (String × α)}
    (h : es.Pairwise fun a b => a.1 < b.1) :
    (insertEntry k v es).Pairwise fun a b => a.1 < b.1 := by
  induction es with
  | nil => simp [insertEntry]
  | cons d r ih =>
    have hd := List.pairwise_cons.1 h
    unfold insertEntry
    split
    · next hk =>
      refine List.pairwise_cons.2 ⟨fun e he => ?_, h⟩
      rcases List.mem_cons.1 he with rfl | he
      · exact hk
      · exact String.lt_trans hk (hd.1 e he)
    · next hk =>
      split
      · next hk' =>
        refine List.pairwise_cons.2 ⟨fun e he => ?_, ih hd.2⟩
        rcases fst_of_mem_insertEntry he with rfl | he
        · exact hk'
        · exact hd.1 e he
      · next hk' =>
        have hkd : d.1 = k := String.le_antisymm (String.not_lt.1 hk) (String.not_lt.1 hk')
        exact List.pairwise_cons.2 ⟨fun e he => hkd ▸ hd.1 e he, hd.2⟩

/-- `d` with `v` under `k`, in place of what stood there. -/
def insert (d : Dict α) (k : String) (v : α) : Dict α :=
  ⟨insertEntry k v d.entries, sorted_insertEntry d.sorted⟩

/-- The dictionary of a list of entries; of two with one key the later counts. -/
def ofList (es : List (String × α)) : Dict α := es.foldl (fun d e => d.insert e.1 e.2) empty

/-- The value under `k`. -/
def find? (d : Dict α) (k : String) : Option α := d.entries.lookup k

/-- Whether `k` has a value. -/
def contains (d : Dict α) (k : String) : Bool := (d.find? k).isSome

/-- The keys in order. -/
def keys (d : Dict α) : List String := d.entries.map Prod.fst

/-- The values in the order of their keys. -/
def values (d : Dict α) : List α := d.entries.map Prod.snd

/-- Number of entries. -/
def size (d : Dict α) : Nat := d.entries.length

/-- Every value replaced, given its key. -/
def map (f : String → α → β) (d : Dict α) : Dict β :=
  ⟨d.entries.map fun e => (e.1, f e.1 e.2), List.pairwise_map.2 d.sorted⟩

/-- The entries to which `f` gives a value. -/
def filterMap (f : String → α → Option β) (d : Dict α) : Dict β :=
  ⟨d.entries.filterMap fun e => (f e.1 e.2).map fun b => (e.1, b), by
    refine List.Pairwise.filterMap _ (fun a b hab c hc e he => ?_) d.sorted
    obtain ⟨_, _, rfl⟩ := Option.map_eq_some_iff.1 hc
    obtain ⟨_, _, rfl⟩ := Option.map_eq_some_iff.1 he
    exact hab⟩

/-- The entries that `p` holds of. -/
def filter (p : String → α → Bool) (d : Dict α) : Dict α :=
  ⟨d.entries.filter fun e => p e.1 e.2, d.sorted.filter _⟩

@[ext] theorem ext {d e : Dict α} (h : d.entries = e.entries) : d = e := by
  cases d; cases e; cases h; rfl

@[simp] theorem keys_map (f : String → α → β) (d : Dict α) : (d.map f).keys = d.keys := by
  simp [keys, map]

@[simp] theorem entries_empty : (empty : Dict α).entries = [] := rfl

end Dict

end PolicyFields
