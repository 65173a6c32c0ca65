import Mathlib.Data.List.Dedup
import Mathlib.Data.List.Perm.Basic
import PolicyFields.Dict

/-!
# Laws of dictionaries

A dictionary is read through `find?`; every operation is described by what it does to lookups.

* `find?_eq_some_iff` — lookups are the entries, because keys are distinct.
* `ext_find?` — **two dictionaries with the same lookups are equal**, since the order of the
  entries is determined by their keys.
* `find?_map`, `find?_filter`, `find?_filterMap`, `find?_insert`, `find?_ofList` — the operations.
* `keys_ofList_perm` — `ofList` keeps one entry for every key.
-/

namespace PolicyFields.Dict

universe u v

variable {α : Type u} {β : Type v}

/-! ## Keys -/

theorem keys_sorted (d : Dict α) : d.keys.Pairwise (· < ·) := List.pairwise_map.2 d.sorted

theorem keys_nodup (d : Dict α) : d.keys.Nodup :=
  d.keys_sorted.imp fun h => by rintro rfl; exact String.lt_irrefl _ h

theorem length_keys (d : Dict α) : d.keys.length = d.size := List.length_map _

theorem mem_keys_iff {d : Dict α} {k : String} : k ∈ d.keys ↔ ∃ v, (k, v) ∈ d.entries := by
  simp [keys]

/-! ## Lookup -/

theorem lookup_cons_eq_ite (e : String × α) (es : List (String × α)) (k : String) :
    (e :: es).lookup k = if k = e.1 then some e.2 else es.lookup k := by
  rw [List.lookup_cons]
  by_cases h : k = e.1
  · simp [h]
  · simp [h, beq_eq_false_iff_ne.2 h]

theorem lookup_map (f : String → α → β) (es : List (String × α)) (k : String) :
    (es.map fun e => (e.1, f e.1 e.2)).lookup k = (es.lookup k).map (f k) := by
  induction es with
  | nil => rfl
  | cons e es ih =>
    rw [List.map_cons, lookup_cons_eq_ite, lookup_cons_eq_ite, ih]
    by_cases hk : k = e.1 <;> simp [hk]

theorem lookup_eq_some_iff_mem {es : List (String × α)} (h : (es.map Prod.fst).Nodup)
    {k : String} {v : α} : es.lookup k = some v ↔ (k, v) ∈ es := by
  induction es with
  | nil => simp
  | cons e es ih =>
    obtain ⟨l, w⟩ := e
    rw [List.map_cons, List.nodup_cons] at h
    rw [lookup_cons_eq_ite, List.mem_cons, Prod.mk.injEq]
    by_cases hk : k = l
    · subst hk
      have hnot : (k, v) ∉ es := fun hm => h.1 (List.mem_map.2 ⟨(k, v), hm, rfl⟩)
      simp [hnot, eq_comm]
    · simp [hk, ih h.2]

theorem find?_eq_some_iff {d : Dict α} {k : String} {v : α} :
    d.find? k = some v ↔ (k, v) ∈ d.entries :=
  lookup_eq_some_iff_mem d.keys_nodup

theorem isSome_find?_iff {d : Dict α} {k : String} : (d.find? k).isSome ↔ k ∈ d.keys := by
  simp [Option.isSome_iff_exists, find?_eq_some_iff, mem_keys_iff]

/-- **Dictionaries are determined by their lookups.** -/
theorem ext_find? {d e : Dict α} (h : ∀ k, d.find? k = e.find? k) : d = e := by
  have hmem : ∀ x, x ∈ d.entries ↔ x ∈ e.entries := by
    rintro ⟨k, v⟩
    rw [← find?_eq_some_iff, ← find?_eq_some_iff, h k]
  have hperm : d.entries.Perm e.entries :=
    (List.perm_ext_iff_of_nodup d.keys_nodup.of_map e.keys_nodup.of_map).2 hmem
  refine Dict.ext (hperm.eq_of_pairwise ?_ d.sorted e.sorted)
  intro a b _ _ hab hba
  exact absurd hba (String.lt_asymm hab)

/-! ## Operations -/

theorem find?_map (f : String → α → β) (d : Dict α) (k : String) :
    (d.map f).find? k = (d.find? k).map (f k) :=
  lookup_map f d.entries k

theorem find?_filter (p : String → α → Bool) (d : Dict α) (k : String) :
    (d.filter p).find? k = (d.find? k).filter (p k) := by
  ext v
  rw [find?_eq_some_iff, Option.filter_eq_some_iff, find?_eq_some_iff]
  exact List.mem_filter

theorem find?_filter_ne (d : Dict α) (l k : String) :
    (d.filter fun name _ => name != l).find? k = if k = l then none else d.find? k := by
  rw [find?_filter]
  by_cases h : k = l <;> cases d.find? k <;> simp [h, Option.filter]

theorem find?_filterMap (f : String → α → Option β) (d : Dict α) (k : String) :
    (d.filterMap f).find? k = (d.find? k).bind (f k) := by
  ext b
  rw [find?_eq_some_iff, Option.bind_eq_some_iff]
  simp only [filterMap, List.mem_filterMap, Option.map_eq_some_iff, Prod.exists, Prod.mk.injEq,
    find?_eq_some_iff]
  constructor
  · rintro ⟨l, v, hm, c, hc, rfl, rfl⟩
    exact ⟨v, hm, hc⟩
  · rintro ⟨v, hm, hc⟩
    exact ⟨k, v, hm, b, hc, rfl, rfl⟩

theorem lookup_insertEntry (k : String) (v : α) (es : List (String × α)) (l : String) :
    (insertEntry k v es).lookup l = if l = k then some v else es.lookup l := by
  induction es with
  | nil => by_cases h : l = k <;> simp [insertEntry, h]
  | cons e es ih =>
    unfold insertEntry
    split
    · rw [lookup_cons_eq_ite]
    · rename_i hlt
      split
      · rename_i hgt
        have hne : e.1 ≠ k := fun he => String.lt_irrefl _ (he ▸ hgt)
        rw [lookup_cons_eq_ite, lookup_cons_eq_ite, ih]
        by_cases h : l = e.1 <;> simp [h, hne]
      · rename_i hgt
        have hek : e.1 = k := String.le_antisymm (String.not_lt.1 hlt) (String.not_lt.1 hgt)
        rw [lookup_cons_eq_ite, lookup_cons_eq_ite, hek]
        by_cases h : l = k <;> simp [h]

theorem find?_insert (d : Dict α) (k : String) (v : α) (l : String) :
    (d.insert k v).find? l = if l = k then some v else d.find? l :=
  lookup_insertEntry k v d.entries l

/-- Of several entries with one key the last counts. -/
theorem find?_ofList (es : List (String × α)) (k : String) :
    (ofList es).find? k = es.reverse.lookup k := by
  -- The fold starts from any dictionary: what it does not overwrite stays.
  suffices ∀ d : Dict α, (es.foldl (fun d e => d.insert e.1 e.2) d).find? k =
      (es.reverse.lookup k).or (d.find? k) from by
    rw [ofList, this]; simp [find?]
  induction es with
  | nil => intro d; rfl
  | cons e es ih =>
    intro d
    rw [List.foldl_cons, ih, find?_insert, List.reverse_cons, List.lookup_append,
      Option.or_assoc]
    congr 1
    rw [lookup_cons_eq_ite]
    by_cases h : k = e.1 <;> simp [h]

theorem mem_of_find?_ofList {es : List (String × α)} {k : String} {v : α}
    (h : (ofList es).find? k = some v) : (k, v) ∈ es := by
  rw [find?_ofList, List.lookup_eq_some_iff] at h
  obtain ⟨before, after, hes, -⟩ := h
  rw [← List.mem_reverse, hes]
  exact List.mem_append_right _ List.mem_cons_self

theorem find?_ofList_of_nodup {es : List (String × α)} (h : (es.map Prod.fst).Nodup)
    (k : String) : (ofList es).find? k = es.lookup k := by
  have hr : (es.reverse.map Prod.fst).Nodup := by rwa [List.map_reverse, List.nodup_reverse]
  ext v
  rw [find?_ofList, lookup_eq_some_iff_mem h, lookup_eq_some_iff_mem hr, List.mem_reverse]

theorem mem_keys_ofList {es : List (String × α)} {k : String} :
    k ∈ (ofList es).keys ↔ k ∈ es.map Prod.fst := by
  rw [← isSome_find?_iff, find?_ofList, List.lookup_isSome_iff]
  simp

/-- Entries with distinct keys are all kept. -/
theorem entries_ofList_perm {es : List (String × α)} (h : (es.map Prod.fst).Nodup) :
    (ofList es).entries.Perm es := by
  rw [List.perm_ext_iff_of_nodup (ofList es).keys_nodup.of_map h.of_map]
  rintro ⟨k, v⟩
  rw [← find?_eq_some_iff, find?_ofList_of_nodup h, lookup_eq_some_iff_mem h]

/-- The order in which entries with distinct keys are put does not matter. -/
theorem ofList_perm {es es' : List (String × α)} (hp : es.Perm es')
    (h : (es.map Prod.fst).Nodup) : ofList es = ofList es' := by
  have h' : (es'.map Prod.fst).Nodup := (hp.map _).nodup_iff.1 h
  refine ext_find? fun k => Option.ext fun v => ?_
  rw [find?_ofList_of_nodup h, find?_ofList_of_nodup h', lookup_eq_some_iff_mem h,
    lookup_eq_some_iff_mem h', hp.mem_iff]

/-- One entry is kept for every key. -/
theorem keys_ofList_perm (es : List (String × α)) :
    (ofList es).keys.Perm (es.map Prod.fst).dedup := by
  rw [List.perm_ext_iff_of_nodup (ofList es).keys_nodup (List.nodup_dedup _)]
  intro k
  rw [mem_keys_ofList, List.mem_dedup]

/-- The entries of a dictionary make that dictionary. -/
theorem ofList_entries (d : Dict α) : ofList d.entries = d :=
  ext_find? fun k => find?_ofList_of_nodup d.keys_nodup k

theorem keys_filter (p : String → Bool) (d : Dict α) :
    (d.filter fun k _ => p k).keys = d.keys.filter p :=
  (List.filter_map (p := p) (f := Prod.fst) (l := d.entries)).symm

end PolicyFields.Dict
