import PolicyFields.Proofs.Json.Reading
import PolicyFields.Proofs.Number.Whole
import PolicyFields.Proofs.Settings.Changes

/-!
# What a value says of settings

* `Value.Agrees` — equal values, numbers being compared numerically.
* `Settings.Leaf.Becomes` — what a setting is once it has been given a value: that value, but a
  threshold is rounded to 53 bits.
* `Settings.Leaf.Given` — what a value that is put at some keys gives to a setting;
  `Settings.becomes_of_given`: **every setting becomes what it is given**.
* `Settings.named_or_without` — **the keys that occur in a value name settings**, but for those of
  members that are passed over.
-/

namespace PolicyFields

open Json (Value InRange)
open Number (IsExactly nearestInt nearestInt_eq_iff)

variable {v w x : Value}

/-! ## Numbers compared numerically -/

/-- Equal values, numbers being compared numerically. -/
inductive Json.Value.Agrees : Value → Value → Prop
  | same (v : Value) : Agrees v v
  | whole {n : Int} {x : Float} : IsExactly x n → Agrees (.int n) (.float x)

theorem Json.Value.agrees_float_iff {n : Int} {x : Float} :
    (Value.int n).Agrees (.float x) ↔ IsExactly x n := by
  constructor
  · rintro ⟨⟩
    assumption
  · exact .whole

theorem Json.Value.agrees_string_iff {t : String} : (Value.string t).Agrees w ↔ w = .string t := by
  constructor
  · rintro ⟨⟩
    rfl
  · rintro rfl
    exact .same _

theorem Json.Number.isExactly_toFloat {n : Int} (h : InRange n) :
    IsExactly (Number.int n).toFloat (nearestInt n) := by
  obtain ⟨hlow, hhigh⟩ := h
  have hlog : n.natAbs.log2 < 1022 := by
    by_cases hn : n.natAbs = 0
    · rw [hn]
      decide
    · have hshort : n.natAbs.log2 < 65 := (Nat.log2_lt hn).2 (by omega)
      omega
  change IsExactly (if n < 0 then -Float.ofNat n.natAbs else Float.ofNat n.natAbs) _
  split
  · rename_i hneg
    rw [nearestInt, Int.sign_eq_neg_one_of_neg hneg, Int.neg_one_mul]
    exact PolicyFields.Number.isExactly_neg_ofNat (by omega) hlog
  · have hsame : nearestInt n = PolicyFields.Number.nearestWhole n.natAbs := by
      by_cases hn : n = 0
      · subst hn
        rfl
      · rw [nearestInt, Int.sign_eq_one_of_pos (by omega), Int.one_mul]
    rw [hsame]
    exact PolicyFields.Number.isExactly_ofNat (by omega)

namespace Settings

variable {s s' : Settings} {name : String} {k : Leaf} {g : Group} {ks path : List String}

/-- A value as near to the one given as the setting can hold: a threshold has 53 bits. -/
def Leaf.rounded : Leaf → Value → Value
  | threshold, .number (.int n) => .int (nearestInt n)
  | _, v => v

/-- The setting can hold the value as it is. -/
def Leaf.Fits (k : Leaf) (v : Value) : Prop :=
  k = threshold → ∀ n : Int, v = .int n → 2 ^ (n.natAbs.log2 - 52) ∣ n.natAbs

theorem Leaf.rounded_eq_of_fits (h : k.Fits v) : k.rounded v = v := by
  unfold rounded
  split
  · rw [nearestInt_eq_iff.2 (h rfl _ rfl)]
    rfl
  · rfl

/-- A setting that has been given one value has become another: the same, if it can hold it. -/
structure Leaf.Becomes (k : Leaf) (given value : Value) : Prop where
  rounded : (k.rounded given).Agrees value
  fits : k.Fits given → given.Agrees value

theorem Leaf.becomes_of_takes {n : Nat} (hv : v.Readable n) (h : k.kind.Takes v w) :
    k.Becomes v w := by
  suffices (k.rounded v).Agrees w from ⟨this, fun hfits => rounded_eq_of_fits hfits ▸ this⟩
  cases k with
  | threshold =>
    cases h with
    | float x => exact .same _
    | whole n => exact .whole (Json.Number.isExactly_toFloat hv.inRange)
  | _ => cases h; exact .same _

/-! ## Settings that are given -/

/-- What a value that is put at some keys gives to a setting: itself if these are the keys of the
setting, its member if they are those of the group. -/
inductive Leaf.Given (k : Leaf) (ks : List String) (v : Value) : Value → Prop
  | itself : ks = k.keys → Given k ks v v
  | member {x : Value} : ks = [k.group.key] → v.field? k.group.names k.key = some x → Given k ks v x

theorem Leaf.Given.readable {n : Nat} (hv : v.Readable n) (h : k.Given ks v x) : x.Readable n := by
  cases h with
  | itself => exact hv
  | member _ hx => exact hv.field hx

/-- What is given to a setting stands below the keys at which the value is put. -/
theorem Leaf.Given.exists_keys (h : k.Given ks v x) : ∃ rest, ks ++ rest = k.keys := by
  cases h with
  | itself hks => exact ⟨[], (List.append_nil _).trans hks⟩
  | member hks => exact ⟨[k.key], hks ▸ rfl⟩

theorem takes_of_given (h : s.replace name v = .ok s') (hx : k.Given (keys name) v x) :
    k.kind.Takes x (k.value s') := by
  cases hx with
  | itself hname => exact ((replace_leaf_iff hname).1 h).1
  | member hname hx =>
    have hleaf := ((replace_group_iff hname).1 h).1.2 k rfl
    rw [hx] at hleaf
    exact hleaf

/-- **Every setting becomes what it is given.** -/
theorem becomes_of_given {n : Nat} (hv : v.Readable n) (h : s.replace name v = .ok s')
    (hx : k.Given (keys name) v x) : k.Becomes x (k.value s') :=
  Leaf.becomes_of_takes (hx.readable hv) (takes_of_given h hx)

/-! ## Keys that occur -/

theorem Kind.Takes.mentions_nothing {κ : Kind} (h : κ.Takes v w) : ¬ v.Mentions path := by
  intro hpath
  cases h <;> cases hpath

theorem Group.mem_names_iff {key : String} :
    key ∈ g.names ↔ ∃ k : Leaf, k.group = g ∧ k.key = key := by
  have hnames : g.names = g.leaves.map Leaf.key := by cases g <;> rfl
  simp only [hnames, List.mem_map, mem_leaves_iff]

/-- A member that is no setting is passed over. -/
theorem replace_without {key : String} (hname : keys name = [g.key]) (hkey : key ∉ g.names) :
    s.replace name (v.without key) = .ok s' ↔ s.replace name v = .ok s' := by
  have hfields (get get' : String → Option Value) (hget : ∀ name ∈ g.names, get name = get' name) :
      (∀ k : Leaf, k.group = g → k.Holds (get k.key) s') ↔
        ∀ k : Leaf, k.group = g → k.Holds (get' k.key) s' :=
    forall₂_congr fun k hk => by rw [hget k.key (Group.mem_names_iff.2 ⟨k, hk, rfl⟩)]
  rw [replace_group_iff hname, replace_group_iff hname]
  exact and_congr_left fun _ => Json.Value.record_without hkey hfields

/-- **The keys that occur in a value name settings**, but for those of members that are passed
over. -/
theorem named_or_without (h : s.replace name v = .ok s') (hpath : v.Mentions path) :
    (∃ part, s'.tree.at? (keys name ++ path) = some part) ∨
      ∃ key rest, path = key :: rest ∧ v.Mentions [key] ∧
        s'.tree.at? (keys name ++ [key]) = none ∧ s.replace name (v.without key) = .ok s' := by
  obtain ⟨g, hname⟩ | ⟨k, hname⟩ := name_of_replace h
  · obtain ⟨hrecord, hleaves⟩ := ((replace_group_iff hname).1 h).1
    -- What a field has mentions nothing.
    have hfield {k : Leaf} (hk : k.group = g) {x : Value} {path : List String}
        (hx : v.field? g.names k.key = some x) : ¬ x.Mentions path := by
      have hleaf := hleaves k hk
      rw [hx] at hleaf
      exact hleaf.mentions_nothing
    have hunknown {key : String} {rest : List String} (hmember : v.Mentions [key])
        (hkey : key ∉ g.names) : ∃ key' rest', key :: rest = key' :: rest' ∧ v.Mentions [key'] ∧
          s'.tree.at? (keys name ++ [key']) = none ∧ s.replace name (v.without key') = .ok s' := by
      refine ⟨key, rest, rfl, hmember, ?_, (replace_without hname hkey).2 h⟩
      refine Option.eq_none_iff_forall_ne_some.2 fun part hpart => hkey ?_
      rw [hname] at hpart
      obtain ⟨g', hg', hmember⟩ := at?_tree_cons.1 hpart
      obtain rfl := Group.key_inj.1 hg'
      obtain ⟨k, hk, hkey', -⟩ := (at?_groupValue _ _).1 hmember
      exact Group.mem_names_iff.2 ⟨k, hk, hkey'⟩
    cases hpath with
    | @member members key x hmem =>
      by_cases hkey : key ∈ g.names
      · obtain ⟨k, rfl, rfl⟩ := Group.mem_names_iff.1 hkey
        refine .inl ⟨k.value s', ?_⟩
        rw [hname]
        exact at?_tree_leaf k s'
      · exact .inr (hunknown (.member hmem) hkey)
    | @inside members key x rest hmem hrest =>
      by_cases hkey : key ∈ g.names
      · obtain ⟨k, hk, rfl⟩ := Group.mem_names_iff.1 hkey
        exact absurd hrest (hfield hk (Json.Value.lookup_of_mem (hrecord _ hkey) hmem))
      · exact .inr (hunknown (.member hmem) hkey)
    | @item items x path hmem hrest =>
      obtain ⟨i, hi, rfl⟩ := List.getElem_of_mem hmem
      have hlength : i < g.names.length := Nat.lt_of_lt_of_le hi hrecord
      obtain ⟨k, hk, hkey⟩ := Group.mem_names_iff.1 (List.getElem_mem hlength)
      have hnames : g.names.Nodup := by cases g <;> decide
      have hindex : g.names.idxOf k.key = i := hkey ▸ hnames.idxOf_getElem i hlength
      refine absurd hrest (hfield hk ?_)
      rw [Json.Value.field?, hindex, List.getElem?_eq_getElem hi]
  · exact absurd hpath ((replace_leaf_iff hname).1 h).1.mentions_nothing

end Settings

end PolicyFields
