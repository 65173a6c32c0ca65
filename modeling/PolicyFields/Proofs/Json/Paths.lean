import PolicyFields.Proofs.Json.Record
import PolicyFields.Settings.Keys

/-!
# The parts of a value

* `Value.at?_replaceAt?` — **what is put at some keys is found there**;
  `Value.field?_replaceAt?_of_ne`: the members beside it stay.
* `Value.exists_replaceAt?_iff` — a part can be replaced iff it is there.
* `Value.isRecord_replaceAt?` — replacing a member keeps a record one.
* `Value.at?_sortKeys_cons` — putting an object with distinct keys in key order moves no member.
* `Value.record_without` — a member that is no field of a record may be left out.
* `Value.Mentions` — the keys that occur in a value.
-/

namespace PolicyFields.Json.Value

variable {part v w x new : Value} {ks js : List String} {k : String}
  {members : List (String × Value)}

/-! ## Parts of parts -/

@[simp] theorem at?_nil (v : Value) : v.at? [] = some v := rfl

theorem at?_cons (k : String) (ks : List String) (v : Value) :
    v.at? (k :: ks) = (v.member? k).bind (at? ks) := rfl

@[simp] theorem at?_singleton (k : String) (v : Value) : v.at? [k] = v.member? k := by
  rw [at?_cons]
  cases v.member? k <;> rfl

theorem at?_append (ks js : List String) (v : Value) :
    v.at? (ks ++ js) = (v.at? ks).bind (at? js) := by
  induction ks generalizing v with
  | nil => rfl
  | cons k ks ih =>
    rw [List.cons_append, at?_cons, at?_cons, Option.bind_assoc]
    exact Option.bind_congr fun x _ => ih x

/-! ## Parts replaced -/

/-- Members of which the one with a key has another value. -/
def withMember (k : String) (new : Value) (members : List (String × Value)) :
    List (String × Value) :=
  members.map fun m => if m.1 == k then (k, new) else m

theorem keys_withMember (k : String) (new : Value) (members : List (String × Value)) :
    (withMember k new members).map Prod.fst = members.map Prod.fst := by
  rw [withMember, List.map_map]
  refine List.map_congr_left fun m _ => ?_
  by_cases h : m.1 = k <;> simp [h]

theorem lookup_withMember_self (h : members.lookup k = some x) :
    (withMember k new members).lookup k = some new := by
  induction members with
  | nil => cases h
  | cons m members ih =>
    rw [Dict.lookup_cons_eq_ite] at h
    rw [withMember, List.map_cons, Dict.lookup_cons_eq_ite]
    by_cases hm : m.1 = k
    · simp [hm]
    · rw [if_neg (Ne.symm hm)] at h
      simpa [withMember, hm, Ne.symm hm] using ih h

theorem lookup_withMember_of_ne {l : String} (h : l ≠ k) :
    (withMember k new members).lookup l = members.lookup l := by
  induction members with
  | nil => rfl
  | cons m members ih =>
    rw [withMember, List.map_cons, Dict.lookup_cons_eq_ite, Dict.lookup_cons_eq_ite, ← ih]
    by_cases hm : m.1 = k
    · simp [hm, h, withMember]
    · simp [hm, withMember]

/-- A part below a member is replaced in that member. -/
theorem replaceAt?_cons_eq_some_iff : replaceAt? part (k :: ks) v = some w ↔
    ∃ members x new, v = .object members ∧ members.lookup k = some x ∧
      replaceAt? part ks x = some new ∧ w = .object (withMember k new members) := by
  cases v with
  | object members =>
    rw [replaceAt?]
    cases hx : members.lookup k with
    | none => simp [hx]
    | some x =>
      simp only [Option.map_eq_some_iff, object.injEq]
      constructor
      · rintro ⟨new, hnew, rfl⟩
        exact ⟨members, x, new, rfl, hx, hnew, rfl⟩
      · rintro ⟨members, y, new, rfl, hy, hnew, rfl⟩
        obtain rfl := Option.some.inj (hx.symm.trans hy)
        exact ⟨new, hnew, rfl⟩
  | _ => simp [replaceAt?]

/-- **A part can be replaced iff it is there.** -/
theorem exists_replaceAt?_iff :
    (∃ w, replaceAt? part ks v = some w) ↔ ∃ x, v.at? ks = some x := by
  induction ks generalizing v with
  | nil => exact iff_of_true ⟨part, rfl⟩ ⟨v, rfl⟩
  | cons k ks ih =>
    simp only [replaceAt?_cons_eq_some_iff, at?_cons, Option.bind_eq_some_iff]
    constructor
    · rintro ⟨w, members, x, new, rfl, hx, hnew, -⟩
      obtain ⟨y, hy⟩ := ih.1 ⟨new, hnew⟩
      exact ⟨y, x, hx, hy⟩
    · rintro ⟨y, x, hx, hy⟩
      obtain ⟨new, hnew⟩ := ih.2 ⟨y, hy⟩
      cases v with
      | object members => exact ⟨_, members, x, new, rfl, hx, hnew, rfl⟩
      | _ => cases hx

/-- **What is put at some keys is found there.** -/
theorem at?_replaceAt? (h : replaceAt? part ks v = some w) : w.at? ks = some part := by
  induction ks generalizing v w with
  | nil => exact (Option.some.inj h) ▸ rfl
  | cons k ks ih =>
    obtain ⟨members, x, new, rfl, hx, hnew, rfl⟩ := replaceAt?_cons_eq_some_iff.1 h
    rw [at?_cons, member?, lookup_withMember_self hx]
    exact ih hnew

/-- Above the keys of a part, it is replaced in each part that holds it. -/
theorem exists_at?_replaceAt? (h : replaceAt? part (js ++ ks) v = some w) :
    ∃ x new, v.at? js = some x ∧ w.at? js = some new ∧ replaceAt? part ks x = some new := by
  induction js generalizing v w with
  | nil => exact ⟨v, w, rfl, rfl, h⟩
  | cons j js ih =>
    obtain ⟨members, x, new, rfl, hx, hnew, rfl⟩ := replaceAt?_cons_eq_some_iff.1 h
    obtain ⟨y, new', hy, hnew', hreplace⟩ := ih hnew
    refine ⟨y, new', ?_, ?_, hreplace⟩
    · rw [at?_cons, member?, hx]
      exact hy
    · rw [at?_cons, member?, lookup_withMember_self hx]
      exact hnew'

/-- Replacing a member keeps a record one. -/
theorem isRecord_replaceAt? (h : replaceAt? part (k :: ks) v = some w) (names : List String) :
    w.IsRecord names ↔ v.IsRecord names := by
  obtain ⟨members, x, new, rfl, -, -, rfl⟩ := replaceAt?_cons_eq_some_iff.1 h
  rw [IsRecord, IsRecord, keys_withMember]

/-- A value of which a member has been replaced is an object. -/
theorem field?_replaceAt? (h : replaceAt? part (k :: ks) v = some w) (names : List String)
    (l : String) : w.field? names l = w.member? l := by
  obtain ⟨members, x, new, -, -, -, rfl⟩ := replaceAt?_cons_eq_some_iff.1 h
  rfl

/-- Members beside the one in which something is replaced stay. -/
theorem field?_replaceAt?_of_ne (h : replaceAt? part (k :: ks) v = some w) (names : List String)
    {l : String} (hl : l ≠ k) : w.field? names l = v.member? l := by
  obtain ⟨members, x, new, rfl, -, -, rfl⟩ := replaceAt?_cons_eq_some_iff.1 h
  exact lookup_withMember_of_ne hl

/-! ## Key order -/

theorem sortMembers_eq (members : List (String × Value)) :
    sortMembers members = members.map fun m => (m.1, m.2.sortKeys) := by
  induction members with
  | nil => rfl
  | cons m members ih => rw [sortMembers, ih, List.map_cons]

theorem sortKeys_object (members : List (String × Value)) :
    (object members).sortKeys =
      ofDict (Dict.ofList (members.map fun m => (m.1, m.2.sortKeys))) := by
  rw [sortKeys, sortMembers_eq, ofDict]

/-- **Key order moves no member** of an object with distinct keys. -/
theorem at?_sortKeys_cons (h : (members.map Prod.fst).Nodup) (k : String) (ks : List String) :
    (object members).sortKeys.at? (k :: ks) =
      (members.lookup k).bind fun x => x.sortKeys.at? ks := by
  have hkeys : ((members.map fun m => (m.1, m.2.sortKeys)).map Prod.fst).Nodup := by
    rwa [List.map_map]
  have hmember : (object members).sortKeys.member? k = (members.lookup k).map sortKeys := by
    rw [sortKeys_object, ← Dict.lookup_map fun _ => sortKeys]
    exact Dict.find?_ofList_of_nodup hkeys k
  rw [at?_cons, hmember, Option.bind_map]
  rfl

/-! ## Members left out -/

/-- The value without the members of a key. -/
def without (key : String) : Value → Value
  | object members => object (members.filter fun m => m.1 != key)
  | v => v

theorem lookup_filter_of_ne {l key : String} (h : l ≠ key) :
    (members.filter fun m => m.1 != key).lookup l = members.lookup l := by
  induction members with
  | nil => rfl
  | cons m members ih =>
    rw [List.filter_cons, Dict.lookup_cons_eq_ite, ← ih]
    by_cases hm : m.1 = key
    · rw [if_neg (by simp [hm]), if_neg (hm ▸ h)]
    · rw [if_pos (by simp [hm]), Dict.lookup_cons_eq_ite]

/-- **A member that is no field of a record may be left out.** -/
theorem record_without {names : List String} {Fields : (String → Option Value) → Prop}
    {key : String} (hkey : key ∉ names)
    (hfields : ∀ get get', (∀ name ∈ names, get name = get' name) → (Fields get ↔ Fields get')) :
    (v.without key).Record names Fields ↔ v.Record names Fields := by
  cases v with
  | object members =>
    refine and_congr (forall₂_congr fun name hname => ?_) (hfields _ _ fun name hname => ?_)
    · have hne : name ≠ key := fun h => hkey (h ▸ hname)
      have hkeys : (members.filter fun m => m.1 != key).map Prod.fst =
          (members.map Prod.fst).filter (· != key) :=
        (List.filter_map (p := (· != key)) (f := Prod.fst) (l := members)).symm
      rw [hkeys, List.count_filter (by simp [hne])]
    · exact lookup_filter_of_ne fun h => hkey (h ▸ hname)
  | _ => exact Iff.rfl

/-! ## Keys that occur -/

/-- The keys of objects occur in a value, each behind those that lead to its object. -/
inductive Mentions : Value → List String → Prop
  | member {members : List (String × Value)} {key : String} {x : Value} :
    (key, x) ∈ members → Mentions (.object members) [key]
  | inside {members : List (String × Value)} {key : String} {x : Value} {keys : List String} :
    (key, x) ∈ members → Mentions x keys → Mentions (.object members) (key :: keys)
  | item {items : List Value} {x : Value} {keys : List String} :
    x ∈ items → Mentions x keys → Mentions (.array items) keys

/-- A field that does not come twice is found. -/
theorem lookup_of_mem {key : String} (hcount : (members.map Prod.fst).count key ≤ 1)
    (h : (key, x) ∈ members) : members.lookup key = some x := by
  induction members with
  | nil => cases h
  | cons m members ih =>
    rw [List.map_cons, List.count_cons] at hcount
    rw [Dict.lookup_cons_eq_ite]
    rcases List.mem_cons.1 h with rfl | h
    · exact if_pos rfl
    · have hmem : 0 < (members.map Prod.fst).count key :=
        List.count_pos_iff.2 (List.mem_map_of_mem h)
      have hne : key ≠ m.1 := by
        rintro rfl
        rw [if_pos (beq_self_eq_true _)] at hcount
        omega
      rw [if_neg hne]
      exact ih (by omega) h

end PolicyFields.Json.Value
