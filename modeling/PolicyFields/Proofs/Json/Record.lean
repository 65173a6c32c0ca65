import Mathlib.Data.List.Nodup
import PolicyFields.Json.Source
import PolicyFields.Proofs.Dict
import PolicyFields.Proofs.Traversal

/-!
# Reading shapes from values

What a value must be for a reader to accept it, said without the reader.

* `readText_eq_ok_iff`, `readNat_eq_ok_iff`, `readList_eq_ok_iff`, … — the plain shapes.
* `Value.IsRecord`, `Value.field?` — records as they are written, as an object or as a list of the
  fields in order.
* `Shape.read_eq_ok_iff` — **a record is read iff it is written as one and each of its fields can be
  read**; the order in which the members of an object stand does not matter.
-/

namespace PolicyFields.Json

open Traversal (bind_eq_ok_iff mapM_eq_ok_iff)

/-! ## Plain shapes -/

section Plain

variable {α : Type} {v : Value}

theorem bind_view (v : Value) (f : View Value → Except Error α) :
    (Source.view v >>= f) = f v.view := rfl

theorem pure_eq_ok {ε : Type} (a : α) : (pure a : Except ε α) = .ok a := rfl

theorem throw_eq_error {ε : Type} (e : ε) : (throw e : Except ε α) = .error e := rfl

theorem readText_eq_ok_iff {s : String} : readText v = .ok s ↔ v = .string s := by
  rw [readText, readString, bind_view]
  cases v <;> simp [Value.view, pure_eq_ok, throw_eq_error]

theorem readBool_eq_ok_iff {b : Bool} : readBool v = .ok b ↔ v = .bool b := by
  rw [readBool, bind_view]
  cases v <;> simp [Value.view, pure_eq_ok, throw_eq_error]

theorem readNumber_eq_ok_iff {n : Number} : readNumber v = .ok n ↔ v = .number n := by
  rw [readNumber, bind_view]
  cases v <;> simp [Value.view, pure_eq_ok, throw_eq_error]

theorem readNat_eq_ok_iff {n : Nat} : readNat v = .ok n ↔ v = .nat n := by
  rw [readNat, bind_view]
  cases v with
  | number m =>
    cases m with
    | int i =>
      simp only [Value.view, Value.nat, Value.number.injEq, Number.int.injEq]
      split
      · simp only [throw_eq_error, reduceCtorEq, false_iff]
        omega
      · simp only [pure_eq_ok, Except.ok.injEq]
        omega
    | float x => simp [Value.view, Value.nat, throw_eq_error]
  | _ => simp [Value.view, Value.nat, throw_eq_error]

theorem readOption_eq_ok_iff {item : Value → Except Error α} {a : Option α} :
    readOption item v = .ok a ↔
      (v = .null ∧ a = none) ∨ (v ≠ .null ∧ ∃ b, a = some b ∧ item v = .ok b) := by
  rw [readOption, bind_view]
  cases v <;> cases item _ <;> simp [Value.view, pure_eq_ok, Functor.map, Except.map, eq_comm]

theorem readList_eq_ok_iff {item : Value → Except Error α} {as : List α} :
    readList item v = .ok as ↔
      ∃ items, v = .array items ∧ List.Forall₂ (fun x a => item x = .ok a) items as := by
  rw [readList, bind_view]
  cases v with
  | array items =>
    simp only [Value.view, Value.array.injEq, exists_eq_left', ← mapM_eq_ok_iff]
    cases items.mapM item <;> simp [orElse, bind, Except.bind]
  | _ => simp [Value.view, throw_eq_error]

/-- The members of an object as a dictionary. -/
theorem readDict_value_eq_ok_iff {d : Dict Value} :
    readDict Source.value v = .ok d ↔ ∃ members, v = .object members ∧ d = Dict.ofList members := by
  rw [readDict, bind_view]
  cases v with
  | object members =>
    have hmembers : (members.map fun m => ((.ok m.1 : Except Error String), m.2)).mapM (fun m => do
        let key ← m.1
        return (key, ← (Source.value m.2 : Except Error Value))) = .ok members := by
      rw [mapM_eq_ok_iff, List.forall₂_map_left_iff, List.forall₂_same]
      exact fun m _ => rfl
    simp only [Value.view, hmembers, Value.object.injEq, exists_eq_left']
    simp [orElse, bind, Except.bind, eq_comm]
  | _ => simp [Value.view, throw_eq_error]

end Plain

/-! ## Written records -/

/-- The value is written as a record with these fields: an object that has none of them twice, or a
list with at most one item for each. -/
def Value.IsRecord (names : List String) : Value → Prop
  | object members => ∀ name ∈ names, (members.map Prod.fst).count name ≤ 1
  | array items => items.length ≤ names.length
  | _ => False

/-- The value of a field of a written record. -/
def Value.field? (names : List String) (v : Value) (name : String) : Option Value :=
  match v with
  | object members => members.lookup name
  | array items => items[names.idxOf name]?
  | _ => none

/-- In an object with distinct keys no field comes twice. -/
theorem Value.isRecord_ofDict (names : List String) (d : Dict Value) :
    (Value.ofDict d).IsRecord names :=
  fun _ _ => List.nodup_iff_count_le_one.1 d.keys_nodup _

section Records

variable {α β ρ : Type} {get : String → Option Value} {f g : Field Value ρ}
  {fs : List (Field Value ρ)} {r r' : ρ}

/-- The fields of a record put one after the other; a field without a value stays as it is. -/
def fill (get : String → Option Value) : List (Field Value ρ) → ρ → Except Error ρ
  | [], r => .ok r
  | f :: fs, r => match get f.name with
    | none => fill get fs r
    | some x => f.put x r >>= fill get fs

theorem fill_cons_of_none (h : get f.name = none) : fill get (f :: fs) r = fill get fs r := by
  rw [fill, h]

theorem fill_cons_of_some {x : Value} (h : get f.name = some x) :
    fill get (f :: fs) r = f.put x r >>= fill get fs := by
  rw [fill, h]

theorem fill_congr {get' : String → Option Value} (h : ∀ f ∈ fs, get f.name = get' f.name) :
    fill get fs = fill get' fs := by
  funext r
  induction fs generalizing r with
  | nil => rfl
  | cons f fs ih =>
    have hfs := ih fun g hg => h g (List.mem_cons_of_mem f hg)
    simp only [fill, h f List.mem_cons_self]
    cases get' f.name with
    | none => exact hfs r
    | some x => simp only [funext hfs]

/-! ### Fields that do not get in each other's way -/

/-- It does not matter which of two fields is put first. -/
def Field.Commutes (f g : Field Value ρ) : Prop :=
  ∀ x y r r', (f.put x r >>= g.put y) = .ok r' ↔ (g.put y r >>= f.put x) = .ok r'

theorem Field.Commutes.symm (h : f.Commutes g) : g.Commutes f := fun x y r r' => (h y x r r').symm

section Parts

variable (name : String) (item : Value → Except Error α) (set : α → ρ → ρ)

@[simp] theorem Field.name_optional : (Field.optional name item set).name = name := rfl

@[simp] theorem Field.name_mandatory : (Field.mandatory name item set).name = name := rfl

@[simp] theorem Field.required_optional : (Field.optional name item set).required = false := rfl

@[simp] theorem Field.required_mandatory : (Field.mandatory name item set).required = true := rfl

end Parts

/-- The field is set to what is read from its value. -/
def Field.Sets (f : Field Value ρ) (item : Value → Except Error α) (set : α → ρ → ρ) : Prop :=
  ∀ x r, f.put x r = (item x).map fun a => set a r

theorem Field.sets_optional (name : String) (item : Value → Except Error α) (set : α → ρ → ρ) :
    (Field.optional name item set).Sets item set := by
  intro x r
  cases h : item x <;> simp [Field.optional, h, bind, Except.bind, Except.map, pure_eq_ok]

theorem Field.sets_mandatory (name : String) (item : Value → Except Error α) (set : α → ρ → ρ) :
    (Field.mandatory name item set).Sets item set :=
  Field.sets_optional name item set

/-- A field that holds nothing until it is set. -/
theorem Field.Sets.ofSome {item : Value → Except Error α} (set : Option α → ρ → ρ)
    (h : f.Sets item fun a => set (some a)) : f.Sets (fun x => (item x).map some) set := by
  intro x r
  rw [h x r]
  cases hx : item x <;> simp [Except.map, hx]

theorem Field.Sets.commutes {item : Value → Except Error α} {set : α → ρ → ρ}
    {item' : Value → Except Error β} {set' : β → ρ → ρ} (hf : f.Sets item set)
    (hg : g.Sets item' set') (h : ∀ a b r, set' b (set a r) = set a (set' b r)) :
    f.Commutes g := by
  intro x y r r'
  simp only [hf x, hg y]
  cases hx : item x <;> cases hy : item' y <;>
    simp [hf x, hg y, hx, hy, bind, Except.bind, Except.map, h]

/-! Fields that are set apart from each other commute, whether a list must have them or not. -/

section Commutes

variable {name name' : String} {item : Value → Except Error α} {set : α → ρ → ρ}
  {item' : Value → Except Error β} {set' : β → ρ → ρ}

@[simp] theorem Field.optional_commutes_optional
    (h : ∀ a b r, set' b (set a r) = set a (set' b r)) :
    (Field.optional name item set).Commutes (Field.optional name' item' set') :=
  (sets_optional _ _ _).commutes (sets_optional _ _ _) h

@[simp] theorem Field.optional_commutes_mandatory
    (h : ∀ a b r, set' b (set a r) = set a (set' b r)) :
    (Field.optional name item set).Commutes (Field.mandatory name' item' set') :=
  (sets_optional _ _ _).commutes (sets_mandatory _ _ _) h

@[simp] theorem Field.mandatory_commutes_optional
    (h : ∀ a b r, set' b (set a r) = set a (set' b r)) :
    (Field.mandatory name item set).Commutes (Field.optional name' item' set') :=
  (sets_mandatory _ _ _).commutes (sets_optional _ _ _) h

@[simp] theorem Field.mandatory_commutes_mandatory
    (h : ∀ a b r, set' b (set a r) = set a (set' b r)) :
    (Field.mandatory name item set).Commutes (Field.mandatory name' item' set') :=
  (sets_mandatory _ _ _).commutes (sets_mandatory _ _ _) h

end Commutes

/-- What a field is: what is read from its value, or the default if it has none. -/
def Reads (item : Value → Except Error α) (default : α) : Option Value → α → Prop
  | none, a => a = default
  | some x, a => item x = .ok a

theorem Reads.unique {item : Value → Except Error α} {default a b : α} {o : Option Value}
    (ha : Reads item default o a) (hb : Reads item default o b) : a = b := by
  cases o with
  | none => exact ha.trans hb.symm
  | some x => exact Except.ok.inj (ha.symm.trans hb)

/-- A field whose default stands in the record before it is set. -/
theorem fill_cons {item : Value → Except Error α} {set : α → ρ → ρ} (hf : f.Sets item set)
    (default : α) (hdefault : set default r = r) : fill get (f :: fs) r = .ok r' ↔
      ∃ a, Reads item default (get f.name) a ∧ fill get fs (set a r) = .ok r' := by
  cases hget : get f.name with
  | none => simp [fill_cons_of_none hget, hdefault, Reads]
  | some x =>
    rw [fill_cons_of_some hget, hf x r, bind_eq_ok_iff]
    cases hx : item x <;> simp [Except.map, Reads, hx]

theorem exists_fill_nil_iff {Check : ρ → Prop} :
    (∃ r', fill get [] r = .ok r' ∧ Check r') ↔ Check r := by
  simp [fill]

/-- The fields of a record that is checked afterwards, one at a time. -/
theorem exists_fill_cons_iff {item : Value → Except Error α} {set : α → ρ → ρ}
    {Check : ρ → Prop} {Rest : α → Prop} (hf : f.Sets item set) (default : α)
    (hdefault : set default r = r)
    (hrest : ∀ a, (∃ r', fill get fs (set a r) = .ok r' ∧ Check r') ↔ Rest a) :
    (∃ r', fill get (f :: fs) r = .ok r' ∧ Check r') ↔
      ∃ a, Reads item default (get f.name) a ∧ Rest a := by
  simp only [fill_cons hf default hdefault, ← hrest]
  constructor
  · rintro ⟨r', ⟨a, ha, hr⟩, hcheck⟩
    exact ⟨a, ha, r', hr, hcheck⟩
  · rintro ⟨a, ha, r', hr, hcheck⟩
    exact ⟨r', ⟨a, ha, hr⟩, hcheck⟩

/-! ### Objects -/

/-- A member may be put before all others: its field is not in the way of theirs. -/
theorem put_then_fill (hf : f ∈ fs) (hnames : (fs.map Field.name).Nodup)
    (hcommutes : fs.Pairwise Field.Commutes) {get' : String → Option Value} {x : Value}
    (hget : get f.name = none) (hget' : get' f.name = some x)
    (hother : ∀ name, name ≠ f.name → get' name = get name) :
    (f.put x r >>= fill get fs) = .ok r' ↔ fill get' fs r = .ok r' := by
  induction fs generalizing r with
  | nil => cases hf
  | cons g fs ih =>
    obtain ⟨hgnames, hnames⟩ := List.nodup_cons.1 hnames
    obtain ⟨hgcommutes, hcommutes⟩ := List.pairwise_cons.1 hcommutes
    rcases List.mem_cons.1 hf with rfl | hf
    · have hsame : fill get fs = fill get' fs := by
        refine fill_congr fun g hg => (hother g.name ?_).symm
        exact fun h => hgnames (h ▸ List.mem_map_of_mem hg)
      have hskip : fill get (f :: fs) = fill get fs := funext fun r => fill_cons_of_none hget
      rw [hskip, fill_cons_of_some hget', hsame]
    · have hne : g.name ≠ f.name := fun h => hgnames (h ▸ List.mem_map_of_mem hf)
      cases hg : get g.name with
      | none =>
        have hskip : fill get (g :: fs) = fill get fs := funext fun r => fill_cons_of_none hg
        rw [hskip, fill_cons_of_none ((hother _ hne).trans hg)]
        exact ih hf hnames hcommutes
      | some y =>
        have hput : fill get (g :: fs) = fun r => g.put y r >>= fill get fs :=
          funext fun r => fill_cons_of_some hg
        rw [hput, fill_cons_of_some ((hother _ hne).trans hg), bind_eq_ok_iff]
        -- Both members put, in either order, then the rest.
        have hswap : (∃ b, f.put x r = .ok b ∧ (g.put y b >>= fill get fs) = .ok r') ↔
            ∃ c, (f.put x r >>= g.put y) = .ok c ∧ fill get fs c = .ok r' := by
          simp only [bind_eq_ok_iff]
          exact ⟨fun ⟨b, hb, c, hc, hr⟩ => ⟨c, ⟨b, hb, hc⟩, hr⟩,
            fun ⟨c, ⟨b, hb, hc⟩, hr⟩ => ⟨b, hb, c, hc, hr⟩⟩
        rw [hswap, bind_eq_ok_iff]
        constructor
        · rintro ⟨c, hc, hr⟩
          obtain ⟨b, hb, hc⟩ := bind_eq_ok_iff.1 (((hgcommutes f hf).symm x y r c).1 hc)
          exact ⟨b, hb, (ih hf hnames hcommutes).1 (bind_eq_ok_iff.2 ⟨c, hc, hr⟩)⟩
        · rintro ⟨b, hb, hr⟩
          obtain ⟨c, hc, hr⟩ := bind_eq_ok_iff.1 ((ih hf hnames hcommutes).2 hr)
          exact ⟨c, ((hgcommutes f hf) y x r c).1 (bind_eq_ok_iff.2 ⟨b, hb, hc⟩), hr⟩

/-- The fields of a kind of record. -/
def Shape.names (shape : Shape Value ρ) : List String := shape.fields.map Field.name

/-- The fields of the shape have distinct names, and none is in the way of another. -/
structure Shape.Regular (shape : Shape Value ρ) : Prop where
  names : shape.names.Nodup
  commutes : shape.fields.Pairwise Field.Commutes

variable {shape : Shape Value ρ}

theorem find?_name_eq_none {name : String} :
    (shape.fields.find? fun f => f.name == name) = none ↔ name ∉ shape.names := by
  simp [Shape.names, List.find?_eq_none]

theorem fill_lookup_nil :
    fill (List.lookup · ([] : List (String × Value))) fs r = .ok r := by
  induction fs with
  | nil => rfl
  | cons f fs ih => rw [fill_cons_of_none rfl, ih]

/-- A member that is no field is passed over. -/
theorem fill_lookup_cons_of_notMem {key : String} {x : Value} {members : List (String × Value)}
    (hkey : key ∉ shape.names) : fill (List.lookup · ((key, x) :: members)) shape.fields =
      fill (List.lookup · members) shape.fields := by
  refine fill_congr fun f hf => ?_
  have hne : f.name ≠ key := fun heq => hkey (heq ▸ List.mem_map_of_mem hf)
  rw [Dict.lookup_cons_eq_ite, if_neg hne]

/-- A member that does not come again is put before the others. -/
theorem put_then_fill_lookup (h : shape.Regular) (hf : f ∈ shape.fields) {x : Value}
    {members : List (String × Value)} (hfresh : f.name ∉ members.map Prod.fst) :
    (f.put x r >>= fill (List.lookup · members) shape.fields) = .ok r' ↔
      fill (List.lookup · ((f.name, x) :: members)) shape.fields r = .ok r' := by
  refine put_then_fill hf h.names h.commutes ?_ ?_ fun name hname => ?_
  · rw [List.lookup_eq_none_iff]
    exact fun e he => bne_iff_ne.2 fun heq => hfresh (heq ▸ List.mem_map_of_mem he)
  · rw [Dict.lookup_cons_eq_ite, if_pos rfl]
  · rw [Dict.lookup_cons_eq_ite, if_neg hname]

/-- **The members of an object are put iff no field comes twice and each can be put.** Their order
does not matter. -/
theorem Shape.putMembers_eq_ok_iff (h : shape.Regular) {seen : List String} (hseen : seen.Nodup)
    {members : List (String × Value)} :
    shape.putMembers seen (members.map fun m => (.ok m.1, m.2)) r = .ok r' ↔
      (∀ name ∈ shape.names, (members.map Prod.fst).count name + seen.count name ≤ 1) ∧
        fill (List.lookup · members) shape.fields r = .ok r' := by
  induction members generalizing seen r with
  | nil =>
    rw [fill_lookup_nil]
    simp [Shape.putMembers, List.nodup_iff_count_le_one.1 hseen]
  | cons m members ih =>
    obtain ⟨key, x⟩ := m
    simp only [List.map_cons, Shape.putMembers]
    split
    · rename_i hfind
      have hkey := find?_name_eq_none.1 hfind
      rw [fill_lookup_cons_of_notMem hkey]
      refine (ih hseen).trans (and_congr_left fun _ => forall₂_congr fun name hname => ?_)
      have hne : key ≠ name := by
        rintro rfl
        exact hkey hname
      rw [List.count_cons_of_ne hne]
    · rename_i f hfind
      have hf : f ∈ shape.fields := List.mem_of_find?_eq_some hfind
      obtain rfl : f.name = key := by simpa using List.find?_some hfind
      have hmem : f.name ∈ shape.names := List.mem_map_of_mem hf
      split
      · rename_i hcontains
        have hcount : 0 < seen.count f.name :=
          List.count_pos_iff.2 (List.contains_iff_mem.1 hcontains)
        refine iff_of_false (fun hr => by cases hr) fun ⟨honce, _⟩ => ?_
        have hbound := honce f.name hmem
        rw [List.count_cons_self] at hbound
        omega
      · rename_i hcontains
        have hfresh : f.name ∉ seen := fun hm => hcontains (List.contains_iff_mem.2 hm)
        have hcounts : ∀ name, (members.map Prod.fst).count name + (f.name :: seen).count name =
            (f.name :: members.map Prod.fst).count name + seen.count name := by
          intro name
          rw [List.count_cons, List.count_cons]
          omega
        rw [bind_eq_ok_iff]
        simp only [ih (List.nodup_cons.2 ⟨hfresh, hseen⟩), hcounts]
        -- The member counts once already, so it does not come again.
        have hput : (∀ name ∈ shape.names,
              (f.name :: members.map Prod.fst).count name + seen.count name ≤ 1) →
            ((f.put x r >>= fill (List.lookup · members) shape.fields) = .ok r' ↔
              fill (List.lookup · ((f.name, x) :: members)) shape.fields r = .ok r') := by
          intro honce
          have hbound := honce f.name hmem
          rw [List.count_cons_self] at hbound
          exact put_then_fill_lookup h hf (List.count_eq_zero.1 (by omega))
        constructor
        · rintro ⟨b, hb, honce, hr⟩
          exact ⟨honce, (hput honce).1 (bind_eq_ok_iff.2 ⟨b, hb, hr⟩)⟩
        · rintro ⟨honce, hr⟩
          obtain ⟨b, hb, hr⟩ := bind_eq_ok_iff.1 ((hput honce).2 hr)
          exact ⟨b, hb, honce, hr⟩

/-! ### Lists -/

/-- **The items of a list are put iff each can be put** into the field at its place and none is
missing that the list must have. -/
theorem Shape.putItems_eq_ok_iff {i : Nat} {items : List Value}
    (hget : fs.map (fun f => get f.name) = (List.range fs.length).map (items[·]?)) :
    shape.putItems none i fs items r = .ok r' ↔
      fill get fs r = .ok r' ∧ ∀ f ∈ fs, f.required = true → (get f.name).isSome := by
  induction fs generalizing i items r with
  | nil => simp [Shape.putItems, fill]
  | cons f fs ih =>
    rw [List.map_cons, List.length_cons, List.range_succ_eq_map, List.map_cons, List.map_map,
      List.cons.injEq] at hget
    obtain ⟨hfirst, hget⟩ := hget
    cases items with
    | nil =>
      rw [List.getElem?_nil] at hfirst
      rw [fill_cons_of_none hfirst, Shape.putItems]
      split
      · rename_i hrequired
        refine iff_of_false (fun hr => by cases hr) fun ⟨_, hall⟩ => ?_
        have hf := hall f List.mem_cons_self hrequired
        rw [hfirst] at hf
        cases hf
      · rename_i hrequired
        rw [ih hget, List.forall_mem_cons]
        simp [hrequired]
    | cons x items =>
      rw [List.getElem?_cons_zero] at hfirst
      rw [fill_cons_of_some hfirst, Shape.putItems, bind_eq_ok_iff, bind_eq_ok_iff]
      simp only [ih hget, List.forall_mem_cons, hfirst, Option.isSome_some, implies_true, true_and,
        ← and_assoc, exists_and_right]

/-- **A record is read iff it is written as one and each of its fields can be read.** A list must
have the required fields; whether an object has them is seen afterwards. -/
theorem Shape.read_eq_ok_iff (h : shape.Regular) {v : Value} :
    shape.read r v = .ok r' ↔ v.IsRecord shape.names ∧
      fill (v.field? shape.names) shape.fields r = .ok r' ∧
      ∀ items, v = .array items → ∀ f ∈ shape.fields, f.required = true →
        (v.field? shape.names f.name).isSome := by
  rw [Shape.read, bind_view]
  cases v with
  | object members =>
    simp only [Value.view, Value.IsRecord, reduceCtorEq, false_implies, implies_true, and_true,
      bind_eq_ok_iff, putMembers_eq_ok_iff h List.nodup_nil, List.count_nil, Nat.add_zero, orElse,
      Except.ok.injEq, exists_eq_right]
    exact Iff.rfl
  | array items =>
    have hplaces : shape.fields.map (fun f => (Value.array items).field? shape.names f.name) =
        (List.range shape.fields.length).map (items[·]?) := by
      refine List.ext_getElem (by simp) fun i hi _ => ?_
      rw [List.length_map] at hi
      have hindex : shape.names.idxOf shape.fields[i].name = i := by
        have hi' : i < shape.names.length := by rwa [Shape.names, List.length_map]
        have hname : shape.names[i] = shape.fields[i].name := by simp [Shape.names]
        rw [← hname]
        exact h.names.idxOf_getElem i hi'
      simp [Value.field?, hindex]
    have hlength : shape.names.length = shape.fields.length := List.length_map _
    simp only [Value.view, bind_eq_ok_iff, Shape.putItems_eq_ok_iff hplaces, Value.IsRecord,
      hlength, Value.array.injEq, forall_eq']
    constructor
    · rintro ⟨b, hfill, hcut⟩
      split at hcut
      · cases hcut
      · obtain rfl := Except.ok.inj hcut
        exact ⟨by omega, hfill⟩
    · rintro ⟨hlength, hfill⟩
      refine ⟨r', hfill, ?_⟩
      rw [if_neg (by omega)]
      rfl
  | _ => simp [Value.view, Value.IsRecord, throw_eq_error]

/-- The value is written as a record with these fields, and of its fields `Fields` holds. -/
def Value.Record (names : List String) (Fields : (String → Option Value) → Prop) (v : Value) :
    Prop :=
  v.IsRecord names ∧ Fields (v.field? names)

theorem Value.record_ofDict {names : List String} {Fields : (String → Option Value) → Prop}
    {d : Dict Value} : (Value.ofDict d).Record names Fields ↔ Fields d.find? :=
  and_iff_right (Value.isRecord_ofDict names d)

/-- A record that is checked after it is read; without a required field the check fails. -/
theorem Shape.exists_read_iff (h : shape.Regular) {Check : ρ → Prop}
    {Fields : (String → Option Value) → Prop}
    (hfill : ∀ get, (∃ r', fill get shape.fields r = .ok r' ∧ Check r') ↔ Fields get)
    (hrequired : ∀ get, Fields get → ∀ f ∈ shape.fields, f.required = true → (get f.name).isSome)
    {v : Value} :
    (∃ r', shape.read r v = .ok r' ∧ Check r') ↔ v.Record shape.names Fields := by
  simp only [Shape.read_eq_ok_iff h, Value.Record, ← hfill]
  constructor
  · rintro ⟨r', ⟨hrecord, hr, -⟩, hcheck⟩
    exact ⟨hrecord, r', hr, hcheck⟩
  · rintro ⟨hrecord, r', hr, hcheck⟩
    have hfields := (hfill _).1 ⟨r', hr, hcheck⟩
    exact ⟨r', ⟨hrecord, hr, fun _ _ => hrequired _ hfields⟩, hcheck⟩

end Records

/-! ## Kinds of values -/

section Kinds

variable {α : Type} {item : Value → Except Error α} {Kind : Value → Prop} {Check : α → Prop}
  {v : Value}

/-- Some text. -/
def Value.IsText (v : Value) : Prop := ∃ s, v = string s

/-- A value of a kind, or `null`. -/
def Value.IsNullOr (Kind : Value → Prop) (v : Value) : Prop := v = null ∨ Kind v

/-- A list of values of a kind. -/
def Value.IsListOf (Kind : Value → Prop) (v : Value) : Prop :=
  ∃ items, v = array items ∧ ∀ x ∈ items, Kind x

theorem exists_readText_iff : (∃ s, readText v = .ok s) ↔ v.IsText :=
  exists_congr fun _ => readText_eq_ok_iff

theorem exists_readOption_iff (h : ∀ x, (∃ a, item x = .ok a) ↔ Kind x) :
    (∃ a, readOption item v = .ok a) ↔ v.IsNullOr Kind := by
  simp only [readOption_eq_ok_iff, Value.IsNullOr, ← h]
  by_cases hv : v = .null <;> simp [hv]

/-- A list whose items are checked after they are read. -/
theorem exists_readList_and_iff (h : ∀ x, (∃ a, item x = .ok a ∧ Check a) ↔ Kind x) :
    (∃ as, readList item v = .ok as ∧ ∀ a ∈ as, Check a) ↔ v.IsListOf Kind := by
  have hitems : ∀ items : List Value,
      (∃ as, List.Forall₂ (fun x a => item x = .ok a) items as ∧ ∀ a ∈ as, Check a) ↔
        ∀ x ∈ items, Kind x := by
    intro items
    induction items with
    | nil => simp
    | cons x items ih =>
      rw [List.forall_mem_cons, ← h, ← ih]
      constructor
      · rintro ⟨_, hxs, hcheck⟩
        obtain ⟨a, as, ha, has, rfl⟩ := List.forall₂_cons_left_iff.1 hxs
        obtain ⟨hca, hcas⟩ := List.forall_mem_cons.1 hcheck
        exact ⟨⟨a, ha, hca⟩, as, has, hcas⟩
      · rintro ⟨⟨a, ha, hca⟩, as, has, hcas⟩
        exact ⟨a :: as, .cons ha has, List.forall_mem_cons.2 ⟨hca, hcas⟩⟩
  constructor
  · rintro ⟨as, has, hcheck⟩
    obtain ⟨items, rfl, hread⟩ := readList_eq_ok_iff.1 has
    exact ⟨items, rfl, (hitems items).1 ⟨as, hread, hcheck⟩⟩
  · rintro ⟨items, rfl, hkind⟩
    obtain ⟨as, hread, hcheck⟩ := (hitems items).2 hkind
    exact ⟨as, readList_eq_ok_iff.2 ⟨items, rfl, hread⟩, hcheck⟩

theorem exists_readList_iff (h : ∀ x, (∃ a, item x = .ok a) ↔ Kind x) :
    (∃ as, readList item v = .ok as) ↔ v.IsListOf Kind := by
  have h' : ∀ x, (∃ a, item x = .ok a ∧ True) ↔ Kind x := by simpa using h
  simpa using exists_readList_and_iff h'

/-- A field that is checked after it is read. -/
theorem exists_reads_and_iff {default : α} (hdefault : Check default)
    (h : ∀ x, (∃ a, item x = .ok a ∧ Check a) ↔ Kind x) {o : Option Value} :
    (∃ a, Reads item default o a ∧ Check a) ↔ ∀ x, o = some x → Kind x := by
  cases o with
  | none => simpa [Reads] using hdefault
  | some x => simpa [Reads] using h x

/-- A field that holds a list, empty if it is absent, whose items are checked. -/
theorem exists_reads_readList_iff (h : ∀ x, (∃ a, item x = .ok a ∧ Check a) ↔ Kind x)
    {o : Option Value} : (∃ as, Reads (readList item) [] o as ∧ ∀ a ∈ as, Check a) ↔
      ∀ x, o = some x → x.IsListOf Kind :=
  exists_reads_and_iff (fun _ ha => absurd ha List.not_mem_nil) fun _ => exists_readList_and_iff h

theorem exists_reads_iff {default : α} (h : ∀ x, (∃ a, item x = .ok a) ↔ Kind x)
    {o : Option Value} : (∃ a, Reads item default o a) ↔ ∀ x, o = some x → Kind x := by
  cases o with
  | none => simp [Reads]
  | some x => simpa [Reads] using h x

/-- A field that holds nothing until it is set. -/
theorem reads_some_iff {o : Option Value} {a : α} :
    Reads (fun x => (item x).map some) none o (some a) ↔ ∃ x, o = some x ∧ item x = .ok a := by
  cases o with
  | none => simp [Reads]
  | some x => cases hx : item x <;> simp [Reads, Except.map, hx]

theorem reads_someText_iff {o : Option Value} {s : String} :
    Reads (fun x => (readText x).map some) none o (some s) ↔ o = some (.string s) := by
  simp only [reads_some_iff, readText_eq_ok_iff, exists_eq_right]

/-- A text that may be absent or `null`. -/
theorem exists_reads_optionText_iff {o : Option Value} :
    (∃ t, Reads (readOption readText) none o t) ↔ ∀ x, o = some x → x.IsNullOr Value.IsText :=
  exists_reads_iff fun _ => exists_readOption_iff fun _ => exists_readText_iff

theorem reads_optionText_iff {o : Option Value} {s : String} :
    Reads (readOption readText) none o (some s) ↔ o = some (.string s) := by
  cases o with
  | none => simp [Reads]
  | some x =>
    simp only [Reads, readOption_eq_ok_iff, readText_eq_ok_iff, Option.some.injEq]
    constructor
    · rintro (⟨-, h⟩ | ⟨-, t, rfl, hx⟩)
      · cases h
      · exact hx
    · rintro rfl
      exact .inr ⟨by simp, s, rfl, rfl⟩

/-- A natural number, zero if it is absent. -/
theorem reads_nat_iff {o : Option Value} {n : Nat} :
    Reads readNat 0 o n ↔ o.getD (.nat 0) = .nat n := by
  cases o with
  | none =>
    simp only [Reads, Option.getD_none, Value.nat, Value.number.injEq, Number.int.injEq,
      Int.natCast_inj]
    exact eq_comm
  | some x => exact readNat_eq_ok_iff

theorem value_eq_ok_iff {x : Value} : (Source.value v : Except Error Value) = .ok x ↔ v = x := by
  change Except.ok v = Except.ok x ↔ v = x
  rw [Except.ok.injEq]

/-- A field that may hold any value. -/
theorem reads_value_iff {default x : Value} {o : Option Value} :
    Reads Source.value default o x ↔ o.getD default = x := by
  cases o with
  | none => exact eq_comm
  | some y => exact value_eq_ok_iff

/-- The same if it holds nothing until it is set. -/
theorem reads_someValue_iff {o a : Option Value} :
    Reads (fun x => (Source.value x).map some) none o a ↔ o = a := by
  cases o with
  | none => exact eq_comm
  | some y =>
    change Except.ok (some y) = Except.ok a ↔ some y = a
    rw [Except.ok.injEq]

end Kinds

end PolicyFields.Json
