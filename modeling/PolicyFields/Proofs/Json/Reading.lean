import PolicyFields.Proofs.Json.Parts
import PolicyFields.Proofs.Json.Record
import PolicyFields.Proofs.Json.RoundTrip

/-!
# What texts can hold

* `Value.Readable` — values as they come from a text: whole numbers of 64 bits, members in key
  order, nested no deeper than a number of levels.
* `readTree_readable` — **whatever a text says, no other value is read from it**.
* `Value.floatFree` — values without floats; `Value.Readable.storable`: those that are readable are
  held by a text as they are.
* `readDict_tree_eq_ok_iff` — a dictionary is read from a text iff its value is an object.
-/

namespace PolicyFields.Json

open Traversal (bind_eq_ok_iff map_eq_ok_iff mapError_eq_ok_iff mapM_cons_eq)

/-! ## Numbers -/

/-- Whole numbers of 64 bits, with or without a sign. -/
def InRange (i : Int) : Prop := -2 ^ 63 ≤ i ∧ i < 2 ^ 64

theorem signedFloat_ne_int {negative : Bool} {s : Significand} {i : Int} :
    signedFloat negative s ≠ .ok (.int i) := by
  unfold signedFloat
  split <;> simp

theorem withExponent_ne_int {negative down : Bool} {s : Significand} {ds : List Char} {i : Int} :
    withExponent negative s down ds ≠ .ok (.int i) := by
  unfold withExponent
  dsimp only
  split
  · exact signedFloat_ne_int
  · split <;> simp

/-- A number with an exponent is a float. -/
theorem readScale_int {negative : Bool} {s : Significand} {plain : Except Fault Number}
    {r : List Char} {i : Int} (h : (readScale negative s plain r).1.read = .ok (.int i)) :
    plain = .ok (.int i) := by
  have hexponent : ∀ r, (readExponent negative s r).1.read ≠ .ok (.int i) := by
    intro r
    unfold readExponent
    dsimp only
    split
    · simp [digitMissing]
    · exact withExponent_ne_int
  unfold readScale at h
  split at h
  · exact absurd h (hexponent _)
  · exact absurd h (hexponent _)
  · exact h

theorem wholePart_lt (ds : List Char) : (wholePart ds).digits < digitBound := by
  unfold wholePart
  suffices ∀ s : Significand, s.digits < digitBound → (ds.foldl (fun s c =>
      let n := 10 * s.digits + Number.digitsValue [c]
      if s.exponent = 0 ∧ n < digitBound then ⟨n, 0⟩ else ⟨s.digits, s.exponent + 1⟩)
      s).digits < digitBound from this _ (by decide)
  induction ds with
  | nil => exact fun s hs => hs
  | cons c ds ih =>
    intro s hs
    refine ih _ ?_
    dsimp only
    split
    · exact And.right ‹_›
    · exact hs

theorem wholeNumber_int {negative : Bool} {s : Significand} (hs : s.digits < digitBound) {i : Int}
    (h : wholeNumber negative s = .ok (.int i)) : InRange i := by
  unfold digitBound at hs
  unfold wholeNumber at h
  split at h
  · exact absurd h signedFloat_ne_int
  · split at h
    · obtain rfl := Number.int.inj (Except.ok.inj h)
      constructor <;> omega
    · split at h
      · cases h
      · obtain rfl := Number.int.inj (Except.ok.inj h)
        constructor <;> simp only [Int.ofNat_eq_natCast] <;> omega

/-- **Whole numbers that are read have 64 bits.** -/
theorem readNumber?_int {negative : Bool} {cs : List Char} {i : Int}
    (h : (readNumber? negative cs).1.read = .ok (.int i)) : InRange i := by
  unfold readNumber? at h
  dsimp only at h
  split at h
  · simp [digitMissing] at h
  · cases h
  · split at h
    · split at h
      · simp [digitMissing] at h
      · exact absurd (readScale_int h) signedFloat_ne_int
    · exact wholeNumber_int (wholePart_lt _) (readScale_int h)

/-! ## Values and outlines -/

/-- A value such as is read from a text: whole numbers of 64 bits, members in key order, and no more
than `k` lists and objects inside each other. -/
inductive Value.Readable : Nat → Value → Prop
  | null {k : Nat} : Readable k .null
  | bool {k : Nat} (b : Bool) : Readable k (.bool b)
  | int {k : Nat} {n : Int} : InRange n → Readable k (.int n)
  | float {k : Nat} (x : Float) : Readable k (.float x)
  | string {k : Nat} (s : String) : Readable k (.string s)
  | array {k : Nat} {items : List Value} :
    (∀ v ∈ items, Readable k v) → Readable (k + 1) (.array items)
  | object {k : Nat} {d : Dict Value} :
    (∀ m ∈ d.entries, Readable k m.2) → Readable (k + 1) (.ofDict d)

/-- An outline none of whose parts gives another value. -/
inductive Tree.Readable : Nat → Tree → Prop
  | null {k : Nat} : Readable k .null
  | bool {k : Nat} (b : Bool) : Readable k (.bool b)
  | number {k : Nat} {n : Token Number} :
    (∀ i, n.read = .ok (.int i) → InRange i) → Readable k (.number n)
  | string {k : Nat} (s : Token String) : Readable k (.string s)
  | list {k : Nat} {items : List Tree} (ending : ListEnd) :
    (∀ t ∈ items, Readable k t) → Readable (k + 1) (.list items ending)
  | object {k : Nat} {members : List (Token String × Tree)} (ending : ObjectEnd) :
    (∀ m ∈ members, Readable k m.2) → Readable (k + 1) (.object members ending)
  | tooDeep {k : Nat} (t : Tree) : Readable k (.tooDeep t)
  | broken {k : Nat} (f : Fault) : Readable k (.broken f)

theorem Value.Readable.mono {k l : Nat} {v : Value} (h : v.Readable k) (hkl : k ≤ l) :
    v.Readable l := by
  induction h generalizing l with
  | null => exact .null
  | bool b => exact .bool b
  | int hn => exact .int hn
  | float x => exact .float x
  | string s => exact .string s
  | array _ ih =>
    obtain ⟨n, rfl⟩ : ∃ n, l = n + 1 := ⟨l - 1, by omega⟩
    exact .array fun v hv => ih v hv (Nat.le_of_succ_le_succ hkl)
  | object _ ih =>
    obtain ⟨n, rfl⟩ : ∃ n, l = n + 1 := ⟨l - 1, by omega⟩
    exact .object fun m hm => ih m hm (Nat.le_of_succ_le_succ hkl)

/-- A readable object is a dictionary. -/
theorem Value.Readable.exists_dict {k : Nat} {members : List (String × Value)}
    (h : (Value.object members).Readable (k + 1)) :
    ∃ d : Dict Value, d.entries = members ∧ ∀ m ∈ members, m.2.Readable k := by
  generalize hv : Value.object members = v at h
  cases h with
  | @object _ d hmembers =>
    obtain rfl := Value.object.inj hv
    exact ⟨d, rfl, hmembers⟩
  | null | bool | int | float | string | array => cases hv

theorem Value.Readable.inRange {k : Nat} {n : Int} (h : (Value.int n).Readable k) : InRange n := by
  generalize hv : Value.int n = v at h
  cases h with
  | int hn =>
    obtain rfl := Number.int.inj (Value.number.inj hv)
    exact hn
  | null | bool | float | string | array | object => cases hv

/-- The fields of a readable record are readable. -/
theorem Value.Readable.field {k : Nat} {v x : Value} {names : List String} {name : String}
    (h : v.Readable k) (hx : v.field? names name = some x) : x.Readable k := by
  cases h with
  | array hitems => exact (hitems x (List.mem_of_getElem? hx)).mono (Nat.le_succ _)
  | object hmembers =>
    exact (hmembers _ (Dict.find?_eq_some_iff.1 hx)).mono (Nat.le_succ _)
  | null | bool | int | float | string => cases hx

theorem Value.Readable.entries {k : Nat} {d : Dict Value}
    (h : (Value.ofDict d).Readable (k + 1)) : ∀ m ∈ d.entries, m.2.Readable k :=
  h.exists_dict.elim fun _ hd => hd.2

/-! ### Values without floats -/

namespace Value

mutual

/-- Whether no float is among the parts of a value. -/
def floatFree : Value → Bool
  | null | bool _ | string _ => true
  | number (.int _) => true
  | number (.float _) => false
  | array items => itemsFloatFree items
  | object members => membersFloatFree members

/-- The same for items. -/
def itemsFloatFree : List Value → Bool
  | [] => true
  | v :: r => floatFree v && itemsFloatFree r

/-- The same for members. -/
def membersFloatFree : List (String × Value) → Bool
  | [] => true
  | (_, v) :: r => floatFree v && membersFloatFree r

end

theorem itemsFloatFree_iff {items : List Value} :
    itemsFloatFree items = true ↔ ∀ v ∈ items, v.floatFree = true := by
  induction items with
  | nil => simp [itemsFloatFree]
  | cons v vs ih => simp [itemsFloatFree, ih]

theorem membersFloatFree_iff {members : List (String × Value)} :
    membersFloatFree members = true ↔ ∀ m ∈ members, m.2.floatFree = true := by
  induction members with
  | nil => simp [membersFloatFree]
  | cons m ms ih => simp [membersFloatFree, ih]

/-- **A readable value without floats is held by a text as it is.** -/
theorem Readable.storable {k : Nat} {v : Value} (h : v.Readable k) (hfloat : v.floatFree = true) :
    v.Storable k := by
  induction h with
  | null => exact .null
  | bool b => exact .bool b
  | int hn => exact .int hn.1 hn.2
  | float x => exact Bool.noConfusion hfloat
  | string s => exact .string s
  | array _ ih => exact .array fun v hv => ih v hv (itemsFloatFree_iff.1 hfloat v hv)
  | object _ ih => exact .object fun m hm => ih m hm (membersFloatFree_iff.1 hfloat m hm)

end Value

/-! ### Values of outlines -/

namespace Tree

theorem mem_itemValues {items : List Tree} {ending : ListEnd} {vs : List Value}
    (h : itemValues items ending = .ok vs) {v : Value} (hv : v ∈ vs) :
    ∃ t ∈ items, t.value = .ok v := by
  induction items generalizing vs with
  | nil =>
    rw [itemValues] at h
    unfold raise at h
    split at h
    · cases h
    · obtain rfl := Except.ok.inj h
      exact absurd hv List.not_mem_nil
  | cons t ts ih =>
    rw [itemValues] at h
    split at h
    · cases h
    · rename_i w hw
      obtain ⟨ws, hws, rfl⟩ := map_eq_ok_iff.1 h
      rcases List.mem_cons.1 hv with rfl | hv
      · exact ⟨t, List.mem_cons_self, hw⟩
      · obtain ⟨u, hu, huv⟩ := ih hws hv
        exact ⟨u, List.mem_cons_of_mem _ hu, huv⟩

theorem mem_memberValues {members : List (Token String × Tree)} {ending : ObjectEnd}
    {es : List (String × Value)} (h : memberValues members ending = .ok es) {e : String × Value}
    (he : e ∈ es) : ∃ m ∈ members, m.2.value = .ok e.2 := by
  induction members generalizing es with
  | nil =>
    rw [memberValues] at h
    unfold raise at h
    split at h
    · cases h
    · obtain rfl := Except.ok.inj h
      exact absurd he List.not_mem_nil
  | cons m ms ih =>
    obtain ⟨k, t⟩ := m
    rw [memberValues] at h
    split at h
    · cases h
    · cases h
    · rename_i key w _ hw
      obtain ⟨ws, hws, rfl⟩ := map_eq_ok_iff.1 h
      rcases List.mem_cons.1 he with rfl | he
      · exact ⟨(k, t), List.mem_cons_self, hw⟩
      · obtain ⟨n, hn, hne⟩ := ih hws he
        exact ⟨n, List.mem_cons_of_mem _ hn, hne⟩

/-- The value of a readable outline is readable. -/
theorem Readable.value {k : Nat} {t : Tree} (h : t.Readable k) {v : Value}
    (hv : t.value = .ok v) : v.Readable k := by
  induction h generalizing v with
  | null =>
    obtain rfl := Except.ok.inj hv
    exact .null
  | bool b =>
    obtain rfl := Except.ok.inj hv
    exact .bool b
  | @number _ n hn =>
    obtain ⟨m, hm, rfl⟩ := map_eq_ok_iff.1 hv
    cases m with
    | float x => exact .float x
    | int i => exact .int (hn i (mapError_eq_ok_iff.1 hm))
  | string s =>
    obtain ⟨m, -, rfl⟩ := map_eq_ok_iff.1 hv
    exact .string m
  | list ending _ ih =>
    rw [Tree.value] at hv
    obtain ⟨vs, hvs, rfl⟩ := map_eq_ok_iff.1 hv
    refine .array fun w hw => ?_
    obtain ⟨t, ht, htw⟩ := mem_itemValues hvs hw
    exact ih t ht htw
  | object ending _ ih =>
    rw [Tree.value] at hv
    obtain ⟨es, hes, rfl⟩ := map_eq_ok_iff.1 hv
    refine .object fun e he => ?_
    obtain ⟨m, hm, hme⟩ := mem_memberValues hes
      (Dict.mem_of_find?_ofList (Dict.find?_eq_some_iff.2 he))
    exact ih m hm hme
  | tooDeep t => cases hv
  | broken f => cases hv

end Tree

/-- The parts of a readable outline are readable. -/
theorem Tree.Readable.parts {k : Nat} {t : Tree} (h : t.Readable (k + 1)) :
    PartsHold (Tree.Readable k) t := by
  intro view hview
  cases h with
  | list ending hitems =>
    obtain rfl := Except.ok.inj hview
    exact hitems
  | object ending hmembers =>
    obtain rfl := Except.ok.inj hview
    intro x hx
    simp only [View.parts, List.map_map, List.mem_map, Function.comp] at hx
    obtain ⟨m, hm, rfl⟩ := hx
    exact hmembers m hm
  | null | bool _ =>
    obtain rfl := Except.ok.inj hview
    exact fun _ hx => absurd hx List.not_mem_nil
  | number | string =>
    obtain ⟨m, -, rfl⟩ := map_eq_ok_iff.1 hview
    exact fun _ hx => absurd hx List.not_mem_nil
  | tooDeep | broken => cases hview

/-! ## Reading -/

theorem nested_readable {depth : Nat} {t : Tree} (h : t.Readable (maxDepth - (depth + 1) + 1)) :
    (nested depth t).Readable (maxDepth - depth) := by
  unfold nested
  split
  · exact .tooDeep t
  · rwa [show maxDepth - depth = maxDepth - (depth + 1) + 1 by omega]

theorem readName_readable {k : Nat} {rest cs : List Char} {t : Tree} (ht : t.Readable k) :
    (readName rest t cs).1.Readable k := by
  induction rest generalizing cs with
  | nil => exact ht
  | cons a r ih =>
    cases cs with
    | nil => exact .broken _
    | cons c cs =>
      rw [readName]
      split
      · exact ih
      · exact .broken _

/-- The parts of a text that stands inside `depth` lists and objects. -/
theorem read_readable (fuel : Nat) :
    (∀ depth cs, (readTree fuel depth cs).1.Readable (maxDepth - depth)) ∧
    (∀ depth first cs, ∀ t ∈ (readItems fuel depth first cs).1.1,
      t.Readable (maxDepth - depth)) ∧
    (∀ depth cs, ∀ t ∈ (readItem fuel depth cs).1.1, t.Readable (maxDepth - depth)) ∧
    (∀ depth first cs, ∀ m ∈ (readMembers fuel depth first cs).1.1,
      m.2.Readable (maxDepth - depth)) ∧
    ∀ depth cs, ∀ m ∈ (readMember fuel depth cs).1.1, m.2.Readable (maxDepth - depth) := by
  induction fuel with
  | zero =>
    refine ⟨fun _ _ => ?_, fun _ _ _ => ?_, fun _ _ => ?_, fun _ _ _ => ?_, fun _ _ => ?_⟩
    · rw [readTree]; exact .broken _
    · rw [readItems]; exact fun _ h => absurd h List.not_mem_nil
    · rw [readItem]; exact fun _ h => absurd h List.not_mem_nil
    · rw [readMembers]; exact fun _ h => absurd h List.not_mem_nil
    · rw [readMember]; exact fun _ h => absurd h List.not_mem_nil
  | succ fuel ih =>
    obtain ⟨htree, hitems, hitem, hmembers, hmember⟩ := ih
    refine ⟨fun depth cs => ?_, fun depth first cs => ?_, fun depth cs => ?_,
      fun depth first cs => ?_, fun depth cs => ?_⟩
    · rw [readTree]
      split
      · exact .broken _
      · exact readName_readable .null
      · exact readName_readable (.bool true)
      · exact readName_readable (.bool false)
      · exact .string _
      · exact .number fun i => readNumber?_int
      · exact nested_readable (.list _ (hitems (depth + 1) true _))
      · exact nested_readable (.object _ (hmembers (depth + 1) true _))
      · split
        · exact .number fun i => readNumber?_int
        · exact .broken _
    · rw [readItems]
      split
      · exact fun _ h => absurd h List.not_mem_nil
      · exact fun _ h => absurd h List.not_mem_nil
      · split
        · exact hitem depth _
        · split
          · split
            · exact fun _ h => absurd h List.not_mem_nil
            · exact fun _ h => absurd h List.not_mem_nil
            · exact hitem depth _
          · exact fun _ h => absurd h List.not_mem_nil
    · have hfirst := htree depth cs
      rw [readItem]
      split
      · rename_i heq
        rw [heq] at hfirst
        exact List.forall_mem_singleton.2 hfirst
      · rename_i heq
        rw [heq] at hfirst
        exact List.forall_mem_cons.2 ⟨hfirst, hitems depth false _⟩
    · rw [readMembers]
      split
      · exact fun _ h => absurd h List.not_mem_nil
      · exact fun _ h => absurd h List.not_mem_nil
      · split
        · split
          · exact hmember depth _
          · exact fun _ h => absurd h List.not_mem_nil
        · split
          · split
            · exact fun _ h => absurd h List.not_mem_nil
            · exact fun _ h => absurd h List.not_mem_nil
            · exact hmember depth _
            · exact fun _ h => absurd h List.not_mem_nil
          · exact fun _ h => absurd h List.not_mem_nil
    · rw [readMember]
      split
      · exact List.forall_mem_singleton.2 (.broken _)
      · split
        · exact List.forall_mem_singleton.2 (.broken _)
        · rename_i r _
          have hfirst := htree depth r
          split
          · rename_i heq
            rw [heq] at hfirst
            exact List.forall_mem_singleton.2 hfirst
          · rename_i heq
            rw [heq] at hfirst
            exact List.forall_mem_cons.2 ⟨hfirst, hmembers depth false _⟩
        · exact List.forall_mem_singleton.2 (.broken _)

/-- **Whatever a text says, no other value is read from it.** -/
theorem Tree.ofText_readable (cs : List Char) : (Tree.ofText cs).1.Readable maxDepth :=
  (read_readable _).1 0 cs

/-- What is read from a whole text is read from its tree. -/
theorem readWhole_eq_ok {α : Type} {read : Tree → Except Error α} {text : String} {a : α}
    (h : readWhole read text = .ok a) : read (Tree.ofText text.toList).1 = .ok a := by
  unfold readWhole at h
  dsimp only at h
  split at h
  · cases h
  · split at h <;> cases h
    assumption

theorem Value.ofText_readable {text : String} {v : Value} (h : Value.ofText text = .ok v) :
    v.Readable maxDepth :=
  (Tree.ofText_readable _).value (readWhole_eq_ok h)

/-! ## Dictionaries -/

/-- The converse of `mapM_of_memberValues`. -/
theorem memberValues_of_mapM {ms : List (Token String × Tree)} {ending : ObjectEnd}
    (hfull : ending.full = none) {es : List (String × Value)}
    (h : (ms.map fun m => (Tree.content m.1, m.2)).mapM (fun m => do
      let key ← m.1
      return (key, ← (Source.value m.2 : Except Error Value))) = .ok es) :
    Tree.memberValues ms ending = .ok es := by
  induction ms generalizing es with
  | nil =>
    rw [List.map_nil, List.mapM_nil] at h
    rw [Tree.memberValues, hfull, Tree.raise]
    exact h
  | cons m ms ih =>
    obtain ⟨k, t⟩ := m
    rw [List.map_cons, mapM_cons_eq, bind_eq_ok_iff] at h
    obtain ⟨e, he, h⟩ := h
    obtain ⟨rest, hrest, h⟩ := bind_eq_ok_iff.1 h
    obtain rfl := Except.ok.inj h
    obtain ⟨key, hkey, he⟩ := bind_eq_ok_iff.1 he
    obtain ⟨v, hv, he⟩ := bind_eq_ok_iff.1 he
    obtain rfl := Except.ok.inj he
    have hvalue : t.value = .ok v := hv
    rw [Tree.memberValues, show Tree.content k = .ok key from hkey, hvalue, ih hrest]
    rfl

/-- **A dictionary is read from a text iff its value is an object.** -/
theorem readDict_tree_eq_ok_iff {t : Tree} {d : Dict Value} :
    readDict Source.value t = .ok d ↔ t.value = .ok (.ofDict d) := by
  refine ⟨fun h => ?_, readDict_of_value⟩
  rw [readDict, bind_eq_ok_iff] at h
  obtain ⟨view, hview, h⟩ := h
  cases t with
  | object ms ending =>
    obtain rfl := Except.ok.inj hview
    obtain ⟨es, hes, h⟩ := bind_eq_ok_iff.1 h
    cases hfull : ending.full with
    | some f => rw [hfull] at h; cases h
    | none =>
      rw [hfull] at h
      obtain rfl := Except.ok.inj h
      rw [Tree.value, memberValues_of_mapM hfull hes]
      rfl
  | number n =>
    obtain ⟨m, -, rfl⟩ := map_eq_ok_iff.1 hview
    cases h
  | string s =>
    obtain ⟨m, -, rfl⟩ := map_eq_ok_iff.1 hview
    cases h
  | tooDeep t => cases hview
  | broken f => cases hview
  | null | bool b | list items ending =>
    obtain rfl := Except.ok.inj hview
    cases h

end PolicyFields.Json
