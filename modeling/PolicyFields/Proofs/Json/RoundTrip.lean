import PolicyFields.Proofs.Dict
import PolicyFields.Proofs.Json.Numbers
import PolicyFields.Proofs.Traversal

/-!
# What is written as JSON is read back

* `readString?_flatMap` — strings, whatever characters they hold.
* `Value.inOrder` — a value with the members of all objects in key order.
* `Value.outline` — the outline of the text of a value; its value is the value in order.
* `Value.outlineAt` — the outline that a reader meets inside other lists and objects; it is the same
  unless it is too deep.
* `Value.Writable` — values whose floats are restored, with whole numbers of 64 bits, nested no
  deeper than a number of levels. `Value.Storable` — those without floats whose members are in key
  order already.
* `Value.Writable.readsBack` — the outline of a value is read from where it stands in a text.
* `readWhole_pretty` — **a reader makes of the text of a value what it makes of the outline**.
* `Value.ofText_pretty` — **a storable value that has been written is read back as it was**;
  `readDict_of_value` — or as the dictionary of its members.
* `Value.ofText_pretty_deep` — a value that is nested deeper than texts may be is not.
-/

namespace PolicyFields.Json

open PolicyFields.Number (natText AllDigits)
open Traversal (bind_eq_ok_iff map_eq_ok_iff mapM_cons_eq)

/-! ## Strings -/

theorem twoHexDigits_eq : ∀ n < 0x20,
    twoHexDigits n = [(n / 16).digitChar, (n % 16).digitChar] := by decide

theorem hexDigit?_digitChar : ∀ n < 16, Text.hexDigit? n.digitChar = some n := by decide

theorem readFourHex_control {n : Nat} (h : n < 0x20) :
    readFourHex ['0', '0', (n / 16).digitChar, (n % 16).digitChar] = .ok (n, []) := by
  have hzero : Text.hexDigit? '0' = some 0 := rfl
  simp only [readFourHex, hzero, hexDigit?_digitChar _ (show n / 16 < 16 by omega),
    hexDigit?_digitChar _ (show n % 16 < 16 by omega), Except.ok.injEq, Prod.mk.injEq, and_true]
  omega

/-- An escape by number of a character that is no half of a pair. -/
theorem readStringFrom_numbered {acc : List Char} {a b c d : Char} {n : Nat} {r : List Char}
    (hn : readFourHex [a, b, c, d] = .ok (n, [])) (hlow : n < 0xD800) :
    readStringFrom (.ok acc) false ('\\' :: 'u' :: a :: b :: c :: d :: r) =
      readStringFrom (.ok (Char.ofNat n :: acc)) false r := by
  have hchar : numberedChar n r = .ok (Char.ofNat n, false) := by
    rw [numberedChar, if_neg (by simp; omega), if_neg (by simp; omega)]
  simp [readStringFrom, hn, hchar]

/-- **A character is read back from its escape.** -/
theorem readStringFrom_escapeChar (acc : List Char) (c : Char) (r : List Char) :
    readStringFrom (.ok acc) false (escapeChar c ++ r) =
      readStringFrom (.ok (c :: acc)) false r := by
  unfold escapeChar
  -- The seven short escapes.
  iterate 7
    split
    · rename_i h
      obtain rfl := eq_of_beq h
      rfl
  split
  · rename_i hcontrol
    rw [twoHexDigits_eq _ hcontrol]
    refine (readStringFrom_numbered (readFourHex_control hcontrol) (by omega)).trans ?_
    rw [Char.ofNat_toNat]
    rfl
  · rename_i hquote hslash _ _ _ _ _ hcontrol
    simp only [beq_iff_eq] at hquote hslash
    rw [List.singleton_append, readStringFrom.eq_def]
    split <;> simp_all [Except.map, Nat.not_lt.2]

theorem readStringFrom_flatMap (acc cs r : List Char) :
    readStringFrom (.ok acc) false (cs.flatMap escapeChar ++ '"' :: r) =
      (⟨.ok (String.ofList (acc.reverse ++ cs)), none⟩, some r) := by
  induction cs generalizing acc with
  | nil => simp [readStringFrom, Except.map]
  | cons c cs ih =>
    rw [List.flatMap_cons, List.append_assoc, readStringFrom_escapeChar, ih]
    simp

/-- **A string is read back.** -/
theorem readString?_flatMap (s : String) (r : List Char) :
    readString? (s.toList.flatMap escapeChar ++ '"' :: r) = (⟨.ok s, none⟩, some r) := by
  rw [readString?, readStringFrom_flatMap]
  simp

/-! ## Blanks -/

theorem skipSpace_newLine (level : Nat) (cs : List Char) :
    skipSpace (Value.newLine level ++ cs) = skipSpace cs := by
  refine List.dropWhile_append_of_pos fun c hc => ?_
  rcases List.mem_cons.1 hc with rfl | hc
  · rfl
  · rw [List.eq_of_mem_replicate hc]
    rfl

/-- A blank in front does not matter. -/
theorem readTree_space (fuel depth : Nat) (cs : List Char) :
    readTree fuel depth (' ' :: cs) = readTree fuel depth cs := by
  have hspace : skipSpace (' ' :: cs) = skipSpace cs := rfl
  cases fuel with
  | zero => rw [readTree, readTree]
  | succ fuel => rw [readTree, readTree, hspace]

theorem ends_newLine (level : Nat) (cs : List Char) : Ends (Value.newLine level ++ cs) :=
  fun _ hc => .inr (Option.some.inj hc).symm

theorem ends_comma (cs : List Char) : Ends (',' :: cs) :=
  fun _ hc => .inl (Option.some.inj hc).symm

/-! ## Key order -/

namespace Value

mutual

/-- The value with the members of every object in key order; of two with one key the later
counts. -/
def inOrder : Value → Value
  | null => null
  | bool b => bool b
  | number n => number n
  | string s => string s
  | array items => array (itemsInOrder items)
  | object members => ofDict (Dict.ofList (membersInOrder members))

/-- Every item in order. -/
def itemsInOrder : List Value → List Value
  | [] => []
  | v :: r => inOrder v :: itemsInOrder r

/-- The value of every member in order. -/
def membersInOrder : List (String × Value) → List (String × Value)
  | [] => []
  | (k, v) :: r => (k, inOrder v) :: membersInOrder r

end

theorem itemsInOrder_eq (items : List Value) : itemsInOrder items = items.map inOrder := by
  induction items with
  | nil => rfl
  | cons v vs ih => rw [itemsInOrder, ih, List.map_cons]

theorem membersInOrder_eq (members : List (String × Value)) :
    membersInOrder members = members.map fun m => (m.1, m.2.inOrder) := by
  induction members with
  | nil => rfl
  | cons m ms ih => rw [membersInOrder, ih, List.map_cons]

theorem inOrder_array (items : List Value) :
    (array items).inOrder = array (items.map inOrder) := by
  rw [inOrder, itemsInOrder_eq]

theorem inOrder_object (members : List (String × Value)) :
    (object members).inOrder = ofDict (Dict.ofList (members.map fun m => (m.1, m.2.inOrder))) := by
  rw [inOrder, membersInOrder_eq]

end Value

/-! ## Outlines of values -/

namespace Value

mutual

/-- The outline of the text of a value. -/
def outline : Value → Tree
  | null => .null
  | bool b => .bool b
  | number n => .number ⟨.ok n, none⟩
  | string s => .string ⟨.ok s, none⟩
  | array items => .list (itemOutlines items) .closed
  | object members => .object (memberOutlines members) .closed

/-- The outlines of items. -/
def itemOutlines : List Value → List Tree
  | [] => []
  | v :: r => outline v :: itemOutlines r

/-- The outlines of members. -/
def memberOutlines : List (String × Value) → List (Token String × Tree)
  | [] => []
  | (k, v) :: r => (⟨.ok k, none⟩, outline v) :: memberOutlines r

end

mutual

/-- The outline of the text of a value that stands inside `depth` lists and objects. -/
def outlineAt (depth : Nat) : Value → Tree
  | null => .null
  | bool b => .bool b
  | number n => .number ⟨.ok n, none⟩
  | string s => .string ⟨.ok s, none⟩
  | array items => nested depth (.list (itemOutlinesAt (depth + 1) items) .closed)
  | object members => nested depth (.object (memberOutlinesAt (depth + 1) members) .closed)

/-- The outlines of items that stand there. -/
def itemOutlinesAt (depth : Nat) : List Value → List Tree
  | [] => []
  | v :: r => outlineAt depth v :: itemOutlinesAt depth r

/-- The outlines of members that stand there. -/
def memberOutlinesAt (depth : Nat) : List (String × Value) → List (Token String × Tree)
  | [] => []
  | (k, v) :: r => (⟨.ok k, none⟩, outlineAt depth v) :: memberOutlinesAt depth r

end

mutual

/-- How many lists and objects are inside each other at most. -/
def depth : Value → Nat
  | null | bool _ | number _ | string _ => 0
  | array items => itemsDepth items + 1
  | object members => membersDepth members + 1

/-- The depth of the deepest item. -/
def itemsDepth : List Value → Nat
  | [] => 0
  | v :: r => max (depth v) (itemsDepth r)

/-- The depth of the deepest member. -/
def membersDepth : List (String × Value) → Nat
  | [] => 0
  | (_, v) :: r => max (depth v) (membersDepth r)

end

theorem itemsDepth_le_iff {k : Nat} {items : List Value} :
    itemsDepth items ≤ k ↔ ∀ v ∈ items, v.depth ≤ k := by
  induction items with
  | nil => simp [itemsDepth]
  | cons v vs ih => simp [itemsDepth, ih]

theorem membersDepth_le_iff {k : Nat} {members : List (String × Value)} :
    membersDepth members ≤ k ↔ ∀ m ∈ members, m.2.depth ≤ k := by
  induction members with
  | nil => simp [membersDepth]
  | cons m ms ih => simp [membersDepth, ih]

mutual

/-- Outlines that are not too deep are the same wherever they stand. -/
theorem outlineAt_eq : ∀ (v : Value) {d : Nat}, d + v.depth ≤ maxDepth → v.outlineAt d = v.outline
  | null, _, _ | bool _, _, _ => rfl
  | number _, _, _ | string _, _, _ => rfl
  | array items, d, h => by
    rw [depth] at h
    rw [outlineAt, nested, if_neg (by omega), itemOutlinesAt_eq items (by omega), outline]
  | object members, d, h => by
    rw [depth] at h
    rw [outlineAt, nested, if_neg (by omega), memberOutlinesAt_eq members (by omega), outline]

theorem itemOutlinesAt_eq : ∀ (items : List Value) {d : Nat}, d + itemsDepth items ≤ maxDepth →
    itemOutlinesAt d items = itemOutlines items
  | [], _, _ => rfl
  | v :: r, d, h => by
    rw [itemsDepth] at h
    rw [itemOutlinesAt, outlineAt_eq v (by omega), itemOutlinesAt_eq r (by omega), itemOutlines]

theorem memberOutlinesAt_eq : ∀ (members : List (String × Value)) {d : Nat},
    d + membersDepth members ≤ maxDepth → memberOutlinesAt d members = memberOutlines members
  | [], _, _ => rfl
  | (k, v) :: r, d, h => by
    rw [membersDepth] at h
    rw [memberOutlinesAt, outlineAt_eq v (by omega), memberOutlinesAt_eq r (by omega),
      memberOutlines]

end

mutual

/-- **The value that an outline says is the value in order.** -/
theorem value_outline : ∀ v : Value, v.outline.value = .ok v.inOrder
  | null | bool _ => rfl
  | number _ | string _ => rfl
  | array items => by rw [outline, Tree.value, itemValues_outlines items]; rfl
  | object members => by rw [outline, Tree.value, memberValues_outlines members]; rfl

theorem itemValues_outlines : ∀ items : List Value,
    Tree.itemValues (itemOutlines items) .closed = .ok (itemsInOrder items)
  | [] => rfl
  | v :: r => by rw [itemOutlines, Tree.itemValues, value_outline v, itemValues_outlines r]; rfl

theorem memberValues_outlines : ∀ members : List (String × Value),
    Tree.memberValues (memberOutlines members) .closed = .ok (membersInOrder members)
  | [] => rfl
  | (k, v) :: r => by
    rw [memberOutlines, Tree.memberValues, value_outline v, memberValues_outlines r]
    rfl

end

mutual

/-- **The outline of a value that is too deep says that it is.** -/
theorem value_outlineAt_deep : ∀ (v : Value) {d : Nat}, d ≤ maxDepth → maxDepth < d + v.depth →
    (v.outlineAt d).value = .error (.fault .tooDeep)
  | null, _, hd, h | bool _, _, hd, h | number _, _, hd, h | string _, _, hd, h =>
    absurd hd (Nat.not_le.2 h)
  | array items, d, _, h => by
    rw [depth] at h
    rw [outlineAt, nested]
    split
    · rfl
    · rw [Tree.value, itemValues_outlinesAt_deep items (by omega) (by omega)]
      rfl
  | object members, d, _, h => by
    rw [depth] at h
    rw [outlineAt, nested]
    split
    · rfl
    · rw [Tree.value, memberValues_outlinesAt_deep members (by omega) (by omega)]
      rfl

theorem itemValues_outlinesAt_deep : ∀ (items : List Value) {d : Nat}, d ≤ maxDepth →
    maxDepth < d + itemsDepth items →
    Tree.itemValues (itemOutlinesAt d items) .closed = .error (.fault .tooDeep)
  | [], _, hd, h => absurd hd (Nat.not_le.2 h)
  | v :: r, d, hd, h => by
    rw [itemsDepth] at h
    rw [itemOutlinesAt, Tree.itemValues]
    -- The first item that is too deep is met behind items that are not.
    by_cases hv : d + v.depth ≤ maxDepth
    · rw [outlineAt_eq v hv, value_outline, itemValues_outlinesAt_deep r hd (by omega)]
      rfl
    · rw [value_outlineAt_deep v hd (by omega)]

theorem memberValues_outlinesAt_deep : ∀ (members : List (String × Value)) {d : Nat},
    d ≤ maxDepth → maxDepth < d + membersDepth members →
    Tree.memberValues (memberOutlinesAt d members) .closed = .error (.fault .tooDeep)
  | [], _, hd, h => absurd hd (Nat.not_le.2 h)
  | (k, v) :: r, d, hd, h => by
    rw [membersDepth] at h
    rw [memberOutlinesAt, Tree.memberValues]
    by_cases hv : d + v.depth ≤ maxDepth
    · rw [outlineAt_eq v hv, value_outline, memberValues_outlinesAt_deep r hd (by omega)]
      rfl
    · rw [value_outlineAt_deep v hd (by omega)]
      rfl

end

end Value

/-! ## Values in their places -/

/-- Written anywhere inside `depth` lists and objects, the value is followed as its outline says. -/
structure Value.ReadsBack (depth : Nat) (v : Value) : Prop where
  starts : ∀ level, ∃ c cs, v.prettyChars level = c :: cs ∧ isSpace c = false ∧ c ≠ ']'
  reads : ∀ {fuel level : Nat} {rest : List Char}, Ends rest →
    3 * (v.prettyChars level ++ rest).length + 3 ≤ fuel →
    readTree fuel depth (v.prettyChars level ++ rest) = (v.outlineAt depth, some rest)

/-- The text behind the items of a list. -/
def listTail (level : Nat) (rest : List Char) : List Char := Value.newLine level ++ ']' :: rest

/-- The text behind the members of an object. -/
def objectTail (level : Nat) (rest : List Char) : List Char := Value.newLine level ++ '\x7d' :: rest

theorem readItems_listTail (fuel depth outer : Nat) (first : Bool) (rest : List Char) :
    readItems (fuel + 1) depth first (listTail outer rest) = (([], .closed), some rest) := by
  rw [readItems, listTail, skipSpace_newLine]
  rfl

theorem readItems_comma {fuel depth level : Nat} {c : Char} {cs : List Char}
    (hspace : isSpace c = false) (hclose : c ≠ ']') :
    readItems (fuel + 1) depth false (',' :: (Value.newLine level ++ c :: cs)) =
      readItem fuel depth (c :: cs) := by
  have hskip : skipSpace (Value.newLine level ++ c :: cs) = c :: cs := by
    rw [skipSpace_newLine, skipSpace_cons hspace]
  rw [readItems, skipSpace_cons rfl]
  split
  · rename_i heq
    cases heq
  · rename_i heq
    cases heq
  · rename_i heq
    obtain ⟨rfl, rfl⟩ := List.cons.inj heq
    rw [if_neg Bool.false_ne_true, if_pos (beq_self_eq_true ','), hskip]
    split
    · rename_i heq
      cases heq
    · rename_i heq
      exact absurd (List.cons.inj heq).1 hclose
    · rfl

theorem prettyItems_starts {depth : Nat} {v : Value} (h : v.ReadsBack depth) (level : Nat)
    (vs : List Value) (tail : List Char) : ∃ c cs,
      Value.prettyItems level (v :: vs) ++ tail = c :: cs ∧ isSpace c = false ∧ c ≠ ']' := by
  obtain ⟨c, cs, hcs, hc⟩ := h.starts level
  cases vs <;> exact ⟨c, _, by rw [Value.prettyItems, hcs]; rfl, hc⟩

/-- Items are read back together with the end of their list. -/
theorem readItem_prettyItems {depth level outer : Nat} {v : Value} {vs : List Value}
    (h : ∀ w ∈ v :: vs, w.ReadsBack depth) {rest : List Char} {fuel : Nat}
    (hfuel : 3 * (Value.prettyItems level (v :: vs) ++ listTail outer rest).length + 4 ≤ fuel) :
    readItem fuel depth (Value.prettyItems level (v :: vs) ++ listTail outer rest) =
      ((Value.itemOutlinesAt depth (v :: vs), .closed), some rest) := by
  obtain ⟨fuel, rfl⟩ : ∃ n, fuel = n + 2 := ⟨fuel - 2, by omega⟩
  induction vs generalizing v fuel with
  | nil =>
    rw [Value.prettyItems] at hfuel ⊢
    have ht := (h v List.mem_cons_self).reads (ends_newLine outer (']' :: rest))
      (Nat.le_of_succ_le_succ hfuel)
    rw [readItem, listTail, ht]
    dsimp only
    rw [← listTail, readItems_listTail]
    rfl
  | cons w ws ih =>
    obtain ⟨hv, hws⟩ := List.forall_mem_cons.1 h
    rw [Value.prettyItems, List.append_assoc, List.append_assoc, List.cons_append] at hfuel ⊢
    have ht := hv.reads (ends_comma (Value.newLine level ++
      (Value.prettyItems level (w :: ws) ++ listTail outer rest))) (Nat.le_of_succ_le_succ hfuel)
    obtain ⟨fuel, rfl⟩ : ∃ n, fuel = n + 2 := ⟨fuel - 2, by simp at hfuel; omega⟩
    have hless : 3 * (Value.prettyItems level (w :: ws) ++ listTail outer rest).length + 4 ≤
        fuel + 2 := by
      simp only [List.length_append, List.length_cons] at hfuel ⊢
      omega
    have hts := ih hws fuel hless
    -- The next item begins behind the comma and the new line.
    obtain ⟨c, cs, hcs, hspace, hclose⟩ :=
      prettyItems_starts (hws w List.mem_cons_self) level ws (listTail outer rest)
    rw [readItem, ht]
    dsimp only
    rw [hcs, readItems_comma hspace hclose, ← hcs, hts]
    rfl

theorem readMembers_objectTail (fuel depth outer : Nat) (first : Bool) (rest : List Char) :
    readMembers (fuel + 1) depth first (objectTail outer rest) = (([], .closed), some rest) := by
  rw [readMembers, objectTail, skipSpace_newLine]
  rfl

theorem readMembers_comma (fuel depth level : Nat) (cs : List Char) :
    readMembers (fuel + 1) depth false (',' :: (Value.newLine level ++ '"' :: cs)) =
      readMember fuel depth cs := by
  have hskip : skipSpace (Value.newLine level ++ '"' :: cs) = '"' :: cs := by
    rw [skipSpace_newLine, skipSpace_cons rfl]
  rw [readMembers, skipSpace_cons rfl]
  split
  · rename_i heq
    cases heq
  · rename_i heq
    cases heq
  · rename_i heq
    obtain ⟨rfl, rfl⟩ := List.cons.inj heq
    rw [if_neg Bool.false_ne_true, if_pos (beq_self_eq_true ','), hskip]
    rfl

/-- The text of a member behind the opening quote of its key. -/
def memberChars (level : Nat) (k : String) (v : Value) (tail : List Char) : List Char :=
  k.toList.flatMap escapeChar ++ '"' :: ':' :: ' ' :: (v.prettyChars level ++ tail)

theorem prettyMembers_singleton (level : Nat) (e : String × Value) (tail : List Char) :
    Value.prettyMembers level [e] ++ tail = '"' :: memberChars level e.1 e.2 tail := by
  simp [Value.prettyMembers, stringChars, memberChars]

theorem prettyMembers_cons_cons (level : Nat) (e d : String × Value)
    (es : List (String × Value)) (tail : List Char) :
    Value.prettyMembers level (e :: d :: es) ++ tail = '"' :: memberChars level e.1 e.2
      (',' :: (Value.newLine level ++ (Value.prettyMembers level (d :: es) ++ tail))) := by
  simp [Value.prettyMembers, stringChars, memberChars]

theorem prettyMembers_starts (level : Nat) (e : String × Value) (es : List (String × Value))
    (tail : List Char) : ∃ cs, Value.prettyMembers level (e :: es) ++ tail = '"' :: cs := by
  cases es with
  | nil => exact ⟨_, prettyMembers_singleton _ _ _⟩
  | cons d ds => exact ⟨_, prettyMembers_cons_cons _ _ _ _ _⟩

/-- A member is read back in front of others. -/
theorem readMember_memberChars {depth level : Nat} {k : String} {v : Value} (hv : v.ReadsBack depth)
    {tail : List Char} (htail : Ends tail) {fuel : Nat}
    (hfuel : 3 * (memberChars level k v tail).length + 3 ≤ fuel)
    {ms : List (Token String × Tree)} {ending : ObjectEnd} {behind : Option (List Char)}
    (hms : readMembers fuel depth false tail = ((ms, ending), behind)) :
    readMember (fuel + 1) depth (memberChars level k v tail) =
      (((⟨.ok k, none⟩, v.outlineAt depth) :: ms, ending), behind) := by
  have hless : 3 * (v.prettyChars level ++ tail).length + 3 ≤ fuel := by
    simp only [memberChars, List.length_append, List.length_cons] at hfuel ⊢
    omega
  rw [readMember, memberChars, readString?_flatMap]
  simp only [skipSpace_cons (show isSpace ':' = false from rfl), readTree_space,
    hv.reads htail hless, hms]

/-- Members are read back together with the end of their object. -/
theorem readMember_prettyMembers {depth level outer : Nat} {e : String × Value}
    {es : List (String × Value)} (h : ∀ m ∈ e :: es, m.2.ReadsBack depth) {rest cs : List Char}
    (hcs : Value.prettyMembers level (e :: es) ++ objectTail outer rest = '"' :: cs) {fuel : Nat}
    (hfuel : 3 * cs.length + 4 ≤ fuel) :
    readMember fuel depth cs = ((Value.memberOutlinesAt depth (e :: es), .closed), some rest) := by
  obtain ⟨fuel, rfl⟩ : ∃ n, fuel = n + 2 := ⟨fuel - 2, by omega⟩
  obtain ⟨hv, hes⟩ := List.forall_mem_cons.1 h
  induction es generalizing e fuel cs with
  | nil =>
    rw [prettyMembers_singleton, List.cons.injEq] at hcs
    obtain ⟨-, rfl⟩ := hcs
    exact readMember_memberChars hv (ends_newLine outer ('\x7d' :: rest))
      (Nat.le_of_succ_le_succ hfuel) (readMembers_objectTail fuel depth outer false rest)
  | cons d ds ih =>
    rw [prettyMembers_cons_cons, List.cons.injEq] at hcs
    obtain ⟨-, rfl⟩ := hcs
    obtain ⟨hd, hds⟩ := List.forall_mem_cons.1 hes
    obtain ⟨cs, hcs⟩ := prettyMembers_starts level d ds (objectTail outer rest)
    rw [hcs] at hfuel ⊢
    obtain ⟨fuel, rfl⟩ : ∃ n, fuel = n + 2 := ⟨fuel - 2, by simp [memberChars] at hfuel; omega⟩
    have hless : 3 * cs.length + 4 ≤ fuel + 2 := by
      simp only [memberChars, List.length_append, List.length_cons] at hfuel
      omega
    have hms := ih hes hcs fuel hless hd hds
    rw [← readMembers_comma (fuel + 2) depth level] at hms
    exact readMember_memberChars hv (ends_comma _) (Nat.le_of_succ_le_succ hfuel) hms

/-! ## Values -/

/-- A value that is written and read without loss but for the order of members: floats that are
restored, whole numbers of 64 bits, and no more than `k` lists and objects inside each other. -/
inductive Value.Writable : Nat → Value → Prop
  | null {k : Nat} : Writable k .null
  | bool {k : Nat} (b : Bool) : Writable k (.bool b)
  | int {k : Nat} {n : Int} : -2 ^ 63 ≤ n → n < 2 ^ 64 → Writable k (.int n)
  | float {k : Nat} {x : Float} : IsRestored x → Writable k (.float x)
  | string {k : Nat} (s : String) : Writable k (.string s)
  | array {k : Nat} {items : List Value} :
    (∀ v ∈ items, Writable k v) → Writable (k + 1) (.array items)
  | object {k : Nat} {members : List (String × Value)} :
    (∀ m ∈ members, Writable k m.2) → Writable (k + 1) (.object members)

/-- A value that a text holds as it is: no floats, whole numbers of 64 bits, members in key order,
and no more than `k` lists and objects inside each other. -/
inductive Value.Storable : Nat → Value → Prop
  | null {k : Nat} : Storable k .null
  | bool {k : Nat} (b : Bool) : Storable k (.bool b)
  | int {k : Nat} {n : Int} : -2 ^ 63 ≤ n → n < 2 ^ 64 → Storable k (.int n)
  | string {k : Nat} (s : String) : Storable k (.string s)
  | array {k : Nat} {items : List Value} :
    (∀ v ∈ items, Storable k v) → Storable (k + 1) (.array items)
  | object {k : Nat} {d : Dict Value} :
    (∀ m ∈ d.entries, Storable k m.2) → Storable (k + 1) (.ofDict d)

theorem Value.Storable.writable {k : Nat} {v : Value} (h : v.Storable k) : v.Writable k := by
  induction h with
  | null => exact .null
  | bool b => exact .bool b
  | int hlow hhigh => exact .int hlow hhigh
  | string s => exact .string s
  | array _ ih => exact .array ih
  | object _ ih => exact .object ih

theorem Value.Storable.inOrder_eq {k : Nat} {v : Value} (h : v.Storable k) : v.inOrder = v := by
  induction h with
  | null | bool | int | string => rfl
  | array _ ih => rw [inOrder_array, List.map_congr_left ih, List.map_id']
  | @object _ d _ ih =>
    have hmembers : ∀ m ∈ d.entries, (m.1, m.2.inOrder) = m := fun m hm => Prod.ext rfl (ih m hm)
    rw [ofDict, inOrder_object, List.map_congr_left hmembers, List.map_id', Dict.ofList_entries,
      ofDict]

theorem readTree_list {fuel depth : Nat} {cs : List Char} {items : List Tree} {ending : ListEnd}
    {behind : Option (List Char)}
    (h : readItems fuel (depth + 1) true cs = ((items, ending), behind)) :
    readTree (fuel + 1) depth ('[' :: cs) = (nested depth (.list items ending), behind) := by
  rw [readTree, skipSpace_cons rfl]
  simp only [h]

theorem readTree_object {fuel depth : Nat} {cs : List Char} {members : List (Token String × Tree)}
    {ending : ObjectEnd} {behind : Option (List Char)}
    (h : readMembers fuel (depth + 1) true cs = ((members, ending), behind)) :
    readTree (fuel + 1) depth ('\x7b' :: cs) =
      (nested depth (.object members ending), behind) := by
  rw [readTree, skipSpace_cons rfl]
  simp only [h]

theorem readsBack_null (depth : Nat) : Value.null.ReadsBack depth where
  starts _ := ⟨'n', _, rfl, rfl, by decide⟩
  reads {fuel level rest} _ hfuel := by
    obtain ⟨fuel, rfl⟩ : ∃ n, fuel = n + 1 := ⟨fuel - 1, by omega⟩
    rw [readTree]
    rfl

theorem readsBack_bool (depth : Nat) (b : Bool) : (Value.bool b).ReadsBack depth where
  starts _ := by cases b <;> exact ⟨_, _, rfl, rfl, by decide⟩
  reads {fuel level rest} _ hfuel := by
    obtain ⟨fuel, rfl⟩ : ∃ n, fuel = n + 1 := ⟨fuel - 1, by omega⟩
    cases b <;> rw [readTree] <;> rfl

theorem readsBack_string (depth : Nat) (s : String) : (Value.string s).ReadsBack depth where
  starts _ := ⟨'"', _, rfl, rfl, by decide⟩
  reads {fuel level rest} _ hfuel := by
    obtain ⟨fuel, rfl⟩ : ∃ n, fuel = n + 1 := ⟨fuel - 1, by omega⟩
    have htext : (Value.string s).prettyChars level ++ rest =
        '"' :: (s.toList.flatMap escapeChar ++ '"' :: rest) := by
      simp [Value.prettyChars, stringChars]
    rw [htext, readTree, skipSpace_cons rfl]
    simp only [readString?_flatMap, Value.outlineAt]

theorem readsBack_number (depth : Nat) {n : Number} (h : n.ReadsBack) :
    (Value.number n).ReadsBack depth where
  starts _ := by
    obtain ⟨c, cs, hcs, hfirst⟩ := h.first
    refine ⟨c, cs, hcs, ?_⟩
    rcases hfirst with rfl | hdigit
    · exact ⟨rfl, by decide⟩
    · refine ⟨isSpace_of_isDigit hdigit, ?_⟩
      rintro rfl
      cases hdigit
  reads {fuel level rest} hrest hfuel := by
    obtain ⟨fuel, rfl⟩ : ∃ n, fuel = n + 1 := ⟨fuel - 1, by omega⟩
    exact h.reads hrest

theorem readItems_first {fuel depth level : Nat} {c : Char} {cs : List Char}
    (hspace : isSpace c = false) (hclose : c ≠ ']') :
    readItems (fuel + 1) depth true (Value.newLine level ++ c :: cs) =
      readItem fuel depth (c :: cs) := by
  rw [readItems, skipSpace_newLine, skipSpace_cons hspace]
  split
  · rename_i heq
    cases heq
  · rename_i heq
    exact absurd (List.cons.inj heq).1 hclose
  · rename_i heq
    rw [heq, if_pos rfl]

theorem readMembers_first (fuel depth level : Nat) (cs : List Char) :
    readMembers (fuel + 1) depth true (Value.newLine level ++ '"' :: cs) =
      readMember fuel depth cs := by
  rw [readMembers, skipSpace_newLine, skipSpace_cons rfl]
  rfl

theorem readsBack_array {depth : Nat} {items : List Value}
    (h : ∀ v ∈ items, v.ReadsBack (depth + 1)) : (Value.array items).ReadsBack depth where
  starts _ := by cases items <;> exact ⟨'[', _, rfl, rfl, by decide⟩
  reads {fuel level rest} _ hfuel := by
    obtain ⟨fuel, rfl⟩ : ∃ n, fuel = n + 2 := ⟨fuel - 2, by omega⟩
    cases items with
    | nil =>
      have hitems : readItems (fuel + 1) (depth + 1) true (']' :: rest) =
          (([], .closed), some rest) := by
        rw [readItems, skipSpace_cons rfl]
        rfl
      rw [Value.prettyChars, List.cons_append, List.cons_append, List.nil_append,
        readTree_list hitems]
      rfl
    | cons v vs =>
      have htext : (Value.array (v :: vs)).prettyChars level ++ rest = '[' ::
          (Value.newLine (level + 1) ++ (Value.prettyItems (level + 1) (v :: vs) ++
            listTail level rest)) := by
        simp [Value.prettyChars, listTail]
      rw [htext] at hfuel ⊢
      have hless : 3 * (Value.prettyItems (level + 1) (v :: vs) ++ listTail level rest).length + 4 ≤
          fuel := by
        simp only [List.length_cons, List.length_append] at hfuel ⊢
        omega
      have hts := readItem_prettyItems h hless
      obtain ⟨c, cs, hcs, hspace, hclose⟩ :=
        prettyItems_starts (h v List.mem_cons_self) (level + 1) vs (listTail level rest)
      rw [hcs, ← readItems_first hspace hclose] at hts
      rw [hcs, readTree_list hts]
      rfl

theorem readsBack_object {depth : Nat} {members : List (String × Value)}
    (h : ∀ m ∈ members, m.2.ReadsBack (depth + 1)) :
    (Value.object members).ReadsBack depth where
  starts _ := by cases members <;> exact ⟨'\x7b', _, rfl, rfl, by decide⟩
  reads {fuel level rest} _ hfuel := by
    obtain ⟨fuel, rfl⟩ : ∃ n, fuel = n + 2 := ⟨fuel - 2, by omega⟩
    cases members with
    | nil =>
      have hmembers : readMembers (fuel + 1) (depth + 1) true ('\x7d' :: rest) =
          (([], .closed), some rest) := by
        rw [readMembers, skipSpace_cons rfl]
        rfl
      rw [Value.prettyChars, List.cons_append, List.cons_append, List.nil_append,
        readTree_object hmembers]
      rfl
    | cons e es =>
      obtain ⟨cs, hcs⟩ := prettyMembers_starts (level + 1) e es (objectTail level rest)
      have htext : (Value.object (e :: es)).prettyChars level ++ rest =
          '\x7b' :: (Value.newLine (level + 1) ++ '"' :: cs) := by
        rw [← hcs]
        simp [Value.prettyChars, objectTail]
      rw [htext] at hfuel ⊢
      have hless : 3 * cs.length + 4 ≤ fuel := by
        simp only [List.length_cons, List.length_append] at hfuel
        omega
      have hms := readMember_prettyMembers h hcs hless
      rw [← readMembers_first fuel (depth + 1) (level + 1)] at hms
      rw [readTree_object hms]
      rfl

/-- **The outline of a value is read from where it stands**, however deep that is. -/
theorem Value.Writable.readsBack {k : Nat} {v : Value} (h : v.Writable k) (depth : Nat) :
    v.ReadsBack depth := by
  induction h generalizing depth with
  | null => exact readsBack_null depth
  | bool b => exact readsBack_bool depth b
  | int hlow hhigh => exact readsBack_number depth (Number.readsBack_int hlow hhigh)
  | float hx => exact readsBack_number depth hx.readsBack
  | string s => exact readsBack_string depth s
  | array _ ih => exact readsBack_array fun v hv => ih v hv _
  | object _ ih => exact readsBack_object fun m hm => ih m hm _

theorem Value.Writable.depth_le {k : Nat} {v : Value} (h : v.Writable k) : v.depth ≤ k := by
  induction h with
  | null | bool | int | float | string => exact Nat.zero_le _
  | array _ ih => exact Nat.succ_le_succ (itemsDepth_le_iff.2 ih)
  | object _ ih => exact Nat.succ_le_succ (membersDepth_le_iff.2 ih)

theorem Value.Writable.of_depth {k l : Nat} {v : Value} (h : v.Writable k) (hl : v.depth ≤ l) :
    v.Writable l := by
  induction h generalizing l with
  | null => exact .null
  | bool b => exact .bool b
  | int hlow hhigh => exact .int hlow hhigh
  | float hx => exact .float hx
  | string s => exact .string s
  | array _ ih =>
    obtain ⟨n, rfl⟩ := Nat.exists_eq_add_one.2 (Nat.lt_of_lt_of_le (Nat.succ_pos _) hl)
    exact .array fun v hv => ih v hv (itemsDepth_le_iff.1 (Nat.le_of_succ_le_succ hl) v hv)
  | object _ ih =>
    obtain ⟨n, rfl⟩ := Nat.exists_eq_add_one.2 (Nat.lt_of_lt_of_le (Nat.succ_pos _) hl)
    exact .object fun m hm => ih m hm (membersDepth_le_iff.1 (Nat.le_of_succ_le_succ hl) m hm)

/-- A written value is followed to its end. -/
theorem Tree.ofText_pretty {k : Nat} {v : Value} (h : v.Writable k) :
    Tree.ofText v.pretty.toList = (v.outlineAt 0, some []) := by
  have hfuel : 3 * (v.prettyChars 0 ++ []).length + 3 ≤ 3 * (v.prettyChars 0 ++ []).length + 3 :=
    le_rfl
  have ht := (h.readsBack 0).reads ends_nil hfuel
  rw [List.append_nil] at ht
  rw [Tree.ofText, Value.pretty, String.toList_ofList, ht]

/-- **A reader makes of the text of a value what it makes of the outline.** -/
theorem readWhole_pretty {α : Type} (read : Tree → Except Error α) {v : Value}
    (h : v.Writable maxDepth) : readWhole read v.pretty = read v.outline := by
  rw [readWhole, Tree.ofText_pretty h, v.outlineAt_eq (by rw [Nat.zero_add]; exact h.depth_le)]
  dsimp only
  cases read v.outline <;> rfl

/-- **A written value is read back as it was.** -/
theorem Value.ofText_pretty {v : Value} (h : v.Storable maxDepth) :
    Value.ofText v.pretty = .ok v := by
  rw [Value.ofText, readWhole_pretty _ h.writable, Value.value_outline, h.inOrder_eq]

/-- **A written value that is nested too deep is not read back.** -/
theorem Value.ofText_pretty_deep {k : Nat} {v : Value} (h : v.Writable k)
    (hdeep : maxDepth < v.depth) : Value.ofText v.pretty = .error (.fault .tooDeep) := by
  have hvalue : (v.outlineAt 0).value = .error (.fault .tooDeep) :=
    Value.value_outlineAt_deep v (Nat.zero_le _) (by rwa [Nat.zero_add])
  rw [Value.ofText, readWhole, Tree.ofText_pretty h]
  dsimp only
  rw [hvalue]

/-! ## Dictionaries -/

/-- The members that the value of an outline has are those that a dictionary reads. -/
theorem mapM_of_memberValues {ms : List (Token String × Tree)} {ending : ObjectEnd}
    {es : List (String × Value)} (h : Tree.memberValues ms ending = .ok es) :
    ending.full = none ∧ (ms.map fun m => (Tree.content m.1, m.2)).mapM (fun m => do
      let key ← m.1
      return (key, ← (Source.value m.2 : Except Error Value))) = .ok es := by
  induction ms generalizing es with
  | nil =>
    rw [Tree.memberValues] at h
    cases hfull : ending.full with
    | none =>
      rw [hfull] at h
      exact ⟨rfl, by rw [List.map_nil, List.mapM_nil]; exact h⟩
    | some f => simp [hfull, Tree.raise] at h
  | cons m ms ih =>
    obtain ⟨k, t⟩ := m
    rw [Tree.memberValues] at h
    split at h
    · cases h
    · cases h
    · rename_i key v hkey hv
      obtain ⟨es, hes, rfl⟩ := map_eq_ok_iff.1 h
      obtain ⟨hfull, hmapM⟩ := ih hes
      refine ⟨hfull, ?_⟩
      have hvalue : (Source.value t : Except Error Value) = .ok v := hv
      rw [List.map_cons, mapM_cons_eq, hmapM, hkey, hvalue]
      rfl

/-- An object is read as a dictionary of values. -/
theorem readDict_of_value {t : Tree} {d : Dict Value} (h : t.value = .ok (.ofDict d)) :
    readDict Source.value t = .ok d := by
  cases t with
  | object ms ending =>
    rw [Tree.value] at h
    obtain ⟨es, hes, h⟩ := map_eq_ok_iff.1 h
    have hd : Dict.ofList es = d := Dict.ext (Value.object.inj h)
    obtain ⟨hfull, hmapM⟩ := mapM_of_memberValues hes
    have hview : (Source.view (Tree.object ms ending) : Except Error (View Tree)) =
      .ok (.object ⟨ms.map fun m => (Tree.content m.1, m.2), none⟩) := by
      rw [← Option.map_none (f := Error.fault), ← hfull]
      rfl
    rw [readDict, bind_eq_ok_iff]
    refine ⟨_, hview, ?_⟩
    rw [bind_eq_ok_iff]
    exact ⟨es, hmapM, congrArg Except.ok hd⟩
  | _ => simp [Tree.value, map_eq_ok_iff, Value.ofDict] at h

end PolicyFields.Json
