import PolicyFields.Json.Source
import PolicyFields.Proofs.Traversal

/-!
# What is read comes from the parts

* `View.parts` — the items of a list, the values of an object's members.
* `Shape.read_keeps` — **what holds of a record before its fields are put, and is kept by putting
  what is read from a part, holds of the record that is read**; `Shape.read_keeps_of_each`: in an
  object only the fields count that members name.
* `Lacks` — nothing stands at some keys; `Shape.read_keeps_of_lacks`: what is read without them.
-/

namespace PolicyFields.Json

open Traversal (bind_eq_ok_iff exists_of_mem_mapM)

variable {σ : Type} {α ρ : Type}

/-- The sources one level below. -/
def View.parts : View σ → List σ
  | list l => l.items
  | object o => o.members.map Prod.snd
  | _ => []

/-- A field is set to what is read. -/
theorem Field.put_optional {name : String} {item : σ → Except Error α} {set : α → ρ → ρ} {x : σ}
    {r r' : ρ} (h : (Field.optional name item set).put x r = .ok r') :
    ∃ a, item x = .ok a ∧ r' = set a r := by
  obtain ⟨a, ha, h⟩ := bind_eq_ok_iff.1 h
  exact ⟨a, ha, (Except.ok.inj h).symm⟩

theorem Field.put_mandatory {name : String} {item : σ → Except Error α} {set : α → ρ → ρ} {x : σ}
    {r r' : ρ} (h : (Field.mandatory name item set).put x r = .ok r') :
    ∃ a, item x = .ok a ∧ r' = set a r :=
  Field.put_optional (show (Field.optional name item set).put x r = .ok r' from h)

namespace Shape

variable {shape : Shape σ ρ} {Q : σ → Prop} {P : ρ → Prop} {r r' : ρ}

/-- Putting what is read from a source with `Q` keeps `P`. -/
def Keeps (fields : List (Field σ ρ)) (Q : σ → Prop) (P : ρ → Prop) : Prop :=
  ∀ f ∈ fields, ∀ x r r', Q x → P r → f.put x r = .ok r' → P r'

theorem Keeps.nil : Keeps ([] : List (Field σ ρ)) Q P := fun _ hf => absurd hf List.not_mem_nil

theorem Keeps.optional {name : String} {item : σ → Except Error α} {set : α → ρ → ρ}
    {fs : List (Field σ ρ)} (hset : ∀ x a r, Q x → item x = .ok a → P r → P (set a r))
    (hfs : Keeps fs Q P) : Keeps (Field.optional name item set :: fs) Q P := by
  intro f hf x r r' hx hr h
  rcases List.mem_cons.1 hf with rfl | hf
  · obtain ⟨a, ha, rfl⟩ := Field.put_optional h
    exact hset x a r hx ha hr
  · exact hfs f hf x r r' hx hr h

theorem Keeps.mandatory {name : String} {item : σ → Except Error α} {set : α → ρ → ρ}
    {fs : List (Field σ ρ)} (hset : ∀ x a r, Q x → item x = .ok a → P r → P (set a r))
    (hfs : Keeps fs Q P) : Keeps (Field.mandatory name item set :: fs) Q P := by
  intro f hf x r r' hx hr h
  rcases List.mem_cons.1 hf with rfl | hf
  · obtain ⟨a, ha, rfl⟩ := Field.put_mandatory h
    exact hset x a r hx ha hr
  · exact hfs f hf x r r' hx hr h

theorem putItems_keeps {fields : List (Field σ ρ)} (hput : Keeps fields Q P) {full : Option Error}
    {i : Nat} {items : List σ} (hitems : ∀ x ∈ items, Q x) (hr : P r)
    (h : shape.putItems full i fields items r = .ok r') : P r' := by
  induction fields generalizing i items r with
  | nil =>
    rw [putItems] at h
    exact Except.ok.inj h ▸ hr
  | cons f fs ih =>
    have hfs : Keeps fs Q P := fun g hg => hput g (List.mem_cons_of_mem f hg)
    cases items with
    | nil =>
      unfold putItems at h
      split at h
      · cases h
      · split at h
        · cases h
        · exact ih hfs hitems hr h
    | cons x xs =>
      rw [putItems] at h
      obtain ⟨b, hb, h⟩ := bind_eq_ok_iff.1 h
      obtain ⟨hx, hxs⟩ := List.forall_mem_cons.1 hitems
      exact ih hfs hxs (hput f List.mem_cons_self x r b hx hr hb) h

end Shape

variable [Source σ]

/-- `Q` holds of all parts of a source. -/
def PartsHold (Q : σ → Prop) (s : σ) : Prop :=
  ∀ view, Source.view s = .ok view → ∀ x ∈ view.parts, Q x

theorem orElse_eq_ok_iff {e : Option Error} {a b : α} :
    orElse e a = .ok b ↔ e = none ∧ a = b := by
  cases e <;> simp [orElse]

/-- What is read from a list is read from its items. -/
theorem exists_of_mem_readList {item : σ → Except Error α} {s : σ} {as : List α}
    (h : readList item s = .ok as) {Q : σ → Prop} (hs : PartsHold Q s) {a : α} (ha : a ∈ as) :
    ∃ x, Q x ∧ item x = .ok a := by
  obtain ⟨view, hview, h⟩ := bind_eq_ok_iff.1 h
  cases view with
  | list l =>
    obtain ⟨bs, hbs, h⟩ := bind_eq_ok_iff.1 h
    obtain ⟨-, rfl⟩ := orElse_eq_ok_iff.1 h
    obtain ⟨x, hx, hxa⟩ := exists_of_mem_mapM hbs ha
    exact ⟨x, hs _ hview x hx, hxa⟩
  | null | bool _ | number _ | string _ | object _ => cases h

namespace Shape

variable {shape : Shape σ ρ} {Q : σ → Prop} {P : ρ → Prop} {r r' : ρ}

/-- A property is kept if every member keeps it that is put into a field. -/
theorem putMembers_keeps_of_each {seen : List String} {members : List (Except Error String × σ)}
    (hput : ∀ f ∈ shape.fields, ∀ m ∈ members, m.1 = .ok f.name →
      ∀ r r', P r → f.put m.2 r = .ok r' → P r')
    (hr : P r) (h : shape.putMembers seen members r = .ok r') : P r' := by
  induction members generalizing seen r with
  | nil =>
    rw [putMembers] at h
    exact Except.ok.inj h ▸ hr
  | cons m ms ih =>
    have hrest := fun f hf n hn => hput f hf n (List.mem_cons_of_mem m hn)
    obtain ⟨key | key, x⟩ := m
    · rw [putMembers] at h
      cases h
    · rw [putMembers] at h
      split at h
      · split at h
        · cases h
        · exact ih hrest hr h
      · rename_i f hfind
        have hname : f.name = key := by simpa using List.find?_some hfind
        split at h
        · cases h
        · obtain ⟨b, hb, h⟩ := bind_eq_ok_iff.1 h
          refine ih hrest (hput f (List.mem_of_find?_eq_some hfind) (.ok key, x) List.mem_cons_self
            (congrArg Except.ok hname.symm) r b hr hb) h

theorem putMembers_keeps (hput : Keeps shape.fields Q P) {seen : List String}
    {members : List (Except Error String × σ)} (hmembers : ∀ m ∈ members, Q m.2) (hr : P r)
    (h : shape.putMembers seen members r = .ok r') : P r' :=
  putMembers_keeps_of_each (fun f hf m hm _ r r' => hput f hf m.2 r r' (hmembers m hm)) hr h

/-- What is read from an object keeps what each of its members keeps. -/
theorem read_keeps_of_each {s : σ} {o : ObjectView σ} (hs : Source.view s = .ok (.object o))
    (hput : ∀ f ∈ shape.fields, ∀ m ∈ o.members, m.1 = .ok f.name →
      ∀ r r', P r → f.put m.2 r = .ok r' → P r')
    (hr : P r) (h : shape.read r s = .ok r') : P r' := by
  obtain ⟨view, hview, h⟩ := bind_eq_ok_iff.1 h
  obtain rfl := Except.ok.inj (hs.symm.trans hview)
  obtain ⟨b, hb, h⟩ := bind_eq_ok_iff.1 h
  obtain ⟨-, rfl⟩ := orElse_eq_ok_iff.1 h
  exact putMembers_keeps_of_each hput hr hb

/-- **What putting keeps, the record that is read has.** -/
theorem read_keeps {s : σ} (hput : Keeps shape.fields Q P) (hs : PartsHold Q s) (hr : P r)
    (h : shape.read r s = .ok r') : P r' := by
  obtain ⟨view, hview, h⟩ := bind_eq_ok_iff.1 h
  have hparts := hs view hview
  cases view with
  | list l =>
    obtain ⟨b, hb, h⟩ := bind_eq_ok_iff.1 h
    obtain ⟨-, rfl⟩ := orElse_eq_ok_iff.1 h
    exact putItems_keeps hput hparts hr hb
  | object o =>
    obtain ⟨b, hb, h⟩ := bind_eq_ok_iff.1 h
    obtain ⟨-, rfl⟩ := orElse_eq_ok_iff.1 h
    exact putMembers_keeps hput (fun m hm => hparts _ (List.mem_map_of_mem hm)) hr hb
  | null | bool _ | number _ | string _ => cases h

end Shape

/-- Nothing stands at some keys: no member of the object has the first of them, or what it has lacks
the others. -/
def Lacks : List String → σ → Prop
  | [], _ => False
  | key :: keys, s => ∃ o, Source.view s = .ok (.object o) ∧
      ∀ m ∈ o.members, m.1 = .ok key → Lacks keys m.2

/-- What is read from an object that lacks something has what its fields keep without it. -/
theorem Shape.read_keeps_of_lacks {shape : Shape σ ρ} {P : ρ → Prop} {r r' : ρ} {s : σ}
    {key : String} {keys : List String} (hs : Lacks (key :: keys) s)
    (hput : ∀ f ∈ shape.fields, ∀ x, (f.name = key → Lacks keys x) →
      ∀ r r', P r → f.put x r = .ok r' → P r')
    (hr : P r) (h : shape.read r s = .ok r') : P r' := by
  obtain ⟨o, hview, hlacks⟩ := hs
  refine read_keeps_of_each hview (fun f hf m hm hname => hput f hf m.2 fun hkey => ?_) hr h
  exact hlacks m hm (hkey ▸ hname)

end PolicyFields.Json
