import PolicyFields.Proofs.Files.Path
import PolicyFields.Proofs.Settings.Leaves

/-!
# Settings changed

* `Settings.exists_at?_tree_iff` — the names of settings.
* `Settings.replace_leaf_iff` — **a setting is changed iff it takes the value, and the others
  stay**.
* `Settings.replace_group_iff` — **a group is changed iff the value is a record of which each of its
  settings takes its member**; those without a member become as usual.
-/

namespace PolicyFields.Settings

open Json (Value)
open Json.Value

variable {s s' : Settings} {v t x : Value} {name key : String} {g : Group} {k j : Leaf}
  {ks : List String}

/-! ## Settings as a value -/

/-- The settings of a group. -/
def Group.leaves : Group → List Leaf
  | paths => [.configDir, .pdfDir, .outputDir, .mappedDir]
  | extraction => [.threshold, .sizeLimit, .continueOnError]

theorem Group.mem_leaves_iff : k ∈ g.leaves ↔ k.group = g := by
  cases g <;> cases k <;> decide

theorem Leaf.key_inj (h : k.group = j.group) (hkey : k.key = j.key) : k = j := by
  cases k <;> cases j <;> first | rfl | exact absurd h (by decide) | exact absurd hkey (by decide)

/-- The settings of a group as a value with its keys in order. -/
def Group.value (g : Group) (s : Settings) : Value :=
  (Value.object (g.leaves.map fun k => (k.key, k.value s))).sortKeys

theorem at?_groupValue (key : String) (ks : List String) : (g.value s).at? (key :: ks) = some x ↔
    ∃ k : Leaf, k.group = g ∧ k.key = key ∧ (k.value s).at? ks = some x := by
  have hkeys : ((g.leaves.map fun k => (k.key, k.value s)).map Prod.fst).Nodup := by
    have hnames : (g.leaves.map Leaf.key).Nodup := by cases g <;> decide
    rw [List.map_map]
    exact hnames
  have hsorted (k : Leaf) : (k.value s).sortKeys = k.value s := by cases k <;> rfl
  rw [Group.value, at?_sortKeys_cons hkeys, Option.bind_eq_some_iff]
  simp only [Dict.lookup_eq_some_iff_mem hkeys, List.mem_map, Prod.mk.injEq, Group.mem_leaves_iff]
  constructor
  · rintro ⟨_, ⟨k, hk, hkey, rfl⟩, h⟩
    exact ⟨k, hk, hkey, hsorted k ▸ h⟩
  · rintro ⟨k, hk, hkey, h⟩
    exact ⟨_, ⟨k, hk, hkey, rfl⟩, (hsorted k).symm ▸ h⟩

theorem at?_tree_cons : s.tree.at? (key :: ks) = some x ↔
    ∃ g : Group, g.key = key ∧ (g.value s).at? ks = some x := by
  have hgroups : s.toValue = .object [(Group.paths.key, s.paths.toValue),
    (Group.extraction.key, s.extraction.toValue)] := rfl
  have hkeys : ([(Group.paths.key, s.paths.toValue),
      (Group.extraction.key, s.extraction.toValue)].map Prod.fst).Nodup :=
    show groupNames.Nodup by decide
  rw [tree, hgroups, at?_sortKeys_cons hkeys, Dict.lookup_cons_eq_ite, Dict.lookup_cons_eq_ite]
  constructor
  · intro h
    split at h
    · exact ⟨.paths, Eq.symm ‹_›, h⟩
    · split at h
      · exact ⟨.extraction, Eq.symm ‹_›, h⟩
      · cases h
  · rintro ⟨g, rfl, h⟩
    cases g <;> exact h

/-- The groups are found by their keys, and so are the settings in them. -/
theorem at?_tree_group (g : Group) (s : Settings) : s.tree.at? [g.key] = some (g.value s) :=
  at?_tree_cons.2 ⟨g, rfl, rfl⟩

theorem at?_tree_leaf (k : Leaf) (s : Settings) : s.tree.at? k.keys = some (k.value s) :=
  at?_tree_cons.2 ⟨k.group, rfl, (at?_groupValue _ _).2 ⟨k, rfl, rfl, rfl⟩⟩

/-- **A setting is named by its keys**; so is a group, and all settings by none. -/
theorem exists_at?_tree_iff : (∃ x, s.tree.at? ks = some x) ↔
    ks = [] ∨ (∃ g : Group, ks = [g.key]) ∨ ∃ k : Leaf, ks = k.keys := by
  constructor
  · rintro ⟨x, hx⟩
    cases ks with
    | nil => exact .inl rfl
    | cons key ks =>
      obtain ⟨g, rfl, hgroup⟩ := at?_tree_cons.1 hx
      cases ks with
      | nil => exact .inr (.inl ⟨g, rfl⟩)
      | cons key ks =>
        obtain ⟨k, rfl, rfl, hleaf⟩ := (at?_groupValue _ _).1 hgroup
        cases ks with
        | nil => exact .inr (.inr ⟨k, rfl⟩)
        | cons key ks => cases k <;> cases hleaf
  · rintro (rfl | ⟨g, rfl⟩ | ⟨k, rfl⟩)
    · exact ⟨_, rfl⟩
    · exact ⟨_, at?_tree_group g s⟩
    · exact ⟨_, at?_tree_leaf k s⟩

/-! ## Groups as records -/

theorem isRecord_groupValue (g : Group) (s : Settings) (names : List String) :
    (g.value s).IsRecord names := by
  rw [Group.value, sortKeys_object]
  exact isRecord_ofDict _ _

theorem member?_groupValue (k : Leaf) (s : Settings) :
    (k.group.value s).member? k.key = some (k.value s) := by
  rw [← at?_singleton]
  exact (at?_groupValue _ _).2 ⟨k, rfl, rfl, rfl⟩

/-- The settings of a group are those of the group as it is iff none of them differs. -/
theorem holds_groupValue_iff : g.Holds (some (g.value s)) s' ↔
    ∀ k : Leaf, k.group = g → k.value s' = k.value s := by
  have hfield {k : Leaf} (hk : k.group = g) :
      (g.value s).field? g.names k.key = some (k.value s) := by
    subst hk
    rw [← member?_groupValue, Group.value, sortKeys_object]
    rfl
  constructor
  · rintro ⟨-, h⟩ k hk
    have hk' := h k hk
    rw [hfield hk] at hk'
    exact Leaf.takes_value_iff.1 hk'
  · refine fun h => ⟨isRecord_groupValue g s _, fun k hk => ?_⟩
    rw [hfield hk]
    exact Leaf.takes_value_iff.2 (h k hk)

/-! ## Replacing -/

theorem keys_ne_nil (name : String) : keys name ≠ [] := by
  rw [keys, Ne, List.map_eq_nil_iff]
  exact Text.splitAt_ne_nil _ _

theorem replace_eq_ok_iff : s.replace name v = .ok s' ↔
    ∃ t, replaceAt? v (keys name) s.tree = some t ∧ Settings.read t = .ok s' := by
  unfold replace
  cases replaceAt? v (keys name) s.tree with
  | none => simp
  | some t => simp [Traversal.mapError_eq_ok_iff]

theorem isRecord_tree (s : Settings) (names : List String) : s.tree.IsRecord names := by
  rw [tree, Settings.toValue, sortKeys_object]
  exact isRecord_ofDict _ _

/-- When something in one group has been replaced, that group is read from what it has become, and
the others stay. -/
theorem read_replaced_iff (ht : replaceAt? v (g.key :: ks) s.tree = some t) :
    Settings.read t = .ok s' ↔ g.Holds (t.field? groupNames g.key) s' ∧
      ∀ k : Leaf, k.group ≠ g → k.value s' = k.value s := by
  have hrecord : t.IsRecord groupNames := (isRecord_replaceAt? ht _).2 (isRecord_tree s _)
  have hother {g' : Group} (h : g' ≠ g) : t.field? groupNames g'.key = some (g'.value s) := by
    have hkey : g'.key ≠ g.key := mt Group.key_inj.1 h
    rw [field?_replaceAt?_of_ne ht _ hkey, ← at?_singleton, at?_tree_group]
  rw [read_eq_ok_iff, Value.Record, and_iff_right hrecord]
  constructor
  · refine fun h => ⟨h g, fun k hk => ?_⟩
    exact holds_groupValue_iff.1 (hother hk ▸ h k.group) k rfl
  · rintro ⟨hg, hstay⟩ g'
    by_cases h : g' = g
    · exact h ▸ hg
    · rw [hother h]
      exact holds_groupValue_iff.2 fun k hk => hstay k (hk ▸ h)

/-- **A group is changed iff the value is a record of which each of its settings takes its member.**
Those without a member become as usual; the other settings stay. -/
theorem replace_group_iff (hname : keys name = [g.key]) : s.replace name v = .ok s' ↔
    g.Holds (some v) s' ∧ ∀ k : Leaf, k.group ≠ g → k.value s' = k.value s := by
  obtain ⟨t, ht⟩ : ∃ t, replaceAt? v [g.key] s.tree = some t :=
    exists_replaceAt?_iff.2 ⟨_, at?_tree_group g s⟩
  have hgroup : t.field? groupNames g.key = some v := by
    rw [field?_replaceAt? ht, ← at?_singleton, at?_replaceAt? ht]
  rw [replace_eq_ok_iff, hname, ht]
  simp only [Option.some.injEq, exists_eq_left', read_replaced_iff ht, hgroup]

/-- A group of which one setting has been replaced is read iff this takes the value and the others
stay. -/
theorem holds_replaced_iff {new : Value}
    (hnew : replaceAt? v [k.key] (k.group.value s) = some new) :
    k.group.Holds (some new) s' ↔ k.kind.Takes v (k.value s') ∧
      ∀ j : Leaf, j.group = k.group → j ≠ k → j.value s' = j.value s := by
  have hrecord : new.IsRecord k.group.names :=
    (isRecord_replaceAt? hnew _).2 (isRecord_groupValue _ s _)
  have hself : new.field? k.group.names k.key = some v := by
    rw [field?_replaceAt? hnew, ← at?_singleton, at?_replaceAt? hnew]
  have hbeside {j : Leaf} (hj : j.group = k.group) (hne : j ≠ k) :
      new.field? k.group.names j.key = some (j.value s) := by
    have hkey : j.key ≠ k.key := fun h => hne (Leaf.key_inj hj h)
    rw [field?_replaceAt?_of_ne hnew _ hkey, ← hj, member?_groupValue]
  constructor
  · rintro ⟨-, h⟩
    refine ⟨?_, fun j hj hne => ?_⟩
    · have hleaf := h k rfl
      rw [hself] at hleaf
      exact hleaf
    · have hleaf := h j hj
      rw [hbeside hj hne] at hleaf
      exact Leaf.takes_value_iff.1 hleaf
  · rintro ⟨hv, hstay⟩
    refine ⟨hrecord, fun j hj => ?_⟩
    by_cases hne : j = k
    · subst hne
      rw [hself]
      exact hv
    · rw [hbeside hj hne]
      exact Leaf.takes_value_iff.2 (hstay j hj hne)

/-- **A setting is changed iff it takes the value, and the others stay.** -/
theorem replace_leaf_iff (hname : keys name = k.keys) : s.replace name v = .ok s' ↔
    k.kind.Takes v (k.value s') ∧ ∀ j ≠ k, j.value s' = j.value s := by
  obtain ⟨t, ht⟩ : ∃ t, replaceAt? v k.keys s.tree = some t :=
    exists_replaceAt?_iff.2 ⟨_, at?_tree_leaf k s⟩
  -- The group of the setting is the old one with the value in the place of the setting.
  have hsplit : replaceAt? v ([k.group.key] ++ [k.key]) s.tree = some t := ht
  obtain ⟨old, new, hold, hnew, hreplace⟩ := exists_at?_replaceAt? hsplit
  obtain rfl := Option.some.inj ((at?_tree_group k.group s).symm.trans hold)
  have hgroup : t.field? groupNames k.group.key = some new := by
    rw [field?_replaceAt? ht, ← at?_singleton, hnew]
  rw [replace_eq_ok_iff, hname, ht]
  simp only [Option.some.injEq, exists_eq_left', read_replaced_iff ht, hgroup,
    holds_replaced_iff hreplace]
  constructor
  · rintro ⟨⟨hv, hbeside⟩, hother⟩
    refine ⟨hv, fun j hne => ?_⟩
    by_cases hj : j.group = k.group
    · exact hbeside j hj hne
    · exact hother j hj
  · rintro ⟨hv, hstay⟩
    refine ⟨⟨hv, fun j _ hne => hstay j hne⟩, fun j hj => hstay j ?_⟩
    rintro rfl
    exact hj rfl

/-- Which values a setting takes does not depend on the settings. -/
theorem exists_replace_iff (hname : keys name = k.keys) (s : Settings) :
    (∃ s', s.replace name v = .ok s') ↔ ∃ w, k.kind.Takes v w := by
  constructor
  · rintro ⟨s', h⟩
    exact ⟨_, ((replace_leaf_iff hname).1 h).1⟩
  · rintro ⟨w, hw⟩
    let values := Function.update (fun j : Leaf => j.value s) k w
    have hself : values k = w := Function.update_self ..
    have hother {j : Leaf} (h : j ≠ k) : values j = j.value s := Function.update_of_ne h ..
    obtain ⟨s', hs'⟩ := Leaf.exists_value_eq values fun j => by
      by_cases h : j = k
      · subst h
        exact ⟨v, hself ▸ hw⟩
      · rw [hother h]
        exact ⟨_, Leaf.takes_value_iff.2 rfl⟩
    refine ⟨s', (replace_leaf_iff hname).2 ⟨?_, fun j h => (hs' j).trans (hother h)⟩⟩
    rw [hs', hself]
    exact hw

/-- What is changed has a name. -/
theorem name_of_replace (h : s.replace name v = .ok s') :
    (∃ g : Group, keys name = [g.key]) ∨ ∃ k : Leaf, keys name = k.keys := by
  obtain ⟨t, ht, -⟩ := replace_eq_ok_iff.1 h
  obtain hnil | hname := exists_at?_tree_iff.1 (exists_replaceAt?_iff.1 ⟨t, ht⟩)
  · exact absurd hnil (keys_ne_nil name)
  · exact hname

theorem exists_at?_of_replace (h : s.replace name v = .ok s') :
    ∃ part, s'.tree.at? (keys name) = some part :=
  exists_at?_tree_iff.2 (.inr (name_of_replace h))

end PolicyFields.Settings
