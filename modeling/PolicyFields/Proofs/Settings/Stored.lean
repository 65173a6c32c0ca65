import PolicyFields.Proofs.Files.Store
import PolicyFields.Proofs.Json.Reading
import PolicyFields.Proofs.Settings.Changes
import PolicyFields.Settings.File

/-!
# Settings in files

* `Settings.value_of_lacks` — **a setting that a text lacks is as usual**.
* `Settings.sizeLimit_lt_of_load`, `Settings.sizeLimit_lt_of_replace` — the size limit has 64 bits,
  wherever it comes from.
* `Settings.load_of_readText` — **settings whose text is in a file are loaded from it**, if the
  threshold is restored.
-/

namespace PolicyFields.Settings

open Json (Value Tree Lacks Source IsRestored)
open Traversal (bind_eq_ok_iff map_eq_ok_iff mapError_eq_ok_iff)

variable {σ : Type} [Source σ] {s s' : Settings} {k : Leaf} {f : Files} {p : Path}

/-! ## Settings that are not there -/

theorem value_of_layout_lacks {x : σ} {l : Layout} (hread : Layout.read x = .ok l)
    (hk : k.group = .paths) (h : Lacks [k.key] x) (s : Settings) :
    k.value { s with paths := l } = k.value .default := by
  refine Json.Shape.read_keeps_of_lacks (P := fun l => k.value { s with paths := l } =
    k.value .default) h (fun f hf y hkey l l' hl hput => ?_) ?_ hread
  · simp only [Layout.shape, List.mem_cons, List.not_mem_nil, or_false] at hf
    rcases hf with rfl | rfl | rfl | rfl <;>
      obtain ⟨_, -, rfl⟩ := Json.Field.put_optional hput <;>
      cases k <;> first | exact hl | exact (hkey rfl).elim
  · cases k <;> first | rfl | cases hk

theorem value_of_extraction_lacks {x : σ} {e : ExtractionSettings}
    (hread : ExtractionSettings.read x = .ok e) (hk : k.group = .extraction) (h : Lacks [k.key] x)
    (s : Settings) : k.value { s with extraction := e } = k.value .default := by
  refine Json.Shape.read_keeps_of_lacks (P := fun e => k.value { s with extraction := e } =
    k.value .default) h (fun f hf y hkey e e' he hput => ?_) ?_ hread
  · simp only [ExtractionSettings.shape, List.mem_cons, List.not_mem_nil, or_false] at hf
    rcases hf with rfl | rfl | rfl <;>
      obtain ⟨_, -, rfl⟩ := Json.Field.put_optional hput <;>
      cases k <;> first | exact he | exact (hkey rfl).elim
  · cases k <;> first | rfl | cases hk

/-- **A setting that is lacking is as usual.** -/
theorem value_of_lacks {x : σ} (hread : Settings.read x = .ok s) (h : Lacks k.keys x) :
    k.value s = k.value .default := by
  refine Json.Shape.read_keeps_of_lacks (P := fun s => k.value s = k.value .default) h
    (fun f hf y hlacks s s' hs hput => ?_) rfl hread
  simp only [Settings.shape, List.mem_cons, List.not_mem_nil, or_false] at hf
  rcases hf with rfl | rfl <;> obtain ⟨_, hpart, rfl⟩ := Json.Field.put_optional hput <;>
    cases hk : k.group
  · exact value_of_layout_lacks hpart hk (hlacks (hk ▸ rfl)) s
  · cases k <;> first | exact hs | cases hk
  · cases k <;> first | exact hs | cases hk
  · exact value_of_extraction_lacks hpart hk (hlacks (hk ▸ rfl)) s

/-! ## The size limit -/

theorem readNat_lt {n m : Nat} {t : Tree} (ht : t.Readable n) (h : Json.readNat t = .ok m) :
    m < 2 ^ 64 := by
  obtain ⟨view, hview, h⟩ := bind_eq_ok_iff.1 h
  cases ht with
  | number hrange =>
    obtain ⟨i | x, hi, rfl⟩ := map_eq_ok_iff.1 hview
    · have hbound := (hrange i (mapError_eq_ok_iff.1 hi)).2
      dsimp only at h
      split at h
      · cases h
      · obtain rfl := Except.ok.inj h
        omega
    · cases h
  | string =>
    obtain ⟨_, -, rfl⟩ := map_eq_ok_iff.1 hview
    cases h
  | null | bool | list | object =>
    obtain rfl := Except.ok.inj hview
    cases h
  | tooDeep | broken => cases hview

theorem sizeLimit_lt_of_extraction_read {n : Nat} {t : Tree} (ht : t.Readable (n + 1))
    {e : ExtractionSettings} (h : ExtractionSettings.read t = .ok e) : e.sizeLimit < 2 ^ 64 := by
  have hkeeps : Json.Shape.Keeps ExtractionSettings.shape.fields (Tree.Readable n) fun e =>
      e.sizeLimit < 2 ^ 64 :=
    .optional (fun _ _ _ _ _ he => he) <| .optional (fun _ _ _ hx hm _ => readNat_lt hx hm) <|
      .optional (fun _ _ _ _ _ he => he) .nil
  exact Json.Shape.read_keeps (P := fun e => e.sizeLimit < 2 ^ 64) hkeeps ht.parts (by decide) h

theorem sizeLimit_lt_of_read {n : Nat} {t : Tree} (ht : t.Readable (n + 2))
    (h : Settings.read t = .ok s) : s.extraction.sizeLimit < 2 ^ 64 := by
  have hkeeps : Json.Shape.Keeps Settings.shape.fields (Tree.Readable (n + 1)) fun s =>
      s.extraction.sizeLimit < 2 ^ 64 :=
    .optional (fun _ _ _ _ _ hs => hs) <|
      .optional (fun _ _ _ hx he _ => sizeLimit_lt_of_extraction_read hx he) .nil
  exact Json.Shape.read_keeps (P := fun s => s.extraction.sizeLimit < 2 ^ 64) hkeeps ht.parts
    (by decide) h

theorem load_eq_ok_iff : Settings.load f p = .ok s ↔
    ∃ text, f.readText p = .ok text ∧ Json.readWhole Settings.read text = .ok s := by
  simp only [load, readJsonFile, bind_eq_ok_iff, mapError_eq_ok_iff]

/-- The size limit in a file has 64 bits. -/
theorem sizeLimit_lt_of_load (h : Settings.load f p = .ok s) : s.extraction.sizeLimit < 2 ^ 64 := by
  obtain ⟨text, -, hread⟩ := load_eq_ok_iff.1 h
  exact sizeLimit_lt_of_read (Tree.ofText_readable _) (Json.readWhole_eq_ok hread)

/-- A setting that the text in a file lacks is as usual. -/
theorem value_of_load {text : String} (hload : Settings.load f p = .ok s)
    (htext : f.readText p = .ok text) (h : Lacks k.keys (Tree.ofText text.toList).1) :
    k.value s = k.value .default := by
  obtain ⟨text', htext', hread⟩ := load_eq_ok_iff.1 hload
  obtain rfl := Except.ok.inj (htext.symm.trans htext')
  exact value_of_lacks (Json.readWhole_eq_ok hread) h

theorem valueOf_readable (raw : String) : (valueOf raw).Readable Json.maxDepth := by
  unfold valueOf
  split
  · exact Json.Value.ofText_readable ‹_›
  · exact .string raw

/-- So has one that has been changed by what a text says. -/
theorem sizeLimit_lt_of_replace {v : Value} {n : Nat} (hv : v.Readable n) {name : String}
    (hs : s.extraction.sizeLimit < 2 ^ 64) (h : s.replace name v = .ok s') :
    s'.extraction.sizeLimit < 2 ^ 64 := by
  have htaken {x : Value} (hx : x.Readable n) (htakes : Kind.count.Takes x
      (Leaf.sizeLimit.value s')) : s'.extraction.sizeLimit < 2 ^ 64 := by
    obtain rfl := Json.readNat_eq_ok_iff.1 (readNat_eq_ok_iff.2 htakes)
    have hrange := hx.inRange.2
    omega
  have hstays (h : Leaf.sizeLimit.value s' = Leaf.sizeLimit.value s) :
      s'.extraction.sizeLimit < 2 ^ 64 := nat_inj.1 h ▸ hs
  obtain ⟨g, hname⟩ | ⟨k, hname⟩ := name_of_replace h
  · obtain ⟨⟨-, hgroup⟩, hother⟩ := (replace_group_iff hname).1 h
    by_cases hg : Leaf.sizeLimit.group = g
    · have hleaf := hgroup .sizeLimit hg
      cases hpart : v.field? g.names Leaf.sizeLimit.key with
      | none =>
        rw [hpart] at hleaf
        rw [nat_inj.1 hleaf]
        decide
      | some x =>
        rw [hpart] at hleaf
        exact htaken (hv.field hpart) hleaf
    · exact hstays (hother _ hg)
  · obtain ⟨htakes, hother⟩ := (replace_leaf_iff hname).1 h
    by_cases hk : Leaf.sizeLimit = k
    · subst hk
      exact htaken hv htakes
    · exact hstays (hother _ hk)

/-! ## Settings written -/

/-- Settings are read from the outline of their text. -/
theorem read_outline (s : Settings) : Settings.read (s.toValue.outline : Tree) = .ok s := rfl

theorem writable_toValue (hsize : s.extraction.sizeLimit < 2 ^ 64)
    (hthreshold : IsRestored s.extraction.threshold) : s.toValue.Writable Json.maxDepth := by
  have hpaths : s.paths.toValue.Writable (125 + 1) := by
    refine .object ?_
    simp only [List.forall_mem_cons, List.not_mem_nil, false_imp_iff, implies_true, and_true]
    exact ⟨.string _, .string _, .string _, .string _⟩
  have hextraction : s.extraction.toValue.Writable (125 + 1) := by
    refine .object ?_
    simp only [List.forall_mem_cons, List.not_mem_nil, false_imp_iff, implies_true, and_true]
    exact ⟨.float hthreshold, .int (by omega) (by omega), .bool _⟩
  refine Value.Writable.object (k := 125 + 1) ?_
  simp only [List.forall_mem_cons, List.not_mem_nil, false_imp_iff, implies_true, and_true]
  exact ⟨hpaths, hextraction⟩

/-- **Settings whose text is in a file are loaded from it.** -/
theorem load_of_readText (hsize : s.extraction.sizeLimit < 2 ^ 64)
    (hthreshold : IsRestored s.extraction.threshold) (h : f.readText p = .ok s.toValue.pretty) :
    Settings.load f p = .ok s := by
  refine load_eq_ok_iff.2 ⟨_, h, ?_⟩
  rw [Json.readWhole_pretty _ (writable_toValue hsize hthreshold)]
  exact read_outline s

end PolicyFields.Settings
