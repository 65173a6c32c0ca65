import PolicyFields.Files.JsonFile
import PolicyFields.Proofs.Json.RoundTrip

/-!
# What is written to files

* `Files.node?_set` — what is at a location after something has been put somewhere.
* `Files.walk_mono` — a path leads where it led as long as its directories are there.
* `Files.readText_of_writeWithParents` — **what has been written to a path is read from it**.
* `Files.CanWrite` — whether a text can be written to a path, whatever it says.
* `Files.SameFiles` — the same files; making directories leaves them alone.
* `readArtifact_of_writeArtifact` — **an artifact that has been written is read as it was**.
-/

namespace PolicyFields

namespace Files

open Traversal (bind_eq_ok_iff)

variable {f g : Files} {p : Path} {l m : Location}

/-! ## Putting something somewhere -/

theorem lookup_set (nodes : List (Location × Node)) (n : Node) :
    (nodes.filter (fun e => e.1 != l) ++ [(l, n)]).lookup m =
      if m = l then some n else nodes.lookup m := by
  induction nodes with
  | nil =>
    by_cases h : m = l
    · simp [h]
    · simp [h, List.lookup_cons, beq_eq_false_iff_ne.2 h]
  | cons e nodes ih =>
    obtain ⟨k, x⟩ := e
    by_cases hk : k = l
    · rw [List.filter_cons_of_neg (by simp [hk]), ih, List.lookup_cons]
      by_cases h : m = l
      · simp [h]
      · simp [h, hk, beq_eq_false_iff_ne.2 h]
    · rw [List.filter_cons_of_pos (by simp [hk]), List.cons_append, List.lookup_cons, ih,
        List.lookup_cons]
      by_cases h : m = l
      · simp [h, beq_eq_false_iff_ne.2 (Ne.symm hk)]
      · simp [h]

theorem node?_set (f : Files) (l : Location) (n : Node) (m : Location) : (f.set l n).node? m =
    if m <+: f.start then some .directory else if m = l then some n else f.nodes.lookup m := by
  rw [node?]
  exact if_congr Iff.rfl rfl (lookup_set f.nodes n)

/-- Putting something where there is no directory takes no directory away. -/
theorem node?_set_directory (n : Node) (hl : f.node? l ≠ some .directory)
    (hm : f.node? m = some .directory) : (f.set l n).node? m = some .directory := by
  have hne : m ≠ l := by
    rintro rfl
    exact hl hm
  rw [node?_set, if_neg hne]
  exact hm

/-- It is there afterwards. -/
theorem node?_set_self (n : Node) (hl : f.node? l ≠ some .directory) :
    (f.set l n).node? l = some n := by
  have hstart : ¬ l <+: f.start := fun h => hl (if_pos h)
  rw [node?_set, if_neg hstart, if_pos rfl]

/-! ## Following paths -/

theorem needDirectory_eq_ok_iff : f.needDirectory l = .ok () ↔ f.node? l = some .directory := by
  unfold needDirectory
  split <;> simp [*]

/-- A path leads where it led if its directories are still there. -/
theorem walk_mono (hdirectory : ∀ m, f.node? m = some .directory → g.node? m = some .directory)
    {segments : List String} (h : f.walk l segments = .ok m) : g.walk l segments = .ok m := by
  induction segments generalizing l with
  | nil => exact h
  | cons s r ih =>
    rw [walk, bind_eq_ok_iff] at h ⊢
    obtain ⟨_, hneed, h⟩ := h
    refine ⟨(), needDirectory_eq_ok_iff.2 (hdirectory l (needDirectory_eq_ok_iff.1 hneed)), ?_⟩
    split at h <;> exact ih h

theorem status_eq_ok_iff {n : Node} :
    f.status p = .ok n ↔ ∃ l, f.locate p = .ok l ∧ f.node? l = some n := by
  rw [status, bind_eq_ok_iff]
  refine exists_congr fun l => and_congr_right fun _ => ?_
  cases f.node? l <;> simp

/-! ## Writing and reading -/

theorem locate_of_target (h : f.target p = .ok l) : f.locate p = .ok l := by
  unfold target at h
  split at h
  · obtain ⟨_, -, h⟩ := bind_eq_ok_iff.1 h
    cases h
  · exact h

theorem readText_of_write {s : String} (h : f.write p (.text s) = .ok g) :
    g.readText p = .ok s := by
  obtain ⟨l, hl, h⟩ := bind_eq_ok_iff.1 h
  have hlocate := locate_of_target hl
  have hfree : f.node? l ≠ some .directory ∧ g = f.set l (.file (.text s)) := by
    split at h
    · cases h
    · rename_i hnode
      exact ⟨hnode, (Except.ok.inj h).symm⟩
  obtain ⟨hfree, rfl⟩ := hfree
  -- The path leads to the same place, and what was written is there.
  have hfound : (f.set l (.file (.text s))).locate p = .ok l := by
    unfold locate at hlocate ⊢
    split at hlocate
    · cases hlocate
    · rename_i hempty
      rw [if_neg hempty]
      exact walk_mono (fun m => node?_set_directory _ hfree) hlocate
  have hnode := node?_set_self (.file (.text s)) hfree
  rw [readText, read, status_eq_ok_iff.2 ⟨l, hfound, hnode⟩]
  rfl

/-- **What has been written to a path is read from it.** -/
theorem readText_of_writeWithParents {s : String}
    (h : f.writeWithParents p (.text s) = (.ok (), g)) : g.readText p = .ok s := by
  unfold writeWithParents at h
  split at h
  · cases h
  · split at h
    · cases h
    · rename_i hwrite
      obtain rfl := (Prod.mk.inj h).2
      exact readText_of_write hwrite

/-- A text can be written to the path. -/
def CanWrite (f : Files) (p : Path) : Prop := (f.writeWithParents p (.text "")).1 = .ok ()

/-- Whether something can be written does not depend on what it is. -/
theorem writeWithParents_fst (f : Files) (p : Path) (c d : Content) :
    (f.writeWithParents p c).1 = (f.writeWithParents p d).1 := by
  unfold writeWithParents
  cases f.makeParents p with
  | error e => rfl
  | ok g =>
    dsimp only
    unfold write
    cases g.target p with
    | error e => rfl
    | ok l =>
      simp only [bind, Except.bind]
      cases g.node? l with
      | none => rfl
      | some n => cases n <;> rfl

theorem canWrite_iff (c : Content) :
    f.CanWrite p ↔ ∃ g h, f.makeParents p = .ok g ∧ g.write p c = .ok h := by
  rw [CanWrite, writeWithParents_fst f p _ c, writeWithParents]
  cases f.makeParents p with
  | error e => simp
  | ok g => cases hwrite : g.write p c <;> simp [hwrite]

/-! ## Files that are left alone -/

/-- The same files are at the same locations. -/
def SameFiles (f g : Files) : Prop :=
  ∀ l c, g.node? l = some (.file c) ↔ f.node? l = some (.file c)

theorem SameFiles.refl (f : Files) : f.SameFiles f := fun _ _ => Iff.rfl

theorem sameFiles_set_directory (hl : f.node? l = none) : f.SameFiles (f.set l .directory) := by
  intro m c
  by_cases hm : m = l
  · subst hm
    rw [node?_set_self _ (by simp [hl]), hl]
    simp
  · rw [node?_set, if_neg hm]
    exact Iff.rfl

/-- Making directories leaves files alone. -/
theorem makeFrom_sameFiles {cs : List Path.Component} (h : f.makeFrom l cs = .ok g) :
    f.SameFiles g := by
  induction cs generalizing f l with
  | nil => exact Except.ok.inj h ▸ .refl f
  | cons c cs ih =>
    cases c with
    | name n =>
      rw [makeFrom] at h
      split at h
      · exact ih h
      · cases h
      · rename_i hnone
        exact fun m d => (ih h m d).trans (sameFiles_set_directory hnone m d)
    | root | here | up => exact ih h

theorem makeParents_sameFiles (h : f.makeParents p = .ok g) : f.SameFiles g := by
  unfold makeParents at h
  split at h
  · exact makeFrom_sameFiles h
  · exact Except.ok.inj h ▸ .refl f

theorem has_of_readText {s : String} (h : f.readText p = .ok s) : f.has p = true := by
  obtain ⟨c, hc, -⟩ := bind_eq_ok_iff.1 h
  obtain ⟨n, hn, -⟩ := bind_eq_ok_iff.1 hc
  rw [has, hn]
  rfl

end Files

/-! ## Artifacts -/

open Json (Value)

theorem writeArtifact_eq_ok {f g : Files} {p : Path} {v : Value}
    (h : writeArtifact f p v = (.ok (), g)) :
    f.writeWithParents p (.text v.pretty) = (.ok (), g) := by
  unfold writeArtifact at h
  generalize f.writeWithParents p (.text v.pretty) = result at h ⊢
  obtain ⟨written, _⟩ := result
  obtain ⟨hwritten, rfl⟩ := Prod.mk.inj h
  cases written with
  | ok => rfl
  | error e => cases hwritten

/-- An object that has been written is read with its members in key order. -/
theorem readArtifact_inOrder {f g : Files} {p : Path} {v : Value} {d : Dict Value}
    (hv : v.Writable Json.maxDepth) (hd : v.inOrder = .ofDict d)
    (h : writeArtifact f p v = (.ok (), g)) : readArtifact g p = .ok d := by
  have htext := Files.readText_of_writeWithParents (writeArtifact_eq_ok h)
  have hread : Json.readWhole (Json.readDict Json.Source.value) v.pretty = .ok d :=
    (Json.readWhole_pretty _ hv).trans (Json.readDict_of_value (hd ▸ v.value_outline))
  rw [readArtifact, readJsonFile, htext]
  change (Json.readWhole _ _).mapError Failure.json = _
  rw [hread]
  rfl

/-- **An artifact that has been written is read as it was.** -/
theorem readArtifact_of_writeArtifact {f g : Files} {p : Path} {d : Dict Value}
    (hd : (Value.ofDict d).Storable Json.maxDepth)
    (h : writeArtifact f p (.ofDict d) = (.ok (), g)) : readArtifact g p = .ok d :=
  readArtifact_inOrder hd.writable hd.inOrder_eq h

end PolicyFields
