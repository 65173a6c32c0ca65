import Mathlib.Data.List.Induction
import PolicyFields.Proofs.Files.Path
import PolicyFields.Proofs.Files.Store

/-!
# Where paths lead

The place of a path depends on its text only. Whether files let it be reached does not: all the
directories that the path leads through must be there.

* `Files.place` — where a path leads if it can be followed at all.
* `Files.Leads` — the directories on the way of a path and at its end are there.
* `Files.Firm` — a path goes up only from directories that are there.
* `Files.IsTree` — what is not at the root is in a directory, and has a name.
* `Files.locate_child` — **a name below a directory is found iff the path leads to the directory**.
* `Files.IsTree.toOption_status_child` — **in a tree, what is at a firm path is what is at its
  place**.
-/

namespace PolicyFields

open Traversal (bind_eq_ok_iff)

/-- Where a component leads from a location. -/
def Path.Component.lead (l : Location) : Path.Component → Location
  | .root => []
  | .here => l
  | .up => l.dropLast
  | .name n => l ++ [n]

namespace Files

open PolicyFields.Path (Component IsFileName)
open PolicyFields.Path.Component (lead)

variable {f g : Files} {p : Path} {l m : Location} {name : String}

/-! ## Following components -/

/-- Where a path leads. -/
def place (f : Files) (p : Path) : Location := p.steps.foldl lead (f.beginning p)

/-- A location is a directory, and so are all those that components lead to from there. -/
def Along (f : Files) : Location → List Component → Prop
  | l, [] => f.node? l = some .directory
  | l, c :: r => f.node? l = some .directory ∧ f.Along (lead l c) r

/-- Components go up only from directories. -/
def Climbs (f : Files) : Location → List Component → Prop
  | _, [] => True
  | l, c :: r => (c = .up → f.node? l = some .directory) ∧ f.Climbs (lead l c) r

instance decidableAlong (f : Files) : ∀ l cs, Decidable (f.Along l cs)
  | l, [] => inferInstanceAs (Decidable (f.node? l = some .directory))
  | l, c :: r =>
    have := decidableAlong f (lead l c) r
    inferInstanceAs (Decidable (f.node? l = some .directory ∧ f.Along (lead l c) r))

instance decidableClimbs (f : Files) : ∀ l cs, Decidable (f.Climbs l cs)
  | _, [] => inferInstanceAs (Decidable True)
  | l, c :: r =>
    have := decidableClimbs f (lead l c) r
    inferInstanceAs (Decidable ((c = .up → f.node? l = some .directory) ∧ f.Climbs (lead l c) r))

/-- All the directories that a path leads through, and the one that it leads to, are there. -/
def Leads (f : Files) (p : Path) : Prop := f.Along (f.beginning p) p.steps

/-- A path goes up only from directories that are there. -/
def Firm (f : Files) (p : Path) : Prop := f.Climbs (f.beginning p) p.steps

instance (f : Files) (p : Path) : Decidable (f.Leads p) := decidableAlong f _ _

instance (f : Files) (p : Path) : Decidable (f.Firm p) := decidableClimbs f _ _

theorem node?_nil (f : Files) : f.node? [] = some .directory := if_pos List.nil_prefix

theorem node?_beginning (f : Files) (p : Path) : f.node? (f.beginning p) = some .directory := by
  unfold beginning
  split
  · exact f.node?_nil
  · exact if_pos List.prefix_rfl

theorem Along.first {cs : List Component} (h : f.Along l cs) : f.node? l = some .directory := by
  cases cs with
  | nil => exact h
  | cons c r => exact h.1

theorem Along.last {cs : List Component} (h : f.Along l cs) :
    f.node? (cs.foldl lead l) = some .directory := by
  induction cs generalizing l with
  | nil => exact h
  | cons c r ih => exact ih h.2

theorem along_concat {cs : List Component} {c : Component} : f.Along l (cs ++ [c]) ↔
    f.Along l cs ∧ f.node? (lead (cs.foldl lead l) c) = some .directory := by
  induction cs generalizing l with
  | nil => rfl
  | cons d r ih =>
    rw [List.cons_append, Along, ih, Along, and_assoc]
    rfl

/-- A path leads where it led if its directories are still there. -/
theorem Along.mono (hdirectory : ∀ m, f.node? m = some .directory → g.node? m = some .directory)
    {cs : List Component} (h : f.Along l cs) : g.Along l cs := by
  induction cs generalizing l with
  | nil => exact hdirectory l h
  | cons c r ih => exact ⟨hdirectory l h.1, ih h.2⟩

theorem Climbs.mono (hdirectory : ∀ m, f.node? m = some .directory → g.node? m = some .directory)
    {cs : List Component} (h : f.Climbs l cs) : g.Climbs l cs := by
  induction cs generalizing l with
  | nil => trivial
  | cons c r ih => exact ⟨fun hc => hdirectory l (h.1 hc), ih h.2⟩

/-! ## Following segments -/

theorem walk_append (f : Files) (l : Location) (a b : List String) :
    f.walk l (a ++ b) = f.walk l a >>= fun m => f.walk m b := by
  induction a generalizing l with
  | nil => rfl
  | cons s a ih =>
    rw [List.cons_append, walk, walk, bind_assoc]
    refine bind_congr fun _ => ?_
    split <;> exact ih _

/-- A segment is left from a directory only, and leads where the component does that it names. -/
theorem walk_cons_eq_ok_iff {s : String} {r : List String} : f.walk l (s :: r) = .ok m ↔
    f.node? l = some .directory ∧
      f.walk (((Path.componentOf? s).map (lead l)).getD l) r = .ok m := by
  rw [walk, bind_eq_ok_iff, ← needDirectory_eq_ok_iff]
  rcases Path.componentOf?_cases s with h | h | ⟨-, h⟩ <;> rw [h] <;>
    exact ⟨fun h => h.elim fun _ h => h, fun h => ⟨(), h⟩⟩

/-- Segments lead through directories to a directory iff the components that they name do. -/
theorem walk_eq_ok_iff {segments : List String} :
    f.walk l segments = .ok m ∧ f.node? m = some .directory ↔
      f.Along l (segments.filterMap Path.componentOf?) ∧
        m = (segments.filterMap Path.componentOf?).foldl lead l := by
  induction segments generalizing l with
  | nil =>
    rw [walk]
    constructor
    · rintro ⟨h, hm⟩
      obtain rfl := Except.ok.inj h
      exact ⟨hm, rfl⟩
    · rintro ⟨hl, rfl⟩
      exact ⟨rfl, hl⟩
  | cons s r ih =>
    rw [walk_cons_eq_ok_iff, and_assoc, ih]
    cases hs : Path.componentOf? s with
    | none =>
      rw [List.filterMap_cons_none hs]
      exact ⟨fun h => h.2, fun h => ⟨h.1.first, h⟩⟩
    | some c =>
      rw [List.filterMap_cons_some hs, Along, List.foldl_cons, and_assoc]
      rfl

theorem locate_eq (hp : p.text ≠ "") : f.locate p = f.walk (f.beginning p) p.segments :=
  if_neg (by simpa using hp)

/-- A path leads to a directory iff it is not blank and all its directories are there. -/
theorem locate_eq_ok_iff_leads (hp : p.text ≠ "") :
    f.locate p = .ok m ∧ f.node? m = some .directory ↔ f.Leads p ∧ m = f.place p := by
  rw [locate_eq hp]
  exact walk_eq_ok_iff

theorem beginning_child (f : Files) (p : Path) (h : '/' ∉ name.toList) :
    f.beginning (p.child name) = f.beginning p := by
  rw [beginning, Path.isAbsolute_child p h, beginning]

@[simp] theorem place_child (f : Files) (p : Path) (h : IsFileName name) :
    f.place (p.child name) = f.place p ++ [name] := by
  rw [place, Path.steps_child p h, beginning_child f p h.no_slash, List.foldl_concat]
  rfl

theorem place_child_blank (f : Files) (p : Path) : f.place (p.child "") = f.place p := by
  rw [place, Path.steps_child_blank, beginning_child f p (by decide), place]

theorem leads_child (h : IsFileName name) : f.Leads (p.child name) ↔
    f.Leads p ∧ f.node? (f.place p ++ [name]) = some .directory := by
  rw [Leads, Path.steps_child p h, beginning_child f p h.no_slash, along_concat]
  rfl

theorem leads_child_blank : f.Leads (p.child "") ↔ f.Leads p := by
  rw [Leads, Path.steps_child_blank, beginning_child f p (by decide), Leads]

/-- **A name below a directory is found iff the path leads to the directory.** -/
theorem locate_child (h : IsFileName name) :
    f.locate (p.child name) = .ok m ↔ f.Leads p ∧ m = f.place p ++ [name] := by
  rw [locate_eq (Path.text_child_of_isFileName p h).1, Path.segments_child p h.no_slash,
    beginning_child f p h.no_slash, walk_append, bind_eq_ok_iff, Leads, place, Path.steps_eq_front]
  have hlast (k : Location) : f.walk k [name] = .ok m ↔
      f.node? k = some .directory ∧ k ++ [name] = m := by
    rw [walk_cons_eq_ok_iff, Path.componentOf?_of_isFileName h, walk, Except.ok.injEq]
    rfl
  constructor
  · rintro ⟨k, hk, hm⟩
    obtain ⟨hdirectory, rfl⟩ := (hlast k).1 hm
    obtain ⟨hleads, rfl⟩ := walk_eq_ok_iff.1 ⟨hk, hdirectory⟩
    exact ⟨hleads, rfl⟩
  · rintro ⟨hleads, rfl⟩
    obtain ⟨hk, hdirectory⟩ := walk_eq_ok_iff.2 ⟨hleads, rfl⟩
    exact ⟨_, hk, (hlast _).2 ⟨hdirectory, rfl⟩⟩

/-- What is at a name below a directory to which the path leads. -/
theorem status_child (h : IsFileName name) (hp : f.Leads p) : f.status (p.child name) =
    match f.node? (f.place p ++ [name]) with
    | some n => .ok n
    | none => .error .notFound := by
  rw [status, locate_child h |>.2 ⟨hp, rfl⟩]
  rfl

theorem leads_of_status_child {n : Node} (h : IsFileName name)
    (hn : f.status (p.child name) = .ok n) :
    f.Leads p ∧ f.node? (f.place p ++ [name]) = some n := by
  obtain ⟨l, hl, hnode⟩ := status_eq_ok_iff.1 hn
  obtain ⟨hleads, rfl⟩ := (locate_child h).1 hl
  exact ⟨hleads, hnode⟩

/-- What is at a name below a directory, if there is anything. -/
theorem toOption_status_child (h : IsFileName name) : (f.status (p.child name)).toOption =
    if f.Leads p then f.node? (f.place p ++ [name]) else none := by
  split
  · rename_i hleads
    rw [status_child h hleads]
    cases f.node? (f.place p ++ [name]) <;> rfl
  · rename_i hleads
    cases hstatus : f.status (p.child name) with
    | ok n => exact absurd (leads_of_status_child h hstatus).1 hleads
    | error e => rfl

/-! ## Directories -/

/-- A path is one to a directory iff it is not blank and all its directories are there. -/
theorem isDirectory_iff : f.isDirectory p = true ↔ p.text ≠ "" ∧ f.Leads p := by
  have hstatus : f.isDirectory p = true ↔ f.status p = .ok .directory := by
    unfold isDirectory
    split <;> simp_all
  rw [hstatus, status_eq_ok_iff]
  by_cases hp : p.text = ""
  · simp [locate, hp]
  · simp only [locate_eq_ok_iff_leads hp]
    exact ⟨fun ⟨_, hleads, _⟩ => ⟨hp, hleads⟩, fun h => ⟨_, h.2, rfl⟩⟩

theorem listDirectory_of_leads (hp : p.text ≠ "") (hleads : f.Leads p) :
    f.listDirectory p = .ok (f.children (f.place p)) := by
  obtain ⟨hlocate, hdirectory⟩ := (locate_eq_ok_iff_leads hp).2 ⟨hleads, rfl⟩
  rw [listDirectory, bind_eq_ok_iff]
  exact ⟨_, hlocate, by rw [hdirectory]⟩

theorem childName?_eq_some_iff : childName? l m = some name ↔ m = l ++ [name] := by
  unfold childName?
  cases hm : m.reverse with
  | nil => simp [List.reverse_eq_nil_iff.1 hm]
  | cons last r =>
    have hsplit : m = r.reverse ++ [last] := by
      rw [← List.reverse_reverse m, hm, List.reverse_cons]
    rw [hsplit]
    change (if r.reverse = l then some last else none) = some name ↔ _
    constructor
    · intro h
      split at h
      · rename_i hr
        rw [hr, Option.some.inj h]
      · cases h
    · intro h
      obtain ⟨hr, hlast⟩ := List.append_inj' h rfl
      exact (if_pos hr).trans (congrArg some (List.singleton_inj.1 hlast))

theorem mem_children_iff {n : Node} : (name, n) ∈ f.children l ↔ (l ++ [name], n) ∈ f.nodes := by
  rw [children, List.mem_filterMap]
  constructor
  · rintro ⟨⟨m, x⟩, hm, hentry⟩
    obtain ⟨k, hk, heq⟩ := Option.map_eq_some_iff.1 hentry
    obtain ⟨rfl, rfl⟩ := Prod.mk.inj heq
    exact childName?_eq_some_iff.1 hk ▸ hm
  · intro h
    exact ⟨_, h, by rw [childName?_eq_some_iff.2 rfl]; rfl⟩

/-- Where names are distinct, an entry is what is there, unless it has to be a directory. -/
theorem node?_of_mem_children {n : Node} (hdistinct : ((f.children l).map Prod.fst).Nodup)
    (hn : (name, n) ∈ f.children l) (hnot : f.node? (l ++ [name]) ≠ some .directory) :
    f.node? (l ++ [name]) = some n := by
  unfold node? at hnot ⊢
  split at hnot
  · exact absurd rfl hnot
  · rename_i hstart
    have hthere : (f.nodes.lookup (l ++ [name])).isSome :=
      List.lookup_isSome_iff.2 ⟨_, mem_children_iff.1 hn, beq_self_eq_true _⟩
    obtain ⟨x, hx⟩ := Option.isSome_iff_exists.1 hthere
    obtain ⟨before, after, hnodes, -⟩ := List.lookup_eq_some_iff.1 hx
    have hmem : (name, x) ∈ f.children l := mem_children_iff.2 (by simp [hnodes])
    rw [if_neg hstart, hx, (Prod.mk.inj (List.inj_on_of_nodup_map hdistinct hmem hn rfl)).2]

/-! ## Trees -/

/-- What is somewhere below the root is in a directory, and has a name there. -/
structure IsTree (f : Files) : Prop where
  parent : ∀ l n x, f.node? (l ++ [n]) = some x → f.node? l = some .directory
  named : ∀ l, ∀ e ∈ f.children l, IsFileName e.1

/-- Files are a tree iff each of them is in a directory and has a name there. -/
theorem isTree_iff : f.IsTree ↔ ∀ e ∈ f.nodes,
    f.node? e.1.dropLast = some .directory ∧ ∀ n ∈ e.1.getLast?, IsFileName n := by
  constructor
  · rintro hf ⟨l, x⟩ he
    rcases List.eq_nil_or_concat' l with rfl | ⟨m, n, rfl⟩
    · exact ⟨f.node?_nil, by simp⟩
    · have hthere : (f.node? (m ++ [n])).isSome := by
        unfold node?
        split
        · rfl
        · exact List.lookup_isSome_iff.2 ⟨_, he, beq_self_eq_true _⟩
      obtain ⟨y, hy⟩ := Option.isSome_iff_exists.1 hthere
      rw [List.dropLast_concat, List.getLast?_concat]
      refine ⟨hf.parent m n y hy, ?_⟩
      rintro k ⟨⟩
      exact hf.named m (n, x) (List.mem_filterMap.2
        ⟨_, he, by rw [childName?_eq_some_iff.2 rfl]; rfl⟩)
  · intro h
    refine ⟨fun l n x hx => ?_, fun l e he => ?_⟩
    · unfold node? at hx
      split at hx
      · rename_i hstart
        exact if_pos ((List.prefix_append l [n]).trans hstart)
      · obtain ⟨before, after, hnodes, -⟩ := List.lookup_eq_some_iff.1 hx
        have hparent := (h (l ++ [n], x) (by simp [hnodes])).1
        rwa [List.dropLast_concat] at hparent
    · obtain ⟨⟨m, x⟩, hmem, hm⟩ := List.mem_filterMap.1 he
      obtain ⟨n, hn, rfl⟩ := Option.map_eq_some_iff.1 hm
      refine (h _ hmem).2 n ?_
      rw [childName?_eq_some_iff.1 hn, List.getLast?_concat]
      rfl

instance (f : Files) : Decidable f.IsTree := decidable_of_iff _ isTree_iff.symm

/-- All that is above something is a directory. -/
theorem IsTree.directory_of_prefix (hf : f.IsTree) {x : Node} (hm : f.node? m = some x)
    (hl : l <+: m) (hne : l ≠ m) : f.node? l = some .directory := by
  obtain ⟨r, rfl⟩ := hl
  induction r using List.reverseRecOn generalizing x with
  | nil => exact absurd (List.append_nil l).symm hne
  | append_singleton r n ih =>
    rw [← List.append_assoc] at hm
    have hparent := hf.parent _ _ _ hm
    cases r with
    | nil => rwa [List.append_nil] at hparent
    | cons a r => exact ih hparent (by simp)

theorem IsTree.prefix_directory (hf : f.IsTree) (hm : f.node? m = some .directory)
    (hl : l <+: m) : f.node? l = some .directory := by
  by_cases hne : l = m
  · exact hne ▸ hm
  · exact hf.directory_of_prefix hm hl hne

/-- From what is no directory, components that go up only from directories lead downwards. -/
theorem IsTree.prefix_foldl_lead (hf : f.IsTree) {cs : List Component}
    (hsteps : ∀ c ∈ cs, c ≠ .root) (hl : f.node? l ≠ some .directory) (hm : l <+: m)
    (hclimbs : f.Climbs m cs) : l <+: cs.foldl lead m := by
  induction cs generalizing m with
  | nil => exact hm
  | cons c r ih =>
    obtain ⟨hup, hrest⟩ := hclimbs
    obtain ⟨hc, hr⟩ := List.forall_mem_cons.1 hsteps
    refine ih hr ?_ hrest
    cases c with
    | root => exact absurd rfl hc
    | here => exact hm
    | up => exact absurd (hf.prefix_directory (hup rfl) hm) hl
    | name n => exact hm.trans (List.prefix_append m [n])

/-- In a tree, all directories of components that go up only from directories are there if the last
is. -/
theorem IsTree.along_of_climbs (hf : f.IsTree) {cs : List Component}
    (hsteps : ∀ c ∈ cs, c ≠ .root) (hclimbs : f.Climbs l cs)
    (hlast : f.node? (cs.foldl lead l) = some .directory) : f.Along l cs := by
  induction cs generalizing l with
  | nil => exact hlast
  | cons c r ih =>
    obtain ⟨hc, hr⟩ := List.forall_mem_cons.1 hsteps
    refine ⟨?_, ih hr hclimbs.2 hlast⟩
    by_contra hl
    exact hl (hf.prefix_directory hlast (hf.prefix_foldl_lead hsteps hl List.prefix_rfl hclimbs))

theorem steps_ne_root (p : Path) : ∀ c ∈ p.steps, c ≠ .root := by
  intro c hc
  rcases Path.eq_of_mem_steps hc with rfl | ⟨n, -, rfl⟩ <;> simp

/-- **In a tree, what is at a firm path is what is at its place.** -/
theorem IsTree.toOption_status_child (hf : f.IsTree) (hp : f.Firm p) (h : IsFileName name) :
    (f.status (p.child name)).toOption = f.node? (f.place p ++ [name]) := by
  rw [Files.toOption_status_child h]
  split
  · rfl
  · rename_i hleads
    symm
    rw [Option.eq_none_iff_forall_ne_some]
    intro x hx
    exact hleads (hf.along_of_climbs (steps_ne_root p) hp (hf.parent _ _ _ hx))

end Files

end PolicyFields
