import Mathlib.Data.List.Basic
import PolicyFields.Files.Path

/-!
# Laws of paths

* `Text.splitAt_append`, `Text.intercalate_splitAt` — splitting at a separator and joining again.
* `Path.splitName_eq_some_iff` — **a name has a stem and an extension iff it is written
  `stem.extension`** with a stem that is not empty and no point in the extension.
* `Path.segments_child` — a name below a directory is one more segment of its path.
* `Path.steps`, `Path.steps_child` — a path is followed step by step, and to a name below a
  directory there is one step more.
* `Path.components_child`, `Path.fileName?_child`, `Path.parentComponents?_child` — **the path of a
  name below a directory ends in that name, and its parent is the directory**.
-/

namespace PolicyFields

/-! ## Splitting texts -/

namespace Text

variable {sep : Char}

theorem splitAt_ne_nil (sep : Char) (cs : List Char) : splitAt sep cs ≠ [] := by
  cases cs with
  | nil => simp [splitAt]
  | cons c r =>
    unfold splitAt
    split
    · simp
    · split <;> simp

theorem splitAt_cons_self (r : List Char) : splitAt sep (sep :: r) = [] :: splitAt sep r := by
  obtain ⟨first, others, h⟩ := List.exists_cons_of_ne_nil (splitAt_ne_nil sep r)
  simp [splitAt, h]

theorem splitAt_cons_of_ne {c : Char} (hc : c ≠ sep) {r first : List Char}
    {others : List (List Char)} (h : splitAt sep r = first :: others) :
    splitAt sep (c :: r) = (c :: first) :: others := by
  simp [splitAt, h, hc]

theorem splitAt_append (a b : List Char) :
    splitAt sep (a ++ sep :: b) = splitAt sep a ++ splitAt sep b := by
  induction a with
  | nil => rw [List.nil_append, splitAt_cons_self]; rfl
  | cons c a ih =>
    rw [List.cons_append]
    by_cases hc : c = sep
    · subst hc
      rw [splitAt_cons_self, splitAt_cons_self, ih, List.cons_append]
    · obtain ⟨first, others, h⟩ := List.exists_cons_of_ne_nil (splitAt_ne_nil sep a)
      rw [splitAt_cons_of_ne hc h]
      rw [h, List.cons_append] at ih
      rw [splitAt_cons_of_ne hc ih, List.cons_append]

theorem splitAt_of_not_mem {cs : List Char} (h : sep ∉ cs) : splitAt sep cs = [cs] := by
  induction cs with
  | nil => rfl
  | cons c r ih =>
    rw [List.mem_cons, not_or] at h
    exact splitAt_cons_of_ne (Ne.symm h.1) (ih h.2)

theorem not_mem_of_mem_splitAt {cs part : List Char} (h : part ∈ splitAt sep cs) : sep ∉ part := by
  induction cs generalizing part with
  | nil =>
    obtain rfl := List.mem_singleton.1 h
    simp
  | cons c r ih =>
    by_cases hc : c = sep
    · subst hc
      rw [splitAt_cons_self] at h
      rcases List.mem_cons.1 h with rfl | h
      · simp
      · exact ih h
    · obtain ⟨first, others, hr⟩ := List.exists_cons_of_ne_nil (splitAt_ne_nil sep r)
      rw [splitAt_cons_of_ne hc hr] at h
      rcases List.mem_cons.1 h with rfl | h
      · have hfirst : sep ∉ first := ih (hr ▸ List.mem_cons_self)
        rw [List.mem_cons, not_or]
        exact ⟨Ne.symm hc, hfirst⟩
      · exact ih (hr ▸ List.mem_cons_of_mem _ h)

/-- The parts of a text are made of its characters. -/
theorem subset_of_mem_splitAt {cs part : List Char} (h : part ∈ splitAt sep cs) : part ⊆ cs := by
  induction cs generalizing part with
  | nil =>
    obtain rfl := List.mem_singleton.1 h
    exact List.Subset.refl _
  | cons c r ih =>
    by_cases hc : c = sep
    · subst hc
      rw [splitAt_cons_self] at h
      rcases List.mem_cons.1 h with rfl | h
      · exact List.nil_subset _
      · exact List.subset_cons_of_subset c (ih h)
    · obtain ⟨first, others, hr⟩ := List.exists_cons_of_ne_nil (splitAt_ne_nil sep r)
      rw [splitAt_cons_of_ne hc hr] at h
      rcases List.mem_cons.1 h with rfl | h
      · exact List.cons_subset_cons c (ih (hr ▸ List.mem_cons_self))
      · exact List.subset_cons_of_subset c (ih (hr ▸ List.mem_cons_of_mem _ h))

theorem intercalate_concat {parts : List (List Char)} (h : parts ≠ []) (last : List Char) :
    [sep].intercalate (parts ++ [last]) = [sep].intercalate parts ++ sep :: last := by
  induction parts with
  | nil => exact absurd rfl h
  | cons p ps ih =>
    cases ps with
    | nil => simp
    | cons q qs =>
      rw [List.cons_append, List.cons_append, List.intercalate_cons_cons,
        List.intercalate_cons_cons, ← List.cons_append, ih (by simp), List.append_assoc,
        List.append_assoc, List.append_assoc]

theorem intercalate_splitAt (cs : List Char) : [sep].intercalate (splitAt sep cs) = cs := by
  induction cs with
  | nil => rfl
  | cons c r ih =>
    obtain ⟨first, others, hr⟩ := List.exists_cons_of_ne_nil (splitAt_ne_nil sep r)
    by_cases hc : c = sep
    · subst hc
      rw [splitAt_cons_self, hr, List.intercalate_cons_cons, ← hr, ih]
      rfl
    · rw [splitAt_cons_of_ne hc hr]
      rw [hr] at ih
      cases others with
      | nil => rw [List.intercalate_singleton] at ih ⊢; rw [ih]
      | cons second others =>
        rw [List.intercalate_cons_cons] at ih ⊢
        rw [List.cons_append, List.cons_append, ih]

end Text

namespace Path

/-! ## Stem and extension -/

/-- **The stem and the extension of a name.** -/
theorem splitName_eq_some_iff {s stem ext : String} :
    splitName s = (stem, some ext) ↔
      s = stem ++ "." ++ ext ∧ stem ≠ "" ∧ '.' ∉ ext.toList := by
  have htext : s = stem ++ "." ++ ext ↔ s.toList = stem.toList ++ '.' :: ext.toList := by
    rw [← String.toList_inj]
    simp
  rw [htext]
  constructor
  · intro h
    unfold splitName at h
    split at h
    · rename_i behind first others hsplit
      have hparts := List.reverse_eq_iff.1 hsplit
      rw [List.reverse_cons, List.reverse_cons] at hparts
      simp only at h
      split at h
      · cases h
      · rename_i hne
        obtain ⟨rfl, hsome⟩ := Prod.mk.inj h
        obtain rfl := Option.some.inj hsome
        refine ⟨?_, ?_, ?_⟩
        · rw [String.toList_ofList, String.toList_ofList, ← Text.intercalate_concat (by simp),
            ← hparts, Text.intercalate_splitAt]
        · rw [← String.toList_inj.ne, String.toList_ofList]
          simpa using hne
        · rw [String.toList_ofList]
          have hlast : behind ∈ Text.splitAt '.' s.toList := by
            rw [hparts]
            simp
          exact Text.not_mem_of_mem_splitAt hlast
    · cases h
  · rintro ⟨hs, hstem, hext⟩
    have hsplit : Text.splitAt '.' s.toList = Text.splitAt '.' stem.toList ++ [ext.toList] := by
      rw [hs, Text.splitAt_append, Text.splitAt_of_not_mem hext]
    obtain ⟨first, others, hfirst⟩ := List.exists_cons_of_ne_nil
      (List.reverse_ne_nil_iff.2 (Text.splitAt_ne_nil '.' stem.toList))
    have hparts : others.reverse ++ [first] = Text.splitAt '.' stem.toList := by
      rw [← List.reverse_cons, ← hfirst, List.reverse_reverse]
    have hempty : stem.toList.isEmpty = false := by
      rw [List.isEmpty_eq_false_iff]
      exact fun h => hstem (String.toList_inj.1 h)
    unfold splitName
    rw [hsplit, List.reverse_concat, hfirst]
    simp only [hparts, Text.intercalate_splitAt, hempty, Bool.false_eq_true, if_false,
      String.ofList_toList]

/-! ## Names below a directory -/

/-- A text that names one place in a directory. -/
structure IsFileName (name : String) : Prop where
  no_slash : '/' ∉ name.toList
  ne_empty : name ≠ ""
  ne_here : name ≠ "."
  ne_up : name ≠ ".."

instance (name : String) : Decidable (IsFileName name) :=
  decidable_of_iff ('/' ∉ name.toList ∧ name ≠ "" ∧ name ≠ "." ∧ name ≠ "..")
    ⟨fun ⟨h₁, h₂, h₃, h₄⟩ => ⟨h₁, h₂, h₃, h₄⟩, fun ⟨h₁, h₂, h₃, h₄⟩ => ⟨h₁, h₂, h₃, h₄⟩⟩

variable {p : Path} {name : String}

theorem componentOf?_of_isFileName (h : IsFileName name) :
    componentOf? name = some (.name name) := by
  simp [componentOf?, h.ne_empty, h.ne_here, h.ne_up]

/-- A segment names nothing, the directory above, or itself. -/
theorem componentOf?_cases (s : String) : componentOf? s = none ∨ componentOf? s = some .up ∨
    (s ≠ "" ∧ s ≠ "." ∧ s ≠ "..") ∧ componentOf? s = some (.name s) := by
  by_cases hempty : s = ""
  · exact .inl (by simp [componentOf?, hempty])
  · by_cases hhere : s = "."
    · exact .inl (by simp [componentOf?, hhere])
    · by_cases hup : s = ".."
      · exact .inr (.inl (by simp [componentOf?, hup]))
      · exact .inr (.inr ⟨⟨hempty, hhere, hup⟩, by simp [componentOf?, hempty, hhere, hup]⟩)

theorem child_eq (dir : Path) (h : '/' ∉ name.toList) : dir.child name =
    if dir.text.isEmpty || dir.endsInSlash then ⟨dir.text ++ name⟩
    else ⟨dir.text ++ "/" ++ name⟩ := by
  have hrelative : (Path.mk name).isAbsolute = false := by
    unfold isAbsolute
    rw [beq_eq_false_iff_ne]
    exact fun hhead => h (List.mem_of_mem_head? hhead)
  unfold child join
  rw [hrelative]
  rfl

/-- The segments of a path without a blank one at the end. -/
def front (p : Path) : List String :=
  if p.segments.getLast? = some "" then p.segments.dropLast else p.segments

theorem front_of_concat {init : List String} (h : p.segments = init ++ [""]) : p.front = init := by
  rw [front, h, if_pos List.getLast?_concat, List.dropLast_concat]

theorem segments_ne_nil (p : Path) : p.segments ≠ [] :=
  mt List.map_eq_nil_iff.1 (Text.splitAt_ne_nil '/' _)

/-- A path is written as its segments with slashes between them. -/
theorem toList_text (p : Path) :
    p.text.toList = ['/'].intercalate (p.segments.map String.toList) := by
  have hparts : p.segments.map String.toList = Text.splitAt '/' p.text.toList := by
    simp [segments, Function.comp_def]
  rw [hparts, Text.intercalate_splitAt]

theorem no_slash_of_mem_segments {p : Path} {s : String} (h : s ∈ p.segments) : '/' ∉ s.toList := by
  obtain ⟨part, hpart, rfl⟩ := List.mem_map.1 h
  rw [String.toList_ofList]
  exact Text.not_mem_of_mem_splitAt hpart

theorem subset_of_mem_segments {p : Path} {s : String} (h : s ∈ p.segments) :
    s.toList ⊆ p.text.toList := by
  obtain ⟨part, hpart, rfl⟩ := List.mem_map.1 h
  rw [String.toList_ofList]
  exact Text.subset_of_mem_splitAt hpart

/-- Segments end blank only in a blank text and behind a slash. -/
theorem front_of_not_endsInSlash (hne : p.text ≠ "") (hslash : p.endsInSlash = false) :
    p.front = p.segments := by
  refine if_neg fun hlast => ?_
  obtain ⟨init, hinit⟩ := List.getLast?_eq_some_iff.1 hlast
  have htext := p.toList_text
  rw [hinit, List.map_append] at htext
  cases init with
  | nil => exact hne (String.toList_eq_nil_iff.1 htext)
  | cons first init =>
    rw [List.map_singleton, String.toList_empty, Text.intercalate_concat (by simp)] at htext
    rw [endsInSlash, htext, List.getLast?_concat] at hslash
    exact Bool.noConfusion hslash

theorem front_cases (p : Path) : p.segments = p.front ∨ p.segments = p.front ++ [""] := by
  unfold front
  split
  · rename_i hlast
    obtain ⟨init, hinit⟩ := List.getLast?_eq_some_iff.1 hlast
    exact .inr (by rw [hinit, List.dropLast_concat])
  · exact .inl rfl

/-- A path without segments in front is blank. -/
theorem text_eq_empty_of_front (h : p.front = []) : p.text = "" := by
  rcases p.front_cases with hcase | hcase
  · exact absurd (hcase.trans h) p.segments_ne_nil
  · have htext := p.toList_text
    rw [hcase, h] at htext
    exact String.toList_eq_nil_iff.1 htext

theorem head?_front (hne : p.text ≠ "") : p.front.head? = p.segments.head? := by
  obtain ⟨first, rest, hfront⟩ := List.exists_cons_of_ne_nil (mt text_eq_empty_of_front hne)
  rcases p.front_cases with hcase | hcase <;> simp [hcase, hfront]

/-- A path begins at the root iff its first segment is blank. -/
theorem isAbsolute_iff (hne : p.text ≠ "") : p.isAbsolute = true ↔ p.segments.head? = some "" := by
  constructor
  · intro h
    obtain ⟨r, hr⟩ : ∃ r, p.text.toList = '/' :: r := List.head?_eq_some_iff.1 (eq_of_beq h)
    rw [segments, hr, Text.splitAt_cons_self]
    rfl
  · intro h
    obtain ⟨rest, hrest⟩ := List.head?_eq_some_iff.1 h
    have htext := p.toList_text
    rw [hrest, List.map_cons] at htext
    cases rest with
    | nil => exact absurd (String.toList_eq_nil_iff.1 htext) hne
    | cons second rest =>
      rw [List.map_cons, List.intercalate_cons_cons] at htext
      rw [isAbsolute, htext]
      rfl

/-- **A name below a directory is one more segment** of its path, in the place of a blank one at the
end. -/
theorem segments_child (dir : Path) (h : '/' ∉ name.toList) :
    (dir.child name).segments = dir.front ++ [name] := by
  rw [child_eq dir h]
  split
  · rename_i hdir
    rcases Bool.or_eq_true _ _ ▸ hdir with hempty | hslash
    · have htext : dir.text = "" := by simpa using hempty
      have hdir : dir.segments = [] ++ [""] := by
        rw [segments, htext]
        rfl
      rw [front_of_concat hdir, segments, htext]
      simp [Text.splitAt_of_not_mem h]
    · -- The slash at the end of the directory is the one before the name.
      have hlast : dir.text.toList.getLast? = some '/' := by simpa [endsInSlash] using hslash
      obtain ⟨a, ha⟩ := List.getLast?_eq_some_iff.1 hlast
      have hdir : dir.segments = (Text.splitAt '/' a).map String.ofList ++ [""] := by
        rw [segments, ha, Text.splitAt_append, List.map_append]
        rfl
      rw [front_of_concat hdir, segments, String.toList_append, ha, List.append_assoc,
        List.singleton_append, Text.splitAt_append, Text.splitAt_of_not_mem h, List.map_append]
      simp
  · rename_i hdir
    have hproper : dir.text ≠ "" ∧ dir.endsInSlash = false := by simpa using hdir
    have htext : (dir.text ++ "/" ++ name).toList = dir.text.toList ++ '/' :: name.toList := by simp
    rw [front_of_not_endsInSlash hproper.1 hproper.2, segments, htext, Text.splitAt_append,
      Text.splitAt_of_not_mem h, List.map_append, segments]
    simp

theorem isAbsolute_child (dir : Path) (h : '/' ∉ name.toList) :
    (dir.child name).isAbsolute = dir.isAbsolute := by
  have hhead : name.toList.head? ≠ some '/' := fun hhead => h (List.mem_of_mem_head? hhead)
  rw [child_eq dir h]
  by_cases htext : dir.text = ""
  · simp [isAbsolute, htext, hhead]
  · obtain ⟨c, r, hr⟩ := List.exists_cons_of_ne_nil (String.toList_inj.ne.2 htext)
    split <;> simp [isAbsolute, hr]

theorem text_child (dir : Path) (h : '/' ∉ name.toList) :
    ∃ before, (dir.child name).text = before ++ name := by
  rw [child_eq dir h]
  split
  · exact ⟨_, rfl⟩
  · exact ⟨_, rfl⟩

/-- What the segments of a path name, one after the other. -/
def steps (p : Path) : List Component := p.segments.filterMap componentOf?

theorem steps_eq_front (p : Path) : p.steps = p.front.filterMap componentOf? := by
  rw [steps]
  rcases p.front_cases with h | h
  · rw [h]
  · rw [h, List.filterMap_append]
    exact List.append_nil _

/-- To a segment below a directory there is the step that it names, if it names one. -/
theorem steps_child_segment (dir : Path) (h : '/' ∉ name.toList) :
    (dir.child name).steps = dir.steps ++ (componentOf? name).toList := by
  rw [steps, segments_child dir h, List.filterMap_append, ← steps_eq_front]
  cases hname : componentOf? name <;> simp [hname]

theorem steps_child_blank (dir : Path) : (dir.child "").steps = dir.steps := by
  have hslash : '/' ∉ "".toList := by decide
  rw [steps_child_segment dir hslash]
  exact List.append_nil _

theorem steps_child (dir : Path) (h : IsFileName name) :
    (dir.child name).steps = dir.steps ++ [.name name] := by
  rw [steps_child_segment dir h.no_slash, componentOf?_of_isFileName h]
  rfl

/-- A step goes up or to a name. -/
theorem eq_of_mem_steps {p : Path} {c : Component} (hc : c ∈ p.steps) :
    c = .up ∨ ∃ n, IsFileName n ∧ c = .name n := by
  obtain ⟨s, hs, hcs⟩ := List.mem_filterMap.1 hc
  rcases componentOf?_cases s with hnone | hup | ⟨⟨hempty, hhere, hup⟩, hname⟩
  · rw [hnone] at hcs
    cases hcs
  · exact .inl (Option.some.inj (hcs.symm.trans hup))
  · exact .inr ⟨s, ⟨no_slash_of_mem_segments hs, hempty, hhere, hup⟩,
      Option.some.inj (hcs.symm.trans hname)⟩

/-- Whether a path begins with a point. -/
def startsHere (p : Path) : Bool := p.segments.head? == some "."

/-- What is below a directory begins as the directory does. -/
theorem startsHere_child (dir : Path) (h : '/' ∉ name.toList) (hdir : dir.text = "" → name ≠ ".") :
    (dir.child name).startsHere = dir.startsHere := by
  unfold startsHere
  rw [segments_child dir h]
  cases hfront : dir.front with
  | nil =>
    have htext := text_eq_empty_of_front hfront
    have hsegments : dir.segments = [""] := by
      rw [segments, htext]
      rfl
    rw [hsegments]
    simpa using hdir htext
  | cons first rest => rcases dir.front_cases with hcase | hcase <;> simp [hcase, hfront]

theorem components_eq (p : Path) : p.components =
    (if p.isAbsolute then [.root] else if p.startsHere then [.here] else []) ++ p.steps := by
  unfold components startsHere steps
  split
  · rfl
  · split <;> rfl

theorem components_child (dir : Path) (h : IsFileName name) :
    (dir.child name).components = dir.components ++ [.name name] := by
  rw [components_eq, components_eq, isAbsolute_child dir h.no_slash, steps_child dir h,
    startsHere_child dir h.no_slash fun _ => h.ne_here, List.append_assoc]

/-- The components of a path without a point in front. -/
def bare (p : Path) : List Component := (if p.isAbsolute then [.root] else []) ++ p.steps

theorem components_of_not_startsHere (h : p.startsHere = false) : p.components = p.bare := by
  rw [components_eq, h, bare, if_neg Bool.false_ne_true]

/-- A point in front is nowhere else. -/
theorem here_notMem_bare (p : Path) : Component.here ∉ p.bare := by
  intro hmem
  rcases List.mem_append.1 hmem with hroot | hsteps
  · split at hroot <;> simp at hroot
  · rcases eq_of_mem_steps hsteps with hup | ⟨n, -, hname⟩
    · cases hup
    · cases hname

theorem here_mem_components (h : p.startsHere = true) : Component.here ∈ p.components := by
  have hne : p.text ≠ "" := by
    rintro htext
    rw [startsHere, segments, htext] at h
    exact absurd h (by decide)
  have hnot : ¬ p.isAbsolute = true := by
    rw [isAbsolute_iff hne, eq_of_beq h]
    decide
  rw [components_eq, if_neg hnot, if_pos h]
  exact List.mem_cons_self

/-- Paths without points in front are the same as others iff they are so but for such points and no
other path has one. -/
theorem map_components_eq_iff {ps qs : List Path} {here : Bool}
    (hps : ∀ p ∈ ps, p.startsHere = false) (hqs : ∀ q ∈ qs, q.startsHere = here) :
    ps.map components = qs.map components ↔
      ps.map bare = qs.map bare ∧ (here = true → qs = []) := by
  have hbare : ps.map components = ps.map bare :=
    List.map_congr_left fun p hp => components_of_not_startsHere (hps p hp)
  rw [hbare]
  cases here with
  | false =>
    rw [List.map_congr_left fun q hq => components_of_not_startsHere (hqs q hq)]
    simp
  | true =>
    constructor
    · intro h
      obtain rfl : qs = [] := by
        refine List.eq_nil_iff_forall_not_mem.2 fun q hq => ?_
        have hmem : q.components ∈ ps.map bare := h ▸ List.mem_map_of_mem hq
        obtain ⟨p, -, hp⟩ := List.mem_map.1 hmem
        exact p.here_notMem_bare (hp ▸ here_mem_components (hqs q hq))
      exact ⟨h, fun _ => rfl⟩
    · rintro ⟨h, hnil⟩
      rw [h, hnil rfl]
      rfl

theorem bare_child (dir : Path) (h : IsFileName name) :
    (dir.child name).bare = dir.bare ++ [.name name] := by
  rw [bare, bare, isAbsolute_child dir h.no_slash, steps_child dir h, List.append_assoc]

theorem componentsBefore_append (common as bs : List Component) :
    componentsBefore (common ++ as) (common ++ bs) = componentsBefore as bs := by
  induction common with
  | nil => rfl
  | cons c common ih =>
    have hself : c.before c = false := by
      cases c with
      | name s => exact decide_eq_false (String.lt_irrefl s)
      | root => rfl
      | here => rfl
      | up => rfl
    rw [List.cons_append, List.cons_append, componentsBefore, ih, hself, beq_self_eq_true]
    rfl

/-- Names in one directory are in the order of texts. -/
theorem before_eq {q : Path} {common : List Component} {a b : String}
    (hp : p.components = common ++ [.name a]) (hq : q.components = common ++ [.name b]) :
    p.before q = decide (a < b) := by
  rw [before, hp, hq, componentsBefore_append]
  simp [componentsBefore, Component.before]

/-- The path of a name below a directory ends in that name. -/
theorem fileName?_child (dir : Path) (h : IsFileName name) :
    (dir.child name).fileName? = some name := by
  rw [fileName?, components_child dir h, List.getLast?_concat]

theorem parentComponents?_child (dir : Path) (h : IsFileName name) :
    (dir.child name).parentComponents? = some dir.components := by
  unfold parentComponents?
  rw [components_child dir h, List.reverse_append]
  exact congrArg some (List.reverse_reverse _)

/-- The path of a name below a directory is not blank and does not end in a slash. -/
theorem text_child_of_isFileName (dir : Path) (h : IsFileName name) :
    (dir.child name).text ≠ "" ∧ (dir.child name).endsInSlash = false := by
  obtain ⟨before, htext⟩ := text_child dir h.no_slash
  have hname : name.toList ≠ [] := fun hnil => h.ne_empty (String.toList_inj.1 hnil)
  have hlist : (dir.child name).text.toList = before.toList ++ name.toList := by simp [htext]
  constructor
  · intro hempty
    rw [hempty] at hlist
    exact hname (List.append_eq_nil_iff.1 hlist.symm).2
  · rw [endsInSlash, hlist, List.getLast?_append_of_ne_nil _ hname, beq_eq_false_iff_ne]
    exact fun hlast => h.no_slash (List.mem_of_mem_getLast? hlast)

end Path

end PolicyFields
