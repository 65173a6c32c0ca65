import PolicyFields.Files.Glob
import PolicyFields.Proofs.Files.Place

/-!
# What a pattern of files stands for

A pattern is followed one name at a time, and what it finds is written with the names that were
followed. A path in front of it that holds no characters of patterns leads where it leads as a path.

* `Glob.IsPlain` — a text that stands for itself, and `Glob.literal` its pattern.
* `Path.route`, `Path.names_below` — the patterns of the documents below a directory.
* `Files.OnWay` — what is known on the way to a directory: a step lemma `OnWay.below`, and for a
  whole route `OnWay.expandIn`.
* `Files.expand_documents` — **below a directory of files, those whose names end in `.pdf` are
  found**, in order.
-/

namespace PolicyFields

namespace Glob

variable {cs ds : List Char} {c : Char} {ws : List Wildcard} {s : String}

/-- Nothing in a text stands for other characters in a pattern. -/
def IsPlain (cs : List Char) : Prop := ∀ c ∈ cs, c ≠ '*' ∧ c ≠ '?' ∧ c ≠ '['

instance (cs : List Char) : Decidable (IsPlain cs) := List.decidableBAll _ _

/-- The pattern of a text that stands for itself. -/
def literal (cs : List Char) : List Wildcard := cs.map .char

theorem readFrom_append (hcs : IsPlain cs)
    (hds : ∀ position before, readFrom 0 position before ds = .ok ws) (position : Nat)
    (before : Option Char) : readFrom 0 position before (cs ++ ds) = .ok (literal cs ++ ws) := by
  induction cs generalizing position before with
  | nil => exact hds position before
  | cons c r ih =>
    obtain ⟨⟨hstar, hany, hbracket⟩, hr⟩ := List.forall_mem_cons.1 hcs
    rw [List.cons_append, readFrom, ih hr]
    · rfl
    all_goals assumption

/-- A plain text stands for itself. -/
theorem ofText_plain (hs : IsPlain s.toList) : ofText s = .ok (literal s.toList) := by
  have hend : ∀ position before, readFrom 0 position before [] = .ok [] := fun _ _ => by
    rw [readFrom]
  have h := readFrom_append hs hend 0 none
  rwa [List.append_nil, List.append_nil] at h

theorem literal?_literal (cs : List Char) : literal? (literal cs) = some cs := by
  induction cs with
  | nil => rfl
  | cons c r ih => exact (congrArg (Option.map (c :: ·)) ih)

theorem matchesName_literal : matchesName (literal cs) ds = true ↔ ds = cs := by
  induction cs generalizing ds with
  | nil => simp [literal, matchesName]
  | cons c r ih =>
    rw [literal, List.map_cons, ← literal]
    cases ds with
    | nil => simp [matchesName]
    | cons d ds => simp [matchesName, ih]

/-- Any text in front. -/
theorem matchesName_anyText : matchesName (.anyText :: ws) cs = true ↔
    ∃ ds, ds <:+ cs ∧ matchesName ws ds = true := by
  induction cs with
  | nil => simp [matchesName]
  | cons c r ih =>
    rw [matchesName, Bool.or_eq_true, ih]
    simp only [List.suffix_cons_iff]
    aesop

/-- The pattern of the names that end in a text. -/
def endingIn (cs : List Char) : List Wildcard := .anyText :: literal cs

theorem matchesName_endingIn : matchesName (endingIn cs) ds = true ↔ cs <:+ ds := by
  rw [endingIn, matchesName_anyText]
  simp only [matchesName_literal, exists_eq_right]

theorem ofText_anyPath : ofText "**" = .ok [.anyPath] := by
  decide

theorem ofText_endingIn_pdf : ofText "*.pdf" = .ok (endingIn ".pdf".toList) := by
  decide

theorem readFrom_below (position : Nat) (before : Option Char) :
    readFrom 0 position before "/**/*.pdf".toList =
      .ok ([.char '/', .anyPath] ++ endingIn ".pdf".toList) := rfl

end Glob

/-! ## Documents below a directory -/

namespace Path

open Glob (IsPlain literal endingIn)

variable {dir : Path}

/-- The segments to follow from the root or from the starting directory. -/
def route (p : Path) : List String := if p.isAbsolute then p.front.drop 1 else p.front

/-- Points in front of a path have only one slash behind them. -/
def IsDirect (p : Path) : Prop :=
  p.startsHere = true → (p.front.dropWhile (· == ".")).head? ≠ some ""

instance (p : Path) : Decidable p.IsDirect :=
  inferInstanceAs
    (Decidable (p.startsHere = true → (p.front.dropWhile (· == ".")).head? ≠ some ""))

/-- Behind the points in front of a relative path is no blank segment. -/
theorem IsDirect.head?_dropWhile_ne (h : dir.IsDirect) (hne : dir.text ≠ "")
    (hrelative : dir.isAbsolute = false) : (dir.front.dropWhile (· == ".")).head? ≠ some "" := by
  cases hstarts : dir.startsHere with
  | true => exact h hstarts
  | false =>
    have hhead := head?_front hne
    have hdrop : dir.front.dropWhile (· == ".") = dir.front := by
      obtain ⟨first, rest, hfront⟩ := List.exists_cons_of_ne_nil (mt text_eq_empty_of_front hne)
      rw [hfront] at hhead ⊢
      refine List.dropWhile_cons_of_neg fun hpoint => ?_
      rw [startsHere, ← hhead, List.head?_cons, eq_of_beq hpoint] at hstarts
      cases hstarts
    rw [hdrop, hhead]
    exact mt (isAbsolute_iff hne).2 (ne_true_of_eq_false hrelative)

theorem isFileName_anyPath : IsFileName "**" := by decide

theorem isFileName_pdf : IsFileName "*.pdf" := by decide

theorem segments_below (dir : Path) :
    ((dir.child "**").child "*.pdf").segments = dir.front ++ ["**", "*.pdf"] := by
  obtain ⟨hne, hslash⟩ := text_child_of_isFileName dir isFileName_anyPath
  rw [segments_child _ isFileName_pdf.no_slash, front_of_not_endsInSlash hne hslash,
    segments_child dir isFileName_anyPath.no_slash, List.append_assoc]
  rfl

/-- The pattern ends in the names that may be any. -/
theorem text_below (hdir : dir.text ≠ "") : ∃ body : List Char, body ⊆ dir.text.toList ∧
    ((dir.child "**").child "*.pdf").text.toList = body ++ "/**/*.pdf".toList := by
  obtain ⟨hne, hslash⟩ := text_child_of_isFileName dir isFileName_anyPath
  have hnames : (dir.child "**").child "*.pdf" = ⟨(dir.child "**").text ++ "/" ++ "*.pdf"⟩ := by
    rw [child_eq _ isFileName_pdf.no_slash, hslash]
    simp [hne]
  rw [hnames, child_eq dir isFileName_anyPath.no_slash]
  cases hend : dir.endsInSlash with
  | true =>
    have hlast : dir.text.toList.getLast? = some '/' := by simpa [endsInSlash] using hend
    obtain ⟨body, hbody⟩ := List.getLast?_eq_some_iff.1 hlast
    refine ⟨body, hbody ▸ List.subset_append_left _ _, ?_⟩
    simp [hbody]
  | false => exact ⟨dir.text.toList, List.Subset.refl _, by simp [hdir]⟩

theorem route_subset (dir : Path) : dir.route ⊆ dir.segments := by
  have hfront : dir.front ⊆ dir.segments := by
    unfold front
    split
    · exact List.dropLast_subset _
    · exact List.Subset.refl _
  unfold route
  split
  · exact List.Subset.trans (List.drop_subset 1 _) hfront
  · exact hfront

theorem isPlain_of_mem_route (hplain : IsPlain dir.text.toList) {s : String} (hs : s ∈ dir.route) :
    IsPlain s.toList :=
  fun c hc => hplain c (subset_of_mem_segments (route_subset dir hs) hc)

/-- **The pattern of the documents below a directory** without characters of patterns in its name:
its segments as they are, any directories, and the names that end in `.pdf`. -/
theorem names_below (hdir : dir.text ≠ "") (hplain : IsPlain dir.text.toList) :
    Glob.names ((dir.child "**").child "*.pdf") =
      .ok (dir.route.map (literal ·.toList) ++ [[.anyPath], endingIn ".pdf".toList]) := by
  obtain ⟨body, hsubset, htext⟩ := text_below hdir
  obtain ⟨ws, hwhole⟩ : ∃ ws, Glob.ofText ((dir.child "**").child "*.pdf").text = .ok ws := by
    rw [Glob.ofText, htext]
    exact ⟨_, Glob.readFrom_append (fun c hc => hplain c (hsubset hc)) Glob.readFrom_below 0 none⟩
  have habsolute : ((dir.child "**").child "*.pdf").isAbsolute = dir.isAbsolute := by
    rw [isAbsolute_child _ isFileName_pdf.no_slash, isAbsolute_child _ isFileName_anyPath.no_slash]
  have hroute : (if dir.isAbsolute then (dir.front ++ ["**", "*.pdf"]).drop 1
      else dir.front ++ ["**", "*.pdf"]) = dir.route ++ ["**", "*.pdf"] := by
    unfold route
    split
    · exact List.drop_append_of_le_length
        (List.length_pos_iff.2 (mt text_eq_empty_of_front hdir))
    · rfl
  unfold Glob.names
  rw [hwhole, segments_below, habsolute, (text_child_of_isFileName _ isFileName_pdf).2]
  change List.mapM Glob.ofText (if false then _ else if dir.isAbsolute then _ else _) = _
  rw [if_neg Bool.false_ne_true, hroute, Traversal.mapM_eq_ok_iff]
  refine List.rel_append ?_ (.cons Glob.ofText_anyPath (.cons Glob.ofText_endingIn_pdf .nil))
  rw [List.forall₂_map_right_iff, List.forall₂_same]
  exact fun s hs => Glob.ofText_plain (isPlain_of_mem_route hplain hs)

end Path

namespace Files

open Glob
open PolicyFields.Path (IsFileName)

variable {f : Files} {p q dir : Path} {s : String} {rest : List String}

/-! ## Following a route -/

theorem leads_congr (habsolute : p.isAbsolute = q.isAbsolute) (hsteps : p.steps = q.steps) :
    f.Leads p ↔ f.Leads q := by
  rw [Leads, Leads, beginning, beginning, habsolute, hsteps]

theorem place_congr (habsolute : p.isAbsolute = q.isAbsolute) (hsteps : p.steps = q.steps) :
    f.place p = f.place q := by
  rw [place, place, beginning, beginning, habsolute, hsteps]

theorem has_of_isDirectory (h : f.isDirectory p = true) : f.has p = true := by
  unfold isDirectory at h
  unfold has
  split at h
  · rename_i hstatus
    rw [hstatus]
    rfl
  · cases h

theorem Along.of_append {l : Location} {as bs : List Path.Component} (h : f.Along l (as ++ bs)) :
    f.Along l as := by
  induction as generalizing l with
  | nil => exact h.first
  | cons a as ih => exact ⟨h.1, ih h.2⟩

/-- A path that is written without a point in front, but for the starting directory itself. -/
def IsShort (p : Path) : Prop := p = ⟨"."⟩ ∨ p.startsHere = false

theorem below_here (name : String) : below ⟨"."⟩ name = ⟨name⟩ := by
  have hhere : Path.components ⟨"."⟩ = [.here] := by decide
  rw [below, hhere]
  rfl

theorem below_of_not_startsHere (h : p.startsHere = false) (name : String) :
    below p name = p.child name := by
  have hcomponents : (p.components == [.here]) = false := by
    rw [beq_eq_false_iff_ne, Path.components_of_not_startsHere h]
    exact fun heq => p.here_notMem_bare (heq ▸ List.mem_singleton_self _)
  rw [below, hcomponents]
  rfl

theorem segments_of_no_slash (hs : '/' ∉ s.toList) : (Path.mk s).segments = [s] := by
  rw [Path.segments, Text.splitAt_of_not_mem hs]
  simp

theorem isAbsolute_of_no_slash (hs : '/' ∉ s.toList) : (Path.mk s).isAbsolute = false := by
  rw [Path.isAbsolute, beq_eq_false_iff_ne]
  exact fun hhead => hs (List.mem_of_mem_head? hhead)

/-- What is known of a path on the way to a directory when some segments are still to follow. -/
structure OnWay (f : Files) (p : Path) (rest : List String) : Prop where
  ne_blank : p.text ≠ ""
  /-- All the directories on the way are there. -/
  along : f.Along (f.beginning p) (p.steps ++ rest.filterMap Path.componentOf?)
  no_slash : ∀ s ∈ rest, '/' ∉ s.toList
  short : IsShort p
  /-- Nothing can be found at a blank path. -/
  no_gap : p = ⟨"."⟩ → (rest.dropWhile (· == ".")).head? ≠ some ""

theorem OnWay.leads (h : OnWay f p rest) : f.Leads p := h.along.of_append

theorem OnWay.isDirectory (h : OnWay f p rest) : f.isDirectory p = true :=
  isDirectory_iff.2 ⟨h.ne_blank, h.leads⟩

/-- A segment is a step further, if it is one at all. -/
theorem OnWay.below (h : OnWay f p (s :: rest)) :
    (below p s).isAbsolute = p.isAbsolute ∧
      (below p s).steps = p.steps ++ (Path.componentOf? s).toList ∧ OnWay f (below p s) rest := by
  have hs := h.no_slash s List.mem_cons_self
  have hrest (t : String) (ht : t ∈ rest) := h.no_slash t (List.mem_cons_of_mem s ht)
  have hsteps : (s :: rest).filterMap Path.componentOf? =
      (Path.componentOf? s).toList ++ rest.filterMap Path.componentOf? := by
    cases hname : Path.componentOf? s <;> simp [hname]
  have halong := h.along
  rw [hsteps, ← List.append_assoc] at halong
  rcases h.short with rfl | hshort
  · -- From the starting directory the path is the segment alone.
    have hgap := h.no_gap rfl
    have hne : s ≠ "" := by
      rintro rfl
      exact hgap rfl
    have habsolute : (Path.mk s).isAbsolute = (Path.mk ".").isAbsolute :=
      isAbsolute_of_no_slash hs
    have hown : (Path.mk s).steps = (Path.mk ".").steps ++ (Path.componentOf? s).toList := by
      have hhere : (Path.mk ".").steps = [] := by decide
      rw [hhere, Path.steps, segments_of_no_slash hs]
      cases hname : Path.componentOf? s <;> simp [hname]
    rw [below_here]
    refine ⟨habsolute, hown, hne, ?_, hrest, ?_, ?_⟩
    · rw [hown, beginning, habsolute]
      exact halong
    · by_cases hhere : s = "."
      · exact .inl (congrArg Path.mk hhere)
      · refine .inr ?_
        rw [Path.startsHere, segments_of_no_slash hs]
        simpa using hhere
    · intro heq
      obtain rfl : s = "." := congrArg Path.text heq
      exact hgap
  · have hchild : (p.child s).startsHere = false := by
      rw [Path.startsHere_child p hs fun htext => absurd htext h.ne_blank, hshort]
    have habsolute := Path.isAbsolute_child p hs
    have hown := Path.steps_child_segment p hs
    rw [below_of_not_startsHere hshort]
    refine ⟨habsolute, hown, ?_, ?_, hrest, .inr hchild, ?_⟩
    · rw [Path.child_eq p hs]
      split <;> simp [h.ne_blank]
    · rw [hown, beginning, habsolute]
      exact halong
    · intro heq
      rw [heq] at hchild
      cases hchild

/-- **Plain segments are followed to the directory that they lead to.** -/
theorem OnWay.expandIn (h : OnWay f p rest) : ∃ q, OnWay f q [] ∧ q.isAbsolute = p.isAbsolute ∧
    q.steps = p.steps ++ rest.filterMap Path.componentOf? ∧ ∀ fuel ws,
      f.expandIn (fuel + rest.length) p (rest.map (literal ·.toList) ++ ws) =
        f.expandIn fuel q ws := by
  induction rest generalizing p with
  | nil => exact ⟨p, h, rfl, (List.append_nil _).symm, fun _ _ => rfl⟩
  | cons s rest ih =>
    obtain ⟨habsolute, hsteps, hnext⟩ := h.below
    obtain ⟨q, hq, hqabsolute, hqsteps, hexpand⟩ := ih hnext
    refine ⟨q, hq, hqabsolute.trans habsolute, ?_, fun fuel ws => ?_⟩
    · rw [hqsteps, hsteps, List.append_assoc]
      cases hname : Path.componentOf? s <;> simp [hname]
    · have hthere : (if s.toList == ['.'] || s.toList == ['.', '.'] then f.isDirectory p
          else f.has (Files.below p s)) = true := by
        split
        · exact h.isDirectory
        · exact has_of_isDirectory hnext.isDirectory
      rw [List.length_cons, ← Nat.add_assoc, List.map_cons, List.cons_append, Files.expandIn,
        literal?_literal]
      simp only [String.ofList_toList, hthere, if_true]
      exact hexpand fuel ws

/-! ## Documents in a directory of files -/

/-- Whether a name ends in `.pdf`. -/
def endsInPdf (name : String) : Bool := matchesName (endingIn ".pdf".toList) name.toList

theorem endsInPdf_iff {name : String} : endsInPdf name = true ↔ ".pdf".toList <:+ name.toList :=
  matchesName_endingIn

/-- A file fits the names of documents at any depth iff its own name does. -/
theorem expandAt_file {name : String} (hp : f.isDirectory p = false) (fuel : Nat) :
    f.expandAt (fuel + 2) p name [[.anyPath], endingIn ".pdf".toList] =
      if endsInPdf name then [p] else [] := by
  have hany : crosses [.anyPath] = true := by decide
  have hpdf : crosses (endingIn ".pdf".toList) = false := by decide
  rw [expandAt, if_pos hany, List.dropWhile_cons_of_neg (ne_true_of_eq_false hpdf)]
  simp only [hp, Bool.false_eq_true, if_false, List.nil_append]
  rw [expandAt, if_neg (ne_true_of_eq_false hpdf)]
  rfl

/-- A name below a directory is one step further. -/
theorem below_name (hq : OnWay f q []) (hs : IsFileName s) :
    (below q s).isAbsolute = q.isAbsolute ∧ (below q s).steps = q.steps ++ [.name s] ∧
      (below q s).startsHere = false := by
  rcases hq.short with rfl | hshort
  · rw [below_here]
    have hhere : (Path.mk ".").steps = [] := by decide
    refine ⟨isAbsolute_of_no_slash hs.no_slash, ?_, ?_⟩
    · rw [hhere, Path.steps, segments_of_no_slash hs.no_slash]
      simp [Path.componentOf?_of_isFileName hs]
    · rw [Path.startsHere, segments_of_no_slash hs.no_slash]
      simpa using hs.ne_here
  · rw [below_of_not_startsHere hshort]
    refine ⟨Path.isAbsolute_child q hs.no_slash, Path.steps_child q hs, ?_⟩
    rw [Path.startsHere_child q hs.no_slash fun htext => absurd htext hq.ne_blank, hshort]

variable {entries : List (String × Node)}

/-- **In a directory of files, those whose names end in `.pdf` are found.** -/
theorem OnWay.expandIn_documents (hq : OnWay f q []) (hlist : f.listDirectory q = .ok entries)
    (hproper : ∀ e ∈ entries, IsFileName e.1)
    (hfiles : ∀ name, f.node? (f.place q ++ [name]) ≠ some .directory) (fuel : Nat) :
    f.expandIn (fuel + 3) q [[.anyPath], endingIn ".pdf".toList] =
      ((entries.map Prod.fst).filter endsInPdf).map (Files.below q) := by
  have hentry (e : String × Node) (he : e ∈ entries) :
      f.isDirectory (Files.below q e.1) = false := by
    obtain ⟨habsolute, hsteps, -⟩ := below_name hq (hproper e he)
    refine eq_false_of_ne_true fun hdir => ?_
    have hleads : f.Leads (q.child e.1) := by
      refine (leads_congr ?_ ?_).1 (isDirectory_iff.1 hdir).2
      · rw [habsolute, Path.isAbsolute_child q (hproper e he).no_slash]
      · rw [hsteps, Path.steps_child q (hproper e he)]
    exact hfiles e.1 ((leads_child (hproper e he)).1 hleads).2
  have hany : literal? [.anyPath] = none := rfl
  rw [Files.expandIn, hany]
  simp only [hq.isDirectory, hlist]
  have hspecial : ([".", ".."].filter fun t =>
      [Wildcard.anyPath].head? == some (.char '.') && matchesName [.anyPath] t.toList) = [] := rfl
  rw [hspecial, List.flatMap_nil, List.nil_append]
  clear hlist
  induction entries with
  | nil => rfl
  | cons e entries ih =>
    obtain ⟨he, hentry⟩ := List.forall_mem_cons.1 hentry
    rw [List.flatMap_cons, ih (List.forall_mem_cons.1 hproper).2 hentry, expandAt_file he,
      List.map_cons, List.filter_cons]
    split <;> rfl

/-- The way to a directory begins at the root or at the starting directory. -/
theorem onWay_route (hdir : f.isDirectory dir = true) (hdirect : dir.IsDirect) :
    OnWay f (if dir.isAbsolute then ⟨"/"⟩ else ⟨"."⟩) dir.route ∧
      dir.route.filterMap Path.componentOf? = dir.steps := by
  obtain ⟨hne, hleads⟩ := isDirectory_iff.1 hdir
  have hslash (s : String) (hs : s ∈ dir.route) : '/' ∉ s.toList :=
    Path.no_slash_of_mem_segments (Path.route_subset dir hs)
  have hhead := Path.head?_front hne
  cases habsolute : dir.isAbsolute with
  | true =>
    rw [(Path.isAbsolute_iff hne).1 habsolute] at hhead
    obtain ⟨rest, hrest⟩ := List.head?_eq_some_iff.1 hhead
    have hroute : dir.route = rest := by rw [Path.route, if_pos habsolute, hrest]; rfl
    have hsteps : dir.route.filterMap Path.componentOf? = dir.steps := by
      rw [hroute, Path.steps_eq_front, hrest]
      rfl
    have hroot : (Path.mk "/").steps = [] := by decide
    refine ⟨⟨by decide, ?_, hslash, .inr (by decide), fun h => absurd h (by decide)⟩, hsteps⟩
    rw [Leads, beginning, if_pos habsolute] at hleads
    rw [if_pos rfl, hroot, hsteps]
    exact hleads
  | false =>
    have hnot : ¬ dir.isAbsolute = true := ne_true_of_eq_false habsolute
    have hroute : dir.route = dir.front := by rw [Path.route, if_neg hnot]
    have hsteps : dir.route.filterMap Path.componentOf? = dir.steps := by
      rw [hroute, Path.steps_eq_front]
    have hhere : (Path.mk ".").steps = [] := by decide
    refine ⟨⟨by decide, ?_, hslash, .inl rfl, fun _ => ?_⟩, hsteps⟩
    · rw [Leads, beginning, if_neg hnot] at hleads
      rw [if_neg Bool.false_ne_true, hhere, hsteps]
      exact hleads
    · rw [hroute]
      exact hdirect.head?_dropWhile_ne hne habsolute

/-- **What the pattern of documents finds below a directory of files**: the files whose names end in
`.pdf`, in order. -/
theorem expand_documents (hdir : f.isDirectory dir = true) (hplain : IsPlain dir.text.toList)
    (hdirect : dir.IsDirect) (hlist : f.listDirectory dir = .ok entries)
    (hproper : ∀ e ∈ entries, IsFileName e.1)
    (hfiles : ∀ name, f.node? (f.place dir ++ [name]) ≠ some .directory) :
    ∃ q, OnWay f q [] ∧ q.isAbsolute = dir.isAbsolute ∧ q.steps = dir.steps ∧
      f.expand ((dir.child "**").child "*.pdf") =
        .ok ((((entries.map Prod.fst).filter endsInPdf).map (Files.below q)).mergeSort
          fun p q => !q.before p) := by
  obtain ⟨hne, hleads⟩ := isDirectory_iff.1 hdir
  obtain ⟨hway, hroute⟩ := onWay_route hdir hdirect
  obtain ⟨q, hq, habsolute, hsteps, hexpand⟩ := hway.expandIn
  have hstart : (if dir.isAbsolute then Path.mk "/" else ⟨"."⟩).isAbsolute = dir.isAbsolute ∧
      (if dir.isAbsolute then Path.mk "/" else ⟨"."⟩).steps = [] := by
    cases dir.isAbsolute <;> decide
  rw [hstart.1] at habsolute
  rw [hstart.2, List.nil_append, hroute] at hsteps
  have hplace := place_congr (f := f) habsolute hsteps
  have hqlist : f.listDirectory q = .ok entries := by
    rw [listDirectory_of_leads hq.ne_blank hq.leads, hplace, ← hlist,
      listDirectory_of_leads hne hleads]
  have habsolute' : ((dir.child "**").child "*.pdf").isAbsolute = dir.isAbsolute := by
    rw [Path.isAbsolute_child _ Path.isFileName_pdf.no_slash,
      Path.isAbsolute_child _ Path.isFileName_anyPath.no_slash]
  have hfuel : 2 * (f.nodes.length + (dir.route.map (literal ·.toList) ++
      [[.anyPath], endingIn ".pdf".toList]).length) + 2 =
      (2 * f.nodes.length + dir.route.length + 3) + 3 + dir.route.length := by
    rw [List.length_append, List.length_map, List.length_cons, List.length_singleton]
    omega
  refine ⟨q, hq, habsolute, hsteps, ?_⟩
  rw [expand, Path.names_below hne hplain, habsolute']
  change Except.ok _ = _
  rw [hfuel, hexpand, hq.expandIn_documents hqlist hproper (hplace ▸ hfiles)]

end Files

end PolicyFields
