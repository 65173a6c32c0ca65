import PolicyFields.CommandLine.Inspection
import PolicyFields.Proofs.Documents
import PolicyFields.Proofs.Files.Glob

/-!
# Which documents of a directory are looked at

A company is recognized in the files that a pattern finds below a directory, and fields are
extracted from the documents that a listing of the directory returns.

* `UsualExtensions` — documents end in `.pdf` in small letters, with something in front.
* `listedPaths` — the paths of the documents that are listed; `listedPaths_eq` has their names.
* `filesAt_eq` — what is found below a directory of files whose path is plain.
* `filesAt_documents` — **the same documents are found and listed iff they have usual extensions**.
-/

namespace PolicyFields.CommandLine

open Files (endsInPdf endsInPdf_iff)
open Glob (Wildcard endingIn matchesName)
open PolicyFields.Path (IsFileName)

variable {f : Files} {dir : Path} {name : String} {names others : List String}
  {entries : List (String × Node)}

/-! ## Names of documents -/

/-- No name is `.pdf` alone, and `pdf` as an extension is in small letters. -/
def UsualExtensions (names : List String) : Prop :=
  ∀ name ∈ names, name ≠ ".pdf" ∧
    ∀ stem ext, stem ≠ "" → IsPdf ext → name = stem ++ "." ++ ext → ext = "pdf"

/-- What ends in `.pdf` is the name of a document, but for `.pdf` alone. -/
theorem isDocumentName_of_endsInPdf (h : endsInPdf name = true) (hne : name ≠ ".pdf") :
    isDocumentName name = true := by
  obtain ⟨stem, hstem⟩ := endsInPdf_iff.1 h
  refine isDocumentName_iff.2 ⟨String.ofList stem, "pdf", by unfold IsPdf; decide, ?_, ?_⟩
  · intro hempty
    obtain rfl : stem = [] := by simpa using congrArg String.toList hempty
    exact hne (String.toList_inj.1 hstem.symm)
  · rw [← String.toList_inj, ← hstem]
    simp

/-- Usual extensions are those by which documents are found and listed alike. -/
theorem usualExtensions_iff :
    UsualExtensions names ↔ ∀ name ∈ names, endsInPdf name = isDocumentName name := by
  refine forall₂_congr fun name _ => ?_
  rw [Bool.eq_iff_iff]
  constructor
  · rintro ⟨hne, husual⟩
    refine ⟨fun h => isDocumentName_of_endsInPdf h hne, fun h => ?_⟩
    obtain ⟨stem, ext, hext, hstem, rfl⟩ := isDocumentName_iff.1 h
    obtain rfl := husual stem ext hstem hext rfl
    exact endsInPdf_iff.2 ⟨stem.toList, by simp⟩
  · intro h
    refine ⟨?_, fun stem ext hstem hext hname => ?_⟩
    · rintro rfl
      have hends : endsInPdf ".pdf" = true := endsInPdf_iff.2 List.suffix_rfl
      exact absurd (h.1 hends) (by decide)
    · -- Both `.pdf` and the extension with its point end the name, and they are of one length.
      have hends := endsInPdf_iff.1 (h.2 (isDocumentName_iff.2 ⟨stem, ext, hext, hstem, hname⟩))
      have hown : ('.' :: ext.toList) <:+ name.toList := ⟨stem.toList, by simp [hname]⟩
      have hlength : ext.toList.length = 3 := by
        have hmap := congrArg List.length hext
        rwa [List.length_map] at hmap
      have heq : ".pdf".toList = '.' :: ext.toList := by
        rcases List.suffix_or_suffix_of_suffix hends hown with hsuffix | hsuffix
        · exact hsuffix.eq_of_length (by simp [hlength])
        · exact (hsuffix.eq_of_length (by simp [hlength])).symm
      exact String.toList_inj.1 (List.cons.inj heq).2.symm

/-! ## Names in order -/

/-- Names in the order of texts. -/
def inOrder (names : List String) : List String := names.mergeSort fun a b => a ≤ b

theorem inOrder_perm (names : List String) : (inOrder names).Perm names := List.mergeSort_perm _ _

theorem inOrder_eq_iff (hnames : names.Nodup) (hothers : others.Nodup) :
    inOrder names = inOrder others ↔ ∀ name, name ∈ names ↔ name ∈ others := by
  rw [← List.perm_ext_iff_of_nodup hnames hothers]
  constructor
  · intro h
    exact (inOrder_perm names).symm.trans (h ▸ inOrder_perm others)
  · intro h
    have hsorted (l : List String) : (inOrder l).Pairwise fun a b => decide (a ≤ b) = true := by
      refine List.pairwise_mergeSort (fun a b c hab hbc => ?_) (fun a b => ?_) l
      · exact decide_eq_true (String.le_trans (of_decide_eq_true hab) (of_decide_eq_true hbc))
      · simpa using String.le_total a b
    refine List.Perm.eq_of_pairwise (fun a b _ _ hab hba => ?_) (hsorted names) (hsorted others)
      ((inOrder_perm names).trans (h.trans (inOrder_perm others).symm))
    exact String.le_antisymm (of_decide_eq_true hab) (of_decide_eq_true hba)

/-- Paths in one directory are in the order of their names. -/
theorem mergeSort_map {common : List Path.Component} {path : String → Path}
    (hpath : ∀ name ∈ names, (path name).components = common ++ [.name name]) :
    ((names.map path).mergeSort fun p q => !q.before p) = (inOrder names).map path := by
  refine (List.map_mergeSort fun a ha b hb => ?_).symm
  rw [Path.before_eq (hpath b hb) (hpath a ha), ← decide_not]
  exact decide_eq_decide.2 String.not_lt.symm

/-! ## Documents that are listed -/

/-- The paths of the documents that are listed; none if there are no documents. -/
def listedPaths (f : Files) (dir : Path) : List Path :=
  match listDocuments f dir with
  | .ok docs => docs.map Document.path
  | .error _ => []

/-- The names of documents in order are listed. -/
theorem listedPaths_eq (hdir : f.isDirectory dir = true) (hlist : f.listDirectory dir = .ok entries)
    (hproper : ∀ e ∈ entries, IsFileName e.1) :
    listedPaths f dir = (inOrder (documentNames entries)).map dir.child := by
  have hnames : ∀ name ∈ documentNames entries,
      (dir.child name).components = dir.components ++ [.name name] := by
    intro name hname
    obtain ⟨-, c, hc⟩ := mem_documentNames_iff.1 hname
    exact Path.components_child dir (hproper _ hc)
  rw [← mergeSort_map hnames, ← documentPaths_eq hproper, listedPaths]
  split
  · rename_i docs hdocs
    obtain ⟨listed, -, heq, -, rfl⟩ := listDocuments_eq_ok_iff.1 hdocs
    obtain rfl := Except.ok.inj (hlist.symm.trans heq)
    rw [List.map_map]
    exact List.map_id _
  · rename_i e hdocs
    suffices hnone : documentPaths dir entries = [] by
      rw [hnone, List.mergeSort_nil]
    by_contra hne
    rw [listDocuments_eq_ok_iff.2 ⟨entries, hdir, hlist, hne, rfl⟩] at hdocs
    cases hdocs

/-- Listed paths begin as their directory does. -/
theorem listedPaths_bare (hdir : f.isDirectory dir = true)
    (hlist : f.listDirectory dir = .ok entries) (hproper : ∀ e ∈ entries, IsFileName e.1) :
    (∀ p ∈ listedPaths f dir, p.startsHere = dir.startsHere) ∧
      (listedPaths f dir).map Path.bare = (inOrder (documentNames entries)).map
        fun name => dir.bare ++ [.name name] := by
  have hname (name : String) (hname : name ∈ inOrder (documentNames entries)) :
      IsFileName name := by
    obtain ⟨-, c, hc⟩ := mem_documentNames_iff.1 ((inOrder_perm _).mem_iff.1 hname)
    exact hproper _ hc
  rw [listedPaths_eq hdir hlist hproper]
  constructor
  · rintro p hp
    obtain ⟨name, hmem, rfl⟩ := List.mem_map.1 hp
    exact Path.startsHere_child dir (hname name hmem).no_slash fun _ => (hname name hmem).ne_here
  · rw [List.map_map]
    exact List.map_congr_left fun name hmem => Path.bare_child dir (hname name hmem)

/-! ## Documents that are found -/

/-- Names behind the same components are told apart. -/
theorem map_name_inj {common : List Path.Component} :
    names.map (fun name => common ++ [.name name]) =
      others.map (fun name => common ++ [.name name]) ↔ names = others := by
  refine (List.map_injective_iff.2 fun a b hab => ?_).eq_iff
  exact Path.Component.name.inj (List.singleton_inj.1 (List.append_cancel_left hab))

/-- In a directory of files the names of documents are those of entries. -/
theorem mem_documentNames_of_files (hdir : f.isDirectory dir = true)
    (hlist : f.listDirectory dir = .ok entries) (hdistinct : (entries.map Prod.fst).Nodup)
    (hfiles : ∀ name, f.node? (f.place dir ++ [name]) ≠ some .directory) :
    name ∈ documentNames entries ↔
      name ∈ (entries.map Prod.fst).filter isDocumentName := by
  obtain ⟨hne, hleads⟩ := Files.isDirectory_iff.1 hdir
  obtain rfl := Except.ok.inj (hlist.symm.trans (Files.listDirectory_of_leads hne hleads))
  rw [mem_documentNames_iff, List.mem_filter, and_comm]
  refine and_congr_left fun _ => ?_
  rw [List.mem_map]
  constructor
  · rintro ⟨c, hc⟩
    exact ⟨_, hc, rfl⟩
  · rintro ⟨⟨_, node⟩, hnode, rfl⟩
    cases node with
    | file c => exact ⟨c, hnode⟩
    | directory =>
      exact absurd (Files.node?_of_mem_children hdistinct hnode (hfiles _)) (hfiles _)

/-- In a directory of files, the names that end in `.pdf` are those of documents iff extensions are
usual. -/
theorem inOrder_documentNames_iff (hdir : f.isDirectory dir = true)
    (hlist : f.listDirectory dir = .ok entries) (hdistinct : (entries.map Prod.fst).Nodup)
    (hfiles : ∀ name, f.node? (f.place dir ++ [name]) ≠ some .directory) :
    inOrder ((entries.map Prod.fst).filter endsInPdf) = inOrder (documentNames entries) ↔
      UsualExtensions (entries.map Prod.fst) := by
  rw [inOrder_eq_iff (hdistinct.filter _) (documentNames_nodup hdistinct), usualExtensions_iff]
  refine forall_congr' fun name => ?_
  rw [mem_documentNames_of_files hdir hlist hdistinct hfiles, List.mem_filter, List.mem_filter,
    and_congr_right_iff]
  exact imp_congr_right fun _ => Bool.eq_iff_iff.symm

/-- The names that end in `.pdf` in order are found, written without a point in front. -/
theorem filesAt_eq (hdir : f.isDirectory dir = true) (hplain : Glob.IsPlain dir.text.toList)
    (hdirect : dir.IsDirect) (hlist : f.listDirectory dir = .ok entries)
    (hproper : ∀ e ∈ entries, IsFileName e.1)
    (hfiles : ∀ name, f.node? (f.place dir ++ [name]) ≠ some .directory) :
    ∃ found, filesAt f dir = .ok found ∧ (∀ p ∈ found, p.startsHere = false) ∧
      found.map Path.bare = (inOrder ((entries.map Prod.fst).filter endsInPdf)).map
        fun name => dir.bare ++ [.name name] := by
  obtain ⟨q, hq, habsolute, hsteps, hexpand⟩ :=
    Files.expand_documents hdir hplain hdirect hlist hproper hfiles
  have hbare : q.bare = dir.bare := by rw [Path.bare, Path.bare, habsolute, hsteps]
  have hbelow (name : String) (hname : name ∈ (entries.map Prod.fst).filter endsInPdf) :
      (Files.below q name).startsHere = false ∧
        (Files.below q name).bare = dir.bare ++ [.name name] := by
    obtain ⟨e, he, rfl⟩ := List.mem_map.1 (List.mem_of_mem_filter hname)
    obtain ⟨hroot, hnext, hhere⟩ := Files.below_name hq (hproper e he)
    exact ⟨hhere, by rw [Path.bare, hroot, hnext, ← List.append_assoc, ← hbare, Path.bare]⟩
  have hordered (name : String) :
      name ∈ inOrder ((entries.map Prod.fst).filter endsInPdf) ↔
        name ∈ (entries.map Prod.fst).filter endsInPdf := (inOrder_perm _).mem_iff
  have hcomponents := fun name hname =>
    (Path.components_of_not_startsHere (hbelow name hname).1).trans (hbelow name hname).2
  refine ⟨(inOrder ((entries.map Prod.fst).filter endsInPdf)).map (Files.below q), ?_, ?_, ?_⟩
  · exact (if_pos hdir).trans (hexpand.trans (congrArg _ (mergeSort_map hcomponents)))
  · rintro p hp
    obtain ⟨name, hname, rfl⟩ := List.mem_map.1 hp
    exact (hbelow name ((hordered name).1 hname)).1
  · rw [List.map_map]
    exact List.map_congr_left fun name hname => (hbelow name ((hordered name).1 hname)).2

/-- **In a directory of files the same documents are found and listed iff they have usual
extensions**, provided that its path stands for itself in a pattern. What is found ends in `.pdf` in
small letters, in the order of listings. The paths are then the same, but for the point that paths
below a directory with a point in front have in listings only. -/
theorem filesAt_documents (hdir : f.isDirectory dir = true)
    (hplain : Glob.IsPlain dir.text.toList) (hdirect : dir.IsDirect)
    (hlist : f.listDirectory dir = .ok entries) (hdistinct : (entries.map Prod.fst).Nodup)
    (hproper : ∀ e ∈ entries, IsFileName e.1)
    (hfiles : ∀ name, f.node? (f.place dir ++ [name]) ≠ some .directory) :
    ∃ found, filesAt f dir = .ok found ∧
      found.map Path.bare = (inOrder ((entries.map Prod.fst).filter endsInPdf)).map
        (fun name => dir.bare ++ [.name name]) ∧
      (found.map Path.bare = (listedPaths f dir).map Path.bare ↔
        UsualExtensions (entries.map Prod.fst)) ∧
      (found.map Path.components = (listedPaths f dir).map Path.components ↔
        UsualExtensions (entries.map Prod.fst) ∧
          (dir.startsHere = true → listedPaths f dir = [])) := by
  obtain ⟨found, hfound, hshort, hbare⟩ := filesAt_eq hdir hplain hdirect hlist hproper hfiles
  obtain ⟨hhere, hlisted⟩ := listedPaths_bare hdir hlist hproper
  have husual : found.map Path.bare = (listedPaths f dir).map Path.bare ↔
      UsualExtensions (entries.map Prod.fst) := by
    rw [hbare, hlisted, map_name_inj]
    exact inOrder_documentNames_iff hdir hlist hdistinct hfiles
  refine ⟨found, hfound, hbare, husual, ?_⟩
  rw [Path.map_components_eq_iff hshort hhere, husual]

/-- Two documents and another file. -/
theorem filesAt_documents_two :
    let f : Files := ⟨["d"], [(["d", "p"], .directory), (["d", "p", "a.pdf"], .file (.pdf none)),
      (["d", "p", "b.pdf"], .file (.pdf none)), (["d", "p", "notes.txt"], .file (.text ""))]⟩
    ∃ found, filesAt f ⟨"p"⟩ = .ok found ∧
      found.map Path.components = (listedPaths f ⟨"p"⟩).map Path.components ∧
      listedPaths f ⟨"p"⟩ = [⟨"p/a.pdf"⟩, ⟨"p/b.pdf"⟩] := by
  intro f
  have hlist : f.listDirectory ⟨"p"⟩ = .ok [("a.pdf", .file (.pdf none)),
    ("b.pdf", .file (.pdf none)), ("notes.txt", .file (.text ""))] := rfl
  have hdocs : listDocuments f ⟨"p"⟩ = .ok [⟨"a", ⟨"p/a.pdf"⟩⟩, ⟨"b", ⟨"p/b.pdf"⟩⟩] :=
    listDocuments_of_sorted rfl hlist (by decide) (by decide)
  have hfiles (name : String) : f.node? (f.place ⟨"p"⟩ ++ [name]) ≠ some .directory := by
    have hplace : f.place ⟨"p"⟩ = ["d", "p"] := by decide
    intro h
    rw [hplace, Files.node?, if_neg (by simp [f])] at h
    obtain ⟨before, after, hnodes, -⟩ := List.lookup_eq_some_iff.1 h
    have hmem : (["d", "p", name], Node.directory) ∈ f.nodes := by simp [hnodes]
    simp [f] at hmem
  have husual : UsualExtensions ["a.pdf", "b.pdf", "notes.txt"] := by
    have hends (name : String) : endsInPdf name = decide (".pdf".toList <:+ name.toList) := by
      rw [Bool.eq_iff_iff, endsInPdf_iff, decide_eq_true_iff]
    refine usualExtensions_iff.2 ?_
    simp only [hends]
    decide
  have hdir : f.isDirectory ⟨"p"⟩ = true := rfl
  obtain ⟨found, hfound, -, -, hsame⟩ := filesAt_documents hdir (by decide) (by decide) hlist
    (by decide) (by decide) hfiles
  exact ⟨found, hfound, hsame.2 ⟨husual, by decide⟩, by rw [listedPaths, hdocs]; rfl⟩

/-- A bracket in the name of a directory is read as a pattern, and another directory is searched; an
extension in capitals is not found. -/
theorem filesAt_documents_missed :
    let f : Files := ⟨["s"], [(["s", "d[1]"], .directory),
      (["s", "d[1]", "a.pdf"], .file (.pdf (some ["axa"]))), (["s", "d1"], .directory),
      (["s", "d1", "b.pdf"], .file (.pdf (some ["axa"]))), (["s", "up"], .directory),
      (["s", "up", "A.PDF"], .file (.pdf (some ["axa"])))]⟩
    filesAt f ⟨"d[1]"⟩ = .ok [⟨"d1/b.pdf"⟩] ∧ listedPaths f ⟨"d[1]"⟩ = [⟨"d[1]/a.pdf"⟩] ∧
      filesAt f ⟨"up"⟩ = .ok [] ∧ listedPaths f ⟨"up"⟩ = [⟨"up/A.PDF"⟩] := by
  intro f
  let bracket : List Wildcard := [.char 'd', .within [.one '1']]
  let rest : List (List Wildcard) := [[.anyPath], endingIn ".pdf".toList]
  refine ⟨?_, by decide +kernel, ?_, by decide +kernel⟩
  · have hnames : Glob.names ⟨"d[1]/**/*.pdf"⟩ = .ok (bracket :: rest) := by decide
    have hexpand : f.expand ⟨"d[1]/**/*.pdf"⟩ =
        .ok ((f.expandIn 20 ⟨"."⟩ (bracket :: rest)).mergeSort fun p q => !q.before p) := by
      rw [Files.expand, hnames]
      rfl
    have hat (p : Path) (name : String) : f.expandAt 19 p name (bracket :: rest) =
        if matchesName bracket name.toList then f.expandIn 18 p rest else [] := by
      rw [Files.expandAt, if_neg (by decide)]
      rfl
    have hchoices : f.expandIn 20 ⟨"."⟩ (bracket :: rest) =
        f.expandAt 19 ⟨"d[1]"⟩ "d[1]" (bracket :: rest) ++
          (f.expandAt 19 ⟨"d1"⟩ "d1" (bracket :: rest) ++
            (f.expandAt 19 ⟨"up"⟩ "up" (bracket :: rest) ++ [])) := rfl
    have hbelow : f.expandIn 18 ⟨"d1"⟩ rest =
        f.expandAt 17 ⟨"d1/b.pdf"⟩ "b.pdf" rest ++ [] := rfl
    have hother : matchesName bracket "d[1]".toList = false := by
      simp [matchesName, Glob.CharSpec.has, bracket]
    have hone : matchesName bracket "d1".toList = true := by
      simp [matchesName, Glob.CharSpec.has, bracket]
    have hup : matchesName bracket "up".toList = false := by
      simp [matchesName, bracket]
    change f.expand ⟨"d[1]/**/*.pdf"⟩ = _
    rw [hexpand, hchoices, hat, hat, hat, hother, hone, hup, hbelow, Files.expandAt_file rfl,
      if_pos (endsInPdf_iff.2 ⟨['b'], rfl⟩)]
    exact congrArg Except.ok (List.mergeSort_singleton _)
  · have hnames : Glob.names ⟨"up/**/*.pdf"⟩ = .ok (Glob.literal ['u', 'p'] :: rest) := by decide
    have hexpand : f.expand ⟨"up/**/*.pdf"⟩ =
        .ok ((f.expandIn 20 ⟨"."⟩ (Glob.literal ['u', 'p'] :: rest)).mergeSort
          fun p q => !q.before p) := by
      rw [Files.expand, hnames]
      rfl
    have hbelow : f.expandIn 20 ⟨"."⟩ (Glob.literal ['u', 'p'] :: rest) =
        f.expandAt 18 ⟨"up/A.PDF"⟩ "A.PDF" rest ++ [] := rfl
    have hcapitals : ¬ endsInPdf "A.PDF" = true := by
      rw [endsInPdf_iff]
      decide
    change f.expand ⟨"up/**/*.pdf"⟩ = _
    rw [hexpand, hbelow, Files.expandAt_file rfl, if_neg hcapitals]
    exact congrArg Except.ok List.mergeSort_nil

end PolicyFields.CommandLine
