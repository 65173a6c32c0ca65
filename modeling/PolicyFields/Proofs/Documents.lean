import PolicyFields.Proofs.Extraction.Corpus
import PolicyFields.Proofs.Files.Path

/-!
# Ids of documents

* `documentNames` — the names of the documents in a directory.
* `listDocuments_eq_ok_iff` — what a listing returns, and `ids_perm`: the ids of the listed
  documents are the stems of their names.
* `DistinctStems` — no two documents of a directory differ in the spelling of the extension only.
* `Corpus.size_column` — a field has one entry for every id, not for every document.
* `document_ids_distinct_iff` — **listed documents have distinct ids iff their stems are distinct**,
  and just then a field has as many entries as documents were processed.
-/

namespace PolicyFields

open Extraction (Corpus Extractor Reader Session)
open PolicyFields.Path (IsFileName splitName)

variable {dir : Path} {name : String} {entries : List (String × Node)}

/-! ## Names of documents -/

/-- An extension of documents: `pdf` in any case. -/
def IsPdf (ext : String) : Prop := ext.toList.map Char.toLower = ['p', 'd', 'f']

/-- Whether a name is that of a document. -/
def isDocumentName (name : String) : Bool :=
  match (splitName name).2 with
  | some e => e.toList.map Char.toLower == ['p', 'd', 'f']
  | none => false

/-- The names of the documents among the entries of a directory. -/
def documentNames (entries : List (String × Node)) : List String :=
  entries.filterMap fun e => match e.2 with
    | .file _ => if isDocumentName e.1 then some e.1 else none
    | .directory => none

/-- No two documents have names that differ in the spelling of the extension only. -/
def DistinctStems (entries : List (String × Node)) : Prop :=
  ∀ (stem ext₁ ext₂ : String) (c₁ c₂ : Content), stem ≠ "" → IsPdf ext₁ → IsPdf ext₂ →
    (stem ++ "." ++ ext₁, .file c₁) ∈ entries → (stem ++ "." ++ ext₂, .file c₂) ∈ entries →
    ext₁ = ext₂

theorem IsPdf.no_point {ext : String} (h : IsPdf ext) : '.' ∉ ext.toList := by
  intro hmem
  have hlower := List.mem_map_of_mem (f := Char.toLower) hmem
  rw [h] at hlower
  revert hlower
  decide

theorem isDocumentName_iff :
    isDocumentName name = true ↔
      ∃ stem ext, IsPdf ext ∧ stem ≠ "" ∧ name = stem ++ "." ++ ext := by
  unfold isDocumentName
  constructor
  · intro h
    split at h
    · rename_i ext hext
      have hsplit : splitName name = ((splitName name).1, some ext) := Prod.ext rfl hext
      obtain ⟨hname, hstem, -⟩ := Path.splitName_eq_some_iff.1 hsplit
      exact ⟨_, ext, beq_iff_eq.1 h, hstem, hname⟩
    · cases h
  · rintro ⟨stem, ext, hext, hstem, hname⟩
    rw [Path.splitName_eq_some_iff.2 ⟨hname, hstem, hext.no_point⟩]
    exact beq_iff_eq.2 hext

theorem mem_documentNames_iff :
    name ∈ documentNames entries ↔
      isDocumentName name = true ∧ ∃ c, (name, Node.file c) ∈ entries := by
  rw [documentNames, List.mem_filterMap]
  constructor
  · rintro ⟨⟨n, node⟩, hmem, h⟩
    cases node with
    | file c =>
      simp only [Option.ite_none_right_eq_some, Option.some.injEq] at h
      obtain ⟨hname, rfl⟩ := h
      exact ⟨hname, c, hmem⟩
    | directory => cases h
  · rintro ⟨hname, c, hmem⟩
    exact ⟨_, hmem, if_pos hname⟩

theorem documentNames_nodup (h : (entries.map Prod.fst).Nodup) : (documentNames entries).Nodup := by
  have hsub : (documentNames entries).Sublist (entries.map Prod.fst) := by
    rw [documentNames, ← List.filterMap_eq_map]
    clear h
    induction entries with
    | nil => exact .slnil
    | cons e es ih =>
      obtain ⟨n, node⟩ := e
      rw [List.filterMap_cons, List.filterMap_cons]
      cases node with
      | file c =>
        cases isDocumentName n with
        | true => exact ih.cons_cons _
        | false => exact ih.cons _
      | directory => exact ih.cons _
  exact hsub.nodup h

/-! ## Listing -/

theorem isNamed_child (h : IsFileName name) :
    Document.isNamed (dir.child name) = isDocumentName name := by
  unfold Document.isNamed Path.extension? isDocumentName
  rw [Path.fileName?_child dir h]
  rfl

theorem id_ofPath_child (h : IsFileName name) :
    (Document.ofPath (dir.child name)).id = (splitName name).1 := by
  unfold Document.ofPath Path.stem?
  rw [Path.fileName?_child dir h]
  rfl

/-- The paths of the documents among the entries of a directory. -/
def documentPaths (dir : Path) (entries : List (String × Node)) : List Path :=
  entries.filterMap fun e => match e.2 with
    | .file _ => if Document.isNamed (dir.child e.1) then some (dir.child e.1) else none
    | .directory => none

/-- What a listing returns. -/
theorem listDocuments_eq_ok_iff {f : Files} {docs : List Document} :
    listDocuments f dir = .ok docs ↔ ∃ entries, f.isDirectory dir = true ∧
      f.listDirectory dir = .ok entries ∧ documentPaths dir entries ≠ [] ∧
      docs = ((documentPaths dir entries).mergeSort fun p q => !q.before p).map Document.ofPath := by
  constructor
  · intro h
    unfold listDocuments at h
    split at h
    · rename_i entries hdir hlist
      dsimp only at h
      split at h
      · cases h
      · rename_i hne
        obtain rfl := Except.ok.inj h
        refine ⟨entries, hdir, hlist, fun hnil => hne ?_, rfl⟩
        exact (congrArg (List.mergeSort · fun p q => !q.before p) hnil).trans List.mergeSort_nil
    · cases h
  · rintro ⟨entries, hdir, hlist, hne, rfl⟩
    unfold listDocuments
    rw [hdir, hlist]
    dsimp only
    split
    · rename_i hnil
      refine absurd ?_ hne
      rw [← List.length_eq_zero_iff, ← List.length_mergeSort, ← List.length_eq_zero_iff.2 hnil]
      rfl
    · rfl

/-- A directory whose entries are in order is listed in that order. -/
theorem listDocuments_of_sorted {f : Files} (hdir : f.isDirectory dir = true)
    (hlist : f.listDirectory dir = .ok entries) (hne : documentPaths dir entries ≠ [])
    (hsorted : (documentPaths dir entries).Pairwise fun p q => (!q.before p) = true) :
    listDocuments f dir = .ok ((documentPaths dir entries).map Document.ofPath) :=
  listDocuments_eq_ok_iff.2
    ⟨entries, hdir, hlist, hne, by rw [List.mergeSort_of_pairwise hsorted]⟩

theorem documentPaths_eq (hproper : ∀ e ∈ entries, IsFileName e.1) :
    documentPaths dir entries = (documentNames entries).map dir.child := by
  rw [documentPaths, documentNames, List.map_filterMap]
  refine List.filterMap_congr fun e he => ?_
  cases e.2 with
  | file c =>
    simp only [isNamed_child (hproper e he)]
    split <;> rfl
  | directory => rfl

/-- The ids of listed documents are the stems of their names. -/
theorem ids_perm {f : Files} {docs : List Document} (hlist : f.listDirectory dir = .ok entries)
    (hproper : ∀ e ∈ entries, IsFileName e.1) (hdocs : listDocuments f dir = .ok docs) :
    (docs.map Document.id).Perm ((documentNames entries).map fun n => (splitName n).1) := by
  have hstems : ∀ n ∈ documentNames entries,
      (Document.ofPath (dir.child n)).id = (splitName n).1 := by
    intro n hn
    obtain ⟨-, c, hc⟩ := mem_documentNames_iff.1 hn
    exact id_ofPath_child (hproper _ hc)
  obtain ⟨listed, -, heq, -, rfl⟩ := listDocuments_eq_ok_iff.1 hdocs
  obtain rfl := Except.ok.inj (hlist.symm.trans heq)
  refine (((List.mergeSort_perm _ _).map Document.ofPath).map Document.id).trans ?_
  rw [documentPaths_eq hproper, List.map_map, List.map_map]
  exact List.Perm.of_eq (List.map_congr_left hstems)

/-- Stems of documents are distinct iff no two documents differ in the spelling of the extension
only. -/
theorem stems_nodup_iff (hdistinct : (entries.map Prod.fst).Nodup) :
    ((documentNames entries).map fun n => (splitName n).1).Nodup ↔ DistinctStems entries := by
  rw [List.nodup_map_iff_inj_on (documentNames_nodup hdistinct)]
  constructor
  · intro h stem ext₁ ext₂ c₁ c₂ hstem h₁ h₂ hmem₁ hmem₂
    have hname : ∀ ext c, IsPdf ext → (stem ++ "." ++ ext, Node.file c) ∈ entries →
        stem ++ "." ++ ext ∈ documentNames entries := fun ext c hext hmem =>
      mem_documentNames_iff.2 ⟨isDocumentName_iff.2 ⟨stem, ext, hext, hstem, rfl⟩, c, hmem⟩
    have hsplit : ∀ ext, IsPdf ext → splitName (stem ++ "." ++ ext) = (stem, some ext) :=
      fun ext hext => Path.splitName_eq_some_iff.2 ⟨rfl, hstem, hext.no_point⟩
    have heq := h _ (hname _ _ h₁ hmem₁) _ (hname _ _ h₂ hmem₂) (by rw [hsplit _ h₁, hsplit _ h₂])
    have hboth := hsplit _ h₁
    rw [heq, hsplit _ h₂] at hboth
    exact (Option.some.inj (Prod.mk.inj hboth).2).symm
  · intro h a ha b hb hstems
    obtain ⟨hdoca, ca, hca⟩ := mem_documentNames_iff.1 ha
    obtain ⟨hdocb, cb, hcb⟩ := mem_documentNames_iff.1 hb
    obtain ⟨stema, exta, hexta, hstema, rfl⟩ := isDocumentName_iff.1 hdoca
    obtain ⟨stemb, extb, hextb, hstemb, rfl⟩ := isDocumentName_iff.1 hdocb
    rw [Path.splitName_eq_some_iff.2 ⟨rfl, hstema, hexta.no_point⟩,
      Path.splitName_eq_some_iff.2 ⟨rfl, hstemb, hextb.no_point⟩] at hstems
    subst hstems
    rw [h stema exta extb ca cb hstema hexta hextb hca hcb]

/-! ## Entries of a run -/

namespace Extraction

variable {σ : Type}

/-- A field has one entry for every id. -/
theorem Corpus.size_column {ex : Extractor} {read : Reader σ} {stop : Nat → σ → Bool}
    {docs : List Document} {s : Session σ} {c : Corpus}
    (hrun : (ex.extractCorpus read stop docs s).1 = .ok c) (hall : c.interrupted = false) :
    c.documents = docs.length ∧ ∀ name values, c.fields.find? name = some values →
      values.size = (docs.map Document.id).dedup.length := by
  obtain ⟨rs, hc, hids, hlength⟩ := ex.extractCorpus_ok hrun
  rw [hlength hall, List.take_length] at hids
  refine ⟨?_, fun name values hvalues => ?_⟩
  · rw [hc, ← hlength hall]
    rfl
  · rw [hc, Extractor.find?_fields_collect] at hvalues
    obtain ⟨_, -, rfl⟩ := Option.map_eq_some_iff.1 hvalues
    rw [← Dict.length_keys, (Dict.keys_ofList_perm _).length_eq, List.map_map, ← hids]
    rfl

end Extraction

/-- **Listed documents have distinct ids iff no two of them differ in the spelling of the extension
only.** Just then every field of a run over all of them has as many entries as documents were
processed; otherwise results are lost, because a document overwrites another of the same id. -/
theorem document_ids_distinct_iff {f : Files} {docs : List Document}
    (hlist : f.listDirectory dir = .ok entries) (hdistinct : (entries.map Prod.fst).Nodup)
    (hproper : ∀ e ∈ entries, IsFileName e.1) (hdocs : listDocuments f dir = .ok docs) :
    ((docs.map Document.id).Nodup ↔ DistinctStems entries) ∧
    ∀ (σ : Type) (ex : Extractor) (read : Reader σ) (stop : Nat → σ → Bool) (s : Session σ)
      (c : Corpus), (ex.extractCorpus read stop docs s).1 = .ok c → c.interrupted = false →
      c.documents = docs.length ∧ ∀ name values, c.fields.find? name = some values →
        (values.size = c.documents ↔ DistinctStems entries) := by
  have hids : (docs.map Document.id).Nodup ↔ DistinctStems entries := by
    rw [(ids_perm hlist hproper hdocs).nodup_iff]
    exact stems_nodup_iff hdistinct
  refine ⟨hids, fun σ ex read stop s c hrun hall => ?_⟩
  obtain ⟨hdocuments, hsize⟩ := Extraction.Corpus.size_column hrun hall
  refine ⟨hdocuments, fun name values hvalues => ?_⟩
  have hlength : (docs.map Document.id).length = docs.length := List.length_map _
  rw [← hids, hsize name values hvalues, hdocuments, ← hlength]
  constructor
  · intro hall
    exact (List.dedup_sublist _).eq_of_length hall ▸ List.nodup_dedup _
  · intro hnodup
    rw [hnodup.dedup]

/-- Two documents with the extension in different spellings, and two entries for the field. -/
theorem document_ids_distinct_iff_two :
    let f : Files := ⟨["d"], [(["d", "a.PDF"], .file (.pdf (some ["No 7"]))),
      (["d", "b.pdf"], .file (.pdf (some ["No 8"])))]⟩
    let ex := Extractor.make "ak" ⟨none, none, Dict.ofList [("No", none)]⟩ .extraction false
    let read : Reader Unit := fun p source => (documentText f p, source)
    ∃ entries docs, f.listDirectory ⟨"."⟩ = .ok entries ∧ (entries.map Prod.fst).Nodup ∧
      (∀ e ∈ entries, IsFileName e.1) ∧ listDocuments f ⟨"."⟩ = .ok docs ∧
      DistinctStems entries ∧
      ∃ c values, (ex.extractCorpus read (fun _ _ => false) docs ⟨(), []⟩).1 = .ok c ∧
        c.interrupted = false ∧ c.documents = 2 ∧ c.fields.find? "No" = some values ∧
        values.size = 2 := by
  intro f ex read
  have hlist : f.listDirectory ⟨"."⟩ = .ok [("a.PDF", .file (.pdf (some ["No 7"]))),
    ("b.pdf", .file (.pdf (some ["No 8"])))] := rfl
  have hdocs : listDocuments f ⟨"."⟩ = .ok [⟨"a", ⟨"./a.PDF"⟩⟩, ⟨"b", ⟨"./b.pdf"⟩⟩] :=
    listDocuments_of_sorted rfl hlist (by decide) (by decide)
  have hdistinct := document_ids_distinct_iff hlist (by decide) (by decide) hdocs
  have hstems := hdistinct.1.1 (by decide)
  have hsize := (hdistinct.2 Unit ex read (fun _ _ => false) ⟨(), []⟩ _ rfl rfl).2 "No" _ rfl
  exact ⟨_, _, hlist, by decide, by decide, hdocs, hstems, _, _, rfl, rfl, rfl, rfl,
    hsize.2 hstems⟩

/-- Two spellings of the extension behind one stem: both documents have the same id, and a run over
both keeps one entry for the field. -/
theorem document_ids_collide :
    let f : Files := ⟨["d"], [(["d", "a.PDF"], .file (.pdf (some ["No 7"]))),
      (["d", "a.pdf"], .file (.pdf (some ["No 8"])))]⟩
    let ex := Extractor.make "ak" ⟨none, none, Dict.ofList [("No", none)]⟩ .extraction false
    let read : Reader Unit := fun p source => (documentText f p, source)
    ∃ entries docs, f.listDirectory ⟨"."⟩ = .ok entries ∧ (entries.map Prod.fst).Nodup ∧
      (∀ e ∈ entries, IsFileName e.1) ∧ listDocuments f ⟨"."⟩ = .ok docs ∧
      ¬ (docs.map Document.id).Nodup ∧
      ∃ c values, (ex.extractCorpus read (fun _ _ => false) docs ⟨(), []⟩).1 = .ok c ∧
        c.interrupted = false ∧ c.documents = 2 ∧ c.fields.find? "No" = some values ∧
        values.size = 1 := by
  intro f ex read
  have hlist : f.listDirectory ⟨"."⟩ = .ok [("a.PDF", .file (.pdf (some ["No 7"]))),
    ("a.pdf", .file (.pdf (some ["No 8"])))] := rfl
  have hdocs : listDocuments f ⟨"."⟩ = .ok [⟨"a", ⟨"./a.PDF"⟩⟩, ⟨"a", ⟨"./a.pdf"⟩⟩] :=
    listDocuments_of_sorted rfl hlist (by decide) (by decide)
  have hrun : (ex.extractCorpus read (fun _ _ => false)
      [⟨"a", ⟨"./a.PDF"⟩⟩, ⟨"a", ⟨"./a.pdf"⟩⟩] ⟨(), []⟩).1 = .ok _ := rfl
  have hsize := (Corpus.size_column hrun rfl).2 "No" _ rfl
  exact ⟨_, _, hlist, by decide, by decide, hdocs, by decide, _, _, hrun, rfl, rfl, rfl, hsize⟩

end PolicyFields
