import PolicyFields.Proofs.Documents
import PolicyFields.Proofs.Files.Ahead
import PolicyFields.Proofs.Text.Lower
import PolicyFields.Settings

/-!
# The files of a company

Work for some companies leaves alone what other companies read and write, if the four directories of
the layout lie apart.

* `Layout.IsCompanyId` — a text that can be the id of a company.
* `Layout.Fits` — files that are a tree in which the directories of a layout lie apart.
* `Layout.Later` — files after work for some companies.
* `Layout.Later.status_config`, `Later.listDocuments_eq`, `Later.documentText_eq` — **the rules, the
  documents and their texts are as they were for every company**.
* `Layout.Later.status_artifact` — **so are the artifacts of the other companies**.
-/

namespace PolicyFields

namespace Layout

open Files (Ahead)
open PolicyFields.Path (IsFileName)

/-! ## Names -/

/-- A text that can be the id of a company: it names one place in a directory, or nothing. -/
structure IsCompanyId (id : String) : Prop where
  no_slash : '/' ∉ id.toList
  ne_here : id ≠ "."
  ne_up : id ≠ ".."

instance (id : String) : Decidable (IsCompanyId id) :=
  decidable_of_iff ('/' ∉ id.toList ∧ id ≠ "." ∧ id ≠ "..")
    ⟨fun ⟨h₁, h₂, h₃⟩ => ⟨h₁, h₂, h₃⟩, fun ⟨h₁, h₂, h₃⟩ => ⟨h₁, h₂, h₃⟩⟩

variable {id : String}

theorem IsCompanyId.isFileName (h : IsCompanyId id) (hne : id ≠ "") : IsFileName id :=
  ⟨h.no_slash, hne, h.ne_here, h.ne_up⟩

/-- A name with an ending is the name of a file. -/
theorem isFileName_append {ending : String} (h : '/' ∉ id.toList) (hslash : '/' ∉ ending.toList)
    (hending : 2 < ending.toList.length) : IsFileName (id ++ ending) := by
  have hlength {s : String} (hs : id ++ ending = s) : 2 < s.toList.length := by
    rw [← hs, String.toList_append, List.length_append]
    omega
  refine ⟨?_, fun hs => ?_, fun hs => ?_, fun hs => ?_⟩
  · rw [String.toList_append, List.mem_append, not_or]
    exact ⟨h, hslash⟩
  · exact absurd (hlength hs) (by decide)
  · exact absurd (hlength hs) (by decide)
  · exact absurd (hlength hs) (by decide)

theorem IsCompanyId.artifact (h : IsCompanyId id) : IsFileName (id ++ ".json") :=
  isFileName_append h.no_slash (by decide) (by decide)

theorem IsCompanyId.mapping (h : IsCompanyId id) : IsFileName (id ++ "_map.json") :=
  isFileName_append h.no_slash (by decide) (by decide)

theorem IsCompanyId.extraction (h : IsCompanyId id) : IsFileName (Text.lower id ++ ".json") :=
  isFileName_append (mt (Text.mem_lower_iff (by decide)).1 h.no_slash) (by decide) (by decide)

theorem artifact_inj {id' : String} (h : id ++ ".json" = id' ++ ".json") : id = id' := by
  have hlist := congrArg String.toList h
  rw [String.toList_append, String.toList_append] at hlist
  exact String.toList_inj.1 (List.append_cancel_right hlist)

/-! ## Places -/

/-- Two places neither of which is below the other. -/
def Apart (l m : Location) : Prop := ¬l <+: m ∧ ¬m <+: l

instance (l m : Location) : Decidable (Apart l m) := inferInstanceAs (Decidable (_ ∧ _))

variable (L : Layout) (f : Files)

/-- What lies on the way to the artifacts. -/
def way (l : Location) : Prop := l <+: f.place L.outputDir ∨ l <+: f.place L.mappedDir

/-- The places of the artifacts of some companies. -/
def artifacts (X : String → Prop) (l : Location) : Prop :=
  ∃ id, X id ∧ (l = f.place L.outputDir ++ [id ++ ".json"] ∨
    l = f.place L.mappedDir ++ [id ++ ".json"])

/-- Files that are a tree in which the directories of a layout lie apart, and in which the paths of
the artifacts go up only from directories that are there. -/
structure Fits : Prop where
  tree : f.IsTree
  apart : [L.configDir, L.pdfDir, L.outputDir, L.mappedDir].Pairwise fun p q =>
    Apart (f.place p) (f.place q)
  output : f.Firm L.outputDir
  mapped : f.Firm L.mappedDir

instance : Decidable (L.Fits f) :=
  decidable_of_iff (f.IsTree ∧ [L.configDir, L.pdfDir, L.outputDir, L.mappedDir].Pairwise
      (fun p q => Apart (f.place p) (f.place q)) ∧ f.Firm L.outputDir ∧ f.Firm L.mappedDir)
    ⟨fun ⟨h₁, h₂, h₃, h₄⟩ => ⟨h₁, h₂, h₃, h₄⟩, fun ⟨h₁, h₂, h₃, h₄⟩ => ⟨h₁, h₂, h₃, h₄⟩⟩

/-- `g` is `f` after work for the companies of a set. -/
structure Later (X : String → Prop) (g : Files) : Prop where
  tree : g.IsTree
  ahead : Ahead (L.way f) (L.artifacts f X) f g

variable {L f} {g k : Files} {X Y : String → Prop} {l : Location}

theorem way_eq (h : Ahead (L.way f) (L.artifacts f X) f g) : L.way g = L.way f := by
  unfold way
  rw [h.place_eq, h.place_eq]

theorem artifacts_eq (h : Ahead (L.way f) (L.artifacts f X) f g) (Y : String → Prop) :
    L.artifacts g Y = L.artifacts f Y := by
  unfold artifacts
  rw [h.place_eq, h.place_eq]

namespace Later

theorem refl (hf : f.IsTree) (X : String → Prop) : L.Later f X f := ⟨hf, .refl _ _ f⟩

theorem mono (hX : ∀ id, X id → Y id) (h : L.Later f X g) : L.Later f Y g :=
  ⟨h.tree, h.ahead.mono fun _ ⟨id, hid, hl⟩ => ⟨id, hX id hid, hl⟩⟩

theorem trans (h : L.Later f X g) (h' : L.Later g X k) : L.Later f X k := by
  refine ⟨h'.tree, h.ahead.trans ?_⟩
  rw [← way_eq h.ahead, ← artifacts_eq h.ahead]
  exact h'.ahead

theorem fits (h : L.Later f X g) (hfits : L.Fits f) : L.Fits g where
  tree := h.tree
  apart := by
    simp only [h.ahead.place_eq]
    exact hfits.apart
  output := h.ahead.firm hfits.output
  mapped := h.ahead.firm hfits.mapped

end Later

namespace Fits

theorem config_apart (h : L.Fits f) : Apart (f.place L.configDir) (f.place L.outputDir) ∧
    Apart (f.place L.configDir) (f.place L.mappedDir) := by
  have hconfig := (List.pairwise_cons.1 h.apart).1
  exact ⟨hconfig L.outputDir (by simp), hconfig L.mappedDir (by simp)⟩

theorem pdf_apart (h : L.Fits f) : Apart (f.place L.pdfDir) (f.place L.outputDir) ∧
    Apart (f.place L.pdfDir) (f.place L.mappedDir) := by
  have hpdf := (List.pairwise_cons.1 (List.pairwise_cons.1 h.apart).2).1
  exact ⟨hpdf L.outputDir (by simp), hpdf L.mappedDir (by simp)⟩

theorem artifacts_apart (h : L.Fits f) :
    Apart (f.place L.outputDir) (f.place L.mappedDir) :=
  (List.pairwise_cons.1 (List.pairwise_cons.1 (List.pairwise_cons.1 h.apart).2).2).1 L.mappedDir
    (by simp)

end Fits

theorem Apart.symm {l m : Location} (h : Apart l m) : Apart m l := ⟨h.2, h.1⟩

theorem not_prefix_of_concat {d l : Location} {n : String} (h : Apart d l) :
    ¬d <+: l ++ [n] := by
  intro hprefix
  rcases List.prefix_concat_iff.1 hprefix with heq | hprefix
  · exact h.2 (heq ▸ List.prefix_append l [n])
  · exact h.1 hprefix

/-- What lies below a directory apart from those of the artifacts is not touched. -/
theorem untouched_of_apart {d : Location} (h : Apart d (f.place L.outputDir) ∧
    Apart d (f.place L.mappedDir)) (hl : d <+: l) : ¬L.way f l ∧ ¬L.artifacts f X l := by
  constructor
  · rintro (hout | hmapped)
    · exact h.1.1 (hl.trans hout)
    · exact h.2.1 (hl.trans hmapped)
  · rintro ⟨id, -, rfl | rfl⟩
    · exact not_prefix_of_concat h.1 hl
    · exact not_prefix_of_concat h.2 hl

/-- The artifact of a company in one of two directories is on no way to them, and it is none of
other companies. -/
theorem artifact_untouched {d e : Location} (h : Apart d e) (hX : ¬X id) :
    ¬(d ++ [id ++ ".json"] <+: d ∨ d ++ [id ++ ".json"] <+: e) ∧
      ¬∃ other, X other ∧ (d ++ [id ++ ".json"] = d ++ [other ++ ".json"] ∨
        d ++ [id ++ ".json"] = e ++ [other ++ ".json"]) := by
  constructor
  · rintro (hd | he)
    · exact absurd hd.length_le (by simp)
    · exact h.1 ((List.prefix_append _ _).trans he)
  · rintro ⟨other, hother, heq | heq⟩
    · have hlast := List.singleton_inj.1 (List.append_inj' heq rfl).2
      exact hX (artifact_inj hlast ▸ hother)
    · exact h.1 ((List.append_inj' heq rfl).1 ▸ List.prefix_rfl)

/-- One of the two directories of artifacts. -/
def IsArtifactDir (L : Layout) (dir : Path) : Prop := dir = L.outputDir ∨ dir = L.mappedDir

variable {dir : Path}

theorem IsArtifactDir.way (hdir : L.IsArtifactDir dir) (hl : l <+: f.place dir) : L.way f l := by
  rcases hdir with rfl | rfl
  · exact .inl hl
  · exact .inr hl

theorem IsArtifactDir.artifacts (hdir : L.IsArtifactDir dir) (hX : X id) :
    L.artifacts f X (f.place dir ++ [id ++ ".json"]) := by
  rcases hdir with rfl | rfl
  · exact ⟨id, hX, .inl rfl⟩
  · exact ⟨id, hX, .inr rfl⟩

theorem Fits.firm (h : L.Fits f) (hdir : L.IsArtifactDir dir) : f.Firm dir := by
  rcases hdir with rfl | rfl
  · exact h.output
  · exact h.mapped

theorem Fits.untouched (h : L.Fits f) (hdir : L.IsArtifactDir dir) (hX : ¬X id) :
    ¬L.way f (f.place dir ++ [id ++ ".json"]) ∧
      ¬L.artifacts f X (f.place dir ++ [id ++ ".json"]) := by
  rcases hdir with rfl | rfl
  · exact artifact_untouched h.artifacts_apart hX
  · obtain ⟨hway, hartifact⟩ := artifact_untouched h.artifacts_apart.symm hX
    exact ⟨fun hl => hway hl.symm,
      fun ⟨other, hother, heq⟩ => hartifact ⟨other, hother, heq.symm⟩⟩

/-- The artifacts are on no way to them. -/
theorem Fits.not_way (h : L.Fits f) (hdir : L.IsArtifactDir dir) (id : String) :
    ¬L.way f (f.place dir ++ [id ++ ".json"]) :=
  (h.untouched (X := fun _ => False) hdir fun h => h).1

/-! ## What a company reads -/

namespace Later

/-- Nothing has changed below a directory apart from those of the artifacts. -/
theorem node?_below (h : L.Later f X g) {d : Location} (hd : Apart d (f.place L.outputDir) ∧
    Apart d (f.place L.mappedDir)) (hl : d <+: l) : g.node? l = f.node? l := by
  obtain ⟨hway, hartifact⟩ := untouched_of_apart (X := X) hd hl
  exact h.ahead.node?_eq hway hartifact

variable (h : L.Later f X g) (hfits : L.Fits f)

include h hfits

theorem status_config (hleads : f.Leads L.configDir) {dir name : String} (hdir : IsFileName dir)
    (hname : IsFileName name) : (g.status ((L.configDir.child dir).child name)).toOption =
      (f.status ((L.configDir.child dir).child name)).toOption := by
  have hsub : g.Leads (L.configDir.child dir) ↔ f.Leads (L.configDir.child dir) := by
    rw [Files.leads_child hdir, Files.leads_child hdir, h.ahead.place_eq,
      h.node?_below hfits.config_apart (List.prefix_append _ _)]
    simp only [hleads, h.ahead.leads hleads]
  rw [Files.toOption_status_child hname, Files.toOption_status_child hname]
  simp only [hsub]
  rw [h.ahead.place_eq, Files.place_child f _ hdir, List.append_assoc,
    h.node?_below hfits.config_apart (List.prefix_append _ _)]

theorem status_extractionConfig (hleads : f.Leads L.configDir) (hid : IsCompanyId id) :
    (g.status (L.extractionConfig id)).toOption = (f.status (L.extractionConfig id)).toOption :=
  h.status_config hfits hleads (by decide) hid.extraction

theorem status_mappingConfig (hleads : f.Leads L.configDir) (hid : IsCompanyId id) :
    (g.status (L.mappingConfig id)).toOption = (f.status (L.mappingConfig id)).toOption :=
  h.status_config hfits hleads (by decide) hid.mapping

theorem node?_artifact (hdir : L.IsArtifactDir dir) (hX : ¬X id) :
    g.node? (f.place dir ++ [id ++ ".json"]) = f.node? (f.place dir ++ [id ++ ".json"]) := by
  obtain ⟨hway, hartifact⟩ := hfits.untouched hdir hX
  exact h.ahead.node?_eq hway hartifact

/-- The artifacts of other companies are as they were. -/
theorem status_artifact (hdir : L.IsArtifactDir dir) (hid : IsCompanyId id) (hX : ¬X id) :
    (g.status (dir.child (id ++ ".json"))).toOption =
      (f.status (dir.child (id ++ ".json"))).toOption := by
  rw [h.tree.toOption_status_child (h.ahead.firm (hfits.firm hdir)) hid.artifact,
    hfits.tree.toOption_status_child (hfits.firm hdir) hid.artifact, h.ahead.place_eq,
    h.node?_artifact hfits hdir hX]

end Later

/-- The documents of a company are in or below the directory of all documents. -/
theorem companyPdfDir_below (hid : IsCompanyId id) :
    f.place L.pdfDir <+: f.place (L.companyPdfDir id) ∧
      (f.Leads (L.companyPdfDir id) → f.Leads L.pdfDir) := by
  unfold companyPdfDir
  by_cases hne : id = ""
  · rw [hne, Files.place_child_blank, Files.leads_child_blank]
    exact ⟨List.prefix_rfl, fun hdir => hdir⟩
  · rw [Files.place_child f _ (hid.isFileName hne), Files.leads_child (hid.isFileName hne)]
    exact ⟨List.prefix_append _ _, And.left⟩

namespace Later

variable (h : L.Later f X g) (hfits : L.Fits f) (hleads : f.Leads L.pdfDir)

include h hfits hleads

theorem leads_companyPdfDir (hid : IsCompanyId id) :
    g.Leads (L.companyPdfDir id) ↔ f.Leads (L.companyPdfDir id) := by
  unfold companyPdfDir
  by_cases hne : id = ""
  · simp only [hne, Files.leads_child_blank, hleads, h.ahead.leads hleads]
  · rw [Files.leads_child (hid.isFileName hne), Files.leads_child (hid.isFileName hne),
      h.ahead.place_eq, h.node?_below hfits.pdf_apart (List.prefix_append _ _)]
    simp only [hleads, h.ahead.leads hleads]

/-- A company has the documents that it had. -/
theorem listDocuments_eq (hid : IsCompanyId id) :
    listDocuments g (L.companyPdfDir id) = listDocuments f (L.companyPdfDir id) := by
  have hdirectory : g.isDirectory (L.companyPdfDir id) = f.isDirectory (L.companyPdfDir id) := by
    rw [Bool.eq_iff_iff, Files.isDirectory_iff, Files.isDirectory_iff,
      h.leads_companyPdfDir hfits hleads hid]
  unfold listDocuments
  rw [hdirectory]
  cases hthere : f.isDirectory (L.companyPdfDir id) with
  | false => rfl
  | true =>
    obtain ⟨htext, hdir⟩ := Files.isDirectory_iff.1 hthere
    have hchildren : g.children (f.place (L.companyPdfDir id)) =
        f.children (f.place (L.companyPdfDir id)) := h.ahead.children_eq fun n =>
      untouched_of_apart hfits.pdf_apart
        ((companyPdfDir_below hid).1.trans (List.prefix_append _ [n]))
    rw [Files.listDirectory_of_leads htext hdir,
      Files.listDirectory_of_leads htext ((h.leads_companyPdfDir hfits hleads hid).2 hdir),
      h.ahead.place_eq, hchildren]

/-- The documents of a company have the texts that they had. -/
theorem documentText_eq (hid : IsCompanyId id) {docs : List Document}
    (hdocs : listDocuments f (L.companyPdfDir id) = .ok docs) :
    ∀ d ∈ docs, documentText g d.path = documentText f d.path := by
  intro d hd
  obtain ⟨entries, hthere, hlist, -, rfl⟩ := listDocuments_eq_ok_iff.1 hdocs
  obtain ⟨htext, hdir⟩ := Files.isDirectory_iff.1 hthere
  obtain rfl := Except.ok.inj ((Files.listDirectory_of_leads htext hdir).symm.trans hlist)
  rw [documentPaths_eq (hfits.tree.named _)] at hd
  obtain ⟨p, hp, rfl⟩ := List.mem_map.1 hd
  obtain ⟨n, hn, rfl⟩ := List.mem_map.1 (List.mem_mergeSort.1 hp)
  obtain ⟨-, c, hc⟩ := mem_documentNames_iff.1 hn
  have hname : IsFileName n := hfits.tree.named _ _ hc
  have hstatus : g.status ((L.companyPdfDir id).child n) =
      f.status ((L.companyPdfDir id).child n) := by
    rw [Files.status_child hname hdir, Files.status_child hname
      ((h.leads_companyPdfDir hfits hleads hid).2 hdir), h.ahead.place_eq,
      h.node?_below hfits.pdf_apart ((companyPdfDir_below hid).1.trans (List.prefix_append _ [n]))]
  unfold documentText Document.ofPath Files.read
  rw [hstatus]

end Later

end Layout

end PolicyFields
