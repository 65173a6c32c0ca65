import PolicyFields.CommandLine.Pipeline
import PolicyFields.Proofs.CommandLine.Yields
import PolicyFields.Proofs.Extraction.Lockstep
import PolicyFields.Proofs.Layout
import PolicyFields.Proofs.Mapping.Processing

/-!
# One company in two places

Both stages for a company are done on some files and on those files after work for other companies.
They come to the same result and leave the same artifacts.

* `companyCorpus_eq` — a company's documents are extracted as they were.
* `writeArtifact_alike` — an artifact is written alike.
* `batchExtract_alike`, `mapWith_alike` — each stage is done alike.
* `batchCompany_alike` — **a company comes to the same in both places**.
-/

namespace PolicyFields

open Layout (IsCompanyId)
open PolicyFields.Path (IsFileName)

variable {f g : Files} {p : Path} {X : String → Prop} {id : String}

/-! ## Files that are read -/

namespace Files

theorem has_eq (f : Files) (p : Path) : f.has p = (f.status p).toOption.isSome := by
  unfold has
  cases f.status p <;> rfl

theorem has_congr (h : (g.status p).toOption = (f.status p).toOption) : g.has p = f.has p := by
  rw [has_eq, has_eq, h]

/-- Where there is something, the same is found as long as it is there. -/
theorem status_congr (h : (g.status p).toOption = (f.status p).toOption) (hf : f.has p = true) :
    g.status p = f.status p := by
  rw [has_eq] at hf
  obtain ⟨n, hn⟩ := Option.isSome_iff_exists.1 hf
  have hok {k : Files} (hk : (k.status p).toOption = some n) : k.status p = .ok n := by
    cases hstatus : k.status p with
    | error e =>
      rw [hstatus] at hk
      cases hk
    | ok m =>
      rw [hstatus] at hk
      rw [Option.some.inj hk]
  rw [hok hn, hok (h.trans hn)]

theorem readText_congr (h : g.status p = f.status p) : g.readText p = f.readText p := by
  unfold readText read
  rw [h]

end Files

open Files (has_congr status_congr readText_congr)

theorem readConfigFile_congr {α : Type} (read : Json.Tree → Except Json.Error α)
    (h : (g.status p).toOption = (f.status p).toOption) :
    readConfigFile read g p = readConfigFile read f p := by
  unfold readConfigFile
  rw [has_congr h]
  by_cases hf : f.has p = true
  · rw [if_pos hf, if_pos hf, readText_congr (status_congr h hf)]
  · rw [if_neg hf, if_neg hf]

theorem readArtifact_congr (h : (g.status p).toOption = (f.status p).toOption)
    (hf : f.has p = true) : readArtifact g p = readArtifact f p := by
  unfold readArtifact readJsonFile
  rw [readText_congr (status_congr h hf)]

namespace Extraction

/-- What is collected depends on the texts of the documents only. -/
theorem Extractor.extractCorpus_readDocument (ex : Extractor) {documents : List Document}
    (h : ∀ d ∈ documents, documentText g d.path = documentText f d.path) :
    (ex.extractCorpus CommandLine.readDocument (fun _ _ => false) documents ⟨g, []⟩).1 =
      (ex.extractCorpus CommandLine.readDocument (fun _ _ => false) documents ⟨f, []⟩).1 := by
  let rel : Session Files → Session Files → Prop := fun s s' =>
    s.source = g ∧ s'.source = f ∧ s.cache = s'.cache
  have hmirrors : Mirrors rel (fun p => documentText g p = documentText f p)
      CommandLine.readDocument CommandLine.readDocument := by
    rintro p hp ⟨source, cache⟩ ⟨source', cache'⟩ ⟨hg, hf, hcache⟩
    rw [show source = g from hg, show source' = f from hf, show cache = cache' from hcache]
    unfold cachedText CommandLine.readDocument
    cases cache'.lookup p.components with
    | some text => exact ⟨rfl, rfl, rfl, rfl⟩
    | none =>
      dsimp only
      rw [hp]
      cases documentText f p <;> exact ⟨rfl, rfl, rfl, rfl⟩
  exact (ex.extractCorpus_inStep hmirrors (fun _ _ _ _ => rfl) h ⟨g, []⟩ ⟨f, []⟩
    ⟨rfl, rfl, rfl⟩).1

end Extraction

/-! ## What a company needs -/

namespace CommandLine

open Extraction (RuleSet Extractor)

variable {s : Settings} {r : BatchRequest}

/-- The directories are there without which nothing is written for any company. -/
def Ready (s : Settings) (r : BatchRequest) (f : Files) : Prop :=
  (r.skipExtraction = true ∨ f.Leads s.paths.pdfDir) ∧ f.Leads s.paths.configDir

theorem leads_of_has_config {dir name : String} (hdir : IsFileName dir) (hname : IsFileName name)
    (h : f.has ((p.child dir).child name) = true) : f.Leads p := by
  unfold Files.has at h
  cases hstatus : f.status ((p.child dir).child name) with
  | error e =>
    rw [hstatus] at h
    cases h
  | ok n => exact ((Files.leads_child hdir).1 (Files.leads_of_status_child hname hstatus).1).1

/-- A company whose documents have been extracted has a directory of documents and rules. -/
theorem leads_of_companyCorpus (hid : IsCompanyId id) {limit : Option Nat} {c : Bool}
    {corpus : Extraction.Corpus} (h : companyCorpus f s id none limit c = .ok corpus) :
    f.Leads s.paths.pdfDir ∧ f.Leads s.paths.configDir := by
  obtain ⟨documents, hdocuments, h⟩ := Traversal.bind_eq_ok_iff.1 h
  obtain ⟨rules, hrules, -⟩ := Traversal.bind_eq_ok_iff.1 h
  obtain ⟨_, hthere, -⟩ := listDocuments_eq_ok_iff.1 hdocuments
  refine ⟨(Layout.companyPdfDir_below hid).2 (Files.isDirectory_iff.1 hthere).2, ?_⟩
  have hhas : f.has (s.paths.extractionConfig id) = true := by
    by_contra hnot
    unfold RuleSet.load readConfigFile at hrules
    rw [if_neg hnot] at hrules
    cases hrules
  exact leads_of_has_config (by decide) hid.extraction hhas

theorem companyCorpus_of {documents : List Document} {rules : RuleSet} {c : Bool}
    (hdocuments : listDocuments f (s.paths.companyPdfDir id) = .ok documents)
    (hrules : RuleSet.load f (s.paths.extractionConfig id) = .ok rules) :
    companyCorpus f s id none none c =
      ((Extractor.make id rules (extractionOptions s) c).extractCorpus readDocument
        (fun _ _ => false) documents ⟨f, []⟩).1 := by
  unfold companyCorpus
  simp only [Option.getD_none, hdocuments, hrules]
  rfl

/-- A company without documents comes to nothing. -/
theorem companyCorpus_of_error {e : Failure} {c : Bool}
    (h : listDocuments f (s.paths.companyPdfDir id) = .error e) :
    companyCorpus f s id none none c = .error e := by
  unfold companyCorpus
  simp only [Option.getD_none, h]
  rfl

/-- A company's documents are extracted as they were. -/
theorem companyCorpus_eq (h : s.paths.Later f X g) (hfits : s.paths.Fits f) (hid : IsCompanyId id)
    (hpdf : f.Leads s.paths.pdfDir) (hconfig : f.Leads s.paths.configDir) (limit : Option Nat)
    (c : Bool) : companyCorpus g s id none limit c = companyCorpus f s id none limit c := by
  have hload : RuleSet.load g (s.paths.extractionConfig id) =
      RuleSet.load f (s.paths.extractionConfig id) := by
    unfold RuleSet.load
    rw [readConfigFile_congr _ (h.status_extractionConfig hfits hconfig hid)]
  unfold companyCorpus
  change (listDocuments g (s.paths.companyPdfDir id) >>= _) =
    (listDocuments f (s.paths.companyPdfDir id) >>= _)
  rw [h.listDocuments_eq hfits hpdf hid, hload]
  cases hdocuments : listDocuments f (s.paths.companyPdfDir id) with
  | error e => dsimp only [bind, Except.bind]
  | ok documents =>
    have htexts := h.documentText_eq hfits hpdf hid hdocuments
    dsimp only [bind, Except.bind]
    cases (RuleSet.load f (s.paths.extractionConfig id)).mapError Failure.config with
    | error e => rfl
    | ok rules =>
      refine Extractor.extractCorpus_readDocument _ fun d hd => ?_
      cases limit with
      | none => exact htexts d hd
      | some n => exact htexts d (List.mem_of_mem_take hd)

/-! ## Artifacts that are written -/

/-- What has become of files when a company's artifact was written or could not be: they are a tree,
and nothing else has changed but that there may be more directories on the way. -/
structure Wrote (L : Layout) (l : Location) (f f' : Files) : Prop where
  tree : f'.IsTree
  ahead : Files.Ahead (L.way f) (Eq l) f f'

section

variable {L : Layout} {dir : Path}

theorem Wrote.later {f' : Files} {l : Location} (h : Wrote L l f f') (hdir : L.IsArtifactDir dir)
    (hl : l = f.place dir ++ [id ++ ".json"]) : L.Later f (fun other => other = id) f' := by
  refine ⟨h.tree, h.ahead.mono ?_⟩
  rintro m rfl
  exact hl ▸ hdir.artifacts rfl

theorem wrote_writeArtifact (hfits : L.Fits f) (hid : IsCompanyId id) (hdir : L.IsArtifactDir dir)
    (v : Json.Value) : Wrote L (f.place dir ++ [id ++ ".json"]) f
      (writeArtifact f (dir.child (id ++ ".json")) v).2 := by
  have hnot := hfits.not_way hdir id
  have hdone : (f.writeWithParents (dir.child (id ++ ".json")) (.text v.pretty)).2.IsTree ∧
      Files.Ahead (L.way f) (Eq (f.place dir ++ [id ++ ".json"])) f
        (f.writeWithParents (dir.child (id ++ ".json")) (.text v.pretty)).2 :=
    hfits.tree.writeWithParents_child (hfits.firm hdir) hid.artifact (fun _ => hdir.way) rfl hnot _
  exact ⟨hdone.1, hdone.2⟩

/-- The raw artifact stays when the mapped one is written. -/
theorem Wrote.node?_raw {f' : Files} {l : Location} (h : Wrote L l f f') (hfits : L.Fits f)
    (hl : l = f.place L.mappedDir ++ [id ++ ".json"]) :
    f'.node? (f.place L.outputDir ++ [id ++ ".json"]) =
      f.node? (f.place L.outputDir ++ [id ++ ".json"]) := by
  refine h.ahead.node?_eq (hfits.not_way (.inl rfl) id) fun heq => ?_
  have hdirs := (List.append_inj' (hl.symm.trans heq) rfl).1
  exact hfits.artifacts_apart.2 (hdirs ▸ List.prefix_rfl)

/-- At the place `l` an artifact was written to the files `f` and another to `g`, which are ahead of
`f` by work for other companies, or neither could be. -/
structure WroteAlike (L : Layout) (X : String → Prop) (l : Location) (f g : Files)
    (v v' : Json.Value) (written : Except Failure Unit) (f' g' : Files) : Prop where
  here : Wrote L l f f'
  there : Wrote L l g g'
  nodes : written = .ok () → f'.node? l = some (.file (.text v.pretty)) ∧
    g'.node? l = some (.file (.text v'.pretty))
  later : v = v' ∨ written ≠ .ok () → L.Later f' X g'

/-- An artifact of a company is written alike to files of which one is ahead by work for others. -/
theorem writeArtifact_alike (h : L.Later f X g) (hfits : L.Fits f) (hid : IsCompanyId id)
    (hX : ¬X id) (hdir : L.IsArtifactDir dir) (v v' : Json.Value) : ∃ written f' g',
      writeArtifact f (dir.child (id ++ ".json")) v = (written, f') ∧
      writeArtifact g (dir.child (id ++ ".json")) v' = (written, g') ∧
      WroteAlike L X (f.place dir ++ [id ++ ".json"]) f g v v' written f' g' := by
  have hf := wrote_writeArtifact hfits hid hdir v
  have hg := wrote_writeArtifact (h.fits hfits) hid hdir v'
  rw [h.ahead.place_eq] at hg
  obtain ⟨hway, hartifact⟩ := hfits.untouched hdir hX
  have halike := h.ahead.writeWithParents_child hfits.tree h.tree (hfits.firm hdir) hid.artifact
    (fun _ => hdir.way) hway hartifact (.text v.pretty) (.text v'.pretty)
  unfold writeArtifact at hf hg ⊢
  have hlater {f' g' : Files} (hf' : L.Later f (fun other => other = id) f') (hg' : g'.IsTree)
      (hahead : Files.Ahead (L.way f) (L.artifacts f X) f' g') : L.Later f' X g' := by
    refine ⟨hg', ?_⟩
    rw [Layout.way_eq hf'.ahead, Layout.artifacts_eq hf'.ahead]
    exact hahead
  rcases halike with ⟨e, f', g', hf', hg', hahead⟩ | ⟨f', g', hf', hg', hnode, hnode', hahead⟩
  · rw [hf'] at hf ⊢
    rw [hg'] at hg ⊢
    exact ⟨_, f', g', rfl, rfl, hf, hg, nofun, fun _ => hlater (hf.later hdir rfl) hg.tree hahead⟩
  · rw [hf'] at hf ⊢
    rw [hg'] at hg ⊢
    refine ⟨_, f', g', rfl, rfl, hf, hg, fun _ => ⟨hnode, hnode'⟩, fun hsame => ?_⟩
    rcases hsame with rfl | hfailed
    · exact hlater (hf.later hdir rfl) hg.tree (hahead rfl)
    · exact absurd rfl hfailed

end

/-! ## What each stage comes to -/

section

variable {around : Surroundings} {mapping input output : Path} {f' : Files}

theorem batchExtract_of_skip (hskip : r.skipExtraction = true) : (batchExtract s r id).Yields f
    (if f.has (s.paths.rawArtifact id) = true then .ok none
      else .error (.said ("No raw artifact at " ++ (s.paths.rawArtifact id).text))) f := by
  unfold batchExtract
  simp only [hskip, if_true]
  refine .get_bind fun printed => ?_
  by_cases hraw : f.has (s.paths.rawArtifact id) = true
  · simp only [hraw, Bool.not_true, Bool.false_eq_true, if_false, if_true]
    exact .pure none f
  · simp only [Bool.not_eq_true _ ▸ hraw, Bool.not_false, Bool.false_eq_true, if_false, if_true]
    exact .bind_error (.fail _ f)

theorem batchExtract_of_error (hskip : r.skipExtraction = false) {e : Failure}
    (h : companyCorpus f s id none none (r.continueOnError || s.extraction.continueOnError) =
      .error e) : (batchExtract s r id).Yields f (.error (.failure e)) f := by
  unfold batchExtract
  simp only [hskip, Bool.false_eq_true, if_false]
  exact .bind_error (.fromFiles_error h)

theorem batchExtract_of_ok (hskip : r.skipExtraction = false) {corpus : Extraction.Corpus}
    {written : Except Failure Unit}
    (h : companyCorpus f s id none none (r.continueOnError || s.extraction.continueOnError) =
      .ok corpus)
    (hwrite : writeArtifact f (s.paths.rawArtifact id) corpus.artifact = (written, f')) :
    (batchExtract s r id).Yields f
      ((written.mapError .failure).map fun _ => some corpus.documents) f' := by
  unfold batchExtract
  simp only [hskip, Bool.false_eq_true, if_false]
  have hstep : (onFiles Complaint.failure fun f =>
      writeArtifact f (s.paths.rawArtifact id) corpus.artifact).Yields f
        (written.mapError .failure) f' := .onFiles hwrite
  refine .bind (.fromFiles_ok h) ?_
  cases written with
  | error e => exact .bind_error hstep
  | ok u => exact .bind hstep (.pure _ f')

theorem mapWith_of_error {e : ConfigError}
    (h : Mapping.Config.load (mappingOptions s) f mapping = .error e) :
    (mapWith around s mapping input output).Yields f (.error (.config e)) f :=
  .bind_error (.fromFiles_error h)

theorem mapWith_of_ok {c : Mapping.Config} {result : Except Failure Mapping.Artifact}
    (h : Mapping.Config.load (mappingOptions s) f mapping = .ok c)
    (hmap : c.mapFile f input output (some around.time) = (result, f')) :
    (mapWith around s mapping input output).Yields f (result.mapError .failure) f' :=
  .bind (.fromFiles_ok h) (.onFiles hmap)

theorem batchCompany_of_error {c : Complaint} (h : (batchExtract s r id).Yields f (.error c) f') :
    (batchCompany around s r id).Yields f (.error c) f' :=
  .bind_error h

theorem batchCompany_of_unmapped {n : Option Nat} (h : (batchExtract s r id).Yields f (.ok n) f')
    (hmapping : f'.has (s.paths.mappingConfig id) = false) :
    (batchCompany around s r id).Yields f (.ok ⟨n, false⟩) f' := by
  refine .bind h (.get_bind fun printed => ?_)
  simp only [hmapping, Bool.false_eq_true, if_false]
  exact .pure _ f'

theorem batchCompany_of_mapped {n : Option Nat} {f'' : Files}
    {result : Except Complaint Mapping.Artifact}
    (h : (batchExtract s r id).Yields f (.ok n) f')
    (hmapping : f'.has (s.paths.mappingConfig id) = true)
    (hmap : (mapWith around s (s.paths.mappingConfig id) (s.paths.rawArtifact id)
      (s.paths.mappedArtifact id)).Yields f' result f'') :
    (batchCompany around s r id).Yields f (result.map fun _ => ⟨n, true⟩) f'' := by
  refine .bind h (.get_bind fun printed => ?_)
  simp only [hmapping, if_true]
  cases result with
  | error c => exact .bind_error hmap
  | ok a => exact .bind hmap (.pure _ f'')

end

/-! ## Both stages in two places -/

/-- The same, but that it may be an artifact that was mapped at another time. -/
inductive Restamped (time time' : String) : Option Node → Option Node → Prop
  | same (n : Option Node) : Restamped time time' n n
  | stamped (a : Mapping.Artifact) : Restamped time time'
      (some (.file (.text (a.toValue (some time)).pretty)))
      (some (.file (.text (a.toValue (some time')).pretty)))

theorem Restamped.eq {time : String} {n n' : Option Node} (h : Restamped time time n n') :
    n = n' := by
  cases h <;> rfl

theorem rawDir (L : Layout) : L.IsArtifactDir L.outputDir := .inl rfl

theorem mappedDir (L : Layout) : L.IsArtifactDir L.mappedDir := .inr rfl

/-- Documents are extracted alike. Whenever this succeeds the raw artifact is there, and something
is written only if the directories are there that all companies need. -/
theorem batchExtract_alike (h : s.paths.Later f X g) (hfits : s.paths.Fits f)
    (hid : IsCompanyId id) (hX : ¬X id) (hready : g = f ∨ Ready s r f) :
    ∃ result f' g', (batchExtract s r id).Yields f result f' ∧
      (batchExtract s r id).Yields g result g' ∧
      s.paths.Later f (fun other => other = id) f' ∧
      s.paths.Later g (fun other => other = id) g' ∧ s.paths.Later f' X g' ∧
      (f' = f ∧ g' = g ∨ Ready s r f) ∧
      ∀ n, result = .ok n → f'.has (s.paths.rawArtifact id) = true ∧
        (f'.Leads s.paths.configDir → Ready s r f) := by
  have hrefl := Layout.Later.refl (L := s.paths) hfits.tree fun other => other = id
  have hrefl' := Layout.Later.refl (L := s.paths) h.tree fun other => other = id
  cases hskip : r.skipExtraction with
  | true =>
    have hf : (batchExtract s r id).Yields f _ f := batchExtract_of_skip hskip
    have hg : (batchExtract s r id).Yields g _ g := batchExtract_of_skip hskip
    have hhas : g.has (s.paths.rawArtifact id) = f.has (s.paths.rawArtifact id) :=
      has_congr (h.status_artifact hfits (rawDir _) hid hX)
    rw [hhas] at hg
    refine ⟨_, f, g, hf, hg, hrefl, hrefl', h, .inl ⟨rfl, rfl⟩, fun n hn => ⟨?_, ?_⟩⟩
    · by_contra hraw
      rw [if_neg hraw] at hn
      cases hn
    · exact fun hconfig => ⟨.inl hskip, hconfig⟩
  | false =>
    -- Without the directories that all companies need both files are the same.
    have hcorpus : companyCorpus g s id none none
        (r.continueOnError || s.extraction.continueOnError) = companyCorpus f s id none none
          (r.continueOnError || s.extraction.continueOnError) := by
      rcases hready with rfl | ⟨hpdf, hconfig⟩
      · rfl
      · rw [hskip] at hpdf
        exact companyCorpus_eq h hfits hid (hpdf.resolve_left (by simp)) hconfig none _
    cases hresult : companyCorpus f s id none none
        (r.continueOnError || s.extraction.continueOnError) with
    | error e =>
      exact ⟨_, f, g, batchExtract_of_error hskip hresult,
        batchExtract_of_error hskip (hcorpus.trans hresult), hrefl, hrefl', h, .inl ⟨rfl, rfl⟩,
        fun n hn => by cases hn⟩
    | ok corpus =>
      obtain ⟨hpdf, hconfig⟩ := leads_of_companyCorpus hid hresult
      have hready : Ready s r f := ⟨.inr hpdf, hconfig⟩
      obtain ⟨written, f', g', hf, hg, hwrote⟩ :=
        writeArtifact_alike h hfits hid hX (rawDir s.paths) corpus.artifact corpus.artifact
      have hlater := hwrote.here.later (rawDir _) rfl
      have hlater' := hwrote.there.later (rawDir _) (by rw [h.ahead.place_eq])
      refine ⟨_, f', g', batchExtract_of_ok hskip hresult hf,
        batchExtract_of_ok hskip (hcorpus.trans hresult) hg, hlater, hlater',
        hwrote.later (.inl rfl), .inr hready, fun n hn => ⟨?_, fun _ => hready⟩⟩
      cases written with
      | error e => cases hn
      | ok _ =>
        have hstatus := hlater.tree.toOption_status_child (hlater.fits hfits).output hid.artifact
        rw [hlater.ahead.place_eq, (hwrote.nodes rfl).1] at hstatus
        rw [Layout.rawArtifact, Files.has_eq, hstatus]
        rfl

/-- A raw artifact is mapped alike, at whatever times. -/
theorem mapWith_alike (around around' : Surroundings) (h : s.paths.Later f X g)
    (hfits : s.paths.Fits f) (hid : IsCompanyId id) (hX : ¬X id)
    (hconfig : f.Leads s.paths.configDir) (hraw : f.has (s.paths.rawArtifact id) = true) :
    ∃ result f' g',
      (mapWith around s (s.paths.mappingConfig id) (s.paths.rawArtifact id)
        (s.paths.mappedArtifact id)).Yields f result f' ∧
      (mapWith around' s (s.paths.mappingConfig id) (s.paths.rawArtifact id)
        (s.paths.mappedArtifact id)).Yields g result g' ∧
      Wrote s.paths (f.place s.paths.mappedDir ++ [id ++ ".json"]) f f' ∧
      Wrote s.paths (f.place s.paths.mappedDir ++ [id ++ ".json"]) g g' ∧
      Restamped around.time around'.time (f'.node? (f.place s.paths.mappedDir ++ [id ++ ".json"]))
        (g'.node? (f.place s.paths.mappedDir ++ [id ++ ".json"])) := by
  have hsame := h.node?_artifact hfits (mappedDir _) hX
  have hrefl : Wrote s.paths (f.place s.paths.mappedDir ++ [id ++ ".json"]) f f :=
    ⟨hfits.tree, .refl _ _ f⟩
  have hrefl' : Wrote s.paths (f.place s.paths.mappedDir ++ [id ++ ".json"]) g g :=
    ⟨h.tree, .refl _ _ g⟩
  have hload : Mapping.Config.load (mappingOptions s) g (s.paths.mappingConfig id) =
      Mapping.Config.load (mappingOptions s) f (s.paths.mappingConfig id) := by
    unfold Mapping.Config.load
    rw [readConfigFile_congr _ (h.status_mappingConfig hfits hconfig hid)]
  have hread : readArtifact g (s.paths.rawArtifact id) = readArtifact f (s.paths.rawArtifact id) :=
    readArtifact_congr (h.status_artifact hfits (rawDir _) hid hX) hraw
  cases hc : Mapping.Config.load (mappingOptions s) f (s.paths.mappingConfig id) with
  | error e =>
    exact ⟨_, f, g, mapWith_of_error hc, mapWith_of_error (hload.trans hc), hrefl, hrefl',
      hsame ▸ .same _⟩
  | ok c =>
    cases hartifact : readArtifact f (s.paths.rawArtifact id) with
    | error e =>
      exact ⟨_, f, g, mapWith_of_ok hc (Mapping.mapFile_of_error hartifact),
        mapWith_of_ok (hload.trans hc) (Mapping.mapFile_of_error (hread.trans hartifact)), hrefl,
        hrefl', hsame ▸ .same _⟩
    | ok raw =>
      have hmap {k k' : Files} {time : String} {written : Except Failure Unit}
          (hk : readArtifact k (s.paths.rawArtifact id) = .ok raw)
          (hwrite : writeArtifact k (s.paths.mappedArtifact id)
            ((c.mapArtifact raw).toValue (some time)) = (written, k')) :
          c.mapFile k (s.paths.rawArtifact id) (s.paths.mappedArtifact id) (some time) =
            (written.map fun _ => c.mapArtifact raw, k') := by
        rw [Mapping.mapFile_of_ok hk, hwrite]
      obtain ⟨written, f', g', hf, hg, hwrote⟩ :=
        writeArtifact_alike h hfits hid hX (mappedDir s.paths)
          ((c.mapArtifact raw).toValue (some around.time))
          ((c.mapArtifact raw).toValue (some around'.time))
      refine ⟨_, f', g', mapWith_of_ok hc (hmap hartifact hf),
        mapWith_of_ok (hload.trans hc) (hmap (hread.trans hartifact) hg), hwrote.here,
        hwrote.there, ?_⟩
      cases written with
      | error e =>
        have hlater := hwrote.here.later (mappedDir _) rfl
        have hnode := (hwrote.later (.inr nofun)).node?_artifact (hlater.fits hfits)
          (mappedDir _) hX
        rw [hlater.ahead.place_eq] at hnode
        exact hnode ▸ .same _
      | ok _ =>
        obtain ⟨hnode, hnode'⟩ := hwrote.nodes rfl
        rw [hnode, hnode']
        exact .stamped _

/-- **A company comes to the same in both places**: to the same result and the same artifacts. It
changes nothing but them and the way to them, and nothing at all unless the directories are there
that all companies need. -/
theorem batchCompany_alike (around around' : Surroundings) (h : s.paths.Later f X g)
    (hfits : s.paths.Fits f) (hid : IsCompanyId id) (hX : ¬X id) (hready : g = f ∨ Ready s r f) :
    ∃ result f' g', (batchCompany around s r id).Yields f result f' ∧
      (batchCompany around' s r id).Yields g result g' ∧
      s.paths.Later f (fun other => other = id) f' ∧
      s.paths.Later g (fun other => other = id) g' ∧
      (f' = f ∧ g' = g ∨ Ready s r f) ∧
      g'.node? (f.place s.paths.outputDir ++ [id ++ ".json"]) =
        f'.node? (f.place s.paths.outputDir ++ [id ++ ".json"]) ∧
      Restamped around.time around'.time (f'.node? (f.place s.paths.mappedDir ++ [id ++ ".json"]))
        (g'.node? (f.place s.paths.mappedDir ++ [id ++ ".json"])) := by
  obtain ⟨documents, f', g', hf, hg, hlater, hlater', hahead, hchanged, hdone⟩ :=
    batchExtract_alike h hfits hid hX hready
  have hfits' := hlater.fits hfits
  have hplace := hlater.ahead.place_eq
  have hraw := hahead.node?_artifact hfits' (rawDir _) hX
  have hmapped := hahead.node?_artifact hfits' (mappedDir _) hX
  rw [hplace] at hraw hmapped
  cases documents with
  | error c =>
    exact ⟨_, f', g', batchCompany_of_error hf, batchCompany_of_error hg, hlater, hlater',
      hchanged, hraw, hmapped ▸ .same _⟩
  | ok n =>
    obtain ⟨hhas, hconfig⟩ := hdone n rfl
    have hsame : g' = f' ∨ f'.Leads s.paths.configDir := by
      rcases hchanged with ⟨rfl, rfl⟩ | ⟨-, hleads⟩
      · exact hready.imp_right And.right
      · exact .inr (hlater.ahead.leads hleads)
    have hmapping : g'.has (s.paths.mappingConfig id) = f'.has (s.paths.mappingConfig id) := by
      rcases hsame with rfl | hleads
      · rfl
      · exact has_congr (hahead.status_mappingConfig hfits' hleads hid)
    cases hthere : f'.has (s.paths.mappingConfig id) with
    | false =>
      exact ⟨_, f', g', batchCompany_of_unmapped hf hthere,
        batchCompany_of_unmapped hg (hmapping.trans hthere), hlater, hlater', hchanged, hraw,
        hmapped ▸ .same _⟩
    | true =>
      have hleads := leads_of_has_config (by decide) hid.mapping hthere
      obtain ⟨result, f'', g'', hf', hg', hwrote, hwrote', hstamped⟩ :=
        mapWith_alike around around' hahead hfits' hid hX hleads hhas
      refine ⟨_, f'', g'', batchCompany_of_mapped hf hthere hf',
        batchCompany_of_mapped hg (hmapping.trans hthere) hg',
        hlater.trans (hwrote.later (mappedDir _) rfl),
        hlater'.trans (hwrote'.later (mappedDir _) (by rw [hahead.ahead.place_eq])),
        .inr (hconfig hleads), ?_, hplace _ ▸ hstamped⟩
      have hrawf := hwrote.node?_raw hfits' rfl
      have hrawg := hwrote'.node?_raw (hahead.fits hfits') (by rw [hahead.ahead.place_eq])
      rw [hahead.ahead.place_eq, hplace] at hrawg
      rw [hplace] at hrawf
      rw [hrawf, hrawg, hraw]

end CommandLine

end PolicyFields
