import PolicyFields.Proofs.CommandLine.Company

/-!
# Companies in a batch

A batch does both stages for one company after the other, on the same files.

* `BatchYields` — what a batch comes to for each of some companies.
* `batchCompanies_apply` — a batch goes through all companies, and each comes to what it comes to
  alone.
* `batchReport`, `runBatch_apply` — what a batch prints.
* `runBatch_isolated` — **companies in a batch do not affect one another**.
-/

namespace PolicyFields.CommandLine

open Layout (IsCompanyId)

variable {around : Surroundings} {named : Option Path} {s : Settings} {r : BatchRequest}
variable {f g : Files} {X : String → Prop} {id : String} {companies : List String}

/-! ## One company after the other -/

/-- What a company comes to alone. -/
def outcomeOf (around : Surroundings) (s : Settings) (r : BatchRequest) (f : Files)
    (id : String) : Except Complaint Done :=
  (batchCompany around s r id ⟨f, []⟩).1

theorem Step.Yields.unique {α : Type} {step : Step α} {a b : Except Complaint α} {g k : Files}
    (h : step.Yields f a g) (h' : step.Yields f b k) : a = b ∧ g = k := by
  have heq := (h []).symm.trans (h' [])
  exact ⟨congrArg Prod.fst heq, congrArg (fun x => x.2.files) heq⟩

/-- The artifacts of a company in `g` are those that it leaves alone, at whatever time, and it comes
to the same. -/
def AsAlone (around : Surroundings) (s : Settings) (r : BatchRequest) (f g : Files) (id : String) :
    Prop :=
  ∀ around', ∃ f', (batchCompany around' s r id).Yields f (outcomeOf around s r f id) f' ∧
    s.paths.Later f (fun other => other = id) f' ∧
    g.node? (f.place s.paths.outputDir ++ [id ++ ".json"]) =
      f'.node? (f.place s.paths.outputDir ++ [id ++ ".json"]) ∧
    Restamped around'.time around.time (f'.node? (f.place s.paths.mappedDir ++ [id ++ ".json"]))
      (g.node? (f.place s.paths.mappedDir ++ [id ++ ".json"]))

/-- One company more. -/
theorem batchCompany_asAlone (around : Surroundings) (h : s.paths.Later f X g)
    (hfits : s.paths.Fits f) (hid : IsCompanyId id) (hX : ¬X id) (hready : g = f ∨ Ready s r f) :
    ∃ g', (batchCompany around s r id).Yields g (outcomeOf around s r f id) g' ∧
      s.paths.Later g (fun other => other = id) g' ∧ (g' = f ∨ Ready s r f) ∧
      AsAlone around s r f g' id := by
  obtain ⟨result, f', g', hf, hg, -, hlater, hchanged, -⟩ :=
    batchCompany_alike around around h hfits hid hX hready
  have hresult : outcomeOf around s r f id = result := congrArg Prod.fst (hf [])
  refine ⟨g', hresult ▸ hg, hlater, ?_, fun around' => ?_⟩
  · rcases hchanged with ⟨-, rfl⟩ | hready'
    · exact hready
    · exact .inr hready'
  · obtain ⟨result', f'', g'', hf', hg', hlater', -, -, hraw, hmapped⟩ :=
      batchCompany_alike around' around h hfits hid hX hready
    obtain ⟨rfl, rfl⟩ := hg.unique hg'
    exact ⟨f'', hresult ▸ hf', hlater', hraw, hmapped⟩

/-- Work for others leaves the artifacts of a company as they are. -/
theorem AsAlone.later {k : Files} (halone : AsAlone around s r f g id) (h : s.paths.Later f X g)
    (hfits : s.paths.Fits f) {Y : String → Prop} (h' : s.paths.Later g Y k) (hY : ¬Y id) :
    AsAlone around s r f k id := by
  intro around'
  obtain ⟨f', hf, hlater, hraw, hmapped⟩ := halone around'
  have hkraw := h'.node?_artifact (h.fits hfits) (rawDir _) hY
  have hkmapped := h'.node?_artifact (h.fits hfits) (mappedDir _) hY
  rw [h.ahead.place_eq] at hkraw hkmapped
  rw [← hkmapped] at hmapped
  exact ⟨f', hf, hlater, hkraw.trans hraw, hmapped⟩

/-- From the files `f` a batch comes to an outcome for each of some companies and leaves the files
`g`. It prints their names. -/
def BatchYields (around : Surroundings) (s : Settings) (r : BatchRequest) (companies : List String)
    (f : Files) (outcome : String → Except Complaint Done) (g : Files) : Prop :=
  ∀ printed, batchCompanies around s r companies ⟨f, printed⟩ =
    (.ok (companies.map fun id => (id, outcome id)),
      ⟨g, printed ++ companies.flatMap fun id => linePieces ("→ " ++ id)⟩)

section

variable {outcome : String → Except Complaint Done}

theorem BatchYields.nil (f : Files) : BatchYields around s r [] f outcome f := by
  intro printed
  rw [List.flatMap_nil, List.append_nil]
  rfl

/-- After one company a batch goes on with the others. -/
theorem BatchYields.cons {k : Files} (h : (batchCompany around s r id).Yields f (outcome id) g)
    (hrest : BatchYields around s r companies g outcome k) :
    BatchYields around s r (id :: companies) f outcome k := by
  intro printed
  unfold batchCompanies
  rw [bind_apply, say_apply]
  dsimp only
  rw [bind_apply, attempt_apply h]
  dsimp only
  rw [bind_apply, hrest, List.map_cons, List.flatMap_cons, List.append_assoc]
  rfl

end

/-- A batch goes through all companies, and each comes to what it comes to alone. -/
theorem batchCompanies_apply (around : Surroundings) (hfits : s.paths.Fits f)
    (h : s.paths.Later f X g) (hready : g = f ∨ Ready s r f)
    (hids : ∀ id ∈ companies, IsCompanyId id) (hnodup : companies.Nodup)
    (hX : ∀ id ∈ companies, ¬X id) :
    ∃ g', BatchYields around s r companies g (outcomeOf around s r f) g' ∧
      s.paths.Later g (fun other => other ∈ companies) g' ∧
      ∀ id ∈ companies, AsAlone around s r f g' id := by
  induction companies generalizing X g with
  | nil =>
    exact ⟨g, .nil g, .refl h.tree _, fun id hid => by cases hid⟩
  | cons company others ih =>
    obtain ⟨hid, hothers⟩ := List.forall_mem_cons.1 hids
    obtain ⟨hnot, hnodup'⟩ := List.nodup_cons.1 hnodup
    obtain ⟨hfresh, hX'⟩ := List.forall_mem_cons.1 hX
    obtain ⟨g₁, hstep, hlater, hready₁, halone⟩ :=
      batchCompany_asAlone around h hfits hid hfresh hready
    have hsofar : s.paths.Later f (fun other => X other ∨ other = company) g₁ :=
      (h.mono fun _ => .inl).trans (hlater.mono fun _ => .inr)
    have hfresh' : ∀ id ∈ others, ¬(X id ∨ id = company) := by
      rintro id hmem (hid' | rfl)
      · exact hX' id hmem hid'
      · exact hnot hmem
    obtain ⟨g', hrest, hlater', halone'⟩ := ih hsofar hready₁ hothers hnodup' hfresh'
    refine ⟨g', .cons hstep hrest, ?_, ?_⟩
    · refine (hlater.mono ?_).trans (hlater'.mono fun _ => List.mem_cons_of_mem _)
      rintro other rfl
      exact List.mem_cons_self
    · intro id hmem
      rcases List.mem_cons.1 hmem with rfl | hmem
      · exact halone.later hsofar hfits hlater' hnot
      · exact halone' id hmem

/-! ## The whole run -/

/-- The companies of a request. -/
def listed (s : Settings) (r : BatchRequest) (f : Files) : Except Failure (List String) :=
  if r.all then listCompanies f s.paths.pdfDir else .ok r.companies

/-- What a batch prints. -/
def batchReport (companies : List String) (outcome : String → Except Complaint Done) :
    List Piece :=
  linePieces ("ℹ Processing " ++ toString companies.length ++ " companies") ++
    (companies.flatMap fun id => linePieces ("→ " ++ id)) ++ linePieces "" ++
    (companies.flatMap fun id => linePieces (outcomeLine id (outcome id))) ++
    [.text ("✓ Processed " ++ toString companies.length ++ " companies in "), .elapsed,
      .text (" (" ++ toString (companies.countP fun id => !(outcome id).isOk) ++ " failed)\n")]

/-- How a batch ends: it fails only if there are no companies. -/
def batchEnd (s : Settings) (companies : List String) (outcome : String → Except Complaint Done)
    (g : Files) : Except Complaint Unit × Desk :=
  if companies.isEmpty then
    (.error (.said ("No companies found in " ++ s.paths.pdfDir.text)), ⟨g, []⟩)
  else (.ok (), ⟨g, batchReport companies outcome⟩)

/-- The same request for some companies that are named. -/
def only (r : BatchRequest) (companies : List String) : BatchRequest :=
  { r with companies := companies, all := false }

theorem only_all (r : BatchRequest) (companies : List String) : (only r companies).all = false :=
  rfl

theorem only_companies (r : BatchRequest) (companies : List String) :
    (only r companies).companies = companies := rfl

/-- What is done for a company does not depend on which others are named. -/
theorem batchCompany_only (companies : List String) (id : String) :
    batchCompany around s (only r companies) id = batchCompany around s r id := rfl

theorem batchCompanies_only (companies ids : List String) :
    batchCompanies around s (only r companies) ids = batchCompanies around s r ids := by
  induction ids with
  | nil => rfl
  | cons id ids ih =>
    unfold batchCompanies
    rw [ih, batchCompany_only]

/-- Asking for all companies is naming them. -/
theorem runBatch_listed (hsettings : (loadSettings around named).run ⟨f, []⟩ = (.ok s, ⟨f, []⟩))
    (hlisted : listed s r f = .ok companies) : (runBatch around named r).run ⟨f, []⟩ =
      (runBatch around named (only r companies)).run ⟨f, []⟩ := by
  change runBatch around named r ⟨f, []⟩ = runBatch around named (only r companies) ⟨f, []⟩
  unfold runBatch
  rw [bind_apply, bind_apply, show loadSettings around named ⟨f, []⟩ = _ from hsettings]
  unfold listed at hlisted
  split at hlisted
  · rename_i hall
    simp only [hall, only_all, Bool.false_eq_true, ↓reduceIte, only_companies,
      batchCompanies_only, pure_bind]
    rw [bind_apply, Step.Yields.fromFiles_ok hlisted []]
  · rename_i hall
    obtain rfl := Except.ok.inj hlisted
    simp only [hall, only_all, Bool.false_eq_true, ↓reduceIte, only_companies,
      batchCompanies_only, pure_bind]

theorem runBatch_apply (hsettings : (loadSettings around named).run ⟨f, []⟩ = (.ok s, ⟨f, []⟩))
    (hall : r.all = false) {outcome : String → Except Complaint Done}
    (hbatch : BatchYields around s r r.companies f outcome g)
    (hempty : r.companies = [] → g = f) :
    (runBatch around named r).run ⟨f, []⟩ = batchEnd s r.companies outcome g := by
  change runBatch around named r ⟨f, []⟩ = _
  unfold runBatch
  rw [bind_apply, show loadSettings around named ⟨f, []⟩ = _ from hsettings]
  simp only [hall, Bool.false_eq_true, if_false, pure_bind]
  cases hcompanies : r.companies with
  | nil =>
    rw [hempty hcompanies]
    rfl
  | cons company others =>
    rw [hcompanies] at hbatch
    simp only [List.isEmpty_cons, Bool.false_eq_true, if_false]
    rw [bind_apply, say_apply]
    dsimp only
    rw [bind_apply, hbatch]
    dsimp only
    rw [bind_apply, say_apply]
    dsimp only
    rw [bind_apply, sayAll_apply]
    rw [List.map_map, List.flatMap_map, List.length_map, List.countP_map]
    rfl

/-! ## Files of two companies -/

/-- Settings are the usual ones if there is no file of them. -/
theorem loadSettings_usual (h : f.has around.settings = false) :
    (loadSettings around none).run ⟨f, []⟩ = (.ok .default, ⟨f, []⟩) := by
  have hread : (if f.has around.settings = true then Settings.load f around.settings
      else .ok .default) = .ok .default := by
    rw [h]
    rfl
  exact (show Step.Yields (loadSettings around none) f _ f from .fromFiles_ok hread) []

theorem loadSettings_named {p : Path} (h : Settings.load f p = .ok s) :
    (loadSettings around (some p)).run ⟨f, []⟩ = (.ok s, ⟨f, []⟩) :=
  (show Step.Yields (loadSettings around (some p)) f _ f from .fromFiles_ok h) []

/-- Files with a document and rules for the company `a`, none for `b`, and an artifact of `c`. The
settings in `s.json` put artifacts at `data/out`, by a path through a directory of documents that is
not there. -/
def sample : Files := ⟨["w"], [
  (["w", "config"], .directory), (["w", "config", "extraction_patterns"], .directory),
  (["w", "config", "extraction_patterns", "a.json"], .file (.text "\x7b\x7d")),
  (["w", "data"], .directory), (["w", "data", "00_raw_pdfs"], .directory),
  (["w", "data", "00_raw_pdfs", "a"], .directory),
  (["w", "data", "00_raw_pdfs", "a", "1.pdf"], .file (.pdf (some ["No 7"]))),
  (["w", "data", "02_output"], .directory),
  (["w", "data", "02_output", "c.json"], .file (.text "old")),
  (["w", "s.json"], .file (.text
    "\x7b\"paths\":\x7b\"output_dir\":\"data/00_raw_pdfs/b/../../out\"\x7d\x7d"))]⟩

namespace sample

theorem rules_a :
    Extraction.RuleSet.load sample ⟨"config/extraction_patterns/a.json"⟩ = .ok .empty := by
  have hthere : sample.has ⟨"config/extraction_patterns/a.json"⟩ = true := by decide
  have htext : sample.readText ⟨"config/extraction_patterns/a.json"⟩ = .ok "\x7b\x7d" := by decide
  have hread : Json.readWhole (Json.readDict Json.Source.value) "\x7b\x7d" = .ok .empty := by cbv
  have hfile : readConfigFile (Json.readDict Json.Source.value) sample
      ⟨"config/extraction_patterns/a.json"⟩ = .ok .empty := by
    unfold readConfigFile
    rw [if_pos hthere, htext]
    change (Json.readWhole _ _).mapError _ = _
    rw [hread]
    rfl
  rw [Extraction.RuleSet.load, hfile]
  rfl

theorem documents_a : listDocuments sample ⟨"data/00_raw_pdfs/a"⟩ =
    .ok [⟨"1", ⟨"data/00_raw_pdfs/a/1.pdf"⟩⟩] := by
  have hdir : sample.isDirectory ⟨"data/00_raw_pdfs/a"⟩ = true := by decide
  have hlist : sample.listDirectory ⟨"data/00_raw_pdfs/a"⟩ =
      .ok [("1.pdf", .file (.pdf (some ["No 7"])))] := by decide
  rw [listDocuments_of_sorted hdir hlist (by decide) (by decide)]
  decide

theorem documents_b (hpdf : s.paths.companyPdfDir "b" = ⟨"data/00_raw_pdfs/b"⟩) :
    listDocuments sample (s.paths.companyPdfDir "b") =
      .error (.corpus (.directoryNotFound ⟨"data/00_raw_pdfs/b"⟩)) := by
  have hdir : sample.isDirectory ⟨"data/00_raw_pdfs/b"⟩ = false := by decide
  rw [hpdf]
  unfold listDocuments
  rw [hdir]

/-- The settings in `s.json`. -/
def settings : Settings :=
  ⟨{ Layout.default with outputDir := ⟨"data/00_raw_pdfs/b/../../out"⟩ }, .default⟩

theorem load_settings : Settings.load sample ⟨"s.json"⟩ = .ok settings := by
  have htext : sample.readText ⟨"s.json"⟩ = .ok
      "\x7b\"paths\":\x7b\"output_dir\":\"data/00_raw_pdfs/b/../../out\"\x7d\x7d" := by decide
  have htree : Json.Tree.ofText
      "\x7b\"paths\":\x7b\"output_dir\":\"data/00_raw_pdfs/b/../../out\"\x7d\x7d".toList =
        (.object [(⟨.ok "paths", none⟩,
          .object [(⟨.ok "output_dir", none⟩, .string ⟨.ok "data/00_raw_pdfs/b/../../out", none⟩)]
            .closed)] .closed, some []) := by cbv
  unfold Settings.load readJsonFile Json.readWhole
  rw [htext]
  dsimp only [Except.mapError, bind, Except.bind]
  rw [htree]
  rfl

/-- With an artifact of `a` at `data/out` there is a directory for documents of `b`. -/
theorem documents_b_written :
    listDocuments (writeArtifact sample (settings.paths.rawArtifact "a") (.object [])).2
      (settings.paths.companyPdfDir "b") =
        .error (.corpus (.noDocuments ⟨"data/00_raw_pdfs/b"⟩)) := by
  have hpdf : settings.paths.companyPdfDir "b" = ⟨"data/00_raw_pdfs/b"⟩ := by decide
  have hdir : (writeArtifact sample (settings.paths.rawArtifact "a") (.object [])).2.isDirectory
      ⟨"data/00_raw_pdfs/b"⟩ = true := by decide
  have hlist : (writeArtifact sample (settings.paths.rawArtifact "a") (.object [])).2.listDirectory
      ⟨"data/00_raw_pdfs/b"⟩ = .ok [] := by decide
  rw [hpdf]
  unfold listDocuments
  rw [hdir, hlist]
  simp only [List.filterMap_nil, List.mergeSort_nil]

theorem corpus_a (hpdf : s.paths.companyPdfDir "a" = ⟨"data/00_raw_pdfs/a"⟩)
    (hconfig : s.paths.extractionConfig "a" = ⟨"config/extraction_patterns/a.json"⟩) :
    ∃ corpus, companyCorpus sample s "a" none none false = .ok corpus ∧ corpus.documents = 1 ∧
      corpus.artifact = .object [] := by
  have htext : documentText sample ⟨"data/00_raw_pdfs/a/1.pdf"⟩ = .ok "\n\nNo 7" := by decide
  rw [companyCorpus_of (hpdf ▸ documents_a) (hconfig ▸ rules_a)]
  generalize extractionOptions _ = options
  simp only [Extraction.Extractor.extractCorpus, Extraction.Run.bind_apply,
    Extraction.Extractor.rows, Extraction.Extractor.row, Extraction.Extractor.extractAll,
    Extraction.Extractor.text, Extraction.cachedText, readDocument, htext, List.lookup_nil,
    if_false, Bool.false_eq_true]
  exact ⟨_, rfl, rfl, rfl⟩

theorem company_a {f' : Files} (hpdf : s.paths.companyPdfDir "a" = ⟨"data/00_raw_pdfs/a"⟩)
    (hconfig : s.paths.extractionConfig "a" = ⟨"config/extraction_patterns/a.json"⟩)
    (hskip : r.skipExtraction = false)
    (hstrict : (r.continueOnError || s.extraction.continueOnError) = false)
    (hwrite : writeArtifact sample (s.paths.rawArtifact "a") (.object []) = (.ok (), f'))
    (hmapping : f'.has (s.paths.mappingConfig "a") = false) :
    (batchCompany around s r "a").Yields sample (.ok ⟨some 1, false⟩) f' := by
  obtain ⟨corpus, hcorpus, hdocuments, hartifact⟩ := corpus_a hpdf hconfig
  rw [← hstrict] at hcorpus
  rw [← hartifact] at hwrite
  rw [← hdocuments]
  exact batchCompany_of_unmapped (batchExtract_of_ok hskip hcorpus hwrite) hmapping

theorem company_b {e : Failure} (hskip : r.skipExtraction = false)
    (h : listDocuments f (s.paths.companyPdfDir "b") = .error e) :
    (batchCompany around s r "b").Yields f (.error (.failure e)) f :=
  batchCompany_of_error (batchExtract_of_error hskip (companyCorpus_of_error h))

end sample

/-! ## Isolation -/

theorem Restamped.symm {time time' : String} {n n' : Option Node}
    (h : Restamped time time' n n') : Restamped time' time n' n := by
  cases h with
  | same n => exact .same n
  | stamped a => exact .stamped a

/-- A batch of companies, each of which comes to what it comes to alone. -/
theorem runBatch_only (around : Surroundings)
    (hsettings : (loadSettings around named).run ⟨f, []⟩ = (.ok s, ⟨f, []⟩))
    (hfits : s.paths.Fits f) (hids : ∀ id ∈ companies, IsCompanyId id)
    (hnodup : companies.Nodup) :
    ∃ g, (runBatch around named (only r companies)).run ⟨f, []⟩ =
        batchEnd s companies (outcomeOf around s r f) g ∧
      s.paths.Later f (fun other => other ∈ companies) g ∧
      ∀ id ∈ companies, AsAlone around s r f g id := by
  obtain ⟨g, hbatch, hlater, halone⟩ := batchCompanies_apply (r := r) around hfits
    (.refl hfits.tree fun _ => False) (.inl rfl) hids hnodup fun _ _ h => h
  -- Without companies nothing is done.
  have hempty : companies = [] → g = f := by
    rintro rfl
    exact congrArg (fun x => x.2.files) (hbatch []).symm
  refine ⟨g, ?_, hlater, halone⟩
  have honly : BatchYields around s (only r companies) companies f (outcomeOf around s r f) g := by
    unfold BatchYields
    rw [batchCompanies_only]
    exact hbatch
  exact runBatch_apply hsettings rfl honly hempty

/-- Two batches in which a company comes to what it comes to alone. -/
theorem AsAlone.alike {around around' : Surroundings} {g g' : Files}
    (h : AsAlone around s r f g id) (h' : AsAlone around' s r f g' id) :
    outcomeOf around' s r f id = outcomeOf around s r f id ∧
      g'.node? (f.place s.paths.outputDir ++ [id ++ ".json"]) =
        g.node? (f.place s.paths.outputDir ++ [id ++ ".json"]) ∧
      Restamped around.time around'.time
        (g.node? (f.place s.paths.mappedDir ++ [id ++ ".json"]))
        (g'.node? (f.place s.paths.mappedDir ++ [id ++ ".json"])) := by
  obtain ⟨k, hk, -, hraw, hmapped⟩ := h around'
  obtain ⟨k', hk', -, hraw', hmapped'⟩ := h' around'
  obtain ⟨houtcome, rfl⟩ := hk.unique hk'
  rw [hmapped'.eq] at hmapped
  exact ⟨houtcome.symm, hraw'.trans hraw.symm, hmapped.symm⟩

/-- What there is at a path. -/
def found (f : Files) (p : Path) : Option Node := (f.status p).toOption

/-- The artifacts of a company are the same in `g` and in `h`, but that the mapped one may have been
made at another time. -/
structure SameArtifacts (L : Layout) (time time' : String) (g h : Files) (id : String) : Prop where
  raw : found h (L.rawArtifact id) = found g (L.rawArtifact id)
  mapped : Restamped time time' (found g (L.mappedArtifact id)) (found h (L.mappedArtifact id))

theorem found_artifact {L : Layout} {dir : Path} (h : L.Later f X g) (hfits : L.Fits f)
    (hdir : L.IsArtifactDir dir) (hid : IsCompanyId id) :
    found g (dir.child (id ++ ".json")) = g.node? (f.place dir ++ [id ++ ".json"]) := by
  rw [found, h.tree.toOption_status_child (h.ahead.firm (hfits.firm hdir)) hid.artifact,
    h.ahead.place_eq]

/-- The report is about the companies only. -/
theorem batchEnd_congr {outcome outcome' : String → Except Complaint Done}
    (h : ∀ id ∈ companies, outcome' id = outcome id) :
    batchEnd s companies outcome' g = batchEnd s companies outcome g := by
  have hlines : (companies.flatMap fun id => linePieces (outcomeLine id (outcome' id))) =
      companies.flatMap fun id => linePieces (outcomeLine id (outcome id)) :=
    List.flatMap_congr fun id hid => by rw [h id hid]
  have hfailed : (companies.countP fun id => !(outcome' id).isOk) =
      companies.countP fun id => !(outcome id).isOk :=
    List.countP_congr fun id hid => by rw [h id hid]
  rw [batchEnd, batchEnd, batchReport, batchReport, hlines, hfailed]

/-- **Companies in a batch do not affect one another.** Let the ids be distinct and each the name of
one place, and let the four directories of the layout lie apart in a tree of files, where the paths
of the artifacts go up only from directories that are there. Then a batch goes through all
companies, and reports for each what it comes to alone. Each company listed has the artifacts that
it has alone, each other company those that it had, and in any other order the batch leaves the same
artifacts. -/
theorem runBatch_isolated
    (hsettings : (loadSettings around named).run ⟨f, []⟩ = (.ok s, ⟨f, []⟩))
    (hlisted : listed s r f = .ok companies) (hids : ∀ id ∈ companies, IsCompanyId id)
    (hnodup : companies.Nodup) (hfits : s.paths.Fits f) :
    ∃ g, (runBatch around named r).run ⟨f, []⟩ =
        batchEnd s companies (outcomeOf around s r f) g ∧
      (∀ id ∈ companies, ∀ time, ∃ h,
        (runBatch { around with time := time } named (only r [id])).run ⟨f, []⟩ =
          (.ok (), ⟨h, batchReport [id] (outcomeOf around s r f)⟩) ∧
        SameArtifacts s.paths around.time time g h id) ∧
      (∀ id, IsCompanyId id → id ∉ companies →
        found g (s.paths.rawArtifact id) = found f (s.paths.rawArtifact id) ∧
        found g (s.paths.mappedArtifact id) = found f (s.paths.mappedArtifact id)) ∧
      ∀ others, others.Perm companies → ∀ time, ∃ h,
        (runBatch { around with time := time } named (only r others)).run ⟨f, []⟩ =
          batchEnd s others (outcomeOf around s r f) h ∧
        ∀ id, IsCompanyId id → SameArtifacts s.paths around.time time g h id := by
  obtain ⟨g, hrun, hlater, halone⟩ := runBatch_only (r := r) around hsettings hfits hids hnodup
  -- Any other batch comes to the same for a company that is in both or in neither.
  have hothers (others : List String) (hmem : ∀ id ∈ others, id ∈ companies)
      (hnodup' : others.Nodup) (time : String) : ∃ h,
      (runBatch { around with time := time } named (only r others)).run ⟨f, []⟩ =
        batchEnd s others (outcomeOf around s r f) h ∧
      ∀ id, IsCompanyId id → (id ∈ companies ↔ id ∈ others) →
        SameArtifacts s.paths around.time time g h id := by
    obtain ⟨h, hrun', hlater', halone'⟩ := runBatch_only (r := r)
      { around with time := time } hsettings hfits (fun id hid => hids id (hmem id hid)) hnodup'
    have halike (id : String) (hid : id ∈ others) :=
      (halone id (hmem id hid)).alike (halone' id hid)
    refine ⟨h, hrun'.trans (batchEnd_congr fun id hid => (halike id hid).1), ?_⟩
    intro id hid hiff
    by_cases hin : id ∈ others
    · obtain ⟨-, hraw, hmapped⟩ := halike id hin
      refine ⟨?_, ?_⟩
      · exact (found_artifact hlater' hfits (rawDir _) hid).trans
          (hraw.trans (found_artifact hlater hfits (rawDir _) hid).symm)
      · rw [← found_artifact hlater hfits (mappedDir _) hid,
          ← found_artifact hlater' hfits (mappedDir _) hid] at hmapped
        exact hmapped
    · have hstays {dir : Path} (hdir : s.paths.IsArtifactDir dir) :
          found h (dir.child (id ++ ".json")) = found g (dir.child (id ++ ".json")) :=
        (hlater'.status_artifact hfits hdir hid hin).trans
          (hlater.status_artifact hfits hdir hid (mt hiff.1 hin)).symm
      refine ⟨hstays (rawDir _), ?_⟩
      have hmapped := hstays (mappedDir s.paths)
      exact hmapped ▸ .same _
  refine ⟨g, (runBatch_listed hsettings hlisted).trans hrun, ?_, ?_, ?_⟩
  · intro id hid time
    obtain ⟨h, hrun', hsame⟩ := hothers [id] (fun other hother => List.mem_singleton.1 hother ▸ hid)
      (List.nodup_singleton id) time
    exact ⟨h, hrun', hsame id (hids id hid) ⟨fun _ => List.mem_singleton_self id, fun _ => hid⟩⟩
  · intro id hid hnot
    exact ⟨hlater.status_artifact hfits (rawDir _) hid hnot,
      hlater.status_artifact hfits (mappedDir _) hid hnot⟩
  · intro others hperm time
    obtain ⟨h, hrun', hsame⟩ := hothers others (fun id hid => hperm.mem_iff.1 hid)
      (hperm.nodup_iff.2 hnodup) time
    exact ⟨h, hrun', fun id hid => hsame id hid hperm.mem_iff.symm⟩

/-- The companies `a` and `b` with the usual settings: `a` has a document, `b` fails, and the
artifact of `c` stays. -/
theorem runBatch_isolated_two :
    let around : Surroundings := ⟨⟨"none.json"⟩, "now"⟩
    let r : BatchRequest := ⟨["a", "b"], false, false, false⟩
    let outcome := outcomeOf around .default r sample
    (outcome "a" = .ok ⟨some 1, false⟩ ∧ outcome "b" =
        .error (.failure (.corpus (.directoryNotFound ⟨"data/00_raw_pdfs/b"⟩)))) ∧
      ∃ g, (runBatch around none r).run ⟨sample, []⟩ =
          (.ok (), ⟨g, batchReport ["a", "b"] outcome⟩) ∧
        (∀ time, ∃ h,
          (runBatch { around with time := time } none (only r ["b"])).run ⟨sample, []⟩ =
            (.ok (), ⟨h, batchReport ["b"] outcome⟩) ∧
          SameArtifacts .default around.time time g h "b") ∧
        found g (Layout.default.rawArtifact "c") = some (.file (.text "old")) := by
  intro around r outcome
  have ha : (batchCompany around .default r "a").Yields sample (.ok ⟨some 1, false⟩)
      (writeArtifact sample (Layout.default.rawArtifact "a") (.object [])).2 := by
    have hwritten : (writeArtifact sample (Layout.default.rawArtifact "a") (.object [])).1 =
        .ok () := by decide
    exact sample.company_a (by decide) (by decide) rfl rfl (Prod.ext hwritten rfl) (by decide)
  have hb : (batchCompany around .default r "b").Yields sample
      (.error (.failure (.corpus (.directoryNotFound ⟨"data/00_raw_pdfs/b"⟩)))) sample :=
    sample.company_b rfl (sample.documents_b (by decide))
  have hsettings : (loadSettings around none).run ⟨sample, []⟩ = (.ok .default, ⟨sample, []⟩) :=
    loadSettings_usual (by decide)
  have hlisted : listed .default r sample = .ok ["a", "b"] := rfl
  obtain ⟨g, hrun, halone, hothers, -⟩ :=
    runBatch_isolated hsettings hlisted (by decide) (by decide) (by decide)
  refine ⟨⟨congrArg Prod.fst (ha []), congrArg Prod.fst (hb [])⟩, g, hrun, halone "b" (by decide),
    ?_⟩
  exact (hothers "c" (by decide) (by decide)).1.trans (by decide)

/-- The directories of a layout may lie apart and a company still affect another: on the way to the
artifact of `a` a directory for documents of `b` is made, and `b` fails in another way than
alone. -/
theorem runBatch_climbing :
    let around : Surroundings := ⟨⟨"none.json"⟩, "now"⟩
    let r : BatchRequest := ⟨["a", "b"], false, false, false⟩
    let L := sample.settings.paths
    let alone := Piece.text "  ✗ b: corpus error: PDF directory not found: data/00_raw_pdfs/b"
    (∀ id ∈ r.companies, IsCompanyId id) ∧ r.companies.Nodup ∧ sample.IsTree ∧
      ([L.configDir, L.pdfDir, L.outputDir, L.mappedDir].Pairwise fun p q =>
        Layout.Apart (sample.place p) (sample.place q)) ∧
      (loadSettings around (some ⟨"s.json"⟩)).run ⟨sample, []⟩ =
        (.ok sample.settings, ⟨sample, []⟩) ∧
      alone ∈ ((runBatch around (some ⟨"s.json"⟩) (only r ["b"])).run ⟨sample, []⟩).2.printed ∧
      alone ∉ ((runBatch around (some ⟨"s.json"⟩) r).run ⟨sample, []⟩).2.printed := by
  intro around r L alone
  have hsettings : (loadSettings around (some ⟨"s.json"⟩)).run ⟨sample, []⟩ =
      (.ok sample.settings, ⟨sample, []⟩) := loadSettings_named sample.load_settings
  refine ⟨by decide, by decide, by decide, by decide, hsettings, ?_, ?_⟩
  · have hb : (batchCompany around sample.settings (only r ["b"]) "b").Yields sample
        (.error (.failure (.corpus (.directoryNotFound ⟨"data/00_raw_pdfs/b"⟩)))) sample :=
      sample.company_b rfl (sample.documents_b (by decide))
    have hrun : (runBatch around (some ⟨"s.json"⟩) (only r ["b"])).run ⟨sample, []⟩ =
        batchEnd sample.settings ["b"]
          (fun _ => .error (.failure (.corpus (.directoryNotFound ⟨"data/00_raw_pdfs/b"⟩))))
          sample :=
      runBatch_apply hsettings rfl (.cons hb (.nil sample)) fun _ => rfl
    rw [hrun]
    decide
  · have ha : (batchCompany around sample.settings r "a").Yields sample (.ok ⟨some 1, false⟩)
        (writeArtifact sample (sample.settings.paths.rawArtifact "a") (.object [])).2 := by
      have hwritten : (writeArtifact sample (sample.settings.paths.rawArtifact "a")
          (.object [])).1 = .ok () := by decide
      exact sample.company_a (by decide) (by decide) rfl rfl (Prod.ext hwritten rfl) (by decide)
    have hrun : (runBatch around (some ⟨"s.json"⟩) r).run ⟨sample, []⟩ =
        batchEnd sample.settings ["a", "b"] (fun id => if id = "a" then .ok ⟨some 1, false⟩ else
            .error (.failure (.corpus (.noDocuments ⟨"data/00_raw_pdfs/b"⟩))))
          (writeArtifact sample (sample.settings.paths.rawArtifact "a") (.object [])).2 :=
      runBatch_apply hsettings rfl
        (.cons ha (.cons (sample.company_b rfl sample.documents_b_written) (.nil _))) nofun
    rw [hrun]
    decide

end PolicyFields.CommandLine
