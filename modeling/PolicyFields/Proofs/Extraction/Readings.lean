import PolicyFields.Proofs.Extraction.Lockstep

/-!
# The readings of a source

* `recording` — a source together with the list of its readings so far; `recording_mirrors`: keeping
  the list changes nothing.
* `Faithful` — the invariant of cache and readings, for any source: the cache holds the texts that
  have been read, and no path is read again after a reading that gave a text.
* `Counted` — the invariant for a source whose answers depend on the path alone: how often a path
  has been read, given how often its text was asked for.
-/

namespace PolicyFields.Extraction

variable {σ : Type}

/-! ## One reading -/

/-- The cache after a reading. -/
def remembered (p : Path) (cache : List (List Path.Component × String)) :
    Except DocumentError String → List (List Path.Component × String)
  | .ok text => (p.components, text) :: cache
  | .error _ => cache

theorem cachedText_hit (read : Reader σ) {p : Path} {s : Session σ} {text : String}
    (h : s.cache.lookup p.components = some text) : cachedText read p s = (.ok text, s) := by
  unfold cachedText
  rw [h]

theorem cachedText_miss (read : Reader σ) {p : Path} {s : Session σ}
    (h : s.cache.lookup p.components = none) : cachedText read p s =
      ((read p s.source).1, ⟨(read p s.source).2, remembered p s.cache (read p s.source).1⟩) := by
  unfold cachedText
  rw [h]
  dsimp only
  generalize read p s.source = x
  obtain ⟨_ | _, source⟩ := x <;> rfl

theorem lookup_remembered_self {p : Path} {cache : List (List Path.Component × String)}
    (h : cache.lookup p.components = none) (x : Except DocumentError String) :
    (remembered p cache x).lookup p.components = x.toOption := by
  cases x with
  | error e => exact h
  | ok t => rw [remembered, List.lookup_cons, beq_self_eq_true]; rfl

theorem lookup_remembered_of_ne {p : Path} {cs : List Path.Component} (h : cs ≠ p.components)
    (cache : List (List Path.Component × String)) (x : Except DocumentError String) :
    (remembered p cache x).lookup cs = cache.lookup cs := by
  cases x with
  | error e => rfl
  | ok t => rw [remembered, List.lookup_cons, beq_eq_false_iff_ne.2 h]

/-! ## The readings -/

/-- The readings of a source: the paths with the answers, in order. -/
abbrev Readings := List (Path × Except DocumentError String)

/-- A source that keeps a list of its readings. -/
def recording (read : Reader σ) : Reader (σ × Readings) := fun p s =>
  ((read p s.1).1, (read p s.1).2, s.2 ++ [(p, (read p s.1).1)])

/-- Keeping the list changes nothing. -/
theorem recording_mirrors (read : Reader σ) :
    Mirrors (fun s s' => s'.source.1 = s.source ∧ s'.cache = s.cache) (fun _ => True)
      read (recording read) := by
  rintro p - s ⟨⟨source, readings⟩, cache⟩ ⟨rfl, rfl⟩
  cases h : s.cache.lookup p.components with
  | some text =>
    rw [cachedText_hit read h, cachedText_hit (recording read) h]
    exact ⟨rfl, rfl, rfl⟩
  | none =>
    rw [cachedText_miss read h, cachedText_miss (recording read) h]
    exact ⟨rfl, rfl, rfl⟩

/-- The cache holds the texts that have been read, and after a reading that gave a text the path is
not read again. -/
structure Faithful (s : Session (σ × Readings)) : Prop where
  once : s.source.2.Pairwise fun x y => x.1.components = y.1.components → ∃ e, x.2 = .error e
  stored : ∀ entry ∈ s.cache, ∃ p text, entry = (p.components, text) ∧ (p, .ok text) ∈ s.source.2
  kept : ∀ p text, (p, .ok text) ∈ s.source.2 → s.cache.lookup p.components = some text

theorem faithful_new (source : σ) : Faithful ⟨(source, []), []⟩ :=
  ⟨.nil, fun _ h => absurd h List.not_mem_nil, fun _ _ h => absurd h List.not_mem_nil⟩

theorem Faithful.cachedText {read : Reader σ} (p : Path) {s : Session (σ × Readings)}
    (hs : Faithful s) : Faithful (cachedText (recording read) p s).2 := by
  cases h : s.cache.lookup p.components with
  | some text => rwa [cachedText_hit (recording read) h]
  | none =>
    rw [cachedText_miss (recording read) h]
    change Faithful ⟨((read p s.source.1).2, s.source.2 ++ [(p, (read p s.source.1).1)]),
      remembered p s.cache (read p s.source.1).1⟩
    generalize (read p s.source.1).1 = x
    refine ⟨?_, ?_, ?_⟩
    · refine List.pairwise_append.2 ⟨hs.once, List.pairwise_singleton _ _, ?_⟩
      -- An earlier reading of the path that gave a text would have left it in the cache.
      rintro ⟨q, e | text⟩ hq y hy hcomponents
      · exact ⟨_, rfl⟩
      · obtain rfl := List.mem_singleton.1 hy
        have hkept := hs.kept q text hq
        rw [show q.components = p.components from hcomponents, h] at hkept
        cases hkept
    · intro entry hentry
      have hold (hmem : entry ∈ s.cache) : ∃ (q : Path) (text : String),
          entry = (q.components, text) ∧ (q, .ok text) ∈ s.source.2 ++ [(p, x)] := by
        obtain ⟨q, text, heq, hq⟩ := hs.stored entry hmem
        exact ⟨q, text, heq, List.mem_append_left _ hq⟩
      cases x with
      | error e => exact hold hentry
      | ok text =>
        rcases List.mem_cons.1 hentry with rfl | hmem
        · exact ⟨p, text, rfl, List.mem_append_right _ (List.mem_singleton_self _)⟩
        · exact hold hmem
    · intro q text hq
      rcases List.mem_append.1 hq with hq | hq
      · have hkept := hs.kept q text hq
        have hne : q.components ≠ p.components := by
          intro heq
          rw [heq, h] at hkept
          cases hkept
        rwa [lookup_remembered_of_ne hne]
      · obtain ⟨rfl, rfl⟩ := Prod.mk.inj (List.mem_singleton.1 hq)
        exact lookup_remembered_self h (.ok text)

/-- As long as no reading of a path has given a text, the path is read when its text is wanted. -/
theorem Faithful.read_again {read : Reader σ} {p : Path} {s : Session (σ × Readings)}
    (hs : Faithful s)
    (hp : ∀ q text, q.components = p.components → (q, .ok text) ∉ s.source.2) :
    (Extractor.text (recording read) p s).2.source.2 =
      s.source.2 ++ [(p, (read p s.source.1).1)] := by
  have hmiss : s.cache.lookup p.components = none := by
    cases h : s.cache.lookup p.components with
    | none => rfl
    | some text =>
      obtain ⟨l₁, l₂, hcache, -⟩ := List.lookup_eq_some_iff.1 h
      obtain ⟨q, text', heq, hq⟩ := hs.stored (p.components, text)
        (hcache ▸ List.mem_append_right _ List.mem_cons_self)
      exact absurd hq (hp q text' (Prod.mk.inj heq).1.symm)
  rw [Extractor.text_eq, cachedText_miss (recording read) hmiss]
  rfl

/-! ## The number of readings -/

/-- How often a path occurs among some paths. -/
def occurrences (p : Path) (paths : List Path) : Nat :=
  paths.countP fun q => q.components == p.components

theorem occurrences_append (p : Path) (ps qs : List Path) :
    occurrences p (ps ++ qs) = occurrences p ps + occurrences p qs :=
  List.countP_append ..

theorem occurrences_same {p q : Path} (h : q.components = p.components) :
    occurrences p [q] = 1 := by
  simp [occurrences, h]

theorem occurrences_other {p q : Path} (h : q.components ≠ p.components) :
    occurrences p [q] = 0 := by
  simp [occurrences, h]

/-- How often the text of a path is read if it is asked for `asked` times. -/
def readsOf (asked : Nat) : Except DocumentError String → Nat
  | .ok _ => min 1 asked
  | .error _ => asked

/-- After the texts of some paths have been asked for, one path has been read as often as its
answer demands, and its text is in the cache if it has one. -/
structure Counted (answer : Path → Except DocumentError String) (p : Path) (asked : List Path)
    (s : Session (σ × Readings)) : Prop where
  agrees : s.Agrees answer
  reads : occurrences p (s.source.2.map Prod.fst) = readsOf (occurrences p asked) (answer p)
  missing : s.cache.lookup p.components = none ↔
    occurrences p asked = 0 ∨ ∃ e, answer p = .error e

section Counting

variable {read : Reader σ} {answer : Path → Except DocumentError String}

theorem Answers.recording (h : Answers read answer) : Answers (recording read) answer :=
  ⟨fun p source => h.read_eq p source.1, h.same_path⟩

theorem cachedText_recording_miss (h : Answers read answer) {p : Path}
    {s : Session (σ × Readings)} (hmiss : s.cache.lookup p.components = none) :
    cachedText (recording read) p s = (answer p,
      ⟨((read p s.source.1).2, s.source.2 ++ [(p, answer p)]),
        remembered p s.cache (answer p)⟩) := by
  rw [cachedText_miss (recording read) hmiss, ← h.read_eq p s.source.1]
  rfl

/-- Whether a path has a text does not depend on how it is written. -/
theorem Answers.missing_iff (h : Answers read answer) {p q : Path}
    (hpq : p.components = q.components) :
    (answer p).toOption = none ↔ ∃ e, answer q = .error e := by
  have hp := h.same_path p q
  have hq := h.same_path q p
  cases hap : answer p with
  | ok text =>
    rw [hp text hpq hap]
    exact iff_of_false (Option.some_ne_none text) (fun ⟨_, he⟩ => nomatch he)
  | error e =>
    cases haq : answer q with
    | ok text => rw [hq text hpq.symm haq] at hap; cases hap
    | error e' => exact iff_of_true rfl ⟨e', rfl⟩

theorem counted_new (p : Path) (source : σ) : Counted answer p [] ⟨(source, []), []⟩ := by
  refine ⟨Session.agrees_new answer _, ?_, iff_of_true rfl (.inl rfl)⟩
  cases answer p <;> rfl

/-- A path is not counted with the others. -/
theorem Counted.other {p q : Path} (hne : q.components ≠ p.components) {asked : List Path}
    {s s' : Session (σ × Readings)} (hs : Counted answer p asked s) (hagrees : s'.Agrees answer)
    (hreads : occurrences p (s'.source.2.map Prod.fst) = occurrences p (s.source.2.map Prod.fst))
    (hlookup : s'.cache.lookup p.components = s.cache.lookup p.components) :
    Counted answer p (asked ++ [q]) s' := by
  have hasked : occurrences p (asked ++ [q]) = occurrences p asked := by
    rw [occurrences_append, occurrences_other hne, Nat.add_zero]
  refine ⟨hagrees, ?_, ?_⟩
  · rw [hreads, hs.reads, hasked]
  · rw [hlookup, hs.missing, hasked]

theorem Counted.cachedText (h : Answers read answer) {p : Path} {asked : List Path}
    {s : Session (σ × Readings)} (hs : Counted answer p asked s) (q : Path) :
    Counted answer p (asked ++ [q]) (cachedText (recording read) q s).2 := by
  obtain ⟨-, hagrees⟩ := cachedText_spec h.recording q hs.agrees
  by_cases heq : q.components = p.components
  · have hasked : occurrences p (asked ++ [q]) = occurrences p asked + 1 := by
      rw [occurrences_append, occurrences_same heq]
    cases hlookup : s.cache.lookup q.components with
    | some text =>
      rw [cachedText_hit (recording read) hlookup]
      have hanswer : answer p = .ok text :=
        h.same_path q p text heq (hs.agrees q text hlookup)
      have hsome : s.cache.lookup p.components ≠ none := by
        rw [← heq, hlookup]
        exact Option.some_ne_none _
      have hpos : occurrences p asked ≠ 0 := fun hzero => hsome (hs.missing.2 (.inl hzero))
      refine ⟨hs.agrees, ?_, ?_⟩
      · rw [hs.reads, hasked, hanswer, readsOf, readsOf]
        omega
      · refine iff_of_false hsome ?_
        rw [hasked, hanswer]
        rintro (hzero | ⟨e, he⟩)
        · exact Nat.succ_ne_zero _ hzero
        · cases he
    | none =>
      rw [cachedText_recording_miss h hlookup] at hagrees ⊢
      have hread : occurrences p ((s.source.2 ++ [(q, answer q)]).map Prod.fst) =
          occurrences p (s.source.2.map Prod.fst) + 1 := by
        rw [List.map_append, occurrences_append]
        exact congrArg _ (occurrences_same heq)
      have hnew := lookup_remembered_self hlookup (answer q)
      rw [heq] at hlookup hnew
      refine ⟨hagrees, hread.trans ?_, ?_⟩
      · rw [hs.reads, hasked]
        rcases hs.missing.1 hlookup with hzero | ⟨e, he⟩
        · rw [hzero]
          cases answer p <;> rfl
        · rw [he]
          rfl
      · rw [hnew, hasked, h.missing_iff heq]
        exact (or_iff_right (Nat.succ_ne_zero _)).symm
  · cases hlookup : s.cache.lookup q.components with
    | some text =>
      rw [cachedText_hit (recording read) hlookup]
      exact hs.other heq hs.agrees rfl rfl
    | none =>
      rw [cachedText_recording_miss h hlookup] at hagrees ⊢
      refine hs.other heq hagrees ?_ (lookup_remembered_of_ne (Ne.symm heq) _ _)
      refine (congrArg (occurrences p) List.map_append).trans ?_
      rw [occurrences_append]
      exact congrArg (_ + ·) (occurrences_other heq)

end Counting

end PolicyFields.Extraction
