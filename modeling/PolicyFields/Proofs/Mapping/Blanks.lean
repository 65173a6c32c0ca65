import PolicyFields.Proofs.Mapping.Leaves
import PolicyFields.Proofs.Text.Occurrence

/-!
# Blanks in substring rules

* `matchesText_strip` — **blanks never decide whether a rule matches**, neither those of the pattern
  nor those of the text.
* `SubstringRule.isBlank`, `withoutBlanks` — rules whose patterns hold nothing but blanks, and rules
  without them.
* `apply_withoutBlanks` — **which values such rules change**: one with an empty pattern none,
  because it matches nothing; any other those whose texts it is the first to match, and it matches
  every text.
-/

namespace PolicyFields.Mapping

open Json (Value)
open Json.Value (leaves)

/-! ## Matching -/

namespace SubstringRule

variable {r r' : SubstringRule} {p p' : String}

theorem matchesText_iff (hr : r.pattern = some p) (hp : p ≠ "") {s : String} :
    r.matchesText s = true ↔ Text.StandsIn (Text.strip p).toList (Text.strip s).toList := by
  have hempty : p.isEmpty = false := String.isEmpty_eq_false_iff.2 hp
  rw [Text.strip, Text.strip, String.toList_ofList, String.toList_ofList, ← Text.occursLoosely_iff,
    matchesText, hr]
  simp [hempty]

end SubstringRule

/-- **Blanks never decide whether a rule matches.** Its pattern must stand in the text but for the
case and the blanks of both; what is found with blanks collapsed is found without them, too. So
rules whose patterns differ in blanks only match the same texts, and they cannot tell texts that
differ in blanks only. -/
theorem matchesText_strip {r : SubstringRule} {p : String} (hr : r.pattern = some p) (hp : p ≠ "") :
    (∀ s, r.matchesText s = true ↔ Text.StandsIn (Text.strip p).toList (Text.strip s).toList) ∧
    (∀ s : String, Text.occursFolded (Text.collapseChars p.toList) (Text.collapseChars s.toList) = true →
      Text.occursFolded (Text.stripChars p.toList) (Text.stripChars s.toList) = true) ∧
    ∀ (r' : SubstringRule) (p' : String), r'.pattern = some p' → p' ≠ "" → Text.strip p' = Text.strip p →
      ∀ s s', Text.strip s' = Text.strip s → r'.matchesText s' = r.matchesText s := by
  refine ⟨fun s => SubstringRule.matchesText_iff hr hp, fun s => Text.occursFolded_of_collapseChars,
    fun r' p' hr' hp' hpattern s s' htext => ?_⟩
  rw [Bool.eq_iff_iff, SubstringRule.matchesText_iff hr' hp', SubstringRule.matchesText_iff hr hp,
    hpattern, htext]

/-- A hard space and a line break in a pattern and in a text, and a pattern in capitals. -/
theorem matchesText_strip_spaced :
    let r : SubstringRule := ⟨some "Tam\u00a0 Kasko", .string "TAM"⟩
    let r' : SubstringRule := ⟨some "TamKas ko", .string "TAM"⟩
    r.matchesText " TAM\nKASKO " = true ∧ r'.matchesText "T AM KASKO" = true := by
  intro r r'
  obtain ⟨hiff, -, hsame⟩ := @matchesText_strip r "Tam\u00a0 Kasko" rfl (by decide)
  have hmatches : r.matchesText " TAM\nKASKO " = true :=
    (hiff _).2 ⟨"TAMKASKO".toList, by decide, Text.eqFolded_iff.2 (by decide)⟩
  exact ⟨hmatches,
    (hsame r' "TamKas ko" rfl (by decide) (by decide) _ _ (by decide)).trans hmatches⟩

/-! ## Blank rules -/

/-- Whether the pattern of a rule has no other characters than blanks. -/
def SubstringRule.isBlank (r : SubstringRule) : Bool :=
  match r.pattern with
  | none => false
  | some p => p.toList.all Text.isBlank

/-- The rules without those whose patterns are blank. -/
def SubstringRules.withoutBlanks (cfg : SubstringRules) : SubstringRules :=
  { cfg with rules := cfg.rules.filter fun r => !r.isBlank }

/-- A blank rule matches nothing if its pattern is empty, and else everything. -/
theorem SubstringRule.matchesText_of_isBlank {r : SubstringRule} (hr : r.isBlank = true)
    (s : String) :
    r.matchesText s = true ↔ r.pattern ≠ some "" := by
  obtain ⟨p, hpattern, hp⟩ : ∃ p, r.pattern = some p ∧ p.toList.all Text.isBlank = true := by
    unfold isBlank at hr
    split at hr
    · cases hr
    · exact ⟨_, ‹_›, hr⟩
  by_cases hempty : p = ""
  · subst hempty
    simp [matchesText, hpattern]
  · have hstrip : Text.stripChars p.toList = [] := by
      rw [Text.stripChars, List.filter_eq_nil_iff]
      intro c hc
      simp [List.all_eq_true.1 hp c hc]
    rw [matchesText_iff hpattern hempty, Text.strip, String.toList_ofList, hstrip, hpattern]
    exact iff_of_true (Text.StandsIn.nil _) fun h => hempty (Option.some.inj h)

theorem SubstringRule.not_isBlank_of_matchesNull {r : SubstringRule} (h : r.matchesNull = true) :
    r.isBlank = false := by
  rw [isBlank]
  rw [matchesNull] at h
  cases hr : r.pattern with
  | none => rfl
  | some p =>
    rw [hr] at h
    rw [beq_iff_eq.1 h]
    decide

/-- What is found first is still found first if only other members are taken out. -/
theorem find?_filter_of_find? {α : Type} {p q : α → Bool} {l : List α}
    (h : ∀ a, l.find? q = some a → p a = true) : (l.filter p).find? q = l.find? q := by
  induction l with
  | nil => rfl
  | cons a r ih =>
    cases hq : q a with
    | true =>
      have ha : p a = true := h a (by simp [hq])
      simp [ha, hq]
    | false =>
      have hr := ih fun b hb => h b (by simpa [hq] using hb)
      cases hp : p a <;> simp [hp, hq, hr]

namespace SubstringRules

variable {cfg : SubstringRules} {v : Value} {r : SubstringRule}

/-- The outcome of a leaf does not depend on blank rules: the leaf is empty, or the first rule that
matches its text is none of them or gives what there would be without them. -/
def Spared (cfg : SubstringRules) (v : Value) : Prop :=
  v.isFalsy = true ∨
    ∀ r, cfg.rule? v.plain = some r → r.isBlank = true → r.output = cfg.withoutBlanks.applyLeaf v

theorem applyLeaf_of_not_isFalsy (hv : v.isFalsy = false) :
    cfg.applyLeaf v = ((cfg.rule? v.plain).map SubstringRule.output).getD (cfg.default.getD v) := by
  have hnull : v.isNull = false := by
    cases v with
    | null => cases hv
    | bool _ | number _ | string _ | array _ | object _ => rfl
  rw [applyLeaf, hnull, hv]
  rfl

/-- The rules for the missing value are not blank. -/
theorem applyLeaf_withoutBlanks_of_isFalsy (hv : v.isFalsy = true) :
    cfg.withoutBlanks.applyLeaf v = cfg.applyLeaf v := by
  have hnull : cfg.withoutBlanks.rules.find? SubstringRule.matchesNull =
      cfg.rules.find? SubstringRule.matchesNull :=
    find?_filter_of_find? fun r hr => by
      rw [SubstringRule.not_isBlank_of_matchesNull (List.find?_some hr), Bool.not_false]
  unfold applyLeaf
  rw [hnull, hv]
  rfl

theorem rule?_withoutBlanks {s : String} (h : ∀ r, cfg.rule? s = some r → r.isBlank = false) :
    cfg.withoutBlanks.rule? s = cfg.rule? s :=
  find?_filter_of_find? fun r hr => by rw [h r hr, Bool.not_false]

/-- **A leaf is mapped alike without blank rules exactly if it is spared.** -/
theorem applyLeaf_withoutBlanks_iff :
    cfg.withoutBlanks.applyLeaf v = cfg.applyLeaf v ↔ cfg.Spared v := by
  cases hv : v.isFalsy with
  | true => exact iff_of_true (applyLeaf_withoutBlanks_of_isFalsy hv) (.inl hv)
  | false =>
    have hspared : cfg.Spared v ↔ ∀ r, cfg.rule? v.plain = some r → r.isBlank = true →
        r.output = cfg.withoutBlanks.applyLeaf v := by
      rw [Spared, hv]
      exact or_iff_right Bool.false_ne_true
    rw [hspared]
    by_cases hfirst : ∃ r, cfg.rule? v.plain = some r ∧ r.isBlank = true
    · obtain ⟨r, hr, hblank⟩ := hfirst
      have houtput : cfg.applyLeaf v = r.output := by
        rw [applyLeaf_of_not_isFalsy hv, hr]
        rfl
      rw [houtput]
      constructor
      · intro h r' hr' _
        rw [h, Option.some.inj (hr'.symm.trans hr)]
      · exact fun h => (h r hr hblank).symm
    · have hother (r : SubstringRule) (hr : cfg.rule? v.plain = some r) : r.isBlank = false :=
        eq_false_of_ne_true fun h => hfirst ⟨r, hr, h⟩
      refine iff_of_true ?_ fun r hr h => Bool.noConfusion ((hother r hr).symm.trans h)
      rw [applyLeaf_of_not_isFalsy hv, applyLeaf_of_not_isFalsy hv, rule?_withoutBlanks hother,
        withoutBlanks]

end SubstringRules

/-- **Which values blank rules change.** A value that is no list stays as it is without them exactly
if it is spared, and a list does if its leaves are. A rule with an empty pattern matches nothing, so
that rules of this kind change no value; any other blank rule matches every text and takes the place
of all rules behind it. -/
theorem apply_withoutBlanks (cfg : SubstringRules) :
    (∀ v, (∀ w ∈ leaves v, cfg.Spared w) → cfg.withoutBlanks.apply v = cfg.apply v) ∧
    (∀ v, (∀ items, v ≠ .array items) →
      (cfg.withoutBlanks.apply v = cfg.apply v ↔ cfg.Spared v)) ∧
    (∀ r ∈ cfg.rules, r.isBlank = true → ∀ s, r.matchesText s = true ↔ r.pattern ≠ some "") ∧
    ((∀ r ∈ cfg.rules, r.isBlank = true → r.pattern = some "") →
      ∀ v, cfg.withoutBlanks.apply v = cfg.apply v) := by
  have hspared (v : Value) (h : ∀ w ∈ leaves v, cfg.Spared w) :
      cfg.withoutBlanks.apply v = cfg.apply v :=
    @SubstringRules.apply_congr cfg.withoutBlanks cfg rfl v fun w hw =>
      SubstringRules.applyLeaf_withoutBlanks_iff.2 (h w hw)
  have hblank (r : SubstringRule) (_ : r ∈ cfg.rules) (hr : r.isBlank = true) (s : String) :=
    SubstringRule.matchesText_of_isBlank hr s
  refine ⟨hspared, fun v hv => ?_, hblank, fun hempty v => hspared v fun w _ => .inr ?_⟩
  · rw [SubstringRules.apply_of_not_array hv, SubstringRules.apply_of_not_array hv]
    exact SubstringRules.applyLeaf_withoutBlanks_iff
  · intro r hr hisBlank
    have hmem := List.mem_of_find?_eq_some hr
    have hmatches := List.find?_some hr
    exact absurd (hempty r hmem hisBlank) ((hblank r hmem hisBlank _).1 hmatches)

/-- A blank rule behind one that matches, and an empty text. -/
theorem apply_withoutBlanks_spared :
    let cfg : SubstringRules :=
      ⟨[⟨some "kasko", .string "KASKO"⟩, ⟨some " ", .string "BLANK"⟩], some (.string "YOK")⟩
    let items : List Value := [.string "", .array [.string "Tam Kasko"]]
    cfg.withoutBlanks.apply (.array items) = cfg.apply (.array items) := by
  intro cfg items
  refine (apply_withoutBlanks cfg).1 _ fun w hw => ?_
  have hcases : w = .string "" ∨ w = .string "Tam Kasko" := by
    simpa [items, leaves, Value.itemLeaves] using hw
  rcases hcases with rfl | rfl
  · exact .inl rfl
  · refine .inr fun r hr hblank => ?_
    obtain rfl : ⟨some "kasko", .string "KASKO"⟩ = r := Option.some.inj hr
    exact absurd hblank (by decide)

/-- A space as a pattern takes every text from the rule behind it. -/
theorem apply_withoutBlanks_caught :
    let cfg : SubstringRules :=
      ⟨[⟨some " ", .string "BLANK"⟩, ⟨some "kasko", .string "KASKO"⟩], some (.string "YOK")⟩
    cfg.apply (.string "Kasko") = .string "BLANK" ∧
      cfg.withoutBlanks.apply (.string "Kasko") = .string "KASKO" ∧
      cfg.withoutBlanks.apply (.string "Kasko") ≠ cfg.apply (.string "Kasko") := by
  intro cfg
  have hwith : cfg.apply (.string "Kasko") = .string "BLANK" := by
    rw [SubstringRules.apply_of_not_array fun _ => Value.noConfusion]
    rfl
  have hwithout : cfg.withoutBlanks.apply (.string "Kasko") = .string "KASKO" := by
    rw [SubstringRules.apply_of_not_array fun _ => Value.noConfusion]
    rfl
  refine ⟨hwith, hwithout, fun h => ?_⟩
  exact absurd (Value.string.inj (hwithout.symm.trans (h.trans hwith))) (by decide)

end PolicyFields.Mapping
