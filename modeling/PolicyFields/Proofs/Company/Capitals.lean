import PolicyFields.Proofs.Company

/-!
# Names in capitals

A text is searched in small letters by the default rules. `I` is the capital of `i` there, and the
dotted capital `İ` becomes two characters, of which no name has the second. So the capitals of the
Turkish `i` and `ı` are the only ones that can make a name be overlooked.

* `TurkishCapital`, `Respelled` — letters and their Turkish capitals, and texts that differ in the
  case of letters.
* `Spared` — no name reaches over a letter where one text has its Turkish capital.
* `occurrences_respelled` — such texts have the same occurrences.
* `scores_respelled` — **letter case is ignored but for the Turkish capitals in names**, and a
  dotted capital parts a text like the end of a line.
-/

namespace PolicyFields.Company

open Text (lowerChar lowerChars lowerEach)

variable {needle before cs ds : List Char} {x y : Char} {c : Company}

/-! ## Texts that differ in case -/

/-- The letters with a capital of their own in Turkish. -/
inductive TurkishCapital : Char → Char → Prop
  | dotted : TurkishCapital 'i' 'İ'
  | dotless : TurkishCapital 'ı' 'I'

theorem turkishCapital_iff : TurkishCapital x y ↔ x = 'i' ∧ y = 'İ' ∨ x = 'ı' ∧ y = 'I' := by
  constructor
  · rintro (_ | _)
    · exact .inl ⟨rfl, rfl⟩
    · exact .inr ⟨rfl, rfl⟩
  · rintro (⟨rfl, rfl⟩ | ⟨rfl, rfl⟩)
    · exact .dotted
    · exact .dotless

instance (x y : Char) : Decidable (TurkishCapital x y) := decidable_of_iff _ turkishCapital_iff.symm

/-- The same letters, in whatever case: with one small form, or a letter and its Turkish capital. -/
def Respelled (cs ds : List Char) : Prop :=
  List.Forall₂ (fun x y => lowerChar x = lowerChar y ∨ TurkishCapital x y) cs ds

instance (cs ds : List Char) : Decidable (Respelled cs ds) :=
  inferInstanceAs (Decidable (List.Forall₂ _ cs ds))

/-- Where the second text has the Turkish capital of a letter, `needle` reaches over it in neither
of the two; `before` stands in front of both, in small letters. -/
def Spared (needle before cs ds : List Char) : Prop :=
  ∀ k < cs.length, ∀ x ∈ cs[k]?, ∀ y ∈ ds[k]?, TurkishCapital x y →
    ¬ ReachesOver needle (before ++ lowerEach (cs.take k)) (lowerEach (cs.drop k)) ∧
    ¬ ReachesOver needle (before ++ lowerEach (ds.take k)) (lowerEach (ds.drop k))

-- The letters are asked one by one: characters are finitely many, and an instance for `∀ x : Char`
-- would run through all of them.
instance (needle before cs ds : List Char) : Decidable (Spared needle before cs ds) :=
  @Nat.decidableBallLT _ _ fun k _ =>
    @Option.decidableForallMem _ _ (fun _ => @Option.decidableForallMem _ _
      (fun _ => inferInstance) ds[k]?) cs[k]?

theorem Spared.tail (h : Spared needle before (x :: cs) (y :: ds))
    (hxy : lowerChar x = lowerChar y) :
    Spared needle (before ++ lowerChar x) cs ds := by
  intro k hk a ha b hb hab
  have hnext := h (k + 1) (Nat.succ_lt_succ hk) a ha b hb hab
  simp only [List.take_succ_cons, List.drop_succ_cons, Text.lowerEach_cons] at hnext
  rw [List.append_assoc, List.append_assoc]
  exact hxy ▸ hnext

/-- What stands in front of a letter does not matter to what begins behind it. -/
theorem Spared.tail_nil (h : Spared needle before (x :: cs) (y :: ds)) :
    Spared needle [] cs ds := by
  intro k hk a ha b hb hab
  obtain ⟨hcs, hds⟩ := h (k + 1) (Nat.succ_lt_succ hk) a ha b hb hab
  simp only [List.take_succ_cons, List.drop_succ_cons, Text.lowerEach_cons,
    ← List.append_assoc before] at hcs hds
  rw [List.nil_append, List.nil_append]
  exact ⟨fun hreach => hcs (hreach.mono (List.suffix_append _ _)),
    fun hreach => hds (hreach.mono (List.suffix_append _ _))⟩

/-! ## Occurrences in them -/

theorem lowerChar_dotted : lowerChar 'İ' = ['i', '\u0307'] := by decide

/-- **Texts that differ in case have the same occurrences** if the letters with Turkish capitals are
spared. -/
theorem occurrences_respelled (hne : needle ≠ []) (hdot : '\u0307' ∉ needle)
    (h : Respelled cs ds) (hspared : Spared needle before cs ds) :
    occurrences needle (before ++ lowerEach cs) = occurrences needle (before ++ lowerEach ds) := by
  induction h generalizing before with
  | nil => rfl
  | @cons x y cs ds hxy htail ih =>
    rw [Text.lowerEach_cons, Text.lowerEach_cons]
    rcases hxy with hsmall | hcapital
    · rw [← hsmall, ← List.append_assoc, ← List.append_assoc]
      exact ih (hspared.tail hsmall)
    · -- Nothing reaches over the letter, so both texts fall into the parts in front of it and
      -- behind it.
      obtain ⟨hcs, hds⟩ := hspared 0 (Nat.succ_pos _) x rfl y rfl hcapital
      have hrest : occurrences needle (lowerEach cs) = occurrences needle (lowerEach ds) :=
        ih hspared.tail_nil
      simp only [List.take_zero, Text.lowerEach_nil, List.append_nil, List.drop_zero,
        Text.lowerEach_cons] at hcs hds
      cases hcapital with
      | dotted =>
        have hsmall : lowerChar 'i' = ['i'] := by decide
        rw [hsmall, List.singleton_append] at hcs ⊢
        rw [lowerChar_dotted, List.cons_append, List.singleton_append] at hds ⊢
        rw [occurrences_append hne hcs, occurrences_append hne hds,
          occurrences_cons_of_not_mem hne hdot, hrest]
      | dotless =>
        have hsmall : lowerChar 'ı' = ['ı'] := by decide
        have hcapital : lowerChar 'I' = ['i'] := by decide
        rw [hsmall, List.singleton_append] at hcs ⊢
        rw [hcapital, List.singleton_append] at hds ⊢
        rw [occurrences_append hne hcs, occurrences_append hne hds, hrest]

/-! ## The names that are known -/

/-- A name whose occurrences do not depend on what stands around a letter, nor on the dot that a
dotted capital leaves behind `i`. -/
structure IsPlain (name : String) : Prop where
  ne_empty : name ≠ ""
  no_dot : '\u0307' ∉ name.toList
  no_sigma : 'σ' ∉ name.toList ∧ 'ς' ∉ name.toList
  last_ne : name.toList.getLast? ≠ some 'i'

instance (name : String) : Decidable (IsPlain name) :=
  decidable_of_iff (name ≠ "" ∧ '\u0307' ∉ name.toList ∧ ('σ' ∉ name.toList ∧ 'ς' ∉ name.toList) ∧
      name.toList.getLast? ≠ some 'i')
    ⟨fun ⟨h₁, h₂, h₃, h₄⟩ => ⟨h₁, h₂, h₃, h₄⟩, fun ⟨h₁, h₂, h₃, h₄⟩ => ⟨h₁, h₂, h₃, h₄⟩⟩

theorem isPlain_known : ∀ c ∈ known, ∀ name ∈ c.names, IsPlain name := by
  decide +kernel

theorem IsPlain.toList_ne_nil {name : String} (h : IsPlain name) : name.toList ≠ [] :=
  mt String.toList_eq_nil_iff.1 h.ne_empty

/-- Such a name is looked for among the characters in small letters, one by one. -/
theorem IsPlain.occurrences_lowerChars {name : String} (h : IsPlain name) (cs : List Char) :
    occurrences name.toList (lowerChars cs) = occurrences name.toList (lowerEach cs) := by
  refine occurrencesFrom_congr ((Text.forall₂_lowerChars cs).imp fun a b hab => ?_) 0
  refine hab.imp_right ?_
  rintro ⟨rfl, rfl⟩
  exact h.no_sigma.symm

/-- No such name reaches over a dotted capital. -/
theorem IsPlain.not_reachesOver_dotted {name : String} (h : IsPlain name) :
    ¬ ReachesOver name.toList cs ('i' :: '\u0307' :: ds) := by
  rintro ⟨j, hj, -, hafter⟩
  rw [List.drop_eq_getElem_cons hj, List.cons_prefix_cons] at hafter
  obtain ⟨hfirst, hafter⟩ := hafter
  by_cases hlast : j + 1 < name.toList.length
  · rw [List.drop_eq_getElem_cons hlast, List.cons_prefix_cons] at hafter
    exact h.no_dot (hafter.1 ▸ List.getElem_mem hlast)
  · have hend : name.toList.getLast? = some name.toList[j] := by
      rw [List.getLast?_eq_getElem?, List.getElem?_eq_some_iff]
      exact ⟨by omega, by congr; omega⟩
    exact h.last_ne (hend.trans (congrArg some hfirst))

/-- **A dotted capital parts a text** like the end of a line. -/
theorem scoreIn_append_dotted (hc : ∀ name ∈ c.names, IsPlain name) (first second : String) :
    c.scoreIn (first ++ "İ" ++ second) = c.scoreIn first + c.scoreIn second := by
  have hparts : (first ++ "İ" ++ second).toList = first.toList ++ 'İ' :: second.toList := by simp
  rw [scoreIn, scoreIn, scoreIn, hparts, score_eq_sum, score_eq_sum, score_eq_sum,
    ← List.sum_map_add]
  refine congrArg List.sum (List.map_congr_left fun name hname => ?_)
  have hplain := hc name hname
  rw [hplain.occurrences_lowerChars, hplain.occurrences_lowerChars, hplain.occurrences_lowerChars,
    Text.lowerEach_append, Text.lowerEach_cons, lowerChar_dotted, List.cons_append,
    List.singleton_append, occurrences_append hplain.toList_ne_nil hplain.not_reachesOver_dotted,
    occurrences_cons_of_not_mem hplain.toList_ne_nil hplain.no_dot]

/-- No name of a company reaches over a letter where `second` has its Turkish capital, neither in
one text nor in the other. -/
def Spares (c : Company) (first second : String) : Prop :=
  ∀ name ∈ c.names, Spared name.toList [] first.toList second.toList

instance (c : Company) (first second : String) : Decidable (c.Spares first second) :=
  inferInstanceAs (Decidable (∀ name ∈ c.names, _))

theorem scoreIn_respelled (hc : ∀ name ∈ c.names, IsPlain name) {first second : String}
    (h : Respelled first.toList second.toList) (hspares : c.Spares first second) :
    c.scoreIn first = c.scoreIn second := by
  rw [scoreIn, scoreIn, score_eq_sum, score_eq_sum]
  refine congrArg List.sum (List.map_congr_left fun name hname => ?_)
  have hplain := hc name hname
  rw [hplain.occurrences_lowerChars, hplain.occurrences_lowerChars]
  exact occurrences_respelled hplain.toList_ne_nil hplain.no_dot h (hspares name hname)

/-- **Letter case is ignored but for the Turkish capitals in names.** Texts that differ in the case
of letters give every known company the same score, and so the same detection, if no name of it
reaches over a letter that has its Turkish capital in the second. Over a dotted capital no name can
reach: it parts the second text like the end of a line. -/
theorem scores_respelled (first second : String) (h : Respelled first.toList second.toList) :
    (∀ c ∈ known, c.Spares first second → c.scoreIn first = c.scoreIn second) ∧
    ((∀ c ∈ known, c.Spares first second) → detect? known first = detect? known second) ∧
    ∀ c ∈ known, ∀ before after, second = before ++ "İ" ++ after →
      c.scoreIn second = c.scoreIn before + c.scoreIn after := by
  refine ⟨fun c hc => scoreIn_respelled (isPlain_known c hc) h, fun hspares => ?_, ?_⟩
  · have hscores : scores known first = scores known second := by
      rw [scores_eq, scores_eq]
      refine List.map_congr_left fun c hc => ?_
      rw [scoreIn_respelled (isPlain_known c hc) h (hspares c hc)]
    rw [detect?, detect?, hscores]
  · rintro c hc before after rfl
    exact scoreIn_append_dotted (isPlain_known c hc) before after

/-- Capitals in a name by the default rules, and Turkish ones elsewhere. -/
theorem scores_respelled_elsewhere :
    let first := "doğa sigorta, ılıca izmir"
    let second := "DOĞA SIGORTA, ILıca İzmir"
    Respelled first.toList second.toList ∧ (∀ c ∈ known, c.Spares first second) ∧
      (∀ c ∈ known, c.scoreIn first = c.scoreIn second) ∧
      detect? known first = some "doga" ∧ detect? known second = some "doga" ∧
      ∀ c ∈ known, c.scoreIn second = c.scoreIn "DOĞA SIGORTA, ILıca " + c.scoreIn "zmir" := by
  intro first second
  have hrespelled : Respelled first.toList second.toList := by decide
  have hspares : ∀ c ∈ known, c.Spares first second := by decide +kernel
  have hfirst : detect? known first = some "doga" := by decide +kernel
  obtain ⟨hscores, hdetect, hdotted⟩ := scores_respelled first second hrespelled
  exact ⟨hrespelled, hspares, fun c hc => hscores c hc (hspares c hc), hfirst,
    hdetect hspares ▸ hfirst, fun c hc => hdotted c hc _ _ (by decide)⟩

/-- A Turkish capital in a name makes it be overlooked. -/
theorem scores_respelled_overlooked :
    let ray : Company := ⟨"ray", ["ray sigorta", "ray sig"]⟩
    let replaced (x y : Char) : Prop := x = y ∨ TurkishCapital x y
    ray ∈ known ∧
      List.Forall₂ replaced "RAY SiGORTA".toList "RAY SİGORTA".toList ∧
      ray.scoreIn "RAY SiGORTA" = 2 ∧ ray.scoreIn "RAY SİGORTA" = 0 ∧
      detect? known "RAY SiGORTA" = some "ray" ∧ detect? known "RAY SİGORTA" = none ∧
      List.Forall₂ replaced "türkiye katılım".toList "türkiye katIlIm".toList ∧
      detect? known "türkiye katılım" = some "turkiyekatilim" ∧
      detect? known "türkiye katIlIm" = none := by
  decide +kernel

end PolicyFields.Company
