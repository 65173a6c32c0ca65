import PolicyFields.CommandLine.Console

/-!
# What quiet steps come to

* `Step.Yields` — from some files a step comes to a result, leaves files and prints nothing; there
  is one rule for each way to put steps together.
* `attempt_apply`, `say_apply`, `sayAll_apply` — the steps around quiet ones.
-/

namespace PolicyFields.CommandLine

variable {ε α β : Type} {f g k : Files} {s : Step α} {next : α → Step β}

theorem bind_apply (s : Step α) (next : α → Step β) (d : Desk) : (s >>= next) d =
    match s d with
    | (.ok a, d) => next a d
    | (.error c, d) => (.error c, d) := by
  change ExceptT.bindCont next (s d).1 (s d).2 = _
  cases s d with
  | mk result d' => cases result <;> rfl

/-- From the files `f` a step comes to a result and leaves the files `g`. It prints nothing. -/
def Step.Yields (s : Step α) (f : Files) (result : Except Complaint α) (g : Files) : Prop :=
  ∀ printed, s ⟨f, printed⟩ = (result, ⟨g, printed⟩)

namespace Step.Yields

theorem pure (a : α) (f : Files) : Yields (pure a) f (.ok a) f := fun _ => rfl

theorem fail (c : Complaint) (f : Files) : Yields (fail c : Step α) f (.error c) f := fun _ => rfl

/-- What follows a step may print. -/
theorem bind_apply {a : α} (hs : s.Yields f (.ok a) g) (printed : List Piece) :
    (s >>= next) ⟨f, printed⟩ = next a ⟨g, printed⟩ := by
  rw [CommandLine.bind_apply, hs printed]

theorem bind {a : α} {result : Except Complaint β} (hs : s.Yields f (.ok a) g)
    (hnext : (next a).Yields g result k) : Yields (s >>= next) f result k := by
  intro printed
  rw [hs.bind_apply]
  exact hnext printed

theorem bind_error {c : Complaint} (hs : s.Yields f (.error c) g) :
    Yields (s >>= next) f (.error c) g := by
  intro printed
  rw [CommandLine.bind_apply, hs printed]

/-- A step may look at the desk if what it does depends on the files only. -/
theorem get_bind {next : Desk → Step β} {result : Except Complaint β}
    (hnext : ∀ printed, (next ⟨f, printed⟩).Yields f result g) : Yields (get >>= next) f result g :=
  fun printed => hnext printed printed

theorem hand (complain : ε → Complaint) (r : Except ε α) (f : Files) :
    Yields (hand complain r) f (r.mapError complain) f := by
  intro printed
  cases r <;> rfl

theorem hand_ok (complain : ε → Complaint) {r : Except ε α} {a : α} (h : r = .ok a) (f : Files) :
    Yields (CommandLine.hand complain r) f (.ok a) f :=
  h ▸ hand complain r f

theorem hand_error (complain : ε → Complaint) {r : Except ε α} {e : ε} (h : r = .error e)
    (f : Files) : Yields (CommandLine.hand complain r) f (.error (complain e)) f :=
  h ▸ hand complain r f

theorem fromFiles_ok {complain : ε → Complaint} {read : Files → Except ε α} {a : α}
    (h : read f = .ok a) : Yields (fromFiles complain read) f (.ok a) f :=
  get_bind fun _ => hand_ok _ h f

theorem fromFiles_error {complain : ε → Complaint} {read : Files → Except ε α} {e : ε}
    (h : read f = .error e) : Yields (fromFiles complain read) f (.error (complain e)) f :=
  get_bind fun _ => hand_error _ h f

theorem onFiles {complain : ε → Complaint} {change : Files → Except ε α × Files} {r : Except ε α}
    (h : change f = (r, g)) : Yields (onFiles complain change) f (r.mapError complain) g := by
  intro printed
  show CommandLine.hand complain (change f).1 ⟨(change f).2, printed⟩ = _
  rw [h]
  exact hand complain r g printed

theorem replaceFiles_ok {complain : ε → Complaint} {change : Files → Except ε Files}
    (h : change f = .ok g) : Yields (replaceFiles complain change) f (.ok ()) g :=
  onFiles (r := .ok ()) (by rw [h])

theorem replaceFiles_error {complain : ε → Complaint} {change : Files → Except ε Files} {e : ε}
    (h : change f = .error e) : Yields (replaceFiles complain change) f (.error (complain e)) f :=
  onFiles (r := .error e) (by rw [h])

end Step.Yields

/-! ## Steps around quiet ones -/

theorem attempt_apply {result : Except Complaint α} (h : s.Yields f result g)
    (printed : List Piece) : attempt s ⟨f, printed⟩ = (.ok result, ⟨g, printed⟩) := by
  unfold attempt
  change ((.ok (s ⟨f, printed⟩).1 : Except Complaint (Except Complaint α)), (s ⟨f, printed⟩).2) = _
  rw [h printed]

/-- A line as it is printed. -/
def linePieces (line : String) : List Piece := [.text line, .text "\n"]

theorem say_apply (line : String) (f : Files) (printed : List Piece) :
    say line ⟨f, printed⟩ = (.ok (), ⟨f, printed ++ linePieces line⟩) := rfl

theorem sayAll_apply (lines : List String) (f : Files) (printed : List Piece) :
    sayAll lines ⟨f, printed⟩ = (.ok (), ⟨f, printed ++ lines.flatMap linePieces⟩) := by
  induction lines generalizing printed with
  | nil =>
    rw [List.flatMap_nil, List.append_nil]
    rfl
  | cons line lines ih =>
    rw [List.flatMap_cons, ← List.append_assoc, ← ih]
    change (say line >>= fun _ => sayAll lines) ⟨f, printed⟩ = _
    rw [bind_apply, say_apply]

end PolicyFields.CommandLine
