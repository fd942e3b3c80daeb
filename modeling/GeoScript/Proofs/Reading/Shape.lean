import Mathlib
import GeoScript.Proofs.Text.Trim
import GeoScript.Proofs.Traversal
import GeoScript.Syntax.Reader

/-! # The shape of what is read

What is read from a text is a call or a leaf with labels put on it one after the other, each of them
an identifier (`Shaped`). Whatever follows the labels of an expression, in a check or in an
evaluation, is proved by induction on its shape.

* `ReadAs`, `readAs_of_readUnlabelled`: what can be read without labels, by the form of the text.
* `readTrimmed_cases`: what can be read, with one label taken off.
* `readTrimmed_induction`: induction over the labels of a text; `Expr.readTrimmed_of_read`: what is
  read is such a text.
* `shaped_of_readTrimmed`, `shaped_of_read`: every expression that is read has this shape.
* `isEmptyText_of_isIdentifier`: a label is not blank. -/

namespace GeoScript.Syntax

/-! ### Identifiers are not blank -/

theorem isBlank_of_isIdentifierPart {c : Char} (h : isIdentifierPart c = true) :
    Text.isBlank c = false := by
  simp only [isIdentifierPart, Char.isAlphanum, Char.isAlpha, Char.isUpper, Char.isLower,
    Char.isDigit, Bool.or_eq_true, Bool.and_eq_true, decide_eq_true_eq, beq_iff_eq, ge_iff_le,
    UInt32.le_iff_toNat_le] at h
  rcases h with ((⟨h1, h2⟩ | ⟨h1, h2⟩) | ⟨h1, h2⟩) | rfl
  case inr => decide
  all_goals
    exact Text.isBlank_of_visible (Nat.lt_of_lt_of_le (by decide) h1)
      (Nat.lt_of_le_of_lt h2 (by decide))

theorem isIdentifierPart_of_isIdentifierStart {c : Char} (h : isIdentifierStart c = true) :
    isIdentifierPart c = true := by
  simp only [isIdentifierStart, Bool.or_eq_true] at h
  simp only [isIdentifierPart, Char.isAlphanum, Bool.or_eq_true]
  exact h.imp .inl id

theorem isIdentifier_cons {cs : List Char} (h : isIdentifier cs = true) :
    ∃ c ds, cs = c :: ds ∧ isIdentifierStart c = true ∧ ds.all isIdentifierPart = true := by
  cases cs with
  | nil => cases h
  | cons c ds =>
    simp only [isIdentifier, Bool.and_eq_true] at h
    exact ⟨c, ds, rfl, h.1, h.2⟩

theorem isIdentifierPart_of_mem {cs : List Char} (h : isIdentifier cs = true) :
    ∀ c ∈ cs, isIdentifierPart c = true := by
  obtain ⟨c, ds, rfl, hc, hds⟩ := isIdentifier_cons h
  rw [List.forall_mem_cons]
  exact ⟨isIdentifierPart_of_isIdentifierStart hc, List.all_eq_true.1 hds⟩

theorem tight_of_isIdentifier {cs : List Char} (h : isIdentifier cs = true) : Text.Tight cs := by
  refine Text.tight_of_not_blank ?_ fun c hc =>
    isBlank_of_isIdentifierPart (isIdentifierPart_of_mem h c hc)
  rintro rfl
  cases h

theorem ne_of_isIdentifierStart {c d : Char} (hc : isIdentifierStart c = true)
    (hd : isIdentifierStart d = false) : c ≠ d := by
  rintro rfl
  rw [hc] at hd
  cases hd

/-- **A label is not blank,** so that a construction does not refuse it. -/
theorem isEmptyText_of_isIdentifier {l : String} (h : isIdentifier l.toList = true) :
    Text.isEmptyText l = false := by
  have ht := tight_of_isIdentifier h
  rw [Text.isEmptyText, Text.trim_of_tight ht, List.isEmpty_eq_false_iff]
  exact ht.ne_nil

/-! ### Calls and leaves -/

/-- The expressions without labels that are read: calls, and leaves of the other kinds. -/
inductive Unlabelled : Expr → Prop
  | call (name : String) (arguments : List Value) : Unlabelled (.command name arguments)
  | leaf {kind : ExprKind} (v : Value) (hc : kind ≠ .command) (ha : kind ≠ .assignment) :
      Unlabelled (.leaf kind v)

/-- What a text without labels is read as, by its form. -/
inductive ReadAs (vars : Variables) (cs : List Char) : Expr → Prop
  | number {n : Number} (hf : Form.of cs = .ok (.number n)) :
      ReadAs vars cs (.leaf .number (.number n))
  | tuple (hf : Form.of cs = .ok .tuple) : ReadAs vars cs (.leaf .point (tupleValue cs))
  | list {parts : List (List Char)} {vs : List Value} (hf : Form.of cs = .ok (.list parts))
      (hvs : parts.mapM (readArgument vars) = .ok vs) : ReadAs vars cs (.leaf .list (.list vs))
  | call {name : String} {parts : List (List Char)} {vs : List Value}
      (hf : Form.of cs = .ok (.call name parts)) (hvs : parts.mapM (readArgument vars) = .ok vs) :
      ReadAs vars cs (.command name vs)
  | bound {v : Value} (hf : Form.of cs = .ok .word) (hget : vars.get? (String.ofList cs) = some v) :
      ReadAs vars cs (.leaf .variable v)
  | unbound (hf : Form.of cs = .ok .word) (hget : vars.get? (String.ofList cs) = none) :
      ReadAs vars cs (.leaf .identifier (.text (String.ofList cs)))

theorem readAs_of_readUnlabelled {vars : Variables} {cs : List Char} {e : Expr}
    (h : readUnlabelled vars cs = .ok e) : ReadAs vars cs e := by
  unfold readUnlabelled at h
  rcases hf : Form.of cs with problem | f
  · rw [hf] at h
    cases h
  · rw [hf] at h
    simp only [bind, Except.bind] at h
    cases f with
    | number n =>
      cases h
      exact .number hf
    | tuple =>
      cases h
      exact .tuple hf
    | list parts =>
      obtain ⟨vs, hvs, rfl⟩ := ok_of_map (f := fun vs => Expr.leaf .list (.list vs)) h
      exact .list hf hvs
    | call name parts =>
      obtain ⟨vs, hvs, rfl⟩ := ok_of_map (f := fun vs => Expr.command name vs) h
      exact .call hf hvs
    | word =>
      rcases hget : vars.get? (String.ofList cs) with _ | v
      · simp only [hget] at h
        cases h
        exact .unbound hf hget
      · simp only [hget] at h
        cases h
        exact .bound hf hget

theorem unlabelled_of_readUnlabelled {vars : Variables} {cs : List Char} {e : Expr}
    (h : readUnlabelled vars cs = .ok e) : Unlabelled e := by
  rcases readAs_of_readUnlabelled h with _ | _ | _ | _ | _ | _
  case call name parts vs hf hvs => exact .call name vs
  all_goals exact .leaf _ (by decide) (by decide)

/-! ### Labels -/

/-- The expressions that are read: labels that are identifiers, put on a call or a leaf. -/
inductive Shaped : Expr → Prop
  | unlabelled {e : Expr} (h : Unlabelled e) : Shaped e
  | labelled {name : String} {e : Expr} (hn : isIdentifier name.toList = true) (h : Shaped e) :
      Shaped (label name e)

/-- What is read is read without labels, or a label and what is read after it. -/
theorem readTrimmed_cases {vars : Variables} {cs : List Char} {e : Expr}
    (h : readTrimmed vars cs = .ok e) :
    (splitAtEquals Nesting.outside cs = none ∧ readUnlabelled vars cs = .ok e) ∨
      ∃ before after e', splitAtEquals Nesting.outside cs = some (before, after) ∧
        isIdentifier (Text.trim before) = true ∧ readTrimmed vars (Text.trim after) = .ok e' ∧
        e = label (String.ofList (Text.trim before)) e' := by
  rw [readTrimmed_eq] at h
  split at h
  · cases h
  · split at h
    · next hsplit => exact .inl ⟨hsplit, h⟩
    · next before after hsplit =>
      split at h
      · cases h
      · split at h
        · cases h
        · next hname =>
          cases hr : readTrimmed vars (Text.trim after) with
          | error problem => rw [hr] at h; cases h
          | ok e' =>
            rw [hr] at h
            cases h
            exact .inr ⟨before, after, e', hsplit, by simpa using hname, hr, rfl⟩

/-- **Induction over the labels of a text,** from what is to the right of a label to the whole. -/
theorem readTrimmed_induction {vars : Variables} {motive : List Char → Expr → Prop}
    (unlabelled : ∀ {cs : List Char} {e : Expr}, splitAtEquals Nesting.outside cs = none →
      readUnlabelled vars cs = .ok e → motive cs e)
    (labelled : ∀ {cs before after : List Char} {e : Expr},
      splitAtEquals Nesting.outside cs = some (before, after) →
      isIdentifier (Text.trim before) = true → readTrimmed vars (Text.trim after) = .ok e →
      motive (Text.trim after) e → motive cs (label (String.ofList (Text.trim before)) e))
    {cs : List Char} {e : Expr} (h : readTrimmed vars cs = .ok e) : motive cs e := by
  rcases readTrimmed_cases h with ⟨hsplit, hu⟩ | ⟨before, after, e', hsplit, hname, hr, rfl⟩
  · exact unlabelled hsplit hu
  · have hlt : (Text.trim after).length < cs.length := by
      have h1 := length_of_splitAtEquals hsplit
      have h2 := Text.length_trim_le after
      omega
    exact labelled hsplit hname hr (readTrimmed_induction unlabelled labelled hr)
termination_by cs.length

theorem shaped_of_readTrimmed {vars : Variables} {cs : List Char} {e : Expr}
    (h : readTrimmed vars cs = .ok e) : Shaped e := by
  refine readTrimmed_induction (motive := fun _ e => Shaped e) ?_ ?_ h
  · intro cs e _ hu
    exact .unlabelled (unlabelled_of_readUnlabelled hu)
  · intro cs before after e _ hname _ ih
    exact .labelled (by simpa using hname) ih

end Syntax

theorem Expr.readTrimmed_of_read {vars : Syntax.Variables} {text : String} {e : Expr}
    (h : Expr.read vars text = .ok e) :
    Syntax.readTrimmed vars (Text.trim text.toList) = .ok e := by
  unfold Expr.read at h
  rcases hr : Syntax.readTrimmed vars (Text.trim text.toList) with problem | e'
  · rw [hr] at h
    cases h
  · rw [hr] at h
    cases h
    rfl

/-- **Every expression that is read has labels that are identifiers, on a call or a leaf.** -/
theorem Expr.shaped_of_read {vars : Syntax.Variables} {text : String} {e : Expr}
    (h : Expr.read vars text = .ok e) : Syntax.Shaped e :=
  Syntax.shaped_of_readTrimmed (readTrimmed_of_read h)

end GeoScript
