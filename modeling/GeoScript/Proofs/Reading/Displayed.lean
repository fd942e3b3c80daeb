import GeoScript.Proofs.Decimal.ReadBack
import GeoScript.Proofs.Reading.Shape
import GeoScript.Proofs.Syntax.Tidy
import GeoScript.Proofs.Traversal

/-! # Reading what is shown

The text of a value is told apart by its first characters as the value itself is by its kind:
numbers, tuples in parentheses, lists in brackets and calls. Each text is read as the value that it
was made from, as soon as the parts of the value are items that are read back.

* `readArgument_display_number`, `readArgument_display_point`: finite numbers and points.
* `readArgument_display_list`, `readArgument_display_call`: lists and calls, from their parts.
* `enclosed?_eq_some_iff`, `callHead?_cases`: what the first and last characters tell.
* `Form.tells_of`, `form_brackets`, `form_of_callHead?`: the form of a text, and what it tells. -/

namespace GeoScript

/-- Every coordinate of a point is finite. -/
def Coordinates.IsFinite (p : Coordinates) : Prop :=
  Decimal.isFinite p.x = true ∧ Decimal.isFinite p.y = true ∧
    ∀ z, p.z = some z → Decimal.isFinite z = true

namespace Syntax

/-! ### First and last characters -/

theorem enclosed?_eq_some_iff {first last : Char} {cs inside : List Char} :
    enclosed? first last cs = some inside ↔ cs = first :: (inside ++ [last]) := by
  cases cs with
  | nil => simp [enclosed?]
  | cons c cs =>
    simp only [enclosed?, Option.ite_none_right_eq_some, Option.some.injEq, List.cons.injEq]
    constructor
    · rintro ⟨⟨rfl, hlast⟩, rfl⟩
      exact ⟨rfl, (List.dropLast_append_getLast? last hlast).symm⟩
    · rintro ⟨rfl, rfl⟩
      exact ⟨⟨rfl, List.getLast?_concat⟩, List.dropLast_concat⟩

theorem enclosed?_eq_none_of_ne {first last c : Char} (cs : List Char) (h : c ≠ first) :
    enclosed? first last (c :: cs) = none :=
  if_neg fun hand => h hand.1

theorem Number.read?_eq_none {cs : List Char} {c : Char} (hc : c ∈ cs)
    (hnum : Decimal.isNumeric c = false) (hblank : Text.isBlank c = false) :
    Number.read? cs = none := by
  cases h : Number.read? cs with
  | none => rfl
  | some n =>
    rcases Number.isNumeric_or_isBlank h c hc with hn | hb
    · rw [hn] at hnum; cases hnum
    · rw [hb] at hblank; cases hblank

/-! ### Identifiers -/

theorem isPlain_of_isIdentifierPart {c : Char} (h : isIdentifierPart c = true) :
    isPlain c = true :=
  isPlain_of_class h (by decide)

theorem isPlain_of_mem_identifier {cs : List Char} (h : isIdentifier cs = true) :
    ∀ c ∈ cs, isPlain c = true :=
  fun c hc => isPlain_of_isIdentifierPart (isIdentifierPart_of_mem h c hc)

/-! ### The head of a call -/

theorem callHead?_append {name : List Char} (after : List Char) (h : isIdentifier name = true) :
    callHead? (name ++ '(' :: after) = some (name, after) := by
  obtain ⟨c, cs, rfl, hc, hcs⟩ := isIdentifier_cons h
  rw [List.all_eq_true] at hcs
  have hstop : isIdentifierPart '(' = false := by decide
  have hblank : Text.isBlank '(' = false := by decide
  have htake : (cs ++ '(' :: after).takeWhile isIdentifierPart = cs := by
    rw [List.takeWhile_append_of_pos hcs, List.takeWhile_cons_of_neg (by simp [hstop]),
      List.append_nil]
  have hdrop : (cs ++ '(' :: after).dropWhile isIdentifierPart = '(' :: after := by
    rw [List.dropWhile_append_of_pos hcs, List.dropWhile_cons_of_neg (by simp [hstop])]
  have htrim : Text.trimStart ('(' :: after) = '(' :: after :=
    List.dropWhile_cons_of_neg (by simp [hblank])
  simp only [List.cons_append, callHead?, hc, if_true, hdrop, htrim, htake]

theorem callHead?_cases {cs name after : List Char} (h : callHead? cs = some (name, after)) :
    isIdentifier name = true ∧
      ∃ blanks, cs = name ++ blanks ++ '(' :: after ∧ ∀ c ∈ blanks, Text.isBlank c = true := by
  cases cs with
  | nil => cases h
  | cons c cs =>
    simp only [callHead?] at h
    split at h
    · next hc =>
      split at h
      · next rest hrest =>
        cases h
        obtain ⟨blanks, hblanks, hblank⟩ :=
          Text.exists_blanks_start (cs.dropWhile isIdentifierPart)
        rw [hrest] at hblanks
        refine ⟨?_, blanks, ?_, hblank⟩
        · rw [isIdentifier, hc, Bool.true_and]
          exact List.all_takeWhile
        · rw [List.append_assoc, ← hblanks, List.cons_append, List.takeWhile_append_dropWhile]
      · cases h
    · cases h

/-! ### Forms -/

/-- What the form of a text tells about the text. -/
def Form.Tells (cs : List Char) : Form → Prop
  | .number n => Number.read? cs = some n
  | .tuple => isTuple cs = true
  | .list items => ∃ inside, enclosed? '[' ']' cs = some inside ∧
      items = splitItems (Text.trim inside)
  | .call name arguments => ∃ head after inside, callHead? cs = some (head, after) ∧
      closeCall Nesting.inParenthesis after = some (inside, []) ∧ name = String.ofList head ∧
      arguments = splitArguments inside
  | .word => isTuple cs = false

theorem Form.tells_of {cs : List Char} {f : Form} (h : Form.of cs = .ok f) : f.Tells cs := by
  unfold Form.of at h
  split at h
  · next n hn =>
    cases h
    exact hn
  · split at h
    · next ht =>
      cases h
      exact ht
    · next ht =>
      split at h
      · next inside hi =>
        cases h
        exact ⟨inside, hi, rfl⟩
      · split at h
        · cases h
          exact Bool.eq_false_iff.2 ht
        · next head after hh =>
          split at h
          · cases h
          · next inside hc =>
            cases h
            exact ⟨head, after, inside, hh, hc, rfl, rfl⟩
          · cases h

theorem form_number {cs : List Char} {n : Number} (h : Number.read? cs = some n) :
    Form.of cs = .ok (.number n) := by
  rw [Form.of, h]

theorem form_tuple (inside : List Char) : Form.of ('(' :: (inside ++ [')'])) = .ok .tuple := by
  have hnum : Number.read? ('(' :: (inside ++ [')'])) = none :=
    Number.read?_eq_none (c := '(') (by simp) (by decide) (by decide)
  have htuple : isTuple ('(' :: (inside ++ [')'])) = true := by
    rw [isTuple, enclosed?_eq_some_iff.2 rfl]
    rfl
  rw [Form.of, hnum]
  simp only [htuple, if_true]

theorem tight_commaSeparated {ds : List (List Char)} (hne : ds ≠ [])
    (h : ∀ d ∈ ds, Text.Tight d) : Text.Tight (commaSeparated ds) := by
  induction ds with
  | nil => exact absurd rfl hne
  | cons d ds ih =>
    rw [List.forall_mem_cons] at h
    cases ds with
    | nil => exact h.1
    | cons e es => exact h.1.append (ih (by simp) h.2) [',', ' ']

theorem tight_of_mem_items {quotes : Bool} {ds : List (List Char)} (h : Items quotes ds) :
    ∀ d ∈ ds, Text.Tight d := by
  induction ds with
  | nil => simp
  | cons d ds ih => exact List.forall_mem_cons.2 ⟨h.1, ih h.2.2.2⟩

theorem trim_commaSeparated {quotes : Bool} {ds : List (List Char)} (h : Items quotes ds) :
    Text.trim (commaSeparated ds) = commaSeparated ds := by
  cases ds with
  | nil => rfl
  | cons d ds => exact Text.trim_of_tight (tight_commaSeparated (by simp) (tight_of_mem_items h))

theorem form_brackets (inside : List Char) :
    Form.of ('[' :: (inside ++ [']'])) = .ok (.list (splitItems (Text.trim inside))) := by
  have hnum : Number.read? ('[' :: (inside ++ [']'])) = none :=
    Number.read?_eq_none (c := '[') (by simp) (by decide) (by decide)
  have htuple : isTuple ('[' :: (inside ++ [']'])) = false := by
    rw [isTuple, enclosed?_eq_none_of_ne _ (by decide)]
    rfl
  have hlist := enclosed?_eq_some_iff.2 (rfl : '[' :: (inside ++ [']']) = _)
  rw [Form.of, hnum]
  simp only [htuple, hlist, Bool.false_eq_true, if_false]

theorem form_list {ds : List (List Char)} (h : Items false ds) :
    Form.of ('[' :: (commaSeparated ds ++ [']'])) = .ok (.list ds) := by
  rw [form_brackets, trim_commaSeparated h, splitItems, splitAtCommas_commaSeparated h]

/-- A text that starts like a call is one if its parenthesis is closed by the last character. -/
theorem form_of_callHead? {cs name after inside : List Char}
    (hhead : callHead? cs = some (name, after))
    (hclose : closeCall Nesting.inParenthesis after = some (inside, [])) :
    Form.of cs = .ok (.call (String.ofList name) (splitArguments inside)) := by
  obtain ⟨hname, blanks, hcs, -⟩ := callHead?_cases hhead
  obtain ⟨c, ds, rfl, hc, -⟩ := isIdentifier_cons hname
  have hnum : Number.read? cs = none :=
    Number.read?_eq_none (c := '(') (by simp [hcs]) (by decide) (by decide)
  have hne (first last : Char) (hfirst : isIdentifierStart first = false) :
      enclosed? first last cs = none := by
    rw [hcs]
    exact enclosed?_eq_none_of_ne _ (ne_of_isIdentifierStart hc hfirst)
  have htuple : isTuple cs = false := by
    rw [isTuple, hne '(' ')' rfl]
    rfl
  rw [Form.of, hnum]
  simp only [htuple, hne '[' ']' rfl, hhead, hclose, Bool.false_eq_true, if_false]

theorem form_call {name : List Char} {ds : List (List Char)} (hname : isIdentifier name = true)
    (h : Items true ds)
    (hclose : closeCall Nesting.inParenthesis (commaSeparated ds ++ [')']) =
      some (commaSeparated ds, [])) :
    Form.of (name ++ '(' :: (commaSeparated ds ++ [')'])) =
      .ok (.call (String.ofList name) ds) := by
  rw [form_of_callHead? (callHead?_append _ hname) hclose, splitArguments,
    splitAtCommas_commaSeparated h]

/-! ### Lists and calls -/

theorem display_list (vs : List Value) :
    (Value.list vs).display = '[' :: (commaSeparated (vs.map Value.display) ++ [']']) := by
  rw [Value.display, Value.displayAll_eq_map]
  rfl

theorem display_call (name : String) (vs : List Value) :
    (Value.expr (.command name vs)).display =
      name.toList ++ '(' :: (commaSeparated (vs.map Value.display) ++ [')']) := by
  rw [Value.display, Expr.display_command]
  simp

theorem tight_display_list (vs : List Value) : Text.Tight (Value.list vs).display := by
  rw [display_list]
  exact (Text.tight_singleton (by decide)).append (Text.tight_singleton (by decide)) _

theorem tight_display_call {name : String} (hname : isIdentifier name.toList = true)
    (vs : List Value) : Text.Tight (Value.expr (.command name vs)).display := by
  have h := (tight_of_isIdentifier hname).append (Text.tight_singleton (c := ')') (by decide))
    ('(' :: commaSeparated (vs.map Value.display))
  rw [display_call]
  rwa [List.append_assoc] at h

section Parts

variable {vars : Variables} {vs : List Value}
  (hread : ∀ v ∈ vs, readArgument vars v.display = .ok v)

include hread

theorem mapM_display : (vs.map Value.display).mapM (readArgument vars) = .ok vs := by
  rw [mapM_eq_ok_iff, List.forall₂_map_left_iff, List.forall₂_same]
  exact hread

/-- **A list is read from its text,** if its items are. -/
theorem readArgument_display_list (h : Items false (vs.map Value.display)) :
    readArgument vars (Value.list vs).display = .ok (.list vs) := by
  rw [display_list, readArgument_eq, form_list h]
  simp only [Except.bind, mapM_display hread, Except.map]

/-- **A call is read from its text,** if its arguments are. -/
theorem readArgument_display_call {name : String} (hname : isIdentifier name.toList = true)
    (h : Items true (vs.map Value.display))
    (hclose : closeCall Nesting.inParenthesis (commaSeparated (vs.map Value.display) ++ [')']) =
      some (commaSeparated (vs.map Value.display), [])) :
    readArgument vars (Value.expr (.command name vs)).display =
      .ok (.expr (.command name vs)) := by
  rw [display_call, readArgument_eq, form_call hname h hclose, String.ofList_toList]
  simp only [Except.bind, mapM_display hread, Except.map]

end Parts

/-! ### Numbers and points -/

/-- **A finite number is read from its text.** -/
theorem readArgument_display_number (vars : Variables) {n : Number} (h : n.IsFinite) :
    readArgument vars n.display = .ok (.number n) := by
  rw [readArgument_eq, form_number (Number.read?_display h)]
  rfl

theorem isPlain_of_isNumeric {c : Char} (h : Decimal.isNumeric c = true) : isPlain c = true :=
  isPlain_of_class h (by decide)

theorem isPlain_of_read? {cs : List Char} {n : Number} (h : Number.read? cs = some n) :
    ∀ c ∈ cs, isPlain c = true :=
  fun c hc => (Number.isNumeric_or_isBlank h c hc).elim isPlain_of_isNumeric isPlain_of_isBlank

/-- The texts of the coordinates of a point. -/
def coordinateTexts (p : Coordinates) : List (List Char) :=
  [Decimal.displayText p.x, Decimal.displayText p.y] ++ (p.z.map Decimal.displayText).toList

theorem display_point (p : Coordinates) :
    p.display = '(' :: (commaSeparated (coordinateTexts p) ++ [')']) := by
  obtain ⟨x, y, z⟩ := p
  cases z <;> rfl

theorem read?_cons_blank {x : Float} (h : Decimal.isFinite x = true) :
    Number.read? (' ' :: Decimal.displayText x) = some (.float x) := by
  have hread : Number.read? (Number.display (.float x)) = some (.float x) := Number.read?_display h
  have htight : Text.Tight (Number.display (.float x)) := Number.tight_display h
  rw [Number.display] at hread htight
  rw [← hread, Number.read?, trim_cons_blank htight, Number.read?, Text.trim_of_tight htight]

theorem comma_not_mem {x : Float} (h : Decimal.isFinite x = true) :
    ',' ∉ Decimal.displayText x := by
  intro hmem
  have hplain := isPlain_of_read? (Number.read?_display (n := .float x) h) ',' hmem
  cases hplain

theorem readPoint?_display {p : Coordinates} (h : p.IsFinite) : readPoint? p.display = some p := by
  obtain ⟨x, y, z⟩ := p
  obtain ⟨hx, hy, hz⟩ := h
  simp only at hx hy hz
  have hread : Number.read? (Decimal.displayText x) = some (.float x) :=
    Number.read?_display (n := .float x) hx
  rw [readPoint?, display_point, enclosed?_eq_some_iff.2 rfl]
  cases z with
  | none =>
    have hparts : Text.parts ',' (commaSeparated (coordinateTexts ⟨x, y, none⟩)) =
        [Decimal.displayText x, ' ' :: Decimal.displayText y] := by
      have hy' : ',' ∉ ' ' :: Decimal.displayText y := by simp [comma_not_mem hy]
      simp only [coordinateTexts, commaSeparated, Option.map_none, Option.toList_none,
        List.append_nil, List.append_assoc, List.cons_append, List.nil_append]
      rw [Text.parts_append _ (comma_not_mem hx), Text.parts_of_not_mem hy']
    simp only [bind, Option.bind, hparts, List.mapM_cons, List.mapM_nil, hread,
      read?_cons_blank hy, pure, Number.toFloat]
  | some z =>
    have hz' := hz z rfl
    have hparts : Text.parts ',' (commaSeparated (coordinateTexts ⟨x, y, some z⟩)) =
        [Decimal.displayText x, ' ' :: Decimal.displayText y, ' ' :: Decimal.displayText z] := by
      have hy' : ',' ∉ ' ' :: Decimal.displayText y := by simp [comma_not_mem hy]
      have hz'' : ',' ∉ ' ' :: Decimal.displayText z := by simp [comma_not_mem hz']
      simp only [coordinateTexts, commaSeparated, Option.map_some, Option.toList_some,
        List.append_assoc, List.cons_append, List.nil_append]
      rw [Text.parts_append _ (comma_not_mem hx), ← List.cons_append, Text.parts_append _ hy',
        Text.parts_of_not_mem hz'']
    simp only [bind, Option.bind, hparts, List.mapM_cons, List.mapM_nil, hread,
      read?_cons_blank hy, read?_cons_blank hz', pure, Number.toFloat]

/-- **A point with finite coordinates is read from its text.** -/
theorem readArgument_display_point (vars : Variables) {p : Coordinates} (h : p.IsFinite) :
    readArgument vars p.display = .ok (.point p) := by
  have hform : Form.of p.display = .ok .tuple := by
    rw [display_point]
    exact form_tuple _
  rw [readArgument_eq, hform]
  simp only [Except.bind, tupleValue, readPoint?_display h]

end Syntax

end GeoScript
