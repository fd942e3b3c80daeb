import GeoScript.Proofs.Reading.Labelled
import GeoScript.Proofs.Syntax.Neutral

/-! # Reading undoes showing

A value is *well-formed* if it is made of finite numbers, points with finite coordinates and
identifiers, in lists and calls nested in any way; an expression is well-formed if it is a call or a
leaf that holds such a value, under any number of labels. The text of a well-formed value keeps to
itself, so no walk over the text around it stops inside, and every well-formed expression is read
from its text, in a session without variables.

* `Value.WellFormed`, `Expr.WellFormed`: the whole language.
* `readBack`: values, by induction on how they are formed.
* `Expr.read_render`: the main result. -/

namespace GeoScript

/-! ### The whole language -/

/-- The values that stand for themselves: finite numbers and points, identifiers, lists and calls
without labels. -/
inductive Value.WellFormed : Value → Prop
  | number {n : Number} (h : n.IsFinite) : WellFormed (.number n)
  | point {p : Coordinates} (h : p.IsFinite) : WellFormed (.point p)
  | text {s : String} (h : Syntax.isIdentifier s.toList = true) : WellFormed (.text s)
  | list {items : List Value} (h : ∀ v ∈ items, WellFormed v) : WellFormed (.list items)
  | call {name : String} {arguments : List Value} (hname : Syntax.isIdentifier name.toList = true)
      (h : ∀ v ∈ arguments, WellFormed v) : WellFormed (.expr (.command name arguments))

/-- Calls, with or without a label, leaves, and assignments to a label. What is assigned is not a
call without a label, because such a call takes the label itself. -/
inductive Expr.WellFormed : Expr → Prop
  | call {name : String} {arguments : List Value} (hname : Syntax.isIdentifier name.toList = true)
      (h : ∀ v ∈ arguments, v.WellFormed) : WellFormed (.command name arguments)
  | labelledCall {label name : String} {arguments : List Value}
      (hlabel : Syntax.isIdentifier label.toList = true)
      (hname : Syntax.isIdentifier name.toList = true) (h : ∀ v ∈ arguments, v.WellFormed) :
      WellFormed ((Expr.command name arguments).withLabel label)
  | assignment {label : String} {e : Expr} (hlabel : Syntax.isIdentifier label.toList = true)
      (he : WellFormed e) (hne : ¬ (e.kind = .command ∧ e.label = none)) :
      WellFormed (.assignment label e)
  | number {n : Number} (h : n.IsFinite) : WellFormed (.leaf .number (.number n))
  | point {p : Coordinates} (h : p.IsFinite) : WellFormed (.leaf .point (.point p))
  | list {items : List Value} (h : ∀ v ∈ items, v.WellFormed) :
      WellFormed (.leaf .list (.list items))
  | identifier {s : String} (h : Syntax.isIdentifier s.toList = true) :
      WellFormed (.leaf .identifier (.text s))

namespace Syntax

/-! ### Identifiers are words -/

theorem isDigit_of_isIdentifierStart {c : Char} (h : isIdentifierStart c = true) :
    c.isDigit = false := by
  have h95 : ('_' : Char).val.toNat = 95 := rfl
  rw [Bool.eq_false_iff]
  intro hd
  simp only [Char.isDigit, Bool.and_eq_true, decide_eq_true_eq, ge_iff_le,
    UInt32.le_iff_toNat_le] at hd
  have hlow := Nat.le_trans hd.2 (show _ ≤ 57 by decide)
  simp only [isIdentifierStart, Char.isAlpha, Char.isUpper, Char.isLower, Bool.or_eq_true,
    Bool.and_eq_true, decide_eq_true_eq, beq_iff_eq, ge_iff_le, UInt32.le_iff_toNat_le] at h
  rcases h with (⟨h1, -⟩ | ⟨h1, -⟩) | rfl
  · exact absurd (Nat.le_trans h1 hlow) (by decide)
  · exact absurd (Nat.le_trans h1 hlow) (by decide)
  · omega

theorem Number.read?_of_isIdentifier {cs : List Char} (h : isIdentifier cs = true) :
    Number.read? cs = none := by
  have htrim := Text.trim_of_tight (tight_of_isIdentifier h)
  obtain ⟨c, ds, rfl, hc, -⟩ := isIdentifier_cons h
  have hsign : Decimal.splitSign (c :: ds) = (false, c :: ds) := by
    unfold Decimal.splitSign
    split
    · next heq => cases heq; exact absurd rfl (ne_of_isIdentifierStart hc rfl)
    · next heq => cases heq; exact absurd rfl (ne_of_isIdentifierStart hc rfl)
    · rfl
  have hfraction : Decimal.splitFraction (c :: ds) = (none, c :: ds) := by
    unfold Decimal.splitFraction
    split
    · next heq => cases heq; exact absurd rfl (ne_of_isIdentifierStart hc rfl)
    · rfl
  have hdigit := isDigit_of_isIdentifierStart hc
  have hread : Decimal.Literal.read? (c :: ds) = none := by
    simp [Decimal.Literal.read?, hsign, hfraction, hdigit]
  rw [Number.read?, htrim, hread, Option.map_none]

theorem form_of_isIdentifier {cs : List Char} (h : isIdentifier cs = true) :
    Form.of cs = .ok .word := by
  have hnum := Number.read?_of_isIdentifier h
  obtain ⟨c, ds, rfl, hc, hds⟩ := isIdentifier_cons h
  have htuple : isTuple (c :: ds) = false := by
    rw [isTuple, enclosed?_eq_none_of_ne _ (ne_of_isIdentifierStart hc rfl)]
    rfl
  have hdrop : ds.dropWhile isIdentifierPart = [] := by
    rw [← List.append_nil ds, List.dropWhile_append_of_pos (List.all_eq_true.1 hds)]
    rfl
  have hhead : callHead? (c :: ds) = none := by
    simp [callHead?, hc, hdrop, Text.trimStart]
  have hlist : enclosed? '[' ']' (c :: ds) = none :=
    enclosed?_eq_none_of_ne _ (ne_of_isIdentifierStart hc rfl)
  rw [Form.of, hnum]
  simp only [htuple, hlist, hhead, Bool.false_eq_true, if_false]

/-! ### Values -/

/-- The text of a value may stand anywhere, and is read as the value. -/
structure ReadBack (v : Value) : Prop where
  neutral : Neutral 0 v.display
  tight : Text.Tight v.display
  read : readArgument .empty v.display = .ok v

theorem readBack_number {n : Number} (h : n.IsFinite) : ReadBack (.number n) where
  neutral := neutral_of_isPlain (isPlain_of_read? (Number.read?_display h))
  tight := Number.tight_display h
  read := readArgument_display_number .empty h

theorem readBack_point {p : Coordinates} (h : p.IsFinite) : ReadBack (.point p) := by
  have hcoordinate : ∀ {x : Float}, Decimal.isFinite x = true →
      Neutral 0 (Decimal.displayText x) := fun {x} hx =>
    neutral_of_isPlain (isPlain_of_read? (Number.read?_display (n := .float x) hx))
  have hdisplay : (Value.point p).display = '(' :: (commaSeparated (coordinateTexts p) ++ [')']) :=
    display_point p
  refine ⟨?_, ?_, readArgument_display_point .empty h⟩
  · rw [hdisplay]
    refine (neutral_commaSeparated fun d hd => ?_).enclose encloses_parens
    obtain ⟨hx, hy, hz⟩ := h
    simp only [coordinateTexts, List.mem_append, List.mem_cons, List.not_mem_nil, or_false,
      Option.mem_toList, Option.map_eq_some_iff] at hd
    rcases hd with (rfl | rfl) | ⟨z, hz', rfl⟩
    · exact hcoordinate hx
    · exact hcoordinate hy
    · exact hcoordinate (hz z hz')
  · rw [hdisplay]
    exact (Text.tight_singleton (by decide)).append (Text.tight_singleton (by decide)) _

theorem readBack_text {s : String} (h : isIdentifier s.toList = true) : ReadBack (.text s) where
  neutral := neutral_of_isPlain (isPlain_of_mem_identifier h)
  tight := tight_of_isIdentifier h
  read := by
    have hdisplay : (Value.text s).display = s.toList := by rw [Value.display]
    rw [hdisplay, readArgument_eq, form_of_isIdentifier h]
    simp only [Except.bind, wordValue, Table.get?_empty, Option.getD_none, String.ofList_toList]

section Parts

variable {vs : List Value} (h : ∀ v ∈ vs, ReadBack v)

include h

theorem neutral_displays : ∀ d ∈ vs.map Value.display, Neutral 0 d ∧ Text.Tight d := by
  intro d hd
  obtain ⟨v, hv, rfl⟩ := List.mem_map.1 hd
  exact ⟨(h v hv).neutral, (h v hv).tight⟩

theorem neutral_inside : Neutral 1 (commaSeparated (vs.map Value.display)) :=
  neutral_commaSeparated fun d hd => (neutral_displays h d hd).1

theorem readBack_list : ReadBack (.list vs) where
  neutral := by
    rw [display_list]
    exact (neutral_inside h).enclose encloses_brackets
  tight := tight_display_list vs
  read := readArgument_display_list (fun v hv => (h v hv).read)
    (items_of_neutral false (neutral_displays h))

theorem readBack_call {name : String} (hname : isIdentifier name.toList = true) :
    ReadBack (.expr (.command name vs)) where
  neutral := by
    rw [display_call]
    exact (neutral_of_isPlain (isPlain_of_mem_identifier hname)).append
      ((neutral_inside h).enclose encloses_parens)
  tight := tight_display_call hname vs
  read := readArgument_display_call (fun v hv => (h v hv).read) hname
    (items_of_neutral true (neutral_displays h)) (closeCall_of_neutral (neutral_inside h))

end Parts

/-- **Well-formed values are read back.** -/
theorem readBack {v : Value} (h : v.WellFormed) : ReadBack v := by
  induction h with
  | number h => exact readBack_number h
  | point h => exact readBack_point h
  | text h => exact readBack_text h
  | list _ ih => exact readBack_list ih
  | call hname _ ih => exact readBack_call ih hname

/-! ### Expressions -/

theorem readTrimmed_exprOf {v : Value} (h : ReadBack v) :
    readTrimmed .empty v.display = .ok (exprOf v.display v) := by
  rw [readTrimmed_eq, if_neg (by simp [h.tight.ne_nil]), splitAtEquals_of_neutral h.neutral]
  simp only [readUnlabelled_eq, h.read, Except.map]

theorem exprOf_text {s : String} (h : isIdentifier s.toList = true) :
    exprOf s.toList (.text s) = .leaf .identifier (.text s) := by
  have htuple : isTuple s.toList = false := Form.tells_of (form_of_isIdentifier h)
  rw [exprOf, htuple]
  rfl

theorem readTrimmed_label {name : String} {e : Expr} (hname : isIdentifier name.toList = true)
    (hshape : Shaped e) (h : Text.Tight e.display ∧ readTrimmed .empty e.display = .ok e) :
    Text.Tight (label name e).display ∧
      readTrimmed .empty (label name e).display = .ok (label name e) := by
  rw [display_label hshape]
  refine ⟨(tight_of_isIdentifier hname).append h.1 _, ?_⟩
  rw [readTrimmed_labelled hname h.1 h.2, String.ofList_toList]

/-- By induction on how the expression is formed. -/
theorem readTrimmed_of_wellFormed {e : Expr} (h : e.WellFormed) :
    Text.Tight e.display ∧ readTrimmed .empty e.display = .ok e := by
  have hvalue {v : Value} {e : Expr} (hv : ReadBack v) (he : exprOf v.display v = e) :
      Text.Tight e.display ∧ readTrimmed .empty e.display = .ok e := by
    rw [← he, display_exprOf]
    exact ⟨hv.tight, readTrimmed_exprOf hv⟩
  induction h with
  | call hname hargs => exact hvalue (readBack_call (fun v hv => readBack (hargs v hv)) hname) rfl
  | @labelledCall l name arguments hlabel hname hargs =>
    have hcall := hvalue (readBack_call (fun v hv => readBack (hargs v hv)) hname) rfl
    exact readTrimmed_label hlabel (.unlabelled (.call name arguments)) hcall
  | @assignment l e hlabel _ hne ih =>
    have hassign : label l e = .assignment l e := if_neg hne
    rw [← hassign]
    exact readTrimmed_label hlabel (shaped_of_readTrimmed ih.2) ih
  | number h => exact hvalue (readBack_number h) rfl
  | point h => exact hvalue (readBack_point h) rfl
  | list h => exact hvalue (readBack_list fun v hv => readBack (h v hv)) rfl
  | @identifier s h =>
    have hdisplay : (Value.text s).display = s.toList := by rw [Value.display]
    exact hvalue (readBack_text h) (by rw [hdisplay]; exact exprOf_text h)

end Syntax

/-- **Reading undoes showing.** Every well-formed expression is read from its text. -/
theorem Expr.read_render {e : Expr} (h : e.WellFormed) : Expr.read .empty e.render = .ok e := by
  obtain ⟨htight, hread⟩ := Syntax.readTrimmed_of_wellFormed h
  rw [Expr.read, Expr.render, String.toList_ofList, Text.trim_of_tight htight, hread]
  rfl

/-- Two labels, a call, and in it a list, a point and another call. -/
def Expr.chain : Expr :=
  .assignment "A" ((Expr.command "Join" [.list [.text "p", .number (.float 0.1)],
    .point ⟨0.5, -2, none⟩, .expr (.command "Origin" [])]).withLabel "B")

theorem Expr.read_render_chain :
    Expr.chain.WellFormed ∧ Expr.read .empty Expr.chain.render = .ok Expr.chain := by
  have hlist : (Value.list [.text "p", .number (.float 0.1)]).WellFormed := by
    refine .list fun v hv => ?_
    simp only [List.mem_cons, List.not_mem_nil, or_false] at hv
    rcases hv with rfl | rfl
    · exact .text (by decide)
    · exact .number (by unfold Number.IsFinite; decide +kernel)
  have hpoint : (Value.point ⟨0.5, -2, none⟩).WellFormed :=
    .point ⟨by decide +kernel, by decide +kernel, by simp⟩
  have hcall : (Value.expr (.command "Origin" [])).WellFormed := .call (by decide) (by simp)
  have hchain : Expr.chain.WellFormed := by
    refine .assignment (by decide) (.labelledCall (by decide) (by decide) fun v hv => ?_) ?_
    · simp only [List.mem_cons, List.not_mem_nil, or_false] at hv
      rcases hv with rfl | rfl | rfl
      · exact hlist
      · exact hpoint
      · exact hcall
    · rintro ⟨-, hnone⟩
      cases hnone
  exact ⟨hchain, Expr.read_render hchain⟩

end GeoScript
