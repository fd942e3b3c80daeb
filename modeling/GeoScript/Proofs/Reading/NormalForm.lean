import GeoScript.Proofs.Reading.Labelled

/-! # The text of an expression is its normal form

Whatever text an expression was read from, with commas and blanks too many, quotes that are never
closed, brackets that do not match or tuples that are no points: the text that shows the expression
is read as the same expression. The two texts may be far apart, but the second is the first one
tidied, so every walk that found the parts of the first finds the corresponding parts of the second.

* `Expr.IsFinite`: no number in an expression is infinite or undefined.
* `Shown`: the text of a value against the text that the value was read from.
* `shown_of_readArgument`: by induction on the length of the text.
* `readTrimmed_display`: and from there by induction on the labels.
* `Expr.read_render_of_read`: the main result. -/

namespace GeoScript

/-! ### Finite values -/

mutual

/-- No number in an expression is infinite or undefined. -/
def Expr.IsFinite : Expr → Prop
  | { kind := _, value, label := _, children } => Expr.ValueIsFinite value ∧ Expr.AllFinite children

/-- No number in the value of a node is infinite or undefined. -/
def Expr.ValueIsFinite : Option Value → Prop
  | none => True
  | some v => v.IsFinite

/-- No number in some expressions is infinite or undefined. -/
def Expr.AllFinite : List Expr → Prop
  | [] => True
  | e :: es => e.IsFinite ∧ Expr.AllFinite es

/-- No number in a value is infinite or undefined. -/
def Value.IsFinite : Value → Prop
  | .number n => n.IsFinite
  | .point p => p.IsFinite
  | .list items => Value.AllFinite items
  | .text _ => True
  | .expr e => e.IsFinite

/-- No number in some values is infinite or undefined. -/
def Value.AllFinite : List Value → Prop
  | [] => True
  | v :: vs => v.IsFinite ∧ Value.AllFinite vs

end

theorem Expr.isFinite_leaf {kind : ExprKind} {v : Value} :
    (Expr.leaf kind v).IsFinite ↔ v.IsFinite := by
  simp [Expr.leaf, Expr.IsFinite, Expr.ValueIsFinite, Expr.AllFinite]

theorem Expr.allFinite_arguments (vs : List Value) :
    Expr.AllFinite (vs.map (Expr.leaf .argument)) ↔ Value.AllFinite vs := by
  induction vs with
  | nil => simp [Expr.AllFinite, Value.AllFinite]
  | cons v vs ih =>
    rw [List.map_cons, Expr.AllFinite, Value.AllFinite, Expr.isFinite_leaf, ih]

theorem Expr.isFinite_command {name : String} {vs : List Value} :
    (Expr.command name vs).IsFinite ↔ Value.AllFinite vs := by
  simp [Expr.command, Expr.IsFinite, Expr.ValueIsFinite, Value.IsFinite, Expr.allFinite_arguments]

theorem Expr.isFinite_label {name : String} {e : Expr} :
    (Syntax.label name e).IsFinite ↔ e.IsFinite := by
  obtain ⟨kind, value, l, children⟩ := e
  unfold Syntax.label
  split
  · simp [Expr.withLabel, Expr.IsFinite]
  · simp [Expr.assignment, Expr.IsFinite, Expr.ValueIsFinite, Value.IsFinite, Expr.AllFinite]

namespace Syntax

/-! ### Arguments -/

/-- The text of a value `v` that was read from the text `cs`: a tidied one, tight, and read as the
same value. -/
structure Shown (cs : List Char) (v : Value) : Prop where
  tidies : Tidies cs v.display
  tight : Text.Tight v.display
  read : readArgument .empty v.display = .ok v

theorem shown_number {cs : List Char} {n : Number} (h : Number.read? cs = some n)
    (hn : n.IsFinite) : Shown cs (.number n) where
  tidies := .of_isPlain (isPlain_of_read? h) (isPlain_of_read? (Number.read?_display hn))
  tight := Number.tight_display hn
  read := readArgument_display_number .empty hn

theorem shown_text {cs : List Char} (ht : Text.Tight cs)
    (h : readArgument .empty cs = .ok (.text (String.ofList cs))) :
    Shown cs (.text (String.ofList cs)) := by
  have hd : (Value.text (String.ofList cs)).display = cs := by simp [Value.display]
  exact ⟨by rw [hd]; exact .refl cs, by rw [hd]; exact ht, by rw [hd]; exact h⟩

theorem tidies_coordinate {cs : List Char} {n : Number} (h : Number.read? cs = some n)
    (hn : Decimal.isFinite n.toFloat = true) : Tidies cs (Decimal.displayText n.toFloat) :=
  .of_isPlain (isPlain_of_read? h)
    (isPlain_of_read? (Number.read?_display (n := .float n.toFloat) hn))

theorem shown_point {cs : List Char} {p : Coordinates} (h : readPoint? cs = some p)
    (hp : p.IsFinite) : Shown cs (.point p) := by
  obtain ⟨inside, hinside, hrest⟩ := Option.bind_eq_some_iff.1 h
  obtain ⟨ns, hns, hmatch⟩ := Option.bind_eq_some_iff.1 hrest
  have hcs := enclosed?_eq_some_iff.1 hinside
  have hparts := mapM_eq_some_iff.1 hns
  have htexts : List.Forall₂ Tidies (Text.parts ',' inside) (coordinateTexts p) := by
    obtain ⟨hx, hy, hz⟩ := hp
    generalize Text.parts ',' inside = ps at hparts
    split at hmatch
    · cases hmatch
      obtain _ | ⟨ha, _ | ⟨hb, _ | _⟩⟩ := hparts
      exact .cons (tidies_coordinate ha hx) (.cons (tidies_coordinate hb hy) .nil)
    · cases hmatch
      obtain _ | ⟨ha, _ | ⟨hb, _ | ⟨hc, _ | _⟩⟩⟩ := hparts
      exact .cons (tidies_coordinate ha hx)
        (.cons (tidies_coordinate hb hy) (.cons (tidies_coordinate hc (hz _ rfl)) .nil))
    · cases hmatch
  have htidy := tidies_join htexts
  rw [Text.join_parts] at htidy
  have hdisplay : (Value.point p).display = '(' :: (commaSeparated (coordinateTexts p) ++ [')']) :=
    display_point p
  refine ⟨?_, ?_, readArgument_display_point .empty hp⟩
  · rw [hdisplay, hcs]
    exact .keep '(' (htidy.append (.refl [')']))
  · rw [hdisplay]
    exact (Text.tight_singleton (by decide)).append (Text.tight_singleton (by decide))
      (commaSeparated (coordinateTexts p))

/-! ### Lists and calls -/

theorem tidies_of_shown {ds : List (List Char)} {vs : List Value}
    (h : List.Forall₂ Shown ds vs) :
    List.Forall₂ (fun d e => Tidies d e ∧ Text.Tight e) ds (vs.map Value.display) := by
  rw [List.forall₂_map_right_iff]
  exact h.imp fun _ _ hd => ⟨hd.tidies, hd.tight⟩

theorem read_of_shown {ds : List (List Char)} {vs : List Value} (h : List.Forall₂ Shown ds vs) :
    ∀ v ∈ vs, readArgument .empty v.display = .ok v := by
  induction h with
  | nil => simp
  | cons hd _ ih => exact List.forall_mem_cons.2 ⟨hd.read, ih⟩

theorem shown_list {cs inside : List Char} {vs : List Value}
    (hcs : enclosed? '[' ']' cs = some inside)
    (h : List.Forall₂ Shown (splitItems (Text.trim inside)) vs) : Shown cs (.list vs) := by
  have htexts := tidies_of_shown h
  have htidy : Tidies inside (commaSeparated (vs.map Value.display)) :=
    tidies_of_trim (tidies_commaSeparated (htexts.imp fun _ _ hd => hd.1))
  refine ⟨?_, tight_display_list vs, readArgument_display_list (read_of_shown h) ?_⟩
  · rw [display_list, enclosed?_eq_some_iff.1 hcs]
    exact .keep '[' (htidy.append (.refl [']']))
  · exact items_of_tidies htexts (items_splitAtCommas false _)

/-- The end of a call is found where it was. -/
theorem closeCall_of_tidies {inside ds : List Char} (h : Tidies inside ds)
    (hclose : closeCall Nesting.inParenthesis (inside ++ [')']) = some (inside, [])) :
    closeCall Nesting.inParenthesis (ds ++ [')']) = some (ds, []) := by
  obtain ⟨-, havoid, hend⟩ := closeCall_cases hclose
  refine closeCall_append [] ?_ ?_
  · exact avoids_of_tidies h not_isPlain_of_isClose isSound_inParenthesis havoid
  · rw [walk_eq_of_tidies h true isSound_inParenthesis]
    exact hend

theorem shown_call {cs name after inside : List Char} {vs : List Value}
    (hcs : callHead? cs = some (name, after))
    (hclose : closeCall Nesting.inParenthesis after = some (inside, []))
    (h : List.Forall₂ Shown (splitArguments inside) vs) :
    Shown cs (.expr (.command (String.ofList name) vs)) := by
  obtain ⟨hname, blanks, hhead, hblank⟩ := callHead?_cases hcs
  have hname' : isIdentifier (String.ofList name).toList = true := by rwa [String.toList_ofList]
  have hafter := (closeCall_cases hclose).1
  rw [hafter] at hclose
  have htexts := tidies_of_shown h
  have htidy : Tidies inside (commaSeparated (vs.map Value.display)) :=
    tidies_commaSeparated (htexts.imp fun _ _ hd => hd.1)
  refine ⟨?_, tight_display_call hname' vs, readArgument_display_call (read_of_shown h) hname' ?_
    (closeCall_of_tidies htidy hclose)⟩
  · have hblanks : Tidies blanks [] :=
      .of_isPlain_left fun c hc => isPlain_of_isBlank (hblank c hc)
    rw [display_call, String.toList_ofList, hhead, hafter, List.append_assoc]
    exact (Tidies.refl name).append (hblanks.append (.keep '(' (htidy.append (.refl [')']))))
  · exact items_of_tidies htexts (items_splitAtCommas true _)

theorem forall₂_shown {ds : List (List Char)} {vs : List Value} (htight : ∀ d ∈ ds, Text.Tight d)
    (hread : ds.mapM (readArgument .empty) = .ok vs) (hfin : Value.AllFinite vs)
    (ih : ∀ d ∈ ds, ∀ v, Text.Tight d → readArgument .empty d = .ok v → v.IsFinite → Shown d v) :
    List.Forall₂ Shown ds vs := by
  rw [mapM_eq_ok_iff] at hread
  induction hread with
  | nil => exact .nil
  | @cons d v ds vs hd _ ih' =>
    rw [List.forall_mem_cons] at htight ih
    exact .cons (ih.1 v htight.1 hd hfin.1) (ih' htight.2 hfin.2 ih.2)

/-- **What is read from a text is shown by a tidied text, which is read as the same value.** By
induction on the length of the text. -/
theorem shown_of_readArgument {cs : List Char} {v : Value} (htight : Text.Tight cs)
    (h : readArgument .empty cs = .ok v) (hfin : v.IsFinite) : Shown cs v := by
  have hread := h
  rw [readArgument_eq] at h
  cases hf : Form.of cs with
  | error problem => rw [hf] at h; cases h
  | ok f =>
    have htells := Form.tells_of hf
    rw [hf] at h
    simp only [Except.bind] at h
    cases f with
    | number n =>
      cases h
      exact shown_number htells hfin
    | tuple =>
      cases h
      unfold tupleValue at hread hfin ⊢
      split
      · next p hp =>
        rw [hp] at hfin
        exact shown_point hp hfin
      · next hp =>
        rw [hp] at hread
        exact shown_text htight hread
    | word =>
      cases h
      exact shown_text htight hread
    | list items =>
      obtain ⟨inside, hinside, rfl⟩ := htells
      dsimp only at h
      cases hvs : (splitItems (Text.trim inside)).mapM (readArgument .empty) with
      | error problem => rw [hvs] at h; cases h
      | ok vs =>
        rw [hvs] at h
        cases h
        refine shown_list hinside (forall₂_shown (tight_of_mem_items (items_splitAtCommas _ _)) hvs
          hfin fun d hd w htd hrd hw => ?_)
        have hlt := Form.length_lt_of_mem hf hd
        exact shown_of_readArgument htd hrd hw
    | call name arguments =>
      obtain ⟨head, after, inside, hhead, hclose, rfl, rfl⟩ := htells
      dsimp only at h
      cases hvs : (splitArguments inside).mapM (readArgument .empty) with
      | error problem => rw [hvs] at h; cases h
      | ok vs =>
        rw [hvs] at h
        cases h
        refine shown_call hhead hclose (forall₂_shown (tight_of_mem_items (items_splitAtCommas _ _))
          hvs (Expr.isFinite_command.1 hfin) fun d hd w htd hrd hw => ?_)
        have hlt := Form.length_lt_of_mem hf hd
        exact shown_of_readArgument htd hrd hw
termination_by cs.length

/-! ### Expressions -/

theorem isFinite_exprOf {cs : List Char} {v : Value} : (exprOf cs v).IsFinite ↔ v.IsFinite := by
  cases v <;> simp only [exprOf, Expr.isFinite_leaf, Value.IsFinite]

theorem readTrimmed_display {cs : List Char} {e : Expr} (htight : Text.Tight cs)
    (h : readTrimmed .empty cs = .ok e) (hfin : e.IsFinite) :
    Text.Tight e.display ∧ readTrimmed .empty e.display = .ok e := by
  rcases readTrimmed_cases h with ⟨hsplit, hread⟩ | ⟨before, after, e', hsplit, hname, hread, rfl⟩
  · rw [readUnlabelled_eq] at hread
    obtain ⟨v, hv, rfl⟩ : ∃ v, readArgument .empty cs = .ok v ∧ exprOf cs v = e := by
      cases hv : readArgument .empty cs with
      | error problem => rw [hv] at hread; cases hread
      | ok v =>
        rw [hv] at hread
        cases hread
        exact ⟨v, rfl, rfl⟩
    have hshown := shown_of_readArgument htight hv (isFinite_exprOf.1 hfin)
    rw [display_exprOf]
    refine ⟨hshown.tight, ?_⟩
    have hnone : splitAtEquals Nesting.outside v.display = none := by
      rw [splitAtEquals_eq_none_iff] at hsplit ⊢
      exact avoids_of_tidies hshown.tidies not_isPlain_of_isEquals isSound_outside hsplit
    rw [readTrimmed_eq, if_neg (by simp [hshown.tight.ne_nil]), hnone]
    simp only [readUnlabelled_eq, hshown.read, Except.map, exprOf_display hv]
  · have hafter : Text.Tight (Text.trim after) := by
      refine Text.tight_trim fun hnil => ?_
      rw [hnil, readTrimmed_eq] at hread
      cases hread
    have hlt : (Text.trim after).length < cs.length := by
      have h1 := length_of_splitAtEquals hsplit
      have h2 := Text.length_trim_le after
      omega
    obtain ⟨htight', hread'⟩ := readTrimmed_display hafter hread (Expr.isFinite_label.1 hfin)
    rw [display_label (shaped_of_readTrimmed hread), String.toList_ofList]
    exact ⟨(tight_of_isIdentifier hname).append htight' _,
      readTrimmed_labelled hname htight' hread'⟩
termination_by cs.length

end Syntax

/-- **The text of an expression is a normal form.** Whatever text was read, the text that shows the
expression is read as the same expression. -/
theorem Expr.read_render_of_read {text : String} {e : Expr} (h : Expr.read .empty text = .ok e)
    (hfin : e.IsFinite) : Expr.read .empty e.render = .ok e := by
  have hr := readTrimmed_of_read h
  have hne : Text.trim text.toList ≠ [] := by
    intro hnil
    rw [hnil, Syntax.readTrimmed_eq] at hr
    cases hr
  obtain ⟨htight, hread⟩ := Syntax.readTrimmed_display (Text.tight_trim hne) hr hfin
  unfold Expr.read
  rw [Expr.render, String.toList_ofList, Text.trim_of_tight htight, hread]
  rfl

/-- What is read from a list with a quote that is never closed and items that are not there. -/
def Expr.stray : Expr :=
  .assignment "A" (.leaf .list (.list [.text "b\x27", .number (.int 7),
    .expr (.command "f" [.text "\"x , (\""])]))

theorem Expr.read_render_of_read_stray :
    Expr.read .empty " A = [ b\x27, ,+07, f(\"x , (\" ,, ) ]" = .ok Expr.stray ∧
      Expr.stray.IsFinite ∧ Expr.read .empty Expr.stray.render = .ok Expr.stray := by
  have hread : Expr.read .empty " A = [ b\x27, ,+07, f(\"x , (\" ,, ) ]" = .ok Expr.stray := by
    cbv
  have hfin : Expr.stray.IsFinite := by
    simp [Expr.stray, Expr.assignment, Expr.leaf, Expr.command, Expr.IsFinite, Expr.ValueIsFinite,
      Expr.AllFinite, Value.IsFinite, Value.AllFinite, Number.IsFinite]
  exact ⟨hread, hfin, Expr.read_render_of_read hread hfin⟩

end GeoScript
