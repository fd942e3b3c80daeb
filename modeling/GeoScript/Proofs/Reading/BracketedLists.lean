import GeoScript.Proofs.Labels.Root
import GeoScript.Proofs.Reading.Displayed
import GeoScript.Proofs.Syntax.Splitting

/-! # Texts that are read as lists

A text is read as a list if it starts with an opening bracket and ends with a closing one. Whether
these two belong together is not asked: in `[1], [2]` they do not, and the list has one item, the
text between them. They do belong together exactly if every item that the list is read from closes
only brackets that it has opened, and all of these.

* `depth`, `IsOneList`, `IsBalanced`: brackets counted from the start of a text.
* `isBalanced_append`, `isBalanced_join`: texts with nothing between them but what has no brackets.
* `isOneList_iff`: a text in brackets, told by its items.
* `RightSide`, `readUnlabelled_of_readTrimmed`: the part of a text that is read under its labels.
* `Expr.list_is_one_list_iff`: the main statement. -/

namespace GeoScript

namespace Syntax

/-! ### Counting brackets -/

/-- How many more brackets are opened than closed. -/
def depth (cs : List Char) : Int := cs.count '[' - cs.count ']'

/-- The bracket that a text opens with is closed by its last character and not before. -/
def IsOneList (cs : List Char) : Prop :=
  depth cs = 0 ∧ ∀ before after, cs = before ++ after → before ≠ [] → after ≠ [] → 0 < depth before

/-- A text closes only brackets that it has opened, and all of these. -/
def IsBalanced (cs : List Char) : Prop :=
  depth cs = 0 ∧ ∀ before, before <+: cs → 0 ≤ depth before

instance (cs : List Char) : Decidable (IsBalanced cs) :=
  decidable_of_iff (depth cs = 0 ∧ ∀ before ∈ cs.inits, 0 ≤ depth before) <| by
    simp only [IsBalanced, List.mem_inits]

theorem depth_append (cs ds : List Char) : depth (cs ++ ds) = depth cs + depth ds := by
  simp only [depth, List.count_append]
  omega

theorem depth_of_not_mem {cs : List Char} (hopen : '[' ∉ cs) (hclose : ']' ∉ cs) :
    depth cs = 0 := by
  rw [depth, List.count_eq_zero.mpr hopen, List.count_eq_zero.mpr hclose]
  rfl

/-- A scanner that does not track quotes counts the same. -/
theorem brackets_step {s : Nesting} (hs : s.quote = none) (c : Char) :
    (s.step false c).brackets = s.brackets + depth [c] ∧ (s.step false c).quote = none := by
  by_cases hopen : c = '['
  · subst hopen
    simp [Nesting.step, hs, depth]
  · by_cases hclose : c = ']'
    · subst hclose
      simp only [Nesting.step, hs, depth]
      exact ⟨rfl, rfl⟩
    · have hdepth : depth [c] = 0 :=
        depth_of_not_mem (by simpa using Ne.symm hopen) (by simpa using Ne.symm hclose)
      simp only [Nesting.step, hs, hdepth, hopen, hclose, if_false]
      split_ifs <;> simp_all

theorem brackets_walk {s : Nesting} (hs : s.quote = none) (cs : List Char) :
    (s.walk false cs).brackets = s.brackets + depth cs := by
  induction cs generalizing s with
  | nil => exact (Int.add_zero s.brackets).symm
  | cons c cs ih =>
    obtain ⟨hbrackets, hquote⟩ := brackets_step hs c
    have hdepth : depth (c :: cs) = depth [c] + depth cs := depth_append [c] cs
    rw [Nesting.walk_cons, ih hquote, hbrackets, hdepth, Int.add_assoc]

/-! ### Balanced texts -/

theorem isBalanced_nil : IsBalanced [] :=
  ⟨rfl, fun _ h => (List.prefix_nil.mp h).symm ▸ Int.le_refl 0⟩

theorem isBalanced_of_not_mem {cs : List Char} (hopen : '[' ∉ cs) (hclose : ']' ∉ cs) :
    IsBalanced cs := by
  refine ⟨depth_of_not_mem hopen hclose, fun before hbegin => ?_⟩
  rw [depth_of_not_mem (fun h => hopen (hbegin.subset h)) fun h => hclose (hbegin.subset h)]

theorem isBalanced_append {cs ds : List Char} (h : depth cs = 0 ∨ depth ds = 0) :
    IsBalanced (cs ++ ds) ↔ IsBalanced cs ∧ IsBalanced ds := by
  constructor
  · rintro ⟨hdepth, hnonneg⟩
    rw [depth_append] at hdepth
    have hcs : depth cs = 0 := by omega
    refine ⟨⟨hcs, fun before hbefore => hnonneg before (hbefore.trans (List.prefix_append _ _))⟩,
      by omega, fun before hbefore => ?_⟩
    have hlong := hnonneg (cs ++ before) ((List.prefix_append_right_inj cs).mpr hbefore)
    rw [depth_append] at hlong
    omega
  · rintro ⟨⟨hcs, hnonneg⟩, hds, hnonneg'⟩
    refine ⟨by rw [depth_append]; omega, fun before hbefore => ?_⟩
    rcases List.prefix_or_prefix_of_prefix hbefore (List.prefix_append cs ds) with hin | ⟨rest, rfl⟩
    · exact hnonneg before hin
    · have hrest := hnonneg' rest ((List.prefix_append_right_inj cs).mp hbefore)
      rw [depth_append]
      omega

theorem isBalanced_of_surrounds {d p : List Char} (h : Surrounds d p) :
    IsBalanced p ↔ IsBalanced d := by
  obtain ⟨before, after, rfl, hb, ha⟩ := h
  have hblank : ∀ {cs : List Char}, (∀ c ∈ cs, Text.isBlank c = true) → IsBalanced cs := by
    intro cs hcs
    exact isBalanced_of_not_mem (fun hmem => absurd (hcs _ hmem) (by decide))
      fun hmem => absurd (hcs _ hmem) (by decide)
  rw [isBalanced_append (.inr (hblank ha).1), isBalanced_append (.inl (hblank hb).1)]
  exact ⟨fun hall => hall.1.2, fun hd => ⟨⟨hblank hb, hd⟩, hblank ha⟩⟩

/-- **Pieces are balanced together exactly if each of them is.** -/
theorem isBalanced_join {s : Nesting} {ps : List (List Char)} (hquote : s.quote = none)
    (hbrackets : s.brackets = 0) (h : Separable false s ps) :
    IsBalanced (Text.join ',' ps) ↔ ∀ p ∈ ps, IsBalanced p := by
  induction ps generalizing s with
  | nil => simpa [Text.join] using isBalanced_nil
  | cons p ps ih =>
    obtain ⟨-, hwalk, hrest⟩ := h
    rw [List.forall_mem_cons, ← ih rfl rfl hrest]
    cases ps with
    | nil => exact (and_iff_left isBalanced_nil).symm
    | cons q qs =>
      -- the first piece ends outside of everything, so it opens as many brackets as it closes
      have hdepth : depth p = 0 := by
        have hcount := brackets_walk hquote p
        rw [hwalk (List.cons_ne_nil q qs), hbrackets] at hcount
        simpa [Nesting.outside] using hcount.symm
      have hcomma : IsBalanced [','] := isBalanced_of_not_mem (by decide) (by decide)
      have hjoin : Text.join ',' (p :: q :: qs) = p ++ ([','] ++ Text.join ',' (q :: qs)) := rfl
      rw [hjoin, isBalanced_append (.inl hdepth), isBalanced_append (.inl hcomma.1)]
      exact and_congr_right fun _ => and_iff_right hcomma

theorem isBalanced_iff_splitItems (cs : List Char) :
    IsBalanced cs ↔ ∀ d ∈ splitItems cs, IsBalanced d := by
  have hseparable := separable_pieces false Nesting.outside cs
  have hjoin := isBalanced_join rfl rfl hseparable
  rw [join_pieces] at hjoin
  rw [hjoin, splitItems, splitAtCommas]
  simp only [List.mem_filter, List.mem_map, Bool.not_eq_true', List.isEmpty_eq_false_iff]
  constructor
  · rintro h d ⟨⟨p, hp, rfl⟩, -⟩
    exact (isBalanced_of_surrounds (surrounds_trim p)).mp (h p hp)
  · intro h p hp
    rw [isBalanced_of_surrounds (surrounds_trim p)]
    by_cases hblank : Text.trim p = []
    · rw [hblank]
      exact isBalanced_nil
    · exact h _ ⟨⟨p, hp, rfl⟩, hblank⟩

/-! ### Texts in brackets -/

theorem isOneList_iff_isBalanced (inside : List Char) :
    IsOneList ('[' :: (inside ++ [']'])) ↔ IsBalanced inside := by
  have hopen : depth ['['] = 1 := rfl
  have hclose : depth [']'] = -1 := rfl
  have hcons : ∀ ds : List Char, depth ('[' :: ds) = 1 + depth ds := fun ds => by
    have happend := depth_append ['['] ds
    rwa [hopen] at happend
  have hdepth : depth ('[' :: (inside ++ [']'])) = depth inside := by
    rw [hcons, depth_append, hclose]
    omega
  rw [IsOneList, IsBalanced, hdepth]
  refine and_congr_right fun _ =>
    ⟨fun h before hbefore => ?_, fun h before after hsplit hb ha => ?_⟩
  · obtain ⟨rest, rfl⟩ := hbefore
    have hpos := h ('[' :: before) (rest ++ [']']) (by simp) (by simp) (by simp)
    rw [hcons] at hpos
    omega
  · obtain ⟨c, ds, rfl⟩ := List.exists_cons_of_ne_nil hb
    obtain ⟨rfl, hrest : inside ++ [']'] = ds ++ after⟩ := List.cons.inj hsplit
    -- what is left over has at least the last bracket
    have hbegin : ds <+: inside := by
      obtain rfl | ⟨rest, d, rfl⟩ := List.eq_nil_or_concat after
      · exact absurd rfl ha
      · have hinside : inside ++ [']'] = (ds ++ rest) ++ [d] := by
          rw [hrest, List.concat_eq_append, List.append_assoc]
        exact ⟨rest, (List.append_inj' hinside rfl).1.symm⟩
    have hpos := h ds hbegin
    rw [hcons]
    omega

/-- **A text in brackets is one list exactly if its items are balanced.** -/
theorem isOneList_iff (inside : List Char) :
    IsOneList ('[' :: (inside ++ [']'])) ↔
      ∀ d ∈ splitItems (Text.trim inside), IsBalanced d := by
  rw [isOneList_iff_isBalanced, isBalanced_of_surrounds (surrounds_trim inside),
    isBalanced_iff_splitItems]

/-! ### Under the labels -/

/-- The part of a trimmed text behind all of its labels. -/
inductive RightSide : List Char → List Char → Prop
  | unlabelled {cs : List Char} (h : splitAtEquals Nesting.outside cs = none) : RightSide cs cs
  | labelled {cs before after part : List Char}
      (h : splitAtEquals Nesting.outside cs = some (before, after))
      (hrest : RightSide (Text.trim after) part) : RightSide cs part

theorem RightSide.unique {cs part other : List Char} (h : RightSide cs part)
    (hother : RightSide cs other) : part = other := by
  induction h with
  | unlabelled hsplit =>
    cases hother with
    | unlabelled => rfl
    | labelled hsplit' => cases hsplit.symm.trans hsplit'
  | labelled hsplit _ ih =>
    cases hother with
    | unlabelled hsplit' => cases hsplit.symm.trans hsplit'
    | labelled hsplit' hrest =>
      cases hsplit.symm.trans hsplit'
      exact ih hrest

theorem readUnlabelled_of_readTrimmed {vars : Variables} {cs : List Char} {e : Expr}
    (h : readTrimmed vars cs = .ok e) : ∃ part inner, RightSide cs part ∧
      readUnlabelled vars part = .ok inner ∧ e.root = inner.root := by
  refine readTrimmed_induction (motive := fun cs e => ∃ part inner, RightSide cs part ∧
    readUnlabelled vars part = .ok inner ∧ e.root = inner.root) ?_ ?_ h
  · intro cs e hsplit hread
    exact ⟨cs, e, .unlabelled hsplit, hread, rfl⟩
  · rintro cs before after e hsplit - - ⟨part, inner, hpart, hread, hroot⟩
    exact ⟨part, inner, .labelled hsplit hpart, hread, by rw [Expr.root_label, hroot]⟩

theorem readUnlabelled_brackets {vars : Variables} {inside : List Char} {e : Expr}
    (h : readUnlabelled vars ('[' :: (inside ++ [']'])) = .ok e) :
    ∃ items, (splitItems (Text.trim inside)).mapM (readArgument vars) = .ok items ∧
      e = .leaf .list (.list items) := by
  simp only [readUnlabelled, form_brackets, bind, Except.bind] at h
  obtain ⟨items, hitems, rfl⟩ := ok_of_map (f := fun items => Expr.leaf .list (.list items)) h
  exact ⟨items, hitems, rfl⟩

theorem brackets_of_list {vars : Variables} {cs : List Char} {e : Expr}
    (h : readUnlabelled vars cs = .ok e) (hkind : e.root.kind = .list) :
    ∃ inside, cs = '[' :: (inside ++ [']']) := by
  cases readAs_of_readUnlabelled h with
  | list hf hvs =>
    obtain ⟨inside, hi, -⟩ := Form.tells_of hf
    exact ⟨inside, enclosed?_eq_some_iff.mp hi⟩
  | number | tuple | call | bound | unbound => cases hkind

/-- Only texts whose first parenthesis is closed by their last character are read as calls. -/
theorem closed_of_call {vars : Variables} {cs : List Char} {e : Expr}
    (h : readUnlabelled vars cs = .ok e) (hkind : e.root.kind = .command) :
    ∃ name after inside, callHead? cs = some (name, after) ∧
      closeCall Nesting.inParenthesis after = some (inside, []) := by
  cases readAs_of_readUnlabelled h with
  | call hf hvs =>
    obtain ⟨name, after, inside, hhead, hclose, -⟩ := Form.tells_of hf
    exact ⟨name, after, inside, hhead, hclose⟩
  | number | tuple | list | bound | unbound => cases hkind

end Syntax

/-! ### The main statement -/

open Syntax

/-- **When a list is one list.** What is read from a text is read from the part behind its labels.
It is a call only if a parenthesis that the call opens is closed by the last character of this part,
and a list exactly if the part starts with an opening bracket and ends with a closing one. The items
are then read from the pieces of what stands between these two, and the part is one list exactly if
every piece closes only brackets that it has opened, and all of these. -/
theorem Expr.list_is_one_list_iff {vars : Variables} {text : String} {e : Expr}
    (h : Expr.read vars text = .ok e) :
    (∃ part, RightSide (Text.trim text.toList) part) ∧
    ∀ part, RightSide (Text.trim text.toList) part →
      (e.root.kind = .command → ∃ name after inside, callHead? part = some (name, after) ∧
        closeCall Nesting.inParenthesis after = some (inside, [])) ∧
      (e.root.kind = .list ↔ ∃ inside, part = '[' :: (inside ++ [']'])) ∧
      ∀ inside, part = '[' :: (inside ++ [']']) →
        (∃ items, (splitItems (Text.trim inside)).mapM (readArgument vars) = .ok items ∧
          e.root = .leaf .list (.list items)) ∧
        (IsOneList part ↔ ∀ d ∈ splitItems (Text.trim inside), IsBalanced d) := by
  obtain ⟨part, inner, hpart, hinner, hroot⟩ :=
    readUnlabelled_of_readTrimmed (readTrimmed_of_read h)
  refine ⟨⟨part, hpart⟩, fun other hother => ?_⟩
  obtain rfl := hpart.unique hother
  have hitems : ∀ inside, part = '[' :: (inside ++ [']']) →
      ∃ items, (splitItems (Text.trim inside)).mapM (readArgument vars) = .ok items ∧
        e.root = .leaf .list (.list items) := by
    rintro inside rfl
    obtain ⟨items, hread, rfl⟩ := readUnlabelled_brackets hinner
    exact ⟨items, hread, hroot⟩
  refine ⟨fun hkind => ?_, ⟨fun hkind => ?_, fun ⟨inside, hin⟩ => ?_⟩, fun inside hin =>
    ⟨hitems inside hin, ?_⟩⟩
  · exact closed_of_call hinner (hroot ▸ hkind)
  · exact brackets_of_list hinner (hroot ▸ hkind)
  · obtain ⟨items, -, hleaf⟩ := hitems inside hin
    rw [hleaf]
    rfl
  · rw [hin]
    exact isOneList_iff inside

/-- A list with a label: its brackets belong together, since those of its items do. -/
theorem Expr.list_is_one_list_iff_nested :
    Expr.read .empty "A = [[1], [x, 2]]" = .ok (.assignment "A" (.leaf .list (.list
      [.list [.number (.int 1)], .list [.text "x", .number (.int 2)]]))) ∧
    RightSide (Text.trim "A = [[1], [x, 2]]".toList) "[[1], [x, 2]]".toList ∧
    IsOneList "[[1], [x, 2]]".toList := by
  have hread : Expr.read .empty "A = [[1], [x, 2]]" = .ok (.assignment "A" (.leaf .list (.list
      [.list [.number (.int 1)], .list [.text "x", .number (.int 2)]]))) := by cbv
  have hsplit : splitAtEquals Nesting.outside (Text.trim "A = [[1], [x, 2]]".toList) =
      some ("A ".toList, " [[1], [x, 2]]".toList) := by decide +kernel
  have hpart : RightSide (Text.trim "A = [[1], [x, 2]]".toList) "[[1], [x, 2]]".toList :=
    .labelled hsplit (.unlabelled (by decide +kernel))
  have hlist :=
    ((list_is_one_list_iff hread).2 _ hpart).2.2 "[1], [x, 2]".toList (by decide +kernel)
  exact ⟨hread, hpart, hlist.2.mpr (by decide +kernel)⟩

/-- Two lists with a comma between them are read as one. -/
theorem Expr.two_lists_read_as_one :
    '"' ∉ "[1], [2]".toList ∧ '\x27' ∉ "[1], [2]".toList ∧
    Expr.read .empty "[1], [2]" = .ok (.leaf .list (.list [.text "1], [2"])) ∧
    ¬ IsOneList "[1], [2]".toList := by
  refine ⟨by decide +kernel, by decide +kernel, by cbv, fun h => ?_⟩
  have hpos := h.2 "[1]".toList ", [2]".toList rfl (by decide) (by decide)
  exact absurd hpos (by decide)

end GeoScript
