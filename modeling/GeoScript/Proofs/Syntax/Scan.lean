import GeoScript.Syntax.Nesting

/-! # What the scanners look for

Each of the three walks over a text looks for a certain character at a certain nesting: a comma
outside of everything, an equals sign at level zero, the parenthesis that closes a call. A text
*avoids* what a walk looks for if the walk comes to its end without finding any (`Avoids`). What a
walk finds is then told by the part of the text before it, which avoids it, and the nesting that is
reached there.

* `pieces_append`, `splitAtEquals_append`, `closeCall_append`: what is found after such a part.
* `pieces_of_avoids`, `splitAtEquals_eq_none_iff`: nothing is found.
* `separable_pieces`, `join_pieces`, `pieces_join`: the pieces of a text, and the text of pieces.
* `splitAtEquals_cases`, `closeCall_cases`: what a walk tells about the text. -/

namespace GeoScript.Syntax

open Text (consFirst)

/-! ### Avoiding -/

/-- A walk from a nesting over a text meets nothing that it looks for. -/
def Avoids (quotes : Bool) (sought : Nesting → Char → Prop) : Nesting → List Char → Prop
  | _, [] => True
  | s, c :: cs => ¬ sought s c ∧ Avoids quotes sought (s.step quotes c) cs

/-- The comma between two pieces. -/
def IsComma (s : Nesting) (c : Char) : Prop := c = ',' ∧ s.isOutside = true

/-- The equals sign of an assignment. -/
def IsEquals (s : Nesting) (c : Char) : Prop := c = '=' ∧ s.isLevel = true

/-- The parenthesis at the end of a call. -/
def IsClose (s : Nesting) (c : Char) : Prop :=
  c = ')' ∧ s.quote = none ∧ (s.step true c).parens = 0

/-- A text avoids what both of its parts avoid, the second one from where the first one ends. -/
theorem avoids_append {quotes : Bool} {sought : Nesting → Char → Prop} {s : Nesting}
    {cs ds : List Char} : Avoids quotes sought s (cs ++ ds) ↔
      Avoids quotes sought s cs ∧ Avoids quotes sought (s.walk quotes cs) ds := by
  induction cs generalizing s with
  | nil => simp [Avoids]
  | cons c cs ih => rw [List.cons_append, Avoids, Avoids, ih, Nesting.walk_cons, and_assoc]

theorem avoids_iff {quotes : Bool} {sought : Nesting → Char → Prop} {s : Nesting} {cs : List Char} :
    Avoids quotes sought s cs ↔
      ∀ before c later, cs = before ++ c :: later → ¬ sought (s.walk quotes before) c := by
  constructor
  · rintro h before c later rfl
    exact (avoids_append.mp h).2.1
  · intro h
    induction cs generalizing s with
    | nil => trivial
    | cons d cs ih =>
      refine ⟨h [] d cs rfl, ih fun before c later hcs => ?_⟩
      exact h (d :: before) c later (congrArg (d :: ·) hcs)

/-! ### Pieces -/

theorem pieces_ne_nil (quotes : Bool) (s : Nesting) (cs : List Char) : pieces quotes s cs ≠ [] := by
  cases cs with
  | nil => simp [pieces]
  | cons c cs =>
    unfold pieces
    split
    · simp
    · cases pieces quotes (s.step quotes c) cs <;> simp [consFirst]

theorem pieces_cons_of_isComma {quotes : Bool} {s : Nesting} {c : Char} (cs : List Char)
    (h : IsComma s c) : pieces quotes s (c :: cs) = [] :: pieces quotes s cs :=
  if_pos h

theorem pieces_cons_of_not_isComma {quotes : Bool} {s : Nesting} {c : Char} (cs : List Char)
    (h : ¬ IsComma s c) :
    pieces quotes s (c :: cs) = consFirst c (pieces quotes (s.step quotes c) cs) :=
  if_neg h

theorem pieces_append {quotes : Bool} {s : Nesting} {cs : List Char} (ds : List Char)
    (h : Avoids quotes IsComma s cs) (hcomma : IsComma (s.walk quotes cs) ',') :
    pieces quotes s (cs ++ ',' :: ds) = cs :: pieces quotes (s.walk quotes cs) ds := by
  induction cs generalizing s with
  | nil =>
    rw [Nesting.walk_nil] at hcomma ⊢
    rw [List.nil_append, pieces_cons_of_isComma ds hcomma]
  | cons c cs ih =>
    obtain ⟨hc, hcs⟩ := h
    rw [List.cons_append, pieces_cons_of_not_isComma _ hc, ih hcs hcomma, consFirst,
      Nesting.walk_cons]

theorem pieces_of_avoids {quotes : Bool} {s : Nesting} {cs : List Char}
    (h : Avoids quotes IsComma s cs) : pieces quotes s cs = [cs] := by
  induction cs generalizing s with
  | nil => rfl
  | cons c cs ih =>
    obtain ⟨hc, hcs⟩ := h
    rw [pieces_cons_of_not_isComma _ hc, ih hcs, consFirst]

/-- Pieces from a nesting: each avoids the comma, and all but the last one end outside of
everything, where the next one starts. -/
def Separable (quotes : Bool) : Nesting → List (List Char) → Prop
  | _, [] => True
  | s, p :: ps => Avoids quotes IsComma s p ∧ (ps ≠ [] → s.walk quotes p = Nesting.outside) ∧
      Separable quotes Nesting.outside ps

theorem eq_outside_of_isOutside {s : Nesting} (h : s.isOutside = true) : s = Nesting.outside := by
  obtain ⟨parens, brackets, quote⟩ := s
  simp only [Nesting.isOutside, Bool.and_eq_true, beq_iff_eq, Option.isNone_iff_eq_none] at h
  obtain ⟨⟨rfl, rfl⟩, rfl⟩ := h
  rfl

/-- **The pieces of a text are separable.** -/
theorem separable_pieces (quotes : Bool) (s : Nesting) (cs : List Char) :
    Separable quotes s (pieces quotes s cs) := by
  induction cs generalizing s with
  | nil => simp [pieces, Separable, Avoids]
  | cons c cs ih =>
    by_cases h : IsComma s c
    · have hs := eq_outside_of_isOutside h.2
      rw [pieces_cons_of_isComma cs h]
      exact ⟨trivial, fun _ => hs, hs ▸ ih s⟩
    · have hrest := ih (s.step quotes c)
      rw [pieces_cons_of_not_isComma cs h]
      generalize pieces quotes (s.step quotes c) cs = ps at hrest
      cases ps with
      | nil => exact ⟨⟨h, trivial⟩, fun hne => absurd rfl hne, trivial⟩
      | cons p ps => exact ⟨⟨h, hrest.1⟩, hrest.2⟩

/-- Nothing but the commas between the pieces is lost. -/
theorem join_pieces (quotes : Bool) (s : Nesting) (cs : List Char) :
    Text.join ',' (pieces quotes s cs) = cs := by
  induction cs generalizing s with
  | nil => rfl
  | cons c cs ih =>
    by_cases h : IsComma s c
    · obtain ⟨p, ps, hps⟩ := List.exists_cons_of_ne_nil (pieces_ne_nil quotes s cs)
      have hcs := ih s
      rw [pieces_cons_of_isComma cs h, h.1]
      rw [hps] at hcs ⊢
      rw [Text.join, hcs, List.nil_append]
      exact fun hnil => absurd hnil (by simp)
    · rw [pieces_cons_of_not_isComma cs h, Text.join_consFirst _ _ (pieces_ne_nil _ _ _), ih]

/-- **Pieces that are put together fall apart again.** -/
theorem pieces_join {quotes : Bool} {s : Nesting} {ps : List (List Char)}
    (hne : ps ≠ []) (h : Separable quotes s ps) :
    pieces quotes s (Text.join ',' ps) = ps := by
  induction ps generalizing s with
  | nil => exact absurd rfl hne
  | cons p ps ih =>
    obtain ⟨havoid, hwalk, hrest⟩ := h
    cases ps with
    | nil => exact pieces_of_avoids havoid
    | cons q qs =>
      have hout : s.walk quotes p = Nesting.outside := hwalk (List.cons_ne_nil q qs)
      have hcomma : IsComma (s.walk quotes p) ',' := by
        rw [hout]
        exact ⟨rfl, rfl⟩
      have hjoin : Text.join ',' (p :: q :: qs) = p ++ ',' :: Text.join ',' (q :: qs) := rfl
      rw [hjoin, pieces_append _ havoid hcomma, hout, ih (List.cons_ne_nil q qs) hrest]

/-! ### The equals sign -/

theorem splitAtEquals_cons_of_isEquals {s : Nesting} {c : Char} (cs : List Char)
    (h : IsEquals s c) : splitAtEquals s (c :: cs) = some ([], cs) :=
  if_pos h

theorem splitAtEquals_cons_of_not_isEquals {s : Nesting} {c : Char} (cs : List Char)
    (h : ¬ IsEquals s c) : splitAtEquals s (c :: cs) =
      (splitAtEquals (s.step true c) cs).map fun (before, after) => (c :: before, after) :=
  if_neg h

theorem splitAtEquals_eq_none_iff {s : Nesting} {cs : List Char} :
    splitAtEquals s cs = none ↔ Avoids true IsEquals s cs := by
  induction cs generalizing s with
  | nil => simp [splitAtEquals, Avoids]
  | cons c cs ih =>
    by_cases h : IsEquals s c
    · rw [splitAtEquals_cons_of_isEquals cs h]
      exact ⟨fun hn => absurd hn (by simp), fun ha => absurd h ha.1⟩
    · rw [splitAtEquals_cons_of_not_isEquals cs h, Option.map_eq_none_iff, ih, Avoids]
      exact ⟨fun ha => ⟨h, ha⟩, fun ha => ha.2⟩

theorem splitAtEquals_cases {s : Nesting} {cs before after : List Char}
    (h : splitAtEquals s cs = some (before, after)) :
    cs = before ++ '=' :: after ∧ Avoids true IsEquals s before ∧
      IsEquals (s.walk true before) '=' := by
  induction cs generalizing s before with
  | nil => cases h
  | cons c cs ih =>
    by_cases hc : IsEquals s c
    · rw [splitAtEquals_cons_of_isEquals cs hc] at h
      cases h
      obtain rfl := hc.1
      exact ⟨rfl, trivial, hc⟩
    · rw [splitAtEquals_cons_of_not_isEquals cs hc] at h
      obtain ⟨⟨b, a⟩, hb, he⟩ := Option.map_eq_some_iff.1 h
      simp only [Prod.mk.injEq] at he
      obtain ⟨rfl, rfl⟩ := he
      obtain ⟨hcs, havoid, hequals⟩ := ih hb
      exact ⟨by rw [hcs]; rfl, ⟨hc, havoid⟩, hequals⟩

theorem splitAtEquals_append {s : Nesting} {cs : List Char} (ds : List Char)
    (h : Avoids true IsEquals s cs) (hequals : IsEquals (s.walk true cs) '=') :
    splitAtEquals s (cs ++ '=' :: ds) = some (cs, ds) := by
  induction cs generalizing s with
  | nil =>
    rw [Nesting.walk_nil] at hequals
    rw [List.nil_append, splitAtEquals_cons_of_isEquals ds hequals]
  | cons c cs ih =>
    obtain ⟨hc, hcs⟩ := h
    rw [List.cons_append, splitAtEquals_cons_of_not_isEquals _ hc, ih hcs hequals, Option.map_some]

/-! ### The end of a call -/

theorem closeCall_cons_of_isClose {s : Nesting} {c : Char} (cs : List Char) (h : IsClose s c) :
    closeCall s (c :: cs) = some ([], cs) :=
  if_pos h

theorem closeCall_cons_of_not_isClose {s : Nesting} {c : Char} (cs : List Char)
    (h : ¬ IsClose s c) : closeCall s (c :: cs) =
      (closeCall (s.step true c) cs).map fun (inside, after) => (c :: inside, after) :=
  if_neg h

theorem closeCall_append {s : Nesting} {cs : List Char} (ds : List Char)
    (h : Avoids true IsClose s cs) (hclose : IsClose (s.walk true cs) ')') :
    closeCall s (cs ++ ')' :: ds) = some (cs, ds) := by
  induction cs generalizing s with
  | nil =>
    rw [Nesting.walk_nil] at hclose
    rw [List.nil_append, closeCall_cons_of_isClose ds hclose]
  | cons c cs ih =>
    obtain ⟨hc, hcs⟩ := h
    rw [List.cons_append, closeCall_cons_of_not_isClose _ hc, ih hcs hclose, Option.map_some]

theorem closeCall_cases {s : Nesting} {cs inside after : List Char}
    (h : closeCall s cs = some (inside, after)) :
    cs = inside ++ ')' :: after ∧ Avoids true IsClose s inside ∧
      IsClose (s.walk true inside) ')' := by
  induction cs generalizing s inside with
  | nil => cases h
  | cons c cs ih =>
    by_cases hc : IsClose s c
    · rw [closeCall_cons_of_isClose cs hc] at h
      cases h
      obtain rfl := hc.1
      exact ⟨rfl, trivial, hc⟩
    · rw [closeCall_cons_of_not_isClose cs hc] at h
      obtain ⟨⟨b, a⟩, hb, he⟩ := Option.map_eq_some_iff.1 h
      simp only [Prod.mk.injEq] at he
      obtain ⟨rfl, rfl⟩ := he
      obtain ⟨hcs, havoid, hclose⟩ := ih hb
      exact ⟨by rw [hcs]; rfl, ⟨hc, havoid⟩, hclose⟩

end GeoScript.Syntax
