import GeoScript.Expr.Display
import GeoScript.Proofs.Syntax.Scan
import GeoScript.Proofs.Text.Trim
import Mathlib.Data.List.Forall2

/-! # Tidying a text

What is rendered differs from the text that was read in characters that no walk takes notice of:
blanks, the spelling of numbers, and commas that were written for nothing. A text is a tidied one of
another if it comes from it by taking out such characters and putting in others, with every bracket,
quotation mark and equals sign in its place (`Tidies`). Commas are only taken out, so a comma that
separated nothing still separates nothing, wherever the text stands.

* `walk_eq_of_tidies`, `avoids_of_tidies`: no walk sees a difference, and none finds more.
* `Items`, `items_splitAtCommas`, `items_of_tidies`: items that can be written one after another.
* `splitAtCommas_commaSeparated`: such items are found again.
* `tidies_commaSeparated`: put together again, tidied pieces are a tidied text. -/

namespace GeoScript.Syntax

/-! ### Characters that change a nesting -/

/-- A character that opens or closes something, in or out of quotes. -/
def isDelimiter (c : Char) : Bool :=
  c == '(' || c == ')' || c == '[' || c == ']' || c == '"' || c == '\x27'

/-- A character that no walk takes notice of. -/
def isPlain (c : Char) : Bool := !isDelimiter c && c != ',' && c != '='

/-- A quote was opened by a character that opens quotes. -/
def Nesting.IsSound (s : Nesting) : Prop := ∀ q, s.quote = some q → isDelimiter q = true

theorem Nesting.isSound_of_quote_eq_none {s : Nesting} (h : s.quote = none) : s.IsSound := by
  intro q hq
  rw [h] at hq
  cases hq

theorem Nesting.isSound_step {s : Nesting} (hs : s.IsSound) (quotes : Bool) (c : Char) :
    (s.step quotes c).IsSound := by
  unfold step
  split
  · split
    · exact isSound_of_quote_eq_none rfl
    · exact hs
  · next hq =>
    repeat' split
    all_goals try exact isSound_of_quote_eq_none hq
    next hc =>
      intro q heq
      cases heq
      simp only [Bool.and_eq_true, Bool.or_eq_true, beq_iff_eq] at hc
      rcases hc.2 with rfl | rfl <;> rfl

theorem Nesting.step_of_not_isDelimiter {s : Nesting} (hs : s.IsSound) (quotes : Bool) {c : Char}
    (hc : isDelimiter c = false) : s.step quotes c = s := by
  simp only [isDelimiter, Bool.or_eq_false_iff, beq_eq_false_iff_ne] at hc
  obtain ⟨⟨⟨⟨⟨h1, h2⟩, h3⟩, h4⟩, h5⟩, h6⟩ := hc
  unfold step
  split
  · next q hq =>
    have hne : c ≠ q := by
      rintro rfl
      have := hs c hq
      simp [isDelimiter, h1, h2, h3, h4, h5, h6] at this
    rw [if_neg hne]
  · simp [h1, h2, h3, h4, h5, h6]

theorem not_isDelimiter_of_isPlain {c : Char} (h : isPlain c = true) : isDelimiter c = false := by
  simp only [isPlain, Bool.and_eq_true, Bool.not_eq_true'] at h
  exact h.1.1

/-! ### Tidied texts -/

/-- The second text comes from the first by tidying. -/
inductive Tidies : List Char → List Char → Prop
  | nil : Tidies [] []
  | keep (c : Char) {cs ds : List Char} (h : Tidies cs ds) : Tidies (c :: cs) (c :: ds)
  | drop {c : Char} {cs ds : List Char} (hc : isPlain c = true ∨ c = ',') (h : Tidies cs ds) :
      Tidies (c :: cs) ds
  | put {c : Char} {cs ds : List Char} (hc : isPlain c = true) (h : Tidies cs ds) :
      Tidies cs (c :: ds)

namespace Tidies

theorem refl (cs : List Char) : Tidies cs cs := by
  induction cs with
  | nil => exact .nil
  | cons c cs ih => exact .keep c ih

theorem append {cs ds cs' ds' : List Char} (h : Tidies cs ds) (h' : Tidies cs' ds') :
    Tidies (cs ++ cs') (ds ++ ds') := by
  induction h with
  | nil => exact h'
  | keep c _ ih => exact .keep c ih
  | drop hc _ ih => exact .drop hc ih
  | put hc _ ih => exact .put hc ih

theorem of_isPlain_left {cs : List Char} (h : ∀ c ∈ cs, isPlain c = true) : Tidies cs [] := by
  induction cs with
  | nil => exact .nil
  | cons c cs ih =>
    rw [List.forall_mem_cons] at h
    exact .drop (.inl h.1) (ih h.2)

theorem of_isPlain_right {ds : List Char} (h : ∀ c ∈ ds, isPlain c = true) : Tidies [] ds := by
  induction ds with
  | nil => exact .nil
  | cons c cs ih =>
    rw [List.forall_mem_cons] at h
    exact .put h.1 (ih h.2)

theorem of_isPlain {cs ds : List Char} (hc : ∀ c ∈ cs, isPlain c = true)
    (hd : ∀ c ∈ ds, isPlain c = true) : Tidies cs ds := by
  have h := append (of_isPlain_left hc) (of_isPlain_right hd)
  rwa [List.append_nil, List.nil_append] at h

end Tidies

theorem isPlain_of_class {p : Char → Bool} {c : Char} (h : p c = true)
    (hp : ['(', ')', '[', ']', '"', '\x27', ',', '='].any p = false) : isPlain c = true := by
  have hne : ∀ d ∈ ['(', ')', '[', ']', '"', '\x27', ',', '='], c ≠ d := by
    rintro d hd rfl
    exact List.any_eq_false.mp hp c hd h
  simp only [List.forall_mem_cons] at hne
  obtain ⟨h1, h2, h3, h4, h5, h6, h7, h8, -⟩ := hne
  simp [isPlain, isDelimiter, h1, h2, h3, h4, h5, h6, h7, h8]

theorem isPlain_of_isBlank {c : Char} (h : Text.isBlank c = true) : isPlain c = true :=
  isPlain_of_class h (by decide)

/-- Blanks at the ends do not matter. -/
theorem tidies_of_trim {cs ds : List Char} (h : Tidies (Text.trim cs) ds) : Tidies cs ds := by
  obtain ⟨before, after, hcs, hb, ha⟩ := Text.exists_blanks cs
  have hb' := Tidies.of_isPlain_left fun c hc => isPlain_of_isBlank (hb c hc)
  have ha' := Tidies.of_isPlain_left fun c hc => isPlain_of_isBlank (ha c hc)
  have hall := (hb'.append h).append ha'
  rwa [← hcs, List.nil_append, List.append_nil] at hall

/-- **No walk sees a difference.** -/
theorem walk_eq_of_tidies {cs ds : List Char} (h : Tidies cs ds) (quotes : Bool) {s : Nesting}
    (hs : s.IsSound) : s.walk quotes ds = s.walk quotes cs := by
  induction h generalizing s with
  | nil => rfl
  | keep c _ ih => exact ih (Nesting.isSound_step hs quotes c)
  | @drop c _ _ hc _ ih =>
    have hd : isDelimiter c = false := hc.elim not_isDelimiter_of_isPlain fun h => h ▸ rfl
    rw [Nesting.walk_cons, Nesting.step_of_not_isDelimiter hs quotes hd, ih hs]
  | put hc _ ih =>
    rw [Nesting.walk_cons,
      Nesting.step_of_not_isDelimiter hs quotes (not_isDelimiter_of_isPlain hc), ih hs]

/-- **No walk finds more than before,** if it does not look for plain characters. -/
theorem avoids_of_tidies {cs ds : List Char} (h : Tidies cs ds) {quotes : Bool}
    {sought : Nesting → Char → Prop} (hsought : ∀ s c, sought s c → isPlain c = false)
    {s : Nesting} (hs : s.IsSound) (ha : Avoids quotes sought s cs) :
    Avoids quotes sought s ds := by
  induction h generalizing s with
  | nil => exact ha
  | keep c _ ih => exact ⟨ha.1, ih (Nesting.isSound_step hs quotes c) ha.2⟩
  | @drop c _ _ hc _ ih =>
    have hd : isDelimiter c = false := hc.elim not_isDelimiter_of_isPlain fun h => h ▸ rfl
    have hrest := ha.2
    rw [Nesting.step_of_not_isDelimiter hs quotes hd] at hrest
    exact ih hs hrest
  | @put c _ _ hc _ ih =>
    refine ⟨fun hfound => ?_, ?_⟩
    · rw [hsought s c hfound] at hc
      cases hc
    · rw [Nesting.step_of_not_isDelimiter hs quotes (not_isDelimiter_of_isPlain hc)]
      exact ih hs ha

theorem not_isPlain_of_isComma (s : Nesting) (c : Char) (h : IsComma s c) : isPlain c = false :=
  h.1 ▸ rfl

theorem not_isPlain_of_isEquals (s : Nesting) (c : Char) (h : IsEquals s c) : isPlain c = false :=
  h.1 ▸ rfl

theorem not_isPlain_of_isClose (s : Nesting) (c : Char) (h : IsClose s c) : isPlain c = false :=
  h.1 ▸ rfl

theorem isSound_outside : Nesting.outside.IsSound := Nesting.isSound_of_quote_eq_none rfl

theorem isSound_inParenthesis : Nesting.inParenthesis.IsSound :=
  Nesting.isSound_of_quote_eq_none rfl

/-! ### Items -/

/-- Texts that can be written one after another with commas between them: each is tight and avoids
the comma, and all but the last one end outside of everything. -/
def Items (quotes : Bool) : List (List Char) → Prop
  | [] => True
  | d :: ds => Text.Tight d ∧ Avoids quotes IsComma Nesting.outside d ∧
      (ds ≠ [] → Nesting.outside.walk quotes d = Nesting.outside) ∧ Items quotes ds

theorem items_of_separable {quotes : Bool} {ps : List (List Char)}
    (h : Separable quotes Nesting.outside ps) :
    Items quotes ((ps.map Text.trim).filter fun p => !p.isEmpty) := by
  induction ps with
  | nil => trivial
  | cons p ps ih =>
    obtain ⟨havoid, hwalk, hrest⟩ := h
    have htidy : Tidies p (Text.trim p) := tidies_of_trim (.refl _)
    rw [List.map_cons]
    by_cases hp : Text.trim p = []
    · rw [List.filter_cons_of_neg (by simp [hp])]
      exact ih hrest
    · rw [List.filter_cons_of_pos (by simp [hp])]
      refine ⟨Text.tight_trim hp, ?_, fun hne => ?_, ih hrest⟩
      · exact avoids_of_tidies htidy not_isPlain_of_isComma isSound_outside havoid
      · rw [walk_eq_of_tidies htidy quotes isSound_outside]
        refine hwalk ?_
        rintro rfl
        exact hne rfl

/-- **The pieces of a text are items.** -/
theorem items_splitAtCommas (quotes : Bool) (cs : List Char) :
    Items quotes (splitAtCommas quotes cs) :=
  items_of_separable (separable_pieces quotes Nesting.outside cs)

/-- **Items stay items when they are tidied.** -/
theorem items_of_tidies {quotes : Bool} {ds es : List (List Char)}
    (h : List.Forall₂ (fun d e => Tidies d e ∧ Text.Tight e) ds es) (hitems : Items quotes ds) :
    Items quotes es := by
  induction h with
  | nil => trivial
  | @cons d e ds es hde hrest ih =>
    obtain ⟨-, havoid, hwalk, hds⟩ := hitems
    refine ⟨hde.2, ?_, fun hne => ?_, ih hds⟩
    · exact avoids_of_tidies hde.1 not_isPlain_of_isComma isSound_outside havoid
    · rw [walk_eq_of_tidies hde.1 quotes isSound_outside]
      refine hwalk ?_
      rintro rfl
      cases hrest
      exact hne rfl

theorem pieces_cons_blank (quotes : Bool) (cs : List Char) :
    pieces quotes Nesting.outside (' ' :: cs) =
      Text.consFirst ' ' (pieces quotes Nesting.outside cs) := by
  rw [pieces_cons_of_not_isComma _ fun h => absurd h.1 (by decide),
    Nesting.step_of_not_isDelimiter isSound_outside quotes (by decide)]

theorem commaSeparated_cons_cons (d e : List Char) (es : List (List Char)) :
    commaSeparated (d :: e :: es) = d ++ ',' :: ' ' :: commaSeparated (e :: es) := by
  simp [commaSeparated]

theorem pieces_commaSeparated {quotes : Bool} {d : List Char} {ds : List (List Char)}
    (h : Items quotes (d :: ds)) :
    pieces quotes Nesting.outside (commaSeparated (d :: ds)) = d :: ds.map (' ' :: ·) := by
  induction ds generalizing d with
  | nil => exact pieces_of_avoids h.2.1
  | cons e es ih =>
    obtain ⟨-, havoid, hwalk, hrest⟩ := h
    have hd : Nesting.outside.walk quotes d = Nesting.outside := hwalk (by simp)
    have hcomma : IsComma (Nesting.outside.walk quotes d) ',' := by
      rw [hd]
      exact ⟨rfl, rfl⟩
    rw [commaSeparated_cons_cons, pieces_append _ havoid hcomma, hd, pieces_cons_blank, ih hrest,
      Text.consFirst, List.map_cons]

theorem trim_cons_blank {cs : List Char} (h : Text.Tight cs) : Text.trim (' ' :: cs) = cs := by
  have hall := Text.trim_blanks [' '] [] h (List.forall_mem_singleton.mpr rfl) (by simp)
  rwa [List.append_nil] at hall

theorem filter_trim_of_items {quotes : Bool} {ds : List (List Char)} (h : Items quotes ds) :
    ((ds.map (' ' :: ·)).map Text.trim).filter (fun p => !p.isEmpty) = ds := by
  induction ds with
  | nil => rfl
  | cons d ds ih =>
    rw [List.map_cons, List.map_cons, trim_cons_blank h.1, List.filter_cons_of_pos, ih h.2.2.2]
    simp [h.1.ne_nil]

/-- **Items that are written one after another are found again.** -/
theorem splitAtCommas_commaSeparated {quotes : Bool} {ds : List (List Char)}
    (h : Items quotes ds) : splitAtCommas quotes (commaSeparated ds) = ds := by
  cases ds with
  | nil => rfl
  | cons d ds =>
    rw [splitAtCommas, pieces_commaSeparated h, List.map_cons, Text.trim_of_tight h.1,
      List.filter_cons_of_pos (by simp [h.1.ne_nil]), filter_trim_of_items h.2.2.2]

/-! ### Putting tidied pieces together -/

theorem tidies_commaSeparated_of_pieces {ps es : List (List Char)}
    (h : List.Forall₂ Tidies ((ps.map Text.trim).filter fun p => !p.isEmpty) es) :
    Tidies (Text.join ',' ps) (commaSeparated es) := by
  induction ps generalizing es with
  | nil =>
    cases h
    exact .nil
  | cons p ps ih =>
    rw [List.map_cons] at h
    have hjoin : ps ≠ [] → Text.join ',' (p :: ps) = p ++ ',' :: Text.join ',' ps := by
      intro hne
      obtain ⟨q, qs, rfl⟩ := List.exists_cons_of_ne_nil hne
      rfl
    have hblank : Text.trim p = [] → Tidies p [] := fun hp => tidies_of_trim (hp ▸ .nil)
    by_cases hps : ps = []
    · subst hps
      by_cases hp : Text.trim p = []
      · rw [List.filter_cons_of_neg (by simp [hp])] at h
        cases h
        exact hblank hp
      · rw [List.filter_cons_of_pos (by simp [hp])] at h
        cases h with
        | cons hpe hrest =>
          cases hrest
          exact tidies_of_trim hpe
    · rw [hjoin hps]
      by_cases hp : Text.trim p = []
      · rw [List.filter_cons_of_neg (by simp [hp])] at h
        exact (hblank hp).append (.drop (.inr rfl) (ih h))
      · rw [List.filter_cons_of_pos (by simp [hp])] at h
        cases h with
        | @cons _ e _ es hpe hrest =>
          have hp' := tidies_of_trim hpe
          cases es with
          | nil =>
            have hall := hp'.append (.drop (.inr rfl) (ih hrest))
            rwa [commaSeparated, List.append_nil] at hall
          | cons e' es =>
            rw [commaSeparated_cons_cons]
            exact hp'.append (.keep ',' (.put (by decide) (ih hrest)))

theorem tidies_join {ps es : List (List Char)} (h : List.Forall₂ Tidies ps es) :
    Tidies (Text.join ',' ps) (commaSeparated es) := by
  induction h with
  | nil => exact .nil
  | @cons p e ps es hpe hrest ih =>
    cases hrest with
    | nil => exact hpe
    | @cons q f qs fs hqf hrest' =>
      rw [commaSeparated_cons_cons]
      exact hpe.append (.keep ',' (.put (by decide) ih))

/-- **Put together again, tidied pieces are a tidied text.** -/
theorem tidies_commaSeparated {quotes : Bool} {cs : List Char} {es : List (List Char)}
    (h : List.Forall₂ Tidies (splitAtCommas quotes cs) es) : Tidies cs (commaSeparated es) := by
  have hjoin := tidies_commaSeparated_of_pieces h
  rwa [join_pieces] at hjoin

end GeoScript.Syntax
