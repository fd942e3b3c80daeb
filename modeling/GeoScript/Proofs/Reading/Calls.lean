import GeoScript.Proofs.Syntax.Neutral
import GeoScript.Proofs.Reading.Displayed

/-! # Reading a call from its arguments

A call is written with commas between its arguments and any blanks around them. Arguments that keep
to themselves are told apart again, so that the call is read if each of them is.

* `splitArguments_join`: neutral texts with commas between them are told apart.
* `readTrimmed_call`: the call is read from its arguments.
* `Expr.read_call_numbers`: a call whose arguments are numerals. -/

namespace GeoScript

namespace Syntax

/-! ### Neutral texts with commas between them -/

theorem separable_of_neutral {quotes : Bool} {ps : List (List Char)}
    (h : ∀ p ∈ ps, Neutral 0 p) : Separable quotes Nesting.outside ps := by
  induction ps with
  | nil => trivial
  | cons p ps ih =>
    rw [List.forall_mem_cons] at h
    obtain ⟨hwalk, hcomma, -⟩ :=
      h.1 quotes Nesting.outside rfl (by decide) (by decide) (by decide)
    exact ⟨hcomma, fun _ => hwalk, ih h.2⟩

/-- **Neutral texts with commas between them are told apart again,** without the blanks around
them. -/
theorem splitArguments_join {ps : List (List Char)} (h : ∀ p ∈ ps, Neutral 0 p)
    (htrim : ∀ p ∈ ps, Text.trim p ≠ []) :
    splitArguments (Text.join ',' ps) = ps.map Text.trim := by
  by_cases hne : ps = []
  · subst hne
    rfl
  · rw [splitArguments, splitAtCommas, pieces_join hne (separable_of_neutral h),
      List.filter_eq_self]
    intro t ht
    obtain ⟨p, hp, rfl⟩ := List.mem_map.mp ht
    simpa using htrim p hp

theorem neutral_join {ps : List (List Char)} (h : ∀ p ∈ ps, Neutral 0 p) :
    Neutral 1 (Text.join ',' ps) := by
  induction ps with
  | nil =>
    have hnil : Neutral 0 [] := neutral_of_isPlain (by simp)
    exact hnil.mono (by decide)
  | cons p ps ih =>
    rw [List.forall_mem_cons] at h
    have hp : Neutral 1 p := h.1.mono (by decide)
    cases ps with
    | nil => exact hp
    | cons q qs =>
      have hrest : Neutral 1 ([','] ++ Text.join ',' (q :: qs)) := neutral_comma.append (ih h.2)
      exact hp.append hrest

/-! ### Calls -/

/-- The text of a call with its arguments as they are written. -/
def callText (name : List Char) (ps : List (List Char)) : List Char :=
  name ++ '(' :: (Text.join ',' ps ++ [')'])

section Call

variable {vars : Variables} {name : List Char} (hname : isIdentifier name = true)
  {ps : List (List Char)} (h : ∀ p ∈ ps, Neutral 0 p)

include hname

theorem tight_callText (ps : List (List Char)) : Text.Tight (callText name ps) := by
  have hlast : Text.Tight [')'] := Text.tight_singleton (by decide)
  have hall := (tight_of_isIdentifier hname).append hlast ('(' :: Text.join ',' ps)
  rwa [List.append_assoc] at hall

include h

theorem neutral_callText : Neutral 0 (callText name ps) :=
  (neutral_of_isPlain (isPlain_of_mem_identifier hname)).append
    ((neutral_join h).enclose encloses_parens)

/-- **A call is read from its arguments.** -/
theorem readTrimmed_call (htrim : ∀ p ∈ ps, Text.trim p ≠ []) {vs : List Value}
    (hread : (ps.map Text.trim).mapM (readArgument vars) = .ok vs) :
    readTrimmed vars (callText name ps) = .ok (.command (String.ofList name) vs) := by
  have hne : (callText name ps).isEmpty = false := by
    simpa using (tight_callText hname ps).ne_nil
  have hform : Form.of (callText name ps) =
      .ok (.call (String.ofList name) (ps.map Text.trim)) := by
    have hclose := closeCall_of_neutral (neutral_join h)
    rw [callText, form_of_callHead? (callHead?_append _ hname) hclose,
      splitArguments_join h htrim]
  rw [readTrimmed_eq, hne, splitAtEquals_of_neutral (neutral_callText hname h)]
  simp only [readUnlabelled, hform, bind, Except.bind, hread, pure, Except.pure, Bool.false_eq_true,
    if_false]

end Call

/-! ### Numerals -/

theorem Number.read?_trim {cs : List Char} : Number.read? (Text.trim cs) = Number.read? cs := by
  have htrim : Text.trim (Text.trim cs) = Text.trim cs := by
    by_cases hne : Text.trim cs = []
    · rw [hne]
      rfl
    · exact Text.trim_of_tight (Text.tight_trim hne)
  rw [Number.read?, htrim, ← Number.read?]

theorem trim_ne_nil_of_read? {cs : List Char} {n : Number} (h : Number.read? cs = some n) :
    Text.trim cs ≠ [] := by
  intro hnil
  rw [Number.read?, hnil] at h
  cases h

theorem readArgument_of_read? {vars : Variables} {cs : List Char} {n : Number}
    (h : Number.read? cs = some n) : readArgument vars (Text.trim cs) = .ok (.number n) := by
  rw [← Number.read?_trim] at h
  rw [readArgument_eq, form_number h]
  rfl

end Syntax

/-- **A call whose arguments are numerals is read as the call with these numbers.** -/
theorem Expr.read_call_numbers (vars : Syntax.Variables) {name : List Char}
    (hname : Syntax.isIdentifier name = true) {ps : List (List Char)} {ns : List Number}
    (h : List.Forall₂ (fun p n => Number.read? p = some n) ps ns) :
    Expr.read vars (String.ofList (Syntax.callText name ps)) =
      .ok (.command (String.ofList name) (ns.map .number)) := by
  have hnumeral : ∀ p ∈ ps, ∃ n, Number.read? p = some n :=
    ((List.forall₂_and_left ps ns).mp (h.imp fun _ n hn => ⟨⟨n, hn⟩, hn⟩)).1
  have hneutral : ∀ p ∈ ps, Syntax.Neutral 0 p := by
    intro p hp
    obtain ⟨n, hn⟩ := hnumeral p hp
    exact Syntax.neutral_of_isPlain (Syntax.isPlain_of_read? hn)
  have htrim : ∀ p ∈ ps, Text.trim p ≠ [] := by
    intro p hp
    obtain ⟨n, hn⟩ := hnumeral p hp
    exact Syntax.trim_ne_nil_of_read? hn
  have hread : (ps.map Text.trim).mapM (Syntax.readArgument vars) = .ok (ns.map .number) := by
    rw [mapM_eq_ok_iff, List.forall₂_map_left_iff, List.forall₂_map_right_iff]
    exact h.imp fun p n hn => Syntax.readArgument_of_read? hn
  rw [Expr.read, String.toList_ofList, Text.trim_of_tight (Syntax.tight_callText hname ps),
    Syntax.readTrimmed_call hname hneutral htrim hread]
  rfl

end GeoScript
