import GeoScript.Text.Blank
import GeoScript.Text.Parts

/-! # Nesting: what stands inside parentheses, brackets and quotes

A scanner walks over a text and keeps its *nesting*: how many parentheses and how many brackets are
open, and inside which quote it stands. Depths may become negative, where something is closed that
was never open. Inside a quote nothing counts but the quote's end.

Three questions are asked of a text, each by a walk from a given nesting.

* `pieces`, `splitAtCommas`: its parts between the commas outside of everything. Parentheses and
  brackets are counted apart.
* `splitAtEquals`: its parts before and after the first equals sign outside of everything.
  Parentheses and brackets are counted together, so `(` and `]` cancel.
* `closeCall`: its parts before and after the parenthesis that closes an open one. Only parentheses
  are counted.

`length_flatten_pieces` counts that the pieces of a text keep all of it but the commas between
them. -/

namespace GeoScript.Syntax

open Text (consFirst)

/-- Where a scanner stands. -/
structure Nesting where
  parens : Int
  brackets : Int
  quote : Option Char
deriving DecidableEq

namespace Nesting

/-- Outside of everything, where every walk over a whole text starts. -/
def outside : Nesting := ⟨0, 0, none⟩

/-- Inside one parenthesis, where the walk to its end starts. -/
def inParenthesis : Nesting := ⟨1, 0, none⟩

/-- One character further. `quotes` says whether quotation marks open a quote. -/
def step (quotes : Bool) (s : Nesting) (c : Char) : Nesting :=
  match s.quote with
  | some q => if c = q then { s with quote := none } else s
  | none =>
    if c = '(' then { s with parens := s.parens + 1 }
    else if c = ')' then { s with parens := s.parens - 1 }
    else if c = '[' then { s with brackets := s.brackets + 1 }
    else if c = ']' then { s with brackets := s.brackets - 1 }
    else if quotes && (c == '"' || c == '\x27') then { s with quote := some c }
    else s

/-- Some characters further. -/
def walk (quotes : Bool) (s : Nesting) (cs : List Char) : Nesting := cs.foldl (step quotes) s

/-- No parenthesis, bracket or quote is open, nor one too many closed. -/
def isOutside (s : Nesting) : Bool := s.parens == 0 && s.brackets == 0 && s.quote.isNone

/-- As many parentheses and brackets are open as are closed too often, outside of quotes. -/
def isLevel (s : Nesting) : Bool := s.parens + s.brackets == 0 && s.quote.isNone

@[simp] theorem walk_nil (quotes : Bool) (s : Nesting) : s.walk quotes [] = s := rfl

@[simp] theorem walk_cons (quotes : Bool) (s : Nesting) (c : Char) (cs : List Char) :
    s.walk quotes (c :: cs) = (s.step quotes c).walk quotes cs := rfl

theorem walk_append (quotes : Bool) (s : Nesting) (cs ds : List Char) :
    s.walk quotes (cs ++ ds) = (s.walk quotes cs).walk quotes ds :=
  List.foldl_append

end Nesting

/-! ### Pieces between commas -/

/-- The parts of a text between the commas outside of everything, read from a nesting. There is
always at least one. -/
def pieces (quotes : Bool) : Nesting → List Char → List (List Char)
  | _, [] => [[]]
  | s, c :: cs =>
    if c = ',' ∧ s.isOutside then [] :: pieces quotes s cs
    else consFirst c (pieces quotes (s.step quotes c) cs)

/-- The pieces of a text, trimmed, without the empty ones. -/
def splitAtCommas (quotes : Bool) (cs : List Char) : List (List Char) :=
  ((pieces quotes Nesting.outside cs).map Text.trim).filter fun p => !p.isEmpty

/-- The arguments of a call: quotation marks protect commas. -/
def splitArguments (cs : List Char) : List (List Char) := splitAtCommas true cs

/-- The items of a list: quotation marks are ordinary characters. -/
def splitItems (cs : List Char) : List (List Char) := splitAtCommas false cs

/-! ### The equals sign of an assignment and the end of a call -/

/-- The parts of a text around its first equals sign at level zero, read from a nesting. -/
def splitAtEquals : Nesting → List Char → Option (List Char × List Char)
  | _, [] => none
  | s, c :: cs =>
    if c = '=' ∧ s.isLevel then some ([], cs)
    else (splitAtEquals (s.step true c) cs).map fun (before, after) => (c :: before, after)

/-- The parts of a text around the parenthesis that brings the open parentheses down to none, read
from a nesting. -/
def closeCall : Nesting → List Char → Option (List Char × List Char)
  | _, [] => none
  | s, c :: cs =>
    let t := s.step true c
    if c = ')' ∧ s.quote = none ∧ t.parens = 0 then some ([], cs)
    else (closeCall t cs).map fun (inside, after) => (c :: inside, after)

/-! ### What the walks keep of a text -/

theorem flatten_consFirst (c : Char) (ps : List (List Char)) :
    (consFirst c ps).flatten = c :: ps.flatten := by
  cases ps <;> rfl

theorem length_flatten_pieces (quotes : Bool) (s : Nesting) (cs : List Char) :
    (pieces quotes s cs).flatten.length + (pieces quotes s cs).length = cs.length + 1 := by
  induction cs generalizing s with
  | nil => rfl
  | cons c cs ih =>
    unfold pieces
    split
    · have := ih s
      simp only [List.flatten_cons, List.nil_append, List.length_cons] at this ⊢
      omega
    · have := ih (s.step quotes c)
      have hl : (consFirst c (pieces quotes (s.step quotes c) cs)).length =
          max 1 (pieces quotes (s.step quotes c) cs).length := by
        cases pieces quotes (s.step quotes c) cs <;> simp [consFirst]
      have hpos : 1 ≤ (pieces quotes (s.step quotes c) cs).length := by
        cases cs with
        | nil => simp [pieces]
        | cons d ds =>
          unfold pieces
          split
          · simp
          · cases pieces quotes _ ds <;> simp [consFirst]
      rw [flatten_consFirst, hl, List.length_cons, List.length_cons]
      omega

theorem length_le_of_mem_pieces {quotes : Bool} {s : Nesting} {cs p : List Char}
    (h : p ∈ pieces quotes s cs) : p.length ≤ cs.length := by
  have hf := length_flatten_pieces quotes s cs
  have hp := (List.sublist_flatten_of_mem h).length_le
  have hpos := List.length_pos_of_mem h
  omega

/-- **A piece is no longer than the text,** the measure by which reading ends. -/
theorem length_le_of_mem_splitAtCommas {quotes : Bool} {cs p : List Char}
    (h : p ∈ splitAtCommas quotes cs) : p.length ≤ cs.length := by
  obtain ⟨q, hq, rfl⟩ := List.mem_map.1 (List.mem_filter.1 h).1
  exact Nat.le_trans (Text.length_trim_le q) (length_le_of_mem_pieces hq)

theorem length_of_splitAtEquals {s : Nesting} {cs before after : List Char}
    (h : splitAtEquals s cs = some (before, after)) :
    before.length + after.length + 1 = cs.length := by
  induction cs generalizing s before with
  | nil => simp [splitAtEquals] at h
  | cons c cs ih =>
    unfold splitAtEquals at h
    split at h
    · cases h; simp
    · obtain ⟨⟨b, a⟩, hb, he⟩ := Option.map_eq_some_iff.1 h
      simp only [Prod.mk.injEq] at he
      obtain ⟨rfl, rfl⟩ := he
      have := ih hb
      simp only [List.length_cons]; omega

theorem length_of_closeCall {s : Nesting} {cs inside after : List Char}
    (h : closeCall s cs = some (inside, after)) :
    inside.length + after.length + 1 = cs.length := by
  induction cs generalizing s inside with
  | nil => simp [closeCall] at h
  | cons c cs ih =>
    simp only [closeCall] at h
    split at h
    · cases h; simp
    · obtain ⟨⟨b, a⟩, hb, he⟩ := Option.map_eq_some_iff.1 h
      simp only [Prod.mk.injEq] at he
      obtain ⟨rfl, rfl⟩ := he
      have := ih hb
      simp only [List.length_cons]; omega

end GeoScript.Syntax
