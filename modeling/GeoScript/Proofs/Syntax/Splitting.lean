import GeoScript.Proofs.Syntax.Tidy

/-! # Splitting undoes joining

Texts that stand for themselves can be written one after another with commas between them and blanks
around them, and splitting tells them apart again. In the other direction every text, whatever its
brackets and quotes are, falls into pieces that are texts of this kind, up to the last one, where
something may be left open; nothing is lost but separating commas and the blanks around pieces.

* `IsComplete`: texts that stand for themselves; `isComplete_iff` makes this a test.
* `splitAtCommas_join`: complete texts that are put together fall apart again.
* `isComplete_of_mem_dropLast`: all items of a text but the last one are complete.
* `splitting_undoes_joining`: the main statement. -/

namespace GeoScript.Syntax

/-! ### Blanks around a text -/

/-- The second text is the first one with blanks around it, or none. -/
def Surrounds (d p : List Char) : Prop :=
  ∃ before after, p = before ++ d ++ after ∧ (∀ c ∈ before, Text.isBlank c = true) ∧
    ∀ c ∈ after, Text.isBlank c = true

theorem surrounds_trim (p : List Char) : Surrounds (Text.trim p) p := Text.exists_blanks p

theorem tidies_of_surrounds {d p : List Char} (h : Surrounds d p) : Tidies d p := by
  obtain ⟨before, after, rfl, hb, ha⟩ := h
  have hb' := Tidies.of_isPlain_right fun c hc => isPlain_of_isBlank (hb c hc)
  have ha' := Tidies.of_isPlain_right fun c hc => isPlain_of_isBlank (ha c hc)
  have hall := (hb'.append (.refl d)).append ha'
  rwa [List.nil_append, List.append_nil] at hall

/-! ### Complete texts -/

/-- A text that is trimmed and not empty, that leaves nothing open and closes nothing too often, and
without a comma outside of everything. -/
structure IsComplete (quotes : Bool) (d : List Char) : Prop where
  ne_nil : d ≠ []
  trimmed : Text.trim d = d
  walk : Nesting.outside.walk quotes d = Nesting.outside
  avoids : Avoids quotes IsComma Nesting.outside d

theorem avoids_isComma_iff {quotes : Bool} {s : Nesting} {cs : List Char} :
    Avoids quotes IsComma s cs ↔ pieces quotes s cs = [cs] := by
  constructor
  · exact pieces_of_avoids
  · intro h
    have hseparable := separable_pieces quotes s cs
    rw [h] at hseparable
    exact hseparable.1

theorem isComplete_iff {quotes : Bool} {d : List Char} :
    IsComplete quotes d ↔ d ≠ [] ∧ Text.trim d = d ∧
      Nesting.outside.walk quotes d = Nesting.outside ∧
      pieces quotes Nesting.outside d = [d] := by
  rw [← avoids_isComma_iff]
  exact ⟨fun h => ⟨h.ne_nil, h.trimmed, h.walk, h.avoids⟩, fun ⟨h1, h2, h3, h4⟩ => ⟨h1, h2, h3, h4⟩⟩

instance (quotes : Bool) (d : List Char) : Decidable (IsComplete quotes d) :=
  decidable_of_iff _ isComplete_iff.symm

section IsComplete

variable {quotes : Bool} {d p : List Char}

theorem IsComplete.tight (h : IsComplete quotes d) : Text.Tight d := by
  have htrim : Text.trim d ≠ [] := by
    rw [h.trimmed]
    exact h.ne_nil
  exact h.trimmed ▸ Text.tight_trim htrim

theorem IsComplete.trim_eq (h : IsComplete quotes d) (hp : Surrounds d p) : Text.trim p = d := by
  obtain ⟨before, after, rfl, hb, ha⟩ := hp
  exact Text.trim_blanks before after h.tight hb ha

/-- With blanks around it, a complete text still leaves nothing open and has no separating comma. -/
theorem IsComplete.separable (h : IsComplete quotes d) (hp : Surrounds d p) :
    Avoids quotes IsComma Nesting.outside p ∧
      Nesting.outside.walk quotes p = Nesting.outside := by
  have htidy := tidies_of_surrounds hp
  refine ⟨avoids_of_tidies htidy not_isPlain_of_isComma isSound_outside h.avoids, ?_⟩
  rw [walk_eq_of_tidies htidy quotes isSound_outside, h.walk]

end IsComplete

/-! ### Putting pieces together -/

theorem separable_of_isComplete {quotes : Bool} {ds ps : List (List Char)}
    (hcomplete : ∀ d ∈ ds, IsComplete quotes d) (h : List.Forall₂ Surrounds ds ps) :
    Separable quotes Nesting.outside ps := by
  induction h with
  | nil => trivial
  | cons hp _ ih =>
    rw [List.forall_mem_cons] at hcomplete
    obtain ⟨havoid, hwalk⟩ := hcomplete.1.separable hp
    exact ⟨havoid, fun _ => hwalk, ih hcomplete.2⟩

theorem map_trim_of_isComplete {quotes : Bool} {ds ps : List (List Char)}
    (hcomplete : ∀ d ∈ ds, IsComplete quotes d) (h : List.Forall₂ Surrounds ds ps) :
    ps.map Text.trim = ds := by
  induction h with
  | nil => rfl
  | cons hp _ ih =>
    rw [List.forall_mem_cons] at hcomplete
    rw [List.map_cons, hcomplete.1.trim_eq hp, ih hcomplete.2]

/-- **Complete texts with commas between them are told apart,** whatever blanks are around them. -/
theorem splitAtCommas_join {quotes : Bool} {ds ps : List (List Char)}
    (hcomplete : ∀ d ∈ ds, IsComplete quotes d) (h : List.Forall₂ Surrounds ds ps) :
    splitAtCommas quotes (Text.join ',' ps) = ds := by
  by_cases hne : ps = []
  · subst hne
    cases h
    rfl
  · rw [splitAtCommas, pieces_join hne (separable_of_isComplete hcomplete h),
      map_trim_of_isComplete hcomplete h, List.filter_eq_self]
    intro d hd
    simpa using (hcomplete d hd).ne_nil

/-! ### The pieces of any text -/

theorem isComplete_of_mem_dropLast {quotes : Bool} {ds : List (List Char)} (h : Items quotes ds) :
    ∀ d ∈ ds.dropLast, IsComplete quotes d := by
  induction ds with
  | nil => simp
  | cons d ds ih =>
    obtain ⟨htight, havoid, hwalk, hrest⟩ := h
    cases ds with
    | nil => simp
    | cons e es =>
      rw [List.dropLast_cons_of_ne_nil (List.cons_ne_nil e es), List.forall_mem_cons]
      exact ⟨⟨htight.ne_nil, Text.trim_of_tight htight, hwalk (List.cons_ne_nil e es), havoid⟩,
        ih hrest⟩

theorem not_isEmpty_trim (p : List Char) :
    (!(Text.trim p).isEmpty) = p.any fun c => !Text.isBlank c := by
  rw [Bool.eq_iff_iff, Bool.not_eq_true', List.isEmpty_eq_false_iff, Ne, Text.trim_eq_nil_iff]
  simp

theorem forall₂_surrounds_trim (ps : List (List Char)) :
    List.Forall₂ Surrounds ((ps.map Text.trim).filter fun p => !p.isEmpty)
      (ps.filter fun p => p.any fun c => !Text.isBlank c) := by
  have hkept : ps.filter ((fun p => !p.isEmpty) ∘ Text.trim) =
      ps.filter fun p => p.any fun c => !Text.isBlank c :=
    List.filter_congr fun p _ => not_isEmpty_trim p
  rw [List.filter_map, hkept, List.forall₂_map_left_iff, List.forall₂_same]
  exact fun p _ => surrounds_trim p

/-! ### The main statement -/

/-- **Splitting at commas undoes joining with commas,** whether quotation marks count or not.
Complete texts with commas between them, and any blanks around them, are split into these texts.
Whatever a text is, the items that it is split into are complete, but for the last one; the text is
made of pieces that end outside of everything, but for the last one, with a comma between each two,
and the items are the pieces that are not blank, without the blanks around them; and the items,
written one after another, are split into the same items. -/
theorem splitting_undoes_joining (quotes : Bool) :
    (∀ ds ps, (∀ d ∈ ds, IsComplete quotes d) → List.Forall₂ Surrounds ds ps →
      splitAtCommas quotes (Text.join ',' ps) = ds) ∧
    ∀ cs, (∀ d ∈ (splitAtCommas quotes cs).dropLast, IsComplete quotes d) ∧
      (∃ ps, Separable quotes Nesting.outside ps ∧ Text.join ',' ps = cs ∧
        List.Forall₂ Surrounds (splitAtCommas quotes cs)
          (ps.filter fun p => p.any fun c => !Text.isBlank c)) ∧
      splitAtCommas quotes (commaSeparated (splitAtCommas quotes cs)) =
        splitAtCommas quotes cs := by
  refine ⟨fun ds ps hcomplete h => splitAtCommas_join hcomplete h, fun cs => ?_⟩
  have hitems := items_splitAtCommas quotes cs
  exact ⟨isComplete_of_mem_dropLast hitems,
    ⟨pieces quotes Nesting.outside cs, separable_pieces quotes _ cs, join_pieces quotes _ cs,
      forall₂_surrounds_trim _⟩,
    splitAtCommas_commaSeparated hitems⟩

/-- A call, a quote with a comma in it, and brackets the wrong way round with a comma between them;
and a text with pieces for nothing, whose last piece leaves a bracket open. -/
theorem splitting_undoes_joining_brackets :
    splitAtCommas true "f(1, 2) ,\t'a, b', ],[ ".toList =
      ["f(1, 2)".toList, "'a, b'".toList, "],[".toList] ∧
    ∀ d ∈ (splitAtCommas false " , f(1, 2),, [a, b".toList).dropLast, IsComplete false d := by
  have hcomplete : ∀ d ∈ ["f(1, 2)".toList, "'a, b'".toList, "],[".toList], IsComplete true d := by
    decide
  have hnone : ∀ c ∈ ([] : List Char), Text.isBlank c = true := List.forall_mem_nil _
  have hspace : ∀ c ∈ [' '], Text.isBlank c = true := List.forall_mem_singleton.mpr (by decide)
  have htab : ∀ c ∈ ['\t'], Text.isBlank c = true := List.forall_mem_singleton.mpr (by decide)
  have hblanks : List.Forall₂ Surrounds ["f(1, 2)".toList, "'a, b'".toList, "],[".toList]
      ["f(1, 2) ".toList, "\t'a, b'".toList, " ],[ ".toList] :=
    .cons ⟨[], [' '], rfl, hnone, hspace⟩ (.cons ⟨['\t'], [], rfl, htab, hnone⟩
      (.cons ⟨[' '], [' '], rfl, hspace, hspace⟩ .nil))
  exact ⟨(splitting_undoes_joining true).1 _ _ hcomplete hblanks,
    ((splitting_undoes_joining false).2 _).1⟩

end GeoScript.Syntax
