import GeoScript.Proofs.Syntax.Tidy

/-! # Texts that keep to themselves

A text is *neutral* if whatever is open before it is open after it, and no walk finds anything in it
that belongs to the outside: every bracket in it is closed again, its commas stand inside of
brackets, and it has neither quotation marks nor equals signs. Texts of this kind may stand anywhere
(`Neutral 0`), or anywhere inside of a bracket (`Neutral 1`), where commas may stand between them.

* `Neutral.append`, `Neutral.enclose`: how such texts are made.
* `neutral_commaSeparated`, `items_of_neutral`: several of them, with commas between them. -/

namespace GeoScript.Syntax

/-- From every nesting outside of quotes, with at least `depth` brackets open, a walk comes back to
the same nesting and finds nothing; the end of a call is looked for inside of a call only. -/
def Neutral (depth : Int) (cs : List Char) : Prop :=
  ∀ (quotes : Bool) (s : Nesting), s.quote = none → 0 ≤ s.parens → 0 ≤ s.brackets →
    depth ≤ s.parens + s.brackets → s.walk quotes cs = s ∧ Avoids quotes IsComma s cs ∧
      Avoids quotes IsEquals s cs ∧ (0 < s.parens → Avoids quotes IsClose s cs)

theorem Neutral.mono {m n : Int} {cs : List Char} (h : Neutral m cs) (hmn : m ≤ n) :
    Neutral n cs :=
  fun quotes s hq hp hb hn => h quotes s hq hp hb (by omega)

theorem Neutral.append {n : Int} {cs ds : List Char} (hc : Neutral n cs) (hd : Neutral n ds) :
    Neutral n (cs ++ ds) := by
  intro quotes s hq hp hb hn
  obtain ⟨hwalk, hcomma, hequals, hclose⟩ := hc quotes s hq hp hb hn
  obtain ⟨hwalk', hcomma', hequals', hclose'⟩ := hd quotes s hq hp hb hn
  simp only [avoids_append, Nesting.walk_append, hwalk]
  exact ⟨hwalk', ⟨hcomma, hcomma'⟩, ⟨hequals, hequals'⟩, fun h => ⟨hclose h, hclose' h⟩⟩

theorem neutral_of_isPlain {cs : List Char} (h : ∀ c ∈ cs, isPlain c = true) : Neutral 0 cs := by
  intro quotes s hq _ _ _
  have hs := Nesting.isSound_of_quote_eq_none hq
  have htidy := Tidies.of_isPlain_right h
  exact ⟨walk_eq_of_tidies htidy quotes hs,
    avoids_of_tidies htidy not_isPlain_of_isComma hs trivial,
    avoids_of_tidies htidy not_isPlain_of_isEquals hs trivial,
    fun _ => avoids_of_tidies htidy not_isPlain_of_isClose hs trivial⟩

theorem neutral_comma : Neutral 1 [','] := by
  intro quotes s hq hp hb hn
  have hs := Nesting.isSound_of_quote_eq_none hq
  refine ⟨Nesting.step_of_not_isDelimiter hs quotes (by decide), ⟨?_, trivial⟩, ⟨?_, trivial⟩,
    fun _ => ⟨?_, trivial⟩⟩
  · rintro ⟨-, hout⟩
    rw [eq_outside_of_isOutside hout] at hn
    exact absurd hn (by decide)
  · rintro ⟨h, -⟩
    exact absurd h (by decide)
  · rintro ⟨h, -⟩
    exact absurd h (by decide)

/-- One bracket is opened and closed again. -/
structure Encloses (first last : Char) : Prop where
  first_ne : first ≠ ',' ∧ first ≠ '=' ∧ first ≠ ')'
  last_ne : last ≠ ',' ∧ last ≠ '='
  step : ∀ s : Nesting, s.quote = none → ∃ t : Nesting, t.quote = none ∧ s.parens ≤ t.parens ∧
    s.brackets ≤ t.brackets ∧ s.parens + s.brackets + 1 = t.parens + t.brackets ∧
    ∀ quotes, s.step quotes first = t ∧ t.step quotes last = s

theorem encloses_parens : Encloses '(' ')' := by
  refine ⟨by decide, by decide, ?_⟩
  rintro ⟨parens, brackets, quote⟩ rfl
  refine ⟨⟨parens + 1, brackets, none⟩, rfl, by simp only; omega, by simp, by simp only; omega,
    fun quotes => ⟨rfl, ?_⟩⟩
  simp [Nesting.step]

theorem encloses_brackets : Encloses '[' ']' := by
  refine ⟨by decide, by decide, ?_⟩
  rintro ⟨parens, brackets, quote⟩ rfl
  refine ⟨⟨parens, brackets + 1, none⟩, rfl, by simp, by simp only; omega, by simp only; omega,
    fun quotes => ⟨rfl, ?_⟩⟩
  simp [Nesting.step]

/-- **What may stand inside of a bracket may stand anywhere with the bracket around it.** -/
theorem Neutral.enclose {first last : Char} {cs : List Char} (henc : Encloses first last)
    (h : Neutral 1 cs) : Neutral 0 (first :: (cs ++ [last])) := by
  intro quotes s hq hp hb _
  obtain ⟨⟨hf1, hf2, hf3⟩, ⟨hl1, hl2⟩, hstep⟩ := henc
  obtain ⟨t, htq, htp, htb, hsum, htstep⟩ := hstep s hq
  obtain ⟨hwalk, hcomma, hequals, hclose⟩ := h quotes t htq (by omega) (by omega) (by omega)
  simp only [Avoids, Nesting.walk_cons, Nesting.walk_append, Nesting.walk_nil, avoids_append,
    (htstep quotes).1, (htstep quotes).2, hwalk, and_true]
  refine ⟨trivial, ⟨fun hc => hf1 hc.1, hcomma, fun hc => hl1 hc.1⟩,
    ⟨fun hc => hf2 hc.1, hequals, fun hc => hl2 hc.1⟩,
    fun hpos => ⟨fun hc => hf3 hc.1, hclose (by omega), fun hc => ?_⟩⟩
  -- the bracket closed last leaves those of the outside open
  have hzero := hc.2.2
  rw [(htstep true).2] at hzero
  omega

/-! ### Several neutral texts -/

/-- **Neutral texts with commas between them may stand inside of a bracket.** -/
theorem neutral_commaSeparated {ds : List (List Char)} (h : ∀ d ∈ ds, Neutral 0 d) :
    Neutral 1 (commaSeparated ds) := by
  induction ds with
  | nil =>
    have hnil : Neutral 0 [] := neutral_of_isPlain (by simp)
    exact hnil.mono (by decide)
  | cons d ds ih =>
    rw [List.forall_mem_cons] at h
    have hd : Neutral 1 d := h.1.mono (by decide)
    cases ds with
    | nil => exact hd
    | cons e es =>
      have hblank : Neutral 0 [' '] := neutral_of_isPlain (List.forall_mem_singleton.mpr rfl)
      exact (hd.append (neutral_comma.append (hblank.mono (by decide)))).append (ih h.2)

/-- **Neutral texts are items.** -/
theorem items_of_neutral (quotes : Bool) {ds : List (List Char)}
    (h : ∀ d ∈ ds, Neutral 0 d ∧ Text.Tight d) : Items quotes ds := by
  induction ds with
  | nil => trivial
  | cons d ds ih =>
    rw [List.forall_mem_cons] at h
    obtain ⟨⟨hneutral, htight⟩, hrest⟩ := h
    obtain ⟨hwalk, hcomma, -⟩ :=
      hneutral quotes Nesting.outside rfl (by decide) (by decide) (by decide)
    exact ⟨htight, hcomma, fun _ => hwalk, ih hrest⟩

/-- A call ends where neutral arguments end. -/
theorem closeCall_of_neutral {cs : List Char} (h : Neutral 1 cs) :
    closeCall Nesting.inParenthesis (cs ++ [')']) = some (cs, []) := by
  obtain ⟨hwalk, -, -, hclose⟩ :=
    h true Nesting.inParenthesis rfl (by decide) (by decide) (by decide)
  refine closeCall_append [] (hclose (by decide)) ?_
  rw [hwalk]
  exact ⟨rfl, rfl, rfl⟩

theorem splitAtEquals_of_neutral {cs : List Char} (h : Neutral 0 cs) :
    splitAtEquals Nesting.outside cs = none :=
  splitAtEquals_eq_none_iff.2
    (h true Nesting.outside rfl (by decide) (by decide) (by decide)).2.2.1

end GeoScript.Syntax
