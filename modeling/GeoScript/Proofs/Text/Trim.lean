import GeoScript.Text.Blank

/-! # Trimmed texts

A text is *tight* if it neither starts nor ends with a blank, and is not empty: what trimming leaves
of a text that is not blank, and all that is read after trimming. Tight texts may be put together
with anything between them.

* `trim_blanks`, `tight_trim`: tight texts are those that trimming leaves.
* `exists_blanks`: what trimming takes away is blank. -/

namespace GeoScript.Text

theorem isBlank_of_visible {c : Char} (hlow : 0x20 < c.toNat) (hhigh : c.toNat < 0x7F) :
    isBlank c = false := by
  simp only [isBlank, Bool.or_eq_false_iff, Bool.and_eq_false_iff, decide_eq_false_iff_not,
    beq_eq_false_iff_ne]
  omega

/-- Neither the first nor the last character is blank, and there is one. -/
structure Tight (cs : List Char) : Prop where
  first : ∃ c, cs.head? = some c ∧ isBlank c = false
  last : ∃ c, cs.getLast? = some c ∧ isBlank c = false

/-! ### Putting tight texts together -/

theorem Tight.ne_nil {cs : List Char} (h : Tight cs) : cs ≠ [] := by
  rintro rfl
  obtain ⟨c, hc, -⟩ := h.first
  cases hc

theorem tight_singleton {c : Char} (h : isBlank c = false) : Tight [c] := ⟨⟨c, rfl, h⟩, ⟨c, rfl, h⟩⟩

theorem Tight.append {cs es : List Char} (hc : Tight cs) (he : Tight es) (ds : List Char) :
    Tight (cs ++ ds ++ es) := by
  obtain ⟨c, hhead, hblank⟩ := hc.first
  obtain ⟨e, hlast, hblank'⟩ := he.last
  refine ⟨⟨c, ?_, hblank⟩, ⟨e, ?_, hblank'⟩⟩
  · rw [List.append_assoc, List.head?_append, hhead, Option.some_or]
  · rw [List.getLast?_append, hlast, Option.some_or]

theorem tight_of_not_blank {cs : List Char} (hne : cs ≠ []) (h : ∀ c ∈ cs, isBlank c = false) :
    Tight cs :=
  ⟨⟨cs.head hne, List.head?_eq_some_head hne, h _ (List.head_mem hne)⟩,
    ⟨cs.getLast hne, List.getLast?_eq_some_getLast hne, h _ (List.getLast_mem hne)⟩⟩

/-! ### Tight texts and trimming -/

theorem trimStart_of_head {cs : List Char} (h : ∃ c, cs.head? = some c ∧ isBlank c = false) :
    trimStart cs = cs := by
  obtain ⟨c, hc, hblank⟩ := h
  cases cs with
  | nil => cases hc
  | cons d ds =>
    cases hc
    simp [trimStart, hblank]

/-- **Trimming takes away all blanks around a tight text.** -/
theorem trim_blanks (before after : List Char) {cs : List Char} (h : Tight cs)
    (hb : ∀ c ∈ before, isBlank c = true) (ha : ∀ c ∈ after, isBlank c = true) :
    trim (before ++ cs ++ after) = cs := by
  obtain ⟨c, hhead, hblank⟩ := h.first
  obtain ⟨d, hlast, hblank'⟩ := h.last
  have hstart : trimStart (before ++ cs ++ after) = cs ++ after := by
    have hrest : trimStart (cs ++ after) = cs ++ after := by
      refine trimStart_of_head ⟨c, ?_, hblank⟩
      rw [List.head?_append, hhead, Option.some_or]
    rw [List.append_assoc, trimStart, List.dropWhile_append_of_pos hb, ← trimStart, hrest]
  have hrest : trimStart cs.reverse = cs.reverse :=
    trimStart_of_head ⟨d, by rw [List.head?_reverse, hlast], hblank'⟩
  rw [trim, hstart, trimEnd, List.reverse_append,
    List.dropWhile_append_of_pos fun c hc => ha c (List.mem_reverse.1 hc), ← trimStart, hrest,
    List.reverse_reverse]

theorem trim_of_tight {cs : List Char} (h : Tight cs) : trim cs = cs := by
  have hall := trim_blanks [] [] h (by simp) (by simp)
  rwa [List.nil_append, List.append_nil] at hall

theorem exists_blanks_start (cs : List Char) :
    ∃ blanks, cs = blanks ++ trimStart cs ∧ ∀ c ∈ blanks, isBlank c = true :=
  ⟨cs.takeWhile isBlank, List.takeWhile_append_dropWhile.symm,
    List.all_eq_true.1 List.all_takeWhile⟩

theorem exists_blanks_end (cs : List Char) :
    ∃ blanks, cs = trimEnd cs ++ blanks ∧ ∀ c ∈ blanks, isBlank c = true := by
  obtain ⟨blanks, h, hblank⟩ := exists_blanks_start cs.reverse
  refine ⟨blanks.reverse, ?_, fun c hc => hblank c (List.mem_reverse.1 hc)⟩
  rw [trimEnd, ← List.reverse_append, ← trimStart, ← h, List.reverse_reverse]

/-- What trimming takes away is blank. -/
theorem exists_blanks (cs : List Char) : ∃ before after, cs = before ++ trim cs ++ after ∧
    (∀ c ∈ before, isBlank c = true) ∧ ∀ c ∈ after, isBlank c = true := by
  obtain ⟨before, hbefore, hb⟩ := exists_blanks_start cs
  obtain ⟨after, hafter, ha⟩ := exists_blanks_end (trimStart cs)
  exact ⟨before, after, by rw [List.append_assoc, trim, ← hafter, ← hbefore], hb, ha⟩

/-- **What is left of a text is tight or empty.** -/
theorem tight_trim {cs : List Char} (h : trim cs ≠ []) : Tight (trim cs) := by
  have hstart : trimStart cs ≠ [] := by
    intro hnil
    rw [trim, hnil] at h
    exact h rfl
  have hend : (trimStart cs).reverse.dropWhile isBlank ≠ [] := fun hnil => h (by
    rw [trim, trimEnd, hnil]; rfl)
  refine ⟨⟨(trimStart cs).head hstart, ?_, List.head_dropWhile_not isBlank hstart⟩,
    ⟨((trimStart cs).reverse.dropWhile isBlank).head hend, ?_,
      List.head_dropWhile_not isBlank hend⟩⟩
  · obtain ⟨blanks, hb, -⟩ := exists_blanks_end (trimStart cs)
    have hhead := congrArg List.head? hb
    have hend' : (trimEnd (trimStart cs)).head? = some ((trim cs).head h) :=
      List.head?_eq_some_head h
    rw [List.head?_append, hend', Option.some_or, List.head?_eq_some_head hstart] at hhead
    rw [hhead, ← hend', trim]
  · rw [trim, trimEnd, List.getLast?_reverse, List.head?_eq_some_head hend]

end GeoScript.Text
