import GeoScript.Proofs.Reading.Displayed
import GeoScript.Proofs.Syntax.Neutral

/-! # Calls that are read whole

A text starts like a call, and its opening parenthesis is closed by its last character. It is read
as this call, whatever stands between the parentheses, as long as no equals sign there is taken for
that of an assignment. For that, parentheses and brackets are counted together: brackets that are
closed without having been opened make up for the parentheses that are open, and bring an equals
sign inside of the call to level zero. Such a text is no assignment either, since a label has no
parenthesis.

* `avoids_isEquals_iff`, `parens_pos_of_avoids`: what is counted before an equals sign of the call.
* `call_cases`: where the text of a call starts and ends.
* `readTrimmed_call_of_none`, `readTrimmed_call_of_some`: the call, or a label that is refused.
* `readArgument_error`: what can go wrong inside of a call.
* `Expr.call_is_read_whole_iff`: the main statement. -/

namespace GeoScript

namespace Syntax

/-! ### What is found at each place -/

theorem avoids_isEquals_iff {s : Nesting} {cs : List Char} : Avoids true IsEquals s cs ↔
    ∀ before later, cs = before ++ '=' :: later → (s.walk true before).isLevel = false := by
  rw [avoids_iff]
  constructor
  · intro h before later hcs
    exact Bool.eq_false_iff.mpr fun hlevel => h before '=' later hcs ⟨rfl, hlevel⟩
  · rintro h before c later hcs ⟨rfl, hlevel⟩
    rw [h before later hcs] at hlevel
    cases hlevel

theorem Nesting.parens_pos_step {s : Nesting} {c : Char} (hpos : 0 < s.parens)
    (h : ¬ IsClose s c) : 0 < (s.step true c).parens := by
  cases hquote : s.quote with
  | some q =>
    simp only [step, hquote]
    split <;> exact hpos
  | none =>
    by_cases hc : c = ')'
    · subst hc
      have hne : (s.step true ')').parens ≠ 0 := fun hzero => h ⟨rfl, hquote, hzero⟩
      have hstep : (s.step true ')').parens = s.parens - 1 := by simp [step, hquote]
      omega
    · -- no other character closes a parenthesis
      have hge : s.parens ≤ (s.step true c).parens := by
        simp only [step, hquote, hc, if_false]
        split_ifs <;> simp
      omega

theorem parens_pos_of_avoids {s : Nesting} {cs : List Char} (hpos : 0 < s.parens)
    (h : Avoids true IsClose s cs) : 0 < (s.walk true cs).parens := by
  induction cs generalizing s with
  | nil => exact hpos
  | cons c cs ih => exact ih (Nesting.parens_pos_step hpos h.1) h.2

/-! ### Texts that start like a call -/

/-- A text whose opening parenthesis is closed by its last character: what stands before that is
inside of the call from its first to its last character. -/
theorem call_cases {cs name after inside : List Char}
    (hhead : callHead? cs = some (name, after))
    (hclose : closeCall Nesting.inParenthesis after = some (inside, [])) :
    ∃ head, cs = head ++ '(' :: (inside ++ [')']) ∧
      Nesting.outside.walk true (head ++ ['(']) = Nesting.inParenthesis ∧
      Avoids true IsEquals Nesting.outside (head ++ ['(']) := by
  obtain ⟨hname, blanks, rfl, hblanks⟩ := callHead?_cases hhead
  obtain ⟨rfl, -, -⟩ := closeCall_cases hclose
  have hplain : Neutral 0 (name ++ blanks) := by
    refine neutral_of_isPlain fun c hc => ?_
    rcases List.mem_append.mp hc with hc | hc
    · exact isPlain_of_mem_identifier hname c hc
    · exact isPlain_of_isBlank (hblanks c hc)
  obtain ⟨hwalk, -, hequals, -⟩ :=
    hplain true Nesting.outside rfl (by decide) (by decide) (by decide)
  refine ⟨name ++ blanks, rfl, ?_, ?_⟩
  · rw [Nesting.walk_append, hwalk]
    rfl
  · rw [avoids_append, hwalk]
    exact ⟨hequals, fun h => absurd h.1 (by decide), trivial⟩

/-- What a call is read as, from its name and what stands between its parentheses. -/
def readCall (vars : Variables) (name inside : List Char) : Except InputProblem Expr :=
  ((splitArguments inside).mapM (readArgument vars)).map (.command (String.ofList name))

section Call

variable {vars : Variables} {cs name after inside : List Char}
  (hhead : callHead? cs = some (name, after))
  (hclose : closeCall Nesting.inParenthesis after = some (inside, []))

include hhead hclose

/-- **Without an equals sign at level zero the text is read as a call.** -/
theorem readTrimmed_call_of_none (h : splitAtEquals Nesting.inParenthesis inside = none) :
    readTrimmed vars cs = readCall vars name inside := by
  have hform := form_of_callHead? hhead hclose
  obtain ⟨head, hcs, hwalk, hequals⟩ := call_cases hhead hclose
  have hnone : splitAtEquals Nesting.outside cs = none := by
    have hsplit : cs = head ++ ['('] ++ inside ++ [')'] := by simp [hcs]
    rw [splitAtEquals_eq_none_iff, hsplit, avoids_append, avoids_append, hwalk]
    exact ⟨⟨hequals, splitAtEquals_eq_none_iff.mp h⟩, fun h => absurd h.1 (by decide), trivial⟩
  rw [readTrimmed_eq, hnone, if_neg (by simp [hcs]), readCall]
  simp only [readUnlabelled, hform, bind, Except.bind]
  cases (splitArguments inside).mapM (readArgument vars) <;> rfl

/-- **With one the text is refused,** since what stands before it is no label. -/
theorem readTrimmed_call_of_some {before later : List Char}
    (h : splitAtEquals Nesting.inParenthesis inside = some (before, later)) :
    ∃ label, readTrimmed vars cs = .error (.invalidLabel label) := by
  obtain ⟨head, hcs, hwalk, hequals⟩ := call_cases hhead hclose
  obtain ⟨rfl, havoid, hlevel⟩ := splitAtEquals_cases h
  have hsplit : cs = head ++ ['('] ++ before ++ '=' :: (later ++ [')']) := by simp [hcs]
  have hsome : splitAtEquals Nesting.outside cs =
      some (head ++ ['('] ++ before, later ++ [')']) := by
    rw [hsplit]
    refine splitAtEquals_append _ (avoids_append.mpr ⟨hequals, ?_⟩) ?_
    · rwa [hwalk]
    · rwa [Nesting.walk_append, hwalk]
  -- neither side is blank, but the parenthesis is in the label
  have hparen : '(' ∈ Text.trim (head ++ ['('] ++ before) := by
    obtain ⟨blanks, blanks', htrim, hb, hb'⟩ := Text.exists_blanks (head ++ ['('] ++ before)
    have hmem : '(' ∈ head ++ ['('] ++ before := by simp
    rw [htrim, List.mem_append, List.mem_append] at hmem
    rcases hmem with (hmem | hmem) | hmem
    · exact absurd (hb _ hmem) (by decide)
    · exact hmem
    · exact absurd (hb' _ hmem) (by decide)
  have hlabel : isIdentifier (Text.trim (head ++ ['('] ++ before)) = false :=
    Bool.eq_false_iff.mpr fun hname =>
      absurd (isIdentifierPart_of_mem hname _ hparen) (by decide)
  have hleft : Text.trim (head ++ ['('] ++ before) ≠ [] := List.ne_nil_of_mem hparen
  have hright : Text.trim (later ++ [')']) ≠ [] := fun hnil =>
    absurd ((Text.trim_eq_nil_iff _).mp hnil ')' (by simp)) (by decide)
  refine ⟨String.ofList (Text.trim (head ++ ['('] ++ before)), ?_⟩
  rw [readTrimmed_eq, hsome, if_neg (by simp [hcs])]
  simp only [hlabel, List.isEmpty_eq_false_iff.mpr hleft, List.isEmpty_eq_false_iff.mpr hright,
    Bool.or_self, Bool.false_eq_true, Bool.not_false, if_true, if_false]

end Call

/-! ### What can go wrong inside of a call -/

theorem form_error {cs : List Char} {problem : InputProblem} (h : Form.of cs = .error problem) :
    ∃ part, problem = .unbalancedParentheses part ∨ problem = .invalidCall part := by
  unfold Form.of at h
  repeat' split at h
  all_goals cases h
  · exact ⟨_, .inl rfl⟩
  · exact ⟨_, .inr rfl⟩

/-- **Only the parentheses of an argument can be wrong,** by induction on the length of its text. -/
theorem readArgument_error {vars : Variables} {cs : List Char} {problem : InputProblem}
    (h : readArgument vars cs = .error problem) :
    ∃ part, problem = .unbalancedParentheses part ∨ problem = .invalidCall part := by
  rw [readArgument_eq] at h
  rcases error_of_bind h with hform | ⟨f, hform, h⟩
  · exact form_error hform
  · have hparts : ∀ p ∈ f.parts, readArgument vars p = .error problem →
        ∃ part, problem = .unbalancedParentheses part ∨ problem = .invalidCall part := by
      intro p hp hread
      have hlt := Form.length_lt_of_mem hform hp
      exact readArgument_error hread
    cases f with
    | number n => cases h
    | tuple => cases h
    | word => cases h
    | list items =>
      obtain ⟨p, hp, hread⟩ := exists_of_mapM_error (error_of_map h)
      exact hparts p hp hread
    | call name arguments =>
      obtain ⟨p, hp, hread⟩ := exists_of_mapM_error (error_of_map h)
      exact hparts p hp hread
termination_by cs.length

theorem readCall_error {vars : Variables} {name inside : List Char} {problem : InputProblem}
    (h : readCall vars name inside = .error problem) :
    ∃ part, problem = .unbalancedParentheses part ∨ problem = .invalidCall part := by
  obtain ⟨p, -, hread⟩ := exists_of_mapM_error (error_of_map h)
  exact readArgument_error hread

end Syntax

/-! ### The main statement -/

open Syntax

/-- **When a call is read whole.** A text starts like a call, and its opening parenthesis is closed
by its last character. It is read as this call exactly if no equals sign between the parentheses
stands at level zero, outside of quotes and with as many brackets closed too often before it as
parentheses are open. If one does, more brackets are closed than opened before it, and the text is
refused for its label. The call itself is refused only for the parentheses of its arguments, and
never for a label or an assignment. -/
theorem Expr.call_is_read_whole_iff (vars : Variables) {text : String}
    {name after inside : List Char}
    (hhead : callHead? (Text.trim text.toList) = some (name, after))
    (hclose : closeCall Nesting.inParenthesis after = some (inside, [])) :
    (Expr.read vars text = (readCall vars name inside).mapError .invalidInput ↔
      ∀ before later, inside = before ++ '=' :: later →
        (Nesting.inParenthesis.walk true before).isLevel = false) ∧
    (∀ before later, inside = before ++ '=' :: later →
      (Nesting.inParenthesis.walk true before).isLevel = true →
        (Nesting.inParenthesis.walk true before).brackets < 0 ∧
        ∃ label, Expr.read vars text = .error (.invalidInput (.invalidLabel label))) ∧
    ∀ problem, readCall vars name inside = .error problem →
      ∃ part, problem = .unbalancedParentheses part ∨ problem = .invalidCall part := by
  have hrefused : splitAtEquals Nesting.inParenthesis inside ≠ none →
      ∃ label, Expr.read vars text = .error (.invalidInput (.invalidLabel label)) := by
    intro hne
    obtain ⟨⟨before, later⟩, hsome⟩ := Option.ne_none_iff_exists'.mp hne
    obtain ⟨label, hlabel⟩ : ∃ label, readTrimmed vars (Text.trim text.toList) = _ :=
      readTrimmed_call_of_some hhead hclose hsome
    exact ⟨label, by rw [Expr.read, hlabel]; rfl⟩
  have hnone : splitAtEquals Nesting.inParenthesis inside = none ↔
      ∀ before later, inside = before ++ '=' :: later →
        (Nesting.inParenthesis.walk true before).isLevel = false :=
    splitAtEquals_eq_none_iff.trans avoids_isEquals_iff
  refine ⟨⟨fun hread => ?_, fun h => ?_⟩, fun before later hinside hlevel => ⟨?_, ?_⟩,
    fun problem => readCall_error⟩
  · -- a label that is refused is not what a call is refused for
    rw [← hnone]
    by_contra hne
    obtain ⟨label, hlabel⟩ := hrefused hne
    rw [hlabel] at hread
    cases hcall : readCall vars name inside with
    | ok e =>
      rw [hcall] at hread
      cases hread
    | error problem =>
      obtain ⟨part, rfl | rfl⟩ := readCall_error hcall <;> rw [hcall] at hread <;> cases hread
  · rw [Expr.read, readTrimmed_call_of_none hhead hclose (hnone.mpr h)]
  · obtain ⟨rfl, havoid, -⟩ := closeCall_cases hclose
    rw [hinside] at havoid
    have hpos := parens_pos_of_avoids (s := Nesting.inParenthesis) (by decide)
      (avoids_append.mp havoid).1
    simp only [Nesting.isLevel, Bool.and_eq_true, beq_iff_eq] at hlevel
    omega
  · refine hrefused fun hsplit => ?_
    rw [hnone.mp hsplit before later hinside] at hlevel
    cases hlevel

/-- Equals signs between brackets, in a quote, and after two brackets that were never opened. -/
theorem Expr.call_is_read_whole_iff_equals :
    Expr.read .empty " If (x = 1, [a=b], ']=', ]] = c) " =
      .ok (.command "If" [.text "x = 1", .list [.text "a=b"], .text "']='", .text "]] = c"]) := by
  have hhead : callHead? (Text.trim " If (x = 1, [a=b], ']=', ]] = c) ".toList) =
      some ("If".toList, "x = 1, [a=b], ']=', ]] = c)".toList) := by decide +kernel
  have hclose : closeCall Nesting.inParenthesis "x = 1, [a=b], ']=', ]] = c)".toList =
      some ("x = 1, [a=b], ']=', ]] = c".toList, []) := by decide +kernel
  have hnone : splitAtEquals Nesting.inParenthesis "x = 1, [a=b], ']=', ]] = c".toList = none := by
    decide +kernel
  rw [(call_is_read_whole_iff .empty hhead hclose).1.mpr
    (avoids_isEquals_iff.mp (splitAtEquals_eq_none_iff.mp hnone))]
  cbv

/-- One bracket that is closed without having been opened makes up for the parenthesis of a call,
and the equals sign after it for that of an assignment. -/
theorem Expr.closed_bracket_frees_equals :
    callHead? (Text.trim "If(x]=1)".toList) = some ("If".toList, "x]=1)".toList) ∧
    closeCall Nesting.inParenthesis "x]=1)".toList = some ("x]=1".toList, []) ∧
    readCall .empty "If".toList "x]=1".toList = .ok (.command "If" [.text "x]=1"]) ∧
    Expr.read .empty "If(x]=1)" = .error (.invalidInput (.invalidLabel "If(x]")) := by
  refine ⟨by decide +kernel, by decide +kernel, ?_, ?_⟩
  · cbv
  · cbv

end GeoScript
