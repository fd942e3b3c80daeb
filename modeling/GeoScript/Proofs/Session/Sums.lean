import GeoScript.Proofs.Decimal.Integers
import GeoScript.Proofs.Evaluation.Shapes
import GeoScript.Proofs.Evaluation.Sums
import GeoScript.Proofs.Reading.Calls
import GeoScript.Proofs.Session.Commit

/-! # Sums in a session

A sum that is written in a text is read, computed by the basic processor and answered as it is,
however the text is evaluated, if nothing in the session stands in the way (`Session.Permits`). So
what is known of sums of numbers is known of the texts that they are written in.

* `Session.Permits`, `Session.Gives`: a command that is left to the basic processor, and what every
  evaluation of a text answers.
* `gives_iff_of_read`: the text of a call gives what the processor answers.
* `sums_never_wrap`: a sum is exact or a floating-point number.
* `sums_in_any_order`: what the order of the summands decides. -/

namespace GeoScript

namespace Session

/-- A command is left to the basic processor, and no filter refuses anything. -/
structure Permits (s : Session) (c : Command) : Prop where
  processor : s.engine.processors.get? c.name = some basicProcessor
  allowed : s.engine.allows c = true
  unchecked : ∀ arguments, s.engine.checkArguments c.name arguments = .ok ()
  admitted : ∀ e, s.admits e = true
  released : ∀ figures, s.releases figures = true

theorem permits_sum_initial : initial.Permits .sum where
  processor := rfl
  allowed := rfl
  unchecked _ := rfl
  admitted _ := rfl
  released figures := by cases figures <;> rfl

/-- Runs and evaluations of a text, with labels and without, all answer with the figures. -/
structure Gives (s : Session) (text : String) (figures : List Figure) : Prop where
  run : ∀ stamp, (s.run stamp text).answer = some figures
  strict : ∀ sliders, (s.runStrict text sliders).answer = .ok figures
  labelless : ∀ stamp, (s.evaluate stamp text).answer = .ok figures

section Permitted

variable {s : Session} {c : Command} (h : s.Permits c) {text : String} {arguments : List Value}

include h

theorem answer_call_of_permits (arguments : List Value) (options : Options) :
    (s.call c.name arguments options).answer = (basicProcessor c arguments options).answer := by
  unfold call Engine.call
  rw [Command.find?_name]
  simp only [h.allowed, h.processor, h.unchecked, if_true]
  rfl

theorem answer_evaluateText_of_permits
    (hread : s.workspace.read text = .ok (.command c.name arguments)) {options : Options}
    (hr : options.redefinition = true) (d : Construction) :
    (s.evaluateText text options d).answer = (basicProcessor c arguments options).answer := by
  have hcall : (GeoScript.evaluate s.engine (options.withLabels false)
      (.command c.name arguments) d).answer = (basicProcessor c arguments options).answer := by
    have hname : (Expr.command c.name arguments).root.commandName? = some c.name := rfl
    have hquiet : (options.withLabels false).redefinition = true := hr
    have hroot : (Expr.command c.name arguments).root = .command c.name arguments := rfl
    rw [answer_evaluate_call d rfl hquiet s.engine hname, hroot, Expr.arguments_command]
    exact answer_call_of_permits h arguments (options.withLabels false)
  have hlabels : ∀ figures, bindLabels (.command c.name arguments) figures options = pure () :=
    fun figures => bindLabels_unlabelled (.call c.name arguments)
  rw [answer_evaluateText_of_read hr hread, if_pos (h.admitted _), hcall]
  cases (basicProcessor c arguments options).answer with
  | error fault => rfl
  | ok figures =>
    simp only [Except.bind, h.released, if_true, hlabels]
    rfl

/-- **The text of a call gives what the processor answers.** -/
theorem gives_iff_of_read (hread : s.workspace.read text = .ok (.command c.name arguments))
    (figures : List Figure) :
    s.Gives text figures ↔ (basicProcessor c arguments .standard).answer = .ok figures := by
  have hanswer : ∀ {options : Options}, options.redefinition = true → ∀ d,
      (s.evaluateText text options d).answer = (basicProcessor c arguments .standard).answer := by
    intro options hr d
    rw [answer_evaluateText_of_permits h hread hr, answer_basicProcessor, answer_basicProcessor]
  have hstrict : ∀ sliders, (s.runStrict text sliders).answer =
      (basicProcessor c arguments .standard).answer :=
    fun sliders => hanswer (Options.redefinition_run sliders) s.construction
  constructor
  · intro hgives
    rw [← hstrict false]
    exact hgives.strict false
  · intro hcomputed
    refine ⟨fun stamp => ?_, fun sliders => (hstrict sliders).trans hcomputed, fun stamp => ?_⟩
    · rcases run_cases s stamp text with ⟨found, hfound, hrun, -⟩ | ⟨fault, hfault, -⟩
      · rw [hstrict, hcomputed] at hfound
        cases hfound
        exact hrun
      · rw [hstrict, hcomputed] at hfault
        cases hfault
    · exact (hanswer Options.redefinition_evaluate s.construction).trans hcomputed

end Permitted

end Session

/-! ### Sums of numbers -/

theorem answer_basicProcessor_sum {arguments : List Value} {ns : List Number}
    (hresolve : Value.resolveAll arguments = ns.map .number) (hpos : 1 ≤ ns.length)
    (hle : ns.length ≤ 10) (options : Options) :
    (basicProcessor .sum arguments options).answer = .ok [.number (sumOf ns)] := by
  have hlength : arguments.length = ns.length := by
    rw [← Value.length_resolveAll, hresolve, List.length_map]
  have hbasic : Command.sum ∈ basicCommands := by decide
  rw [answer_basicProcessor, hlength, if_neg (by omega), if_neg (by omega), hresolve]
  exact ((compute_of_basic hbasic _).1 _).mpr ⟨_, rfl, .sum ns⟩

theorem Value.resolveAll_map_number (ns : List Number) :
    resolveAll (ns.map .number) = ns.map .number := by
  rw [resolveAll_eq_map, List.map_map]
  rfl

/-- The text of a sum, with its summands as they are written. -/
def sumText (ps : List (List Char)) : String := String.ofList (Syntax.callText "Sum".toList ps)

namespace Session

variable {s : Session} (h : s.Permits .sum)

include h

/-- **The text of a sum of numbers gives their sum,** and nothing else. -/
theorem gives_sumText_iff {ps : List (List Char)} {ns : List Number}
    (hread : List.Forall₂ (fun p n => Number.read? p = some n) ps ns) (hpos : 1 ≤ ns.length)
    (hle : ns.length ≤ 10) (figures : List Figure) :
    s.Gives (sumText ps) figures ↔ figures = [.number (sumOf ns)] := by
  have hname : Syntax.isIdentifier "Sum".toList = true := by decide
  have htext : s.workspace.read (sumText ps) = .ok (.command Command.sum.name (ns.map .number)) :=
    Expr.read_call_numbers s.vars hname hread
  rw [gives_iff_of_read h htext,
    answer_basicProcessor_sum (Value.resolveAll_map_number ns) hpos hle, Except.ok.injEq]
  exact eq_comm

section WholeNumbers

variable {ns : List Int64} {ps : List (List Char)} (hwritten : Decimal.WrittenAs ns ps)
  (hpos : 1 ≤ ns.length) (hle : ns.length ≤ 10)

include hwritten hpos hle

theorem gives_int_iff (v : Int64) :
    s.Gives (sumText ps) [.number (.int v)] ↔ PrefixesFit ns ∧ v.toInt = exactSum ns := by
  have hread := Number.forall₂_read?_of_writtenAs hwritten
  rw [gives_sumText_iff h hread (by simpa using hpos) (by simpa using hle), ← sumOf_eq_int_iff]
  simp [eq_comm]

theorem exists_gives_float (hnot : ¬ PrefixesFit ns) :
    ∃ x, s.Gives (sumText ps) [.number (.float x)] := by
  have hread := Number.forall₂_read?_of_writtenAs hwritten
  obtain ⟨x, hx⟩ := exists_sumOf_eq_float hnot
  refine ⟨x, ?_⟩
  rw [gives_sumText_iff h hread (by simpa using hpos) (by simpa using hle), hx]

end WholeNumbers

end Session

/-! ### The main statements -/

/-- **Sums never wrap.** Whole numbers in decimal, one to ten of them, have the whole sum `v` exactly
if the exact sum of every prefix fits into 64 bits and `v` is the exact sum of all; otherwise their
sum is a floating-point number. So it is, whatever the others are, if one of the summands is a
floating-point number, in a text and in a direct call. -/
theorem sums_never_wrap {s : Session} (h : s.Permits .sum) :
    (∀ (ns : List Int64) (ps : List (List Char)), 1 ≤ ns.length → ns.length ≤ 10 →
      Decimal.WrittenAs ns ps →
        (∀ v, s.Gives (sumText ps) [.number (.int v)] ↔
          PrefixesFit ns ∧ v.toInt = exactSum ns) ∧
        (¬ PrefixesFit ns → ∃ x, s.Gives (sumText ps) [.number (.float x)])) ∧
    ∀ (ns : List Number) (x : Float), .float x ∈ ns → ns.length ≤ 10 →
      (∀ ps, List.Forall₂ (fun p n => Number.read? p = some n) ps ns →
        ∃ y, s.Gives (sumText ps) [.number (.float y)]) ∧
      ∀ arguments options, Value.resolveAll arguments = ns.map .number →
        ∃ y, (s.call "Sum" arguments options).answer = .ok [.number (.float y)] := by
  refine ⟨fun ns ps hpos hle hwritten => ?_, fun ns x hx hle => ?_⟩
  · exact ⟨Session.gives_int_iff h hwritten hpos hle,
      Session.exists_gives_float h hwritten hpos hle⟩
  · have hpos : 1 ≤ ns.length := List.length_pos_of_mem hx
    obtain ⟨y, hy⟩ := exists_sumOf_eq_float_of_mem hx
    refine ⟨fun ps hread => ⟨y, ?_⟩, fun arguments options hresolve => ⟨y, ?_⟩⟩
    · rw [Session.gives_sumText_iff h hread hpos hle, hy]
    · refine (Session.answer_call_of_permits h arguments options).trans ?_
      rw [answer_basicProcessor_sum hresolve hpos hle, hy]

/-- At the upper bound: a sum that comes back from it, one that leaves the range on the way, and
one with a summand that is not whole. -/
theorem sums_never_wrap_at_the_bound :
    Session.initial.Gives "Sum(9223372036854775807, -1, +01)"
      [.number (.int 9223372036854775807)] ∧
    (∃ x, Session.initial.Gives "Sum(9223372036854775807, +01, -1)" [.number (.float x)]) ∧
    ∃ x, Session.initial.Gives "Sum(1, 2.5)" [.number (.float x)] := by
  have hback : Decimal.WrittenAs [9223372036854775807, -1, 1]
      ["9223372036854775807".toList, " -1".toList, " +01".toList] := by decide +kernel
  have haway : Decimal.WrittenAs [9223372036854775807, 1, -1]
      ["9223372036854775807".toList, " +01".toList, " -1".toList] := by decide +kernel
  have hone : Number.read? "1".toList = some (.int 1) := Number.read?_of_writes (by decide +kernel)
  have hliteral : Decimal.Literal.read? (Text.trim " 2.5".toList) =
      some ⟨false, ['2'], some ['5'], none⟩ := by decide +kernel
  have hhalf : ∃ x, Number.read? " 2.5".toList = some (.float x) := by
    rw [Number.read?, hliteral]
    exact ⟨_, rfl⟩
  obtain ⟨x, hx⟩ := hhalf
  have hmixed : List.Forall₂ (fun p n => Number.read? p = some n) ["1".toList, " 2.5".toList]
      [.int 1, .float x] := .cons hone (.cons hx .nil)
  have hbackText : sumText ["9223372036854775807".toList, " -1".toList, " +01".toList] =
      "Sum(9223372036854775807, -1, +01)" := by decide +kernel
  have hawayText : sumText ["9223372036854775807".toList, " +01".toList, " -1".toList] =
      "Sum(9223372036854775807, +01, -1)" := by decide +kernel
  have hmixedText : sumText ["1".toList, " 2.5".toList] = "Sum(1, 2.5)" := by decide +kernel
  rw [← hbackText, ← hawayText, ← hmixedText]
  have hsums := sums_never_wrap Session.permits_sum_initial
  refine ⟨?_, ?_, ?_⟩
  · exact ((hsums.1 _ _ (by decide) (by decide) hback).1 _).mpr ⟨by decide, by decide⟩
  · exact (hsums.1 _ _ (by decide) (by decide) haway).2 (by decide)
  · exact (hsums.2 _ x (List.mem_cons_of_mem _ List.mem_cons_self) (by simp)).1 _ hmixed

/-- **What the order of the summands decides.** One to ten whole numbers, whose exact sum is the
64-bit integer `v`, are written in decimal in some order. Their sum is `v` if the exact sum of every
prefix in this order fits, and a floating-point number otherwise. It is `v` in every order exactly
if the positive numbers alone and the negative ones alone have sums that fit; and in some order it
is always `v`. -/
theorem sums_in_any_order {s : Session} (h : s.Permits .sum) {ns : List Int64}
    (hpos : 1 ≤ ns.length) (hle : ns.length ≤ 10) {v : Int64} (hv : v.toInt = exactSum ns) :
    (∀ ms ps, ms.Perm ns → Decimal.WrittenAs ms ps →
      (s.Gives (sumText ps) [.number (.int v)] ↔ PrefixesFit ms) ∧
      (¬ PrefixesFit ms → ∃ x, s.Gives (sumText ps) [.number (.float x)])) ∧
    ((∀ ms ps, ms.Perm ns → Decimal.WrittenAs ms ps → s.Gives (sumText ps) [.number (.int v)]) ↔
      fitsInt64 (gain ns) = true ∧ fitsInt64 (loss ns) = true) ∧
    ∃ ms, ms.Perm ns ∧ ∀ ps, Decimal.WrittenAs ms ps → s.Gives (sumText ps) [.number (.int v)] := by
  have hgives : ∀ {ms ps}, ms.Perm ns → Decimal.WrittenAs ms ps →
      (s.Gives (sumText ps) [.number (.int v)] ↔ PrefixesFit ms) := by
    intro ms ps hperm hwritten
    rw [Session.gives_int_iff h hwritten (hperm.length_eq ▸ hpos) (hperm.length_eq ▸ hle),
      exactSum_perm hperm]
    exact and_iff_left hv
  refine ⟨fun ms ps hperm hwritten => ⟨hgives hperm hwritten, ?_⟩, ?_, ?_⟩
  · exact Session.exists_gives_float h hwritten (hperm.length_eq ▸ hpos) (hperm.length_eq ▸ hle)
  · rw [← forall_perm_prefixesFit_iff]
    constructor
    · intro hall ms hperm
      have hwritten := Decimal.writtenAs_integerText ms
      exact (hgives hperm hwritten).mp (hall ms _ hperm hwritten)
    · intro hall ms ps hperm hwritten
      exact (hgives hperm hwritten).mpr (hall ms hperm)
  · have hfits : fitsInt64 (exactSum ns) = true := hv ▸ fitsInt64_toInt v
    obtain ⟨ms, hperm, hfit⟩ := exists_perm_prefixesFit hfits
    exact ⟨ms, hperm, fun ps hwritten => (hgives hperm hwritten).mpr hfit⟩

/-- At the lower bound, one order stays in the range and another leaves it. -/
theorem sums_in_any_order_at_the_bound :
    Session.initial.Gives "Sum(-1, 1, -9223372036854775808)"
      [.number (.int (-9223372036854775808))] ∧
    ∃ x, Session.initial.Gives "Sum(-1, -9223372036854775808, 1)" [.number (.float x)] := by
  have hstays : Decimal.WrittenAs [-1, 1, -9223372036854775808]
      ["-1".toList, " 1".toList, " -9223372036854775808".toList] := by decide +kernel
  have hleaves : Decimal.WrittenAs [-1, -9223372036854775808, 1]
      ["-1".toList, " -9223372036854775808".toList, " 1".toList] := by decide +kernel
  have hstaysText : sumText ["-1".toList, " 1".toList, " -9223372036854775808".toList] =
      "Sum(-1, 1, -9223372036854775808)" := by decide +kernel
  have hleavesText : sumText ["-1".toList, " -9223372036854775808".toList, " 1".toList] =
      "Sum(-1, -9223372036854775808, 1)" := by decide +kernel
  have hv : Int64.toInt (-9223372036854775808) = exactSum [-1, 1, -9223372036854775808] := by
    decide
  obtain ⟨horders, -, -⟩ :=
    sums_in_any_order Session.permits_sum_initial (by decide) (by decide) hv
  rw [← hstaysText, ← hleavesText]
  exact ⟨(horders _ _ (.refl _) hstays).1.mpr (by decide),
    (horders _ _ (by decide) hleaves).2 (by decide)⟩

/-- Three whole numbers whose exact sum is the greatest 64-bit integer: in one order that is their
sum, in another order it is not. -/
theorem sum_leaves_the_range_on_the_way :
    let ns : List Int64 := [-1, 1, 9223372036854775807]
    let ms : List Int64 := [9223372036854775807, 1, -1]
    exactSum ns = 9223372036854775807 ∧ fitsInt64 (exactSum ns) = true ∧ ms.Perm ns ∧
    Session.initial.Gives "Sum(-1, 1, 9223372036854775807)"
      [.number (.int 9223372036854775807)] ∧
    ¬ Session.initial.Gives "Sum(9223372036854775807, 1, -1)"
      [.number (.int 9223372036854775807)] := by
  intro ns ms
  have hns : Decimal.WrittenAs ns ["-1".toList, " 1".toList, " 9223372036854775807".toList] := by
    decide +kernel
  have hms : Decimal.WrittenAs ms ["9223372036854775807".toList, " 1".toList, " -1".toList] := by
    decide +kernel
  have hnsText : sumText ["-1".toList, " 1".toList, " 9223372036854775807".toList] =
      "Sum(-1, 1, 9223372036854775807)" := by decide +kernel
  have hmsText : sumText ["9223372036854775807".toList, " 1".toList, " -1".toList] =
      "Sum(9223372036854775807, 1, -1)" := by decide +kernel
  have hpermits := Session.permits_sum_initial
  rw [← hnsText, ← hmsText, Session.gives_int_iff hpermits hns (by decide) (by decide),
    Session.gives_int_iff hpermits hms (by decide) (by decide)]
  decide

end GeoScript
