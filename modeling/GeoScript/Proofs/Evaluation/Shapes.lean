import GeoScript.Evaluation.Basic
import GeoScript.Proofs.Decimal.Bits
import GeoScript.Proofs.Traversal

/-! # What the basic processor answers

The basic processor counts the arguments of a call first, whatever the command is. Then it resolves
them, and describes a figure if they have the shape that the command wants. Shapes (`Command.Fits`)
and figures (`Describes`) are stated here command by command, without regard to the order in which
the processor tells them apart.

* `floatTotal`, `meanOf_eq`: the mean, a floating-point number whatever the numbers are.
* `figure?_eq_some_iff`: the figure that is described is the one that the processor finds.
* `fits_iff_exists_describes`: the shape decides whether there is a figure.
* `answer_basicProcessor`, `compute_of_basic`: the count of the arguments, and the rules.
* `basicProcessor_outcome`: the main statement. -/

namespace GeoScript

/-! ### Shapes and figures -/

/-- Arguments of the shape that a command wants. Commands without a rule want none. -/
def Command.Fits : Command → List Value → Prop
  | .point, vs => (∃ x y, vs = [.number x, .number y]) ∨ ∃ p, vs = [.point p]
  | .line, vs | .segment, vs | .circle, vs | .intersect, vs | .distance, vs | .midpoint, vs =>
    vs.length = 2
  | .length, vs => vs.length = 1
  | .angle, vs => vs.length = 3
  | .sum, vs | .mean, vs => ∀ v ∈ vs, ∃ n, v = .number n
  | _, _ => False

/-- Some numbers in floating point, added up from the left: the first, and the second, and so on.
What stands for no numbers at all is negative zero, which leaves every other number as it is. -/
def floatTotal : List Number → Float
  | [] => -0.0
  | n :: ns => (ns.map Number.toFloat).foldl (· + ·) n.toFloat

/-- The figure that a command describes by its arguments, in the order of the arguments. A sum is
whole as long as it fits; a mean is the total in floating point, divided by the count. -/
inductive Describes : Command → List Value → Figure → Prop
  | coordinates (x y : Number) : Describes .point [.number x, .number y] (.point x y none)
  | tuple (p : Coordinates) :
      Describes .point [.point p] (.point (.float p.x) (.float p.y) (p.z.map .float))
  | line (a b : Value) : Describes .line [a, b] (.line a b)
  | segment (a b : Value) : Describes .segment [a, b] (.segment a b)
  | circle (center radius : Value) : Describes .circle [center, radius] (.circle center radius)
  | intersection (a b : Value) : Describes .intersect [a, b] (.intersection a b)
  | distance (a b : Value) : Describes .distance [a, b] (.distance a b)
  | length (object : Value) : Describes .length [object] (.length object)
  | angle (a vertex b : Value) : Describes .angle [a, vertex, b] (.angle a vertex b)
  | midpoint (a b : Value) : Describes .midpoint [a, b] (.midpoint a b)
  | sum (ns : List Number) :
      Describes .sum (ns.map .number) (.number (ns.foldl Number.plus (.int 0)))
  | mean (ns : List Number) :
      Describes .mean (ns.map .number) (.number (.float (floatTotal ns / ns.length.toFloat)))

/-- **The mean is the total divided by the count.** The processor starts from negative zero. -/
theorem meanOf_eq (ns : List Number) :
    meanOf ns = .float (floatTotal ns / ns.length.toFloat) := by
  have htotal : ns.foldl (fun total n => total + n.toFloat) (-0.0) = floatTotal ns := by
    cases ns with
    | nil => rfl
    | cons n ns => rw [List.foldl_cons, Decimal.negZero_add, floatTotal, List.foldl_map]
  rw [meanOf, htotal]

/-! ### Numbers among values -/

theorem Value.number?_eq_some_iff {v : Value} {n : Number} :
    v.number? = some n ↔ v = .number n := by
  cases v <;> simp [number?]

theorem mapM_number?_eq_some_iff {vs : List Value} {ns : List Number} :
    vs.mapM Value.number? = some ns ↔ vs = ns.map .number := by
  simp only [mapM_eq_some_iff, Value.number?_eq_some_iff]
  rw [← List.forall₂_map_right_iff (R := Eq), List.forall₂_eq_eq_eq]

theorem exists_map_number {vs : List Value} (h : ∀ v ∈ vs, ∃ n, v = .number n) :
    ∃ ns : List Number, vs = ns.map .number := by
  induction vs with
  | nil => exact ⟨[], rfl⟩
  | cons v vs ih =>
    rw [List.forall_mem_cons] at h
    obtain ⟨⟨n, rfl⟩, hrest⟩ := h
    obtain ⟨ns, rfl⟩ := ih hrest
    exact ⟨n :: ns, rfl⟩

theorem forall_mem_map_number (ns : List Number) : ∀ v ∈ ns.map Value.number, ∃ n, v = .number n := by
  intro v hv
  obtain ⟨n, -, rfl⟩ := List.mem_map.mp hv
  exact ⟨n, rfl⟩

/-! ### What the processor finds -/

theorem describes_of_figure? {c : Command} {vs : List Value} {f : Figure}
    (h : figure? c vs = some f) : Describes c vs f := by
  unfold figure? at h
  split at h
  · next x y => cases h; exact .coordinates x y
  · next p => cases h; exact .tuple p
  · next a b => cases h; exact .line a b
  · next a b => cases h; exact .segment a b
  · next center radius => cases h; exact .circle center radius
  · next a b => cases h; exact .intersection a b
  · next a b => cases h; exact .distance a b
  · next object => cases h; exact .length object
  · next a vertex b => cases h; exact .angle a vertex b
  · next a b => cases h; exact .midpoint a b
  · obtain ⟨ns, hns, rfl⟩ := Option.map_eq_some_iff.mp h
    rw [mapM_number?_eq_some_iff.mp hns]
    exact .sum ns
  · obtain ⟨ns, hns, rfl⟩ := Option.map_eq_some_iff.mp h
    rw [mapM_number?_eq_some_iff.mp hns, meanOf_eq]
    exact .mean ns
  · cases h

theorem figure?_of_describes {c : Command} {vs : List Value} {f : Figure} (h : Describes c vs f) :
    figure? c vs = some f := by
  cases h with
  | sum ns => rw [figure?, mapM_number?_eq_some_iff.mpr rfl, Option.map_some, sumOf, Number.zero]
  | mean ns => rw [figure?, mapM_number?_eq_some_iff.mpr rfl, Option.map_some, meanOf_eq]
  | _ => rfl

/-- **What the processor finds is what the command describes.** -/
theorem figure?_eq_some_iff {c : Command} {vs : List Value} {f : Figure} :
    figure? c vs = some f ↔ Describes c vs f :=
  ⟨describes_of_figure?, figure?_of_describes⟩

/-- **The shape decides whether there is a figure.** -/
theorem fits_iff_exists_describes {c : Command} {vs : List Value} :
    c.Fits vs ↔ ∃ f, Describes c vs f := by
  constructor
  · intro h
    unfold Command.Fits at h
    split at h
    · rcases h with ⟨x, y, rfl⟩ | ⟨p, rfl⟩
      · exact ⟨_, .coordinates x y⟩
      · exact ⟨_, .tuple p⟩
    · obtain ⟨a, b, rfl⟩ := List.length_eq_two.mp h
      exact ⟨_, .line a b⟩
    · obtain ⟨a, b, rfl⟩ := List.length_eq_two.mp h
      exact ⟨_, .segment a b⟩
    · obtain ⟨center, radius, rfl⟩ := List.length_eq_two.mp h
      exact ⟨_, .circle center radius⟩
    · obtain ⟨a, b, rfl⟩ := List.length_eq_two.mp h
      exact ⟨_, .intersection a b⟩
    · obtain ⟨a, b, rfl⟩ := List.length_eq_two.mp h
      exact ⟨_, .distance a b⟩
    · obtain ⟨a, b, rfl⟩ := List.length_eq_two.mp h
      exact ⟨_, .midpoint a b⟩
    · obtain ⟨object, rfl⟩ := List.length_eq_one_iff.mp h
      exact ⟨_, .length object⟩
    · obtain ⟨a, vertex, b, rfl⟩ := List.length_eq_three.mp h
      exact ⟨_, .angle a vertex b⟩
    · obtain ⟨ns, rfl⟩ := exists_map_number h
      exact ⟨_, .sum ns⟩
    · obtain ⟨ns, rfl⟩ := exists_map_number h
      exact ⟨_, .mean ns⟩
    · exact h.elim
  · rintro ⟨f, h⟩
    cases h with
    | coordinates x y => exact .inl ⟨x, y, rfl⟩
    | tuple p => exact .inr ⟨p, rfl⟩
    | sum ns => exact forall_mem_map_number ns
    | mean ns => exact forall_mem_map_number ns
    | _ => rfl

/-! ### The processor -/

theorem checkCount_basic (command : String) (arguments : List Value) :
    checkCount command arguments 1 (some 10) =
      if arguments.length = 0 then .error (.argumentCount command 1 0)
      else if 10 < arguments.length then .error (.argumentCount command 10 arguments.length)
      else .ok () := by
  unfold checkCount
  by_cases hnone : arguments.length = 0
  · simp [hnone]
  · have hpos : ¬ arguments.length < 1 := by omega
    simp only [hpos, hnone, if_false]

theorem answer_basicProcessor (c : Command) (arguments : List Value) (options : Options) :
    (basicProcessor c arguments options).answer =
      if arguments.length = 0 then .error (.argumentCount c.name 1 0)
      else if 10 < arguments.length then .error (.argumentCount c.name 10 arguments.length)
      else compute c (Value.resolveAll arguments) := by
  unfold basicProcessor
  rw [checkCount_basic]
  by_cases hnone : arguments.length = 0
  · simp only [hnone, if_true]
    rfl
  · by_cases hmany : 10 < arguments.length
    · simp only [hnone, hmany, if_true, if_false]
      rfl
    · simp only [hnone, hmany, if_false]
      rfl

/-- **What a command with a rule computes:** the one figure that it describes, or a fault that shows
every argument. -/
theorem compute_of_basic {c : Command} (hc : c ∈ basicCommands) (vs : List Value) :
    (∀ figures, compute c vs = .ok figures ↔ ∃ f, figures = [f] ∧ Describes c vs f) ∧
      (¬ c.Fits vs →
        compute c vs = .error (.illegalArgument c.name (vs.map Value.render) none)) := by
  have hcontains : basicCommands.contains c = true := List.contains_iff_mem.mpr hc
  unfold compute
  rw [if_pos hcontains]
  cases hf : figure? c vs with
  | some f =>
    have hdescribes := figure?_eq_some_iff.mp hf
    refine ⟨fun figures => ?_, fun hnot => ?_⟩
    · rw [Except.ok.injEq]
      constructor
      · rintro rfl
        exact ⟨f, rfl, hdescribes⟩
      · rintro ⟨g, rfl, hg⟩
        have hg' := figure?_eq_some_iff.mpr hg
        rw [Option.some.inj (hf.symm.trans hg')]
    · exact absurd (fits_iff_exists_describes.mpr ⟨f, hdescribes⟩) hnot
  | none =>
    refine ⟨fun figures => ?_, fun _ => rfl⟩
    constructor
    · intro h
      cases h
    · rintro ⟨g, -, hg⟩
      cases hf.symm.trans (figure?_eq_some_iff.mpr hg)

theorem compute_of_not_basic {c : Command} (hc : c ∉ basicCommands) (vs : List Value) :
    compute c vs = .error (.notImplemented c.name) := by
  have hcontains : ¬ basicCommands.contains c = true := fun h => hc (List.contains_iff_mem.mp h)
  rw [compute, if_neg hcontains]

/-- **What the basic processor answers.** Without arguments and with more than ten, every command
ends by a fault that names the bound. Otherwise the arguments are resolved, and a command with a
rule answers with one figure, the one that it describes, if they have its shape, and by a fault that
shows them if not; every other command is not implemented. -/
theorem basicProcessor_outcome (c : Command) (arguments : List Value) (options : Options) :
    let answer := (basicProcessor c arguments options).answer
    let resolved := Value.resolveAll arguments
    let ruled : List Command := [.point, .line, .segment, .circle, .intersect, .distance, .length,
      .angle, .midpoint, .sum, .mean]
    (arguments.length = 0 → answer = .error (.argumentCount c.name 1 0)) ∧
    (10 < arguments.length → answer = .error (.argumentCount c.name 10 arguments.length)) ∧
    (1 ≤ arguments.length → arguments.length ≤ 10 →
      (c ∈ ruled →
        ((∃ figures, answer = .ok figures) ↔ c.Fits resolved) ∧
        (∀ figures, answer = .ok figures ↔ ∃ f, figures = [f] ∧ Describes c resolved f) ∧
        (¬ c.Fits resolved →
          answer = .error (.illegalArgument c.name (resolved.map Value.render) none))) ∧
      (c ∉ ruled → answer = .error (.notImplemented c.name))) := by
  intro answer resolved ruled
  have hanswer : answer = _ := answer_basicProcessor c arguments options
  refine ⟨fun hnone => ?_, fun hmany => ?_, fun hpos hle => ?_⟩
  · rw [hanswer, if_pos hnone]
  · rw [hanswer, if_neg (by omega), if_pos hmany]
  · rw [if_neg (by omega), if_neg (by omega)] at hanswer
    rw [hanswer]
    refine ⟨fun hc => ?_, fun hc => compute_of_not_basic hc resolved⟩
    obtain ⟨hok, hmisfit⟩ := compute_of_basic hc resolved
    refine ⟨?_, hok, hmisfit⟩
    rw [fits_iff_exists_describes]
    constructor
    · rintro ⟨figures, hfigures⟩
      obtain ⟨f, -, hf⟩ := (hok figures).mp hfigures
      exact ⟨f, hf⟩
    · rintro ⟨f, hf⟩
      exact ⟨[f], (hok [f]).mpr ⟨f, rfl, hf⟩⟩

end GeoScript
