import GeoScript.Proofs.Expr.Positions
import GeoScript.Proofs.Labels.Root
import GeoScript.Proofs.Reading.Accepted
import GeoScript.Validation

/-! # Problems and their positions

A node is *faulty* by itself if it calls a command that is not in the catalogue, or is an identifier
that stands for nothing. The problems of a tree are those of its faulty nodes, one for each, in the
order of their positions. In a tree that was read there are only two places for identifiers: under
the labels, and in the value of a variable.

* `Expr.Faulty`: what is wrong with a node by itself.
* `Expr.problems_eq_positions`: the problems of a tree, position by position.
* `Expr.Located`, `exists_located`: a problem for every faulty node, and no other.
* `Syntax.FromVariable`, `Accepted.identifier_cases`: where identifiers are. -/

namespace GeoScript

/-! ### Faulty nodes -/

/-- What is wrong with a node by itself. -/
inductive Expr.Faulty (vars : Syntax.Variables) (e : Expr) : Problem → Prop
  | unknownCommand {name : String} (hname : e.commandName? = some name)
      (hnone : ∀ c : Command, c.name ≠ name) : Faulty vars e (.unknownCommand name)
  | undefinedVariable {name : String} (hkind : e.kind = .identifier)
      (hvalue : e.value = some (.text name)) (hfree : vars.get? name = none) :
      Faulty vars e (.undefinedVariable name)

theorem Command.find?_eq_none_iff {name : String} :
    find? name = none ↔ ∀ c : Command, c.name ≠ name := by
  constructor
  · rintro h c rfl
    rw [find?_name] at h
    cases h
  · intro h
    rcases hfind : find? name with _ | c
    · rfl
    · exact absurd (name_of_find? hfind) (h c)

namespace Expr

variable {vars : Syntax.Variables}

theorem nodeProblem_cases (vars : Syntax.Variables) (e : Expr) :
    (nodeProblem vars e.kind e.value = [] ∧ ∀ problem, ¬ e.Faulty vars problem) ∨
      ∃ problem, nodeProblem vars e.kind e.value = [problem] ∧ e.Faulty vars problem := by
  obtain ⟨kind, value, label, children⟩ := e
  unfold nodeProblem
  dsimp only
  split
  · next name =>
    rcases hfind : Command.find? name with _ | c
    · have hfaulty := Command.find?_eq_none_iff.mp hfind
      exact .inr ⟨.unknownCommand name, rfl, .unknownCommand rfl hfaulty⟩
    · refine .inl ⟨rfl, ?_⟩
      rintro problem (⟨hname, hnone⟩ | ⟨hkind, -, -⟩)
      · cases hname
        exact hnone c (Command.name_of_find? hfind)
      · cases hkind
  · next name =>
    unfold Table.contains
    rcases hget : vars.get? name with _ | v
    · exact .inr ⟨.undefinedVariable name, rfl, .undefinedVariable rfl rfl hget⟩
    · refine .inl ⟨rfl, ?_⟩
      rintro problem (⟨hname, -⟩ | ⟨-, hvalue, hfree⟩)
      · cases hname
      · cases hvalue
        rw [hget] at hfree
        cases hfree
  · next hcommand hidentifier =>
    refine .inl ⟨rfl, ?_⟩
    rintro problem (⟨hname, -⟩ | ⟨hkind, hvalue, -⟩)
    · obtain ⟨hkind, hvalue⟩ := commandName?_eq_some_iff.mp hname
      exact hcommand _ hkind hvalue
    · exact hidentifier _ hkind hvalue

end Expr

/-! ### Problems in the order of positions -/

section Order

variable {vars : Syntax.Variables}

mutual

theorem Value.problems_eq_flatMap :
    ∀ v : Value, v.problems vars = v.expressions.flatMap (Expr.problems vars)
  | .expr e => by rw [Value.problems, Value.expressions, List.flatMap_singleton]
  | .list items => Value.allProblems_eq_flatMap items
  | .number n => rfl
  | .point p => rfl
  | .text s => rfl

theorem Value.allProblems_eq_flatMap :
    ∀ vs : List Value,
      Value.allProblems vars vs = (Value.expressionsAll vs).flatMap (Expr.problems vars)
  | [] => rfl
  | v :: vs => by
    rw [Value.allProblems, Value.expressionsAll, List.flatMap_append, Value.problems_eq_flatMap v,
      Value.allProblems_eq_flatMap vs]

end

namespace Expr

theorem allProblems_eq_flatMap (es : List Expr) :
    allProblems vars es = es.flatMap (problems vars) := by
  induction es with
  | nil => rfl
  | cons e es ih => rw [allProblems, ih, List.flatMap_cons]

/-- The problems of a node and of everything that it holds. -/
theorem problems_eq (e : Expr) :
    e.problems vars = nodeProblem vars e.kind e.value ++ e.inner.flatMap (problems vars) := by
  obtain ⟨kind, value, label, children⟩ := e
  have hvalue : contentProblems vars value =
      (value.elim [] Value.expressions).flatMap (problems vars) := by
    rcases value with _ | v
    · rfl
    · exact v.problems_eq_flatMap
  rw [problems, inner, hvalue, allProblems_eq_flatMap, List.flatMap_append, List.append_assoc]

/-- The problems of the node at a position by itself, if there is one. -/
def problemsAt (vars : Syntax.Variables) (e : Expr) (path : List Nat) : List Problem :=
  match e.node? path with
  | some x => nodeProblem vars x.kind x.value
  | none => []

/-- **The problems of a tree are those of its nodes,** in the order of their positions. -/
theorem problems_eq_positions (e : Expr) :
    e.problems vars = e.positions.flatMap (e.problemsAt vars) := by
  induction e using induction_inner with
  | h e ih =>
    have hinner : ∀ x ∈ e.inner.zipIdx, (x.1.positions.map (x.2 :: ·)).flatMap (e.problemsAt vars) =
        x.1.problems vars := by
      intro x hx
      have hnode : ∀ path, e.problemsAt vars (x.2 :: path) = x.1.problemsAt vars path := by
        intro path
        unfold problemsAt
        rw [node?, List.mem_zipIdx_iff_getElem?.mp hx]
        rfl
      rw [List.flatMap_map, ih x.1 (List.fst_mem_of_mem_zipIdx hx)]
      exact List.flatMap_congr fun path _ => hnode path
    have hall : e.inner.flatMap (problems vars) =
        e.inner.zipIdx.flatMap fun x => x.1.problems vars := by
      conv_lhs => rw [← List.zipIdx_map_fst 0 e.inner, List.flatMap_map]
    rw [problems_eq, positions_eq, List.flatMap_cons, List.flatMap_assoc, hall]
    have hrest := List.flatMap_congr hinner
    rw [hrest]
    rfl

/-- Items with at most one result each, and the results of those that have one. -/
theorem forall₂_filter_flatMap {α β : Type} {R : α → β → Prop} {f : α → List β} {l : List α}
    (h : ∀ a ∈ l, f a = [] ∨ ∃ b, f a = [b] ∧ R a b) :
    List.Forall₂ R (l.filter fun a => !(f a).isEmpty) (l.flatMap f) := by
  induction l with
  | nil => exact .nil
  | cons a l ih =>
    obtain ⟨ha, hl⟩ := List.forall_mem_cons.mp h
    rw [List.flatMap_cons]
    rcases ha with hnone | ⟨b, hone, hb⟩
    · rw [List.filter_cons_of_neg (by simp [hnone]), hnone]
      exact ih hl
    · rw [List.filter_cons_of_pos (by simp [hone]), hone]
      exact .cons hb (ih hl)

/-- Some places of a tree, in order, and a problem for each: the places are those of the faulty
nodes, and the problems are what is wrong with these. -/
structure Located (vars : Syntax.Variables) (e : Expr) (places : List (List Nat))
    (problems : List Problem) : Prop where
  sorted : places.Pairwise (· < ·)
  mem_iff : ∀ path, path ∈ places ↔ ∃ x problem, e.node? path = some x ∧ x.Faulty vars problem
  problem : List.Forall₂ (fun path problem => ∃ x, e.node? path = some x ∧ x.Faulty vars problem)
    places problems

theorem problemsAt_cases (vars : Syntax.Variables) (e : Expr) (path : List Nat) :
    (e.problemsAt vars path = [] ∧
        ∀ x problem, e.node? path = some x → ¬ x.Faulty vars problem) ∨
      ∃ problem, e.problemsAt vars path = [problem] ∧
        ∃ x, e.node? path = some x ∧ x.Faulty vars problem := by
  unfold problemsAt
  rcases hnode : e.node? path with _ | x
  · exact .inl ⟨rfl, fun _ _ h => by cases h⟩
  · rcases nodeProblem_cases vars x with ⟨hnone, hsound⟩ | ⟨problem, hone, hfaulty⟩
    · refine .inl ⟨hnone, ?_⟩
      rintro x problem ⟨⟩
      exact hsound problem
    · exact .inr ⟨problem, hone, x, rfl, hfaulty⟩

/-- **Every faulty node has its problem,** and there are no others. -/
theorem exists_located (vars : Syntax.Variables) (e : Expr) :
    ∃ places, e.Located vars places (e.problems vars) := by
  refine ⟨e.positions.filter fun path => !(e.problemsAt vars path).isEmpty, ?_, ?_, ?_⟩
  · exact e.pairwise_positions.filter _
  · intro path
    rw [List.mem_filter, mem_positions_iff]
    rcases problemsAt_cases vars e path with ⟨hnone, hsound⟩ | ⟨problem, hone, x, hnode, hfaulty⟩
    · simp only [hnone, List.isEmpty_nil, Bool.not_true, Bool.false_eq_true, and_false, false_iff]
      rintro ⟨x, problem, hnode, hfaulty⟩
      exact hsound x problem hnode hfaulty
    · simp only [hone, List.isEmpty_cons, Bool.not_false, and_true]
      exact ⟨fun _ => ⟨x, problem, hnode, hfaulty⟩, fun _ => ⟨x, hnode⟩⟩
  · rw [problems_eq_positions]
    refine forall₂_filter_flatMap fun path _ => ?_
    rcases problemsAt_cases vars e path with ⟨hnone, -⟩ | hone
    · exact .inl hnone
    · exact .inr hone

theorem not_faulty_of_problems_eq_nil {e : Expr} (h : e.problems vars = []) {path : List Nat}
    {x : Expr} (hnode : e.node? path = some x) {problem : Problem} : ¬ x.Faulty vars problem := by
  intro hfaulty
  obtain ⟨places, -, hplaces, hproblems⟩ := exists_located vars e
  rw [h, List.forall₂_nil_right_iff] at hproblems
  have hmem := (hplaces path).mpr ⟨x, problem, hnode, hfaulty⟩
  rw [hproblems] at hmem
  cases hmem

end Expr

end Order

/-! ### Identifiers -/

namespace Syntax

variable {vars : Variables}

/-- A node in the value of a variable. -/
def FromVariable (vars : Variables) (x : Expr) : Prop :=
  ∃ name v y path, vars.get? name = some v ∧ y ∈ v.expressions ∧ y.node? path = some x

/-- Every identifier in an expression is in the value of a variable. -/
def Closed (vars : Variables) (e : Expr) : Prop :=
  ∀ path x, e.node? path = some x → x.kind = .identifier → FromVariable vars x

theorem closed_of_inner {e : Expr} (hkind : e.kind ≠ .identifier)
    (h : ∀ x ∈ e.inner, Closed vars x) : Closed vars e := by
  rintro (_ | ⟨i, path⟩) x hnode hx
  · cases hnode
    exact absurd hx hkind
  · obtain ⟨y, hy, hnode⟩ := Option.bind_eq_some_iff.mp hnode
    exact h y (List.mem_of_getElem? hy) path x hnode hx

theorem closed_leaf {kind : ExprKind} {v : Value} (hkind : kind ≠ .identifier)
    (h : ∀ y ∈ v.expressions, Closed vars y) : Closed vars (.leaf kind v) := by
  refine closed_of_inner hkind ?_
  rwa [Expr.inner_leaf]

theorem closed_call {e : Expr} {arguments : List Value} (hkind : e.kind = .command)
    (hinner : e.inner = arguments.map (.leaf .argument))
    (h : ∀ v ∈ arguments, ∀ y ∈ v.expressions, Closed vars y) : Closed vars e := by
  refine closed_of_inner (fun hne => by cases hkind.symm.trans hne) ?_
  rw [hinner, List.forall_mem_map]
  exact fun v hv => closed_leaf (fun hne => by cases hne) (h v hv)

/-- **Arguments that were read have no identifiers in them,** but for the values of variables. -/
theorem AcceptedValue.closed {v : Value} (h : AcceptedValue vars v) :
    ∀ y ∈ v.expressions, Closed vars y := by
  induction h with
  | number n => exact List.forall_mem_nil _
  | point p => exact List.forall_mem_nil _
  | text s => exact List.forall_mem_nil _
  | list h ih =>
    rw [Value.expressions, Value.expressionsAll_eq_flatMap, List.forall_mem_flatMap]
    exact ih
  | call hname h ih =>
    rw [Value.expressions, List.forall_mem_singleton]
    exact closed_call rfl (Expr.inner_command ..) ih
  | «variable» hget =>
    intro y hy path x hnode hx
    exact ⟨_, _, y, path, hget, hy, hnode⟩

/-- **An identifier in a tree that was read** is what is under the labels, or is in the value of a
variable. -/
theorem Accepted.identifier_cases {cs : List Char} {e : Expr} (h : Accepted vars cs e)
    {path : List Nat} {x : Expr} (hnode : e.node? path = some x) (hx : x.kind = .identifier) :
    x = e.root ∨ FromVariable vars x := by
  induction h generalizing path with
  | @call cs name arguments hname h =>
    have hclosed : Closed vars (.command name arguments) :=
      closed_call rfl (Expr.inner_command ..) fun v hv => (h v hv).closed
    exact .inr (hclosed path x hnode hx)
  | number n => exact .inr (closed_leaf (by decide) (List.forall_mem_nil _) path x hnode hx)
  | point p => exact .inr (closed_leaf (by decide) (List.forall_mem_nil _) path x hnode hx)
  | tuple htuple => exact .inr (closed_leaf (by decide) (List.forall_mem_nil _) path x hnode hx)
  | @list cs items h =>
    have hclosed : Closed vars (.leaf .list (.list items)) :=
      closed_leaf (by decide) (AcceptedValue.list h).closed
    exact .inr (hclosed path x hnode hx)
  | @«variable» cs v hget =>
    have hclosed : Closed vars (.leaf .variable v) :=
      closed_leaf (by decide) (AcceptedValue.variable hget).closed
    exact .inr (hclosed path x hnode hx)
  | identifier =>
    rcases path with _ | ⟨i, path⟩
    · cases hnode
      exact .inl rfl
    · cases hnode
  | @labelledCall cs before after name arguments hsplit hlabel h ih =>
    rcases path with _ | ⟨i, path⟩
    · cases hnode
      cases hx
    · have hcall : (Expr.command name arguments).node? (i :: path) = some x := hnode
      rcases ih hcall with rfl | hvariable
      · cases hx
      · exact .inr hvariable
  | assignment hsplit hlabel h hne ih =>
    rcases path with _ | ⟨i, path⟩
    · cases hnode
      cases hx
    · obtain ⟨y, hy, hnode⟩ := Option.bind_eq_some_iff.mp hnode
      rw [Expr.inner_assignment, List.getElem?_singleton] at hy
      split at hy <;> cases hy
      exact ih hnode

end Syntax

end GeoScript
