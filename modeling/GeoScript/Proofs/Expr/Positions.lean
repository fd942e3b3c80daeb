import Mathlib.Data.List.Lex
import GeoScript.Expr.Basic

/-! # Positions in an expression

A node of an expression holds expressions: those in its value, in which they may stand in lists of
lists, and after them its children. A *position* is a path to a node, each step of which is the
number of what to go on with. In the order of dictionaries, a node comes before what it holds, and
what it holds comes from left to right.

* `Value.expressions`: the expressions in a value, from left to right.
* `Expr.inner`, `Expr.node?`: the expressions that a node holds, and the node at a position.
* `Expr.induction_inner`: what holds of a node if it holds of what is in it, holds of every tree.
* `Expr.positions`: every position of a tree, once and in order (`mem_positions_iff`,
  `pairwise_positions`). -/

namespace GeoScript

/-! ### Expressions in a value -/

mutual

/-- The expressions that stand in a value, however deep in its lists, from left to right. What these
hold themselves is not among them. -/
def Value.expressions : Value → List Expr
  | .expr e => [e]
  | .list items => Value.expressionsAll items
  | .number _ | .point _ | .text _ => []

/-- The expressions in some values. -/
def Value.expressionsAll : List Value → List Expr
  | [] => []
  | v :: vs => v.expressions ++ Value.expressionsAll vs

end

theorem Value.expressionsAll_eq_flatMap (vs : List Value) :
    Value.expressionsAll vs = vs.flatMap Value.expressions := by
  induction vs with
  | nil => rfl
  | cons v vs ih => rw [Value.expressionsAll, ih, List.flatMap_cons]

mutual

theorem Value.sizeOf_lt_of_mem_expressions {e : Expr} :
    ∀ {v : Value}, e ∈ v.expressions → sizeOf e < sizeOf v
  | .expr e', h => by
    rw [Value.expressions, List.mem_singleton] at h
    subst h
    simp
  | .list items, h => by
    have hlt : sizeOf e < sizeOf items := Value.sizeOf_lt_of_mem_expressionsAll h
    rw [Value.list.sizeOf_spec]
    omega

theorem Value.sizeOf_lt_of_mem_expressionsAll {e : Expr} :
    ∀ {vs : List Value}, e ∈ Value.expressionsAll vs → sizeOf e < sizeOf vs
  | v :: vs, h => by
    rw [Value.expressionsAll, List.mem_append] at h
    rw [List.cons.sizeOf_spec]
    rcases h with h | h
    · have hlt := Value.sizeOf_lt_of_mem_expressions h
      omega
    · have hlt := Value.sizeOf_lt_of_mem_expressionsAll h
      omega

end

/-! ### Nodes at positions -/

namespace Expr

/-- The expressions that a node holds: those in its value, and its children. -/
def inner (e : Expr) : List Expr := (e.value.elim [] Value.expressions) ++ e.children

@[simp] theorem inner_command (name : String) (arguments : List Value) :
    (command name arguments).inner = arguments.map (leaf .argument) := rfl

@[simp] theorem inner_assignment (label : String) (rhs : Expr) :
    (assignment label rhs).inner = [rhs] := rfl

@[simp] theorem inner_leaf (kind : ExprKind) (v : Value) : (leaf kind v).inner = v.expressions :=
  List.append_nil _

@[simp] theorem inner_withLabel (e : Expr) (label : String) : (e.withLabel label).inner = e.inner :=
  rfl

theorem sizeOf_lt_of_mem_inner {e x : Expr} (h : x ∈ e.inner) : sizeOf x < sizeOf e := by
  obtain ⟨kind, value, label, children⟩ := e
  rw [Expr.mk.sizeOf_spec]
  rcases List.mem_append.mp h with h | h
  · cases value with
    | none => cases h
    | some v =>
      have hlt := Value.sizeOf_lt_of_mem_expressions h
      rw [Option.some.sizeOf_spec]
      omega
  · have hlt := List.sizeOf_lt_of_mem h
    dsimp only at hlt
    omega

/-- **Induction over a tree,** from what a node holds to the node. -/
@[elab_as_elim]
theorem induction_inner {motive : Expr → Prop} (h : ∀ e, (∀ x ∈ e.inner, motive x) → motive e)
    (e : Expr) : motive e :=
  h e fun x _hx => induction_inner h x
termination_by sizeOf e
decreasing_by exact sizeOf_lt_of_mem_inner _hx

/-- The node at a position. -/
def node? (e : Expr) : List Nat → Option Expr
  | [] => some e
  | i :: path => e.inner[i]?.bind fun x => x.node? path

/-! ### All positions of a tree -/

/-- The positions of a tree: that of its root, and those in each expression that the root holds. -/
def positions (e : Expr) : List (List Nat) :=
  [] :: e.inner.zipIdx.attach.flatMap fun x => x.1.1.positions.map (x.1.2 :: ·)
termination_by sizeOf e
decreasing_by exact sizeOf_lt_of_mem_inner (List.fst_mem_of_mem_zipIdx x.2)

theorem positions_eq (e : Expr) : e.positions =
    [] :: e.inner.zipIdx.flatMap fun x => x.1.positions.map (x.2 :: ·) := by
  rw [positions]
  conv_rhs => rw [← List.attach_map_subtype_val e.inner.zipIdx, List.flatMap_map]

/-- **Every node has its position,** and at every position there is a node. -/
theorem mem_positions_iff {e : Expr} {path : List Nat} :
    path ∈ e.positions ↔ ∃ x, e.node? path = some x := by
  induction path generalizing e with
  | nil =>
    rw [positions_eq]
    exact ⟨fun _ => ⟨e, rfl⟩, fun _ => List.mem_cons_self⟩
  | cons i path ih =>
    rw [positions_eq, List.mem_cons, List.mem_flatMap]
    constructor
    · rintro (h | ⟨⟨x, j⟩, hx, h⟩)
      · cases h
      · obtain ⟨q, hq, hcons⟩ := List.mem_map.mp h
        cases hcons
        obtain ⟨y, hy⟩ := ih.mp hq
        refine ⟨y, ?_⟩
        rw [node?, List.mem_zipIdx_iff_getElem?.mp hx]
        exact hy
    · rintro ⟨y, hy⟩
      obtain ⟨x, hx, hy⟩ := Option.bind_eq_some_iff.mp hy
      refine .inr ⟨(x, i), List.mem_zipIdx_iff_getElem?.mpr hx, ?_⟩
      exact List.mem_map_of_mem (ih.mpr ⟨y, hy⟩)

/-- **The positions are in order,** so that none is listed twice. -/
theorem pairwise_positions (e : Expr) : e.positions.Pairwise (· < ·) := by
  induction e using induction_inner with
  | h e ih =>
    rw [positions_eq, List.pairwise_cons]
    refine ⟨fun p hp => ?_, ?_⟩
    · obtain ⟨x, -, hp⟩ := List.mem_flatMap.mp hp
      obtain ⟨q, -, rfl⟩ := List.mem_map.mp hp
      exact List.nil_lt_cons x.2 q
    · rw [List.pairwise_flatMap]
      refine ⟨fun x hx => ?_, ?_⟩
      · -- two positions in the same part
        rw [List.pairwise_map]
        have hpart := ih x.1 (List.fst_mem_of_mem_zipIdx hx)
        exact hpart.imp fun hlt => List.cons_lt_cons_iff.mpr (.inr ⟨rfl, hlt⟩)
      · -- positions in two parts, by the numbers of these
        have hnumbers : e.inner.zipIdx.Pairwise fun x y => x.2 < y.2 := by
          rw [← List.pairwise_map, List.zipIdx_map_snd]
          exact List.pairwise_lt_range'
        refine hnumbers.imp fun hlt p hp q hq => ?_
        obtain ⟨p', -, rfl⟩ := List.mem_map.mp hp
        obtain ⟨q', -, rfl⟩ := List.mem_map.mp hq
        exact List.cons_lt_cons_iff.mpr (.inl hlt)

end Expr

end GeoScript
