import GeoScript.Evaluation.Resolve
import GeoScript.Proofs.Expr.Positions
import GeoScript.Proofs.Labels.Root
import GeoScript.Proofs.Reading.Displayed

/-! # Resolving what was read

Resolving looks at the texts among some values, at every depth of their lists, and at nothing else.
What it makes of a text is not a text that could be resolved once more. The reader looks for numbers
and tuples as well, so that it leaves no text among arguments that could be resolved at all.

* `Value.item?`, `item?_resolve`: what stands at a place in lists of lists is resolved there.
* `Value.resolve_resolve`: resolving twice is resolving once.
* `Value.expressions_resolve`: the expressions in a value are left alone.
* `resolve_of_readArgument`, `resolve_of_readTrimmed`: arguments are resolved when they are read.
* `reading_agrees_with_resolution`: the main statement. -/

namespace GeoScript

/-! ### Texts -/

/-- A text becomes a point or a number, or stays. -/
theorem resolveText_cases (s : String) :
    (∃ p, resolveText s = .point p) ∨ (∃ n, resolveText s = .number n) ∨
      resolveText s = .text s := by
  unfold resolveText
  dsimp only
  split
  · split
    · next p _ => exact .inl ⟨p, rfl⟩
    · exact .inr (.inr rfl)
  · split
    · next n _ => exact .inr (.inl ⟨n, rfl⟩)
    · exact .inr (.inr rfl)

theorem resolveText_of_word {cs : List Char} (htight : Text.Tight cs)
    (htuple : Syntax.isTuple cs = false) (hnumber : Number.read? cs = none) :
    resolveText (String.ofList cs) = .text (String.ofList cs) := by
  unfold resolveText
  simp only [String.toList_ofList, Text.trim_of_tight htight, htuple, hnumber, Bool.false_eq_true,
    ↓reduceIte]

theorem resolveText_of_tuple {cs : List Char} (htight : Text.Tight cs)
    (htuple : Syntax.isTuple cs = true) (hpoint : Syntax.readPoint? cs = none) :
    resolveText (String.ofList cs) = .text (String.ofList cs) := by
  unfold resolveText
  simp only [String.toList_ofList, Text.trim_of_tight htight, htuple, hpoint, ↓reduceIte]

/-! ### Values -/

namespace Value

/-- The value at a place in lists of lists: the item with the first number of the path, in it the
item with the second, and so on. -/
def item? : Value → List Nat → Option Value
  | v, [] => some v
  | .list items, i :: path => items[i]?.bind fun v => v.item? path
  | _, _ :: _ => none

/-- **What stands at a place is resolved at that place.** -/
theorem item?_resolve (v : Value) (path : List Nat) :
    v.resolve.item? path = (v.item? path).map resolve := by
  induction path generalizing v with
  | nil => rfl
  | cons i path ih =>
    cases v with
    | list items =>
      simp only [resolve, item?, resolveAll_eq_map, List.getElem?_map]
      cases items[i]? with
      | none => rfl
      | some v => exact ih v
    | text s =>
      rcases resolveText_cases s with ⟨p, h⟩ | ⟨n, h⟩ | h <;> rw [resolve, h] <;> rfl
    | number n => rfl
    | point p => rfl
    | expr e => rfl

mutual

/-- **Resolving twice is resolving once.** -/
theorem resolve_resolve : ∀ v : Value, v.resolve.resolve = v.resolve
  | .text s => by
    rcases resolveText_cases s with ⟨p, h⟩ | ⟨n, h⟩ | h
    · rw [resolve, h, resolve]
    · rw [resolve, h, resolve]
    · rw [resolve, h, resolve, h]
  | .list items => by rw [resolve, resolve, resolveAll_resolveAll items]
  | .number n => rfl
  | .point p => rfl
  | .expr e => rfl

theorem resolveAll_resolveAll : ∀ vs : List Value, resolveAll (resolveAll vs) = resolveAll vs
  | [] => rfl
  | v :: vs => by rw [resolveAll, resolveAll, resolve_resolve v, resolveAll_resolveAll vs]

end

mutual

/-- **The expressions in a value are left alone.** -/
theorem expressions_resolve : ∀ v : Value, v.resolve.expressions = v.expressions
  | .text s => by
    rcases resolveText_cases s with ⟨p, h⟩ | ⟨n, h⟩ | h <;> rw [resolve, h] <;> rfl
  | .list items => expressionsAll_resolveAll items
  | .number n => rfl
  | .point p => rfl
  | .expr e => rfl

theorem expressionsAll_resolveAll :
    ∀ vs : List Value, expressionsAll (resolveAll vs) = expressionsAll vs
  | [] => rfl
  | v :: vs => by
    rw [resolveAll, expressionsAll, expressions_resolve v, expressionsAll_resolveAll vs,
      expressionsAll]

end

theorem resolveAll_eq_self_iff {vs : List Value} :
    resolveAll vs = vs ↔ ∀ v ∈ vs, v.resolve = v := by
  rw [resolveAll_eq_map]
  have hmap := List.map_inj_left (f := resolve) (g := id) (l := vs)
  rwa [List.map_id] at hmap

end Value

/-! ### What is read is resolved -/

namespace Syntax

theorem Number.read?_of_form {cs : List Char} {f : Form} (hf : Form.of cs = .ok f)
    (hne : ∀ n, f ≠ .number n) : Number.read? cs = none := by
  cases hread : Number.read? cs with
  | none => rfl
  | some n =>
    rw [form_number hread] at hf
    cases hf
    exact absurd rfl (hne n)

section Settled

variable {vars : Variables} (hvars : ∀ name v, vars.get? name = some v → v.resolve = v)

include hvars

theorem resolve_wordValue {cs : List Char} (htight : Text.Tight cs) (hf : Form.of cs = .ok .word) :
    (wordValue vars (String.ofList cs)).resolve = wordValue vars (String.ofList cs) := by
  unfold wordValue
  cases hget : vars.get? (String.ofList cs) with
  | some v => exact hvars _ v hget
  | none =>
    have hnumber := Number.read?_of_form hf fun _ h => by cases h
    rw [Option.getD_none, Value.resolve]
    exact resolveText_of_word htight (Form.tells_of hf) hnumber

omit hvars in
theorem resolve_tupleValue {cs : List Char} (htight : Text.Tight cs) (htuple : isTuple cs = true) :
    (tupleValue cs).resolve = tupleValue cs := by
  unfold tupleValue
  cases hpoint : readPoint? cs with
  | some p => rfl
  | none =>
    rw [Value.resolve]
    exact resolveText_of_tuple htight htuple hpoint

omit hvars in
theorem resolveAll_of_mapM {quotes : Bool} {inside : List Char} {vs : List Value}
    (hvs : (splitAtCommas quotes inside).mapM (readArgument vars) = .ok vs)
    (h : ∀ p ∈ splitAtCommas quotes inside, Text.Tight p → ∀ v, readArgument vars p = .ok v →
      v.resolve = v) : Value.resolveAll vs = vs := by
  rw [Value.resolveAll_eq_self_iff]
  intro v hv
  obtain ⟨p, hp, hread⟩ := (mem_of_mapM_ok hvs v).mp hv
  have htight := tight_of_mem_items (items_splitAtCommas quotes inside) p hp
  exact h p hp htight v hread

/-- **An argument is resolved when it is read,** by induction on the length of its text. -/
theorem resolve_of_readArgument {cs : List Char} (htight : Text.Tight cs) {v : Value}
    (h : readArgument vars cs = .ok v) : v.resolve = v := by
  rw [readArgument_eq] at h
  cases hf : Form.of cs with
  | error problem =>
    rw [hf] at h
    cases h
  | ok f =>
    have hparts : ∀ p ∈ f.parts, Text.Tight p → ∀ v, readArgument vars p = .ok v →
        v.resolve = v := by
      intro p hp htight' v hv
      have hlt := Form.length_lt_of_mem hf hp
      exact resolve_of_readArgument htight' hv
    have htells := Form.tells_of hf
    rw [hf] at h
    simp only [Except.bind] at h
    cases f with
    | number n =>
      cases h
      rfl
    | tuple =>
      cases h
      exact resolve_tupleValue htight htells
    | list items =>
      obtain ⟨vs, hvs, rfl⟩ := ok_of_map h
      obtain ⟨inside, -, rfl⟩ := htells
      rw [Value.resolve, resolveAll_of_mapM hvs hparts]
    | call name arguments =>
      obtain ⟨vs, -, rfl⟩ := ok_of_map h
      rfl
    | word =>
      cases h
      exact resolve_wordValue hvars htight hf
termination_by cs.length

theorem resolve_of_readUnlabelled {cs : List Char} {e : Expr} (h : readUnlabelled vars cs = .ok e) :
    Value.resolveAll e.root.arguments = e.root.arguments := by
  rcases readAs_of_readUnlabelled h with _ | _ | _ | _ | _ | _
  case call name parts vs hf hvs =>
    obtain ⟨-, -, inside, -, -, -, rfl⟩ := Form.tells_of hf
    have hsettled := resolveAll_of_mapM hvs fun p _ htight v hv =>
      resolve_of_readArgument hvars htight hv
    have harguments : (Expr.command name vs).root.arguments = vs := Expr.arguments_command name vs
    rw [harguments, hsettled]
  all_goals rfl

theorem resolve_of_readTrimmed {cs : List Char} {e : Expr} (h : readTrimmed vars cs = .ok e) :
    Value.resolveAll e.root.arguments = e.root.arguments := by
  refine readTrimmed_induction
    (motive := fun _ e => Value.resolveAll e.root.arguments = e.root.arguments) ?_ ?_ h
  · intro cs e _ hu
    exact resolve_of_readUnlabelled hvars hu
  · intro cs before after e _ _ _ ih
    rw [Expr.root_label]
    exact ih

end Settled

end Syntax

/-- **Reading and resolving agree.** Resolving twice is resolving once; values keep their number and
their places, at every depth of lists; the expressions among them are left alone. If resolving
leaves the values of all variables as they are, it leaves the arguments of every call that is read
as they are, with labels in front of the call or without. -/
theorem reading_agrees_with_resolution :
    (∀ vs : List Value, Value.resolveAll (Value.resolveAll vs) = Value.resolveAll vs) ∧
    (∀ vs : List Value, (Value.resolveAll vs).length = vs.length) ∧
    (∀ (vs : List Value) (path : List Nat), (Value.list (Value.resolveAll vs)).item? path =
      ((Value.list vs).item? path).map Value.resolve) ∧
    (∀ vs : List Value,
      Value.expressionsAll (Value.resolveAll vs) = Value.expressionsAll vs) ∧
    ∀ vars : Syntax.Variables,
      (∀ name v, vars.get? name = some v → Value.resolveAll [v] = [v]) →
      ∀ text e, Expr.read vars text = .ok e →
        Value.resolveAll e.root.arguments = e.root.arguments := by
  refine ⟨Value.resolveAll_resolveAll, Value.length_resolveAll,
    fun vs => Value.item?_resolve (.list vs), Value.expressionsAll_resolveAll, ?_⟩
  intro vars hvars text e hread
  have hsettled : ∀ name v, vars.get? name = some v → v.resolve = v :=
    fun name v hget => (List.cons.inj (hvars name v hget)).1
  exact Syntax.resolve_of_readTrimmed hsettled (Expr.readTrimmed_of_read hread)

/-- A call under two labels, with a tuple that is no point, a quoted number, a list in a list, and
variables that hold a list and a text with blanks around it. -/
theorem reading_agrees_with_resolution_chain :
    let pair := Value.list [.text "(a, 1)", .number (.int 2)]
    let vars : Syntax.Variables := .insert (.insert .empty "q" (.text " b ")) "p" pair
    let arguments : List Value :=
      [.text "(1, x)", .text "\"7\"", .list [.list [.number (.int 3), pair], .text "q q"],
        .expr (.command "f" [.text " b "])]
    let text := "A = B = Line((1, x), \"7\", [[3, p], q q], f(q))"
    (∀ name v, vars.get? name = some v → Value.resolveAll [v] = [v]) ∧
      Expr.read vars text = .ok (.assignment "A" ((Expr.command "Line" arguments).withLabel "B")) ∧
      Value.resolveAll arguments = arguments := by
  intro pair vars arguments text
  have hvars : ∀ name v, vars.get? name = some v → Value.resolveAll [v] = [v] := by
    intro name v hget
    simp only [vars, Table.get?_insert, Table.get?_empty] at hget
    split at hget
    · cases hget
      cbv
    · split at hget
      · cases hget
        cbv
      · cases hget
  have hread : Expr.read vars text =
      .ok (.assignment "A" ((Expr.command "Line" arguments).withLabel "B")) := by
    cbv
  obtain ⟨-, -, -, -, hsettled⟩ := reading_agrees_with_resolution
  have hresolved := hsettled vars hvars text _ hread
  have harguments : (Expr.assignment "A" ((Expr.command "Line" arguments).withLabel "B")).root =
      Expr.command "Line" arguments := rfl
  rw [harguments, Expr.arguments_command] at hresolved
  exact ⟨hvars, hread, hresolved⟩

end GeoScript
