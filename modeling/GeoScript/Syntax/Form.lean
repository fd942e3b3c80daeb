import GeoScript.Fault.Basic
import GeoScript.Syntax.Nesting

/-! # Forms of expressions

What a trimmed text is, by its looks alone: a number, a tuple in parentheses, a list in brackets, a
call of a command, or a word. The five are told apart by their first character. The parts of lists
and calls are texts again, and shorter ones (`Form.length_lt_of_mem`).

* `isIdentifier`: the names of labels and commands.
* `isTuple`, `readPoint?`: tuples, and the points among them.
* `callHead?`: the name and the opening parenthesis of a call.
* `Form.of`: the form of a text. -/

namespace GeoScript.Syntax

/-! ### Identifiers -/

/-- A character that can start an identifier. -/
def isIdentifierStart (c : Char) : Bool := c.isAlpha || c == '_'

/-- A character that can go on with an identifier. -/
def isIdentifierPart (c : Char) : Bool := c.isAlphanum || c == '_'

/-- An ASCII letter or an underscore, and then letters, digits and underscores. -/
def isIdentifier : List Char → Bool
  | [] => false
  | c :: cs => isIdentifierStart c && cs.all isIdentifierPart

/-! ### Tuples and lists -/

/-- What stands between the first and the last character, if these are `first` and `last`. -/
def enclosed? (first last : Char) : List Char → Option (List Char)
  | [] => none
  | c :: cs => if c = first ∧ cs.getLast? = some last then some cs.dropLast else none

/-- Whether a text starts and ends like a tuple. -/
def isTuple (cs : List Char) : Bool := (enclosed? '(' ')' cs).isSome

/-- A tuple of two or three numbers. -/
def readPoint? (cs : List Char) : Option Coordinates := do
  let inside ← enclosed? '(' ')' cs
  match ← (Text.parts ',' inside).mapM Number.read? with
  | [x, y] => some { x := x.toFloat, y := y.toFloat, z := none }
  | [x, y, z] => some { x := x.toFloat, y := y.toFloat, z := some z.toFloat }
  | _ => none

/-- The value of a tuple: a point, or else the text as it stands. -/
def tupleValue (cs : List Char) : Value :=
  match readPoint? cs with
  | some p => .point p
  | none => .text (String.ofList cs)

/-! ### Calls -/

/-- The name of a call and the text after its opening parenthesis, if a text starts with an
identifier, blanks and a parenthesis. -/
def callHead? : List Char → Option (List Char × List Char)
  | [] => none
  | c :: cs =>
    if isIdentifierStart c then
      match Text.trimStart (cs.dropWhile isIdentifierPart) with
      | '(' :: after => some (c :: cs.takeWhile isIdentifierPart, after)
      | _ => none
    else none

/-- Whether a text starts like a call. -/
def isCall (cs : List Char) : Bool := (callHead? cs).isSome

/-! ### Forms -/

/-- What a text is, by its looks. -/
inductive Form where
  | number (n : Number)
  | tuple
  | list (items : List (List Char))
  | call (name : String) (arguments : List (List Char))
  | word

/-- The form of a trimmed text. A text that starts like a call has to be one: the opening
parenthesis is closed by the last character. -/
def Form.of (cs : List Char) : Except InputProblem Form :=
  match Number.read? cs with
  | some n => .ok (.number n)
  | none =>
    if isTuple cs then .ok .tuple
    else match enclosed? '[' ']' cs with
      | some inside => .ok (.list (splitItems (Text.trim inside)))
      | none =>
        match callHead? cs with
        | none => .ok .word
        | some (name, after) =>
          match closeCall Nesting.inParenthesis after with
          | none => .error (.unbalancedParentheses (String.ofList cs))
          | some (inside, []) => .ok (.call (String.ofList name) (splitArguments inside))
          | some (_, _ :: _) => .error (.invalidCall (String.ofList cs))

/-- The texts that a form is made of. -/
def Form.parts : Form → List (List Char)
  | .list items => items
  | .call _ arguments => arguments
  | .number _ | .tuple | .word => []

/-! ### Parts are shorter -/

theorem length_lt_of_enclosed? {first last : Char} {cs inside : List Char}
    (h : enclosed? first last cs = some inside) : inside.length < cs.length := by
  cases cs with
  | nil => cases h
  | cons c cs =>
    simp only [enclosed?] at h
    split at h
    · cases h
      simp only [List.length_dropLast, List.length_cons]
      omega
    · cases h

theorem length_lt_of_callHead? {cs name after : List Char} (h : callHead? cs = some (name, after)) :
    after.length < cs.length := by
  cases cs with
  | nil => cases h
  | cons c cs =>
    simp only [callHead?] at h
    split at h
    · split at h
      · next r hr =>
        cases h
        have h1 : (Text.trimStart (cs.dropWhile isIdentifierPart)).length ≤ cs.length :=
          Nat.le_trans (Text.length_dropWhile_le _ _) (Text.length_dropWhile_le _ _)
        rw [hr] at h1
        simp only [List.length_cons] at h1 ⊢
        omega
      · cases h
    · cases h

/-- **The parts of a form are shorter than the text,** the measure by which reading ends. -/
theorem Form.length_lt_of_mem {cs p : List Char} {f : Form} (hf : Form.of cs = .ok f)
    (hp : p ∈ f.parts) : p.length < cs.length := by
  unfold Form.of at hf
  split at hf
  · cases hf; cases hp
  · split at hf
    · cases hf; cases hp
    · split at hf
      · next inside hi =>
        cases hf
        have h1 := length_le_of_mem_splitAtCommas hp
        have h2 := Text.length_trim_le inside
        have h3 := length_lt_of_enclosed? hi
        omega
      · split at hf
        · cases hf; cases hp
        · next name after hh =>
          split at hf
          · cases hf
          · next inside hc =>
            cases hf
            have h1 := length_le_of_mem_splitAtCommas hp
            have h2 := length_of_closeCall hc
            have h3 := length_lt_of_callHead? hh
            simp only [List.length_nil] at h2
            omega
          · cases hf

end GeoScript.Syntax
