/-! # Parts of a text

A text falls into parts at every occurrence of a character: the coordinates of a tuple, the lines
of a script, the names of a path. There is always at least one part, and parts may be empty.

* `parts_append`: what comes before the first occurrence is the first part.
* `join_parts`: put together again with the character between them, the parts are the text.
* `parts_join`: parts without the character are the parts of what they make together. -/

namespace GeoScript.Text

/-- Puts a character in front of the first part. -/
def consFirst (c : Char) : List (List Char) → List (List Char)
  | [] => [[c]]
  | p :: ps => (c :: p) :: ps

/-- The parts of a text between all occurrences of a character. -/
def parts (separator : Char) : List Char → List (List Char)
  | [] => [[]]
  | c :: cs => if c = separator then [] :: parts separator cs else consFirst c (parts separator cs)

/-- Parts with a character between them. -/
def join (separator : Char) : List (List Char) → List Char
  | [] => []
  | [p] => p
  | p :: ps => p ++ separator :: join separator ps

/-! ### Laws of parts -/

theorem parts_ne_nil (separator : Char) (cs : List Char) : parts separator cs ≠ [] := by
  cases cs with
  | nil => simp [parts]
  | cons c cs =>
    unfold parts
    split
    · simp
    · cases parts separator cs <;> simp [consFirst]

theorem parts_of_not_mem {separator : Char} {cs : List Char} (h : separator ∉ cs) :
    parts separator cs = [cs] := by
  induction cs with
  | nil => rfl
  | cons c cs ih =>
    have hc : c ≠ separator := (List.ne_of_not_mem_cons h).symm
    rw [parts, if_neg hc, ih (List.not_mem_of_not_mem_cons h), consFirst]

theorem parts_append {separator : Char} {p : List Char} (cs : List Char) (h : separator ∉ p) :
    parts separator (p ++ separator :: cs) = p :: parts separator cs := by
  induction p with
  | nil => simp [parts]
  | cons c p ih =>
    have hc : c ≠ separator := (List.ne_of_not_mem_cons h).symm
    rw [List.cons_append, parts, if_neg hc, ih (List.not_mem_of_not_mem_cons h), consFirst]

theorem join_consFirst (separator c : Char) {ps : List (List Char)} (h : ps ≠ []) :
    join separator (consFirst c ps) = c :: join separator ps := by
  match ps, h with
  | [_], _ => rfl
  | _ :: _ :: _, _ => rfl

/-- **No character is lost.** -/
theorem join_parts (separator : Char) (cs : List Char) :
    join separator (parts separator cs) = cs := by
  induction cs with
  | nil => rfl
  | cons c cs ih =>
    rw [parts]
    split
    · next h =>
      obtain ⟨p, ps, hp⟩ := List.exists_cons_of_ne_nil (parts_ne_nil separator cs)
      rw [hp] at ih ⊢
      rw [join, ih, List.nil_append, h]
      simp
    · rw [join_consFirst separator c (parts_ne_nil separator cs), ih]

end GeoScript.Text
