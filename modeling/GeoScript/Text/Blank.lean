/-! # Blank characters and trimming

A character is *blank* if Unicode gives it the property `White_Space`: twenty-five characters, of
which only the first six are ASCII. Texts are trimmed as lists of characters.

* `trim`: a text without the blanks at its ends.
* `trim_eq_nil_iff`: nothing is left exactly when every character is blank.
* `length_trim_le`: trimming never lengthens a text, the measure by which the reader ends. -/

namespace GeoScript.Text

/-- The property `White_Space`. The separators `U+001C` to `U+001F`, the zero-width space `U+200B`
and the byte-order mark `U+FEFF` do not have it. -/
def isBlank (c : Char) : Bool :=
  let n := c.toNat
  (0x09 ≤ n && n ≤ 0x0D) || n == 0x20 || n == 0x85 || n == 0xA0 || n == 0x1680 ||
    (0x2000 ≤ n && n ≤ 0x200A) || n == 0x2028 || n == 0x2029 || n == 0x202F || n == 0x205F ||
    n == 0x3000

/-- The text from its first non-blank character on. -/
def trimStart (cs : List Char) : List Char := cs.dropWhile isBlank

/-- The text up to its last non-blank character. -/
def trimEnd (cs : List Char) : List Char := (cs.reverse.dropWhile isBlank).reverse

/-- The text without the blanks at both ends. -/
def trim (cs : List Char) : List Char := trimEnd (trimStart cs)

/-- `trim` on strings. -/
def trimmed (s : String) : String := String.ofList (trim s.toList)

/-- Only blanks, or nothing at all. -/
def isEmptyText (s : String) : Bool := (trim s.toList).isEmpty

/-- Equality up to the case of ASCII letters. -/
def sameIgnoringCase (s t : String) : Bool :=
  s.toList.map Char.toLower == t.toList.map Char.toLower

/-! ### Laws of trimming -/

theorem length_dropWhile_le (p : Char → Bool) (cs : List Char) :
    (cs.dropWhile p).length ≤ cs.length :=
  (List.dropWhile_sublist p).length_le

theorem length_trimEnd_le (cs : List Char) : (trimEnd cs).length ≤ cs.length := by
  simpa [trimEnd] using length_dropWhile_le isBlank cs.reverse

theorem length_trim_le (cs : List Char) : (trim cs).length ≤ cs.length :=
  Nat.le_trans (length_trimEnd_le _) (length_dropWhile_le _ _)

theorem trim_eq_nil_iff (cs : List Char) : trim cs = [] ↔ ∀ c ∈ cs, isBlank c = true := by
  have hd : ∀ l : List Char, l.dropWhile isBlank = [] ↔ ∀ c ∈ l, isBlank c = true := by
    intro l
    induction l with
    | nil => simp
    | cons c l ih => by_cases h : isBlank c <;> simp [h, ih]
  rw [trim, trimEnd, List.reverse_eq_nil_iff, hd]
  simp only [List.mem_reverse]
  rw [← hd (trimStart cs), ← hd cs, trimStart]
  constructor
  · intro h
    induction cs with
    | nil => rfl
    | cons c l ih =>
      by_cases hc : isBlank c
      · simp only [List.dropWhile_cons, hc, if_true] at h ⊢
        exact ih h
      · simp [hc] at h
  · intro h; rw [h]; rfl

end GeoScript.Text
