import GeoScript.Data.JsonReader
import GeoScript.Proofs.Decimal.ReadBack

/-! # JSON texts are read back

What is written as JSON is read back as it was, as long as there are no dates in it and only finite
floating-point numbers, and whole numbers fit into 64 bits. A string may hold any characters: those
that are escaped, by a letter or by a number, stand for themselves again, and an escape by a number
never looks like a half of a surrogate pair, whatever follows it. Of other data the dates and the
numbers that are infinite or undefined are lost, and nothing else.

* `readString?_escaped`, `readString?_quoted`: strings.
* `IsNumberText`, `isNumberText_int`, `isNumberText_float`: numbers.
* `Data.Plain`: the data that are read back.
* `readMoreItems?_json`, `readMoreFields?_json`: lists and records, if their parts are read back.
* `Data.ofJson?_jsonText`: the main statement.
* `Data.written`, `Data.ofJson?_jsonText_of_fits`: what is left of other data. -/

namespace GeoScript

-- Powers with an exponent of type `Nat` are those of the core library.
attribute [local instance (high)] instPowNat

namespace Json

/-! ### Strings -/

/-- A character that is escaped by its number. -/
theorem readString?_unit {a b c d : Char} {n : Nat} (hunit : hexUnit? a b c d = some n)
    (hhigh : isHighSurrogate n = false) (hlow : isLowSurrogate n = false) (rest : List Char) :
    readString? ('\\' :: 'u' :: a :: b :: c :: d :: rest) =
      (readString? rest).map fun (s, rest) => (Char.ofNat n :: s, rest) := by
  rw [readString?.eq_def, Option.map_eq_bind]
  split
  · next heq => cases heq
  · next heq => cases heq
  · -- Another such escape follows, but this one is no half of a pair.
    next heq =>
    cases heq
    simp [hunit, hhigh, hlow]
  · next heq =>
    cases heq
    simp [hunit, hhigh, hlow]
  · next hnot heq =>
    cases heq
    exact (hnot a b c d rest rfl rfl).elim
  · next hnot heq =>
    cases heq
    exact (hnot _ _ rfl rfl).elim

theorem readString?_letter {x c : Char} (h : letterEscape? x = some c) (rest : List Char) :
    readString? ('\\' :: x :: rest) = (readString? rest).map fun (s, rest) => (c :: s, rest) := by
  have hu : x ≠ 'u' := by
    rintro rfl
    cases h
  rw [readString?.eq_def, Option.map_eq_bind]
  split
  · next heq => cases heq
  · next heq => cases heq
  · next heq =>
    cases heq
    exact absurd rfl hu
  · next heq =>
    cases heq
    exact absurd rfl hu
  · next heq =>
    cases heq
    simp [h]
  · next hnot heq =>
    cases heq
    exact (hnot _ _ rfl rfl).elim

theorem readString?_cons {c : Char} (hquote : c ≠ '"') (hbackslash : c ≠ '\\')
    (hc : ¬ c.toNat < 0x20) (rest : List Char) :
    readString? (c :: rest) = (readString? rest).map fun (s, rest) => (c :: s, rest) := by
  rw [readString?]
  · simp [hbackslash, hc]
  all_goals simp [hquote, hbackslash]

theorem hexUnit?_control : ∀ n < 0x20,
    hexUnit? '0' '0' (hexDigit (n / 16)) (hexDigit n) = some n ∧ isHighSurrogate n = false ∧
      isLowSurrogate n = false := by
  decide

theorem readString?_escaped (c : Char) (rest : List Char) :
    readString? (escaped c ++ rest) =
      (readString? rest).map fun (s, rest) => (c :: s, rest) := by
  unfold escaped
  split_ifs with h1 h2 h3 h4 h5 h6 h7 hcontrol
  · rw [h1]
    exact readString?_letter rfl rest
  · rw [h2]
    exact readString?_letter rfl rest
  · rw [h3]
    exact readString?_letter rfl rest
  · rw [h4]
    exact readString?_letter rfl rest
  · rw [h5]
    exact readString?_letter rfl rest
  · rw [h6]
    exact readString?_letter rfl rest
  · rw [h7]
    exact readString?_letter rfl rest
  · obtain ⟨hunit, hhigh, hlow⟩ := hexUnit?_control c.toNat hcontrol
    have hread := readString?_unit hunit hhigh hlow rest
    rw [Char.ofNat_toNat] at hread
    exact hread
  · exact readString?_cons h1 h2 hcontrol rest

/-- **A written string reads as itself.** -/
theorem readString?_quoted (s rest : List Char) :
    readString? (s.flatMap escaped ++ '"' :: rest) = some (s, rest) := by
  induction s with
  | nil => simp [readString?]
  | cons c s ih =>
    rw [List.flatMap_cons, List.append_assoc, readString?_escaped, ih]
    rfl

/-! ### Numbers -/

section Numbers

open Decimal

theorem mem_integerText {n : Int} {c : Char} (h : c ∈ integerText n) :
    c = '-' ∨ c.isDigit = true := by
  rw [integerText, List.mem_append] at h
  rcases h with hsign | hdigit
  · have hminus : c ∈ ['-'] := by
      split at hsign
      · exact hsign
      · cases hsign
    exact .inl (List.mem_singleton.1 hminus)
  · exact .inr (isDigit_of_mem_toDigits c hdigit)

theorem exists_integerText_cons (n : Int) :
    ∃ c rest, integerText n = c :: rest ∧ (c = '-' ∨ c.isDigit = true) := by
  have hne : integerText n ≠ [] := by simp [integerText, Nat.toDigits_ne_nil]
  obtain ⟨c, rest, hcons⟩ := List.exists_cons_of_ne_nil hne
  have hmem : c ∈ integerText n := by
    rw [hcons]
    exact List.mem_cons_self
  exact ⟨c, rest, hcons, mem_integerText hmem⟩

theorem exists_write_cons {l : Literal} (h : l.Proper) (plusSign : Bool) :
    ∃ c rest, l.write plusSign = c :: rest ∧ (c = '-' ∨ c.isDigit = true) := by
  obtain ⟨c, cs, hwhole⟩ := List.exists_cons_of_ne_nil h.whole_ne_nil
  have hc : c.isDigit = true := h.whole c (by simp [hwhole])
  rw [Literal.write, hwhole]
  cases l.negative with
  | true => exact ⟨'-', _, rfl, .inl rfl⟩
  | false => exact ⟨c, _, rfl, .inr hc⟩

theorem isJsonLiteral_integerText (n : Int) :
    isJsonLiteral (integerText n) ⟨n < 0, Nat.toDigits 10 n.natAbs, none, none⟩ = true := by
  have hplus : (integerText n).head? ≠ some '+' := by
    intro h
    have hnot : ¬ ('+' = '-' ∨ '+'.isDigit = true) := by decide
    exact hnot (mem_integerText (List.mem_of_mem_head? h))
  have hzero : (Nat.toDigits 10 n.natAbs).length = 1 ∨
      (Nat.toDigits 10 n.natAbs).head? ≠ some '0' := by
    rcases Nat.eq_zero_or_pos n.natAbs with h | h
    · rw [h]
      exact .inl rfl
    · exact .inr (head?_toDigits h)
  simpa [isJsonLiteral, hplus, Nat.toDigits_ne_nil] using hzero

theorem readNumber?_integerText {n : Int} (hle : -(2 ^ 63) ≤ n) (hlt : n < 2 ^ 64) :
    readNumber? (integerText n) = some (.int n) := by
  have hkept : isKeptWhole ⟨n < 0, Nat.toDigits 10 n.natAbs, none, none⟩ n = true := by
    simp only [isKeptWhole, Bool.and_eq_true, decide_eq_true_eq, Bool.not_eq_true',
      Bool.and_eq_false_iff, decide_eq_false_iff_not, beq_eq_false_iff_ne]
    omega
  simp only [readNumber?, read?_integerText, Option.bind_eq_bind, Option.bind_some,
    isJsonLiteral_integerText, if_true, whole?_integerText, hkept]
  rfl

theorem isJsonLiteral_write {l : Literal} {negative plusSign : Bool} {p : Nat}
    (h : l.Writes negative p) : isJsonLiteral (l.write plusSign) l = true := by
  have hplus : (l.write plusSign).head? ≠ some '+' := by
    obtain ⟨c, rest, hcons, hc⟩ := exists_write_cons h.proper plusSign
    rw [hcons, List.head?_cons, Ne, Option.some_inj]
    rintro rfl
    exact absurd hc (by decide)
  have hfront := h.front
  have hfraction := h.fraction_ne_nil
  simpa [isJsonLiteral, hplus, h.proper.whole_ne_nil, hfraction] using hfront

/-- The text of some data is a number. -/
structure IsNumberText (cs : List Char) (d : Data) : Prop where
  exists_cons : ∃ c rest, cs = c :: rest ∧ (c = '-' ∨ c.isDigit = true)
  isNumberPart : ∀ c ∈ cs, isNumberPart c = true
  readNumber? : readNumber? cs = some d

theorem isNumberPart_of_read? {cs : List Char} {l : Literal} (h : Literal.read? cs = some l) :
    ∀ c ∈ cs, isNumberPart c = true := by
  intro c hc
  have hnumeric := isNumeric_of_read? h c hc
  simp only [isNumeric, Bool.or_eq_true, beq_iff_eq] at hnumeric
  simp only [Json.isNumberPart, Bool.or_eq_true, beq_iff_eq]
  tauto

theorem isNumberText_int {n : Int} (hle : -(2 ^ 63) ≤ n) (hlt : n < 2 ^ 64) :
    IsNumberText (integerText n) (.int n) where
  exists_cons := exists_integerText_cons n
  isNumberPart := isNumberPart_of_read? (read?_integerText n)
  readNumber? := readNumber?_integerText hle hlt

theorem isNumberText_float {x : Float} (hx : isFinite x = true) :
    IsNumberText (Data.float x).json (.float x) := by
  obtain ⟨l, hl, htext⟩ := write_spec .interchange (isNegative x) (of_decide_eq_true hx)
  have hjson : (Data.float x).json = l.write FloatStyle.interchange.plusSign := by
    rw [Data.json, interchangeText?, if_pos hx, htext, Option.getD_some]
  have hvalue : l.toFloat = x := by
    rw [Literal.toFloat, hl.sign, hl.nearest, ofMagnitude_magnitude]
  have hread := read?_write FloatStyle.interchange.plusSign hl.proper
  rw [hjson]
  refine ⟨exists_write_cons hl.proper _, isNumberPart_of_read? hread, ?_⟩
  simp only [Json.readNumber?, hread, Option.bind_eq_bind, Option.bind_some,
    isJsonLiteral_write hl, if_true, hl.whole?, hvalue, hx]
  rfl

end Numbers

end Json

/-! ### Data -/

/-- Data without dates, whose whole numbers fit into 64 bits, with or without a sign, and whose
floating-point numbers are finite. -/
inductive Data.Plain : Data → Prop
  | null : Plain .null
  | bool (b : Bool) : Plain (.bool b)
  | int {n : Int} (hle : -(2 ^ 63) ≤ n) (hlt : n < 2 ^ 64) : Plain (.int n)
  | float {x : Float} (h : Decimal.isFinite x = true) : Plain (.float x)
  | text (s : String) : Plain (.text s)
  | list {items : List Data} (h : ∀ d ∈ items, Plain d) : Plain (.list items)
  | record {fields : List (String × Data)} (h : ∀ field ∈ fields, Plain field.2) :
      Plain (.record fields)

theorem Data.Plain.nil : (Data.record []).Plain := .record fun _ h => absurd h List.not_mem_nil

theorem Data.Plain.cons {name : String} {d : Data} {fields : List (String × Data)}
    (hd : d.Plain) (hfields : (Data.record fields).Plain) :
    (Data.record ((name, d) :: fields)).Plain := by
  cases hfields with
  | record h => exact .record (List.forall_mem_cons.2 ⟨hd, h⟩)

namespace Json

theorem isSpace_of_number {c : Char} (h : c = '-' ∨ c.isDigit = true) : isSpace c = false := by
  rw [← Bool.not_eq_true]
  intro hspace
  simp only [isSpace, Bool.or_eq_true, beq_iff_eq] at hspace
  rcases hspace with ((rfl | rfl) | rfl) | rfl <;> revert h <;> decide

theorem skipSpaces_cons {c : Char} (h : isSpace c = false) (cs : List Char) :
    skipSpaces (c :: cs) = c :: cs :=
  List.dropWhile_cons_of_neg (by simp [h])

/-- The text of some data is read back in front of anything that does not go on with a number. -/
def ReadsBack (d : Data) : Prop :=
  ∀ fuel rest, d.json.length ≤ fuel → rest.takeWhile isNumberPart = [] →
    readValue? fuel (d.json ++ rest) = some (d, rest)

theorem exists_json_cons {d : Data} (h : d.Plain) :
    ∃ c rest, d.json = c :: rest ∧ isSpace c = false ∧ c ≠ ']' := by
  have hnumber : ∀ cs : List Char, (∃ c rest, cs = c :: rest ∧ (c = '-' ∨ c.isDigit = true)) →
      ∃ c rest, cs = c :: rest ∧ isSpace c = false ∧ c ≠ ']' := by
    rintro cs ⟨c, rest, hcons, hc⟩
    refine ⟨c, rest, hcons, isSpace_of_number hc, ?_⟩
    rintro rfl
    exact absurd hc (by decide)
  cases h with
  | null => exact ⟨_, _, rfl, by decide, by decide⟩
  | bool b => cases b <;> exact ⟨_, _, rfl, by decide, by decide⟩
  | int hle hlt => exact hnumber _ (isNumberText_int hle hlt).exists_cons
  | float hx => exact hnumber _ (isNumberText_float hx).exists_cons
  | text s => exact ⟨_, _, rfl, by decide, by decide⟩
  | list => exact ⟨_, _, rfl, by decide, by decide⟩
  | record => exact ⟨_, _, rfl, by decide, by decide⟩

/-! #### Lists -/

theorem takeWhile_jsonMoreItems (ds : List Data) (rest : List Char) :
    (Data.jsonMoreItems ds ++ rest).takeWhile isNumberPart = [] := by
  cases ds <;> rfl

theorem readMoreItems?_json {ds : List Data} {fuel : Nat} {rest : List Char}
    (h : ∀ d ∈ ds, ReadsBack d) (hfuel : (Data.jsonMoreItems ds).length ≤ fuel) :
    readMoreItems? fuel (Data.jsonMoreItems ds ++ rest) = some (ds, rest) := by
  induction ds generalizing fuel with
  | nil =>
    obtain _ | fuel := fuel
    · cases hfuel
    · rfl
  | cons d ds ih =>
    obtain ⟨hd, hds⟩ := List.forall_mem_cons.1 h
    obtain _ | fuel := fuel
    · cases hfuel
    · simp only [Data.jsonMoreItems, List.length_cons, List.length_append] at hfuel
      have hvalue := hd fuel (Data.jsonMoreItems ds ++ rest) (by omega)
        (takeWhile_jsonMoreItems ds rest)
      have hmore := @ih fuel hds (by omega)
      rw [Data.jsonMoreItems, List.cons_append, List.append_assoc, readMoreItems?,
        skipSpaces_cons (by decide)]
      simp [hvalue, hmore]

/-! #### Records -/

theorem takeWhile_jsonMoreFields (fields : List (String × Data)) (rest : List Char) :
    (Data.jsonMoreFields fields ++ rest).takeWhile isNumberPart = [] := by
  cases fields <;> rfl

theorem readField?_json {name : String} {d : Data} {fuel : Nat} {rest : List Char}
    (h : ReadsBack d) (hfuel : (quoted name ++ ':' :: d.json).length ≤ fuel)
    (hrest : rest.takeWhile isNumberPart = []) :
    readField? fuel (quoted name ++ ':' :: (d.json ++ rest)) = some ((name, d), rest) := by
  obtain _ | fuel := fuel
  · cases hfuel
  · simp only [List.length_cons, List.length_append] at hfuel
    have hvalue := h fuel rest (by omega) hrest
    rw [quoted, List.cons_append, List.append_assoc, readField?, skipSpaces_cons (by decide)]
    simp [readString?_quoted, skipSpaces_cons (c := ':') (by decide), hvalue]

theorem readMoreFields?_json {fields : List (String × Data)} {fuel : Nat} {rest : List Char}
    (h : ∀ field ∈ fields, ReadsBack field.2)
    (hfuel : (Data.jsonMoreFields fields).length ≤ fuel) :
    readMoreFields? fuel (Data.jsonMoreFields fields ++ rest) = some (fields, rest) := by
  induction fields generalizing fuel with
  | nil =>
    obtain _ | fuel := fuel
    · cases hfuel
    · rfl
  | cons field fields ih =>
    obtain ⟨name, d⟩ := field
    obtain ⟨hd, hfields⟩ := List.forall_mem_cons.1 h
    obtain _ | fuel := fuel
    · cases hfuel
    · simp only [Data.jsonMoreFields, List.length_cons, List.length_append] at hfuel
      have hlength : (quoted name ++ ':' :: d.json).length ≤ fuel := by
        simp only [List.length_cons, List.length_append]
        omega
      have hfield := readField?_json hd hlength (takeWhile_jsonMoreFields fields rest)
      have hmore := @ih fuel hfields (by omega)
      rw [Data.jsonMoreFields, List.cons_append, readMoreFields?, skipSpaces_cons (by decide)]
      simp [hfield, hmore]

/-! #### All data -/

theorem ReadsBack.of_succ {d : Data} (hne : d.json ≠ [])
    (h : ∀ fuel rest, d.json.length ≤ fuel + 1 → rest.takeWhile isNumberPart = [] →
      readValue? (fuel + 1) (d.json ++ rest) = some (d, rest)) : ReadsBack d := by
  intro fuel rest hfuel hrest
  cases fuel with
  | zero => exact absurd (List.length_eq_zero_iff.1 (Nat.le_zero.1 hfuel)) hne
  | succ fuel => exact h fuel rest hfuel hrest

theorem readsBack_number {d : Data} (h : IsNumberText d.json d) : ReadsBack d := by
  obtain ⟨c, cs, hcons, hc⟩ := h.exists_cons
  refine .of_succ (by rw [hcons]; exact List.cons_ne_nil c cs) fun fuel rest _ hrest => ?_
  have htake : (d.json ++ rest).takeWhile isNumberPart = d.json := by
    rw [List.takeWhile_append_of_pos h.isNumberPart, hrest, List.append_nil]
  have hdrop : (d.json ++ rest).dropWhile isNumberPart = rest := by
    have hall := List.takeWhile_append_dropWhile (p := isNumberPart) (l := rest)
    rw [hrest, List.nil_append] at hall
    rw [List.dropWhile_append_of_pos h.isNumberPart, hall]
  have hskip : skipSpaces (d.json ++ rest) = d.json ++ rest := by
    rw [hcons, List.cons_append, skipSpaces_cons (isSpace_of_number hc)]
  rw [readValue?, hskip]
  split
  case h_7 =>
    rw [htake, hdrop, h.readNumber?]
    rfl
  -- Neither a minus sign nor a digit is how anything else begins.
  all_goals
    next heq =>
      rw [hcons] at heq
      obtain rfl := (List.cons.inj heq).1
      exact absurd hc (by decide)

theorem readsBack {d : Data} (h : d.Plain) : ReadsBack d := by
  induction h with
  | null => exact .of_succ (by simp [Data.json]) fun _ _ _ _ => rfl
  | bool b => cases b <;> exact .of_succ (by simp [Data.json]) fun _ _ _ _ => rfl
  | int hle hlt => exact readsBack_number (isNumberText_int hle hlt)
  | float hx => exact readsBack_number (isNumberText_float hx)
  | text s =>
    refine .of_succ (by simp [Data.json, quoted]) fun fuel rest _ _ => ?_
    rw [Data.json, quoted, List.cons_append, List.append_assoc, readValue?,
      skipSpaces_cons (by decide)]
    simp [readString?_quoted]
  | @list items h ih =>
    refine .of_succ (by simp [Data.json]) fun fuel rest hfuel _ => ?_
    cases items with
    | nil => rfl
    | cons d ds =>
      obtain ⟨hd, hds⟩ := List.forall_mem_cons.1 ih
      simp only [Data.json, Data.jsonItems, List.length_cons, List.length_append] at hfuel
      have hvalue := hd fuel (Data.jsonMoreItems ds ++ rest) (by omega)
        (takeWhile_jsonMoreItems ds rest)
      have hmore : readMoreItems? fuel (Data.jsonMoreItems ds ++ rest) = some (ds, rest) :=
        readMoreItems?_json hds (by omega)
      obtain ⟨c, cs, hcons, hspace, hend⟩ := exists_json_cons (h d List.mem_cons_self)
      have hskip : skipSpaces (d.json ++ (Data.jsonMoreItems ds ++ rest)) =
          d.json ++ (Data.jsonMoreItems ds ++ rest) := by
        rw [hcons, List.cons_append, skipSpaces_cons hspace]
      rw [Data.json, Data.jsonItems, List.cons_append, List.append_assoc, readValue?,
        skipSpaces_cons (by decide)]
      simp only [hskip]
      split
      · next heq =>
        rw [hcons] at heq
        cases heq
        exact absurd rfl hend
      · simp [hvalue, hmore]
  | @record fields h ih =>
    refine .of_succ (by simp [Data.json]) fun fuel rest hfuel _ => ?_
    cases fields with
    | nil => rfl
    | cons field fields =>
      obtain ⟨name, d⟩ := field
      obtain ⟨hd, hfields⟩ := List.forall_mem_cons.1 ih
      simp only [Data.json, Data.jsonFields, List.length_cons, List.length_append] at hfuel
      have hlength : (quoted name ++ ':' :: d.json).length ≤ fuel := by
        simp only [List.length_cons, List.length_append]
        omega
      have hfield := readField?_json hd hlength (takeWhile_jsonMoreFields fields rest)
      have hmore : readMoreFields? fuel (Data.jsonMoreFields fields ++ rest) =
          some (fields, rest) := readMoreFields?_json hfields (by omega)
      have hskip : skipSpaces (quoted name ++ ':' :: (d.json ++
          (Data.jsonMoreFields fields ++ rest))) =
            quoted name ++ ':' :: (d.json ++ (Data.jsonMoreFields fields ++ rest)) :=
        skipSpaces_cons (by decide) _
      rw [Data.json, Data.jsonFields, List.cons_append, List.append_assoc, List.cons_append,
        List.append_assoc, readValue?, skipSpaces_cons (by decide)]
      simp only [hskip]
      split
      · next heq => cases heq
      · simp [hfield, hmore]

end Json

/-- **What is written as JSON is read back.** -/
theorem Data.ofJson?_jsonText {d : Data} (h : d.Plain) : Data.ofJson? d.jsonText = some d := by
  have hread : Json.readValue? (2 * d.json.length + 1) (d.json ++ []) = some (d, []) :=
    Json.readsBack h (2 * d.json.length + 1) [] (by omega) rfl
  rw [List.append_nil] at hread
  rw [Data.ofJson?, Data.jsonText, String.toList_ofList]
  simp only [hread]
  rfl

/-! ### What is lost -/

namespace Data

mutual

/-- What is left of data in their text: `null` stands for a date, and for a number that is infinite
or undefined. -/
def written : Data → Data
  | .date => .null
  | .float x => if Decimal.isFinite x then .float x else .null
  | .list items => .list (writtenItems items)
  | .record fields => .record (writtenFields fields)
  | d => d

/-- What is left of the items of a list. -/
def writtenItems : List Data → List Data
  | [] => []
  | d :: ds => d.written :: writtenItems ds

/-- What is left of the fields of a record. -/
def writtenFields : List (String × Data) → List (String × Data)
  | [] => []
  | (name, d) :: fields => (name, d.written) :: writtenFields fields

end

theorem writtenItems_eq (ds : List Data) : writtenItems ds = ds.map written := by
  induction ds with
  | nil => rfl
  | cons d ds ih => rw [writtenItems, ih, List.map_cons]

theorem writtenFields_eq (fields : List (String × Data)) :
    writtenFields fields = fields.map fun field => (field.1, field.2.written) := by
  induction fields with
  | nil => rfl
  | cons field fields ih => rw [writtenFields, ih, List.map_cons]

mutual

theorem json_written : (d : Data) → d.written.json = d.json
  | .null | .bool _ | .int _ | .text _ | .date => by rfl
  | .float x => by
    rw [written]
    split
    · rfl
    · next h => rw [json, json, Decimal.interchangeText?, if_neg h, Option.getD_none]
  | .list [] => by rfl
  | .list (d :: ds) => by
    rw [written, writtenItems, json, jsonItems, json_written d, jsonMoreItems_written ds, json,
      jsonItems]
  | .record [] => by rfl
  | .record ((name, d) :: fields) => by
    rw [written, writtenFields, json, jsonFields, json_written d, jsonMoreFields_written fields,
      json, jsonFields]

theorem jsonMoreItems_written : (ds : List Data) →
    jsonMoreItems (writtenItems ds) = jsonMoreItems ds
  | [] => rfl
  | d :: ds => by
    rw [writtenItems, jsonMoreItems, json_written d, jsonMoreItems_written ds, jsonMoreItems]

theorem jsonMoreFields_written : (fields : List (String × Data)) →
    jsonMoreFields (writtenFields fields) = jsonMoreFields fields
  | [] => rfl
  | (name, d) :: fields => by
    rw [writtenFields, jsonMoreFields, json_written d, jsonMoreFields_written fields,
      jsonMoreFields]

end

/-- Data whose whole numbers fit into 64 bits, with or without a sign: what is left of them is
plain. -/
def Fits (d : Data) : Prop := d.written.Plain

/-- **What is left of data is read back.** -/
theorem ofJson?_jsonText_of_fits {d : Data} (h : d.Fits) :
    ofJson? d.jsonText = some d.written := by
  have hread := ofJson?_jsonText h
  rwa [jsonText, json_written] at hread

namespace Fits

theorem float (x : Float) : (Data.float x).Fits := by
  rw [Fits, written]
  split
  · next hx => exact .float hx
  · exact .null

theorem list {ds : List Data} (h : ∀ d ∈ ds, d.Fits) : (Data.list ds).Fits := by
  rw [Fits, written, writtenItems_eq]
  exact .list (List.forall_mem_map.2 h)

theorem record {fields : List (String × Data)} (h : ∀ field ∈ fields, field.2.Fits) :
    (Data.record fields).Fits := by
  rw [Fits, written, writtenFields_eq]
  exact .record (List.forall_mem_map.2 h)

end Fits

end Data

end GeoScript
