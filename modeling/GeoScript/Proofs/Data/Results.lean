import GeoScript.Figure
import GeoScript.Proofs.Data.JsonText

/-! # Results as lines of text

A result is printed as the JSON list of its figures. The text is one line, since no JSON text has a
control character in it, and it is read back as these figures, except that a number that is infinite
or undefined reads as `null`: whole numbers have 64 bits, so that they all fit.

* `noControls_json`: JSON texts have no control characters.
* `Value.fits_toData`, `Figure.fits_toData`: the whole numbers in values and figures.
* `newline_not_mem_resultText`, `ofJson?_resultText`: the printed results. -/

namespace GeoScript

-- Powers with an exponent of type `Nat` are those of the core library.
attribute [local instance (high)] instPowNat

/-! ### One line -/

/-- A text without control characters. -/
def NoControls (cs : List Char) : Prop := ∀ c ∈ cs, ¬ c.toNat < 0x20

namespace NoControls

theorem nil : NoControls [] := fun _ h => absurd h List.not_mem_nil

theorem cons {c : Char} {cs : List Char} (hc : ¬ c.toNat < 0x20) (hcs : NoControls cs) :
    NoControls (c :: cs) := List.forall_mem_cons.2 ⟨hc, hcs⟩

theorem append {cs ds : List Char} (hcs : NoControls cs) (hds : NoControls ds) :
    NoControls (cs ++ ds) := List.forall_mem_append.2 ⟨hcs, hds⟩

theorem of_all {cs : List Char} (h : cs.all (fun c => 0x20 ≤ c.toNat) = true) : NoControls cs := by
  intro c hc
  have hle := of_decide_eq_true (List.all_eq_true.1 h c hc)
  omega

theorem escaped (c : Char) : NoControls (escaped c) := by
  have hletter : ∀ x : Char, ¬ x.toNat < 0x20 → NoControls ['\\', x] := fun x hx =>
    .cons (by decide) (.cons hx .nil)
  unfold GeoScript.escaped
  split_ifs with h1 h2 h3 h4 h5 h6 h7 hcontrol
  · exact hletter _ (by decide)
  · exact hletter _ (by decide)
  · exact hletter _ (by decide)
  · exact hletter _ (by decide)
  · exact hletter _ (by decide)
  · exact hletter _ (by decide)
  · exact hletter _ (by decide)
  · have hdigit : ∀ n : Nat, ¬ (hexDigit n).toNat < 0x20 := by
      have hall : ∀ k < 16, ¬ (Nat.digitChar k).toNat < 0x20 := by decide
      exact fun n => hall (n % 16) (Nat.mod_lt n (by decide))
    have hfront : NoControls ['\\', 'u', '0', '0'] := .of_all rfl
    exact hfront.append (.cons (hdigit _) (.cons (hdigit _) .nil))
  · exact .cons hcontrol .nil

theorem quoted (s : String) : NoControls (quoted s) := by
  have hchars : NoControls (s.toList.flatMap GeoScript.escaped) := by
    intro c hc
    obtain ⟨x, -, hx⟩ := List.mem_flatMap.1 hc
    exact escaped x c hx
  exact .cons (by decide) (hchars.append (.cons (by decide) .nil))

theorem of_isNumberPart {cs : List Char} (h : ∀ c ∈ cs, Json.isNumberPart c = true) :
    NoControls cs := by
  intro c hc
  have hpart := h c hc
  simp only [Json.isNumberPart, Bool.or_eq_true, beq_iff_eq] at hpart
  rcases hpart with ((((hdigit | rfl) | rfl) | rfl) | rfl) | rfl
  · have hzero : 48 ≤ c.toNat := (Char.isDigit_iff_toNat.1 hdigit).1
    omega
  all_goals decide

end NoControls

namespace Data

mutual

theorem noControls_json : (d : Data) → NoControls d.json
  | .null | .date | .bool true | .bool false => .of_all rfl
  | .int n => .of_isNumberPart (Json.isNumberPart_of_read? (Decimal.read?_integerText n))
  | .float x => by
    by_cases hx : Decimal.isFinite x = true
    · exact .of_isNumberPart (Json.isNumberText_float hx).isNumberPart
    · rw [json, Decimal.interchangeText?, if_neg hx]
      exact .of_all rfl
  | .text s => .quoted s
  | .list [] | .record [] => .of_all rfl
  | .list (d :: ds) =>
    .cons (by decide) ((noControls_json d).append (noControls_jsonMoreItems ds))
  | .record ((name, d) :: fields) =>
    .cons (by decide) ((NoControls.quoted name).append (.cons (by decide)
      ((noControls_json d).append (noControls_jsonMoreFields fields))))

theorem noControls_jsonMoreItems : (ds : List Data) → NoControls (jsonMoreItems ds)
  | [] => .of_all rfl
  | d :: ds => .cons (by decide) ((noControls_json d).append (noControls_jsonMoreItems ds))

theorem noControls_jsonMoreFields :
    (fields : List (String × Data)) → NoControls (jsonMoreFields fields)
  | [] => .of_all rfl
  | (name, d) :: fields =>
    .cons (by decide) ((NoControls.quoted name).append (.cons (by decide)
      ((noControls_json d).append (noControls_jsonMoreFields fields))))

end

end Data

/-- A result is printed on one line. -/
theorem newline_not_mem_resultText (figures : List Figure) :
    '\n' ∉ (resultText figures).toList := by
  intro h
  rw [resultText, Data.jsonText, String.toList_ofList] at h
  exact Data.noControls_json _ '\n' h (by decide)

/-! ### What is read back -/

theorem Data.fits_ofNumber : (n : Number) → (ofNumber n).Fits
  | .int n => by
    have hn := fitsInt64_iff.1 (fitsInt64_toInt n)
    exact Plain.int (by omega) (by omega)
  | .float x => .float x

theorem Coordinates.fits_toData (p : Coordinates) : p.toData.Fits := by
  refine .list fun d hd => ?_
  simp only [List.mem_append, List.mem_cons, List.not_mem_nil, or_false, Option.mem_toList,
    Option.map_eq_some_iff] at hd
  rcases hd with (rfl | rfl) | ⟨z, -, rfl⟩
  all_goals exact .float _

theorem fits_of_mem_optionalField {name : String} {content : Option Data}
    (h : ∀ d ∈ content, d.Fits) : ∀ field ∈ optionalField name content, field.2.Fits := by
  cases content with
  | none => exact fun _ hfield => absurd hfield List.not_mem_nil
  | some d => exact List.forall_mem_singleton.2 (h d rfl)

mutual

theorem Expr.fits_toData : (e : Expr) → e.toData.Fits
  | { kind, value, label, children } => by
    rw [Expr.toData.eq_def]
    refine .record (List.forall_mem_append.2 ⟨List.forall_mem_append.2
      ⟨List.forall_mem_append.2 ⟨?_, ?_⟩, ?_⟩, ?_⟩)
    · exact List.forall_mem_singleton.2 (.text _)
    · exact fits_of_mem_optionalField (Expr.fits_valueData value)
    · refine fits_of_mem_optionalField fun d hd => ?_
      obtain ⟨s, -, rfl⟩ := Option.mem_map.1 hd
      exact .text s
    · cases children with
      | nil => exact fun _ h => absurd h List.not_mem_nil
      | cons c cs =>
        exact List.forall_mem_singleton.2 (.list (List.forall_mem_cons.2
          ⟨Expr.fits_toData c, Expr.fits_allToData cs⟩))

theorem Expr.fits_valueData : (value : Option Value) → ∀ d ∈ Expr.valueData value, d.Fits
  | none => by
    intro d hd
    cases hd
  | some v => by
    rintro d ⟨⟩
    exact Value.fits_toData v

theorem Expr.fits_allToData : (es : List Expr) → ∀ d ∈ Expr.allToData es, d.Fits
  | [] => fun _ h => absurd h List.not_mem_nil
  | e :: es => List.forall_mem_cons.2 ⟨Expr.fits_toData e, Expr.fits_allToData es⟩

theorem Value.fits_toData : (v : Value) → v.toData.Fits
  | .number n => Data.fits_ofNumber n
  | .point p => p.fits_toData
  | .list items => .list (Value.fits_allToData items)
  | .text s => .text s
  | .expr e => Expr.fits_toData e

theorem Value.fits_allToData : (vs : List Value) → ∀ d ∈ Value.allToData vs, d.Fits
  | [] => fun _ h => absurd h List.not_mem_nil
  | v :: vs => List.forall_mem_cons.2 ⟨Value.fits_toData v, Value.fits_allToData vs⟩

end

theorem Figure.fits_fields (f : Figure) : ∀ field ∈ f.fields, field.2.Fits := by
  have hpair : ∀ {name1 name2 : String} {a b : Value}, ∀ field ∈
      [(name1, a.toData), (name2, b.toData)], field.2.Fits := fun {_ _ a b} =>
    List.forall_mem_cons.2 ⟨a.fits_toData, List.forall_mem_singleton.2 b.fits_toData⟩
  cases f with
  | point x y z =>
    refine List.forall_mem_append.2 ⟨List.forall_mem_cons.2 ⟨Data.fits_ofNumber x,
      List.forall_mem_singleton.2 (Data.fits_ofNumber y)⟩,
      fits_of_mem_optionalField fun d hd => ?_⟩
    obtain ⟨n, -, rfl⟩ := Option.mem_map.1 hd
    exact Data.fits_ofNumber n
  | line | segment | midpoint | circle | intersection | distance => exact hpair
  | length object => exact List.forall_mem_singleton.2 object.fits_toData
  | angle a vertex b => exact List.forall_mem_cons.2 ⟨a.fits_toData, hpair⟩
  | number value => exact List.forall_mem_singleton.2 (Data.fits_ofNumber value)
  | list items =>
    exact List.forall_mem_singleton.2 (.list (List.forall_mem_map.2 fun v _ => v.fits_toData))
  | text value => exact List.forall_mem_singleton.2 (.text value)

theorem Figure.fits_toData (f : Figure) : f.toData.Fits :=
  .record (List.forall_mem_cons.2 ⟨.text f.typeName, f.fits_fields⟩)

/-- **A printed result is read as its figures**, each as a record of its type and its parts. -/
theorem ofJson?_resultText (figures : List Figure) :
    Data.ofJson? (resultText figures) =
      some (.list (figures.map fun f => f.toData.written)) := by
  have hfits : (Data.list (figures.map Figure.toData)).Fits :=
    .list (List.forall_mem_map.2 fun f _ => f.fits_toData)
  rw [resultText, Data.ofJson?_jsonText_of_fits hfits, Data.written, Data.writtenItems_eq,
    List.map_map]
  rfl

example : resultText [.number (.int 3), .text "a\nb"] =
    "[\x7b\"type\":\"Number\",\"value\":3\x7d,\x7b\"type\":\"Text\",\"value\":\"a\\nb\"\x7d]" := by
  rfl

end GeoScript
