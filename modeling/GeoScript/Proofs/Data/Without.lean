import Mathlib.Data.List.Basic
import GeoScript.Proofs.Data.JsonText

/-! # Data with fields left out

A field of a record, or of a record in it, is told by its path. Data without some fields have the
others as they were, in order, and each is found under its name as before.

* `Data.without`: data without some fields.
* `withoutFields_eq`: what is left of the fields of a record.
* `lookup_withoutFields`: what is found under the name of a field. -/

namespace GeoScript.Data

mutual

/-- Data without some fields of records. A field is told by its path: its own name, behind the names
of the fields that it is in. -/
def without (removed : List String → Bool) : Data → Data
  | .record fields => .record (withoutFields removed fields)
  | d => d

/-- Fields of a record without some of them, and without some in them. -/
def withoutFields (removed : List String → Bool) : List (String × Data) → List (String × Data)
  | [] => []
  | (name, d) :: fields =>
    if removed [name] then withoutFields removed fields
    else (name, d.without fun path => removed (name :: path)) :: withoutFields removed fields

end

mutual

theorem without_nothing : (d : Data) → d.without (fun _ => false) = d
  | .record fields => congrArg record (withoutFields_nothing fields)
  | .null | .bool _ | .int _ | .float _ | .text _ | .date | .list _ => by rfl

theorem withoutFields_nothing :
    (fields : List (String × Data)) → withoutFields (fun _ => false) fields = fields
  | [] => rfl
  | (name, d) :: fields => by
    rw [withoutFields, if_neg Bool.false_ne_true, without_nothing d, withoutFields_nothing fields]

end

variable {removed : List String → Bool}

theorem withoutFields_eq (fields : List (String × Data)) : withoutFields removed fields =
    (fields.filter fun field => !removed [field.1]).map fun field =>
      (field.1, field.2.without fun path => removed (field.1 :: path)) := by
  induction fields with
  | nil => rfl
  | cons field fields ih =>
    rw [withoutFields, ih]
    split
    · next h => rw [List.filter_cons_of_neg (by simp [h])]
    · next h => rw [List.filter_cons_of_pos (by simp [h]), List.map_cons]

theorem map_fst_withoutFields (fields : List (String × Data)) :
    (withoutFields removed fields).map Prod.fst =
      (fields.map Prod.fst).filter fun name => !removed [name] := by
  rw [withoutFields_eq, List.map_map, List.filter_map]
  rfl

theorem mem_withoutFields {fields : List (String × Data)} {field : String × Data} :
    field ∈ withoutFields removed fields ↔ removed [field.1] = false ∧
      ∃ d, (field.1, d) ∈ fields ∧ field.2 = d.without fun path => removed (field.1 :: path) := by
  rw [withoutFields_eq, List.mem_map]
  constructor
  · rintro ⟨⟨name, d⟩, hmem, rfl⟩
    obtain ⟨hfield, hkept⟩ := List.mem_filter.1 hmem
    exact ⟨by simpa using hkept, d, hfield, rfl⟩
  · rintro ⟨hkept, d, hfield, heq⟩
    exact ⟨(field.1, d), List.mem_filter.2 ⟨hfield, by simpa using hkept⟩,
      Prod.ext rfl heq.symm⟩

theorem lookup_of_mem {fields : List (String × Data)} (hdistinct : (fields.map Prod.fst).Nodup)
    {field : String × Data} (h : field ∈ fields) : fields.lookup field.1 = some field.2 := by
  obtain ⟨before, after, rfl⟩ := List.append_of_mem h
  refine List.lookup_eq_some_iff.2 ⟨before, after, rfl, fun other hother => ?_⟩
  rw [List.map_append, List.map_cons] at hdistinct
  have hnot := List.disjoint_of_nodup_append hdistinct (List.mem_map_of_mem hother)
  rw [bne_iff_ne]
  intro heq
  exact hnot (by rw [heq]; exact List.mem_cons_self)

theorem lookup_withoutFields {fields : List (String × Data)}
    (hdistinct : (fields.map Prod.fst).Nodup) {field : String × Data} (h : field ∈ fields) :
    (withoutFields removed fields).lookup field.1 = if removed [field.1] then none
      else some (field.2.without fun path => removed (field.1 :: path)) := by
  split
  · next hremoved =>
    refine List.lookup_eq_none_iff.2 fun other hother => ?_
    have hkept : removed [other.1] = false := (mem_withoutFields.1 hother).1
    rw [bne_iff_ne]
    intro heq
    rw [heq, hkept] at hremoved
    cases hremoved
  · next hremoved =>
    have hmem : (field.1, field.2.without fun path => removed (field.1 :: path)) ∈
        withoutFields removed fields :=
      mem_withoutFields.2 ⟨Bool.eq_false_of_not_eq_true hremoved, field.2, h, rfl⟩
    refine lookup_of_mem ?_ hmem
    rw [map_fst_withoutFields]
    exact hdistinct.filter _

theorem Plain.without {d : Data} (h : d.Plain) (removed : List String → Bool) :
    (d.without removed).Plain := by
  induction h generalizing removed with
  | null => exact .null
  | bool b => exact .bool b
  | int hle hlt => exact .int hle hlt
  | float hx => exact .float hx
  | text s => exact .text s
  | list h => exact .list h
  | record _ ih =>
    refine .record fun field hfield => ?_
    obtain ⟨-, d, hd, heq⟩ := mem_withoutFields.1 hfield
    rw [heq]
    exact ih _ hd _

end GeoScript.Data
