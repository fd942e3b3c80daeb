import Mathlib.Data.List.Forall2

/-! # Results item by item

Items are read and names are looked up one after the other, and the first that fails is the answer.
When none fails, every result belongs to its item.

* `mapM_eq_ok_iff`, `mapM_eq_some_iff`: the results are those of the items, one by one.
* `mem_of_mapM_ok`: each of them is the result of some item, and every item has its result.
* `exists_of_mapM_error`, `mapM_error_of_mem`: the items fail together if one of them does.
* `mapM_eq_map_mapM`: results that are changed one by one are changed all together.
* `error_of_bind`, `error_of_map`, `ok_of_map`: where the error of two steps, or of a result that is
  changed, is from, and what was changed.
* `toOption_congr`, `cases_of_toOption_eq`, `toOption_bind`: results without their errors. -/

namespace GeoScript

theorem error_of_bind {α β ε : Type} {x : Except ε α} {f : α → Except ε β} {e : ε}
    (h : x.bind f = .error e) : x = .error e ∨ ∃ a, x = .ok a ∧ f a = .error e := by
  cases x with
  | error e' =>
    cases h
    exact .inl rfl
  | ok a => exact .inr ⟨a, rfl, h⟩

theorem error_of_map {α β ε : Type} {x : Except ε α} {f : α → β} {e : ε}
    (h : x.map f = .error e) : x = .error e := by
  cases x with
  | error e' =>
    cases h
    rfl
  | ok a => cases h

theorem ok_of_map {α β ε : Type} {x : Except ε α} {f : α → β} {b : β} (h : x.map f = .ok b) :
    ∃ a, x = .ok a ∧ f a = b := by
  cases x with
  | error e => cases h
  | ok a =>
    cases h
    exact ⟨a, rfl, rfl⟩

theorem toOption_congr {α ε : Type} {x y : Except ε α} (h : ∀ a, x = .ok a ↔ y = .ok a) :
    x.toOption = y.toOption := by
  cases x with
  | ok a => rw [(h a).mp rfl]
  | error e =>
    cases y with
    | error e' => rfl
    | ok b => cases (h b).mpr rfl

theorem cases_of_toOption_eq {α ε : Type} {x y : Except ε α} (h : x.toOption = y.toOption) :
    (∃ a, x = .ok a ∧ y = .ok a) ∨ ∃ e e', x = .error e ∧ y = .error e' := by
  cases x with
  | ok a =>
    cases y with
    | ok b => exact .inl ⟨a, rfl, congrArg Except.ok (Option.some.inj h).symm⟩
    | error e' => cases h
  | error e =>
    cases y with
    | ok b => cases h
    | error e' => exact .inr ⟨e, e', rfl, rfl⟩

theorem toOption_bind {α β ε : Type} (x : Except ε α) (f : α → Except ε β) :
    (x.bind f).toOption = x.toOption.bind fun a => (f a).toOption := by
  cases x <;> rfl

theorem mapM_eq_ok_iff {α β ε : Type} {f : α → Except ε β} {l : List α} {r : List β} :
    l.mapM f = .ok r ↔ List.Forall₂ (fun a b => f a = .ok b) l r := by
  induction l generalizing r with
  | nil => simp [pure, Except.pure, eq_comm]
  | cons a l ih =>
    rw [List.mapM_cons, List.forall₂_cons_left_iff]
    simp only [← ih, bind, Except.bind, pure, Except.pure]
    cases hb : f a with
    | error e => simp
    | ok b =>
      cases hr : l.mapM f with
      | error e => simp
      | ok bs => simp [eq_comm]

theorem mapM_eq_some_iff {α β : Type} {f : α → Option β} {l : List α} {r : List β} :
    l.mapM f = some r ↔ List.Forall₂ (fun a b => f a = some b) l r := by
  induction l generalizing r with
  | nil => simp [pure, eq_comm]
  | cons a l ih =>
    rw [List.mapM_cons, List.forall₂_cons_left_iff]
    simp only [← ih, bind, Option.bind, pure]
    cases hb : f a with
    | none => simp
    | some b =>
      cases hr : l.mapM f with
      | none => simp
      | some bs => simp [eq_comm]

theorem mem_of_mapM_ok {α β ε : Type} {f : α → Except ε β} {l : List α} {r : List β}
    (h : l.mapM f = .ok r) (b : β) : b ∈ r ↔ ∃ a ∈ l, f a = .ok b := by
  rw [mapM_eq_ok_iff] at h
  induction h with
  | nil => simp
  | cons hab _ ih =>
    rw [List.mem_cons, ih]
    simp only [List.mem_cons, exists_eq_or_imp, hab, Except.ok.injEq]
    exact or_congr_left eq_comm

theorem exists_of_mapM_error {α β ε : Type} {f : α → Except ε β} {l : List α} {e : ε}
    (h : l.mapM f = .error e) : ∃ a ∈ l, f a = .error e := by
  induction l with
  | nil => cases h
  | cons a l ih =>
    rw [List.mapM_cons] at h
    rcases error_of_bind h with ha | ⟨b, -, h⟩
    · exact ⟨a, List.mem_cons_self, ha⟩
    · rcases error_of_bind h with hl | ⟨bs, -, h⟩
      · obtain ⟨a', hmem, ha'⟩ := ih hl
        exact ⟨a', List.mem_cons_of_mem a hmem, ha'⟩
      · cases h

theorem mapM_error_of_mem {α β ε : Type} {f : α → Except ε β} {l : List α} {a : α} {e : ε}
    (hmem : a ∈ l) (ha : f a = .error e) : ∃ e', l.mapM f = .error e' := by
  induction l with
  | nil => cases hmem
  | cons a' l ih =>
    rw [List.mapM_cons]
    rcases ha' : f a' with e' | b
    · exact ⟨e', rfl⟩
    · rcases List.mem_cons.mp hmem with rfl | hmem
      · rw [ha] at ha'
        cases ha'
      · obtain ⟨e', hl⟩ := ih hmem
        rw [hl]
        exact ⟨e', rfl⟩

theorem mapM_eq_map_mapM {α β γ ε : Type} {f : α → Except ε γ} {g : α → Except ε β} {k : β → γ}
    {l : List α} (h : ∀ a ∈ l, f a = (g a).map k) : l.mapM f = (l.mapM g).map (List.map k) := by
  induction l with
  | nil => rfl
  | cons a l ih =>
    rw [List.forall_mem_cons] at h
    rw [List.mapM_cons, List.mapM_cons, h.1, ih h.2]
    cases g a with
    | error e => rfl
    | ok b => cases l.mapM g <;> rfl

end GeoScript
