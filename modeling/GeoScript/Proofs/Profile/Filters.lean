import GeoScript.Profile.Apply
import GeoScript.Proofs.Traversal

/-! # What the filters of a profile let pass

The rules of a profile are stated here by what they say about a command and a number of arguments,
without filters. The filters that the profile stands for say the same, filter by filter together.

* `CommandRules.Permits`, `ArgumentRules.Permits`: the rules.
* `resolve_permits_iff`, `resolve_bounds_iff`: the filters of a profile let pass what its rules
  permit.
* `entries_addAll`, `filters_addAll`: the filters that are attached to a chain, after what was there
  before.
* `applyTo_ok`: what a profile leaves behind, when it is applied. -/

namespace GeoScript

/-- A command is among those allowed, if there is such a list, is not of computer algebra if that is
not allowed, and is of no denied category. -/
structure CommandRules.Permits (r : CommandRules) (c : Command) : Prop where
  listed : ∀ names, r.allowed = some names → c.name ∈ names
  noCas : r.casAllowed = false → c.category ≠ .cas
  notDenied : ∀ name ∈ r.deniedCategories, Category.find? name ≠ some c.category

/-- A number of arguments is within the bounds that are given. -/
structure ArgumentRules.Permits (r : ArgumentRules) (count : Nat) : Prop where
  least : ∀ n, r.least = some n → n.toNat ≤ count
  greatest : ∀ n, r.greatest = some n → count ≤ n.toNat

theorem ArgumentRules.permits_iff {r : ArgumentRules} {count : Nat} :
    r.Permits count ↔
      (∀ n, r.least = some n → n.toNat ≤ count) ∧ ∀ n, r.greatest = some n → count ≤ n.toNat :=
  ⟨fun ⟨h1, h2⟩ => ⟨h1, h2⟩, fun ⟨h1, h2⟩ => ⟨h1, h2⟩⟩

/-! ### Attaching several filters -/

namespace Filter.Chain

variable {α : Type}

theorem entries_addAll (chain : Chain α) (fs : List α) :
    ∃ added, (chain.addAll fs).1.entries = chain.entries ++ added ∧ added.map Prod.snd = fs := by
  induction fs generalizing chain with
  | nil => exact ⟨[], by simp [addAll], rfl⟩
  | cons f fs ih =>
    obtain ⟨added, hentries, hfilters⟩ := ih (chain.add f)
    refine ⟨(chain.nextHandle, f) :: added, ?_, by simp [hfilters]⟩
    rw [addAll]
    simp only [hentries]
    simp [add]

theorem filters_addAll (chain : Chain α) (fs : List α) :
    (chain.addAll fs).1.filters = chain.filters ++ fs := by
  obtain ⟨added, hentries, hfilters⟩ := chain.entries_addAll fs
  rw [filters, hentries, List.map_append, hfilters, filters]

end Filter.Chain

namespace Profile

/-! ### Lookups -/

theorem resolveCommand_eq_ok_iff {name : String} {c : Command} :
    resolveCommand name = .ok c ↔ c.name = name := by
  unfold resolveCommand
  constructor
  · intro h
    cases hfind : Command.find? name with
    | none => rw [hfind] at h; cases h
    | some c' =>
      rw [hfind] at h
      cases h
      exact Command.name_of_find? hfind
  · rintro rfl
    rw [Command.find?_name]

theorem resolveCategory_eq_ok_iff {name : String} {c : Category} :
    resolveCategory name = .ok c ↔ Category.find? name = some c := by
  unfold resolveCategory
  cases Category.find? name <;> simp

/-! ### The filters together -/

/-- The three parts of a profile that are looked up, and the filters that they stand for. -/
theorem resolve_cases {p : Profile} {r : Restrictions} (h : p.resolve = .ok r) :
    ∃ allow denied, allowFilter p.commands.allowed = .ok allow ∧
      p.commands.deniedCategories.mapM resolveCategory = .ok denied ∧
      countFilter p.arguments = .ok r.argumentFilters ∧
      r.commandFilters = allow ++
        (if p.commands.casAllowed then [] else [CommandFilter.cas false]) ++
        denied.map fun c => .gate c false := by
  unfold resolve at h
  cases hallow : allowFilter p.commands.allowed with
  | error problem => rw [hallow] at h; cases h
  | ok allow =>
    cases hdenied : p.commands.deniedCategories.mapM resolveCategory with
    | error problem => rw [hallow, hdenied] at h; cases h
    | ok denied =>
      cases hcount : countFilter p.arguments with
      | error problem => rw [hallow, hdenied, hcount] at h; cases h
      | ok count =>
        rw [hallow, hdenied, hcount] at h
        cases h
        exact ⟨allow, denied, rfl, rfl, rfl, rfl⟩

theorem allowFilter_permits_iff {allowed : Option (List String)} {allow : List CommandFilter}
    (h : allowFilter allowed = .ok allow) (c : Command) :
    (∀ f ∈ allow, f.allows c = true) ↔ ∀ names, allowed = some names → c.name ∈ names := by
  cases allowed with
  | none => cases h; simp
  | some names =>
    simp only [allowFilter] at h
    cases hnames : names.mapM resolveCommand with
    | error problem => rw [hnames] at h; cases h
    | ok commands =>
      rw [hnames] at h
      cases h
      have hmem : c ∈ commands ↔ c.name ∈ names := by
        rw [mem_of_mapM_ok hnames]
        simp only [resolveCommand_eq_ok_iff]
        exact ⟨fun ⟨name, hn, hc⟩ => hc ▸ hn, fun hn => ⟨_, hn, rfl⟩⟩
      simp [CommandFilter.allows, hmem]

theorem gates_permit_iff {names : List String} {denied : List Category}
    (h : names.mapM resolveCategory = .ok denied) (c : Command) :
    (∀ f ∈ denied.map (CommandFilter.gate · false), f.allows c = true) ↔
      ∀ name ∈ names, Category.find? name ≠ some c.category := by
  simp only [List.forall_mem_map, CommandFilter.allows, Bool.false_or, bne_iff_ne]
  constructor
  · intro hall name hn hfind
    exact hall c.category ((mem_of_mapM_ok h _).mpr ⟨name, hn, resolveCategory_eq_ok_iff.mpr hfind⟩)
      rfl
  · rintro hall category hmem rfl
    obtain ⟨name, hn, hfind⟩ := (mem_of_mapM_ok h _).mp hmem
    exact hall name hn (resolveCategory_eq_ok_iff.mp hfind)

/-- **The filters on commands let pass what the rules permit.** -/
theorem resolve_permits_iff {p : Profile} {r : Restrictions} (h : p.resolve = .ok r)
    (c : Command) : (∀ f ∈ r.commandFilters, f.allows c = true) ↔ p.commands.Permits c := by
  obtain ⟨allow, denied, hallow, hdenied, -, hfilters⟩ := resolve_cases h
  have hcas : (∀ f ∈ (if p.commands.casAllowed then [] else [CommandFilter.cas false]),
      f.allows c = true) ↔ (p.commands.casAllowed = false → c.category ≠ .cas) := by
    cases p.commands.casAllowed <;> simp [CommandFilter.cas, CommandFilter.allows]
  rw [hfilters, List.forall_mem_append, List.forall_mem_append, allowFilter_permits_iff hallow,
    hcas, gates_permit_iff hdenied]
  constructor
  · rintro ⟨⟨h1, h2⟩, h3⟩
    exact ⟨h1, h2, h3⟩
  · rintro ⟨h1, h2, h3⟩
    exact ⟨⟨h1, h2⟩, h3⟩

theorem checkCount_eq_ok_iff {command : String} {vs : List Value} {least : Nat}
    {greatest : Option Nat} :
    checkCount command vs least greatest = .ok () ↔
      least ≤ vs.length ∧ ∀ n, greatest = some n → vs.length ≤ n := by
  unfold checkCount
  by_cases hleast : vs.length < least
  · simp only [hleast, ↓reduceIte, reduceCtorEq, false_iff]
    omega
  · cases greatest with
    | none => simp only [hleast, ↓reduceIte, true_iff]; exact ⟨by omega, by simp⟩
    | some bound =>
      by_cases hbound : bound < vs.length
      · simp only [hleast, hbound, ↓reduceIte, reduceCtorEq, false_iff, Option.some.injEq,
          forall_eq']
        omega
      · simp only [hleast, hbound, ↓reduceIte, Option.some.injEq, forall_eq', true_iff]
        omega

theorem countFilter_permits_iff {r : ArgumentRules} {filters : List ArgumentFilter}
    (h : countFilter r = .ok filters) (command : String) (vs : List Value) :
    (∀ f ∈ filters, f.check command vs = .ok ()) ↔ r.Permits vs.length := by
  have hsingle : ∀ least greatest,
      (∀ f ∈ [ArgumentFilter.count least greatest], f.check command vs = .ok ()) ↔
        least ≤ vs.length ∧ ∀ n, greatest = some n → vs.length ≤ n := by
    intro least greatest
    rw [List.forall_mem_singleton, ArgumentFilter.check, checkCount_eq_ok_iff]
  obtain ⟨least, greatest⟩ := r
  cases least with
  | none =>
    cases greatest with
    | none => cases h; simp [ArgumentRules.permits_iff]
    | some n => cases h; rw [hsingle]; simp [ArgumentRules.permits_iff]
  | some m =>
    cases greatest with
    | none => cases h; rw [hsingle]; simp [ArgumentRules.permits_iff]
    | some n =>
      simp only [countFilter] at h
      split at h
      · cases h
      · cases h; rw [hsingle]; simp [ArgumentRules.permits_iff]

/-- **The filter on arguments lets pass what the rules permit.** -/
theorem resolve_bounds_iff {p : Profile} {r : Restrictions} (h : p.resolve = .ok r)
    (command : String) (vs : List Value) :
    (∀ f ∈ r.argumentFilters, f.check command vs = .ok ()) ↔ p.arguments.Permits vs.length := by
  obtain ⟨-, -, -, -, hcount, -⟩ := resolve_cases h
  exact countFilter_permits_iff hcount command vs

/-! ### Applying a profile -/

theorem applyTo_ok {p : Profile} {s t : Session} {handles : List Filter.Handle} {log : Log}
    (h : p.applyTo s = .ok (t, handles, log)) :
    ∃ r, p.resolve = .ok r ∧ t = (s.restrict p r).1 ∧
      handles = (s.restrict p r).2.1 ++ (s.restrict p r).2.2 := by
  unfold applyTo at h
  rcases hr : p.resolve with problem | r
  · rw [hr] at h
    cases h
  · rw [hr] at h
    cases h
    exact ⟨r, rfl, rfl, rfl⟩

end Profile

end GeoScript
