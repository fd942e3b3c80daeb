import GeoScript.Proofs.Profile.Filters

/-! # Installing a profile

A profile is installed step by step: its names are looked up and its bounds are compared, then its
filters are attached one after the other, and then the settings are made. No step after the first
attachment can fail, so a profile is installed as a whole or not at all.

* `Category.find?_eq_some_iff`: the category that a name means.
* `Chain.ExtendedBy`, `extendedBy_addAll`: what attaching several filters does to a chain.
* `Profile.install`: the steps. `install_eq`: together they are `Profile.applyTo`.
* `Profile.HasProblem`: what is wrong with a profile. `exists_resolve_error_iff`: such a profile is
  refused, and no other.
* `Profile.StandsFor`: the filters that a profile stands for, said without looking anything up.
* `Profile.application_is_atomic`: the main statement. -/

namespace GeoScript

open GeoScript.Filter (Chain Handle)

/-! ### Categories by their names -/

namespace Category

/-- A category is called by its tag or its title, in letters of either case and with any blanks
around it. -/
def IsCalled (c : Category) (name : String) : Prop :=
  Text.sameIgnoringCase c.tag (Text.trimmed name) = true ∨
    Text.sameIgnoringCase c.title (Text.trimmed name) = true

/-- The tag and the title of a category, in small letters. -/
def keys (c : Category) : List (List Char) :=
  [c.tag.toList.map Char.toLower, c.title.toList.map Char.toLower]

theorem eq_of_mem_keys : ∀ c ∈ all, ∀ d ∈ all, ∀ k ∈ c.keys, k ∈ d.keys → c = d := by
  decide +kernel

theorem isCalled_iff {c : Category} {name : String} :
    c.IsCalled name ↔ (Text.trimmed name).toList.map Char.toLower ∈ c.keys := by
  unfold IsCalled Text.sameIgnoringCase keys
  rw [beq_iff_eq, beq_iff_eq, List.mem_pair, eq_comm, or_congr_right eq_comm]

theorem IsCalled.eq {c d : Category} {name : String} (hc : c.IsCalled name) (hd : d.IsCalled name) :
    c = d :=
  eq_of_mem_keys c (mem_all c) d (mem_all d) _ (isCalled_iff.mp hc) (isCalled_iff.mp hd)

/-- **A category is found by everything that it is called.** -/
theorem find?_eq_some_iff {name : String} {c : Category} :
    find? name = some c ↔ c.IsCalled name := by
  have hcalled : ∀ d, find? name = some d → d.IsCalled name := by
    intro d hd
    have htest := List.find?_some hd
    rwa [Bool.or_eq_true] at htest
  refine ⟨hcalled c, fun hc => ?_⟩
  rcases hfind : find? name with _ | d
  · have hnone := List.find?_eq_none.mp hfind c (mem_all c)
    rw [Bool.or_eq_true] at hnone
    exact absurd hc hnone
  · rw [(hcalled d hfind).eq hc]

theorem find?_eq_none_iff {name : String} :
    find? name = none ↔ ∀ c : Category, ¬ c.IsCalled name := by
  simp only [Option.eq_none_iff_forall_ne_some, ne_eq, find?_eq_some_iff]

end Category

/-! ### Filters that are attached one after the other -/

theorem Action.bind_of_silent {σ α β : Type} {x : Action σ α} {s t : σ} {a : α}
    (h : x s = ⟨.ok a, t, []⟩) (f : α → Action σ β) : (x >>= f) s = f a t := by
  change Action.bind x f s = f a t
  unfold Action.bind
  rw [h]
  rfl

namespace Filter.Chain

variable {α : Type}

/-- A chain as it was, with some filters more at its end, whose handles have the next numbers. -/
structure ExtendedBy (chain : Chain α) (filters : List α) (later : Chain α)
    (handles : List Handle) : Prop where
  entries : later.entries = chain.entries ++ handles.zip filters
  numbers : handles.map Handle.number = List.range' chain.next filters.length
  next : later.next = chain.next + filters.length

theorem extendedBy_addAll (chain : Chain α) (filters : List α) :
    chain.ExtendedBy filters (chain.addAll filters).1 (chain.addAll filters).2 := by
  induction filters generalizing chain with
  | nil => exact ⟨(List.append_nil _).symm, rfl, rfl⟩
  | cons f fs ih =>
    obtain ⟨hentries, hnumbers, hnext⟩ := ih (chain.add f)
    refine ⟨?_, ?_, ?_⟩
    · calc (chain.addAll (f :: fs)).1.entries
          = (chain.add f).entries ++ ((chain.add f).addAll fs).2.zip fs := hentries
        _ = chain.entries ++ (chain.nextHandle, f) :: ((chain.add f).addAll fs).2.zip fs :=
          List.append_assoc ..
    · have hrest : ((chain.add f).addAll fs).2.map Handle.number =
          List.range' (chain.next + 1) fs.length := hnumbers
      rw [addAll, List.map_cons, hrest, List.length_cons, List.range'_succ]
      rfl
    · have hlast : ((chain.add f).addAll fs).1.next = chain.next + 1 + fs.length := hnext
      rw [addAll, hlast, List.length_cons]
      omega

/-- Attaches a filter, and answers with its handle. -/
def attach (f : α) : Action (Chain α) Handle := fun chain =>
  ⟨.ok chain.nextHandle, chain.add f, []⟩

/-- Attaches some filters one after the other, and answers with their handles. -/
def attachAll : List α → Action (Chain α) (List Handle)
  | [] => pure []
  | f :: fs => do
    let handle ← attach f
    let handles ← attachAll fs
    return handle :: handles

theorem attachAll_apply (fs : List α) (chain : Chain α) :
    attachAll fs chain = ⟨.ok (chain.addAll fs).2, (chain.addAll fs).1, []⟩ := by
  induction fs generalizing chain with
  | nil => rfl
  | cons f fs ih =>
    have hfirst : attach f chain = ⟨.ok chain.nextHandle, chain.add f, []⟩ := rfl
    rw [attachAll, Action.bind_of_silent hfirst, Action.bind_of_silent (ih (chain.add f))]
    rfl

end Filter.Chain

/-! ### The steps -/

namespace Session

/-- Attaches some filters on commands. -/
def attachCommandFilters (fs : List CommandFilter) : Action Session (List Handle) :=
  (Chain.attachAll fs).onPart (fun s => s.engine.commandFilters) fun s commandFilters =>
    s.withEngine { s.engine with commandFilters }

/-- Attaches some filters on arguments. -/
def attachArgumentFilters (fs : List ArgumentFilter) : Action Session (List Handle) :=
  (Chain.attachAll fs).onPart (fun s => s.engine.argumentFilters) fun s argumentFilters =>
    s.withEngine { s.engine with argumentFilters }

theorem attachCommandFilters_apply (fs : List CommandFilter) (s : Session) :
    attachCommandFilters fs s =
      ⟨.ok (s.engine.commandFilters.addAll fs).2,
        s.withEngine { s.engine with
          commandFilters := (s.engine.commandFilters.addAll fs).1 }, []⟩ := by
  unfold attachCommandFilters Action.onPart
  rw [Chain.attachAll_apply]

theorem attachArgumentFilters_apply (fs : List ArgumentFilter) (s : Session) :
    attachArgumentFilters fs s =
      ⟨.ok (s.engine.argumentFilters.addAll fs).2,
        s.withEngine { s.engine with
          argumentFilters := (s.engine.argumentFilters.addAll fs).1 }, []⟩ := by
  unfold attachArgumentFilters Action.onPart
  rw [Chain.attachAll_apply]

end Session

namespace Profile

/-- A part of a profile that was looked up, or the profile's fault. -/
def lookedUp {α : Type} (x : Except ProfileProblem α) : Action Session α :=
  .ofExcept (x.mapError Fault.invalidProfile)

/-- **The steps of installing a profile:** what is in it is looked up, then every filter is attached
by itself, then the settings are made. The handles of the filters are the answer. -/
def install (p : Profile) : Action Session (List Handle) := do
  let allow ← lookedUp (allowFilter p.commands.allowed)
  let denied ← lookedUp (p.commands.deniedCategories.mapM resolveCategory)
  let count ← lookedUp (countFilter p.arguments)
  let cas := if p.commands.casAllowed then [] else [CommandFilter.cas false]
  let gates := denied.map fun c => CommandFilter.gate c false
  let commandHandles ← Session.attachCommandFilters (allow ++ cas ++ gates)
  let argumentHandles ← Session.attachArgumentFilters count
  Action.modify fun s => { s with faults := { s.faults with silent := p.silentFaults } }
  Action.modify fun s => { s with sliders := p.sliders }
  let handles := commandHandles ++ argumentHandles
  Action.emit (.note .debug "session profile applied" [("filters", handles.length.repr)])
  return handles

/-- What is answered and what is left of a session that is changed by success only. -/
def outcome (s : Session) (result : Except Fault (Session × List Handle × Log)) :
    Outcome Session (List Handle) :=
  match result with
  | .error fault => ⟨.error fault, s, []⟩
  | .ok (t, handles, log) => ⟨.ok handles, t, log⟩

/-- **A profile is installed as a whole or not at all.** -/
theorem install_eq (p : Profile) (s : Session) : p.install s = outcome s (p.applyTo s) := by
  unfold install applyTo resolve
  cases hallow : allowFilter p.commands.allowed with
  | error problem => rfl
  | ok allow =>
    cases hdenied : p.commands.deniedCategories.mapM resolveCategory with
    | error problem => rfl
    | ok denied =>
      cases hcount : countFilter p.arguments with
      | error problem => rfl
      | ok count =>
        have hlooked : ∀ {α : Type} (a : α), lookedUp (.ok a) s = ⟨.ok a, s, []⟩ := fun _ => rfl
        rw [Action.bind_of_silent (hlooked allow), Action.bind_of_silent (hlooked denied),
          Action.bind_of_silent (hlooked count),
          Action.bind_of_silent (Session.attachCommandFilters_apply _ _),
          Action.bind_of_silent (Session.attachArgumentFilters_apply _ _),
          Action.bind_of_silent (Action.modify_apply _ _),
          Action.bind_of_silent (Action.modify_apply _ _)]
        rfl

/-! ### Profiles that are refused -/

/-- What is wrong with a profile: a name among the allowed commands that no command has, a name
among the denied categories that no category is called by, or bounds of which the lower is above
the upper. -/
inductive HasProblem (p : Profile) : ProfileProblem → Prop
  | unknownCommand {names : List String} {name : String}
      (hallowed : p.commands.allowed = some names) (hmem : name ∈ names)
      (hnone : ∀ c : Command, c.name ≠ name) : HasProblem p (.unknownCommand name)
  | unknownCategory {name : String} (hmem : name ∈ p.commands.deniedCategories)
      (hnone : ∀ c : Category, ¬ c.IsCalled name) : HasProblem p (.unknownCategory name)
  | crossedBounds {least greatest : UInt64} (hleast : p.arguments.least = some least)
      (hgreatest : p.arguments.greatest = some greatest) (hlt : greatest < least) :
      HasProblem p (.crossedBounds least.toNat greatest.toNat)

theorem resolveCommand_eq_error_iff {name : String} {problem : ProfileProblem} :
    resolveCommand name = .error problem ↔
      problem = .unknownCommand name ∧ ∀ c : Command, c.name ≠ name := by
  unfold resolveCommand
  rcases hfind : Command.find? name with _ | c
  · have hnone : ∀ c : Command, c.name ≠ name := by
      rintro c rfl
      rw [Command.find?_name] at hfind
      cases hfind
    simp only [Except.error.injEq, hnone, ne_eq, not_false_eq_true, implies_true, and_true,
      eq_comm]
  · have hname := Command.name_of_find? hfind
    simp only [reduceCtorEq, false_iff, not_and, ne_eq, not_forall, not_not]
    exact fun _ => ⟨c, hname⟩

theorem resolveCategory_eq_error_iff {name : String} {problem : ProfileProblem} :
    resolveCategory name = .error problem ↔
      problem = .unknownCategory name ∧ ∀ c : Category, ¬ c.IsCalled name := by
  rw [← Category.find?_eq_none_iff]
  unfold resolveCategory
  rcases Category.find? name with _ | c
  · simp only [Except.error.injEq, and_true, eq_comm]
  · simp only [reduceCtorEq, and_false]

theorem countFilter_eq_error_iff {r : ArgumentRules} {problem : ProfileProblem} :
    countFilter r = .error problem ↔ ∃ least greatest, r.least = some least ∧
      r.greatest = some greatest ∧ greatest < least ∧
      problem = .crossedBounds least.toNat greatest.toNat := by
  obtain ⟨least, greatest⟩ := r
  rcases least with _ | least <;> rcases greatest with _ | greatest
  case some.some =>
    by_cases hlt : greatest < least
    · simp [countFilter, hlt, eq_comm]
    · simp [countFilter, hlt]
  all_goals simp [countFilter]

theorem hasProblem_of_resolve {p : Profile} {problem : ProfileProblem}
    (h : p.resolve = .error problem) : p.HasProblem problem := by
  unfold resolve at h
  rcases error_of_bind h with hallow | ⟨allow, -, h⟩
  · unfold allowFilter at hallow
    rcases hnames : p.commands.allowed with _ | names
    · rw [hnames] at hallow
      cases hallow
    · rw [hnames] at hallow
      obtain ⟨name, hmem, hname⟩ := exists_of_mapM_error (error_of_map hallow)
      obtain ⟨rfl, hnone⟩ := resolveCommand_eq_error_iff.mp hname
      exact .unknownCommand hnames hmem hnone
  · rcases error_of_bind h with hdenied | ⟨denied, -, h⟩
    · obtain ⟨name, hmem, hname⟩ := exists_of_mapM_error hdenied
      obtain ⟨rfl, hnone⟩ := resolveCategory_eq_error_iff.mp hname
      exact .unknownCategory hmem hnone
    · rcases error_of_bind h with hcount | ⟨count, -, h⟩
      · obtain ⟨least, greatest, hleast, hgreatest, hlt, rfl⟩ := countFilter_eq_error_iff.mp hcount
        exact .crossedBounds hleast hgreatest hlt
      · cases h

/-- **A profile is refused if and only if something is wrong with it.** -/
theorem exists_resolve_error_iff {p : Profile} :
    (∃ problem, p.resolve = .error problem) ↔ ∃ problem, p.HasProblem problem := by
  constructor
  · rintro ⟨problem, h⟩
    exact ⟨problem, hasProblem_of_resolve h⟩
  · rintro ⟨problem, h⟩
    rcases hr : p.resolve with problem' | r
    · exact ⟨problem', rfl⟩
    · exfalso
      obtain ⟨allow, denied, hallow, hdenied, hcount, -⟩ := resolve_cases hr
      rcases h with ⟨hallowed, hmem, hnone⟩ | ⟨hmem, hnone⟩ | ⟨hleast, hgreatest, hlt⟩
      · have herror := resolveCommand_eq_error_iff.mpr ⟨rfl, hnone⟩
        obtain ⟨e, he⟩ := mapM_error_of_mem hmem herror
        rw [hallowed, allowFilter, he] at hallow
        cases hallow
      · have herror := resolveCategory_eq_error_iff.mpr ⟨rfl, hnone⟩
        obtain ⟨e, he⟩ := mapM_error_of_mem hmem herror
        rw [he] at hdenied
        cases hdenied
      · have herror := countFilter_eq_error_iff.mpr ⟨_, _, hleast, hgreatest, hlt, rfl⟩
        rw [herror] at hcount
        cases hcount

/-! ### The filters of a profile -/

/-- The filter of a list of allowed commands: none without a list. -/
inductive AllowFilter : Option (List String) → List CommandFilter → Prop
  | absent : AllowFilter none []
  | given (commands : List Command) :
      AllowFilter (some (commands.map Command.name)) [.only commands]

/-- The filter of the bounds on arguments: none without a bound, and zero for the lower bound if
only the upper one is given. -/
def boundFilters (r : ArgumentRules) : List ArgumentFilter :=
  if r.least.isSome || r.greatest.isSome then
    [.count ((r.least.map UInt64.toNat).getD 0) (r.greatest.map UInt64.toNat)]
  else []

/-- The filters that a profile stands for: on commands the allow-list, the gate on computer algebra,
and a gate for each denied category; on arguments the bounds. -/
structure StandsFor (p : Profile) (r : Restrictions) : Prop where
  commandFilters : ∃ allow denied, AllowFilter p.commands.allowed allow ∧
    List.Forall₂ (fun name c => Category.IsCalled c name) p.commands.deniedCategories denied ∧
    r.commandFilters = allow ++ (if p.commands.casAllowed then [] else [.gate .cas false]) ++
      denied.map fun c => .gate c false
  argumentFilters : r.argumentFilters = boundFilters p.arguments

theorem allowFilter_ok {allowed : Option (List String)} {allow : List CommandFilter}
    (h : allowFilter allowed = .ok allow) : AllowFilter allowed allow := by
  rcases allowed with _ | names
  · cases h
    exact .absent
  · obtain ⟨commands, hcommands, rfl⟩ := ok_of_map h
    have hnames : names = commands.map Command.name := by
      have hall := mapM_eq_ok_iff.mp hcommands
      simp only [resolveCommand_eq_ok_iff] at hall
      rw [← List.forall₂_eq_eq_eq, List.forall₂_map_right_iff]
      exact hall.imp fun _ _ hname => hname.symm
    rw [hnames]
    exact .given commands

theorem countFilter_ok {r : ArgumentRules} {filters : List ArgumentFilter}
    (h : countFilter r = .ok filters) : filters = boundFilters r := by
  obtain ⟨least, greatest⟩ := r
  rcases least with _ | least <;> rcases greatest with _ | greatest
  case some.some =>
    unfold countFilter at h
    dsimp only at h
    split at h <;> cases h
    rfl
  all_goals
    cases h
    rfl

theorem standsFor_of_resolve {p : Profile} {r : Restrictions} (h : p.resolve = .ok r) :
    p.StandsFor r := by
  obtain ⟨allow, denied, hallow, hdenied, hcount, hfilters⟩ := resolve_cases h
  have hcalled : List.Forall₂ (fun name c => Category.IsCalled c name)
      p.commands.deniedCategories denied := by
    have hall := mapM_eq_ok_iff.mp hdenied
    simpa only [resolveCategory_eq_ok_iff, Category.find?_eq_some_iff] using hall
  exact ⟨⟨allow, denied, allowFilter_ok hallow, hcalled, hfilters⟩, countFilter_ok hcount⟩

/-- **A profile is applied exactly and as a whole, or not at all.** It is refused if and only if it
names a command or a category that there is not, or its bounds are crossed, and its steps then leave
the session as it was. Otherwise the filters that it stands for are added at the ends of the two
chains, under the next numbers; their handles are the answer; the two settings are those of the
profile; and everything else is as it was. -/
theorem application_is_atomic (p : Profile) (s : Session) :
    ((∃ problem, p.applyTo s = .error (.invalidProfile problem)) ↔
      ∃ problem, p.HasProblem problem) ∧
    (∀ fault, p.applyTo s = .error fault →
      (∃ problem, fault = .invalidProfile problem ∧ p.HasProblem problem) ∧
        p.install s = ⟨.error fault, s, []⟩) ∧
    ∀ t handles log, p.applyTo s = .ok (t, handles, log) →
      p.install s = ⟨.ok handles, t, log⟩ ∧
      ∃ r commandHandles argumentHandles commandFilters argumentFilters, p.StandsFor r ∧
        handles = commandHandles ++ argumentHandles ∧
        s.engine.commandFilters.ExtendedBy r.commandFilters commandFilters commandHandles ∧
        s.engine.argumentFilters.ExtendedBy r.argumentFilters argumentFilters argumentHandles ∧
        t = { s.withEngine { s.engine with commandFilters, argumentFilters } with
          faults := { s.faults with silent := p.silentFaults }
          sliders := p.sliders } := by
  have hinstall := p.install_eq s
  refine ⟨?_, fun fault hfault => ?_, fun t handles log hok => ?_⟩
  · rw [← exists_resolve_error_iff]
    unfold applyTo
    rcases p.resolve with problem | r <;> simp
  · rw [hinstall, hfault]
    refine ⟨?_, rfl⟩
    unfold applyTo at hfault
    rcases hr : p.resolve with problem | r
    · rw [hr] at hfault
      cases hfault
      exact ⟨problem, rfl, hasProblem_of_resolve hr⟩
    · rw [hr] at hfault
      cases hfault
  · rw [hinstall, hok]
    refine ⟨rfl, ?_⟩
    obtain ⟨r, hr, rfl, rfl⟩ := applyTo_ok hok
    exact ⟨r, _, _, _, _, standsFor_of_resolve hr, rfl, Chain.extendedBy_addAll _ _,
      Chain.extendedBy_addAll _ _, rfl⟩

/-- A profile that names a command twice and gives only an upper bound, in a session in which one
filter was attached and another one detached; and the same profile with one category too many. -/
theorem application_is_atomic_exam :
    let s : Session := ((Session.initial.addCommandFilter (.gate .list false)).addCommandFilter
      (.gate .text false)).removeCommandFilter ⟨0⟩
    let p : Profile := { Profile.default with
      silentFaults := true
      commands :=
        { allowed := some ["Point", "Line", "Point"]
          casAllowed := false
          deniedCategories := [" vector AND matrix", "3d"] }
      arguments := { least := none, greatest := some 4 } }
    let q : Profile := { p with commands := { p.commands with deniedCategories := ["3d", "4d"] } }
    (∃ t log, p.applyTo s = .ok (t, [⟨2⟩, ⟨3⟩, ⟨4⟩, ⟨5⟩, ⟨0⟩], log) ∧
      p.install s = ⟨.ok [⟨2⟩, ⟨3⟩, ⟨4⟩, ⟨5⟩, ⟨0⟩], t, log⟩ ∧
      t.engine.commandFilters = { next := 6, entries := [(⟨1⟩, .gate .text false),
        (⟨2⟩, .only [.point, .line, .point]), (⟨3⟩, .gate .cas false), (⟨4⟩, .gate .vector false),
        (⟨5⟩, .gate .spatial false)] } ∧
      t.engine.argumentFilters = { next := 1, entries := [(⟨0⟩, .count 0 (some 4))] } ∧
      t.faults.silent = true) ∧
    ∃ fault, q.applyTo s = .error fault ∧ q.install s = ⟨.error fault, s, []⟩ := by
  intro s p q
  obtain ⟨-, -, happlied⟩ := application_is_atomic p s
  obtain ⟨-, hrefused, -⟩ := application_is_atomic q s
  have hok : ∃ t log, p.applyTo s = .ok (t, [⟨2⟩, ⟨3⟩, ⟨4⟩, ⟨5⟩, ⟨0⟩], log) ∧
      t.engine.commandFilters = { next := 6, entries := [(⟨1⟩, .gate .text false),
        (⟨2⟩, .only [.point, .line, .point]), (⟨3⟩, .gate .cas false), (⟨4⟩, .gate .vector false),
        (⟨5⟩, .gate .spatial false)] } ∧
      t.engine.argumentFilters = { next := 1, entries := [(⟨0⟩, .count 0 (some 4))] } ∧
      t.faults.silent = true := ⟨_, _, rfl, rfl, rfl, rfl⟩
  have herror : ∃ fault, q.applyTo s = .error fault := ⟨_, rfl⟩
  obtain ⟨t, log, hok, hcommands, harguments, hsilent⟩ := hok
  obtain ⟨fault, herror⟩ := herror
  have hinstall := (happlied t _ log hok).1
  exact ⟨⟨t, log, hok, hinstall, hcommands, harguments, hsilent⟩, fault, herror,
    (hrefused fault herror).2⟩

end Profile

end GeoScript
