import GeoScript.Profile.Format
import GeoScript.Proofs.Data.Without

/-! # Profiles are read back

The JSON text of a profile is read as the profile, and so it is when keys are left out whose fields
hold their defaults, be it fields of the profile or of the records in it.

* `contents?_without`: the contents of a record with some fields left out.
* `fieldOr?_kept`: a field that is read back, or left out because it holds its default.
* `CommandRules.ofData?_without`, `ArgumentRules.ofData?_without`, `Profile.ofData?_without`: the
  records of a profile from what is left of their data.
* `Profile.read_jsonText`: the main statement. -/

namespace GeoScript

-- Powers with an exponent of type `Nat` are those of the core library.
attribute [local instance (high)] instPowNat

namespace Profile

theorem contents?_without (format : Format) (removed : List String → Bool)
    (fields : List (String × Data)) (hdistinct : (fields.map Prod.fst).Nodup) :
    contents? format (fields.map Prod.fst) ((Data.record fields).without removed) =
      some (fields.map fun (name, d) =>
        if removed [name] then none else some (d.without fun path => removed (name :: path))) := by
  have hkeys : (Data.withoutFields removed fields).map Prod.fst =
      (fields.map Prod.fst).filter fun name => !removed [name] :=
    Data.map_fst_withoutFields fields
  have hknown : ((Data.withoutFields removed fields).map Prod.fst).all
      (fields.map Prod.fst).contains = true := by
    rw [List.all_eq_true]
    intro name hname
    rw [hkeys] at hname
    exact List.contains_iff_mem.2 (List.mem_of_mem_filter hname)
  have honce : ((Data.withoutFields removed fields).map Prod.fst).all
      (fun k => ((Data.withoutFields removed fields).map Prod.fst).count k == 1) = true := by
    rw [List.all_eq_true]
    intro name hname
    have hnodup : ((Data.withoutFields removed fields).map Prod.fst).Nodup := by
      rw [hkeys]
      exact hdistinct.filter _
    exact beq_iff_eq.2 (List.count_eq_one_of_mem hnodup hname)
  simp only [Data.without, contents?, hknown, honce, Bool.and_self, if_true, List.map_map]
  exact congrArg some (List.map_congr_left fun _ hfield =>
    Data.lookup_withoutFields hdistinct hfield)

/-- A field that is read back, and holds its default if it is left out. -/
theorem fieldOr?_kept {α : Type} {default a : α} {decode : Data → Option α} {d : Data}
    {removed : Bool} (hd : decode d = some a) (h : removed = true → a = default) :
    fieldOr? default decode (if removed then none else some d) = some a := by
  cases removed with
  | true => exact congrArg some (h rfl).symm
  | false => exact hd

/-! ### Contents of fields -/

theorem bool?_bool (b : Bool) : bool? (.bool b) = some b := rfl

theorem texts?_textsData (texts : List String) : texts? (textsData texts) = some texts := by
  induction texts with
  | nil => rfl
  | cons text texts ih =>
    have hrest : (texts.map Data.text).mapM text? = some texts := ih
    rw [textsData, texts?, List.map_cons, List.mapM_cons, hrest]
    rfl

theorem bound?_boundData (bound : UInt64) : bound? (boundData bound) = some bound := by
  have hlt : (bound.toNat : Int) < 2 ^ (64 : Nat) := by
    exact_mod_cast bound.toNat_lt
  rw [boundData, bound?, if_pos ⟨Int.natCast_nonneg _, hlt⟩, Int.toNat_natCast, UInt64.ofNat_toNat]

theorem logStyle?_name (format : Format) (style : LogStyle) :
    logStyle? format (.text style.name) = some style := by
  have hfind : LogStyle.find? style.name = some style := by
    cases style <;> decide
  exact hfind

theorem option?_optionData {α : Type} {decode : Data → Option α} {encode : α → Data}
    (h : ∀ a, encode a ≠ .null ∧ decode (encode a) = some a) (a : Option α) :
    option? decode (optionData encode a) = some a := by
  cases a with
  | none => rfl
  | some a =>
    obtain ⟨hnull, hdecode⟩ := h a
    rw [optionData, option?, hdecode]
    · rfl
    · exact hnull

theorem without_optionData {α : Type} {encode : α → Data}
    (h : ∀ a removed, (encode a).without removed = encode a) (a : Option α)
    (removed : List String → Bool) :
    (optionData encode a).without removed = optionData encode a := by
  cases a with
  | none => rfl
  | some a => exact h a removed

theorem plain_textsData (texts : List String) : (textsData texts).Plain := by
  refine .list fun d hd => ?_
  obtain ⟨text, -, rfl⟩ := List.mem_map.1 hd
  exact .text text

theorem plain_boundData (bound : UInt64) : (boundData bound).Plain := by
  have hlt : bound.toNat < 2 ^ (64 : Nat) := bound.toNat_lt
  exact .int (by omega) (by exact_mod_cast hlt)

theorem plain_optionData {α : Type} {encode : α → Data} (h : ∀ a, (encode a).Plain)
    (a : Option α) : (optionData encode a).Plain := by
  cases a with
  | none => exact .null
  | some a => exact h a

end Profile

/-! ### The records of a profile -/

open Profile

section Parts

variable {format : Format} {removed : List String → Bool}

theorem CommandRules.ofData?_without {r : CommandRules}
    (hallowed : removed ["allow"] = true → r.allowed = CommandRules.default.allowed)
    (hcas : removed ["cas_allowed"] = true → r.casAllowed = CommandRules.default.casAllowed)
    (hdenied : removed ["deny_categories"] = true →
      r.deniedCategories = CommandRules.default.deniedCategories) :
    CommandRules.ofData? format (r.toData.without removed) = some r := by
  have hdistinct : ["allow", "cas_allowed", "deny_categories"].Nodup := by decide
  have hcontents : contents? format ["allow", "cas_allowed", "deny_categories"]
      (r.toData.without removed) = some
        [if removed ["allow"] then none
          else some ((optionData textsData r.allowed).without fun path =>
            removed ("allow" :: path)),
          if removed ["cas_allowed"] then none else some (.bool r.casAllowed),
          if removed ["deny_categories"] then none else some (textsData r.deniedCategories)] :=
    contents?_without format removed _ hdistinct
  rw [without_optionData fun _ _ => rfl] at hcontents
  have htexts : ∀ texts, textsData texts ≠ .null ∧ texts? (textsData texts) = some texts :=
    fun texts => ⟨Data.noConfusion, texts?_textsData texts⟩
  rw [ofData?, hcontents]
  simp only [Option.bind_eq_bind, Option.bind_some,
    fieldOr?_kept (option?_optionData htexts r.allowed) hallowed,
    fieldOr?_kept (bool?_bool r.casAllowed) hcas,
    fieldOr?_kept (texts?_textsData r.deniedCategories) hdenied]
  rfl

theorem ArgumentRules.ofData?_without {r : ArgumentRules}
    (hleast : removed ["min"] = true → r.least = ArgumentRules.default.least)
    (hgreatest : removed ["max"] = true → r.greatest = ArgumentRules.default.greatest) :
    ArgumentRules.ofData? format (r.toData.without removed) = some r := by
  have hdistinct : ["min", "max"].Nodup := by decide
  have hcontents : contents? format ["min", "max"] (r.toData.without removed) = some
      [if removed ["min"] then none
        else some ((optionData boundData r.least).without fun path => removed ("min" :: path)),
        if removed ["max"] then none
        else some ((optionData boundData r.greatest).without fun path =>
          removed ("max" :: path))] :=
    contents?_without format removed _ hdistinct
  rw [without_optionData fun _ _ => rfl, without_optionData fun _ _ => rfl] at hcontents
  have hbound : ∀ bound, boundData bound ≠ .null ∧ bound? (boundData bound) = some bound :=
    fun bound => ⟨Data.noConfusion, bound?_boundData bound⟩
  rw [ofData?, hcontents]
  simp only [Option.bind_eq_bind, Option.bind_some,
    fieldOr?_kept (option?_optionData hbound r.least) hleast,
    fieldOr?_kept (option?_optionData hbound r.greatest) hgreatest]
  rfl

end Parts

namespace Profile

/-- The field under a path of keys holds its default. No other paths are keys of a profile. -/
def HoldsDefault (p : Profile) : List String → Prop
  | ["silent_errors"] => p.silentFaults = Profile.default.silentFaults
  | ["log_profile"] => p.logStyle = Profile.default.logStyle
  | ["autocreate_sliders"] => p.sliders = Profile.default.sliders
  | ["commands"] => p.commands = Profile.default.commands
  | ["commands", "allow"] => p.commands.allowed = Profile.default.commands.allowed
  | ["commands", "cas_allowed"] => p.commands.casAllowed = Profile.default.commands.casAllowed
  | ["commands", "deny_categories"] =>
    p.commands.deniedCategories = Profile.default.commands.deniedCategories
  | ["arguments"] => p.arguments = Profile.default.arguments
  | ["arguments", "min"] => p.arguments.least = Profile.default.arguments.least
  | ["arguments", "max"] => p.arguments.greatest = Profile.default.arguments.greatest
  | _ => False

theorem ofData?_without {format : Format} {removed : List String → Bool} {p : Profile}
    (h : ∀ path, removed path = true → p.HoldsDefault path) :
    ofData? format (p.toData.without removed) = some p := by
  have hdistinct : ["silent_errors", "log_profile", "autocreate_sliders", "commands",
      "arguments"].Nodup := by decide
  have hcontents : contents? format
      ["silent_errors", "log_profile", "autocreate_sliders", "commands", "arguments"]
      (p.toData.without removed) = some
        [if removed ["silent_errors"] then none else some (.bool p.silentFaults),
          if removed ["log_profile"] then none
          else some ((optionData (fun s => .text s.name) p.logStyle).without fun path =>
            removed ("log_profile" :: path)),
          if removed ["autocreate_sliders"] then none else some (.bool p.sliders),
          if removed ["commands"] then none
          else some (p.commands.toData.without fun path => removed ("commands" :: path)),
          if removed ["arguments"] then none
          else some (p.arguments.toData.without fun path => removed ("arguments" :: path))] :=
    contents?_without format removed _ hdistinct
  rw [without_optionData fun _ _ => rfl] at hcontents
  have hstyle : ∀ s : LogStyle, Data.text s.name ≠ .null ∧
      logStyle? format (.text s.name) = some s :=
    fun s => ⟨Data.noConfusion, logStyle?_name format s⟩
  have hcommands : CommandRules.ofData? format
      (p.commands.toData.without fun path => removed ("commands" :: path)) = some p.commands :=
    CommandRules.ofData?_without (h ["commands", "allow"]) (h ["commands", "cas_allowed"])
      (h ["commands", "deny_categories"])
  have harguments : ArgumentRules.ofData? format
      (p.arguments.toData.without fun path => removed ("arguments" :: path)) = some p.arguments :=
    ArgumentRules.ofData?_without (h ["arguments", "min"]) (h ["arguments", "max"])
  rw [ofData?, hcontents]
  simp only [Option.bind_eq_bind, Option.bind_some,
    fieldOr?_kept (bool?_bool p.silentFaults) (h ["silent_errors"]),
    fieldOr?_kept (option?_optionData hstyle p.logStyle) (h ["log_profile"]),
    fieldOr?_kept (bool?_bool p.sliders) (h ["autocreate_sliders"]),
    fieldOr?_kept hcommands (h ["commands"]), fieldOr?_kept harguments (h ["arguments"])]
  rfl

end Profile

/-! ### Texts -/

theorem CommandRules.plain_toData (r : CommandRules) : r.toData.Plain :=
  .cons (plain_optionData plain_textsData r.allowed) <| .cons (.bool r.casAllowed) <|
    .cons (plain_textsData r.deniedCategories) .nil

theorem ArgumentRules.plain_toData (r : ArgumentRules) : r.toData.Plain :=
  .cons (plain_optionData plain_boundData r.least) <|
    .cons (plain_optionData plain_boundData r.greatest) .nil

namespace Profile

theorem plain_toData (p : Profile) : p.toData.Plain :=
  .cons (.bool p.silentFaults) <|
    .cons (plain_optionData (fun style => .text style.name) p.logStyle) <|
    .cons (.bool p.sliders) <| .cons p.commands.plain_toData <|
    .cons p.arguments.plain_toData .nil

theorem read_jsonText_of_ofData? {p : Profile} {d : Data} (hd : d.Plain)
    (h : ofData? .json d = some p) : Profile.read .json d.jsonText = .ok p := by
  have hdata : Data.ofJson? d.jsonText = some d := Data.ofJson?_jsonText hd
  simp only [Profile.read, hdata, Option.bind_some, h]

/-- **Profiles are read back.** The JSON text of a profile is read as the profile, with all its
fields as well as without any that hold their defaults. -/
theorem read_jsonText {p : Profile} {removed : List String → Bool}
    (h : ∀ path, removed path = true → p.HoldsDefault path) :
    Profile.read .json p.jsonText = .ok p ∧
      Profile.read .json (p.toData.without removed).jsonText = .ok p := by
  constructor
  · have hall : ofData? .json p.toData = some p := by
      rw [← Data.without_nothing p.toData]
      exact ofData?_without fun _ hremoved => absurd hremoved Bool.false_ne_true
    exact read_jsonText_of_ofData? p.plain_toData hall
  · exact read_jsonText_of_ofData? (p.plain_toData.without removed) (ofData?_without h)

/-- A profile with a bound that needs all 64 bits, and a name with characters that are escaped by a
letter, by a number, and not at all. -/
def intricate : Profile :=
  { silentFaults := false
    logStyle := some .production
    sliders := true
    commands := { CommandRules.default with allowed := some ["Point", "\"\x5c\n\x01é😀"] }
    arguments := { least := none, greatest := some 18446744073709551615 } }

/-- The keys of `intricate` whose fields hold their defaults. -/
def intricateDefaults : List (List String) :=
  [["silent_errors"], ["commands", "cas_allowed"], ["commands", "deny_categories"],
    ["arguments", "min"]]

theorem read_jsonText_intricate :
    (∀ path, decide (path ∈ intricateDefaults) = true → intricate.HoldsDefault path) ∧
    Profile.read .json intricate.jsonText = .ok intricate ∧
    Profile.read .json
      (intricate.toData.without fun path => decide (path ∈ intricateDefaults)).jsonText =
        .ok intricate := by
  have hdefaults : ∀ path, decide (path ∈ intricateDefaults) = true →
      intricate.HoldsDefault path := by
    intro path hpath
    have hcases : path = ["silent_errors"] ∨ path = ["commands", "cas_allowed"] ∨
        path = ["commands", "deny_categories"] ∨ path = ["arguments", "min"] := by
      simpa [intricateDefaults] using hpath
    rcases hcases with rfl | rfl | rfl | rfl <;> rfl
  exact ⟨hdefaults, read_jsonText hdefaults⟩

end Profile

end GeoScript
