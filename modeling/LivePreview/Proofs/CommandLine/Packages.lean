import LivePreview.Proofs.CommandLine.Chains
import LivePreview.Proofs.CommandLine.Options
import LivePreview.Proofs.Plan.Sources

namespace LivePreview.CommandLine

open Json

/-! Showing packages.  Each is given by its name and its range with a `=` between; what is shown is
what a preset makes of all of them. -/

/-- The argument is the name of a package and its range.  Only the range may hold a `=`. -/
structure Cut (argument : String) (package : String × String) : Prop where
  named : package.1 ≠ ""
  plain : '=' ∉ package.1.toList
  whole : argument = package.1 ++ "=" ++ package.2

/-- There is a `=`, and something in front of the first. -/
def Named (argument : String) : Prop :=
  ∃ before after, argument.toList = before ++ '=' :: after ∧ '=' ∉ before ∧ before ≠ []

def objection (argument : String) : String :=
  if '=' ∈ argument.toList then "missing package name in '" ++ argument ++ "'"
  else "expected NAME=RANGE, got '" ++ argument ++ "'"

theorem Cut.dependency {argument : String} {package : String × String}
    (cut : Cut argument package) : dependency argument = .ok package := by
  obtain ⟨name, range⟩ := package
  obtain ⟨named, plain, rfl⟩ := cut
  obtain ⟨c, rest, split⟩ := List.exists_cons_of_ne_nil (mt String.toList_eq_nil_iff.mp named)
  have whole : String.ofList (c :: rest) = name := by rw [← split, String.ofList_toList]
  rw [CommandLine.dependency, toList_equals, splitAtEquals_append plain, split]
  simp only [whole, String.ofList_toList]

theorem named_iff {argument : String} : Named argument ↔ ∃ package, Cut argument package := by
  constructor
  · rintro ⟨before, after, chars, plain, some⟩
    refine ⟨(String.ofList before, String.ofList after), ?_, ?_, ?_⟩
    · exact fun empty => some (by simpa using empty)
    · rwa [String.toList_ofList]
    · rw [← String.toList_inj, chars, toList_equals, String.toList_ofList, String.toList_ofList]
  · rintro ⟨⟨name, range⟩, named, plain, rfl⟩
    exact ⟨name.toList, range.toList, toList_equals name range, plain,
      mt String.toList_eq_nil_iff.mp named⟩

theorem dependency_of_not_named {argument : String} (unnamed : ¬ Named argument) :
    dependency argument = .error (objection argument) := by
  rw [dependency, objection]
  by_cases marked : '=' ∈ argument.toList
  · obtain ⟨before, after, chars, plain⟩ := List.eq_append_cons_of_mem marked
    have nothing : before = [] := by
      by_contra some
      exact unnamed ⟨before, after, chars, plain, some⟩
    rw [if_pos marked, chars, nothing]
    rfl
  · rw [if_neg marked, splitAtEquals_of_not_mem marked]

theorem dependency_eq_ok_iff {argument : String} {package : String × String} :
    dependency argument = .ok package ↔ Cut argument package := by
  refine ⟨fun read => ?_, Cut.dependency⟩
  by_cases named : Named argument
  · obtain ⟨other, cut⟩ := named_iff.mp named
    have same : Except.ok other = .ok package := cut.dependency.symm.trans read
    cases same
    exact cut
  · rw [dependency_of_not_named named] at read
    cases read

def dependencyOption : OptionSpec :=
  ⟨"dep", .valued "DEPS" true fun value => complaint (dependency value)⟩

def listing : CommandSpec where
  name := "deps"
  options := [templateOption, dependencyOption, jsonOption]
  operands := false

theorem offers_templateOption : listing.Offers templateOption :=
  ⟨rfl, by decide, by decide, by decide⟩

theorem offers_dependencyOption : listing.Offers dependencyOption :=
  ⟨rfl, by decide, by decide, by decide⟩

def valuesOf (name : String) (options : List (OptionSpec × String)) : List String :=
  (options.filter fun own => own.1.name == name).map Prod.snd

theorem values_withOptions (options : List (OptionSpec × String)) (name : String) :
    (Given.nothing.withOptions options).values name = valuesOf name options := by
  simp [Given.values, Given.withOptions, Given.nothing, valuesOf, List.filter_map,
    Function.comp_def]

theorem has_withOptions (options : List (OptionSpec × String)) (name : String) :
    (Given.nothing.withOptions options).has name = options.any fun own => own.1.name == name := by
  simp [Given.has, Given.withOptions, Given.nothing, List.any_map, Function.comp_def]

/-- The arguments ask for the packages of a template, given these, in lines or as an object.  The
options may come in any order and in any spelling. -/
inductive Asks : Bool → String → List String → List String → Prop
  | intro (before : Bool) {options : List (OptionSpec × String)} {own : List String}
      (spells : Spells listing options own) (once : GivenOnce options) :
      Asks (before || options.any fun own => own.1.name == "json")
        ((valuesOf "template" options).head?.getD "react") (valuesOf "dep" options)
        ((if before then ["--json"] else []) ++ "deps" :: own)

theorem read_asks (before : Bool) (own : List String) :
    program.read ((if before then ["--json"] else []) ++ "deps" :: own) =
      (listing.read own).map fun given => (beforehand before, listing, given) := by
  rw [read_beforehand]
  rfl

/-- What is said to an argument that is no package. -/
def refusal? (argument : String) : Option Stop :=
  match dependency argument with
  | .ok _ => none
  | .error reason => some (.error (.invalidValue argument "--dep <DEPS>" reason))

theorem refusal?_eq (argument : String) :
    dependencyOption.refusal? argument = refusal? argument := by
  simp only [OptionSpec.refusal?, OptionSpec.check, dependencyOption, refusal?]
  cases dependency argument <;> rfl

theorem findSome?_refusal {options : List (OptionSpec × String)} {own : List String}
    (spells : Spells listing options own) :
    options.findSome? (fun own => own.1.refusal? own.2) =
      (valuesOf "dep" options).findSome? refusal? := by
  induction spells with
  | nil => rfl
  | @cons option value _ _ options own _ ih =>
      have among : option ∈ listing.options := List.mem_of_find?_eq_some own.offers.found
      rw [List.findSome?_cons, ih]
      simp only [listing, List.mem_cons, List.not_mem_nil, or_false] at among
      rcases among with rfl | rfl | rfl
      · rfl
      · have first : valuesOf "dep" ((dependencyOption, value) :: options) =
            value :: valuesOf "dep" options := rfl
        rw [first, List.findSome?_cons, refusal?_eq]
      · rfl

theorem parse_asks {json : Bool} {template : String} {given arguments : List String}
    (asks : Asks json template given arguments) :
    parse arguments =
      match given.findSome? refusal? with
      | some stop => .error stop
      | none =>
        .ok ⟨json, .dependencies template
          (given.filterMap fun argument => (dependency argument).toOption)⟩ := by
  obtain @⟨before, options, own, spells, once⟩ := asks
  have reads := CommandSpec.read_spelled rfl spells once
  rw [findSome?_refusal spells] at reads
  rw [parse, read_asks, reads]
  cases (valuesOf "dep" options).findSome? refusal? with
  | some stop => rfl
  | none =>
      have whole : (beforehand before).has "json" = before := by cases before <;> rfl
      have shown : CommandLine.template (Given.nothing.withOptions options) =
          (valuesOf "template" options).head?.getD "react" := by
        rw [CommandLine.template, Given.value?, values_withOptions]
        rfl
      simp only [Except.map, bind, Except.bind, whole, shown, has_withOptions, values_withOptions]
      rfl

def optionsFor (template : String) (given : List String) : List (OptionSpec × String) :=
  (templateOption, template) :: given.map fun argument => (dependencyOption, argument)

theorem exists_spells_optionsFor (template : String) (given : List String) :
    ∃ own, Spells listing (optionsFor template given) own := by
  have packages : ∃ own,
      Spells listing (given.map fun argument => (dependencyOption, argument)) own := by
    induction given with
    | nil => exact ⟨[], .nil⟩
    | cons argument rest ih =>
        obtain ⟨own, spells⟩ := ih
        exact ⟨_, .cons (.joined offers_dependencyOption rfl argument) spells⟩
  obtain ⟨own, spells⟩ := packages
  exact ⟨_, .cons (.joined offers_templateOption rfl template) spells⟩

theorem givenOnce_optionsFor (template : String) (given : List String) :
    GivenOnce (optionsFor template given) := by
  refine List.pairwise_cons.mpr ⟨?_, List.pairwise_map.mpr (List.pairwise_of_forall ?_)⟩
  · rintro _ member
    obtain ⟨argument, _, rfl⟩ := List.mem_map.mp member
    exact .inl rfl
  · exact fun _ _ => .inl rfl

theorem exists_asks (json : Bool) (template : String) (given : List String) :
    ∃ arguments, Asks json template given arguments := by
  obtain ⟨own, spells⟩ := exists_spells_optionsFor template given
  have asks := Asks.intro json spells (givenOnce_optionsFor template given)
  have unflagged : ((optionsFor template given).any fun own => own.1.name == "json") = false := by
    simp [optionsFor, templateOption, dependencyOption]
  have templates : valuesOf "template" (optionsFor template given) = [template] := by
    simp [valuesOf, optionsFor, templateOption, dependencyOption]
  have packages : valuesOf "dep" (optionsFor template given) = given := by
    simp [valuesOf, optionsFor, templateOption, dependencyOption, List.filter_map,
      Function.comp_def]
  rw [unflagged, Bool.or_false, templates, packages] at asks
  exact ⟨_, asks⟩

theorem parse_dependenciesJson (settled : Dependencies) :
    Codec.string.table.parse (dependenciesJson settled).compact = .ok settled := by
  have regains : Codec.string.table.Regains settled :=
    Codec.regains_table fun entry _ => Codec.reads_string entry.2
  refine Codec.parse_print regains (plain_object ?_)
  rw [List.forall_mem_map]
  exact fun entry _ => plain_string _ entry.2

theorem filterMap_of_cut {given : List String} {packages : List (String × String)}
    (cuts : List.Forall₂ Cut given packages) :
    given.filterMap (fun argument => (dependency argument).toOption) = packages := by
  induction cuts with
  | nil => rfl
  | cons cut _ ih =>
      rw [List.filterMap_cons, cut.dependency, ih]
      rfl

theorem forall_named_iff {given : List String} :
    (∀ argument ∈ given, Named argument) ↔ ∃ packages, List.Forall₂ Cut given packages := by
  induction given with
  | nil => simp
  | cons argument rest ih =>
      rw [List.forall_mem_cons, ih, named_iff]
      constructor
      · rintro ⟨⟨package, cut⟩, packages, cuts⟩
        exact ⟨package :: packages, .cons cut cuts⟩
      · rintro ⟨_, cuts⟩
        cases cuts with
        | cons cut cuts => exact ⟨⟨_, cut⟩, _, cuts⟩

theorem refusal?_of_named {argument : String} (named : Named argument) :
    refusal? argument = none := by
  obtain ⟨package, cut⟩ := named_iff.mp named
  rw [refusal?, cut.dependency]

theorem refusal?_of_not_named {argument : String} (unnamed : ¬ Named argument) :
    refusal? argument =
      some (.error (.invalidValue argument "--dep <DEPS>" (objection argument))) := by
  rw [refusal?, dependency_of_not_named unnamed]

theorem findSome?_of_named {given : List String} (named : ∀ argument ∈ given, Named argument) :
    given.findSome? refusal? = none :=
  List.findSome?_eq_none_iff.mpr fun argument member => refusal?_of_named (named argument member)

theorem findSome?_of_first {given : List String} {argument : String}
    (first : FirstWith (fun argument => ¬ Named argument) given argument) :
    given.findSome? refusal? =
      some (.error (.invalidValue argument "--dep <DEPS>" (objection argument))) := by
  obtain ⟨before, after, split, earlier, unnamed⟩ := first
  refine List.findSome?_eq_some_iff.mpr
    ⟨before, argument, after, split, refusal?_of_not_named unnamed, ?_⟩
  exact fun other member => refusal?_of_named (not_not.mp (earlier other member))

theorem parse_of_cut {json : Bool} {template : String} {given arguments : List String}
    {packages : List (String × String)} (asks : Asks json template given arguments)
    (cuts : List.Forall₂ Cut given packages) :
    parse arguments = .ok ⟨json, .dependencies template packages⟩ := by
  rw [parse_asks asks, findSome?_of_named (forall_named_iff.mpr ⟨packages, cuts⟩),
    filterMap_of_cut cuts]

theorem run_of_cut {json : Bool} {template : String} {given arguments : List String}
    {packages : List (String × String)} (asks : Asks json template given arguments)
    (cuts : List.Forall₂ Cut given packages) (readSettings : String → SettingsFile)
    (input : String) :
    run arguments readSettings input = dependencies template packages json := by
  simp only [run, parse_of_cut asks cuts]

theorem stopped_invalid (argument reason : String) :
    stopped (.error (.invalidValue argument "--dep <DEPS>" reason)) =
      ⟨2, "", "error: invalid value '" ++ argument ++ "' for '--dep <DEPS>': " ++ reason ++
        "\n"⟩ := by
  have label : "' for '--dep <DEPS>': " = "' for '" ++ "--dep <DEPS>" ++ "': " := by decide
  rw [label, ← String.append_assoc, ← String.append_assoc]
  rfl

theorem run_of_first {json : Bool} {template argument : String} {given arguments : List String}
    (asks : Asks json template given arguments)
    (first : FirstWith (fun argument => ¬ Named argument) given argument)
    (readSettings : String → SettingsFile) (input : String) :
    run arguments readSettings input =
      ⟨2, "", "error: invalid value '" ++ argument ++ "' for '--dep <DEPS>': " ++
        objection argument ++ "\n"⟩ := by
  have parsed := parse_asks asks
  rw [findSome?_of_first first] at parsed
  rw [run, parsed]
  exact stopped_invalid argument (objection argument)

/-- What showing packages comes to, for any template and whatever is given. -/
structure Merges (template : String) (given : List String) : Prop where
  asked : ∀ json, ∃ arguments, Asks json template given arguments
  accepted : ∀ json arguments, Asks json template given arguments →
    ((∃ invocation, parse arguments = .ok invocation) ↔ ∀ argument ∈ given, Named argument)
  /-- The first that is refused is blamed in the first line on the error stream, and nothing is
  shown. -/
  refused : ∀ json arguments argument readSettings input, Asks json template given arguments →
    FirstWith (fun argument => ¬ Named argument) given argument →
      run arguments readSettings input =
        ⟨2, "", "error: invalid value '" ++ argument ++ "' for '--dep <DEPS>': " ++
          objection argument ++ "\n"⟩
  /-- A package is regained from its name and its range, whatever the range holds. -/
  cut : ∀ argument package, dependency argument = .ok package ↔ Cut argument package
  read : ∀ json arguments packages, Asks json template given arguments →
    List.Forall₂ Cut given packages →
      parse arguments = .ok ⟨json, .dependencies template packages⟩
  /-- Accepted packages are shown in lines and as an object, which reads back as they are. -/
  shown : (∀ argument ∈ given, Named argument) → ∃ packages settled,
    List.Forall₂ Cut given packages ∧
    settled = (Registry.builtin.find template).augment (.ofList packages) ∧
    (∀ arguments readSettings input, Asks false template given arguments →
      run arguments readSettings input =
        ⟨0, lines (settled.entries.map fun entry => entry.1 ++ "@" ++ entry.2), ""⟩) ∧
    (∀ arguments readSettings input, Asks true template given arguments →
      run arguments readSettings input =
        ⟨0, lines [(dependenciesJson settled).compact], ""⟩) ∧
    Codec.string.table.parse (dependenciesJson settled).compact = .ok settled
  merged : ∀ packages, List.Forall₂ Cut given packages →
    (Table.ofList packages).names = (packages.map Prod.fst).eraseDups ∧
    ∀ earlier name range later, packages = earlier ++ (name, range) :: later →
      name ∉ later.map Prod.fst → (Table.ofList packages).get? name = some range

theorem dependencies_merge (template : String) (given : List String) : Merges template given where
  asked json := exists_asks json template given
  accepted := by
    intro json arguments asks
    constructor
    · rintro ⟨invocation, parsed⟩ argument member
      rw [parse_asks asks] at parsed
      cases refused : given.findSome? refusal? with
      | some stop =>
          rw [refused] at parsed
          cases parsed
      | none =>
          by_contra unnamed
          have accepts := List.findSome?_eq_none_iff.mp refused argument member
          rw [refusal?_of_not_named unnamed] at accepts
          cases accepts
    · intro named
      obtain ⟨packages, cuts⟩ := forall_named_iff.mp named
      exact ⟨_, parse_of_cut asks cuts⟩
  refused _ _ _ readSettings input asks first := run_of_first asks first readSettings input
  cut _ _ := dependency_eq_ok_iff
  read _ _ _ := parse_of_cut
  shown := by
    intro named
    obtain ⟨packages, cuts⟩ := forall_named_iff.mp named
    refine ⟨packages, _, cuts, rfl, ?_, ?_, parse_dependenciesJson _⟩
    · intro arguments readSettings input asks
      rw [run_of_cut asks cuts]
      rfl
    · intro arguments readSettings input asks
      rw [run_of_cut asks cuts]
      rfl
  merged packages _ := ⟨Table.names_ofList packages, fun _ _ _ _ => Table.get?_ofList_of_last⟩

end LivePreview.CommandLine
