import Mathlib.Logic.Function.Iterate
import LivePreview.Proofs.Json.Entries
import LivePreview.Proofs.Plan.Sources

namespace LivePreview

/-! The packages of a plan, from the text of the manifest on: which there are, in which order, and
in which range each is asked for. -/

namespace Manifest

variable {files : List SourceFile}

/-- What the text of a manifest lists, in its order and with every repetition. -/
structure Listing where
  main : Option String
  dependencies : List (String × String)
  devDependencies : List (String × String)

namespace Listing

def empty : Listing := ⟨none, [], []⟩

def record : Json.Record Listing where
  name := "PackageManifest"
  fields :=
    .field (.defaulted "main" (.option .string) none)
      (.field (.defaulted "dependencies" (.listing .string) [])
        (.field (.defaulted "devDependencies" (.listing .string) []) .done))
  make | (main, dependencies, devDependencies, ()) => { main, dependencies, devDependencies }
  split listing := (listing.main, listing.dependencies, listing.devDependencies, ())

def content (listing : Listing) : Content where
  main := listing.main
  dependencies := .ofList listing.dependencies
  devDependencies := .ofList listing.devDependencies

theorem parse_content (text : String) :
    Content.record.codec.parse text = (record.codec.parse text).map content := by
  have packages (name : String) :
      (Json.Field.defaulted name (.listing .string) []).Over Table.ofList
        (Json.Field.defaulted name (.table .string) .empty) :=
    ⟨rfl, rfl, Json.mirrors_table .string, rfl, rfl⟩
  have fields : Json.Fields.Over _ _ record.fields Content.record.fields :=
    .field (Json.Field.over_id _) (.field (packages _) (.field (packages _) .done))
  have mirrors : Json.Mirrors content record.read Content.record.read :=
    Json.Record.mirrors rfl fields rfl
  exact Json.Codec.parse_of_mirrors mirrors text

end Listing

/-- What the first manifest among the files lists; without one, nothing. -/
inductive Lists (files : List SourceFile) : Listing → Prop
  | text {file : SourceFile} {listing : Listing}
      (first : FirstWith SourceFile.IsManifest files file)
      (tells : Listing.record.codec.parse file.source = .ok listing) : Lists files listing
  | none (missing : ∀ file ∈ files, ¬ file.IsManifest) : Lists files .empty

theorem exists_lists {manifest : Manifest} (reads : ofFiles files = .ok manifest) :
    ∃ listing, Lists files listing ∧ manifest = ofContent listing.content := by
  rcases SourceFile.manifest_cases files with ⟨file, first⟩ | missing
  · rw [ofFiles_of_first first, parse, Listing.parse_content] at reads
    cases tells : Listing.record.codec.parse file.source with
    | error message =>
        rw [tells] at reads
        cases reads
    | ok listing =>
        rw [tells] at reads
        cases reads
        exact ⟨listing, .text first tells, rfl⟩
  · rw [ofFiles_of_none missing] at reads
    cases reads
    exact ⟨.empty, .none missing, rfl⟩

theorem Content.names_packages (content : Content) :
    content.packages.names =
      (content.dependencies.names ++ content.devDependencies.names).eraseDups :=
  Table.names_foldl_putIfAbsent content.devDependencies.entries content.dependencies

theorem Content.get?_packages (content : Content) (name : String) :
    content.packages.get? name =
      (content.dependencies.get? name).or (content.devDependencies.get? name) :=
  Table.get?_foldl_putIfAbsent content.devDependencies.entries content.dependencies name

end Manifest

namespace Preset

def addedNames : Preset → List String
  | .react => ["react-refresh", "core-js"]
  | .solid => ["solid-refresh", "core-js"]
  | .vanilla => ["core-js"]

/-- The range of a package that the project does not ask for. -/
def defaultRange (preset : Preset) (name : String) : Option String :=
  match preset with
  | .react => if name = "react-refresh" then some "^0.11.0" else none
  | .solid => if name = "solid-refresh" then some "^0.4.1" else none
  | .vanilla => none

theorem names_augment (preset : Preset) (dependencies : Dependencies) :
    (preset.augment dependencies).names =
      (dependencies.names ++ preset.addedNames).eraseDups := by
  have added (name range : String) :
      ((dependencies.putIfAbsent name range).put "core-js" coreJsVersion).names =
        (dependencies.names ++ [name, "core-js"]).eraseDups := by
    rw [Table.names_put_settled, Table.names_putIfAbsent, Entries.eraseDups_append_left,
      List.append_assoc]
    rfl
  cases preset with
  | react => exact added _ _
  | solid => exact added _ _
  | vanilla => exact Table.names_put_settled dependencies _ _

theorem get?_augment (preset : Preset) (dependencies : Dependencies) (name : String) :
    (preset.augment dependencies).get? name =
      if name = "core-js" then some "3.22.7"
      else (dependencies.get? name).or (preset.defaultRange name) := by
  simp only [augment, Table.get?_put, eq_comm (a := "core-js")]
  split
  next => rfl
  next =>
      cases preset with
      | react | solid =>
          simp only [refreshPackage, Table.get?_putIfAbsent, defaultRange, eq_comm (b := name)]
      | vanilla => exact (Option.or_none ..).symm

theorem augment_augment (preset : Preset) (dependencies : Dependencies) :
    preset.augment (preset.augment dependencies) = preset.augment dependencies := by
  have pinned : (preset.augment dependencies).get? "core-js" = some coreJsVersion :=
    (get?_augment preset dependencies _).trans (if_pos rfl)
  have there : ∀ name ∈ preset.addedNames,
      (preset.augment dependencies).contains name = true := by
    intro name member
    rw [Table.contains_iff, names_augment, List.mem_eraseDups]
    exact List.mem_append_right _ member
  generalize preset.augment dependencies = once at pinned there
  cases preset with
  | react | solid =>
      simp only [augment, refreshPackage]
      rw [Table.putIfAbsent_of_contains (there _ (by simp [addedNames])),
        Table.put_of_get? pinned]
  | vanilla => exact Table.put_of_get? pinned

theorem names_prefix_augment (preset : Preset) (dependencies : Dependencies) :
    dependencies.names <+: (preset.augment dependencies).names := by
  have settled : dependencies.names.eraseDups = dependencies.names :=
    Entries.eraseDups_of_nodup dependencies.distinct
  rw [names_augment, List.eraseDups_append, settled]
  exact List.prefix_append _ _

/-- What adding its packages leaves as it is. -/
structure Augments (preset : Preset) (dependencies : Dependencies) : Prop where
  keeps : dependencies.names <+: (preset.augment dependencies).names
  ranges : ∀ name ∈ dependencies.names, name ≠ "core-js" →
    (preset.augment dependencies).get? name = dependencies.get? name
  again : ∀ count, preset.augment^[count + 1] dependencies = preset.augment dependencies

theorem augments (preset : Preset) (dependencies : Dependencies) :
    preset.Augments dependencies where
  keeps := names_prefix_augment preset dependencies
  ranges := by
    intro name member other
    obtain ⟨range, listed⟩ := Option.isSome_iff_exists.mp (Table.contains_iff.mpr member)
    rw [get?_augment, if_neg other, listed, Option.some_or]
  again := by
    intro count
    induction count generalizing dependencies with
    | zero => rfl
    | succ count ih =>
        exact (ih (preset.augment dependencies)).trans (augment_augment preset dependencies)

/-- The packages that a preset makes of what a manifest lists. -/
structure Settles (preset : Preset) (listing : Manifest.Listing) (settled : Dependencies) :
    Prop where
  distinct : settled.names.Nodup
  order : settled.names =
    (Entries.names listing.dependencies ++ Entries.names listing.devDependencies ++
      preset.addedNames).eraseDups
  ranges : ∀ name, settled.get? name =
    if name = "core-js" then some "3.22.7"
    else
      ((Entries.find? listing.dependencies.reverse name).or
        (Entries.find? listing.devDependencies.reverse name)).or (preset.defaultRange name)

theorem settles_augment (preset : Preset) (listing : Manifest.Listing) :
    preset.Settles listing (preset.augment listing.content.packages) where
  distinct := (preset.augment listing.content.packages).distinct
  order := by
    have both (first second : List String) :
        (first.eraseDups ++ second.eraseDups).eraseDups = (first ++ second).eraseDups :=
      (Entries.eraseDups_append_left _ _).trans (Entries.eraseDups_append_right _ _)
    rw [names_augment, Manifest.Content.names_packages]
    simp only [Manifest.Listing.content, Table.names_ofList, both]
    exact Entries.eraseDups_append_left _ _
  ranges := by
    intro name
    rw [get?_augment, Manifest.Content.get?_packages]
    simp only [Manifest.Listing.content, Table.get?_ofList]

end Preset

/-- The packages of a plan are those of its manifest, settled by its preset.  A preset leaves any
packages in their places and in their ranges, but for the one it pins, however often it settles
them. -/
theorem Plan.make_settles {ready : ReadyPreset} {files : List SourceFile} {plan : Plan}
    (made : make ready files = .ok plan) :
    (∃ listing, Manifest.Lists files listing ∧
      ready.preset.Settles listing plan.dependencies) ∧
    ∀ (preset : Preset) (dependencies : Dependencies), preset.Augments dependencies := by
  refine ⟨?_, Preset.augments⟩
  obtain ⟨manifest, resolved, reads, -, rfl⟩ := exists_of_make made
  obtain ⟨listing, lists, rfl⟩ := Manifest.exists_lists reads
  exact ⟨listing, lists, Preset.settles_augment ready.preset listing⟩

/-- A manifest that lists its development packages first, one package twice, and one in either
section. -/
theorem Plan.make_settles_repeated :
    let manifest : SourceFile := ⟨"/package.json",
      "\x7b\"devDependencies\":\x7b\"core-js\":\"2\",\"b\":\"1\",\"a\":\"9\"\x7d," ++
        "\"dependencies\":\x7b\"a\":\"1\",\"a\":\"2\"\x7d\x7d"⟩
    let ready : ReadyPreset := ⟨.react, .empty⟩
    ∃ plan, make ready [manifest] = .ok plan ∧
      plan.dependencies.entries =
        [("a", "2"), ("core-js", "3.22.7"), ("b", "1"), ("react-refresh", "^0.11.0")] ∧
      (∃ listing, Manifest.Lists [manifest] listing ∧
        ready.preset.Settles listing plan.dependencies) ∧
      ∀ (preset : Preset) (dependencies : Dependencies), preset.Augments dependencies :=
  ⟨_, rfl, rfl, make_settles rfl⟩

end LivePreview
