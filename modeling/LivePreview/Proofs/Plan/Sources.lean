import LivePreview.Plan

namespace LivePreview

/-! What planning looks at: the first manifest among the files, and the chains of all the others
that are to be built. -/

/-- The first of a list that something holds of. -/
def FirstWith (holds : α → Prop) (list : List α) (item : α) : Prop :=
  ∃ before after, list = before ++ item :: after ∧ (∀ other ∈ before, ¬ holds other) ∧ holds item

theorem firstWith_of_find? {holds : α → Bool} {list : List α} {item : α}
    (found : list.find? holds = some item) : FirstWith (holds · = true) list item := by
  obtain ⟨is, before, after, split, earlier⟩ := List.find?_eq_some_iff_append.mp found
  exact ⟨before, after, split, fun other member => by simpa using earlier other member, is⟩

theorem find?_of_firstWith {holds : α → Prop} {test : α → Bool}
    (decides : ∀ item, test item = true ↔ holds item) {list : List α} {item : α}
    (first : FirstWith holds list item) : list.find? test = some item := by
  obtain ⟨before, after, split, earlier, is⟩ := first
  refine List.find?_eq_some_iff_append.mpr ⟨(decides item).mpr is, before, after, split, ?_⟩
  intro other member
  rw [Bool.not_eq_true', ← Bool.not_eq_true, decides]
  exact earlier other member

theorem FirstWith.filter {keep : α → Bool} {holds : α → Prop} {list : List α} {item : α}
    (first : FirstWith (fun item => keep item = true ∧ holds item) list item) :
    FirstWith holds (list.filter keep) item := by
  obtain ⟨before, after, rfl, earlier, kept, is⟩ := first
  refine ⟨before.filter keep, after.filter keep, ?_, ?_, is⟩
  · rw [List.filter_append, List.filter_cons_of_pos kept]
  · intro other member
    obtain ⟨among, kept⟩ := List.mem_filter.mp member
    exact fun holds => earlier other among ⟨kept, holds⟩

namespace SourceFile

variable {file : SourceFile} {files : List SourceFile}

def IsManifest (file : SourceFile) : Prop :=
  file.path = "/package.json"

/-- A file that is built; the manifest and the page are not. -/
def IsSource (file : SourceFile) : Prop :=
  file.path ∉ ["/package.json", "/index.html", "/public/index.html"]

instance (file : SourceFile) : Decidable file.IsSource :=
  inferInstanceAs (Decidable (¬ _))

theorem not_isMetadata_iff : (!file.isMetadata) = true ↔ file.IsSource := by
  simp [isMetadata, manifestPath, pagePaths, IsSource]

theorem isManifest_iff : (file.path == manifestPath) = true ↔ file.IsManifest :=
  beq_iff_eq

theorem find?_of_first (first : FirstWith IsManifest files file) :
    find? files manifestPath = some file :=
  find?_of_firstWith (fun _ => isManifest_iff) first

theorem find?_of_none (none : ∀ file ∈ files, ¬ file.IsManifest) :
    find? files manifestPath = .none :=
  List.find?_eq_none.mpr fun file member is => none file member (isManifest_iff.mp is)

theorem manifest_cases (files : List SourceFile) :
    (∃ file, FirstWith IsManifest files file) ∨ ∀ file ∈ files, ¬ file.IsManifest := by
  cases found : find? files manifestPath with
  | some file =>
      obtain ⟨before, after, split, earlier, is⟩ := firstWith_of_find? found
      exact .inl ⟨file, before, after, split,
        fun other member other_is => earlier other member (isManifest_iff.mpr other_is),
        isManifest_iff.mp is⟩
  | none =>
      refine .inr fun file member is => ?_
      exact List.find?_eq_none.mp found file member (isManifest_iff.mpr is)

end SourceFile

namespace Manifest

variable {files : List SourceFile} {file : SourceFile}

theorem ofFiles_of_first (first : FirstWith SourceFile.IsManifest files file) :
    ofFiles files = parse file.source := by
  rw [ofFiles, SourceFile.find?_of_first first]

theorem ofFiles_of_none (none : ∀ file ∈ files, ¬ file.IsManifest) : ofFiles files = .ok empty := by
  rw [ofFiles, SourceFile.find?_of_none none]

theorem parse_of_ok {content : Content} {text : String}
    (tells : Content.record.codec.parse text = .ok content) :
    parse text = .ok (ofContent content) := by
  rw [parse, tells]

theorem parse_of_error {message text : String}
    (fails : Content.record.codec.parse text = .error message) :
    parse text = .error (.invalidManifest message) := by
  rw [parse, fails]

/-- The first manifest, if there is one, can be read. -/
def Readable (files : List SourceFile) : Prop :=
  ∀ file, FirstWith SourceFile.IsManifest files file →
    ∃ content, Content.record.codec.parse file.source = .ok content

theorem Readable.exists_ofFiles (readable : Readable files) :
    ∃ manifest, ofFiles files = .ok manifest := by
  rcases SourceFile.manifest_cases files with ⟨file, first⟩ | none
  · obtain ⟨content, tells⟩ := readable file first
    exact ⟨_, (ofFiles_of_first first).trans (parse_of_ok tells)⟩
  · exact ⟨_, ofFiles_of_none none⟩

end Manifest

namespace ReadyPreset

variable {ready : ReadyPreset} {files : List SourceFile}

theorem resolve_of_ok {file : SourceFile} {chain : List Binding}
    (chosen : ready.chainFor file = .ok chain) : ready.resolve file = .ok ⟨file, chain⟩ := by
  rw [resolve, chosen]
  rfl

theorem resolve_of_error {file : SourceFile} {failure : Failure}
    (fails : ready.chainFor file = .error failure) : ready.resolve file = .error failure := by
  rw [resolve, fails]
  rfl

theorem resolveAll_ok {resolved : List ResolvedFile}
    (resolves : ready.resolveAll files = .ok resolved) :
    resolved.map ResolvedFile.file = files ∧
      ∀ one ∈ resolved, ready.chainFor one.file = .ok one.chain := by
  induction files generalizing resolved with
  | nil =>
      cases resolves
      simp
  | cons file rest ih =>
      cases chosen : ready.chainFor file with
      | error failure =>
          rw [resolveAll, resolve_of_error chosen] at resolves
          cases resolves
      | ok chain =>
          rw [resolveAll, resolve_of_ok chosen] at resolves
          cases later : ready.resolveAll rest with
          | error failure =>
              rw [later] at resolves
              cases resolves
          | ok others =>
              rw [later] at resolves
              cases resolves
              obtain ⟨files, chains⟩ := ih later
              exact ⟨congrArg (file :: ·) files, List.forall_mem_cons.mpr ⟨chosen, chains⟩⟩

theorem exists_resolveAll (chained : ∀ file ∈ files, ∃ chain, ready.chainFor file = .ok chain) :
    ∃ resolved, ready.resolveAll files = .ok resolved := by
  induction files with
  | nil => exact ⟨[], rfl⟩
  | cons file rest ih =>
      obtain ⟨⟨chain, chosen⟩, chained⟩ := List.forall_mem_cons.mp chained
      obtain ⟨others, later⟩ := ih chained
      refine ⟨⟨file, chain⟩ :: others, ?_⟩
      rw [resolveAll, resolve_of_ok chosen, later]
      rfl

theorem resolveAll_of_first {file : SourceFile} {failure : Failure}
    (first : FirstWith (fun file => ∃ failure, ready.chainFor file = .error failure) files file)
    (fails : ready.chainFor file = .error failure) :
    ready.resolveAll files = .error failure := by
  obtain ⟨before, after, rfl, chained, -⟩ := first
  induction before with
  | nil => rw [List.nil_append, resolveAll, resolve_of_error fails]
  | cons other before ih =>
      obtain ⟨other_chained, chained⟩ := List.forall_mem_cons.mp chained
      cases chosen : ready.chainFor other with
      | error failure => exact (other_chained ⟨failure, chosen⟩).elim
      | ok chain =>
          rw [List.cons_append, resolveAll, resolve_of_ok chosen, ih chained]
          rfl

end ReadyPreset

namespace Plan

variable {ready : ReadyPreset} {files : List SourceFile}

theorem sources_eq (files : List SourceFile) :
    sources files = files.filter fun file => decide file.IsSource :=
  List.filter_congr fun _ _ => Bool.eq_iff_iff.mpr
    (SourceFile.not_isMetadata_iff.trans decide_eq_true_iff.symm)

def assemble (ready : ReadyPreset) (manifest : Manifest) (resolved : List ResolvedFile) : Plan where
  preset := ready.preset
  entry := manifest.entry
  files := resolved
  dependencies := ready.preset.augment manifest.dependencies
  transformers := ready.transformers

theorem make_of_unreadable {failure : Failure} (fails : Manifest.ofFiles files = .error failure) :
    make ready files = .error failure := by
  rw [make, fails]
  rfl

theorem make_of_readable {manifest : Manifest} (reads : Manifest.ofFiles files = .ok manifest) :
    make ready files = (ready.resolveAll (sources files)).map (assemble ready manifest) := by
  rw [make, reads]
  rfl

theorem exists_of_make {plan : Plan} (made : make ready files = .ok plan) :
    ∃ manifest resolved, Manifest.ofFiles files = .ok manifest ∧
      ready.resolveAll (sources files) = .ok resolved ∧
      plan = assemble ready manifest resolved := by
  cases reads : Manifest.ofFiles files with
  | error failure =>
      rw [make_of_unreadable reads] at made
      cases made
  | ok manifest =>
      rw [make_of_readable reads] at made
      cases resolves : ready.resolveAll (sources files) with
      | error failure =>
          rw [resolves] at made
          cases made
      | ok resolved =>
          rw [resolves] at made
          cases made
          exact ⟨manifest, resolved, rfl, rfl, rfl⟩

end Plan

end LivePreview
