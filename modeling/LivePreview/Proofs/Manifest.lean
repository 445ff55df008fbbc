import LivePreview.Proofs.Plan.Sources

namespace LivePreview

namespace Manifest

/-! The entry of a project.  Of all the ways to spell it one is its normal form: the path from the
root. -/

def dots : Nat → String
  | 0 => ""
  | count + 1 => "./" ++ dots count

def Rooted (path : String) : Prop :=
  ['/'] <+: path.toList

instance (path : String) : Decidable (Rooted path) :=
  inferInstanceAs (Decidable (_ <+: _))

/-- What is left of a path without any `./` in front. -/
structure Bare (path bare : String) : Prop where
  dotted : ∃ count, path = dots count ++ bare
  undotted : ¬ ['.', '/'] <+: bare.toList

theorem toList_dots_succ (count : Nat) (path : String) :
    (dots (count + 1) ++ path).toList = '.' :: '/' :: (dots count ++ path).toList := by
  rw [dots, String.append_assoc, String.toList_append]
  rfl

theorem dropDots_dotted (count : Nat) (path : String) :
    dropDots (dots count ++ path).toList = dropDots path.toList := by
  induction count with
  | zero => rw [dots, String.empty_append]
  | succ count ih => rw [toList_dots_succ, dropDots_dots, ih]

theorem dropDots_undotted {path : List Char} (undotted : ¬ ['.', '/'] <+: path) :
    dropDots path = path := by
  unfold dropDots
  split
  next rest => exact (undotted (List.prefix_append ['.', '/'] rest)).elim
  next => rfl

theorem exists_bare (path : String) : ∃ bare, Bare path bare := by
  induction chars : path.toList using dropDots.induct generalizing path with
  | case1 rest ih =>
      obtain ⟨bare, ⟨count, dotted⟩, undotted⟩ := ih (String.ofList rest) String.toList_ofList
      refine ⟨bare, ⟨count + 1, ?_⟩, undotted⟩
      rw [← String.toList_inj, toList_dots_succ, ← dotted, String.toList_ofList, chars]
  | case2 _ other =>
      refine ⟨path, ⟨0, (String.empty_append ..).symm⟩, ?_⟩
      rintro ⟨rest, split⟩
      exact other rest (chars.symm.trans split.symm)

theorem Bare.eq_dropDots {path bare : String} (is : Bare path bare) :
    dropDots path.toList = bare.toList := by
  obtain ⟨⟨count, rfl⟩, undotted⟩ := is
  rw [dropDots_dotted, dropDots_undotted undotted]

theorem Bare.unique {path bare other : String} (is : Bare path bare) (also : Bare path other) :
    other = bare :=
  String.toList_inj.mp (also.eq_dropDots.symm.trans is.eq_dropDots)

theorem Rooted.bare {path : String} (root : Rooted path) : Bare path path where
  dotted := ⟨0, (String.empty_append ..).symm⟩
  undotted := by
    obtain ⟨rest, split⟩ := root
    rw [← split]
    rintro ⟨other, split⟩
    cases split

theorem normalizeEntry_of_bare {main bare : String} (is : Bare main bare) :
    normalizeEntry main = if Rooted bare then bare else "/" ++ bare := by
  rw [normalizeEntry, is.eq_dropDots]
  unfold Manifest.rooted
  split
  next rest split =>
      rw [if_pos ⟨rest, split.symm⟩, ← split, String.ofList_toList]
  next other =>
      have unrooted : ¬ Rooted bare := fun ⟨rest, split⟩ => other rest split.symm
      rw [if_neg unrooted, ← String.toList_inj, String.toList_ofList, String.toList_append]
      rfl

theorem rooted_slash_append (path : String) : Rooted ("/" ++ path) :=
  ⟨path.toList, by rw [String.toList_append]; rfl⟩

theorem normalizeEntry_of_rooted {main : String} (root : Rooted main) :
    normalizeEntry main = main := by
  rw [normalizeEntry_of_bare root.bare, if_pos root]

theorem rooted_normalizeEntry (main : String) : Rooted (normalizeEntry main) := by
  obtain ⟨bare, is⟩ := exists_bare main
  rw [normalizeEntry_of_bare is]
  split
  next root => exact root
  next => exact rooted_slash_append bare

/-- One of the two is the other with a slash in front, which that one lacks; or they are equal. -/
def AlikeButSlash (path other : String) : Prop :=
  path = other ∨ (¬ Rooted path ∧ other = "/" ++ path) ∨ (¬ Rooted other ∧ path = "/" ++ other)

theorem normalizeEntry_eq_iff {main other bare otherBare : String} (is : Bare main bare)
    (otherIs : Bare other otherBare) :
    normalizeEntry main = normalizeEntry other ↔ AlikeButSlash bare otherBare := by
  rw [normalizeEntry_of_bare is, normalizeEntry_of_bare otherIs, AlikeButSlash]
  split
  next root =>
      split
      next otherRoot => simp [root, otherRoot]
      next unrooted =>
          refine ⟨fun same => .inr (.inr ⟨unrooted, same⟩), ?_⟩
          rintro (rfl | ⟨missing, -⟩ | ⟨-, same⟩)
          · exact (unrooted root).elim
          · exact (missing root).elim
          · exact same
  next unrooted =>
      split
      next otherRoot =>
          refine ⟨fun same => .inr (.inl ⟨unrooted, same.symm⟩), ?_⟩
          rintro (rfl | ⟨-, same⟩ | ⟨missing, -⟩)
          · exact (unrooted otherRoot).elim
          · exact same.symm
          · exact (missing otherRoot).elim
      next otherUnrooted =>
          refine ⟨fun same => .inl ((String.append_right_inj "/").mp same), ?_⟩
          rintro (rfl | ⟨-, rfl⟩ | ⟨-, rfl⟩)
          · rfl
          · exact (otherUnrooted (rooted_slash_append _)).elim
          · exact (unrooted (rooted_slash_append _)).elim

/-- What the normal form of a path is to the path, and to other paths. -/
structure Canonical (main : String) : Prop where
  root : Rooted (normalizeEntry main)
  settled : normalizeEntry (normalizeEntry main) = normalizeEntry main
  dotted : ∀ count, normalizeEntry (dots count ++ main) = normalizeEntry main
  kept : Rooted main → normalizeEntry main = main
  bare : ∃ bare, Bare main bare ∧ ∀ other, Bare main other → other = bare
  alike : ∀ other bare otherBare, Bare main bare → Bare other otherBare →
    (normalizeEntry main = normalizeEntry other ↔ AlikeButSlash bare otherBare)

theorem normalizeEntry_canonical (main : String) : Canonical main where
  root := rooted_normalizeEntry main
  settled := normalizeEntry_of_rooted (rooted_normalizeEntry main)
  dotted count := by rw [normalizeEntry, dropDots_dotted, normalizeEntry]
  kept := normalizeEntry_of_rooted
  bare := by
    obtain ⟨bare, is⟩ := exists_bare main
    exact ⟨bare, is, fun other also => is.unique also⟩
  alike _ _ _ is otherIs := normalizeEntry_eq_iff is otherIs

/-- A slash after the dots is the root; two dots are no dot, and stay. -/
example : [".//x", "../x", ".", "", "/./x"].map normalizeEntry =
    ["/x", "/../x", "/.", "/", "/./x"] := by
  decide

theorem exists_main {files : List SourceFile} {manifest : Manifest} {entry : String}
    (reads : ofFiles files = .ok manifest) (starts : manifest.entry = some entry) :
    ∃ main, entry = normalizeEntry main := by
  unfold ofFiles parse at reads
  split at reads
  next =>
      cases reads
      cases starts
  next =>
      split at reads
      next content _ =>
          cases reads
          obtain ⟨main, -, normal⟩ := Option.map_eq_some_iff.mp starts
          exact ⟨main, normal.symm⟩
      next => cases reads

end Manifest

/-- A plan starts from an entry in normal form, however the manifest spells it. -/
theorem Plan.rooted_entry {ready : ReadyPreset} {files : List SourceFile} {plan : Plan}
    {entry : String} (made : make ready files = .ok plan) (starts : plan.entry = some entry) :
    Manifest.Rooted entry := by
  obtain ⟨manifest, resolved, reads, -, rfl⟩ := exists_of_make made
  obtain ⟨main, rfl⟩ := Manifest.exists_main reads starts
  exact Manifest.rooted_normalizeEntry main

end LivePreview
