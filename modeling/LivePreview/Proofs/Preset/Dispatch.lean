import LivePreview.Proofs.Preset.Registration

namespace LivePreview

/-! Which files have a chain, and which chain, said by the endings of their paths alone.  The rules
of the presets cut a path at its last dot; between them they leave no path to two rules. -/

namespace DottedPath

theorem ofChars?_of_undotted {path : List Char} (undotted : '.' ∉ path) :
    ofChars? path = none := by
  induction path with
  | nil => rfl
  | cons c rest ih =>
      simp only [List.mem_cons, not_or] at undotted
      obtain ⟨other, undotted⟩ := undotted
      simp [ofChars?, ih undotted, Ne.symm other]

theorem ofChars?_append (stem : List Char) {ending : List Char} (undotted : '.' ∉ ending) :
    ofChars? (stem ++ '.' :: ending) = some ⟨stem, ending⟩ := by
  induction stem with
  | nil => simp [ofChars?, ofChars?_of_undotted undotted]
  | cons c stem ih => simp [ofChars?, ih]

/-- What a path ends in, when it is known from the last dot on. -/
theorem suffix_iff {path front ending : List Char} (undotted : '.' ∉ ending) :
    (front ++ '.' :: ending) <:+ path ↔
      ∃ cut, ofChars? path = some cut ∧ cut.ending = ending ∧ front <:+ cut.stem := by
  constructor
  · rintro ⟨rest, rfl⟩
    refine ⟨⟨rest ++ front, ending⟩, ?_, rfl, List.suffix_append _ _⟩
    rw [← List.append_assoc]
    exact ofChars?_append _ undotted
  · rintro ⟨cut, isCut, rfl, rest, stem⟩
    refine ⟨rest, ?_⟩
    rw [chars_of_ofChars? isCut, ← stem, List.append_assoc]

end DottedPath

namespace ScriptEnding

def letter : ScriptLanguage → Char
  | .plain => 'j'
  | .typed => 't'

def body (ending : ScriptEnding) : List Char :=
  letter ending.language :: 's' :: if ending.markup then ['x'] else []

def spellings (ending : ScriptEnding) : List (List Char) :=
  if ending.marked then ['m' :: ending.body, 'c' :: ending.body] else [ending.body]

def all : List ScriptEnding :=
  [⟨false, .plain, false⟩, ⟨false, .plain, true⟩, ⟨false, .typed, false⟩, ⟨false, .typed, true⟩,
    ⟨true, .plain, false⟩, ⟨true, .plain, true⟩, ⟨true, .typed, false⟩, ⟨true, .typed, true⟩]

theorem mem_all (ending : ScriptEnding) : ending ∈ all := by
  obtain ⟨marked, language, markup⟩ := ending
  cases marked <;> cases language <;> cases markup <;> decide

theorem undotted_spellings (ending : ScriptEnding) : ∀ chars ∈ ending.spellings, '.' ∉ chars := by
  have undotted : ∀ ending ∈ all, ∀ chars ∈ ending.spellings, '.' ∉ chars := by decide
  exact undotted ending (mem_all ending)

theorem markup?_eq_some {chars : List Char} {markup : Bool} :
    markup? chars = some markup ↔ chars = 's' :: if markup then ['x'] else [] := by
  constructor
  · intro found
    unfold markup? at found
    split at found <;> simp_all
  · rintro rfl
    cases markup <;> rfl

theorem language?_eq_some {chars rest : List Char} {language : ScriptLanguage} :
    language? chars = some (language, rest) ↔ chars = letter language :: rest := by
  constructor
  · intro found
    unfold language? at found
    split at found
    next => cases found; rfl
    next => cases found; rfl
    next => cases found
  · rintro rfl
    cases language <;> rfl

theorem unmarked?_eq_some {chars : List Char} {marked : Bool} {ending : ScriptEnding} :
    unmarked? marked chars = some ending ↔ ending.marked = marked ∧ chars = ending.body := by
  constructor
  · intro found
    simp only [unmarked?, Option.bind_eq_bind, Option.bind_eq_some_iff] at found
    obtain ⟨⟨language, rest⟩, isLanguage, markup, isMarkup, made⟩ := found
    cases made
    cases language?_eq_some.mp isLanguage
    cases markup?_eq_some.mp isMarkup
    exact ⟨rfl, rfl⟩
  · rintro ⟨rfl, rfl⟩
    obtain ⟨marked, language, markup⟩ := ending
    cases language <;> cases markup <;> rfl

theorem ofChars?_eq_some {chars : List Char} {ending : ScriptEnding} :
    ofChars? chars = some ending ↔ chars ∈ ending.spellings := by
  obtain ⟨marked, language, markup⟩ := ending
  constructor
  · intro found
    unfold ofChars? at found
    split at found
    all_goals
      obtain ⟨same, rfl⟩ := unmarked?_eq_some.mp found
      cases same
      simp [spellings, body]
  · intro spelled
    cases marked <;> cases language <;> cases markup <;>
      simp only [spellings, body, letter, List.mem_cons, List.not_mem_nil, or_false, if_true,
        Bool.false_eq_true, if_false] at spelled <;>
      rcases spelled with rfl | rfl <;> rfl

end ScriptEnding

namespace SourceFile

variable {file : SourceFile}

def EndsIn (file : SourceFile) (endings : List String) : Prop :=
  ∃ ending ∈ endings, ending.toList <:+ file.path.toList

instance (file : SourceFile) (endings : List String) : Decidable (file.EndsIn endings) :=
  inferInstanceAs (Decidable (∃ ending ∈ endings, _))

theorem endsIn_iff {endings : List String} (front : List Char) (tails : List (List Char))
    (spelled : (endings.map String.toList).Perm (tails.map fun tail => front ++ '.' :: tail))
    (undotted : ∀ tail ∈ tails, '.' ∉ tail) :
    file.EndsIn endings ↔
      ∃ cut, file.dotted? = some cut ∧ cut.ending ∈ tails ∧ front <:+ cut.stem := by
  have listed : file.EndsIn endings ↔
      ∃ tail ∈ tails, (front ++ '.' :: tail) <:+ file.path.toList := by
    have same (text : List Char) := spelled.mem_iff (a := text)
    simp only [List.mem_map] at same
    constructor
    · rintro ⟨ending, member, suffix⟩
      obtain ⟨tail, isTail, spells⟩ := (same _).mp ⟨ending, member, rfl⟩
      exact ⟨tail, isTail, spells ▸ suffix⟩
    · rintro ⟨tail, isTail, suffix⟩
      obtain ⟨ending, member, spells⟩ := (same _).mpr ⟨tail, isTail, rfl⟩
      exact ⟨ending, member, spells ▸ suffix⟩
  rw [listed]
  constructor
  · rintro ⟨tail, isTail, suffix⟩
    obtain ⟨cut, isCut, rfl, stem⟩ := (DottedPath.suffix_iff (undotted tail isTail)).mp suffix
    exact ⟨cut, isCut, isTail, stem⟩
  · rintro ⟨cut, isCut, isTail, stem⟩
    exact ⟨cut.ending, isTail,
      (DottedPath.suffix_iff (undotted cut.ending isTail)).mpr ⟨cut, isCut, rfl, stem⟩⟩

theorem endsIn_scripts {endings : List String} (front : List Char) (kind : ScriptEnding → Bool)
    (spelled : (endings.map String.toList).Perm
      (((ScriptEnding.all.filter kind).flatMap ScriptEnding.spellings).map
        fun tail => front ++ '.' :: tail)) :
    file.EndsIn endings ↔ ∃ cut ending, file.dotted? = some cut ∧
      ScriptEnding.ofChars? cut.ending = some ending ∧ kind ending = true ∧ front <:+ cut.stem := by
  have listed (chars : List Char) :
      chars ∈ (ScriptEnding.all.filter kind).flatMap ScriptEnding.spellings ↔
        ∃ ending, ScriptEnding.ofChars? chars = some ending ∧ kind ending = true := by
    simp only [List.mem_flatMap, List.mem_filter, ScriptEnding.mem_all, true_and,
      ScriptEnding.ofChars?_eq_some, and_comm]
  rw [endsIn_iff front _ spelled]
  · simp only [listed]
    constructor
    · rintro ⟨cut, isCut, ⟨ending, isEnding, isKind⟩, stem⟩
      exact ⟨cut, ending, isCut, isEnding, isKind, stem⟩
    · rintro ⟨cut, ending, isCut, isEnding, isKind, stem⟩
      exact ⟨cut, isCut, ⟨ending, isEnding, isKind⟩, stem⟩
  · intro tail member
    obtain ⟨ending, _, spelling⟩ := List.mem_flatMap.mp member
    exact ending.undotted_spellings tail spelling

theorem isStylesheet_iff : file.isStylesheet = true ↔ file.EndsIn [".css"] := by
  rw [endsIn_iff [] [['c', 's', 's']] (by decide) (by decide)]
  unfold isStylesheet
  cases file.dotted? <;> simp

theorem isSome_scriptEnding?_iff :
    file.scriptEnding?.isSome = true ↔
      file.EndsIn [".js", ".jsx", ".ts", ".tsx", ".mjs", ".mjsx", ".mts", ".mtsx", ".cjs", ".cjsx",
        ".cts", ".ctsx"] := by
  rw [endsIn_scripts [] (fun _ => true) (by decide)]
  unfold scriptEnding?
  cases file.dotted? <;> simp [Option.isSome_iff_exists]

theorem isPage_iff :
    (file.scriptEnding?.map ScriptEnding.isPage).getD false = true ↔
      file.EndsIn [".js", ".jsx", ".mjs", ".mjsx", ".cjs", ".cjsx", ".tsx"] := by
  rw [endsIn_scripts [] ScriptEnding.isPage (by decide)]
  unfold scriptEnding?
  cases file.dotted? with
  | none => simp
  | some cut =>
      cases isEnding : ScriptEnding.ofChars? cut.ending <;> simp [isEnding]

theorem isDeclaration_iff :
    file.isDeclaration = true ↔ file.EndsIn [".d.ts", ".d.mts", ".d.cts"] := by
  rw [endsIn_scripts ['.', 'd'] (fun ending => ending.language = .typed && !ending.markup)
    (by decide)]
  unfold isDeclaration
  cases file.dotted? with
  | none => simp
  | some cut =>
      cases isEnding : ScriptEnding.ofChars? cut.ending with
      | none => simp [isEnding]
      | some ending =>
          obtain ⟨marked, language, markup⟩ := ending
          cases language <;> cases markup <;> simp [isEnding]

theorem isScript_of_isAppScript (app : file.isAppScript = true) : file.isScript = true := by
  simp only [isAppScript, Bool.and_eq_true] at app
  obtain ⟨_, page⟩ := app
  unfold isScript isDeclaration
  unfold scriptEnding? at page ⊢
  cases isCut : file.dotted? with
  | none => simp [isCut] at page
  | some cut =>
      rw [isCut] at page
      cases isEnding : ScriptEnding.ofChars? cut.ending with
      | none => simp [isEnding] at page
      | some ending =>
          obtain ⟨marked, language, markup⟩ := ending
          cases language <;> cases markup <;> simp_all [ScriptEnding.isPage]

theorem not_isScript_of_isStylesheet (style : file.isStylesheet = true) :
    file.isScript = false := by
  unfold isStylesheet at style
  unfold isScript scriptEnding?
  cases isCut : file.dotted? with
  | none => simp [isCut] at style
  | some cut =>
      have css : cut.ending = ['c', 's', 's'] := by simpa [isCut] using style
      simp only [Option.bind_some, css]
      rfl

def IsStyle (file : SourceFile) : Prop :=
  file.EndsIn [".css"]

/-- Scripts that hold more than declarations. -/
def IsProgram (file : SourceFile) : Prop :=
  file.EndsIn [".js", ".jsx", ".ts", ".tsx", ".mjs", ".mjsx", ".mts", ".mtsx", ".cjs", ".cjsx",
      ".cts", ".ctsx"] ∧
    ¬ file.EndsIn [".d.ts", ".d.mts", ".d.cts"]

/-- Scripts of the project itself that may be kept alive across changes. -/
def IsLive (file : SourceFile) : Prop :=
  ¬ "/node_modules/".toList <+: file.path.toList ∧
    file.EndsIn [".js", ".jsx", ".mjs", ".mjsx", ".cjs", ".cjsx", ".tsx"]

instance (file : SourceFile) : Decidable file.IsStyle :=
  inferInstanceAs (Decidable (file.EndsIn _))

instance (file : SourceFile) : Decidable file.IsProgram :=
  inferInstanceAs (Decidable (_ ∧ _))

instance (file : SourceFile) : Decidable file.IsLive :=
  inferInstanceAs (Decidable (_ ∧ _))

theorem isScript_iff : file.isScript = true ↔ file.IsProgram := by
  unfold isScript IsProgram
  rw [Bool.and_eq_true, isSome_scriptEnding?_iff, Bool.not_eq_true', ← isDeclaration_iff,
    Bool.not_eq_true]

theorem isAppScript_iff : file.isAppScript = true ↔ file.IsLive := by
  unfold isAppScript IsLive
  rw [Bool.and_eq_true, isPage_iff, Bool.not_eq_true', ← Bool.not_eq_true, isInstalled,
    List.isPrefixOf_iff_prefix]

end SourceFile

namespace Preset

/-- The chain of a script: what belongs to the project is kept alive across changes, if the preset
can do that. -/
def scriptChain (preset : Preset) (file : SourceFile) : List Binding :=
  match preset with
  | .react =>
    if file.IsLive then [.withOptions babel (babelOptions .react), .bare reactRefresh]
    else [.bare babel]
  | .solid =>
    if file.IsLive then [.withOptions babel (babelOptions .solid), .bare solidRefresh]
    else [.bare babel]
  | .vanilla => [.withOptions babel (babelOptions .vanilla)]

/-- At most one rule claims a file. -/
theorem chain_eq (preset : Preset) (file : SourceFile) :
    preset.chain file =
      if file.isStylesheet then .ok [.bare css, .bare style]
      else if file.isScript then .ok (preset.scriptChain file)
      else .error (.noTransformer file.path) := by
  have live : file.IsLive ↔ file.isAppScript = true := SourceFile.isAppScript_iff.symm
  cases style : file.isStylesheet with
  | true =>
      have script := SourceFile.not_isScript_of_isStylesheet style
      have app : file.isAppScript = false :=
        Bool.eq_false_iff.mpr fun app => by simp [SourceFile.isScript_of_isAppScript app] at script
      cases preset <;>
        simp [chain, rules, Rule.dispatch, stylesheetRule, libraryScriptRule, stylesheetChain,
          SourceFile.isLibraryScript, style, script, app]
  | false =>
      cases script : file.isScript with
      | true =>
          cases app : file.isAppScript <;> cases preset <;>
            simp [chain, rules, Rule.dispatch, stylesheetRule, libraryScriptRule, scriptChain,
              SourceFile.isLibraryScript, live, style, script, app]
      | false =>
          have app : file.isAppScript = false :=
            Bool.eq_false_iff.mpr fun app => by
              simp [SourceFile.isScript_of_isAppScript app] at script
          cases preset <;>
            simp [chain, rules, Rule.dispatch, stylesheetRule, libraryScriptRule,
              SourceFile.isLibraryScript, style, script, app]

/-- What a preset does with a file. -/
structure Dispatches (preset : Preset) (file : SourceFile) : Prop where
  unambiguous : ∀ path rules, preset.chain file ≠ .error (.ambiguousTransformer path rules)
  accepts : (∃ chain, preset.chain file = .ok chain) ↔ file.IsStyle ∨ file.IsProgram
  agrees : ∀ other : Preset,
    (∃ chain, other.chain file = .ok chain) ↔ ∃ chain, preset.chain file = .ok chain
  refuses : (∀ chain, preset.chain file ≠ .ok chain) →
    preset.chain file = .error (.noTransformer file.path)
  style : file.IsStyle → preset.chain file = .ok [.bare css, .bare Preset.style]
  program : file.IsProgram → preset.chain file = .ok (preset.scriptChain file)
  loads : ∀ chain, preset.chain file = .ok chain →
    ∀ binding ∈ chain, binding.name ∈ preset.transformerNames

theorem exists_chain_iff (preset : Preset) (file : SourceFile) :
    (∃ chain, preset.chain file = .ok chain) ↔ file.IsStyle ∨ file.IsProgram := by
  rw [chain_eq, ← SourceFile.isScript_iff, SourceFile.IsStyle, ← SourceFile.isStylesheet_iff]
  cases file.isStylesheet <;> cases file.isScript <;> simp

end Preset

end LivePreview
