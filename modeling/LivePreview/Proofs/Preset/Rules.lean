import LivePreview.Proofs.Preset.Dispatch

namespace LivePreview

namespace Rule

variable {rules others : List Rule} {file : SourceFile} {rule : Rule}

/-! What any table decides.  Where its rules stand makes no difference, but for the order in which
the rules that overlap are named. -/

/-- The rules that claim the file, as they stand in the table. -/
def claimants (rules : List Rule) (file : SourceFile) : List Rule :=
  rules.filter fun rule => rule.claims file

/-- Of all places in the table, one holds a rule that claims the file. -/
def Sole (rules : List Rule) (file : SourceFile) (rule : Rule) : Prop :=
  rule.claims file = true ∧ ∃ before after, rules = before ++ rule :: after ∧
    ∀ other ∈ before ++ after, other.claims file = false

/-- Verdicts that differ at most in the order of the rules they name. -/
inductive Agrees : Except Failure (List Binding) → Except Failure (List Binding) → Prop
  | same (verdict : Except Failure (List Binding)) : Agrees verdict verdict
  | ambiguous (path : String) {names others : List String} (shuffled : names.Perm others) :
      Agrees (.error (.ambiguousTransformer path names))
        (.error (.ambiguousTransformer path others))

theorem sole_iff : Sole rules file rule ↔ claimants rules file = [rule] := by
  simp only [Sole, claimants, List.filter_eq_cons_iff, List.filter_eq_nil_iff, List.mem_append,
    or_imp, forall_and, Bool.not_eq_true]
  constructor
  · rintro ⟨claims, before, after, split, early, late⟩
    exact ⟨before, after, split, early, claims, late⟩
  · rintro ⟨before, after, split, early, claims, late⟩
    exact ⟨claims, before, after, split, early, late⟩

theorem dispatch_congr (same : claimants rules file = claimants others file) :
    dispatch rules file = dispatch others file := by
  unfold dispatch
  rw [← claimants, ← claimants, same]

theorem dispatch_of_none (none : claimants rules file = []) :
    dispatch rules file = .error (.noTransformer file.path) := by
  unfold dispatch
  rw [← claimants, none]

theorem dispatch_of_sole (sole : claimants rules file = [rule]) :
    dispatch rules file =
      if rule.chain file = [] then .error (.noTransformer file.path)
      else .ok (rule.chain file) := by
  unfold dispatch
  rw [← claimants, sole]
  cases chain : rule.chain file <;> simp [chain]

theorem dispatch_of_several (several : 2 ≤ (claimants rules file).length) :
    dispatch rules file =
      .error (.ambiguousTransformer file.path ((claimants rules file).map Rule.name)) := by
  unfold dispatch
  rw [← claimants]
  match claims : claimants rules file, several with
  | first :: second :: rest, _ => rfl

theorem claimants_cases (rules : List Rule) (file : SourceFile) :
    claimants rules file = [] ∨ (∃ rule, claimants rules file = [rule]) ∨
      2 ≤ (claimants rules file).length := by
  match claimants rules file with
  | [] => exact .inl rfl
  | [rule] => exact .inr (.inl ⟨rule, rfl⟩)
  | first :: second :: rest => exact .inr (.inr (by simp))

theorem dispatch_eq_ok_iff {chain : List Binding} :
    dispatch rules file = .ok chain ↔
      ∃ rule, Sole rules file rule ∧ rule.chain file = chain ∧ chain ≠ [] := by
  simp only [sole_iff]
  rcases claimants_cases rules file with none | ⟨rule, sole⟩ | several
  · rw [dispatch_of_none none]
    simp [none]
  · rw [dispatch_of_sole sole]
    simp only [sole, List.cons.injEq, and_true, exists_eq_left']
    split
    next empty => simp [empty, eq_comm]
    next full =>
        constructor
        · rintro ⟨rfl⟩
          exact ⟨rfl, full⟩
        · rintro ⟨rfl, _⟩
          rfl
  · rw [dispatch_of_several several]
    simp only [reduceCtorEq, false_iff, not_exists, not_and]
    intro rule sole
    simp [sole] at several

theorem agrees_of_perm (shuffled : rules.Perm others) (file : SourceFile) :
    Agrees (dispatch rules file) (dispatch others file) := by
  have claims : (claimants rules file).Perm (claimants others file) := shuffled.filter _
  rcases claimants_cases rules file with none | ⟨rule, sole⟩ | several
  · rw [none, List.nil_perm] at claims
    rw [dispatch_congr (none.trans claims.symm)]
    exact .same _
  · rw [sole, List.singleton_perm] at claims
    rw [dispatch_congr (sole.trans claims)]
    exact .same _
  · have also : 2 ≤ (claimants others file).length := claims.length_eq ▸ several
    rw [dispatch_of_several several, dispatch_of_several also]
    exact .ambiguous file.path (claims.map _)

theorem claimants_insert (before after : List Rule) {added : List Rule}
    (idle : ∀ rule ∈ added, rule.claims file = false) :
    claimants (before ++ added ++ after) file = claimants (before ++ after) file := by
  have none : claimants added file = [] := by
    simpa [claimants, List.filter_eq_nil_iff] using idle
  simp only [claimants, List.filter_append] at none ⊢
  rw [none, List.append_nil]

/-- What a table decides about a file. -/
structure Decides (rules : List Rule) (file : SourceFile) : Prop where
  accepts : ∀ chain, dispatch rules file = .ok chain ↔
    ∃ rule, Sole rules file rule ∧ rule.chain file = chain ∧ chain ≠ []
  overlaps : 2 ≤ rules.countP (fun rule => rule.claims file) →
    dispatch rules file =
      .error (.ambiguousTransformer file.path ((claimants rules file).map Rule.name))
  refuses : rules.countP (fun rule => rule.claims file) < 2 →
    (∀ chain, dispatch rules file ≠ .ok chain) →
      dispatch rules file = .error (.noTransformer file.path)
  shuffles : ∀ others, rules.Perm others → Agrees (dispatch rules file) (dispatch others file)
  ignores : ∀ before added after, rules = before ++ after →
    (∀ rule ∈ added, rule.claims file = false) →
      dispatch (before ++ added ++ after) file = dispatch rules file

theorem dispatch_decides (rules : List Rule) (file : SourceFile) : Decides rules file where
  accepts _ := dispatch_eq_ok_iff
  overlaps := by
    rw [List.countP_eq_length_filter]
    exact dispatch_of_several
  refuses := by
    rw [List.countP_eq_length_filter]
    intro few refused
    rcases claimants_cases rules file with none | ⟨rule, sole⟩ | several
    · exact dispatch_of_none none
    · rw [dispatch_of_sole sole] at refused ⊢
      split
      next => rfl
      next full => exact (refused _ (if_neg full)).elim
    · exact (Nat.not_lt.mpr several few).elim
  shuffles _ shuffled := agrees_of_perm shuffled file
  ignores := by
    rintro before added after rfl idle
    exact dispatch_congr (claimants_insert before after idle)

end Rule

namespace Preset

/-- The table of a preset may be put in any order, since no two of its rules claim one file. -/
theorem dispatch_of_perm (preset : Preset) {others : List Rule}
    (shuffled : preset.rules.Perm others) (file : SourceFile) :
    Rule.dispatch others file = preset.chain file := by
  have agrees : Rule.Agrees (preset.chain file) (Rule.dispatch others file) :=
    Rule.agrees_of_perm shuffled file
  generalize verdict : preset.chain file = before at agrees
  generalize Rule.dispatch others file = after at agrees
  cases agrees with
  | same => rfl
  | ambiguous path names =>
      rw [chain_eq] at verdict
      cases style : file.isStylesheet <;> cases script : file.isScript <;>
        simp [style, script] at verdict

end Preset

end LivePreview
