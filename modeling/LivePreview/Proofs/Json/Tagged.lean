import LivePreview.Json.Tagged
import LivePreview.Proofs.Json.Record

namespace LivePreview.Json

/-! What tagged records read: the tag among the fields of the body, wherever it stands. -/

variable {κ α : Type} {depth : Nat} {entries before after : List (String × Json)}

namespace Tagged

variable {tagged : Tagged κ α} {kind : κ} {name : String} {value : α}

theorem steps_others (others : ∀ entry ∈ entries, entry.1 ≠ tagged.tag)
    (within : nestingEntries entries ≤ depth) (found : Option κ) (kept : List (String × Json)) :
    Steps (tagged.readEntry depth) (found, kept) entries (found, entries.reverse ++ kept) := by
  induction entries generalizing kept with
  | nil => exact .nil _
  | cons entry rest ih =>
      obtain ⟨apart, others⟩ := List.forall_mem_cons.mp others
      have both := Nat.max_le.mp within
      have more := ih others both.2 (entry :: kept)
      rw [List.reverse_cons, List.append_assoc, List.singleton_append]
      refine .cons ?_ more
      intro colon text after isColon spelled delimited
      have read := valueAfter_colon (reads_tree entry.2 both.1) isColon spelled delimited
      rw [readEntry, if_neg apart, read]
      rfl

theorem steps_tag (known : Entries.find? tagged.kinds name = some kind)
    (kept : List (String × Json)) :
    Steps (tagged.readEntry depth) (none, kept) [(tagged.tag, .string name)]
      (some kind, kept) := by
  refine .cons ?_ (.nil _)
  intro colon text after isColon spelled delimited
  have read := valueAfter_colon (Codec.reads_tag known depth) isColon spelled delimited
  simp only [readEntry, if_true, read]
  rfl

theorem taken_others (others : ∀ entry ∈ entries, entry.1 ≠ tagged.tag) (found : Option κ)
    (kept : List (String × Json)) :
    entries.foldlM tagged.takeEntry (found, kept) = .ok (found, entries.reverse ++ kept) := by
  induction entries generalizing kept with
  | nil => rfl
  | cons entry rest ih =>
      obtain ⟨apart, others⟩ := List.forall_mem_cons.mp others
      rw [List.foldlM_cons, takeEntry, if_neg apart, List.reverse_cons, List.append_assoc]
      exact ih others (entry :: kept)

theorem taken_tag (known : Entries.find? tagged.kinds name = some kind)
    (kept : List (String × Json)) :
    tagged.takeEntry (none, kept) (tagged.tag, .string name) = .ok (some kind, kept) := by
  simp [takeEntry, Codec.takeTag, Codec.acceptString, Codec.variant?, known, bind, Except.bind,
    Except.map]

/-- The tag may stand before, among or after the fields of the body. -/
theorem reads (known : Entries.find? tagged.kinds name = some kind)
    (others : ∀ entry ∈ before ++ after, entry.1 ≠ tagged.tag)
    (body : tagged.body.take (.object (before ++ after)) = .ok value) :
    Json.Reads tagged.read tagged.take
      (.object (before ++ (tagged.tag, .string name) :: after)) (kind, value) where
  text {depth} within := by
    obtain ⟨depth, rfl⟩ := Nat.exists_eq_succ_of_ne_zero (Nat.ne_zero_of_lt within)
    have shallow := Nat.le_of_succ_le_succ within
    rw [nestingEntries_append] at shallow
    obtain ⟨shallowBefore, shallowAfter⟩ := Nat.max_le.mp shallow
    obtain ⟨early, late⟩ := List.forall_mem_append.mp others
    have steps : Steps (tagged.readEntry depth) (none, [])
        (before ++ ([(tagged.tag, .string name)] ++ after))
        (some kind, after.reverse ++ (before.reverse ++ [])) :=
      (steps_others early shallowBefore none []).append ((steps_tag known _).append
        (steps_others late (Nat.max_le.mp shallowAfter).2 (some kind) _))
    have parts : ReadsText
        (Entering.read ⟨tagged.expected, none, tagged.readList, tagged.readObject⟩ (depth + 1))
        (.object (before ++ (tagged.tag, .string name) :: after))
        (kind, .object (before ++ after)) := by
      refine Entering.read_object ?_
      intro inner rest spelled
      have read := entriesUpTo_text steps spelled rest
      simp only [readObject, Json.entries, read]
      simp
    intro blank text rest is spelled delimited
    simp only [read, parts is spelled delimited, body]
  take := by
    obtain ⟨early, late⟩ := List.forall_mem_append.mp others
    have taken : (before ++ (tagged.tag, .string name) :: after).foldlM tagged.takeEntry
        (none, []) = .ok (some kind, after.reverse ++ before.reverse) := by
      rw [List.foldlM_append, taken_others early, List.append_nil]
      change (tagged.takeEntry _ _ >>= _) = _
      rw [taken_tag known]
      exact taken_others late _ _
    simp only [take, taken]
    change (do
      let value ← tagged.body.take (.object (after.reverse ++ before.reverse).reverse)
      return (kind, value) : Except _ _) = _
    rw [List.reverse_append, List.reverse_reverse, List.reverse_reverse, body]
    rfl

end Tagged

end LivePreview.Json
