import LivePreview.Proofs.Json.Lexeme
import Mathlib.Data.List.Forall2

namespace LivePreview.Json

/-! The texts of a value, and the value that is read from any of them.  Blanks may stand where they
are passed over, and strings may be escaped in any way; only integers are written as numbers. -/

variable {rest text blank inner : List Char} {first : Bool} {json : Json} {depth : Nat}
variable {α : Type u} {σ : Type v}

mutual
/-- How deep lists and objects stand in each other. -/
def nesting : Json → Nat
  | .list items => nestingItems items + 1
  | .object entries => nestingEntries entries + 1
  | .null | .bool _ | .number _ | .string _ => 0

def nestingItems : List Json → Nat
  | [] => 0
  | item :: rest => max (nesting item) (nestingItems rest)

def nestingEntries : List (String × Json) → Nat
  | [] => 0
  | (_, value) :: rest => max (nesting value) (nestingEntries rest)
end

mutual
/-- Every number in it is an integer. -/
def Exact : Json → Prop
  | .number value => value.IsInteger
  | .list items => ExactItems items
  | .object entries => ExactEntries entries
  | .null | .bool _ | .string _ => True

def ExactItems : List Json → Prop
  | [] => True
  | item :: rest => Exact item ∧ ExactItems rest

def ExactEntries : List (String × Json) → Prop
  | [] => True
  | (_, value) :: rest => Exact value ∧ ExactEntries rest
end

theorem nestingEntries_le {entries : List (String × Json)}
    (within : ∀ entry ∈ entries, nesting entry.2 ≤ depth) : nestingEntries entries ≤ depth := by
  induction entries with
  | nil => exact Nat.zero_le depth
  | cons entry rest ih =>
      obtain ⟨own, others⟩ := List.forall_mem_cons.mp within
      exact Nat.max_le.mpr ⟨own, ih others⟩

theorem nestingEntries_append (before after : List (String × Json)) :
    nestingEntries (before ++ after) = max (nestingEntries before) (nestingEntries after) := by
  induction before with
  | nil => simp [nestingEntries]
  | cons entry rest ih => rw [List.cons_append, nestingEntries, nestingEntries, ih, Nat.max_assoc]

theorem exactItems_of_forall {items : List Json} (exact : ∀ item ∈ items, Exact item) :
    ExactItems items := by
  induction items with
  | nil => trivial
  | cons item rest ih =>
      obtain ⟨own, others⟩ := List.forall_mem_cons.mp exact
      exact ⟨own, ih others⟩

theorem exactEntries_of_forall {entries : List (String × Json)}
    (exact : ∀ entry ∈ entries, Exact entry.2) : ExactEntries entries := by
  induction entries with
  | nil => trivial
  | cons entry rest ih =>
      obtain ⟨own, others⟩ := List.forall_mem_cons.mp exact
      exact ⟨own, ih others⟩

/-- Its numbers are integers, and it is nested no deeper than that. -/
def Plain (depth : Nat) (json : Json) : Prop :=
  Exact json ∧ nesting json ≤ depth

theorem plain_null (depth : Nat) : Plain depth .null :=
  ⟨trivial, Nat.zero_le depth⟩

theorem plain_bool (depth : Nat) (value : Bool) : Plain depth (.bool value) :=
  ⟨trivial, Nat.zero_le depth⟩

theorem plain_string (depth : Nat) (value : String) : Plain depth (.string value) :=
  ⟨trivial, Nat.zero_le depth⟩

theorem plain_object {entries : List (String × Json)}
    (plain : ∀ entry ∈ entries, Plain depth entry.2) : Plain (depth + 1) (.object entries) :=
  ⟨exactEntries_of_forall fun entry member => (plain entry member).1,
    Nat.succ_le_succ (nestingEntries_le fun entry member => (plain entry member).2)⟩

theorem plain_single (name : String) (plain : Plain depth json) :
    Plain (depth + 1) (.object [(name, json)]) :=
  plain_object (List.forall_mem_singleton.mpr plain)

theorem plain_pair {other : Json} (name otherName : String) (plain : Plain depth json)
    (otherPlain : Plain depth other) :
    Plain (depth + 1) (.object [(name, json), (otherName, other)]) :=
  plain_object (List.forall_mem_cons.mpr ⟨plain, List.forall_mem_singleton.mpr otherPlain⟩)

def QuotedText (value : String) (text : List Char) : Prop :=
  ∃ body, StringText value.toList body ∧ text = '"' :: (body ++ ['"'])

/-- What stands before an item: a comma, unless it is the first. -/
def Separator : Bool → List Char → Prop
  | true, text => Blank text
  | false, text => ∃ before after, Blank before ∧ Blank after ∧ text = before ++ ',' :: after

def ColonText (text : List Char) : Prop :=
  ∃ before after, Blank before ∧ Blank after ∧ text = before ++ ':' :: after

mutual
/-- The text is one of the value's, from its first character to its last. -/
def Spells : Json → List Char → Prop
  | .null, text => text = ['n', 'u', 'l', 'l']
  | .bool true, text => text = ['t', 'r', 'u', 'e']
  | .bool false, text => text = ['f', 'a', 'l', 's', 'e']
  | .number value, text => value.IsInteger ∧ text = value.print
  | .string value, text => QuotedText value text
  | .list items, text => ∃ inner, SpellsItems items true inner ∧ text = '[' :: inner
  | .object entries, text => ∃ inner, SpellsEntries entries true inner ∧ text = '\x7b' :: inner

/-- The items that are left, up to the closing bracket and with it. -/
def SpellsItems : List Json → Bool → List Char → Prop
  | [], _, text => ∃ blank, Blank blank ∧ text = blank ++ [']']
  | item :: rest, first, text => ∃ before own more, Separator first before ∧ Spells item own ∧
      SpellsItems rest false more ∧ text = before ++ (own ++ more)

def SpellsEntries : List (String × Json) → Bool → List Char → Prop
  | [], _, text => ∃ blank, Blank blank ∧ text = blank ++ ['\x7d']
  | (name, value) :: rest, first, text => ∃ before key colon own more, Separator first before ∧
      QuotedText name key ∧ ColonText colon ∧ Spells value own ∧ SpellsEntries rest false more ∧
      text = before ++ (key ++ (colon ++ (own ++ more)))
end

/-- The first character tells what kind of value it is. -/
def Leads : Json → Char → Prop
  | .null, c => c = 'n'
  | .bool _, c => c = 't' ∨ c = 'f'
  | .number _, c => c = '-' ∨ c.isDigit = true
  | .string _, c => c = '"'
  | .list _, c => c = '['
  | .object _, c => c = '\x7b'

theorem exists_printNat (value : Nat) :
    ∃ c more, printNat value = c :: more ∧ c.isDigit = true := by
  unfold printNat
  cases digits : Nat.toDigits 10 value with
  | nil => exact (Nat.toDigits_ne_nil digits).elim
  | cons c more =>
      exact ⟨c, more, rfl, Nat.isDigit_of_mem_toDigits (by omega) (by omega)
        (digits ▸ List.mem_cons_self)⟩

theorem exists_leads (spelled : Spells json text) : ∃ c more, text = c :: more ∧ Leads json c := by
  cases json with
  | null => exact ⟨_, _, spelled, rfl⟩
  | bool value => cases value with
    | true => exact ⟨_, _, spelled, .inl rfl⟩
    | false => exact ⟨_, _, spelled, .inr rfl⟩
  | string value =>
      obtain ⟨body, _, rfl⟩ := spelled
      exact ⟨_, _, rfl, rfl⟩
  | list items =>
      obtain ⟨inner, _, rfl⟩ := spelled
      exact ⟨_, _, rfl, rfl⟩
  | object entries =>
      obtain ⟨inner, _, rfl⟩ := spelled
      exact ⟨_, _, rfl, rfl⟩
  | number value =>
      obtain ⟨integer, rfl⟩ := spelled
      cases value with
      | double value => exact integer.elim
      | negative below => exact ⟨_, _, rfl, .inl rfl⟩
      | natural value =>
          obtain ⟨c, more, digits, first⟩ := exists_printNat value.toNat
          exact ⟨c, more, digits, .inr first⟩

theorem ne_of_isDigit {c other : Char} (digit : c.isDigit = true) (not : other.isDigit = false) :
    c ≠ other := by
  rintro rfl
  rw [digit] at not
  cases not

theorem solid_of_leads {c : Char} (leads : Leads json c) : isBlank c = false ∧ c ≠ ']' := by
  cases json with
  | bool value => rcases leads with rfl | rfl <;> decide
  | null | string | list | object =>
      cases leads
      decide
  | number value =>
      rcases leads with rfl | digit
      · decide
      · have other (mark : Char) (not : mark.isDigit = false) := ne_of_isDigit digit not
        refine ⟨?_, other _ (by decide)⟩
        simp [isBlank, other ' ' (by decide), other '\n' (by decide), other '\t' (by decide),
          other '\r' (by decide)]

theorem skipBlanks_spelled (is : Blank blank) (spelled : Spells json text) (rest : List Char) :
    skipBlanks (blank ++ (text ++ rest)) = text ++ rest := by
  obtain ⟨c, more, rfl, leads⟩ := exists_leads spelled
  exact skipBlanks_before is (solid_of_leads leads).1 (more ++ rest)

def IsScalar : Json → Prop
  | .list _ | .object _ => False
  | .null | .bool _ | .number _ | .string _ => True

theorem scalar?_digit {c : Char} (digit : c.isDigit = true) (rest : List Char) :
    scalar? (c :: rest) =
      some ((numberRest false (c :: rest)).map fun (value, rest) => (.number value, rest)) := by
  unfold scalar?
  split
  case h_6 same =>
      cases same
      rw [if_pos digit]
  case h_7 same => cases same
  all_goals next same =>
      cases same
      exact absurd digit (by decide)

theorem scalar?_spelled (scalar : IsScalar json) (spelled : Spells json text)
    (delimited : Delimited rest) : scalar? (text ++ rest) = some (.ok (json, rest)) := by
  cases json with
  | list | object => exact scalar.elim
  | null =>
      cases spelled
      rfl
  | bool value => cases value <;> cases spelled <;> rfl
  | string value =>
      obtain ⟨body, is, rfl⟩ := spelled
      have read := stringRest_stringText is rest
      simp only [List.cons_append, List.append_assoc, List.nil_append, scalar?, read]
      rfl
  | number value =>
      obtain ⟨integer, rfl⟩ := spelled
      cases value with
      | double value => exact integer.elim
      | negative below =>
          have fits : below.val + 1 ≤ largestWord := by
            have bound := below.isLt
            unfold largestWord
            simp only [UInt64.size] at bound ⊢
            omega
          have read := numberRest_printNat delimited fits (integerOf_negative below)
          simp only [Number.print, List.cons_append, scalar?, read]
          rfl
      | natural value =>
          have fits : value.toNat ≤ largestWord := Nat.le_pred_of_lt value.toNat_lt
          have read := numberRest_printNat delimited fits (integerOf_natural value)
          obtain ⟨c, more, digits, first⟩ := exists_printNat value.toNat
          simp only [Number.print]
          rw [digits] at read ⊢
          rw [List.cons_append] at read ⊢
          rw [scalar?_digit first, read]
          rfl

/-- Whatever text of the value stands there, reading it gives the result. -/
def ReadsText (read : List Char → Reading α) (json : Json) (value : α) : Prop :=
  ∀ ⦃blank text rest : List Char⦄, Blank blank → Spells json text → Delimited rest →
    read (blank ++ (text ++ rest)) = .ok (value, rest)

theorem valueAfter_colon {read : List Char → Reading α} {value : α} {colon : List Char}
    (reads : ReadsText read json value) (is : ColonText colon) (spelled : Spells json text)
    (delimited : Delimited rest) :
    valueAfter read (colon ++ (text ++ rest)) = .ok (value, rest) := by
  obtain ⟨before, after, blank, blankAfter, rfl⟩ := is
  have colon : Json.colon (before ++ ':' :: after ++ (text ++ rest)) =
      .ok (after ++ (text ++ rest)) := by
    rw [List.append_assoc, List.cons_append, Json.colon, skipBlanks_before blank (by decide)]
    rfl
  rw [valueAfter, colon]
  exact reads blankAfter spelled delimited

theorem nextItem_close (is : Blank blank) (rest : List Char) :
    nextItem first (blank ++ ']' :: rest) = .ok (false, ']' :: rest) := by
  rw [nextItem, skipBlanks_before is (by decide)]
  rfl

theorem nextItem_spelled {before : List Char} (separator : Separator first before)
    (spelled : Spells json text) (rest : List Char) :
    nextItem first (before ++ (text ++ rest)) = .ok (true, text ++ rest) := by
  obtain ⟨c, more, rfl, leads⟩ := exists_leads spelled
  obtain ⟨solid, goesOn⟩ := solid_of_leads leads
  have others : ∀ text : List Char, c :: (more ++ rest) ≠ ']' :: text :=
    fun _ same => goesOn (List.cons.inj same).1
  cases first with
  | true =>
      rw [List.cons_append, nextItem, skipBlanks_before separator solid]
      split
      next ends => cases ends
      next closes => exact (others _ closes).elim
      next same => cases same; rfl
  | false =>
      obtain ⟨blank, after, isBlank, isAfter, rfl⟩ := separator
      rw [List.append_assoc, List.cons_append, List.cons_append, nextItem,
        skipBlanks_before isBlank (by decide)]
      split
      next ends => cases ends
      next closes => cases closes
      next same =>
          cases same
          rw [if_neg Bool.false_ne_true, if_pos rfl, skipBlanks_before isAfter solid]
          split
          next ends => cases ends
          next closes => exact (others _ closes).elim
          next => rfl

theorem nextKey_close (is : Blank blank) (rest : List Char) :
    nextKey first (blank ++ '\x7d' :: rest) = .ok (none, '\x7d' :: rest) := by
  rw [nextKey, skipBlanks_before is (by decide)]
  rfl

theorem nextKey_spelled {before key : List Char} {name : String}
    (separator : Separator first before) (quoted : QuotedText name key) (rest : List Char) :
    nextKey first (before ++ (key ++ rest)) = .ok (some name, rest) := by
  obtain ⟨body, is, rfl⟩ := quoted
  have named : someKey (body ++ '"' :: rest) = .ok (some name, rest) := by
    rw [someKey, stringRest_stringText is]
  rw [List.cons_append, List.append_assoc, List.singleton_append]
  cases first with
  | true =>
      rw [nextKey, skipBlanks_before separator (by decide)]
      exact named
  | false =>
      obtain ⟨blank, after, isBlank, isAfter, rfl⟩ := separator
      rw [List.append_assoc, List.cons_append, nextKey, skipBlanks_before isBlank (by decide)]
      split
      next ends => cases ends
      next closes => cases closes
      next same =>
          cases same
          rw [if_neg Bool.false_ne_true, if_pos rfl, skipBlanks_before isAfter (by decide)]
          exact named

theorem delimited_of_separator {before : List Char} (separator : Separator false before)
    (rest : List Char) : Delimited (before ++ rest) := by
  obtain ⟨blank, after, is, _, rfl⟩ := separator
  rw [List.append_assoc, List.cons_append]
  exact (delimited_mark (by decide) _).after is

theorem delimited_of_items {items : List Json} (spelled : SpellsItems items false inner)
    (rest : List Char) : Delimited (inner ++ rest) := by
  cases items with
  | nil =>
      obtain ⟨blank, is, rfl⟩ := spelled
      rw [List.append_assoc]
      exact (delimited_mark (by decide) _).after is
  | cons item more =>
      obtain ⟨before, own, more, separator, _, _, rfl⟩ := spelled
      rw [List.append_assoc]
      exact delimited_of_separator separator _

theorem delimited_of_entries {entries : List (String × Json)}
    (spelled : SpellsEntries entries false inner) (rest : List Char) :
    Delimited (inner ++ rest) := by
  cases entries with
  | nil =>
      obtain ⟨blank, is, rfl⟩ := spelled
      rw [List.append_assoc]
      exact (delimited_mark (by decide) _).after is
  | cons entry more =>
      obtain ⟨before, key, colon, own, more, separator, _, _, _, _, rfl⟩ := spelled
      rw [List.append_assoc]
      exact delimited_of_separator separator _

theorem length_items_lt {items : List Json} (spelled : SpellsItems items first inner) :
    items.length < inner.length := by
  induction items generalizing first inner with
  | nil =>
      obtain ⟨blank, _, rfl⟩ := spelled
      simp
  | cons item rest ih =>
      obtain ⟨before, own, more, _, ownSpelled, moreSpelled, rfl⟩ := spelled
      obtain ⟨c, tail, rfl, _⟩ := exists_leads ownSpelled
      have shorter := ih moreSpelled
      simp only [List.length_cons, List.length_append]
      omega

theorem length_entries_lt {entries : List (String × Json)}
    (spelled : SpellsEntries entries first inner) : entries.length < inner.length := by
  induction entries generalizing first inner with
  | nil =>
      obtain ⟨blank, _, rfl⟩ := spelled
      simp
  | cons entry rest ih =>
      obtain ⟨before, key, colon, own, more, _, _, _, ownSpelled, moreSpelled, rfl⟩ := spelled
      obtain ⟨c, tail, rfl, _⟩ := exists_leads ownSpelled
      have shorter := ih moreSpelled
      simp only [List.length_cons, List.length_append]
      omega

theorem itemsUpTo_spelled {item : List Char → Reading α} {items : List Json} {values : List α}
    {count : Nat} (reads : List.Forall₂ (ReadsText item) items values)
    (spelled : SpellsItems items first inner) (enough : items.length < count) (rest : List Char) :
    itemsUpTo item count first (inner ++ rest) = .ok (values, ']' :: rest) := by
  induction reads generalizing first inner count with
  | nil =>
      obtain ⟨blank, is, rfl⟩ := spelled
      obtain ⟨count, rfl⟩ := Nat.exists_eq_succ_of_ne_zero (Nat.ne_of_gt enough)
      rw [List.append_assoc, itemsUpTo, List.singleton_append, nextItem_close is]
  | @cons json value items values own others ih =>
      obtain ⟨before, text, more, separator, ownSpelled, moreSpelled, rfl⟩ := spelled
      obtain ⟨count, rfl⟩ := Nat.exists_eq_succ_of_ne_zero (Nat.ne_zero_of_lt enough)
      have read := own blank_nil ownSpelled (delimited_of_items moreSpelled rest)
      have readMore := ih moreSpelled (Nat.lt_of_succ_lt_succ enough)
      rw [List.nil_append] at read
      rw [List.append_assoc, List.append_assoc, itemsUpTo, nextItem_spelled separator ownSpelled]
      simp only [read, readMore]

/-- What a reader that goes through entries comes to, entry by entry. -/
inductive Steps (step : σ → String → List Char → Reading σ) :
    σ → List (String × Json) → σ → Prop
  | nil (state : σ) : Steps step state [] state
  | cons {state next last : σ} {name : String} {json : Json} {rest : List (String × Json)}
      (reads : ∀ {colon text after : List Char}, ColonText colon → Spells json text →
        Delimited after → step state name (colon ++ (text ++ after)) = .ok (next, after))
      (more : Steps step next rest last) : Steps step state ((name, json) :: rest) last

theorem Steps.append {step : σ → String → List Char → Reading σ} {start middle last : σ}
    {before after : List (String × Json)}
    (first : Steps step start before middle) (second : Steps step middle after last) :
    Steps step start (before ++ after) last := by
  induction first with
  | nil => exact second
  | cons reads _ ih => exact .cons reads (ih second)

theorem entriesUpTo_spelled {step : σ → String → List Char → Reading σ} {start last : σ}
    {entries : List (String × Json)} {count : Nat} (steps : Steps step start entries last)
    (spelled : SpellsEntries entries first inner) (enough : entries.length < count)
    (rest : List Char) :
    entriesUpTo step count first start (inner ++ rest) = .ok (last, '\x7d' :: rest) := by
  induction steps generalizing first inner count with
  | nil state =>
      obtain ⟨blank, is, rfl⟩ := spelled
      obtain ⟨count, rfl⟩ := Nat.exists_eq_succ_of_ne_zero (Nat.ne_of_gt enough)
      rw [List.append_assoc, entriesUpTo, List.singleton_append, nextKey_close is]
  | cons reads more ih =>
      obtain ⟨before, key, colon, own, inner, separator, quoted, isColon, ownSpelled, moreSpelled,
        rfl⟩ := spelled
      obtain ⟨count, rfl⟩ := Nat.exists_eq_succ_of_ne_zero (Nat.ne_zero_of_lt enough)
      have read := reads isColon ownSpelled (delimited_of_entries moreSpelled rest)
      have readMore := ih moreSpelled (Nat.lt_of_succ_lt_succ enough)
      simp only [List.append_assoc]
      rw [entriesUpTo, nextKey_spelled separator quoted]
      simp only [read, readMore]

theorem itemsUpTo_text {item : List Char → Reading α} {items : List Json} {values : List α}
    (reads : List.Forall₂ (ReadsText item) items values) (spelled : SpellsItems items true inner)
    (rest : List Char) :
    itemsUpTo item ((inner ++ rest).length + 1) true (inner ++ rest) =
      .ok (values, ']' :: rest) := by
  refine itemsUpTo_spelled reads spelled ?_ rest
  have fewer := length_items_lt spelled
  rw [List.length_append]
  omega

theorem entriesUpTo_text {step : σ → String → List Char → Reading σ} {start last : σ}
    {entries : List (String × Json)} (steps : Steps step start entries last)
    (spelled : SpellsEntries entries true inner) (rest : List Char) :
    entriesUpTo step ((inner ++ rest).length + 1) true start (inner ++ rest) =
      .ok (last, '\x7d' :: rest) := by
  refine entriesUpTo_spelled steps spelled ?_ rest
  have fewer := length_entries_lt spelled
  rw [List.length_append]
  omega

theorem closed_list {α : Type u} (value : α) (rest : List Char) :
    closed closeList (.ok (value, ']' :: rest)) = .ok (value, rest) := by
  simp [closed, closeList, skipBlanks, isBlank]

theorem closed_object {α : Type u} (value : α) (rest : List Char) :
    closed closeObject (.ok (value, '\x7d' :: rest)) = .ok (value, rest) := by
  simp [closed, closeObject, skipBlanks, isBlank]

theorem tree_scalar (scalar : IsScalar json) (depth : Nat) : ReadsText (tree depth) json json := by
  intro blank text rest is spelled delimited
  unfold tree
  rw [skipBlanks_spelled is spelled]
  simp only [scalar?_spelled scalar spelled delimited]

theorem tree_list {items : List Json}
    (reads : List.Forall₂ (ReadsText (tree depth)) items items) :
    ReadsText (tree (depth + 1)) (.list items) (.list items) := by
  intro blank text rest is spelled delimited
  have skipped := skipBlanks_spelled is spelled rest
  obtain ⟨inner, innerSpelled, rfl⟩ := spelled
  have read := itemsUpTo_text reads innerSpelled rest
  unfold tree
  rw [skipped]
  simp only [List.cons_append, scalar?, read, closed_list]
  rfl

theorem tree_object {entries : List (String × Json)}
    (steps : Steps (fun before name text =>
      (valueAfter (fun text => tree depth text) text).map
        fun (value, rest) => ((name, value) :: before, rest)) [] entries entries.reverse) :
    ReadsText (tree (depth + 1)) (.object entries) (.object entries) := by
  intro blank text rest is spelled delimited
  have skipped := skipBlanks_spelled is spelled rest
  obtain ⟨inner, innerSpelled, rfl⟩ := spelled
  have read := entriesUpTo_text steps innerSpelled rest
  unfold tree
  rw [skipped]
  simp only [List.cons_append, scalar?, read, closed_object]
  simp [Except.map]

mutual
/-- A value is read from each of its texts, if it is not nested too deep. -/
theorem reads_tree : ∀ (json : Json) {depth : Nat}, nesting json ≤ depth →
    ReadsText (tree depth) json json
  | .null, depth, _ | .bool _, depth, _ | .number _, depth, _ | .string _, depth, _ =>
      tree_scalar (by trivial) depth
  | .list items, 0, deep => by simp [nesting] at deep
  | .object entries, 0, deep => by simp [nesting] at deep
  | .list items, depth + 1, deep =>
      tree_list (reads_treeItems items (Nat.le_of_succ_le_succ deep))
  | .object entries, depth + 1, deep => by
      have steps := steps_tree entries [] (Nat.le_of_succ_le_succ deep)
      rw [List.append_nil] at steps
      exact tree_object steps

theorem reads_treeItems : ∀ (items : List Json) {depth : Nat}, nestingItems items ≤ depth →
    List.Forall₂ (ReadsText (tree depth)) items items
  | [], _, _ => .nil
  | item :: rest, _, deep =>
      have within := Nat.max_le.mp deep
      .cons (reads_tree item within.1) (reads_treeItems rest within.2)

theorem steps_tree : ∀ (entries before : List (String × Json)) {depth : Nat},
    nestingEntries entries ≤ depth →
    Steps (fun before name text =>
      (valueAfter (fun text => tree depth text) text).map
        fun (value, rest) => ((name, value) :: before, rest))
      before entries (entries.reverse ++ before)
  | [], before, _, _ => .nil before
  | (name, value) :: rest, before, depth, deep => by
      have within := Nat.max_le.mp deep
      have more := steps_tree rest ((name, value) :: before) within.2
      rw [List.reverse_cons, List.append_assoc, List.singleton_append]
      refine .cons ?_ more
      intro colon text after isColon spelled delimited
      have read := valueAfter_colon (reads_tree value within.1) isColon spelled delimited
      rw [read]
      rfl
end

theorem quotedText_print (value : String) : QuotedText value (printString value) :=
  ⟨_, stringText_print value.toList, rfl⟩

theorem spellsItems_following {item : Json} {rest : List Json}
    (spelled : SpellsItems (item :: rest) true inner) :
    SpellsItems (item :: rest) false (',' :: inner) := by
  obtain ⟨before, own, more, is, ownSpelled, moreSpelled, rfl⟩ := spelled
  exact ⟨',' :: before, own, more, ⟨[], before, blank_nil, is, rfl⟩, ownSpelled, moreSpelled, rfl⟩

theorem spellsEntries_following {entry : String × Json} {rest : List (String × Json)}
    (spelled : SpellsEntries (entry :: rest) true inner) :
    SpellsEntries (entry :: rest) false (',' :: inner) := by
  obtain ⟨before, key, colon, own, more, is, quoted, isColon, ownSpelled, moreSpelled, rfl⟩ :=
    spelled
  exact ⟨',' :: before, key, colon, own, more, ⟨[], before, blank_nil, is, rfl⟩, quoted, isColon,
    ownSpelled, moreSpelled, rfl⟩

theorem colonText_bare : ColonText [':'] :=
  ⟨[], [], blank_nil, blank_nil, rfl⟩

mutual
theorem spells_print : ∀ (json : Json), Exact json → Spells json json.print
  | .null, _ => rfl
  | .bool true, _ => rfl
  | .bool false, _ => rfl
  | .number _, exact => ⟨exact, rfl⟩
  | .string value, _ => quotedText_print value
  | .list items, exact => ⟨_, spells_printItems items exact, rfl⟩
  | .object entries, exact => ⟨_, spells_printEntries entries exact, rfl⟩

theorem spells_printItems : ∀ (items : List Json), ExactItems items →
    SpellsItems items true (printItems items ++ [']'])
  | [], _ => ⟨[], blank_nil, rfl⟩
  | [item], exact =>
      ⟨[], item.print, [']'], blank_nil, spells_print item exact.1, ⟨[], blank_nil, rfl⟩, rfl⟩
  | item :: next :: rest, exact => by
      have more := spellsItems_following (spells_printItems (next :: rest) exact.2)
      refine ⟨[], item.print, _, blank_nil, spells_print item exact.1, more, ?_⟩
      rw [printItems, List.append_assoc, List.cons_append, List.nil_append]
      exact List.cons_ne_nil _ _

theorem spells_printEntries : ∀ (entries : List (String × Json)), ExactEntries entries →
    SpellsEntries entries true (printEntries entries ++ ['\x7d'])
  | [], _ => ⟨[], blank_nil, rfl⟩
  | [(name, value)], exact => by
      refine ⟨[], printString name, [':'], value.print, ['\x7d'], blank_nil,
        quotedText_print name, colonText_bare, spells_print value exact.1, ⟨[], blank_nil, rfl⟩, ?_⟩
      simp [printEntries]
  | (name, value) :: next :: rest, exact => by
      have more := spellsEntries_following (spells_printEntries (next :: rest) exact.2)
      refine ⟨[], printString name, [':'], value.print, _, blank_nil, quotedText_print name,
        colonText_bare, spells_print value exact.1, more, ?_⟩
      simp [printEntries]
end

theorem newline_not_mem_printNumber {value : Number} (integer : value.IsInteger) :
    '\n' ∉ value.print := by
  cases value with
  | double value => exact integer.elim
  | natural value => exact newline_not_mem_printNat value.toNat
  | negative below =>
      exact List.not_mem_cons_of_ne_of_not_mem (by decide) (newline_not_mem_printNat _)

mutual
theorem newline_not_mem_print : ∀ (json : Json), Exact json → '\n' ∉ json.print
  | .null, _ => by decide
  | .bool true, _ => by decide
  | .bool false, _ => by decide
  | .number _, exact => newline_not_mem_printNumber exact
  | .string value, _ => newline_not_mem_printString value
  | .list items, exact => by
      have inside := newline_not_mem_printItems items exact
      simp [print, inside]
  | .object entries, exact => by
      have inside := newline_not_mem_printEntries entries exact
      simp [print, inside]

theorem newline_not_mem_printItems : ∀ (items : List Json), ExactItems items →
    '\n' ∉ printItems items
  | [], _ => List.not_mem_nil
  | [item], exact => newline_not_mem_print item exact.1
  | item :: next :: rest, exact => by
      have own := newline_not_mem_print item exact.1
      have others := newline_not_mem_printItems (next :: rest) exact.2
      simp [printItems, own, others]

theorem newline_not_mem_printEntries : ∀ (entries : List (String × Json)), ExactEntries entries →
    '\n' ∉ printEntries entries
  | [], _ => List.not_mem_nil
  | [(name, value)], exact => by
      have own := newline_not_mem_print value exact.1
      simp [printEntries, own, newline_not_mem_printString]
  | (name, value) :: next :: rest, exact => by
      have own := newline_not_mem_print value exact.1
      have others := newline_not_mem_printEntries (next :: rest) exact.2
      simp [printEntries, own, others, newline_not_mem_printString]
end

end LivePreview.Json
