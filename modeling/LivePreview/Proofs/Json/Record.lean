import LivePreview.Json.Record
import LivePreview.Proofs.Json.Codec

namespace LivePreview.Json

/-! What records read, and that they regain what they write. -/

variable {α β σ γ : Type} {json : Json} {value : α} {depth : Nat} {inner rest : List Char}
variable {entries : List (String × Json)}

/-- What stands under a name, in an object. -/
def field? (json : Json) (name : String) : Option Json :=
  match json with
  | .object entries => Entries.find? entries name
  | _ => none

theorem Entering.read_object {body : Entering α}
    (inside : ∀ {inner rest : List Char}, SpellsEntries entries true inner →
      body.object depth (inner ++ rest) = .ok (value, '\x7d' :: rest)) :
    ReadsText (body.read (depth + 1)) (.object entries) value := by
  intro blank text rest is spelled delimited
  have skipped := skipBlanks_spelled is spelled rest
  obtain ⟨inner, innerSpelled, rfl⟩ := spelled
  unfold Entering.read
  rw [skipped]
  simp only [List.cons_append, inObject, inside innerSpelled, closed_object]

namespace Fields

/-- The entry is for a field that has not been given before, and leads from one state to the
next. -/
def Fills (fields : Fields σ γ) (found : σ) (entry : String × Json) (next : σ) : Prop :=
  ∃ read take, fields.slot found entry.1 = .free read take ∧ Reads read take entry.2 next

theorem fills_own {own : Field β} {more : Fields σ γ} {value : β} {name : String}
    (accepts : own.accepts name = true) (reads : own.codec.Reads json value) (others : σ) :
    (Fields.field own more).Fills (none, others) (name, json) (some value, others) :=
  ⟨_, _, by simp only [slot, accepts, if_true], reads.map fun value => (some value, others)⟩

theorem fills_other {own : Field β} {more : Fields σ γ} {others next : σ} {entry : String × Json}
    (apart : own.accepts entry.1 = false) (fills : more.Fills others entry next)
    (value : Option β) : (Fields.field own more).Fills (value, others) entry (value, next) := by
  obtain ⟨read, take, free, reads⟩ := fills
  refine ⟨_, _, ?_, reads.map fun others => (value, others)⟩
  simp only [slot, apart, Bool.false_eq_true, if_false, free, Slot.map]

/-- Every entry is for another field. -/
inductive Filled (fields : Fields σ γ) : σ → List (String × Json) → σ → Prop
  | nil (found : σ) : Filled fields found [] found
  | cons {found next last : σ} {entry : String × Json} {rest : List (String × Json)}
      (own : fields.Fills found entry next) (more : Filled fields next rest last) :
      Filled fields found (entry :: rest) last

theorem Filled.beside {more : Fields σ γ} {found last : σ}
    (filled : more.Filled found entries last) {own : Field β}
    (apart : ∀ entry ∈ entries, own.accepts entry.1 = false) (value : Option β) :
    (Fields.field own more).Filled (value, found) entries (value, last) := by
  induction filled with
  | nil found => exact .nil _
  | cons fills _ ih =>
      have head := apart _ (List.mem_cons_self ..)
      exact .cons (fills_other head fills value)
        (ih fun entry member => apart entry (List.mem_cons_of_mem _ member))

theorem Filled.steps {fields : Fields σ γ} {found last : σ}
    (filled : fields.Filled found entries last) (within : nestingEntries entries ≤ depth) :
    Steps (fields.readEntry depth) found entries last := by
  induction filled with
  | nil found => exact .nil found
  | cons fills _ ih =>
      obtain ⟨read, take, free, reads⟩ := fills
      have both := Nat.max_le.mp within
      refine .cons ?_ (ih both.2)
      intro colon text after isColon spelled delimited
      simp only [readEntry, free]
      exact valueAfter_colon (reads.text both.1) isColon spelled delimited

theorem Filled.taken {fields : Fields σ γ} {found last : σ}
    (filled : fields.Filled found entries last) :
    entries.foldlM fields.takeEntry found = .ok last := by
  induction filled with
  | nil found => rfl
  | cons fills _ ih =>
      obtain ⟨read, take, free, reads⟩ := fills
      rw [List.foldlM_cons, takeEntry, free]
      simp only [reads.take]
      exact ih

theorem Filled.readObject {fields : Fields σ γ} {last : σ} {values : γ}
    (filled : fields.Filled fields.blank entries last)
    (collected : fields.collect last = .ok values)
    (within : nestingEntries entries ≤ depth) (spelled : SpellsEntries entries true inner) :
    fields.readObject depth (inner ++ rest) = .ok (values, '\x7d' :: rest) := by
  have read := entriesUpTo_text (filled.steps within) spelled rest
  simp only [Fields.readObject, Json.entries, read, collected]

theorem Filled.takeObject {fields : Fields σ γ} {last : σ} {values : γ}
    (filled : fields.Filled fields.blank entries last)
    (collected : fields.collect last = .ok values) : fields.takeObject entries = .ok values := by
  rw [Fields.takeObject, filled.taken]
  exact collected

theorem Filled.reads {fields : Fields σ γ} {last : σ} {values : γ} {body : Entering α}
    {make : γ → α} {take : Json → Except Cause α}
    (filled : fields.Filled fields.blank entries last)
    (collected : fields.collect last = .ok values)
    (reading : ∀ depth text, body.object depth text =
      (fields.readObject depth text).map fun (values, rest) => (make values, rest))
    (taking : take (.object entries) = (fields.takeObject entries).map make) :
    Reads body.read take (.object entries) (make values) where
  text {depth} within := by
    obtain ⟨depth, rfl⟩ := Nat.exists_eq_succ_of_ne_zero (Nat.ne_zero_of_lt within)
    refine Entering.read_object ?_
    intro inner rest spelled
    rw [reading, filled.readObject collected (Nat.le_of_succ_le_succ within) spelled]
    rfl
  take := by
    rw [taking, filled.takeObject collected]
    rfl

end Fields

theorem Record.reads {record : Record α} {last : record.found} {parts : record.parts}
    (filled : record.fields.Filled record.fields.blank entries last)
    (collected : record.fields.collect last = .ok parts) :
    record.codec.Reads (.object entries) (record.make parts) :=
  filled.reads collected (fun _ _ => rfl) rfl

def Codec.Regains (codec : Codec α) (value : α) : Prop :=
  codec.Reads (codec.write value) value

/-- A value that is left out is the one that a missing field stands for. -/
def Field.Regains (own : Field β) (value : β) : Prop :=
  if own.omitted value then own.absent = some value else own.codec.Regains value

namespace Fields

def names {σ γ : Type} : Fields σ γ → List String
  | .done => []
  | .field own more => own.name :: more.names

/-- No name is taken for an earlier field. -/
def Distinct {σ γ : Type} : Fields σ γ → Prop
  | .done => True
  | .field own more => (∀ name ∈ more.names, own.accepts name = false) ∧ more.Distinct

def Regains {σ γ : Type} : Fields σ γ → γ → Prop
  | .done, _ => True
  | .field own more, (value, others) => own.Regains value ∧ more.Regains others

/-- What is written for each field, be it left out or not, has the property. -/
def AllWritten (holds : Json → Prop) {σ γ : Type} : Fields σ γ → γ → Prop
  | .done, _ => True
  | .field own more, (value, others) =>
    holds (own.codec.write value) ∧ more.AllWritten holds others

theorem forall_write {holds : Json → Prop} {fields : Fields σ γ} {values : γ}
    (all : fields.AllWritten holds values) : ∀ entry ∈ fields.write values, holds entry.2 := by
  induction fields with
  | done => nofun
  | field own more ih =>
      obtain ⟨value, others⟩ := values
      simp only [write]
      split
      · exact ih all.2
      · exact List.forall_mem_cons.mpr ⟨all.1, ih all.2⟩

theorem name_mem_names (fields : Fields σ γ) (values : γ) :
    ∀ entry ∈ fields.write values, entry.1 ∈ fields.names := by
  induction fields with
  | done => intro entry member; cases member
  | field own more ih =>
      obtain ⟨value, others⟩ := values
      intro entry member
      simp only [write] at member
      split at member
      · exact List.mem_cons_of_mem _ (ih others entry member)
      · rcases List.mem_cons.mp member with rfl | member
        · exact List.mem_cons_self ..
        · exact List.mem_cons_of_mem _ (ih others entry member)

theorem filled_write (fields : Fields σ γ) (distinct : fields.Distinct) {values : γ}
    (regains : fields.Regains values) :
    ∃ last, fields.Filled fields.blank (fields.write values) last ∧
      fields.collect last = .ok values := by
  induction fields with
  | done => exact ⟨(), .nil _, rfl⟩
  | field own more ih =>
      obtain ⟨value, others⟩ := values
      obtain ⟨apart, distinct⟩ := distinct
      obtain ⟨ownRegains, regains⟩ := regains
      obtain ⟨last, filled, collected⟩ := ih distinct regains
      have beside (given : Option _) :
          (Fields.field own more).Filled (given, more.blank) (more.write others) (given, last) :=
        filled.beside (fun entry member => apart _ (more.name_mem_names others entry member)) given
      simp only [write]
      unfold Field.Regains at ownRegains
      split at ownRegains
      next omitted =>
          refine ⟨(none, last), ?_, ?_⟩
          · rw [if_pos omitted]
            exact beside none
          · simp [collect, ownRegains, collected, Except.map]
      next kept =>
          refine ⟨(some value, last), ?_, ?_⟩
          · have fills : (Fields.field own more).Fills (none, more.blank)
                (own.name, own.codec.write value) (some value, more.blank) :=
              fills_own (by simp [Field.accepts]) ownRegains more.blank
            rw [if_neg kept]
            exact .cons fills (beside (some value))
          · simp [collect, collected, Except.map]

end Fields

theorem Record.regains {record : Record α} (distinct : record.fields.Distinct)
    (whole : record.make (record.split value) = value)
    (regains : record.fields.Regains (record.split value)) : record.codec.Regains value := by
  obtain ⟨last, filled, collected⟩ := record.fields.filled_write distinct regains
  have reads := Record.reads filled collected
  rwa [whole] at reads

theorem Codec.plain_option {codec : Codec α} {value : Option α}
    (held : ∀ held, value = some held → Plain depth (codec.write held)) :
    Plain depth (codec.option.write value) := by
  cases value with
  | none => exact plain_null depth
  | some value => exact held value rfl

theorem Codec.regains_any (settled : json.settled = json) : any.Regains json := by
  have reads := reads_any json
  rwa [settled] at reads

theorem settledEntries_eq {entries : List (String × Json)}
    (settled : ∀ entry ∈ entries, entry.2.settled = entry.2) :
    settledEntries entries = entries := by
  induction entries with
  | nil => rfl
  | cons entry rest ih =>
      obtain ⟨own, others⟩ := List.forall_mem_cons.mp settled
      rw [settledEntries, own, ih others]

theorem Codec.regains_option {codec : Codec α} {value : Option α}
    (regains : ∀ held, value = some held → codec.Regains held ∧ codec.write held ≠ .null) :
    codec.option.Regains value := by
  cases value with
  | none => exact reads_none codec
  | some held => exact reads_some (regains held rfl).1 (regains held rfl).2

theorem string_ne_null (value : String) : Json.string value ≠ .null := by
  intro same
  cases same

theorem number_ne_null (value : Number) : Json.number value ≠ .null := by
  intro same
  cases same

theorem Codec.regains_optional_string (value : Option String) : string.option.Regains value :=
  regains_option fun held _ => ⟨reads_string held, string_ne_null held⟩

theorem Codec.regains_optional_word32 (value : Option UInt32) : word32.option.Regains value :=
  regains_option fun held _ => ⟨reads_word32 held, number_ne_null _⟩

theorem Codec.regains_optional_variant {variants : List (String × α)} {print : α → String}
    (regains : ∀ value, (enumeration variants print).Regains value) (value : Option α) :
    (enumeration variants print).option.Regains value :=
  regains_option fun held _ => ⟨regains held, string_ne_null (print held)⟩

theorem Codec.plain_optional_string (depth : Nat) (value : Option String) :
    Plain depth (string.option.write value) :=
  plain_option fun held _ => plain_string depth held

theorem Codec.plain_optional_word32 (depth : Nat) (value : Option UInt32) :
    Plain depth (word32.option.write value) :=
  plain_option fun held _ => plain_word32 depth held

theorem Codec.plain_optional_variant {variants : List (String × α)} {print : α → String}
    (depth : Nat) (value : Option α) :
    Plain depth ((enumeration variants print).option.write value) :=
  plain_option fun held _ => plain_string depth (print held)

theorem Codec.regains_list {codec : Codec α} {values : List α}
    (regains : ∀ value ∈ values, codec.Regains value) : codec.list.Regains values := by
  refine reads_list ?_
  rw [List.forall₂_map_left_iff]
  exact List.forall₂_same.mpr regains

theorem Codec.regains_table {codec : Codec α} {table : Table α}
    (regains : ∀ entry ∈ table.entries, codec.Regains entry.2) : codec.table.Regains table := by
  have reads : codec.ReadsEntries
      (table.entries.map fun entry => (entry.1, codec.write entry.2)) table.entries := by
    rw [ReadsEntries, List.forall₂_map_left_iff]
    exact List.forall₂_same.mpr fun entry member => ⟨rfl, regains entry member⟩
  have regained := reads_table reads
  rwa [Table.ofList_entries] at regained

end LivePreview.Json
