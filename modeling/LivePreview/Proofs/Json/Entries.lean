import LivePreview.Json.Record
import LivePreview.Proofs.Json.Codec

namespace LivePreview.Json

/-! Objects as lists of all their entries, in the order of the text and with every repetition.  A
table is made of such a list, and a record that holds tables of one that holds lists: the readers of
both accept the same texts, and find the same faults in all others. -/

variable {α β γ δ σ τ : Type} {f : α → β}

/-- The reading of a value that something is made of. -/
def remake (f : α → β) (reading : Reading α) : Reading β :=
  reading.map fun (value, rest) => (f value, rest)

@[simp] theorem remake_ok (f : α → β) (value : α) (rest : List Char) :
    remake f (.ok (value, rest)) = .ok (f value, rest) := rfl

@[simp] theorem remake_error (f : α → β) (fault : Fault) :
    remake f (.error fault) = .error fault := rfl

theorem remake_remake (g : β → γ) (f : α → β) (reading : Reading α) :
    remake g (remake f reading) = remake (g ∘ f) reading := by
  cases reading <;> rfl

/-- One reader reads what another does, and then makes something of it. -/
def Mirrors (f : α → β) (read : Reader α) (other : Reader β) : Prop :=
  ∀ depth text, other depth text = remake f (read depth text)

theorem mirrors_id (read : Reader α) : Mirrors id read read := by
  intro depth text
  cases read depth text <;> rfl

theorem Mirrors.remake {read : Reader α} {other : Reader β} (mirrors : Mirrors f read other)
    {own : α → γ} {others : β → δ} {g : γ → δ} (same : others ∘ f = g ∘ own) :
    Mirrors g (fun depth text => remake own (read depth text))
      fun depth text => Json.remake others (other depth text) := by
  intro depth text
  simp only [mirrors depth text, remake_remake, same]

theorem closed_remake (close : List Char → List Char × Option Fault) (f : α → β)
    (body : Reading α) : closed close (remake f body) = remake f (closed close body) := by
  cases body with
  | error fault => cases fault <;> rfl
  | ok reading =>
      obtain ⟨value, rest⟩ := reading
      simp only [remake_ok, closed]
      split <;> rfl

theorem Mirrors.inObject {body : Reader α} {other : Reader β} (mirrors : Mirrors f body other) :
    Mirrors f (inObject body) (inObject other) := by
  intro depth text
  cases text with
  | nil => rfl
  | cons c rest =>
      cases depth with
      | zero => rfl
      | succ depth => rw [Json.inObject, Json.inObject, mirrors, closed_remake]

theorem Mirrors.inList {body : Reader α} {other : Reader β} (mirrors : Mirrors f body other) :
    Mirrors f (inList body) (inList other) := by
  intro depth text
  cases text with
  | nil => rfl
  | cons c rest =>
      cases depth with
      | zero => rfl
      | succ depth => rw [Json.inList, Json.inList, mirrors, closed_remake]

theorem Mirrors.valueAfter {read : Reader α} {other : Reader β} (mirrors : Mirrors f read other)
    (depth : Nat) (text : List Char) :
    valueAfter (other depth) text = Json.remake f (valueAfter (read depth) text) := by
  unfold Json.valueAfter
  split
  · rfl
  · exact mirrors depth _

theorem mirrors_entries {step : Nat → α → String → List Char → Reading α}
    {other : Nat → β → String → List Char → Reading β}
    (steps : ∀ depth state name text,
      other depth (f state) name text = remake f (step depth state name text)) (start : α) :
    Mirrors f (entries step start) (entries other (f start)) := by
  intro depth text
  unfold entries
  generalize text.length + 1 = count, true = first
  induction count generalizing first start text with
  | zero => rfl
  | succ count ih =>
      unfold entriesUpTo
      split
      next => rfl
      next => rfl
      next name rest key =>
          rw [steps]
          cases step depth start name rest with
          | error fault => rfl
          | ok reading => exact ih reading.1 reading.2 false

def asObject (body : Reader α) : Reader α := fun depth text =>
  match skipBlanks text with
  | '\x7b' :: rest => inObject body depth ('\x7b' :: rest)
  | text => .error (Codec.mismatch "a map" text)

theorem Mirrors.asObject {body : Reader α} {other : Reader β} (mirrors : Mirrors f body other) :
    Mirrors f (asObject body) (asObject other) := by
  intro depth text
  unfold Json.asObject
  split
  · exact mirrors.inObject depth _
  · rfl

/-- An object with all its entries. -/
def Codec.listing (codec : Codec α) : Codec (List (String × α)) where
  read :=
    asObject (entries (fun depth before name text =>
      remake (fun value => before ++ [(name, value)]) (valueAfter (codec.read depth) text)) [])
  take
    | .object entries => takeEntries codec.take entries
    | value => .error (.wrongKind value.found "a map")
  write entries := .object (entries.map fun entry => (entry.1, codec.write entry.2))

theorem ofList_concat (before : List (String × α)) (name : String) (value : α) :
    Table.ofList (before ++ [(name, value)]) = (Table.ofList before).put name value := by
  rw [Table.ofList_eq_foldl, Table.ofList_eq_foldl, List.foldl_append]
  rfl

theorem mirrors_table (codec : Codec α) :
    Mirrors Table.ofList codec.listing.read codec.table.read := by
  refine Mirrors.asObject (mirrors_entries ?_ [])
  intro depth before name text
  rw [remake_remake]
  exact congrArg (remake · _) (funext fun value => (ofList_concat before name value).symm)

/-- Two fields of one name, one made of the other. -/
structure Field.Over (f : α → β) (own : Field α) (other : Field β) : Prop where
  name : other.name = own.name
  aliases : other.aliases = own.aliases
  read : Mirrors f own.codec.read other.codec.read
  absent : other.absent = own.absent.map f
  droppable : other.droppable = own.droppable

theorem Field.over_id (own : Field α) : own.Over id own :=
  ⟨rfl, rfl, mirrors_id _, by simp, rfl⟩

theorem Field.Over.accepts_eq {own : Field α} {other : Field β} (made : own.Over f other)
    (name : String) : other.accepts name = own.accepts name := by
  rw [accepts, accepts, made.name, made.aliases]

/-- Fields that are made of others one by one; the functions do the same to what has been found so
far and to the values. -/
inductive Fields.Over : {σ τ γ δ : Type} → (σ → τ) → (γ → δ) → Fields σ γ → Fields τ δ → Prop
  | done : Over id id .done .done
  | field {α β σ τ γ δ : Type} {f : α → β} {g : σ → τ} {h : γ → δ} {own : Field α} {other : Field β}
      {more : Fields σ γ} {others : Fields τ δ} (head : own.Over f other)
      (tail : Over g h more others) :
      Over (Prod.map (Option.map f) g) (Prod.map f h) (.field own more) (.field other others)

inductive Slot.Over (g : σ → τ) : Slot σ → Slot τ → Prop
  | unknown : Over g .unknown .unknown
  | taken (name : String) : Over g (.taken name) (.taken name)
  | free {read : Reader σ} {other : Reader τ} {take : Json → Except Cause σ}
      {otherTake : Json → Except Cause τ} (reads : Mirrors g read other) :
      Over g (.free read take) (.free other otherTake)

theorem Slot.Over.map {slot : Slot σ} {other : Slot τ} {k : σ → τ} (made : Slot.Over k slot other)
    {own : σ → γ} {others : τ → δ} {g : γ → δ} (same : others ∘ k = g ∘ own) :
    Slot.Over g (slot.map own) (other.map others) := by
  cases made with
  | unknown => exact .unknown
  | taken name => exact .taken name
  | free reads => exact .free (reads.remake same)

namespace Fields

variable {g : σ → τ} {h : γ → δ} {fields : Fields σ γ} {others : Fields τ δ}

theorem Over.count_eq (made : Over g h fields others) : others.count = fields.count := by
  induction made with
  | done => rfl
  | field _ _ ih => exact congrArg (· + 1) ih

theorem Over.blank_eq (made : Over g h fields others) : others.blank = g fields.blank := by
  induction made with
  | done => rfl
  | field _ _ ih => exact congrArg (none, ·) ih

theorem Over.slot (made : Over g h fields others) (found : σ) (name : String) :
    Slot.Over g (fields.slot found name) (others.slot (g found) name) := by
  induction made with
  | done => exact .unknown
  | field head _ ih =>
      obtain ⟨value, rest⟩ := found
      simp only [Fields.slot, Prod.map, head.accepts_eq]
      split
      · cases value with
        | some value =>
            rw [head.name]
            exact .taken _
        | none =>
            refine .free fun depth text => ?_
            rw [head.read depth text]
            cases Codec.read _ depth text <;> rfl
      · exact (ih rest).map rfl

theorem Over.readEntry (made : Over g h fields others) (depth : Nat) (found : σ) (name : String)
    (text : List Char) :
    others.readEntry depth (g found) name text =
      remake g (fields.readEntry depth found name text) := by
  have slots := made.slot found name
  unfold Fields.readEntry
  generalize fields.slot found name = slot, others.slot (g found) name = other at slots
  cases slots with
  | unknown =>
      cases colon text with
      | error fault => rfl
      | ok rest =>
          simp only
          cases pass rest <;> rfl
  | taken name => rfl
  | free reads => exact reads.valueAfter depth text

theorem Over.collect (made : Over g h fields others) (found : σ) :
    others.collect (g found) = (fields.collect found).map h := by
  induction made with
  | done => rfl
  | @field α β σ τ γ δ f g h own other more others head _ ih =>
      obtain ⟨value, rest⟩ := found
      have given : (value.map f <|> other.absent) = (value <|> own.absent).map f := by
        cases value with
        | some value => rfl
        | none => exact head.absent
      simp only [Fields.collect, Prod.map, given, ih, head.name]
      cases value <|> own.absent with
      | none => rfl
      | some value =>
          simp only [Option.map_some]
          cases more.collect rest <;> rfl

theorem Over.readObject (made : Over g h fields others) :
    Mirrors h fields.readObject others.readObject := by
  intro depth text
  have read := mirrors_entries made.readEntry fields.blank depth text
  rw [← made.blank_eq] at read
  unfold Fields.readObject
  rw [read]
  cases entries fields.readEntry fields.blank depth text with
  | error fault => rfl
  | ok reading =>
      obtain ⟨found, rest⟩ := reading
      simp only [remake_ok, made.collect]
      cases fields.collect found <;> rfl

theorem Over.readItems (made : Over g h fields others) (whole : String) (position : Nat) :
    Mirrors h (fields.readItems whole position) (others.readItems whole position) := by
  induction made generalizing position with
  | done =>
      intro depth text
      rfl
  | @field α β σ τ γ δ f g h own other more others head _ ih =>
      intro depth text
      unfold Fields.readItems
      cases nextItem (position == 0) text with
      | error fault => rfl
      | ok reading =>
          obtain ⟨there, rest⟩ := reading
          have goesOn (value : α) (rest : List Char) :
              remake (f value, ·) (others.readItems whole (position + 1) depth rest) =
                remake (Prod.map f h)
                  (remake (value, ·) (more.readItems whole (position + 1) depth rest)) := by
            rw [ih, remake_remake, remake_remake]
            rfl
          cases there with
          | true =>
              simp only [if_true]
              rw [head.read depth rest]
              cases own.codec.read depth rest with
              | error fault => rfl
              | ok reading => exact goesOn reading.1 reading.2
          | false =>
              simp only [Bool.false_eq_true, if_false, head.droppable, head.absent]
              cases own.droppable with
              | false => rfl
              | true =>
                  cases own.absent with
                  | none => rfl
                  | some value => exact goesOn value rest

end Fields

/-- Of two records of one name, whose fields are made of one another, so are the values; what parses
as the one parses as the other. -/
theorem Record.mirrors {record : Record α} {other : Record β} {g : record.found → other.found}
    {h : record.parts → other.parts} (name : other.name = record.name)
    (made : Fields.Over g h record.fields other.fields) (same : other.make ∘ h = f ∘ record.make) :
    Mirrors f record.read other.read := by
  have title : other.title = record.title := by rw [Record.title, Record.title, name]
  have whole : other.whole = record.whole := by
    rw [Record.whole, Record.whole, title, made.count_eq]
  intro depth text
  unfold Record.read Entering.read
  simp only [title, whole]
  split
  · exact ((made.readItems record.whole 0).remake same).inList depth _
  · exact (made.readObject.remake same).inObject depth _
  · rfl

theorem Codec.parse_of_mirrors {codec : Codec α} {other : Codec β}
    (mirrors : Mirrors f codec.read other.read) (text : String) :
    other.parse text = (codec.parse text).map f := by
  unfold Codec.parse
  simp only [mirrors depthLimit text.toList]
  cases codec.read depthLimit text.toList with
  | error fault => rfl
  | ok reading =>
      obtain ⟨value, rest⟩ := reading
      simp only [remake_ok]
      split <;> rfl

end LivePreview.Json
