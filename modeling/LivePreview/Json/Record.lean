import LivePreview.Json.Codec

namespace LivePreview.Json

/-! Records: an object of known names, or a list of the fields in their order. -/

structure Field (β : Type) where
  name : String
  /-- Other names it is read under. -/
  aliases : List String
  codec : Codec β
  /-- What a missing field stands for. -/
  absent : Option β
  /-- Whether it may also be missing at the end of a list. -/
  droppable : Bool
  /-- Whether it is left out when written. -/
  omitted : β → Bool

namespace Field

def required (name : String) (codec : Codec β) : Field β :=
  ⟨name, [], codec, none, false, fun _ => false⟩

/-- Missing means nothing. -/
def optional (name : String) (codec : Codec β) : Field (Option β) :=
  ⟨name, [], codec.option, some none, false, fun _ => false⟩

def defaulted (name : String) (codec : Codec β) (default : β) : Field β :=
  ⟨name, [], codec, some default, true, fun _ => false⟩

def accepts (field : Field β) (name : String) : Bool :=
  name == field.name || field.aliases.contains name

end Field

/-- Fields in their order.  The first index is what has been found of them so far, the second
their values. -/
inductive Fields : Type → Type → Type 1
  | done : Fields Unit Unit
  | field {β σ γ : Type} (own : Field β) (more : Fields σ γ) : Fields (Option β × σ) (β × γ)

/-- What a name means to a record that has been read in part. -/
inductive Slot (σ : Type)
  | unknown
  | taken (name : String)
  | free (read : Reader σ) (take : Json → Except Cause σ)

namespace Slot

def map (f : σ → τ) : Slot σ → Slot τ
  | .unknown => .unknown
  | .taken name => .taken name
  | .free read take =>
    .free (fun depth text => (read depth text).map fun (found, rest) => (f found, rest))
      (fun value => (take value).map f)

end Slot

namespace Fields

def count : Fields σ γ → Nat
  | .done => 0
  | .field _ more => more.count + 1

def blank : Fields σ γ → σ
  | .done => ()
  | .field _ more => (none, more.blank)

def slot : Fields σ γ → σ → String → Slot σ
  | .done, _, _ => .unknown
  | .field own more, (value, others), name =>
    if own.accepts name then
      match value with
      | some _ => .taken own.name
      | none =>
        .free
          (fun depth text =>
            (own.codec.read depth text).map fun (value, rest) => ((some value, others), rest))
          (fun value => (own.codec.take value).map fun value => (some value, others))
    else (more.slot others name).map fun others => (value, others)

/-- The values, unless a field that must be there is missing; the first such field is named. -/
def collect : Fields σ γ → σ → Except Cause γ
  | .done, _ => .ok ()
  | .field own more, (value, others) =>
    match value <|> own.absent with
    | none => .error (.missingField own.name)
    | some value => (more.collect others).map fun values => (value, values)

/-- One entry of an object; names that are not known are passed over. -/
def readEntry (fields : Fields σ γ) (depth : Nat) (found : σ) (name : String) (text : List Char) :
    Reading σ :=
  match fields.slot found name with
  | .unknown =>
    match colon text with
    | .error fault => .error fault
    | .ok rest => (pass rest).map fun rest => (found, rest)
  | .taken name => .error (.adrift (.duplicateField name) text)
  | .free read _ => valueAfter (read depth) text

def readObject (fields : Fields σ γ) : Reader γ := fun depth text =>
  match entries fields.readEntry fields.blank depth text with
  | .error fault => .error fault
  | .ok (found, rest) =>
    match fields.collect found with
    | .ok values => .ok (values, rest)
    | .error cause => .error (.adrift cause rest)

/-- The fields from a list, `position` of them being read already. -/
def readItems (whole : String) : Fields σ γ → Nat → Reader γ
  | .done, _, _, text => .ok ((), text)
  | .field own more, position, depth, text =>
    match nextItem (position == 0) text with
    | .error fault => .error fault
    | .ok (there, rest) =>
      let own : Reading _ :=
        if there then own.codec.read depth rest
        else
          match own.droppable, own.absent with
          | true, some value => .ok (value, rest)
          | _, _ => .error (.adrift (.wrongLength position whole) rest)
      match own with
      | .error fault => .error fault
      | .ok (value, rest) =>
        (more.readItems whole (position + 1) depth rest).map
          fun (values, rest) => ((value, values), rest)

def takeEntry (fields : Fields σ γ) (found : σ) (entry : String × Json) : Except Cause σ :=
  match fields.slot found entry.1 with
  | .unknown => .ok found
  | .taken name => .error (.duplicateField name)
  | .free _ take => take entry.2

def takeObject (fields : Fields σ γ) (entries : List (String × Json)) : Except Cause γ := do
  fields.collect (← entries.foldlM fields.takeEntry fields.blank)

def takeItems (whole : String) : Fields σ γ → Nat → List Json → Except Cause (γ × List Json)
  | .done, _, values => .ok ((), values)
  | .field own more, position, values => do
    let (value, values) ←
      match values with
      | value :: values => (own.codec.take value).map fun value => (value, values)
      | [] =>
        match own.droppable, own.absent with
        | true, some value => .ok (value, [])
        | _, _ => .error (.wrongLength position whole)
    let (others, values) ← more.takeItems whole (position + 1) values
    return ((value, others), values)

def write : Fields σ γ → γ → List (String × Json)
  | .done, _ => []
  | .field own more, (value, others) =>
    if own.omitted value then more.write others
    else (own.name, own.codec.write value) :: more.write others

end Fields

/-- A named record type with its fields, and how a value is made of them and split into them. -/
structure Record (α : Type) where
  name : String
  {found : Type}
  {parts : Type}
  fields : Fields found parts
  make : parts → α
  split : α → parts

/-- A body that may be `null`, a list or an object, each only where it is accepted.  Lists and
objects are entered before they are refused. -/
structure Entering (α : Type) where
  expected : String
  null : Option α
  list : Reader α
  object : Reader α

namespace Entering

def refuseList (expected : String) : Reader α := fun _ text =>
  .error (.adrift (.wrongKind .sequence expected) text)

def refuseObject (expected : String) : Reader α := fun _ text =>
  .error (.adrift (.wrongKind .map expected) text)

def read (body : Entering α) : Reader α := fun depth text =>
  match skipBlanks text with
  | '[' :: rest => inList body.list depth ('[' :: rest)
  | '\x7b' :: rest => inObject body.object depth ('\x7b' :: rest)
  | text =>
    match body.null with
    | none => .error (Codec.mismatch body.expected text)
    | some value =>
      Codec.scalar body.expected
        (fun found =>
          match found with
          | .null => .ok value
          | found => .error (.wrongKind found.found body.expected))
        depth text

end Entering

namespace Record

def title (record : Record α) : String :=
  "struct " ++ record.name

def whole (record : Record α) : String :=
  record.title ++ " with " ++ String.ofList (printNat record.fields.count) ++
    (if record.fields.count = 1 then " element" else " elements")

def read (record : Record α) : Reader α :=
  Entering.read
    { expected := record.title
      null := none
      list := fun depth text =>
        (record.fields.readItems record.whole 0 depth text).map
          fun (values, rest) => (record.make values, rest)
      object := fun depth text =>
        (record.fields.readObject depth text).map
          fun (values, rest) => (record.make values, rest) }

def lengthText (count : Nat) : String :=
  String.ofList (printNat count) ++ (if count = 1 then " element" else " elements") ++
    " in sequence"

def take (record : Record α) : Json → Except Cause α
  | .object entries => (record.fields.takeObject entries).map record.make
  | .list values => do
    let (parts, surplus) ← record.fields.takeItems record.whole 0 values
    if surplus.isEmpty then return record.make parts
    else .error (.wrongLength values.length (lengthText (values.length - surplus.length)))
  | value => .error (.wrongKind value.found record.title)

def entries (record : Record α) (value : α) : List (String × Json) :=
  record.fields.write (record.split value)

def codec (record : Record α) : Codec α :=
  ⟨record.read, record.take, fun value => .object (record.entries value)⟩

end Record

end LivePreview.Json
