import LivePreview.Json.Record

namespace LivePreview.Json

/-! Envelopes: an object of a `type` and a `payload`, in either order, or the list of both. -/

/-- One type of envelope, and how its payload is read. -/
structure Variant (α : Type) where
  name : String
  /-- The value when no payload is given. -/
  bare : Option α
  read : Reader α
  take : Json → Except Cause α

namespace Variant

/-- Without a payload, or with `null`. -/
def unit (type name case : String) (value : α) : Variant α :=
  let expected := "unit variant " ++ type ++ "::" ++ case
  { name
    bare := some value
    read := Entering.read
      { expected
        null := some value
        list := Entering.refuseList expected
        object := Entering.refuseObject expected }
    take
      | .null => .ok value
      | found => .error (.wrongKind found.found expected) }

def fields (type name case : String) (fields : Fields σ γ) (make : γ → α) : Variant α :=
  let expected := "struct variant " ++ type ++ "::" ++ case
  { name
    bare := none
    read := Entering.read
      { expected
        null := none
        list := Entering.refuseList expected
        object := fun depth text =>
          (fields.readObject depth text).map fun (values, rest) => (make values, rest) }
    take
      | .object entries => (fields.takeObject entries).map make
      | found => .error (.wrongKind found.found expected) }

def carrying (name : String) (codec : Codec β) (make : β → α) : Variant α :=
  { name
    bare := none
    read depth text := (codec.read depth text).map fun (value, rest) => (make value, rest)
    take value := (codec.take value).map make }

end Variant

namespace Envelope

inductive Key
  | type
  | payload
deriving DecidableEq, Repr

def Key.name : Key → String
  | .type => "type"
  | .payload => "payload"

def key? (name : String) : Option Key :=
  if name = Key.type.name then some .type
  else if name = Key.payload.name then some .payload
  else none

/-- The next name that matters; at most `count` others are passed over. -/
def nextOwnKey : Nat → Bool → List Char → Reading (Option Key)
  | 0, _, text => .error (.adrift .endInObject text)
  | count + 1, first, text =>
    match nextKey first text with
    | .error fault => .error fault
    | .ok (none, rest) => .ok (none, rest)
    | .ok (some name, rest) =>
      match key? name with
      | some key => .ok (some key, rest)
      | none =>
        match colon rest with
        | .error fault => .error fault
        | .ok rest =>
          match pass rest with
          | .error fault => .error fault
          | .ok rest => nextOwnKey count false rest

def ownKey (first : Bool) (text : List Char) : Reading (Option Key) :=
  nextOwnKey (text.length + 1) first text

def missing (key : Key) (rest : List Char) : Reading α :=
  .error (.adrift (.missingField key.name) rest)

def duplicate (key : Key) (rest : List Char) : Reading α :=
  .error (.adrift (.duplicateField key.name) rest)

/-- Neither name may come again. -/
def noMore (value : α) (text : List Char) : Reading α :=
  match ownKey false text with
  | .error fault => .error fault
  | .ok (some key, rest) => duplicate key rest
  | .ok (none, rest) => .ok (value, rest)

def tags (variants : List (Variant α)) : List (String × Variant α) :=
  variants.map fun variant => (variant.name, variant)

/-- After a type that came first. -/
def payloadAfter (variant : Variant α) (depth : Nat) (text : List Char) : Reading α :=
  match ownKey false text with
  | .error fault => .error fault
  | .ok (some .type, rest) => duplicate .type rest
  | .ok (some .payload, rest) =>
    match valueAfter (variant.read depth) rest with
    | .error fault => .error fault
    | .ok (value, rest) => noMore value rest
  | .ok (none, rest) =>
    match variant.bare with
    | some value => .ok (value, rest)
    | none => missing .payload rest

/-- After a payload that came first and is kept as a value. -/
def typeAfter (variants : List (Variant α)) (payload : Json) (depth : Nat) (text : List Char) :
    Reading α :=
  match ownKey false text with
  | .error fault => .error fault
  | .ok (some .payload, rest) => duplicate .payload rest
  | .ok (none, rest) => missing .type rest
  | .ok (some .type, rest) =>
    match valueAfter (Codec.readVariant (tags variants) depth) rest with
    | .error fault => .error fault
    | .ok (variant, rest) =>
      match variant.take payload with
      | .error cause => .error (.adrift cause rest)
      | .ok value => noMore value rest

def readObject (variants : List (Variant α)) : Reader α := fun depth text =>
  match ownKey true text with
  | .error fault => .error fault
  | .ok (none, rest) => missing .type rest
  | .ok (some .type, rest) =>
    match valueAfter (Codec.readVariant (tags variants) depth) rest with
    | .error fault => .error fault
    | .ok (variant, rest) => payloadAfter variant depth rest
  | .ok (some .payload, rest) =>
    match valueAfter (tree depth) rest with
    | .error fault => .error fault
    | .ok (payload, rest) => typeAfter variants payload depth rest

def readList (expected : String) (variants : List (Variant α)) : Reader α := fun depth text =>
  match nextItem true text with
  | .error fault => .error fault
  | .ok (false, rest) => .error (.adrift (.wrongLength 0 expected) rest)
  | .ok (true, rest) =>
    match Codec.tag (tags variants) depth rest with
    | .error fault => .error fault
    | .ok (variant, rest) =>
      match nextItem false rest with
      | .error fault => .error fault
      | .ok (false, rest) => .error (.adrift (.wrongLength 1 expected) rest)
      | .ok (true, rest) => variant.read depth rest

def read (type : String) (variants : List (Variant α)) : Reader α :=
  let expected := "adjacently tagged enum " ++ type
  Entering.read
    { expected
      null := none
      list := readList expected variants
      object := readObject variants }

def write (type : String) (payload : Option Json) : Json :=
  .object (("type", .string type) :: (payload.map fun payload => ("payload", payload)).toList)

@[simp] theorem write_none (type : String) :
    write type none = .object [("type", .string type)] := rfl

@[simp] theorem write_some (type : String) (payload : Json) :
    write type (some payload) = .object [("type", .string type), ("payload", payload)] := rfl

/-- In a value read already the type decides, whatever the order of the two. -/
def take (type : String) (variants : List (Variant α)) : Json → Except Cause α
  | .object entries =>
    match Entries.find? entries Key.type.name with
    | none => .error (.missingField Key.type.name)
    | some tag => do
      let variant ← Codec.takeVariant (tags variants) tag
      match Entries.find? entries Key.payload.name, variant.bare with
      | some payload, _ => variant.take payload
      | none, some value => return value
      | none, none => .error (.missingField Key.payload.name)
  | value => .error (.wrongKind value.found ("adjacently tagged enum " ++ type))

def codec (type : String) (variants : List (Variant α)) (write : α → Json) : Codec α :=
  ⟨read type variants, take type variants, write⟩

end Envelope

end LivePreview.Json
