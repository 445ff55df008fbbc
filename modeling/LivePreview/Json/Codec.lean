import LivePreview.Json.Tree

namespace LivePreview.Json

/-! Codecs of plain types.  A codec reads a type from a text, takes it from a value that has been
read already, and writes it. -/

structure Codec (α : Type) where
  read : Reader α
  take : Json → Except Cause α
  write : α → Json

namespace Codec

/-- A fault of a text that holds another kind of value; lists and objects are not entered. -/
def mismatch (expected : String) (text : List Char) : Fault :=
  match scalar? text with
  | some (.ok (value, rest)) => .here (.wrongKind value.found expected) rest
  | some (.error fault) => fault
  | none =>
    match text with
    | '[' :: _ => .here (.wrongKind .sequence expected) text
    | '\x7b' :: _ => .here (.wrongKind .map expected) text
    | _ => noValue text

/-- A scalar that `accept` may refuse. -/
def scalar (expected : String) (accept : Json → Except Cause α) : Reader α := fun _ text =>
  let text := skipBlanks text
  match scalar? text with
  | some (.ok (value, rest)) =>
    match accept value with
    | .ok value => .ok (value, rest)
    | .error cause => .error (.here cause rest)
  | some (.error fault) => .error fault
  | none => .error (mismatch expected text)

def ofScalar (expected : String) (accept : Json → Except Cause α) (write : α → Json) : Codec α :=
  ⟨scalar expected accept, accept, write⟩

def acceptString (expected : String) : Json → Except Cause String
  | .string value => .ok value
  | value => .error (.wrongKind value.found expected)

def string : Codec String :=
  ofScalar "a string" (acceptString "a string") .string

def acceptBool : Json → Except Cause Bool
  | .bool value => .ok value
  | value => .error (.wrongKind value.found "a boolean")

def bool : Codec Bool :=
  ofScalar "a boolean" acceptBool .bool

/-- An unsigned integer below a bound. -/
def acceptNat (expected : String) (bound : Nat) : Json → Except Cause Nat
  | .number (.natural value) =>
    if value.toNat < bound then .ok value.toNat
    else .error (.wrongValue (.number (.natural value)) expected)
  | .number (.negative below) => .error (.wrongValue (.number (.negative below)) expected)
  | value => .error (.wrongKind value.found expected)

def word32 : Codec UInt32 :=
  ofScalar "u32" (fun value => (acceptNat "u32" UInt32.size value).map UInt32.ofNat)
    (fun value => .ofNat value.toNat)

def word64 : Codec UInt64 :=
  ofScalar "u64" (fun value => (acceptNat "u64" UInt64.size value).map UInt64.ofNat)
    (fun value => .number (.natural value))

/-- Any value, each name of an object once. -/
def any : Codec Json :=
  ⟨value, fun value => .ok value.settled, id⟩

/-- `null` stands for nothing. -/
def option (codec : Codec α) : Codec (Option α) where
  read depth text :=
    match skipBlanks text with
    | 'n' :: rest => (letters ['u', 'l', 'l'] rest).map fun rest => (none, rest)
    | text => (codec.read depth text).map fun (value, rest) => (some value, rest)
  take
    | .null => .ok none
    | value => (codec.take value).map some
  write
    | none => .null
    | some value => codec.write value

def takeItems (take : Json → Except Cause α) : List Json → Except Cause (List α)
  | [] => .ok []
  | value :: rest => do
    let value ← take value
    let rest ← takeItems take rest
    return value :: rest

def list (codec : Codec α) : Codec (List α) where
  read depth text :=
    match skipBlanks text with
    | '[' :: rest => inList (items codec.read) depth ('[' :: rest)
    | text => .error (mismatch "a sequence" text)
  take
    | .list values => takeItems codec.take values
    | value => .error (.wrongKind value.found "a sequence")
  write values := .list (values.map codec.write)

def takeEntries (take : Json → Except Cause α) :
    List (String × Json) → Except Cause (List (String × α))
  | [] => .ok []
  | (name, value) :: rest => do
    let value ← take value
    let rest ← takeEntries take rest
    return (name, value) :: rest

/-- An object with names of its own; of a repeated name the last value counts. -/
def table (codec : Codec α) : Codec (Table α) where
  read depth text :=
    match skipBlanks text with
    | '\x7b' :: rest =>
      inObject
        (entries (fun depth table name text =>
          (valueAfter (codec.read depth) text).map fun (value, rest) =>
            (table.put name value, rest))
          Table.empty)
        depth ('\x7b' :: rest)
    | text => .error (mismatch "a map" text)
  take
    | .object entries => (takeEntries codec.take entries).map Table.ofList
    | value => .error (.wrongKind value.found "a map")
  write values := .object (values.entries.map fun entry => (entry.1, codec.write entry.2))

def variant? (variants : List (String × α)) (name : String) : Except Cause α :=
  match Entries.find? variants name with
  | some value => .ok value
  | none => .error (.unknownVariant name (Entries.names variants))

/-- The name of a variant, as a string. -/
def tag (variants : List (String × α)) : Reader α :=
  scalar "variant identifier" fun value => do
    variant? variants (← acceptString "variant identifier" value)

def takeTag (variants : List (String × α)) (value : Json) : Except Cause α := do
  variant? variants (← acceptString "variant identifier" value)

/-- Nothing but `null`. -/
def acceptUnit : Json → Except Cause Unit
  | .null => .ok ()
  | value => .error (.wrongKind value.found "unit")

def closeVariant (text : List Char) : Except Fault (List Char) :=
  match skipBlanks text with
  | [] => .error (.peek .endInObject [])
  | '\x7d' :: rest => .ok rest
  | rest => .error (.here .valueExpected rest)

/-- A variant given as a string, or as an object of its name alone with `null`. -/
def readVariant (variants : List (String × α)) : Reader α := fun depth text =>
  match skipBlanks text with
  | '"' :: rest => tag variants depth ('"' :: rest)
  | '\x7b' :: rest =>
    if depth = 0 then .error (.peek .nestedTooDeep ('\x7b' :: rest))
    else
      match tag variants depth rest with
      | .error fault => .error fault
      | .ok (value, rest) =>
        match valueAfter (scalar "unit" acceptUnit depth) rest with
        | .error fault => .error fault
        | .ok (_, rest) => (closeVariant rest).map fun rest => (value, rest)
  | text => .error (noValue text)

/-- In a value read already, an empty object stands for `null` too. -/
def takeVariant (variants : List (String × α)) : Json → Except Cause α
  | .string name => variant? variants name
  | .object [(name, body)] => do
    let value ← variant? variants name
    match body with
    | .object [] => return value
    | body =>
      acceptUnit body
      return value
  | .object _ => .error (.wrongValue .map "map with a single key")
  | value => .error (.wrongKind value.found "string or map")

def enumeration (variants : List (String × α)) (name : α → String) : Codec α :=
  ⟨readVariant variants, takeVariant variants, fun value => .string (name value)⟩

end Codec

def Codec.parse (codec : Codec α) (text : String) : Except String α :=
  let chars := text.toList
  match codec.read depthLimit chars with
  | .error fault => .error (fault.report chars)
  | .ok (value, rest) =>
    match skipBlanks rest with
    | [] => .ok value
    | rest => .error ((Fault.peek .trailingText rest).report chars)

def Codec.print (codec : Codec α) (value : α) : String :=
  (codec.write value).compact

end LivePreview.Json
