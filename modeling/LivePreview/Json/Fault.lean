import LivePreview.Json.Printer
import LivePreview.Text.Quoted

namespace LivePreview.Json

/-! Why a text could not be read, and at which of its bytes. -/

/-- What stood where something else was wanted. -/
inductive Found
  | null
  | bool (value : Bool)
  | number (value : Number)
  | string (value : String)
  | sequence
  | map
deriving DecidableEq, Repr

namespace Found

def describe : Found → String
  | .null => "null"
  | .bool true => "boolean `true`"
  | .bool false => "boolean `false`"
  | .number (.double value) => "floating point `" ++ String.ofList (printDouble value) ++ "`"
  | .number value => "integer `" ++ String.ofList value.print ++ "`"
  | .string value => "string " ++ Text.quoted value
  | .sequence => "sequence"
  | .map => "map"

end Found

def found : Json → Found
  | .null => .null
  | .bool value => .bool value
  | .number value => .number value
  | .string value => .string value
  | .list _ => .sequence
  | .object _ => .map

/-- Up to `unfinishedSurrogate` the text is no JSON; from `wrongKind` on it is JSON of another
shape. -/
inductive Cause
  | endInValue
  | endInString
  | endInList
  | endInObject
  | valueExpected
  | letterExpected
  | colonExpected
  | listCommaExpected
  | objectCommaExpected
  | keyExpected
  | trailingComma
  | trailingText
  | nestedTooDeep
  | badNumber
  | numberTooLarge
  | badEscape
  | rawControl
  | loneSurrogate
  | unfinishedSurrogate
  | wrongKind (found : Found) (expected : String)
  | wrongValue (found : Found) (expected : String)
  | wrongLength (count : Nat) (expected : String)
  | missingField (name : String)
  | duplicateField (name : String)
  | unknownVariant (name : String) (known : List String)
  | noVariant (type : String)
deriving DecidableEq, Repr

namespace Cause

def ticked (name : String) : String :=
  "`" ++ name ++ "`"

/-- One name stands alone, two are joined by a word, more are listed. -/
def choice : List String → String
  | [name] => ticked name
  | [first, second] => ticked first ++ " or " ++ ticked second
  | names => "one of " ++ String.intercalate ", " (names.map ticked)

def message : Cause → String
  | .endInValue => "EOF while parsing a value"
  | .endInString => "EOF while parsing a string"
  | .endInList => "EOF while parsing a list"
  | .endInObject => "EOF while parsing an object"
  | .valueExpected => "expected value"
  | .letterExpected => "expected ident"
  | .colonExpected => "expected `:`"
  | .listCommaExpected => "expected `,` or `]`"
  | .objectCommaExpected => "expected `,` or `\x7d`"
  | .keyExpected => "key must be a string"
  | .trailingComma => "trailing comma"
  | .trailingText => "trailing characters"
  | .nestedTooDeep => "recursion limit exceeded"
  | .badNumber => "invalid number"
  | .numberTooLarge => "number out of range"
  | .badEscape => "invalid escape"
  | .rawControl => "control character (\\u0000-\\u001F) found while parsing a string"
  | .loneSurrogate => "lone leading surrogate in hex escape"
  | .unfinishedSurrogate => "unexpected end of hex escape"
  | .wrongKind found expected => "invalid type: " ++ found.describe ++ ", expected " ++ expected
  | .wrongValue found expected => "invalid value: " ++ found.describe ++ ", expected " ++ expected
  | .wrongLength count expected =>
    "invalid length " ++ String.ofList (printNat count) ++ ", expected " ++ expected
  | .missingField name => "missing field " ++ ticked name
  | .duplicateField name => "duplicate field " ++ ticked name
  | .unknownVariant name known => "unknown variant " ++ ticked name ++ ", expected " ++ choice known
  | .noVariant type => "data did not match any variant of untagged enum " ++ type

end Cause

/-- The size of a text in bytes. -/
def weight : List Char → Nat
  | [] => 0
  | c :: rest => c.utf8Size + weight rest

@[simp] theorem weight_nil : weight [] = 0 := rfl

@[simp] theorem weight_cons (c : Char) (text : List Char) :
    weight (c :: text) = c.utf8Size + weight text := rfl

@[simp] theorem weight_append (left right : List Char) :
    weight (left ++ right) = weight left + weight right := by
  induction left with
  | nil => simp
  | cons c rest ih => simp [ih, Nat.add_assoc]

/-- A cause, with the place it is blamed on when it has one of its own. -/
inductive Fault
  /-- `left` bytes of the text follow the place. -/
  | placed (cause : Cause) (left : Nat)
  /-- The list or object that was being read gives the place; `rest` is still unread. -/
  | adrift (cause : Cause) (rest : List Char)
deriving DecidableEq, Repr

namespace Fault

def cause : Fault → Cause
  | .placed cause _ => cause
  | .adrift cause _ => cause

/-- Blamed on what has been read so far. -/
def here (cause : Cause) (rest : List Char) : Fault :=
  .placed cause (weight rest)

/-- Blamed on the next byte, or on the end of the text. -/
def peek (cause : Cause) (rest : List Char) : Fault :=
  .placed cause (weight rest - 1)

end Fault

/-- The line, from one, and the bytes of it that lie before an offset into the text. -/
def locate (text : List Char) (offset line column : Nat) : Nat × Nat :=
  match text with
  | [] => (line, column)
  | c :: rest =>
    if c.utf8Size ≤ offset then
      if c = '\n' then locate rest (offset - 1) (line + 1) 0
      else locate rest (offset - c.utf8Size) line (column + c.utf8Size)
    else (line, column + offset)

def Fault.report (text : List Char) : Fault → String
  | .adrift cause _ => cause.message
  | .placed cause left =>
    let (line, column) := locate text (weight text - left) 1 0
    cause.message ++ " at line " ++ String.ofList (printNat line) ++ " column " ++
      String.ofList (printNat column)

end LivePreview.Json
