import LivePreview.Json.Record

namespace LivePreview.Json

/-! Records with one more field that says which of several kinds they are of.  The other fields
may come before it, so they are kept as values until the kind is known. -/

structure Tagged (κ α : Type) where
  name : String
  tag : String
  kinds : List (String × κ)
  body : Codec α

namespace Tagged

/-- The kind and the other entries, the last one first. -/
abbrev Parts (κ : Type) := Option κ × List (String × Json)

def expected (tagged : Tagged κ α) : String :=
  "internally tagged enum " ++ tagged.name

def readEntry (tagged : Tagged κ α) (depth : Nat) (parts : Parts κ) (name : String)
    (text : List Char) : Reading (Parts κ) :=
  if name = tagged.tag then
    match parts.1 with
    | some _ => .error (.adrift (.duplicateField tagged.tag) text)
    | none =>
      (valueAfter (Codec.tag tagged.kinds depth) text).map
        fun (kind, rest) => ((some kind, parts.2), rest)
  else
    (valueAfter (tree depth) text).map
      fun (value, rest) => ((parts.1, (name, value) :: parts.2), rest)

def readObject (tagged : Tagged κ α) : Reader (κ × Json) := fun depth text =>
  match entries tagged.readEntry (none, []) depth text with
  | .error fault => .error fault
  | .ok ((none, _), rest) => .error (.adrift (.missingField tagged.tag) rest)
  | .ok ((some kind, before), rest) => .ok ((kind, .object before.reverse), rest)

/-- A list starts with the kind; the other items are the body's. -/
def readList (tagged : Tagged κ α) : Reader (κ × Json) := fun depth text =>
  match nextItem true text with
  | .error fault => .error fault
  | .ok (false, rest) => .error (.adrift (.missingField tagged.tag) rest)
  | .ok (true, rest) =>
    match Codec.tag tagged.kinds depth rest with
    | .error fault => .error fault
    | .ok (kind, rest) =>
      (itemsUpTo (tree depth) (rest.length + 1) false rest).map
        fun (values, rest) => ((kind, .list values), rest)

/-- The body is taken once the whole text of the record has been read. -/
def read (tagged : Tagged κ α) : Reader (κ × α) := fun depth text =>
  let parts := Entering.read
    { expected := tagged.expected
      null := none
      list := tagged.readList
      object := tagged.readObject }
  match parts depth text with
  | .error fault => .error fault
  | .ok ((kind, body), rest) =>
    match tagged.body.take body with
    | .ok value => .ok ((kind, value), rest)
    | .error cause => .error (.adrift cause rest)

def takeEntry (tagged : Tagged κ α) (parts : Parts κ) (entry : String × Json) :
    Except Cause (Parts κ) :=
  if entry.1 = tagged.tag then
    match parts.1 with
    | some _ => .error (.duplicateField tagged.tag)
    | none => (Codec.takeTag tagged.kinds entry.2).map fun kind => (some kind, parts.2)
  else .ok (parts.1, entry :: parts.2)

def take (tagged : Tagged κ α) : Json → Except Cause (κ × α)
  | .object entries => do
    match ← entries.foldlM tagged.takeEntry (none, []) with
    | (none, _) => .error (.missingField tagged.tag)
    | (some kind, before) => return (kind, ← tagged.body.take (.object before.reverse))
  | .list [] => .error (.missingField tagged.tag)
  | .list (first :: rest) => do
    let kind ← Codec.takeTag tagged.kinds first
    return (kind, ← tagged.body.take (.list rest))
  | value => .error (.wrongKind value.found tagged.expected)

end Tagged

end LivePreview.Json
