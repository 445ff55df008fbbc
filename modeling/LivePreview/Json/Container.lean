import LivePreview.Json.Lexeme

namespace LivePreview.Json

/-! The punctuation of lists and objects, around readers for what they hold. -/

/-- Reads from the front of a text; the number is how many lists and objects may still be opened. -/
abbrev Reader (α : Type u) := Nat → List Char → Reading α

/-- Whether another item follows, with the text from that item or from the closing bracket on. -/
def nextItem (first : Bool) (text : List Char) : Reading Bool :=
  match skipBlanks text with
  | [] => .error (.peek .endInList [])
  | ']' :: rest => .ok (false, ']' :: rest)
  | c :: rest =>
    if first then .ok (true, c :: rest)
    else if c = ',' then
      match skipBlanks rest with
      | [] => .error (.peek .endInValue [])
      | ']' :: rest => .error (.peek .trailingComma (']' :: rest))
      | rest => .ok (true, rest)
    else .error (.peek .listCommaExpected (c :: rest))

def someKey (text : List Char) : Reading (Option String) :=
  match stringRest text with
  | .ok (name, rest) => .ok (some name, rest)
  | .error fault => .error fault

def nextKey (first : Bool) (text : List Char) : Reading (Option String) :=
  match skipBlanks text with
  | [] => .error (.peek .endInObject [])
  | '\x7d' :: rest => .ok (none, '\x7d' :: rest)
  | c :: rest =>
    if first then
      if c = '"' then someKey rest else .error (.peek .keyExpected (c :: rest))
    else if c = ',' then
      match skipBlanks rest with
      | [] => .error (.peek .endInValue [])
      | '"' :: rest => someKey rest
      | '\x7d' :: rest => .error (.peek .trailingComma ('\x7d' :: rest))
      | rest => .error (.peek .keyExpected rest)
    else .error (.peek .objectCommaExpected (c :: rest))

def colon (text : List Char) : Except Fault (List Char) :=
  match skipBlanks text with
  | [] => .error (.peek .endInObject [])
  | ':' :: rest => .ok rest
  | rest => .error (.peek .colonExpected rest)

/-- Where reading stands after trying to close a list, and the fault if it could not. -/
def closeList (text : List Char) : List Char × Option Fault :=
  match skipBlanks text with
  | [] => ([], some (.peek .endInList []))
  | ']' :: rest => (rest, none)
  | ',' :: rest =>
    let rest := skipBlanks rest
    let cause := if rest.head? = some ']' then .trailingComma else .trailingText
    (rest, some (.peek cause rest))
  | rest => (rest, some (.peek .trailingText rest))

def closeObject (text : List Char) : List Char × Option Fault :=
  match skipBlanks text with
  | [] => ([], some (.peek .endInObject []))
  | '\x7d' :: rest => (rest, none)
  | ',' :: rest => (',' :: rest, some (.peek .trailingComma (',' :: rest)))
  | rest => (rest, some (.peek .trailingText rest))

/-- Closes after a body; a fault without a place of its own gets the place after the closing. -/
def closed (close : List Char → List Char × Option Fault) (body : Reading α) : Reading α :=
  match body with
  | .ok (value, rest) =>
    match close rest with
    | (rest, none) => .ok (value, rest)
    | (_, some fault) => .error fault
  | .error (.adrift cause rest) => .error (.here cause (close rest).1)
  | .error fault => .error fault

/-- A list whose bracket has been seen but not yet passed. -/
def inList (body : Reader α) : Reader α
  | _, [] => .error (.peek .endInValue [])
  | 0, bracket => .error (.peek .nestedTooDeep bracket)
  | depth + 1, _ :: rest => closed closeList (body depth rest)

def inObject (body : Reader α) : Reader α
  | _, [] => .error (.peek .endInValue [])
  | 0, bracket => .error (.peek .nestedTooDeep bracket)
  | depth + 1, _ :: rest => closed closeObject (body depth rest)

/-- The items up to the closing bracket, at most `count` of them. -/
def itemsUpTo (item : List Char → Reading α) : Nat → Bool → List Char → Reading (List α)
  | 0, _, text => .error (.adrift .endInList text)
  | count + 1, first, text =>
    match nextItem first text with
    | .error fault => .error fault
    | .ok (false, rest) => .ok ([], rest)
    | .ok (true, rest) =>
      match item rest with
      | .error fault => .error fault
      | .ok (value, rest) =>
        match itemsUpTo item count false rest with
        | .error fault => .error fault
        | .ok (values, rest) => .ok (value :: values, rest)

/-- Every item takes up a character at least, so a list has no more items than characters. -/
def items (item : Reader α) : Reader (List α) := fun depth text =>
  itemsUpTo (item depth) (text.length + 1) true text

/-- Runs `step` on the names up to the closing brace, at most `count` of them. -/
def entriesUpTo (step : σ → String → List Char → Reading σ) :
    Nat → Bool → σ → List Char → Reading σ
  | 0, _, _, text => .error (.adrift .endInObject text)
  | count + 1, first, state, text =>
    match nextKey first text with
    | .error fault => .error fault
    | .ok (none, rest) => .ok (state, rest)
    | .ok (some name, rest) =>
      match step state name rest with
      | .error fault => .error fault
      | .ok (state, rest) => entriesUpTo step count false state rest

def entries (step : Nat → σ → String → List Char → Reading σ) (start : σ) : Reader σ :=
  fun depth text => entriesUpTo (step depth) (text.length + 1) true start text

def valueAfter (value : List Char → Reading α) (text : List Char) : Reading α :=
  match colon text with
  | .error fault => .error fault
  | .ok rest => value rest

end LivePreview.Json
