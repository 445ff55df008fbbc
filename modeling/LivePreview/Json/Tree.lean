import LivePreview.Json.Container

namespace LivePreview.Json

/-! Reading any value. -/

/-- How deep lists and objects may nest. -/
def depthLimit : Nat := 127

/-- A literal, number or string; `none` when the text starts a list, an object or nothing. -/
def scalar? (text : List Char) : Option (Reading Json) :=
  match text with
  | 'n' :: rest => some ((letters ['u', 'l', 'l'] rest).map fun rest => (.null, rest))
  | 't' :: rest => some ((letters ['r', 'u', 'e'] rest).map fun rest => (.bool true, rest))
  | 'f' :: rest => some ((letters ['a', 'l', 's', 'e'] rest).map fun rest => (.bool false, rest))
  | '"' :: rest => some ((stringRest rest).map fun (value, rest) => (.string value, rest))
  | '-' :: rest => some ((numberRest true rest).map fun (value, rest) => (.number value, rest))
  | c :: rest =>
    if c.isDigit then
      some ((numberRest false (c :: rest)).map fun (value, rest) => (.number value, rest))
    else none
  | [] => none

/-- The fault where a value should start and none does. -/
def noValue (text : List Char) : Fault :=
  if text.isEmpty then .peek .endInValue text else .peek .valueExpected text

/-- A value as written: an object keeps every entry. -/
def tree (depth : Nat) (text : List Char) : Reading Json :=
  let text := skipBlanks text
  match scalar? text with
  | some reading => reading
  | none =>
    match depth, text with
    | 0, '[' :: _ => .error (.peek .nestedTooDeep text)
    | 0, '\x7b' :: _ => .error (.peek .nestedTooDeep text)
    | depth + 1, '[' :: rest =>
      (closed closeList (itemsUpTo (fun text => tree depth text) (rest.length + 1) true rest)).map
        fun (values, rest) => (.list values, rest)
    | depth + 1, '\x7b' :: rest =>
      (closed closeObject (entriesUpTo
        (fun before name text =>
          (valueAfter (fun text => tree depth text) text).map
            fun (value, rest) => ((name, value) :: before, rest))
        (rest.length + 1) true [] rest)).map
        fun (before, rest) => (.object before.reverse, rest)
    | _, text => .error (noValue text)

/-- A value with each name of an object once. -/
def value : Reader Json := fun depth text =>
  (tree depth text).map fun (value, rest) => (value.settled, rest)

/-! Passing over a value without keeping it.  Only its form is checked: no depth, no size of a
number, no pairing of surrogates. -/

def passDigits (text : List Char) : List Char :=
  text.dropWhile Char.isDigit

def passExponent (text : List Char) : Except Fault (List Char) :=
  let text :=
    match text with
    | '+' :: rest => rest
    | '-' :: rest => rest
    | rest => rest
  match text with
  | c :: rest => if c.isDigit then .ok (passDigits rest) else .error (.peek .badNumber (c :: rest))
  | [] => .error (.here .badNumber [])

def passFraction (text : List Char) : Except Fault (List Char) :=
  match text with
  | '.' :: rest =>
    if (rest.head?.map Char.isDigit).getD false then
      match passDigits rest with
      | 'e' :: rest => passExponent rest
      | 'E' :: rest => passExponent rest
      | rest => .ok rest
    else .error (.peek .badNumber rest)
  | 'e' :: rest => passExponent rest
  | 'E' :: rest => passExponent rest
  | rest => .ok rest

def passNumber (text : List Char) : Except Fault (List Char) :=
  match text with
  | [] => .error (.here .badNumber [])
  | '0' :: rest =>
    if (rest.head?.map Char.isDigit).getD false then .error (.peek .badNumber rest)
    else passFraction rest
  | c :: rest =>
    if c.isDigit then passFraction (passDigits rest) else .error (.peek .badNumber (c :: rest))

def passString : List Char → Except Fault (List Char)
  | [] => .error (.here .endInString [])
  | '"' :: rest => .ok rest
  | '\\' :: 'u' :: a :: b :: c :: d :: rest =>
    if (unit? a b c d).isSome then passString rest
    else .error (badUnit (a :: b :: c :: d :: rest))
  | '\\' :: 'u' :: text => .error (badUnit text)
  | ['\\'] => .error (.here .endInString [])
  | '\\' :: c :: rest =>
    if (simpleEscape? c).isSome then passString rest else .error (.peek .badEscape (c :: rest))
  | c :: rest =>
    if c.toNat < 0x20 then .error (.here .rawControl (c :: rest)) else passString rest

/-- A literal, number or string; `none` when the text starts something else. -/
def passScalar? (text : List Char) : Option (Except Fault (List Char)) :=
  match text with
  | 'n' :: rest => some (letters ['u', 'l', 'l'] rest)
  | 't' :: rest => some (letters ['r', 'u', 'e'] rest)
  | 'f' :: rest => some (letters ['a', 'l', 's', 'e'] rest)
  | '"' :: rest => some (passString rest)
  | '-' :: rest => some (passNumber rest)
  | c :: rest => if c.isDigit then some (passNumber (c :: rest)) else none
  | [] => none

inductive Bracket
  | square
  | curly
deriving DecidableEq, Repr

/-- The name and the colon before a value inside braces; nothing inside brackets. -/
def passKey (bracket : Bracket) (text : List Char) : Except Fault (List Char) :=
  match bracket with
  | .square => .ok text
  | .curly =>
    match skipBlanks text with
    | [] => .error (.peek .endInObject [])
    | '"' :: rest =>
      match passString rest with
      | .error fault => .error fault
      | .ok rest => colon rest
    | rest => .error (.peek .keyExpected rest)

/-- What may come after a value or an opening bracket: closing brackets, then a comma or the end of
the outermost value.  `fresh` holds right after an opening bracket, where no comma may stand. -/
def passClosing (fresh : Bool) (open_ : List Bracket) (text : List Char) :
    Except Fault (Option Bracket × List Bracket × List Char) :=
  match open_ with
  | [] => .ok (none, [], text)
  | bracket :: outer =>
    match bracket, skipBlanks text with
    | .square, [] => .error (.peek .endInList [])
    | .curly, [] => .error (.peek .endInObject [])
    | .square, ']' :: rest => passClosing false outer rest
    | .curly, '\x7d' :: rest => passClosing false outer rest
    | bracket, c :: rest =>
      if fresh then .ok (some bracket, bracket :: outer, c :: rest)
      else if c = ',' then .ok (some bracket, bracket :: outer, rest)
      else
        .error (.peek (if bracket = .square then .listCommaExpected else .objectCommaExpected)
          (c :: rest))

/-- Passes over values until every open bracket is closed, at most `count` of them. -/
def passUpTo : Nat → List Bracket → List Char → Except Fault (List Char)
  | 0, _, text => .ok text
  | count + 1, open_, text =>
    let text := skipBlanks text
    let after :=
      match passScalar? text with
      | some (.ok rest) => passClosing false open_ rest
      | some (.error fault) => .error fault
      | none =>
        match text with
        | '[' :: rest => passClosing true (.square :: open_) rest
        | '\x7b' :: rest => passClosing true (.curly :: open_) rest
        | text => .error (noValue text)
    match after with
    | .error fault => .error fault
    | .ok (none, _, rest) => .ok rest
    | .ok (some bracket, open_, rest) =>
      match passKey bracket rest with
      | .error fault => .error fault
      | .ok rest => passUpTo count open_ rest

/-- Every value takes up a character at least. -/
def pass (text : List Char) : Except Fault (List Char) :=
  passUpTo (text.length + 1) [] text

end LivePreview.Json
