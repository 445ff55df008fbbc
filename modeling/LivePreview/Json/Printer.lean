import LivePreview.Json.Basic
import LivePreview.Number.Shortest

namespace LivePreview.Json

/-! The compact written form: no blanks, entries in their order, and only those characters escaped
that a string cannot hold. -/

/-- Doubles are written out in full from `1e-5` up to below `1e16`. -/
def doubleLayout : DecimalLayout := ⟨-5, 16⟩

def printDouble (value : Binary64) : List Char :=
  let digits :=
    if value.magnitude.isZero then ['0', '.', '0']
    else doubleLayout.write value.magnitude.shortest
  if value.negative then '-' :: digits else digits

def printNat (value : Nat) : List Char :=
  Nat.toDigits 10 value

def Number.print : Number → List Char
  | .natural value => printNat value.toNat
  | .negative below => '-' :: printNat (below.val + 1)
  | .double value => printDouble value

/-- Two lower-case hexadecimal digits of a code below 256. -/
def hexPair (code : Nat) : List Char :=
  [Nat.digitChar (code / 16), Nat.digitChar (code % 16)]

def printChar (c : Char) : List Char :=
  match c with
  | '"' => ['\\', '"']
  | '\\' => ['\\', '\\']
  | '\x08' => ['\\', 'b']
  | '\x0c' => ['\\', 'f']
  | '\n' => ['\\', 'n']
  | '\r' => ['\\', 'r']
  | '\t' => ['\\', 't']
  | c => if c.toNat < 0x20 then ['\\', 'u', '0', '0'] ++ hexPair c.toNat else [c]

def printString (text : String) : List Char :=
  '"' :: (text.toList.flatMap printChar ++ ['"'])

mutual
def print : Json → List Char
  | .null => ['n', 'u', 'l', 'l']
  | .bool true => ['t', 'r', 'u', 'e']
  | .bool false => ['f', 'a', 'l', 's', 'e']
  | .number value => value.print
  | .string value => printString value
  | .list items => '[' :: (printItems items ++ [']'])
  | .object entries => '\x7b' :: (printEntries entries ++ ['\x7d'])

def printItems : List Json → List Char
  | [] => []
  | [item] => print item
  | item :: rest => print item ++ ',' :: printItems rest

def printEntries : List (String × Json) → List Char
  | [] => []
  | [(name, value)] => printString name ++ ':' :: print value
  | (name, value) :: rest => printString name ++ ':' :: print value ++ ',' :: printEntries rest
end

def compact (value : Json) : String :=
  String.ofList value.print

end LivePreview.Json
