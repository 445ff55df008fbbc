import LivePreview.Json.Fault

namespace LivePreview.Json

/-! Reading one lexeme from the front of a text: blanks, literals, numbers and strings. -/

abbrev Reading (α : Type u) := Except Fault (α × List Char)

def isBlank (c : Char) : Bool :=
  c == ' ' || c == '\n' || c == '\t' || c == '\r'

def skipBlanks (text : List Char) : List Char :=
  text.dropWhile isBlank

@[simp] theorem skipBlanks_nil : skipBlanks [] = [] := rfl

def letters : List Char → List Char → Except Fault (List Char)
  | [], text => .ok text
  | _ :: _, [] => .error (.here .endInValue [])
  | letter :: more, c :: rest =>
    if c = letter then letters more rest else .error (.peek .letterExpected (c :: rest))

@[simp] theorem letters_append (word rest : List Char) :
    letters word (word ++ rest) = .ok rest := by
  induction word with
  | nil => rfl
  | cons letter more ih => simp [letters, ih]

def digitValue (c : Char) : Nat :=
  c.toNat - '0'.toNat

def largestWord : Nat := UInt64.size - 1

/-- Digits are taken up as long as the number stays within 64 bits; the second part counts the
digits taken up and the third those that were not. -/
def takeUp (significand taken : Nat) : List Char → Nat × Nat × Nat
  | [] => (significand, taken, 0)
  | digit :: more =>
    let next := significand * 10 + digitValue digit
    if largestWord < next then (significand, taken, (digit :: more).length)
    else takeUp next (taken + 1) more

def powerOfTen (exponent : Nat) : Magnitude :=
  (Magnitude.ofNat (Nat.pow 10 exponent)).getD .zero

/-- `value * 10 ^ exponent`, by at most `rounds` roundings beside the last: a power of ten that no
double holds is divided out in steps of `10 ^ 308`. -/
def scale (rounds : Nat) (value : Magnitude) (exponent : Int) : Option Magnitude :=
  if exponent.natAbs ≤ 308 then
    if 0 ≤ exponent then value.mul (powerOfTen exponent.natAbs)
    else value.div (powerOfTen exponent.natAbs)
  else if value.isZero then some value
  else if 0 ≤ exponent then none
  else
    match rounds with
    | 0 => some .zero
    | rounds + 1 =>
      match value.div (powerOfTen 308) with
      | none => none
      | some smaller => scale rounds smaller (exponent + 308)

/-- The double for a significand of at most 64 bits and a power of ten; `none` when it is too
large. -/
def doubleOf (negative : Bool) (significand : Nat) (exponent : Int) : Option Number :=
  match Magnitude.ofNat significand with
  | none => none
  | some value => (scale 4 value exponent).map fun scaled => .double ⟨negative, scaled⟩

/-- An integer stays one when it fits 64 bits; minus zero is a double. -/
def integerOf (negative : Bool) (significand : Nat) : Option Number :=
  if !negative then some (.natural (UInt64.ofNat significand))
  else if significand = 0 then some (.double .negativeZero)
  else if h : significand - 1 < UInt64.size / 2 then some (.negative ⟨significand - 1, h⟩)
  else doubleOf true significand 0

def finish (negative : Bool) (significand : Nat) (exponent : Int) (rest : List Char) :
    Reading Number :=
  match doubleOf negative significand exponent with
  | some value => .ok (value, rest)
  | none => .error (.here .numberTooLarge rest)

def largestExponent : Nat := UInt32.size / 2 - 1

/-- The digits of an exponent; an exponent past 31 bits is reported with the text after the digit
at which it passed them. -/
def exponentDigits (value : Nat) : List Char → Except (List Char) (Nat × List Char)
  | [] => .ok (value, [])
  | c :: rest =>
    if c.isDigit then
      let next := value * 10 + digitValue c
      if largestExponent < next then .error rest else exponentDigits next rest
    else .ok (value, c :: rest)

def exponentPart (negative : Bool) (significand : Nat) (exponent : Int) (text : List Char) :
    Reading Number :=
  let (down, text) :=
    match text with
    | '+' :: rest => (false, rest)
    | '-' :: rest => (true, rest)
    | rest => (false, rest)
  match text with
  | [] => .error (.here .endInValue [])
  | c :: rest =>
    if !c.isDigit then .error (.peek .badNumber (c :: rest))
    else
      match exponentDigits (digitValue c) rest with
      | .ok (digits, rest) =>
        let shift : Int := if down then -Int.ofNat digits else Int.ofNat digits
        finish negative significand (exponent + shift) rest
      | .error rest =>
        if significand ≠ 0 ∧ !down then .error (.here .numberTooLarge rest)
        else .ok (.double ⟨negative, .zero⟩, rest.dropWhile Char.isDigit)

/-- After the digits of the integer part; `exponent` counts those that were not taken up. -/
def fractionPart (negative : Bool) (significand : Nat) (exponent : Nat) (text : List Char) :
    Reading Number :=
  match text with
  | '.' :: text =>
    let digits := text.takeWhile Char.isDigit
    let rest := text.dropWhile Char.isDigit
    if digits.isEmpty then
      .error (.peek (if rest.isEmpty then .endInValue else .badNumber) rest)
    else
      let (significand, taken, _) := takeUp significand 0 digits
      let exponent := Int.ofNat exponent - Int.ofNat taken
      match rest with
      | 'e' :: rest => exponentPart negative significand exponent rest
      | 'E' :: rest => exponentPart negative significand exponent rest
      | rest => finish negative significand exponent rest
  | 'e' :: rest => exponentPart negative significand (Int.ofNat exponent) rest
  | 'E' :: rest => exponentPart negative significand (Int.ofNat exponent) rest
  | rest =>
    if exponent = 0 then
      match integerOf negative significand with
      | some value => .ok (value, rest)
      | none => .error (.here .numberTooLarge rest)
    else finish negative significand (Int.ofNat exponent) rest

def numberRest (negative : Bool) (text : List Char) : Reading Number :=
  match text with
  | [] => .error (.here .endInValue [])
  | '0' :: rest =>
    match rest with
    | c :: _ => if c.isDigit then .error (.peek .badNumber rest) else fractionPart negative 0 0 rest
    | [] => fractionPart negative 0 0 []
  | c :: rest =>
    if !c.isDigit then .error (.peek .badNumber (c :: rest))
    else
      let (significand, _, dropped) := takeUp 0 0 ((c :: rest).takeWhile Char.isDigit)
      fractionPart negative significand dropped (rest.dropWhile Char.isDigit)

def hexValue? (c : Char) : Option Nat :=
  if c.isDigit then some (c.toNat - '0'.toNat)
  else if 'a' ≤ c ∧ c ≤ 'f' then some (c.toNat - 'a'.toNat + 10)
  else if 'A' ≤ c ∧ c ≤ 'F' then some (c.toNat - 'A'.toNat + 10)
  else none

def unit? (a b c d : Char) : Option Nat := do
  let a ← hexValue? a
  let b ← hexValue? b
  let c ← hexValue? c
  let d ← hexValue? d
  return ((a * 16 + b) * 16 + c) * 16 + d

def badUnit (text : List Char) : Fault :=
  if weight text < 4 then .placed .endInString 0 else .placed .badEscape (weight text - 4)

def isLeading (unit : Nat) : Bool :=
  0xD800 ≤ unit && unit ≤ 0xDBFF

def isTrailing (unit : Nat) : Bool :=
  0xDC00 ≤ unit && unit ≤ 0xDFFF

def pairChar (leading trailing : Nat) : Char :=
  Char.ofNat (0x10000 + (leading - 0xD800) * 0x400 + (trailing - 0xDC00))

def simpleEscape? (c : Char) : Option Char :=
  match c with
  | '"' => some '"'
  | '\\' => some '\\'
  | '/' => some '/'
  | 'b' => some '\x08'
  | 'f' => some '\x0c'
  | 'n' => some '\n'
  | 'r' => some '\r'
  | 't' => some '\t'
  | _ => none

def badPair (text : List Char) : Fault :=
  match text with
  | [] => .here .endInString []
  | ['\\'] => .here .endInString []
  | '\\' :: 'u' :: rest => badUnit rest
  | '\\' :: rest => .peek .unfinishedSurrogate rest
  | rest => .peek .unfinishedSurrogate rest

/-- The characters of a string after its opening quote; `before` holds those already read, the
last one first. -/
def stringBody (before : List Char) : List Char → Reading (List Char)
  | [] => .error (.here .endInString [])
  | '"' :: rest => .ok (before.reverse, rest)
  | '\\' :: 'u' :: a :: b :: c :: d :: rest =>
    match unit? a b c d with
    | none => .error (badUnit (a :: b :: c :: d :: rest))
    | some unit =>
      if isTrailing unit then .error (.here .loneSurrogate rest)
      else if isLeading unit then
        match rest with
        | '\\' :: 'u' :: e :: f :: g :: h :: more =>
          match unit? e f g h with
          | none => .error (badUnit (e :: f :: g :: h :: more))
          | some second =>
            if isTrailing second then stringBody (pairChar unit second :: before) more
            else .error (.here .loneSurrogate more)
        | text => .error (badPair text)
      else stringBody (Char.ofNat unit :: before) rest
  | '\\' :: 'u' :: text => .error (badUnit text)
  | ['\\'] => .error (.here .endInString [])
  | '\\' :: c :: rest =>
    match simpleEscape? c with
    | some plain => stringBody (plain :: before) rest
    | none => .error (.peek .badEscape (c :: rest))
  | c :: rest =>
    if c.toNat < 0x20 then .error (.here .rawControl rest) else stringBody (c :: before) rest

def stringRest (text : List Char) : Reading String :=
  match stringBody [] text with
  | .ok (chars, rest) => .ok (String.ofList chars, rest)
  | .error fault => .error fault

end LivePreview.Json
