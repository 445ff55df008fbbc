import LivePreview.Json.Tree

namespace LivePreview.Json

variable {rest text : List Char}

def Blank (text : List Char) : Prop :=
  ∀ c ∈ text, isBlank c = true

theorem blank_nil : Blank [] := by
  simp [Blank]

theorem skipBlanks_append {blank : List Char} (is : Blank blank) (rest : List Char) :
    skipBlanks (blank ++ rest) = skipBlanks rest :=
  List.dropWhile_append_of_pos is

theorem skipBlanks_cons {c : Char} (solid : isBlank c = false) (rest : List Char) :
    skipBlanks (c :: rest) = c :: rest := by
  simp [skipBlanks, solid]

theorem skipBlanks_before {blank : List Char} (is : Blank blank) {c : Char}
    (solid : isBlank c = false) (rest : List Char) :
    skipBlanks (blank ++ c :: rest) = c :: rest := by
  rw [skipBlanks_append is, skipBlanks_cons solid]

def Delimited (rest : List Char) : Prop :=
  ∀ c more, rest = c :: more → c.isDigit = false ∧ c ≠ '.' ∧ c ≠ 'e' ∧ c ≠ 'E'

theorem delimited_nil : Delimited [] := by
  simp [Delimited]

theorem delimited_mark {c : Char} (is : c ∈ [',', ':', ']', '\x7d']) (rest : List Char) :
    Delimited (c :: rest) := by
  rintro _ _ ⟨⟩
  simp only [List.mem_cons, List.not_mem_nil, or_false] at is
  rcases is with rfl | rfl | rfl | rfl <;> decide

theorem delimited_blank {c : Char} (is : isBlank c = true) (rest : List Char) :
    Delimited (c :: rest) := by
  rintro _ _ ⟨⟩
  simp only [isBlank, Bool.or_eq_true, beq_iff_eq, or_assoc] at is
  rcases is with rfl | rfl | rfl | rfl <;> decide

theorem Delimited.after {blank : List Char} (delimited : Delimited rest) (is : Blank blank) :
    Delimited (blank ++ rest) := by
  cases blank with
  | nil => exact delimited
  | cons c more => exact delimited_blank (is c (by simp)) _

theorem takeWhile_digits {digits : List Char} (all : ∀ c ∈ digits, c.isDigit = true)
    (delimited : Delimited rest) : (digits ++ rest).takeWhile Char.isDigit = digits := by
  rw [List.takeWhile_append_of_pos all]
  cases rest with
  | nil => simp
  | cons c more => simp [(delimited c more rfl).1]

theorem dropWhile_digits {digits : List Char} (all : ∀ c ∈ digits, c.isDigit = true)
    (delimited : Delimited rest) : (digits ++ rest).dropWhile Char.isDigit = rest := by
  rw [List.dropWhile_append_of_pos all]
  cases rest with
  | nil => rfl
  | cons c more => simp [(delimited c more rfl).1]

theorem le_ofDigitChars (digits : List Char) (value : Nat) :
    value ≤ Nat.ofDigitChars 10 digits value := by
  induction digits generalizing value with
  | nil => exact Nat.le_refl value
  | cons digit more ih =>
      rw [Nat.ofDigitChars_cons]
      exact Nat.le_trans (by omega) (ih _)

theorem takeUp_eq {digits : List Char} {value taken : Nat}
    (fits : Nat.ofDigitChars 10 digits value ≤ largestWord) :
    takeUp value taken digits =
      (Nat.ofDigitChars 10 digits value, taken + digits.length, 0) := by
  induction digits generalizing value taken with
  | nil => rfl
  | cons digit more ih =>
      rw [Nat.ofDigitChars_cons] at fits ⊢
      have next : value * 10 + digitValue digit = 10 * value + (digit.toNat - '0'.toNat) := by
        rw [digitValue, Nat.mul_comm]
      have within : ¬ largestWord < 10 * value + (digit.toNat - '0'.toNat) :=
        Nat.not_lt.mpr (Nat.le_trans (le_ofDigitChars more _) fits)
      simp only [takeUp, next, if_neg within, ih fits, List.length_cons]
      congr 2
      omega

theorem fractionPart_delimited (delimited : Delimited rest) {negative : Bool} {significand : Nat}
    {value : Number} (is : integerOf negative significand = some value) :
    fractionPart negative significand 0 rest = .ok (value, rest) := by
  cases rest with
  | nil => simp [fractionPart, is]
  | cons c more =>
      obtain ⟨_, point, small, capital⟩ := delimited c more rfl
      unfold fractionPart
      split
      · exact (point (by simp_all)).elim
      · exact (small (by simp_all)).elim
      · exact (capital (by simp_all)).elim
      · simp [is]

theorem head_toDigits {value : Nat} (positive : 0 < value) {c : Char} {more : List Char}
    (digits : Nat.toDigits 10 value = c :: more) : c ≠ '0' := by
  induction value using Nat.strongRecOn generalizing c more with
  | ind value ih =>
      by_cases small : value < 10
      · rw [Nat.toDigits_of_lt_base small] at digits
        cases digits
        have nonzero : ∀ digit < 10, 0 < digit → Nat.digitChar digit ≠ '0' := by decide
        exact nonzero value small positive
      · rw [Nat.toDigits_of_base_le (by omega) (Nat.not_lt.mp small)] at digits
        cases shorter : Nat.toDigits 10 (value / 10) with
        | nil => exact (Nat.toDigits_ne_nil shorter).elim
        | cons first tail =>
            rw [shorter] at digits
            cases digits
            exact ih (value / 10) (by omega) (by omega) shorter

theorem numberRest_printNat (delimited : Delimited rest) {negative : Bool} {value : Nat}
    (fits : value ≤ largestWord) {number : Number}
    (is : integerOf negative value = some number) :
    numberRest negative (printNat value ++ rest) = .ok (number, rest) := by
  unfold printNat
  have all : ∀ c ∈ Nat.toDigits 10 value, c.isDigit = true :=
    fun c member => Nat.isDigit_of_mem_toDigits (by omega) (by omega) member
  rcases Nat.eq_zero_or_pos value with rfl | positive
  · rw [Nat.toDigits_of_lt_base (by omega)]
    cases rest with
    | nil => exact fractionPart_delimited delimited is
    | cons c more =>
        have nondigit := (delimited c more rfl).1
        change (if c.isDigit then _ else fractionPart negative 0 0 (c :: more)) = _
        rw [if_neg (by simp [nondigit])]
        exact fractionPart_delimited delimited is
  · cases digits : Nat.toDigits 10 value with
    | nil => exact (Nat.toDigits_ne_nil digits).elim
    | cons c more =>
        rw [digits] at all
        have nonzero := head_toDigits positive digits
        have first : c.isDigit = true := all c (by simp)
        have whole : Nat.ofDigitChars 10 (c :: more) 0 = value := by
          rw [← digits]
          exact Nat.ofDigitChars_toDigits (by omega) (by omega)
        have taken := takeWhile_digits all delimited
        have left : (more ++ rest).dropWhile Char.isDigit = rest :=
          dropWhile_digits (fun c member => all c (by simp [member])) delimited
        rw [List.cons_append] at taken ⊢
        unfold numberRest
        split
        next ends => cases ends
        next zero => exact (nonzero (List.cons.inj zero).1).elim
        next d ds _ same =>
            cases same
            rw [if_neg (by simp [first]), taken, takeUp_eq (by rw [whole]; exact fits), left]
            simp only [whole]
            exact fractionPart_delimited delimited is

def Number.IsInteger : Number → Prop
  | .double _ => False
  | .natural _ | .negative _ => True

theorem integerOf_natural (value : UInt64) :
    integerOf false value.toNat = some (.natural value) := by
  simp [integerOf]

theorem integerOf_negative (below : Fin (UInt64.size / 2)) :
    integerOf true (below.val + 1) = some (.negative below) := by
  simp [integerOf, below.isLt]

/-- The ways to write a character in a string. -/
inductive CharText : Char → List Char → Prop
  | plain {c : Char} (printable : ¬ c.toNat < 0x20) (quote : c ≠ '"') (slash : c ≠ '\\') :
      CharText c [c]
  | escaped {c letter : Char} (is : simpleEscape? letter = some c) : CharText c ['\\', letter]
  | unit {a b c d : Char} {code : Nat} (is : unit? a b c d = some code)
      (unpaired : isTrailing code = false) (alone : isLeading code = false) :
      CharText (Char.ofNat code) ['\\', 'u', a, b, c, d]
  | pair {a b c d e f g h : Char} {first second : Nat} (leads : unit? a b c d = some first)
      (trails : unit? e f g h = some second) (leading : isLeading first = true)
      (trailing : isTrailing second = true) :
      CharText (pairChar first second) ['\\', 'u', a, b, c, d, '\\', 'u', e, f, g, h]

/-- The texts of a string, its quotes left out. -/
inductive StringText : List Char → List Char → Prop
  | nil : StringText [] []
  | cons {c : Char} {chars text more : List Char} (head : CharText c text)
      (tail : StringText chars more) : StringText (c :: chars) (text ++ more)

theorem isTrailing_of_isLeading {code : Nat} (leading : isLeading code = true) :
    isTrailing code = false := by
  simp only [isLeading, isTrailing, Bool.and_eq_true, decide_eq_true_eq] at leading ⊢
  simp
  omega

theorem stringBody_charText {c : Char} (is : CharText c text) (before rest : List Char) :
    stringBody before (text ++ rest) = stringBody (c :: before) rest := by
  cases is with
  | plain printable quote slash =>
      rw [List.singleton_append, stringBody.eq_def]
      split <;> simp_all [Nat.not_lt_of_le]
  | escaped is =>
      unfold simpleEscape? at is
      split at is <;> cases is <;> simp [stringBody, simpleEscape?]
  | unit is unpaired alone =>
      simp only [List.cons_append, List.nil_append]
      rw [stringBody.eq_def]
      simp [is, unpaired, alone]
  | pair leads trails leading trailing =>
      simp only [List.cons_append, List.nil_append]
      rw [stringBody.eq_def]
      simp [leads, trails, leading, trailing, isTrailing_of_isLeading leading]

theorem stringBody_stringText {chars : List Char} (is : StringText chars text)
    (before rest : List Char) :
    stringBody before (text ++ '"' :: rest) = .ok (before.reverse ++ chars, rest) := by
  induction is generalizing before with
  | nil => simp [stringBody]
  | cons head tail ih =>
      rw [List.append_assoc, stringBody_charText head, ih]
      simp

theorem stringRest_stringText {value : String} (is : StringText value.toList text)
    (rest : List Char) : stringRest (text ++ '"' :: rest) = .ok (value, rest) := by
  simp [stringRest, stringBody_stringText is]

theorem unit?_hexPair : ∀ code < 0x20,
    unit? '0' '0' (Nat.digitChar (code / 16)) (Nat.digitChar (code % 16)) = some code := by
  decide

theorem charText_printChar (c : Char) : CharText c (printChar c) := by
  unfold printChar
  split <;> try exact .escaped rfl
  split
  next control =>
      have unit := CharText.unit (unit?_hexPair c.toNat control)
        (by simp [isTrailing]; omega) (by simp [isLeading]; omega)
      rwa [Char.ofNat_toNat] at unit
  next printable => exact .plain printable (by assumption) (by assumption)

theorem stringText_print (chars : List Char) : StringText chars (chars.flatMap printChar) := by
  induction chars with
  | nil => exact .nil
  | cons c rest ih => exact .cons (charText_printChar c) ih

theorem newline_not_mem_printChar (c : Char) : '\n' ∉ printChar c := by
  unfold printChar
  split <;> try decide
  split
  next control =>
      have plain : ∀ code < 0x20, '\n' ∉ ['\\', 'u', '0', '0'] ++ hexPair code := by decide
      exact plain c.toNat control
  next => simp only [List.mem_singleton]; exact Ne.symm (by assumption)

theorem newline_not_mem_printString (value : String) : '\n' ∉ printString value := by
  simp only [printString, List.mem_cons, List.mem_append, List.mem_flatMap, not_or, not_exists,
    not_and, List.not_mem_nil, or_false]
  exact ⟨by decide, fun c _ => newline_not_mem_printChar c, by decide⟩

theorem newline_not_mem_printNat (value : Nat) : '\n' ∉ printNat value := by
  intro member
  have digit := Nat.isDigit_of_mem_toDigits (by omega) (by omega) member
  revert digit
  decide

end LivePreview.Json
