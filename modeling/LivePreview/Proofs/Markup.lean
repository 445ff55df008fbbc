import LivePreview.Markup
import Mathlib.Data.List.TakeWhile

namespace LivePreview

/-! Where the elements of a document stand in its text.  Of the places at which an opening tag is
followed by a closing one the first counts, and for it the first closing tag. -/

namespace Text

/-- Nothing but blanks is cut off, and no blank is left at either end. -/
def Trimmed (text : List Char) (trimmed : String) : Prop :=
  ∃ before after, text = before ++ (trimmed.toList ++ after) ∧
    (∀ c ∈ before, isBlank c = true) ∧ (∀ c ∈ after, isBlank c = true) ∧
    (∀ c ∈ trimmed.toList.head?, isBlank c = false) ∧
    ∀ c ∈ trimmed.toList.getLast?, isBlank c = false

theorem exists_trimStart (text : List Char) :
    ∃ before, text = before ++ trimStart text ∧ ∀ c ∈ before, isBlank c = true :=
  ⟨text.takeWhile isBlank, List.takeWhile_append_dropWhile.symm,
    fun _ member => List.mem_takeWhile_imp member⟩

theorem not_isBlank_head_trimStart (text : List Char) :
    ∀ c ∈ (trimStart text).head?, isBlank c = false := by
  intro c isFirst
  have first := List.head?_dropWhile_not isBlank text
  rw [trimStart, Option.mem_def] at isFirst
  rwa [isFirst] at first

theorem exists_trimEnd (text : List Char) :
    ∃ after, text = trimEnd text ++ after ∧ ∀ c ∈ after, isBlank c = true := by
  obtain ⟨before, split, blank⟩ := exists_trimStart text.reverse
  refine ⟨before.reverse, ?_, fun c member => blank c (List.mem_reverse.mp member)⟩
  rw [trimEnd, ← List.reverse_append, ← split, List.reverse_reverse]

theorem trimmed_trim (text : List Char) : Trimmed text (String.ofList (trim text)) := by
  obtain ⟨before, startSplit, blankBefore⟩ := exists_trimStart text
  obtain ⟨after, endSplit, blankAfter⟩ := exists_trimEnd (trimStart text)
  rw [Trimmed, String.toList_ofList]
  refine ⟨before, after, ?_, blankBefore, blankAfter, ?_, ?_⟩
  · rw [trim, ← endSplit, ← startSplit]
  · -- What is cut off at the end leaves the first character in place.
    intro c isFirst
    refine not_isBlank_head_trimStart text c ?_
    rw [trim, Option.mem_def] at isFirst
    rw [endSplit, List.head?_append, isFirst]
    rfl
  · intro c isLast
    rw [trim, trimEnd, List.getLast?_reverse] at isLast
    exact not_isBlank_head_trimStart _ c isLast

end Text

namespace Markup

variable {name word text after inner : List Char} {i j k : Nat}

/-- The word, given in small letters, stands at the place in letters of any case. -/
def StandsAt (word text : List Char) (place : Nat) : Prop :=
  ∃ letters after, text.drop place = letters ++ after ∧ letters.map Char.toLower = word

def closingTag (name : List Char) : List Char :=
  '<' :: '/' :: (name ++ ['>'])

/-- An opening tag starts at `i` and ends at `j`, at the first angle bracket there is for it. -/
structure Opens (name text : List Char) (i j : Nat) : Prop where
  named : StandsAt ('<' :: name) text i
  bounded : ∃ c, text[i + (name.length + 1)]? = some c ∧ Text.isWord c = false
  beyond : i + (name.length + 1) ≤ j
  bracket : text[j]? = some '>'
  first : ∀ place, i + (name.length + 1) ≤ place → place < j → text[place]? ≠ some '>'

/-- An opening tag from `i` to `j`, and a closing tag at `k` after it. -/
structure Span (name text : List Char) (i j k : Nat) : Prop where
  opens : Opens name text i j
  closes : StandsAt (closingTag name) text k
  apart : j + 1 ≤ k

/-- The span that starts first, and of those the one that is closed first. -/
structure Foremost (name text : List Char) (i j k : Nat) : Prop where
  span : Span name text i j k
  first : ∀ {i' j' k'}, Span name text i' j' k' → i ≤ i' ∧ (i = i' → k ≤ k')

/-- What stands between two places, without the characters at them. -/
def between (text : List Char) (j k : Nat) : List Char :=
  (text.drop (j + 1)).take (k - (j + 1))

theorem standsAt_drop {start place : Nat} :
    StandsAt word (text.drop start) place ↔ StandsAt word text (start + place) := by
  rw [StandsAt, StandsAt, List.drop_drop]

theorem not_standsAt_nil (nonempty : word ≠ []) (place : Nat) : ¬ StandsAt word [] place := by
  rintro ⟨letters, after, split, lowered⟩
  rw [List.drop_nil, eq_comm, List.append_eq_nil_iff] at split
  rw [split.1, List.map_nil] at lowered
  exact nonempty lowered.symm

theorem after?_eq_some :
    after? word text = some after ↔ StandsAt word text 0 ∧ after = text.drop word.length := by
  constructor
  · intro found
    induction word generalizing text with
    | nil =>
        rw [after?_nil, Option.some.injEq] at found
        exact ⟨⟨[], text, rfl, rfl⟩, found.symm⟩
    | cons letter word ih =>
        cases text with
        | nil => cases found
        | cons c text =>
            rw [after?] at found
            split at found
            next same =>
                obtain ⟨⟨letters, rest, split, lowered⟩, dropped⟩ := ih found
                rw [List.drop_zero] at split
                exact ⟨⟨c :: letters, rest, by rw [split]; rfl, by rw [← same, ← lowered]; rfl⟩,
                  dropped⟩
            next => cases found
  · rintro ⟨⟨letters, rest, split, lowered⟩, rfl⟩
    rw [List.drop_zero] at split
    subst split
    induction letters generalizing word with
    | nil =>
        cases lowered
        exact after?_nil rest
    | cons c letters ih =>
        cases lowered
        rw [List.cons_append, List.map_cons, after?, if_pos rfl]
        exact ih rfl

theorem isSome_after?_iff : (after? word text).isSome = true ↔ StandsAt word text 0 := by
  simp [Option.isSome_iff_exists, after?_eq_some]

theorem exists_bracket (found : afterAngle? text = some after) :
    ∃ place, after = text.drop (place + 1) ∧ text[place]? = some '>' ∧
      ∀ earlier < place, text[earlier]? ≠ some '>' := by
  induction text with
  | nil => cases found
  | cons c rest ih =>
      rw [afterAngle?] at found
      split at found
      next same =>
          cases found
          exact ⟨0, rfl, by simp [same], by simp⟩
      next other =>
          obtain ⟨place, rest, bracket, first⟩ := ih found
          refine ⟨place + 1, rest, bracket, ?_⟩
          intro earlier before
          cases earlier with
          | zero => simpa using other
          | succ earlier => exact first earlier (Nat.lt_of_succ_lt_succ before)

theorem not_bracket (missing : afterAngle? text = none) (place : Nat) :
    text[place]? ≠ some '>' := by
  induction text generalizing place with
  | nil => simp
  | cons c rest ih =>
      rw [afterAngle?] at missing
      split at missing
      next => cases missing
      next other =>
          cases place with
          | zero => simpa using other
          | succ place => exact ih missing place

theorem Opens.unique {other : Nat} (opens : Opens name text i j) (also : Opens name text i other) :
    j = other := by
  rcases Nat.lt_trichotomy j other with less | same | more
  · exact (also.first j opens.beyond less opens.bracket).elim
  · exact same
  · exact (opens.first other also.beyond more also.bracket).elim

theorem opens_of_afterOpening? (found : afterOpening? name text = some after) :
    ∃ j, Opens name text 0 j ∧ after = text.drop (j + 1) := by
  unfold afterOpening? at found
  split at found
  next => cases found
  next => cases found
  next c rest named =>
      obtain ⟨named, dropped⟩ := after?_eq_some.mp named
      split at found
      next => cases found
      next bounded =>
          rw [dropped] at found
          obtain ⟨place, rfl, bracket, first⟩ := exists_bracket found
          simp only [List.getElem?_drop, List.length_cons] at bracket first
          refine ⟨name.length + 1 + place, ?_, by simp [Nat.add_assoc]⟩
          have isHead : (text.drop (name.length + 1))[0]? = some c := by
            rw [← List.length_cons, ← dropped]
            rfl
          rw [List.getElem?_drop] at isHead
          exact
            { named := named
              bounded := ⟨c, by simpa using isHead, by simpa using bounded⟩
              beyond := by omega
              bracket := bracket
              first := by
                intro earlier beyond before
                obtain ⟨distance, rfl⟩ := Nat.exists_eq_add_of_le beyond
                rw [Nat.zero_add] at before ⊢
                exact first distance (Nat.lt_of_add_lt_add_left before) }

theorem not_opens (missing : afterOpening? name text = none) (j : Nat) :
    ¬ Opens name text 0 j := by
  intro opens
  obtain ⟨c, isHead, bounded⟩ := opens.bounded
  obtain ⟨distance, rfl⟩ := Nat.exists_eq_add_of_le opens.beyond
  have bracket := opens.bracket
  rw [Nat.zero_add, ← List.head?_drop] at isHead
  rw [Nat.zero_add, ← List.getElem?_drop] at bracket
  obtain ⟨rest, dropped⟩ := List.head?_eq_some_iff.mp isHead
  have named : after? ('<' :: name) text = some (c :: rest) :=
    after?_eq_some.mpr ⟨opens.named, dropped.symm⟩
  unfold afterOpening? at missing
  simp only [named, bounded, Bool.false_eq_true, if_false] at missing
  rw [← dropped] at missing
  exact not_bracket missing distance bracket

theorem closes_of_beforeClosing? (found : beforeClosing? name text = some inner) :
    ∃ k, inner = text.take k ∧ StandsAt (closingTag name) text k ∧
      ∀ earlier < k, ¬ StandsAt (closingTag name) text earlier := by
  induction text generalizing inner with
  | nil => cases found
  | cons c rest ih =>
      rw [beforeClosing?] at found
      split at found
      next here =>
          cases found
          exact ⟨0, rfl, isSome_after?_iff.mp here, by simp⟩
      next notHere =>
          obtain ⟨inner, later, rfl⟩ := Option.map_eq_some_iff.mp found
          obtain ⟨k, rfl, closes, first⟩ := ih later
          refine ⟨k + 1, rfl, closes, ?_⟩
          intro earlier before
          cases earlier with
          | zero => exact fun stands => notHere (isSome_after?_iff.mpr stands)
          | succ earlier => exact first earlier (Nat.lt_of_succ_lt_succ before)

theorem not_closes (missing : beforeClosing? name text = none) (k : Nat) :
    ¬ StandsAt (closingTag name) text k := by
  induction text generalizing k with
  | nil => exact not_standsAt_nil (List.cons_ne_nil _ _) k
  | cons c rest ih =>
      rw [beforeClosing?] at missing
      split at missing
      next => cases missing
      next notHere =>
          cases k with
          | zero => exact fun stands => notHere (isSome_after?_iff.mpr stands)
          | succ k => exact ih (Option.map_eq_none_iff.mp missing) k

theorem span_of_element?
    (found : (afterOpening? name text).bind (beforeClosing? name) = some inner) :
    ∃ j k, Span name text 0 j k ∧ inner = between text j k ∧
      ∀ {other closing}, Span name text 0 other closing → k ≤ closing := by
  obtain ⟨after, opened, closed⟩ := Option.bind_eq_some_iff.mp found
  obtain ⟨j, opens, rfl⟩ := opens_of_afterOpening? opened
  obtain ⟨k, rfl, closes, first⟩ := closes_of_beforeClosing? closed
  rw [standsAt_drop] at closes
  refine ⟨j, j + 1 + k, ⟨opens, closes, Nat.le_add_right _ _⟩, ?_, ?_⟩
  · rw [between, Nat.add_sub_cancel_left]
  · intro other closing span
    cases opens.unique span.opens
    obtain ⟨distance, rfl⟩ := Nat.exists_eq_add_of_le span.apart
    refine Nat.add_le_add_left (Nat.le_of_not_lt fun earlier => ?_) _
    exact first distance earlier (standsAt_drop.mpr span.closes)

theorem not_span_of_element? (missing : (afterOpening? name text).bind (beforeClosing? name) = none)
    (j k : Nat) : ¬ Span name text 0 j k := by
  intro span
  cases opened : afterOpening? name text with
  | none => exact not_opens opened j span.opens
  | some after =>
      obtain ⟨other, opens, rfl⟩ := opens_of_afterOpening? opened
      cases opens.unique span.opens
      rw [opened, Option.bind_some] at missing
      obtain ⟨distance, rfl⟩ := Nat.exists_eq_add_of_le span.apart
      exact not_closes missing distance (standsAt_drop.mpr span.closes)

theorem span_cons {c : Char} :
    Span name (c :: text) (i + 1) (j + 1) (k + 1) ↔ Span name text i j k := by
  have moved (place : Nat) : i + 1 + (name.length + 1) ≤ place + 1 ↔
      i + (name.length + 1) ≤ place := by omega
  have same : i + 1 + (name.length + 1) = i + (name.length + 1) + 1 := by omega
  constructor
  · rintro ⟨⟨named, bounded, beyond, bracket, first⟩, closes, apart⟩
    rw [same] at bounded
    refine ⟨⟨named, bounded, (moved j).mp beyond, bracket, ?_⟩, closes, by omega⟩
    intro earlier beyond before
    exact first (earlier + 1) ((moved earlier).mpr beyond) (Nat.succ_lt_succ before)
  · rintro ⟨⟨named, bounded, beyond, bracket, first⟩, closes, apart⟩
    refine ⟨⟨named, same ▸ bounded, (moved j).mpr beyond, bracket, ?_⟩, closes, by omega⟩
    intro earlier beyond before
    cases earlier with
    | zero => omega
    | succ earlier =>
        exact first earlier ((moved earlier).mp beyond) (Nat.lt_of_succ_lt_succ before)

theorem exists_span_of_cons {c : Char} (span : Span name (c :: text) (i + 1) j k) :
    ∃ j' k', j = j' + 1 ∧ k = k' + 1 ∧ Span name text i j' k' := by
  have beyond := span.opens.beyond
  have apart := span.apart
  obtain ⟨j, rfl⟩ : ∃ j', j = j' + 1 := ⟨j - 1, by omega⟩
  obtain ⟨k, rfl⟩ : ∃ k', k = k' + 1 := ⟨k - 1, by omega⟩
  exact ⟨j, k, rfl, rfl, span_cons.mp span⟩

theorem foremost_of_content? (found : content? name text = some inner) :
    ∃ i j k, Foremost name text i j k ∧ inner = between text j k := by
  induction text with
  | nil => cases found
  | cons c rest ih =>
      rw [content?] at found
      split at found
      next here =>
          cases found
          obtain ⟨j, k, span, rfl, first⟩ := span_of_element? here
          refine ⟨0, j, k, ⟨span, ?_⟩, rfl⟩
          intro i' j' k' other
          exact ⟨Nat.zero_le i', fun same => first (same ▸ other)⟩
      next notHere =>
          obtain ⟨i, j, k, foremost, rfl⟩ := ih found
          refine ⟨i + 1, j + 1, k + 1, ⟨span_cons.mpr foremost.span, ?_⟩, ?_⟩
          · intro i' j' k' other
            cases i' with
            | zero => exact (not_span_of_element? notHere j' k' other).elim
            | succ i' =>
                obtain ⟨j', k', rfl, rfl, later⟩ := exists_span_of_cons other
                obtain ⟨le, closed⟩ := foremost.first later
                exact ⟨Nat.succ_le_succ le, fun same =>
                  Nat.succ_le_succ (closed (Nat.succ.inj same))⟩
          · rw [between, between, List.drop_succ_cons, Nat.add_sub_add_right]

theorem not_span_of_content? (missing : content? name text = none) (i j k : Nat) :
    ¬ Span name text i j k := by
  induction text generalizing i j k with
  | nil => exact fun span => not_standsAt_nil (List.cons_ne_nil _ _) i span.opens.named
  | cons c rest ih =>
      rw [content?] at missing
      split at missing
      next => cases missing
      next notHere =>
          cases i with
          | zero => exact not_span_of_element? notHere j k
          | succ i =>
              intro span
              obtain ⟨j, k, rfl, rfl, later⟩ := exists_span_of_cons span
              exact ih missing i j k later

theorem content?_eq_none_iff :
    content? name text = none ↔ ¬ ∃ i j k, Span name text i j k := by
  constructor
  · rintro missing ⟨i, j, k, span⟩
    exact not_span_of_content? missing i j k span
  · intro spanless
    rw [Option.eq_none_iff_forall_not_mem]
    intro inner found
    obtain ⟨i, j, k, foremost, -⟩ := foremost_of_content? found
    exact spanless ⟨i, j, k, foremost.span⟩

theorem body_ofHtml (html : String) :
    (ofHtml html).body = trimmed ((content? "body".toList html.toList).getD html.toList) := rfl

/-- A document has a head if its text has a span for one, and the head is then what stands between
the tags of the foremost.  So it is with the body, which without a span is the document as a
whole. -/
theorem ofHtml_splits (html : String) :
    ((ofHtml html).head = none ↔ ¬ ∃ i j k, Span "head".toList html.toList i j k) ∧
    (∀ head, (ofHtml html).head = some head →
      ∃ i j k, Foremost "head".toList html.toList i j k ∧
        Text.Trimmed (between html.toList j k) head) ∧
    ((¬ ∃ i j k, Span "body".toList html.toList i j k) →
      Text.Trimmed html.toList (ofHtml html).body) ∧
    ((∃ i j k, Span "body".toList html.toList i j k) →
      ∃ i j k, Foremost "body".toList html.toList i j k ∧
        Text.Trimmed (between html.toList j k) (ofHtml html).body) := by
  refine ⟨?_, ?_, ?_, ?_⟩
  · rw [ofHtml, Option.map_eq_none_iff]
    exact content?_eq_none_iff
  · intro head isHead
    obtain ⟨inner, found, rfl⟩ := Option.map_eq_some_iff.mp isHead
    obtain ⟨i, j, k, foremost, rfl⟩ := foremost_of_content? found
    exact ⟨i, j, k, foremost, Text.trimmed_trim _⟩
  · intro spanless
    rw [body_ofHtml, content?_eq_none_iff.mpr spanless]
    exact Text.trimmed_trim html.toList
  · intro spans
    rw [body_ofHtml]
    cases found : content? "body".toList html.toList with
    | none => exact (content?_eq_none_iff.mp found spans).elim
    | some inner =>
        obtain ⟨i, j, k, foremost, rfl⟩ := foremost_of_content? found
        exact ⟨i, j, k, foremost, Text.trimmed_trim _⟩

/-- A name that only begins like the element's, and a tag that is closed before it opens, make no
head; of two closing tags the first counts. -/
example : ofHtml "</head><header></head><HEAD\n a> t </Head></head><p> x </p>\n" =
    ⟨some "t", "</head><header></head><HEAD\n a> t </Head></head><p> x </p>"⟩ := by
  decide +kernel

end Markup

end LivePreview
