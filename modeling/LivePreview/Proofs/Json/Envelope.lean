import LivePreview.Json.Envelope
import LivePreview.Proofs.Json.Record

namespace LivePreview.Json

variable {α β σ γ : Type} {json payload : Json} {value : α} {depth : Nat}
variable {first : Bool} {rest : List Char} {kind type name case : String}
variable {variant : Variant α} {variants : List (Variant α)}

abbrev Variant.Reads (variant : Variant α) (json : Json) (value : α) : Prop :=
  Json.Reads variant.read variant.take json value

theorem Variant.reads_fields {fields : Fields σ γ} {make : γ → α} {last : σ} {values : γ}
    {entries : List (String × Json)} (filled : fields.Filled fields.blank entries last)
    (collected : fields.collect last = .ok values) :
    (Variant.fields type name case fields make).Reads (.object entries) (make values) :=
  filled.reads collected (fun _ _ => rfl) rfl

theorem Variant.regains_fields {fields : Fields σ γ} {make : γ → α} {values : γ}
    (distinct : fields.Distinct) (regains : fields.Regains values) :
    (Variant.fields type name case fields make).Reads (.object (fields.write values))
      (make values) := by
  obtain ⟨last, filled, collected⟩ := fields.filled_write distinct regains
  exact reads_fields filled collected

theorem Variant.regains_sole {codec : Codec β} {value : β} (regains : codec.Regains value)
    (field : String) (make : β × Unit → α) :
    (Variant.fields type name case (.field (.required field codec) .done) make).Reads
      (.object [(field, codec.write value)]) (make (value, ())) := by
  have distinct : (Fields.field (.required field codec) .done).Distinct := ⟨nofun, trivial⟩
  have regained : (Fields.field (.required field codec) .done).Regains (value, ()) :=
    ⟨regains, trivial⟩
  exact regains_fields distinct regained

theorem Variant.reads_carrying {codec : Codec β} {value : β}
    (reads : codec.Reads json value) (make : β → α) :
    (Variant.carrying name codec make).Reads json (make value) :=
  reads.map make

namespace Envelope

theorem ownKey_spelled (key : Key) {before text : List Char} (separator : Separator first before)
    (quoted : QuotedText key.name text) (rest : List Char) :
    ownKey first (before ++ (text ++ rest)) = .ok (some key, rest) := by
  have own : key? key.name = some key := by
    cases key <;> rfl
  simp only [ownKey, nextOwnKey, nextKey_spelled separator quoted, own]

theorem ownKey_close {blank : List Char} (is : Blank blank) (rest : List Char) :
    ownKey first (blank ++ '\x7d' :: rest) = .ok (none, '\x7d' :: rest) := by
  simp only [ownKey, nextOwnKey, nextKey_close is]

theorem noMore_close {blank : List Char} (is : Blank blank) (value : α) (rest : List Char) :
    noMore value (blank ++ '\x7d' :: rest) = .ok (value, '\x7d' :: rest) := by
  simp only [noMore, ownKey_close is]

/-- How two entries are gone through: a name, its value, the other name, its value, the end. -/
theorem pair_spelled (one other : Key) {json otherJson : Json} {inner : List Char}
    (spelled : SpellsEntries [(one.name, json), (other.name, otherJson)] true inner)
    (rest : List Char) :
    ∃ atValue middle atOther close, ownKey true (inner ++ rest) = .ok (some one, atValue) ∧
      (∀ {α : Type} {read : List Char → Reading α} {value : α}, ReadsText read json value →
        valueAfter read atValue = .ok (value, middle)) ∧
      ownKey false middle = .ok (some other, atOther) ∧
      (∀ {α : Type} {read : List Char → Reading α} {value : α}, ReadsText read otherJson value →
        valueAfter read atOther = .ok (value, close)) ∧
      ∀ {α : Type} (value : α), noMore value close = .ok (value, '\x7d' :: rest) := by
  obtain ⟨before, key, colon, own, more, separator, quoted, isColon, ownSpelled, moreSpelled,
    rfl⟩ := spelled
  have next := delimited_of_entries moreSpelled rest
  obtain ⟨between, otherKey, otherColon, otherOwn, _, betweenIs, otherQuoted, otherIsColon,
    otherSpelled, ⟨blank, is, rfl⟩, rfl⟩ := moreSpelled
  have ends : Delimited (blank ++ '\x7d' :: rest) := (delimited_mark (by decide) rest).after is
  simp only [List.append_assoc, List.singleton_append] at next ⊢
  exact ⟨_, _, _, _, ownKey_spelled one separator quoted _,
    fun reads => valueAfter_colon reads isColon ownSpelled next,
    ownKey_spelled other betweenIs otherQuoted _,
    fun reads => valueAfter_colon reads otherIsColon otherSpelled ends,
    fun value => noMore_close is value rest⟩

theorem readsText_object {entries : List (String × Json)}
    (inside : ∀ {inner rest : List Char}, SpellsEntries entries true inner →
      readObject variants depth (inner ++ rest) = .ok (value, '\x7d' :: rest)) :
    ReadsText (read type variants (depth + 1)) (.object entries) value :=
  Entering.read_object inside

variable (known : Entries.find? (tags variants) kind = some variant)

include known

theorem reads_bare (bare : variant.bare = some value) :
    Json.Reads (read type variants) (take type variants) (.object [("type", .string kind)])
      value where
  text {depth} within := by
    obtain ⟨depth, rfl⟩ := Nat.exists_eq_succ_of_ne_zero (Nat.ne_zero_of_lt within)
    apply readsText_object
    intro inner rest spelled
    obtain ⟨before, key, colon, own, _, separator, quoted, isColon, ownSpelled,
      ⟨blank, is, rfl⟩, rfl⟩ := spelled
    have ends : Delimited (blank ++ '\x7d' :: rest) := (delimited_mark (by decide) rest).after is
    have isType := ownKey_spelled .type separator quoted
      (colon ++ (own ++ (blank ++ '\x7d' :: rest)))
    have tag := valueAfter_colon ((Codec.reads_variant known).text (Nat.zero_le depth)) isColon
      ownSpelled ends
    simp only [List.append_assoc, List.singleton_append, readObject, isType, tag, payloadAfter,
      ownKey_close is, bare]
  take := by
    have tag := (Codec.reads_variant known).take
    simp [Envelope.take, Entries.find?, Key.name, tag, bind, Except.bind, bare]
    rfl

variable (reads : variant.Reads payload value)

include reads

theorem reads_typeFirst :
    Json.Reads (read type variants) (take type variants)
      (.object [("type", .string kind), ("payload", payload)]) value where
  text {depth} within := by
    obtain ⟨depth, rfl⟩ := Nat.exists_eq_succ_of_ne_zero (Nat.ne_zero_of_lt within)
    have shallow : nesting payload ≤ depth := by
      simp only [nesting, nestingEntries] at within
      omega
    have tag := (Codec.reads_variant known).text (Nat.zero_le depth)
    apply readsText_object
    intro inner rest spelled
    obtain ⟨atType, middle, atPayload, close, isType, ofType, isPayload, ofPayload, ends⟩ :=
      pair_spelled .type .payload spelled rest
    simp only [readObject, isType, ofType tag, payloadAfter, isPayload,
      ofPayload (reads.text shallow), ends]
  take := by
    have tag := (Codec.reads_variant known).take
    simp [Envelope.take, Entries.find?, Key.name, tag]
    exact reads.take

theorem reads_payloadFirst :
    Json.Reads (read type variants) (take type variants)
      (.object [("payload", payload), ("type", .string kind)]) value where
  text {depth} within := by
    obtain ⟨depth, rfl⟩ := Nat.exists_eq_succ_of_ne_zero (Nat.ne_zero_of_lt within)
    have shallow : nesting payload ≤ depth := by
      simp only [nesting, nestingEntries] at within
      omega
    have tag := (Codec.reads_variant known).text (Nat.zero_le depth)
    apply readsText_object
    intro inner rest spelled
    obtain ⟨atPayload, middle, atType, close, isPayload, ofPayload, isType, ofType, ends⟩ :=
      pair_spelled .payload .type spelled rest
    simp only [readObject, isPayload, ofPayload (reads_tree payload shallow), typeAfter, isType,
      ofType tag, reads.take, ends]
  take := by
    have tag := (Codec.reads_variant known).take
    simp [Envelope.take, Entries.find?, Key.name, tag]
    exact reads.take

end Envelope

end LivePreview.Json
