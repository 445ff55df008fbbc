import LivePreview.Json.Codec
import LivePreview.Proofs.Json.Tree
import LivePreview.Proofs.Table

namespace LivePreview.Json

variable {α : Type} {json : Json} {value : α} {rest : List Char}

/-- The value is what a reader makes of the JSON value, from any of its texts or from itself. -/
structure Reads (read : Reader α) (take : Json → Except Cause α) (json : Json) (value : α) :
    Prop where
  text : ∀ {depth : Nat}, nesting json ≤ depth → ReadsText (read depth) json value
  take : take json = .ok value

abbrev Codec.Reads (codec : Codec α) (json : Json) (value : α) : Prop :=
  Json.Reads codec.read codec.take json value

theorem Reads.map {β : Type} {read : Reader α} {take : Json → Except Cause α}
    (reads : Json.Reads read take json value) (make : α → β) :
    Json.Reads (fun depth text => (read depth text).map fun (value, rest) => (make value, rest))
      (fun json => (take json).map make) json (make value) where
  text within blank text rest is spelled delimited := by
    have read := reads.text within is spelled delimited
    simp only [read, Except.map]
  take := by
    simp only [reads.take, Except.map]

namespace Codec

theorem readsText_scalar {expected : String} {accept : Json → Except Cause α}
    (scalar : IsScalar json) (accepted : accept json = .ok value) (depth : Nat) :
    ReadsText (Codec.scalar expected accept depth) json value := by
  intro blank text rest is spelled delimited
  unfold Codec.scalar
  rw [skipBlanks_spelled is spelled]
  simp only [scalar?_spelled scalar spelled delimited, accepted]

theorem reads_ofScalar {expected : String} {accept : Json → Except Cause α} {write : α → Json}
    (scalar : IsScalar json) (accepted : accept json = .ok value) :
    (ofScalar expected accept write).Reads json value where
  text {depth} _ := readsText_scalar scalar accepted depth
  take := accepted

theorem reads_string (value : String) : string.Reads (.string value) value :=
  reads_ofScalar trivial rfl

theorem reads_bool (value : Bool) : bool.Reads (.bool value) value :=
  reads_ofScalar trivial rfl

theorem reads_word32 (value : UInt32) : word32.Reads (word32.write value) value := by
  have below : value.toNat < UInt32.size := value.toNat_lt
  have kept : (UInt64.ofNat value.toNat).toNat = value.toNat := by
    rw [UInt64.toNat_ofNat', Nat.mod_eq_of_lt (Nat.lt_trans below (by decide))]
  refine reads_ofScalar trivial ?_
  simp only [word32, ofScalar, ofNat, acceptNat, kept, if_pos below, Except.map,
    UInt32.ofNat_toNat]

theorem plain_word32 (depth : Nat) (value : UInt32) : Plain depth (word32.write value) :=
  ⟨trivial, Nat.zero_le depth⟩

theorem reads_any (json : Json) : any.Reads json json.settled where
  text within blank text rest is spelled delimited := by
    have read := reads_tree json within is spelled delimited
    simp only [any, Json.value, read, Except.map]
  take := rfl

theorem reads_none (codec : Codec α) : codec.option.Reads .null none where
  text within blank text rest is spelled delimited := by
    have skipped := skipBlanks_spelled is spelled rest
    cases spelled
    dsimp only [option]
    rw [skipped]
    rfl
  take := rfl

theorem reads_some {codec : Codec α} (reads : codec.Reads json value) (is : json ≠ .null) :
    codec.option.Reads json (some value) where
  text within blank text rest isBlank spelled delimited := by
    have skipped := skipBlanks_spelled isBlank spelled rest
    have read := reads.text within blank_nil spelled delimited
    obtain ⟨c, more, rfl, leads⟩ := exists_leads spelled
    have other : c ≠ 'n' := by
      rintro rfl
      cases json <;> simp_all [Leads]
    dsimp only [option]
    rw [skipped]
    split
    next same => exact (other (List.cons.inj same).1).elim
    next => rw [List.nil_append] at read; rw [read]; rfl
  take := by
    cases json <;> first | exact (is rfl).elim | simp only [option, reads.take, Except.map]

theorem takeItems_eq {codec : Codec α} {items : List Json} {values : List α}
    (reads : List.Forall₂ codec.Reads items values) :
    takeItems codec.take items = .ok values := by
  induction reads with
  | nil => rfl
  | cons own _ ih => simp only [takeItems, own.take, ih]; rfl

theorem readsText_items {codec : Codec α} {depth : Nat} {items : List Json} {values : List α}
    (reads : List.Forall₂ codec.Reads items values) (within : nestingItems items ≤ depth) :
    List.Forall₂ (ReadsText (codec.read depth)) items values := by
  induction reads with
  | nil => exact .nil
  | cons own _ ih =>
      have both := Nat.max_le.mp within
      exact .cons (own.text both.1) (ih both.2)

theorem reads_list {codec : Codec α} {items : List Json} {values : List α}
    (reads : List.Forall₂ codec.Reads items values) :
    codec.list.Reads (.list items) values where
  text {depth} within blank text rest is spelled delimited := by
    have skipped := skipBlanks_spelled is spelled rest
    obtain ⟨inner, innerSpelled, rfl⟩ := spelled
    obtain ⟨depth, rfl⟩ := Nat.exists_eq_succ_of_ne_zero (Nat.ne_zero_of_lt within)
    have read := itemsUpTo_text (readsText_items reads (Nat.le_of_succ_le_succ within))
      innerSpelled rest
    dsimp only [list]
    rw [skipped]
    simp only [List.cons_append, inList, Json.items, read, closed_list]
  take := takeItems_eq reads

abbrev ReadsEntries (codec : Codec α) (entries : List (String × Json))
    (values : List (String × α)) : Prop :=
  List.Forall₂ (fun entry value => entry.1 = value.1 ∧ codec.Reads entry.2 value.2) entries values

theorem takeEntries_eq {codec : Codec α} {entries : List (String × Json)}
    {values : List (String × α)} (reads : codec.ReadsEntries entries values) :
    takeEntries codec.take entries = .ok values := by
  induction reads with
  | nil => rfl
  | cons own _ ih =>
      obtain ⟨same, own⟩ := own
      simp only [takeEntries, own.take, ih, same]
      rfl

theorem steps_table {codec : Codec α} {depth : Nat} {entries : List (String × Json)}
    {values : List (String × α)} (reads : codec.ReadsEntries entries values)
    (within : nestingEntries entries ≤ depth) (table : Table α) :
    Steps (fun table name text =>
        (valueAfter (codec.read depth) text).map fun (value, rest) => (table.put name value, rest))
      table entries (values.foldl (fun table entry => table.put entry.1 entry.2) table) := by
  induction reads generalizing table with
  | nil => exact .nil table
  | cons own _ ih =>
      obtain ⟨same, own⟩ := own
      have both := Nat.max_le.mp within
      refine .cons ?_ (ih both.2 _)
      intro colon text after isColon spelled delimited
      have read := valueAfter_colon (own.text both.1) isColon spelled delimited
      rw [read, same]
      rfl

theorem reads_table {codec : Codec α} {entries : List (String × Json)}
    {values : List (String × α)} (reads : codec.ReadsEntries entries values) :
    codec.table.Reads (.object entries) (Table.ofList values) where
  text {depth} within blank text rest is spelled delimited := by
    have skipped := skipBlanks_spelled is spelled rest
    obtain ⟨inner, innerSpelled, rfl⟩ := spelled
    obtain ⟨depth, rfl⟩ := Nat.exists_eq_succ_of_ne_zero (Nat.ne_zero_of_lt within)
    have read := entriesUpTo_text (steps_table reads (Nat.le_of_succ_le_succ within) .empty)
      innerSpelled rest
    dsimp only [table]
    rw [skipped]
    simp only [List.cons_append, inObject, Json.entries, read, closed_object,
      Table.ofList_eq_foldl]
  take := by
    simp only [table, takeEntries_eq reads, Except.map]

theorem reads_tag {variants : List (String × α)} {name : String}
    (known : Entries.find? variants name = some value) (depth : Nat) :
    ReadsText (tag variants depth) (.string name) value :=
  readsText_scalar (by trivial) (by simp [acceptString, variant?, known, bind, Except.bind]) depth

theorem reads_variant {variants : List (String × α)} {name : String}
    (known : Entries.find? variants name = some value) :
    Json.Reads (readVariant variants) (takeVariant variants) (.string name) value where
  text {depth} within blank text rest is spelled delimited := by
    have skipped := skipBlanks_spelled is spelled rest
    have read := reads_tag known depth blank_nil spelled delimited
    obtain ⟨body, _, rfl⟩ := spelled
    dsimp only [readVariant]
    rw [skipped]
    exact read
  take := by
    simp only [takeVariant, variant?, known]

theorem reads_enumeration {variants : List (String × α)} {name : String} {print : α → String}
    (known : Entries.find? variants name = some value) :
    (enumeration variants print).Reads (.string name) value :=
  reads_variant known

end Codec

theorem Codec.parse_spelled {codec : Codec α} (reads : codec.Reads json value)
    (shallow : nesting json ≤ depthLimit) {before text after : List Char} (blank : Blank before)
    (spelled : Spells json text) (trailing : Blank after) :
    codec.parse (String.ofList (before ++ (text ++ after))) = .ok value := by
  have delimited : Delimited after := by
    have ends := delimited_nil.after trailing
    rwa [List.append_nil] at ends
  have nothing : skipBlanks after = [] := by
    have skipped := skipBlanks_append trailing []
    rwa [List.append_nil] at skipped
  have read := reads.text shallow blank spelled delimited
  simp only [Codec.parse, String.toList_ofList, read, nothing]

theorem Codec.parse_print {codec : Codec α} (reads : codec.Reads (codec.write value) value)
    (plain : Plain depthLimit (codec.write value)) :
    codec.parse (codec.print value) = .ok value := by
  have parsed := parse_spelled reads plain.2 blank_nil (spells_print _ plain.1) blank_nil
  rwa [List.append_nil, List.nil_append] at parsed

end LivePreview.Json
