import LivePreview.Table

namespace LivePreview

/-! The table of a list of entries: each name at its first place, with its last value. -/

namespace Entries

variable {β : Type u}

theorem eraseDups_of_nodup {names : List String} (distinct : names.Nodup) :
    names.eraseDups = names := by
  induction names with
  | nil => rfl
  | cons name rest ih =>
      obtain ⟨other, distinct⟩ := List.nodup_cons.mp distinct
      have kept : rest.filter (fun later => !later == name) = rest := by
        rw [List.filter_eq_self]
        intro later member
        simpa using fun same : later = name => other (same ▸ member)
      rw [List.eraseDups_cons, kept, ih distinct]

theorem find?_append (first second : List (String × β)) (name : String) :
    find? (first ++ second) name = (find? first name).or (find? second name) := by
  induction first with
  | nil => rfl
  | cons entry rest ih =>
      rw [List.cons_append, find?, find?, ih]
      split <;> rfl

theorem names_foldl_put (entries table : List (String × β))
    (distinct : (names table).Nodup) :
    names (entries.foldl (fun table entry => put table entry.1 entry.2) table) =
      (names table ++ names entries).eraseDups := by
  induction entries generalizing table with
  | nil => rw [names_nil, List.append_nil, eraseDups_of_nodup distinct]; rfl
  | cons entry rest ih =>
      rw [List.foldl_cons, ih _ (nodup_names_put distinct entry.1 entry.2), names_put, names_cons]
      split
      next there =>
          rw [List.eraseDups_append, List.eraseDups_append]
          simp [List.removeAll, there]
      next => rw [List.append_assoc, List.singleton_append]

theorem find?_foldl_put (entries table : List (String × β)) (name : String) :
    find? (entries.foldl (fun table entry => put table entry.1 entry.2) table) name =
      (find? entries.reverse name).or (find? table name) := by
  induction entries generalizing table with
  | nil => rfl
  | cons entry rest ih =>
      rw [List.foldl_cons, ih, find?_put, List.reverse_cons, find?_append, Option.or_assoc]
      congr 1
      simp only [find?]
      split <;> rfl

theorem names_settle (entries : List (String × β)) :
    names (settle entries) = (names entries).eraseDups := by
  have settled := names_foldl_put entries [] List.nodup_nil
  rwa [names_nil, List.nil_append] at settled

theorem nodup_eraseDups (names : List String) : names.eraseDups.Nodup := by
  have settled := nodup_names_settle (names.map fun name => (name, ()))
  rw [names_settle, Entries.names, List.map_map] at settled
  simpa [Function.comp_def] using settled

theorem eraseDups_append_left (first second : List String) :
    (first.eraseDups ++ second).eraseDups = (first ++ second).eraseDups := by
  have same : second.removeAll first.eraseDups = second.removeAll first :=
    List.filter_congr fun name _ => by simp
  rw [List.eraseDups_append, List.eraseDups_append, same,
    eraseDups_of_nodup (nodup_eraseDups first)]

theorem eraseDups_filter (keep : String → Bool) (names : List String) :
    (names.filter keep).eraseDups = names.eraseDups.filter keep := by
  induction length : names.length using Nat.strongRecOn generalizing names with
  | _ _ ih =>
      cases names with
      | nil => rfl
      | cons name rest =>
          subst length
          have shorter :=
            Nat.lt_succ_of_le (List.length_filter_le (fun later => !later == name) rest)
          have later := ih _ shorter _ rfl
          rw [List.filter_filter] at later
          rw [List.eraseDups_cons]
          cases kept : keep name with
          | true =>
              rw [List.filter_cons_of_pos kept, List.filter_cons_of_pos kept, List.eraseDups_cons,
                List.filter_filter, ← later]
              simp only [Bool.and_comm]
          | false =>
              have dropped : ¬ keep name = true := by simp [kept]
              rw [List.filter_cons_of_neg dropped, List.filter_cons_of_neg dropped, ← later]
              congr 1
              refine List.filter_congr fun other _ => ?_
              cases same : other == name with
              | false => simp
              | true => simp [beq_iff_eq.mp same, kept]

theorem eraseDups_append_right (first second : List String) :
    (first ++ second.eraseDups).eraseDups = (first ++ second).eraseDups := by
  have same : second.eraseDups.removeAll first = (second.removeAll first).eraseDups :=
    (eraseDups_filter _ second).symm
  rw [List.eraseDups_append, List.eraseDups_append, same, eraseDups_of_nodup (nodup_eraseDups _)]

theorem find?_settle (entries : List (String × β)) (name : String) :
    find? (settle entries) name = find? entries.reverse name := by
  rw [settle, find?_foldl_put, find?_nil, Option.or_none]

theorem put_new {entries : List (String × β)} {name : String} (new : name ∉ names entries)
    (value : β) : put entries name value = entries ++ [(name, value)] := by
  induction entries with
  | nil => rfl
  | cons entry rest ih =>
      rw [names_cons, List.mem_cons, not_or] at new
      rw [put, if_neg (Ne.symm new.1), ih new.2, List.cons_append]

theorem foldl_put_of_nodup (entries table : List (String × β))
    (distinct : (names (table ++ entries)).Nodup) :
    entries.foldl (fun table entry => put table entry.1 entry.2) table = table ++ entries := by
  induction entries generalizing table with
  | nil => rw [List.append_nil]; rfl
  | cons entry rest ih =>
      have new : entry.1 ∉ names table := by
        rw [names, List.map_append, List.nodup_append] at distinct
        exact fun member => distinct.2.2 entry.1 member entry.1 (List.mem_cons_self ..) rfl
      rw [List.append_cons] at distinct
      rw [List.foldl_cons, put_new new, ih _ distinct, ← List.append_cons]

theorem settle_of_nodup {entries : List (String × β)} (distinct : (names entries).Nodup) :
    settle entries = entries :=
  foldl_put_of_nodup entries [] distinct

theorem find?_of_mem {entries : List (String × β)} (distinct : (names entries).Nodup)
    {entry : String × β} (member : entry ∈ entries) :
    find? entries entry.1 = some entry.2 := by
  induction entries with
  | nil => cases member
  | cons first rest ih =>
      obtain ⟨other, distinct⟩ := List.nodup_cons.mp distinct
      rcases List.mem_cons.mp member with rfl | member
      · rw [find?, if_pos rfl]
      · have apart : first.1 ≠ entry.1 :=
          fun same => other (same ▸ List.mem_map_of_mem member)
        rw [find?, if_neg apart, ih distinct member]

theorem find?_eq_some {entries : List (String × β)} {name : String} {value : β}
    (found : find? entries name = some value) :
    ∃ before after, entries = before ++ (name, value) :: after ∧ name ∉ names before := by
  induction entries with
  | nil => cases found
  | cons entry rest ih =>
      rw [find?] at found
      split at found
      next same =>
          cases found
          cases same
          exact ⟨[], rest, rfl, List.not_mem_nil⟩
      next other =>
          obtain ⟨before, after, rfl, new⟩ := ih found
          exact ⟨entry :: before, after, rfl,
            List.not_mem_cons_of_ne_of_not_mem (Ne.symm other) new⟩

theorem put_of_find? {entries : List (String × β)} {name : String} {value : β}
    (found : find? entries name = some value) : put entries name value = entries := by
  induction entries with
  | nil => cases found
  | cons entry rest ih =>
      rw [find?] at found
      split at found
      next same =>
          cases found
          cases same
          rw [put, if_pos rfl]
      next other => rw [put, if_neg other, ih found]

theorem isSome_find?_iff {entries : List (String × β)} {name : String} :
    (find? entries name).isSome = true ↔ name ∈ names entries := by
  induction entries with
  | nil => simp
  | cons entry rest ih =>
      rw [find?, names_cons, List.mem_cons, ← ih]
      split
      next same => simp [same]
      next other => simp [Ne.symm other]

theorem exists_last_of_mem_settle {entries : List (String × β)} {entry : String × β}
    (member : entry ∈ settle entries) :
    ∃ earlier later, entries = earlier ++ entry :: later ∧ entry.1 ∉ names later := by
  have found := find?_of_mem (nodup_names_settle entries) member
  rw [find?_settle] at found
  obtain ⟨before, after, reversed, new⟩ := find?_eq_some found
  refine ⟨after.reverse, before.reverse, ?_, ?_⟩
  · have same := congrArg List.reverse reversed
    simpa using same
  · simpa [names] using new

theorem settle_map (make : String → β) (names : List String) :
    settle (names.map fun name => (name, make name)) =
      names.eraseDups.map fun name => (name, make name) := by
  have made : ∀ entry ∈ settle (names.map fun name => (name, make name)),
      (entry.1, make entry.1) = entry := by
    intro entry member
    obtain ⟨earlier, later, split, _⟩ := exists_last_of_mem_settle member
    have among : entry ∈ names.map fun name => (name, make name) := by simp [split]
    obtain ⟨name, _, rfl⟩ := List.mem_map.mp among
    rfl
  have listed := names_settle (names.map fun name => (name, make name))
  simp only [Entries.names, List.map_map, Function.comp_def, List.map_id'] at listed
  rw [← listed, List.map_map]
  exact ((List.map_congr_left made).trans (List.map_id' _)).symm

end Entries

namespace Table

variable {β : Type u}

theorem ofList_eq_foldl (entries : List (String × β)) :
    ofList entries = entries.foldl (fun table entry => table.put entry.1 entry.2) empty := by
  have carried (table : Table β) :
      (entries.foldl (fun table entry => table.put entry.1 entry.2) table).entries =
        entries.foldl (fun table entry => Entries.put table entry.1 entry.2) table.entries := by
    induction entries generalizing table with
    | nil => rfl
    | cons entry rest ih => exact ih (table.put entry.1 entry.2)
  have same := (carried empty).symm
  cases folded : entries.foldl (fun table entry => table.put entry.1 entry.2) (empty : Table β)
  rw [folded] at same
  cases same
  rfl

theorem contains_iff {table : Table β} {name : String} :
    table.contains name = true ↔ name ∈ table.names :=
  Entries.isSome_find?_iff

theorem get?_ofList (entries : List (String × β)) (name : String) :
    (ofList entries).get? name = Entries.find? entries.reverse name :=
  Entries.find?_settle entries name

theorem get?_ofList_of_last {entries earlier later : List (String × β)} {name : String} {value : β}
    (split : entries = earlier ++ (name, value) :: later) (last : name ∉ Entries.names later) :
    (ofList entries).get? name = some value := by
  have missing : Entries.find? later.reverse name = none := by
    rw [← Option.not_isSome_iff_eq_none, Entries.isSome_find?_iff]
    simpa [Entries.names] using last
  rw [get?_ofList, split, List.reverse_append, List.reverse_cons, List.append_assoc,
    Entries.find?_append, missing, Option.none_or, List.singleton_append, Entries.find?, if_pos rfl]

theorem names_ofList (entries : List (String × β)) :
    (ofList entries).names = (Entries.names entries).eraseDups :=
  Entries.names_settle entries

theorem get?_putIfAbsent (table : Table β) (name other : String) (value : β) :
    (table.putIfAbsent name value).get? other =
      (table.get? other).or (if name = other then some value else none) := by
  unfold putIfAbsent
  split
  next there =>
      split
      next same =>
          obtain ⟨value, found⟩ := Option.isSome_iff_exists.mp there
          rw [← same, found, Option.some_or]
      next => rw [Option.or_none]
  next missing =>
      rw [get?_put]
      split
      next same =>
          have missing : table.get? name = none := by simpa [contains] using missing
          rw [← same, missing, Option.none_or]
      next => rw [Option.or_none]

theorem get?_foldl_putIfAbsent (entries : List (String × β)) (table : Table β) (name : String) :
    (entries.foldl (fun table entry => table.putIfAbsent entry.1 entry.2) table).get? name =
      (table.get? name).or (Entries.find? entries name) := by
  induction entries generalizing table with
  | nil => rw [Entries.find?_nil, Option.or_none]; rfl
  | cons entry rest ih =>
      rw [List.foldl_cons, ih, get?_putIfAbsent, Option.or_assoc, Entries.find?]
      split <;> rfl

theorem names_put_settled (table : Table β) (name : String) (value : β) :
    (table.put name value).names = (table.names ++ [name]).eraseDups :=
  Entries.names_foldl_put [(name, value)] table.entries table.distinct

theorem names_putIfAbsent (table : Table β) (name : String) (value : β) :
    (table.putIfAbsent name value).names = (table.names ++ [name]).eraseDups := by
  rw [← names_put_settled table name value, putIfAbsent]
  split
  next there => rw [names_put, if_pos (contains_iff.mp there)]
  next => rfl

theorem names_foldl_putIfAbsent (entries : List (String × β)) (table : Table β) :
    (entries.foldl (fun table entry => table.putIfAbsent entry.1 entry.2) table).names =
      (table.names ++ Entries.names entries).eraseDups := by
  induction entries generalizing table with
  | nil =>
      rw [Entries.names_nil, List.append_nil]
      exact (Entries.eraseDups_of_nodup table.distinct).symm
  | cons entry rest ih =>
      rw [List.foldl_cons, ih, names_putIfAbsent, Entries.eraseDups_append_left, Entries.names_cons,
        List.append_assoc, List.singleton_append]

theorem putIfAbsent_of_contains {table : Table β} {name : String}
    (there : table.contains name = true) (value : β) : table.putIfAbsent name value = table :=
  if_pos there

theorem put_of_get? {table : Table β} {name : String} {value : β}
    (found : table.get? name = some value) : table.put name value = table := by
  cases table with
  | mk entries distinct =>
      have same : Entries.put entries name value = entries := Entries.put_of_find? found
      simp only [put, same]

theorem ofList_entries (table : Table β) : ofList table.entries = table := by
  cases table with
  | mk entries distinct =>
      have same := Entries.settle_of_nodup distinct
      simp only [ofList, same]

end Table

end LivePreview
