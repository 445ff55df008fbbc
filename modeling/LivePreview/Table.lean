namespace LivePreview

/-! Tables from names to values in the order of first insertion: putting a name again keeps its
place and replaces its value. -/

namespace Entries

variable {β : Type u}

def names (entries : List (String × β)) : List String :=
  entries.map Prod.fst

def put (entries : List (String × β)) (name : String) (value : β) : List (String × β) :=
  match entries with
  | [] => [(name, value)]
  | entry :: rest =>
    if entry.1 = name then (name, value) :: rest else entry :: put rest name value

def find? (entries : List (String × β)) (name : String) : Option β :=
  match entries with
  | [] => none
  | entry :: rest => if entry.1 = name then some entry.2 else find? rest name

@[simp] theorem put_nil (name : String) (value : β) : put [] name value = [(name, value)] := rfl

@[simp] theorem find?_nil (name : String) : find? ([] : List (String × β)) name = none := rfl

@[simp] theorem names_nil : names ([] : List (String × β)) = [] := rfl

@[simp] theorem names_cons (entry : String × β) (rest : List (String × β)) :
    names (entry :: rest) = entry.1 :: names rest := rfl

theorem names_put (entries : List (String × β)) (name : String) (value : β) :
    names (put entries name value) =
      if name ∈ names entries then names entries else names entries ++ [name] := by
  induction entries with
  | nil => simp
  | cons entry rest ih =>
      by_cases h : entry.1 = name
      · subst h
        simp [put]
      · have hne : name ≠ entry.1 := fun he => h he.symm
        by_cases hmem : name ∈ names rest <;> simp [put, h, hne, ih, hmem]

theorem nodup_names_put {entries : List (String × β)} (h : (names entries).Nodup)
    (name : String) (value : β) : (names (put entries name value)).Nodup := by
  rw [names_put]
  split
  · exact h
  · next hmem =>
      rw [List.nodup_append]
      exact ⟨h, by simp, fun a ha b hb => by
        rw [List.mem_singleton] at hb
        subst hb
        exact fun he => hmem (he ▸ ha)⟩

theorem find?_put (entries : List (String × β)) (name other : String) (value : β) :
    find? (put entries name value) other =
      if name = other then some value else find? entries other := by
  induction entries with
  | nil => simp [put, find?]
  | cons entry rest ih =>
      by_cases h : entry.1 = name
      · subst h
        by_cases ho : entry.1 = other <;> simp [put, find?, ho]
      · by_cases ho : entry.1 = other
        · have hne : name ≠ other := fun he => h (he ▸ ho)
          simp [put, find?, ho, hne, Ne.symm hne]
        · simp [put, find?, h, ho, ih]

/-- Each name once, at its first place, with its last value. -/
def settle (entries : List (String × β)) : List (String × β) :=
  entries.foldl (fun table entry => put table entry.1 entry.2) []

theorem nodup_names_foldl_put (entries : List (String × β)) {table : List (String × β)}
    (h : (names table).Nodup) :
    (names (entries.foldl (fun table entry => put table entry.1 entry.2) table)).Nodup := by
  induction entries generalizing table with
  | nil => exact h
  | cons entry rest ih => exact ih (nodup_names_put h entry.1 entry.2)

theorem nodup_names_settle (entries : List (String × β)) : (names (settle entries)).Nodup :=
  nodup_names_foldl_put entries (by simp)

end Entries

structure Table (β : Type u) where
  entries : List (String × β)
  distinct : (Entries.names entries).Nodup
deriving DecidableEq

namespace Table

variable {β : Type u}

def empty : Table β := ⟨[], by simp⟩

instance : Inhabited (Table β) := ⟨empty⟩

def names (table : Table β) : List String :=
  Entries.names table.entries

def values (table : Table β) : List β :=
  table.entries.map Prod.snd

def size (table : Table β) : Nat :=
  table.entries.length

def get? (table : Table β) (name : String) : Option β :=
  Entries.find? table.entries name

def contains (table : Table β) (name : String) : Bool :=
  (table.get? name).isSome

def put (table : Table β) (name : String) (value : β) : Table β :=
  ⟨Entries.put table.entries name value, Entries.nodup_names_put table.distinct name value⟩

/-- Leaves a name that is already there alone. -/
def putIfAbsent (table : Table β) (name : String) (value : β) : Table β :=
  if table.contains name then table else table.put name value

def ofList (entries : List (String × β)) : Table β :=
  ⟨Entries.settle entries, Entries.nodup_names_settle entries⟩

@[simp] theorem get?_empty (name : String) : (empty : Table β).get? name = none := rfl

@[simp] theorem names_empty : (empty : Table β).names = [] := rfl

theorem get?_put (table : Table β) (name other : String) (value : β) :
    (table.put name value).get? other = if name = other then some value else table.get? other :=
  Entries.find?_put table.entries name other value

theorem names_put (table : Table β) (name : String) (value : β) :
    (table.put name value).names =
      if name ∈ table.names then table.names else table.names ++ [name] :=
  Entries.names_put table.entries name value

end Table

end LivePreview
