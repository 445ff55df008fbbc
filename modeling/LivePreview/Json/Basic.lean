import LivePreview.Number.Binary64
import LivePreview.Table

namespace LivePreview

/-! JSON values.  An object is its list of entries as written; `Json.settled` is the value in which
each name of an object stands once. -/

namespace Json

/-- A number as a text can hold it: an unsigned word, a negative integer of 64 bits, or a double. -/
inductive Number
  | natural (value : UInt64)
  /-- The integer `-(below + 1)`. -/
  | negative (below : Fin (UInt64.size / 2))
  | double (value : Binary64)
deriving DecidableEq, Repr

end Json

inductive Json
  | null
  | bool (value : Bool)
  | number (value : Json.Number)
  | string (value : String)
  | list (items : List Json)
  | object (entries : List (String × Json))
deriving Repr

namespace Json

instance : Inhabited Json := ⟨.null⟩

mutual
def beq : Json → Json → Bool
  | .null, .null => true
  | .bool a, .bool b => a == b
  | .number a, .number b => a == b
  | .string a, .string b => a == b
  | .list a, .list b => beqItems a b
  | .object a, .object b => beqEntries a b
  | _, _ => false

def beqItems : List Json → List Json → Bool
  | [], [] => true
  | a :: as, b :: bs => beq a b && beqItems as bs
  | _, _ => false

def beqEntries : List (String × Json) → List (String × Json) → Bool
  | [], [] => true
  | (m, a) :: as, (n, b) :: bs => m == n && beq a b && beqEntries as bs
  | _, _ => false
end

mutual
theorem eq_of_beq : ∀ {a b : Json}, beq a b = true → a = b
  | .null, .null, _ => rfl
  | .bool a, .bool b, h => by simp_all [beq]
  | .number a, .number b, h => by simp_all [beq]
  | .string a, .string b, h => by simp_all [beq]
  | .list a, .list b, h => by rw [eq_of_beqItems (a := a) (b := b) (by simpa [beq] using h)]
  | .object a, .object b, h => by rw [eq_of_beqEntries (a := a) (b := b) (by simpa [beq] using h)]

theorem eq_of_beqItems : ∀ {a b : List Json}, beqItems a b = true → a = b
  | [], [], _ => rfl
  | a :: as, b :: bs, h => by
      rw [beqItems, Bool.and_eq_true] at h
      rw [eq_of_beq h.1, eq_of_beqItems h.2]

theorem eq_of_beqEntries : ∀ {a b : List (String × Json)}, beqEntries a b = true → a = b
  | [], [], _ => rfl
  | (m, a) :: as, (n, b) :: bs, h => by
      simp only [beqEntries, Bool.and_eq_true, beq_iff_eq] at h
      rw [h.1.1, eq_of_beq h.1.2, eq_of_beqEntries h.2]
end

mutual
theorem beq_refl : ∀ (a : Json), beq a a = true
  | .null | .bool _ | .number _ | .string _ => by simp [beq]
  | .list a => by simpa [beq] using beqItems_refl a
  | .object a => by simpa [beq] using beqEntries_refl a

theorem beqItems_refl : ∀ (a : List Json), beqItems a a = true
  | [] => rfl
  | a :: as => by simp [beqItems, beq_refl a, beqItems_refl as]

theorem beqEntries_refl : ∀ (a : List (String × Json)), beqEntries a a = true
  | [] => rfl
  | (m, a) :: as => by simp [beqEntries, beq_refl a, beqEntries_refl as]
end

instance : DecidableEq Json := fun a b =>
  if h : beq a b = true then isTrue (eq_of_beq h)
  else isFalse fun he => h (he ▸ beq_refl a)

mutual
/-- The value in which every object, at any depth, holds each name once. -/
def settled : Json → Json
  | .list items => .list (settledItems items)
  | .object entries => .object (Entries.settle (settledEntries entries))
  | value => value

def settledItems : List Json → List Json
  | [] => []
  | item :: rest => settled item :: settledItems rest

def settledEntries : List (String × Json) → List (String × Json)
  | [] => []
  | (name, value) :: rest => (name, settled value) :: settledEntries rest
end

def ofNat (value : Nat) : Json :=
  .number (.natural (UInt64.ofNat value))

def ofTable (table : Table Json) : Json :=
  .object table.entries

def ofOption (write : α → Json) : Option α → Json
  | none => .null
  | some value => write value

@[simp] theorem ofOption_none (write : α → Json) : ofOption write none = .null := rfl

@[simp] theorem ofOption_some (write : α → Json) (value : α) :
    ofOption write (some value) = write value := rfl

end Json

end LivePreview
