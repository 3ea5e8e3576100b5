/-!
# Keyed lists

A finite map from keys to values, as a list with at most one entry for each key
that was put in by `insert`.
-/

namespace OnDemand

/-- Entries of keys and values. -/
abbrev KeyedList (κ υ : Type) := List (κ × υ)

namespace KeyedList

variable {κ υ : Type} [DecidableEq κ]

def get? (entries : KeyedList κ υ) (key : κ) : Option υ :=
  match entries with
  | [] => none
  | (other, value) :: rest => if other = key then some value else get? rest key

def erase (entries : KeyedList κ υ) (key : κ) : KeyedList κ υ :=
  entries.filter fun entry => entry.1 ≠ key

/-- The list with a value for a key, in place of any other. -/
def insert (entries : KeyedList κ υ) (key : κ) (value : υ) : KeyedList κ υ :=
  erase entries key ++ [(key, value)]

/-- The list with the value of a key changed, if it has one. -/
def adjust (entries : KeyedList κ υ) (key : κ) (change : υ → υ) : KeyedList κ υ :=
  entries.map fun entry => if entry.1 = key then (entry.1, change entry.2) else entry

@[simp] theorem get?_nil (key : κ) : get? ([] : KeyedList κ υ) key = none := rfl

theorem get?_erase (entries : KeyedList κ υ) (key other : κ) :
    (entries.erase key).get? other = if other = key then none else entries.get? other := by
  induction entries with
  | nil => simp [erase]
  | cons entry rest ih => grind [erase, get?]

theorem get?_append (left right : KeyedList κ υ) (key : κ) :
    get? (left ++ right) key = (left.get? key).or (right.get? key) := by
  induction left with
  | nil => simp
  | cons entry rest ih => grind [get?]

theorem get?_insert (entries : KeyedList κ υ) (key other : κ) (value : υ) :
    (entries.insert key value).get? other =
      if other = key then some value else entries.get? other := by
  rw [insert, get?_append, get?_erase]
  grind [get?]

theorem get?_adjust (entries : KeyedList κ υ) (key other : κ) (change : υ → υ) :
    (entries.adjust key change).get? other =
      if other = key then (entries.get? other).map change else entries.get? other := by
  induction entries with
  | nil => simp [adjust]
  | cons entry rest ih => grind [adjust, get?]

end KeyedList

end OnDemand
