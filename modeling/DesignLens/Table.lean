/-!
# Tables

A table is a list of entries with a name each, in the order in which the names were first put in.
-/

namespace DesignLens

abbrev Table (α : Type) : Type := List (String × α)

namespace Table

variable {α : Type}

/-- Replaces the entry of a name where it stands, or adds one at the end. -/
def insert (name : String) (value : α) : Table α → Table α
  | [] => [(name, value)]
  | (k, v) :: rest =>
    if k = name then (k, value) :: rest else (k, v) :: insert name value rest

def find? (name : String) (t : Table α) : Option α :=
  (List.find? (fun entry => entry.1 == name) t).map Prod.snd

def contains (name : String) (t : Table α) : Bool := t.any fun entry => entry.1 == name

def erase (name : String) (t : Table α) : Table α := t.filter fun entry => entry.1 != name

def keys (t : Table α) : List String := t.map Prod.fst

def values (t : Table α) : List α := t.map Prod.snd

/-- All entries of a second table put into a first one. -/
def overlay (t new : Table α) : Table α := new.foldl (fun acc entry => insert entry.1 entry.2 acc) t

def ofList (entries : List (String × α)) : Table α := overlay [] entries

theorem find?_nil (name : String) : find? (α := α) name [] = none := rfl

theorem find?_insert_self (name : String) (value : α) (t : Table α) :
    find? name (insert name value t) = some value := by
  induction t with
  | nil => simp [insert, find?]
  | cons entry rest ih =>
    by_cases h : entry.1 = name
    · simp [insert, find?, h]
    · simpa [insert, find?, h] using ih

theorem find?_insert_of_ne {name other : String} (h : other ≠ name) (value : α) (t : Table α) :
    find? other (insert name value t) = find? other t := by
  induction t with
  | nil => simp [insert, find?, Ne.symm h]
  | cons entry rest ih =>
    by_cases hk : entry.1 = name
    · simp [insert, find?, hk, Ne.symm h]
    · by_cases ho : entry.1 = other
      · simp [insert, find?, ho, h]
      · simpa [insert, find?, hk, ho] using ih

end Table

end DesignLens
