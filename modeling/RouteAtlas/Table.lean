/-!
# Tables in insertion order

A table maps keys to values and remembers the order in which its keys were first entered. Entering
a key again replaces its value and keeps its place. Keys are unique in every table built by these
operations.
-/

set_option autoImplicit false

namespace RouteAtlas

universe u v

/-- A list of entries, at most one for a key. -/
abbrev Table (α : Type u) (β : Type v) := List (α × β)

namespace Table

variable {α : Type u} {β : Type v} [DecidableEq α]

/-- The value entered under a key. -/
def get? (table : Table α β) (key : α) : Option β :=
  match table with
  | [] => none
  | (k, v) :: rest => if k = key then some v else get? rest key

/-- The key has an entry. -/
def has (table : Table α β) (key : α) : Bool :=
  (table.get? key).isSome

/-- Enters a value under a key, in place when the key is present and at the end otherwise. -/
def put (table : Table α β) (key : α) (value : β) : Table α β :=
  match table with
  | [] => [(key, value)]
  | (k, v) :: rest => if k = key then (k, value) :: rest else (k, v) :: put rest key value

/-- Drops the entry of a key. -/
def drop (table : Table α β) (key : α) : Table α β :=
  table.filter fun entry => entry.1 ≠ key

/-- Enters every entry of a list in order. -/
def putAll (table : Table α β) (entries : List (α × β)) : Table α β :=
  entries.foldl (fun table entry => table.put entry.1 entry.2) table

/-- The table of a list of entries entered in order. -/
def ofList (entries : List (α × β)) : Table α β :=
  putAll [] entries

/-- The keys in order of first entry. -/
def keys (table : Table α β) : List α := table.map Prod.fst

/-- The values in the order of their keys. -/
def values (table : Table α β) : List β := table.map Prod.snd

/-- The value just entered is the one found. -/
@[simp] theorem get?_put_self (table : Table α β) (key : α) (value : β) :
    (table.put key value).get? key = some value := by
  induction table with
  | nil => simp [put, get?]
  | cons entry rest ih =>
      simp only [put]
      split
      · rename_i h
        simp [get?, h]
      · rename_i h
        simp [get?, h, ih]

/-- Entering a value under one key leaves every other key alone. -/
theorem get?_put_of_ne (table : Table α β) {key other : α} (value : β) (h : other ≠ key) :
    (table.put key value).get? other = table.get? other := by
  induction table with
  | nil => simp [put, get?, Ne.symm h]
  | cons entry rest ih =>
      simp only [put]
      split
      · rename_i hk
        simp [get?, hk, Ne.symm h]
      · simp only [get?]
        split
        · rfl
        · exact ih

/-- Entering a key adds it at the end unless it is present. -/
theorem keys_put (table : Table α β) (key : α) (value : β) :
    (table.put key value).keys = if key ∈ table.keys then table.keys else table.keys ++ [key] := by
  induction table with
  | nil => simp [put, keys]
  | cons entry rest ih =>
      simp only [put]
      split
      · rename_i hk
        simp [keys, hk]
      · rename_i hk
        have hne : ¬ key = entry.1 := fun h => hk h.symm
        simp only [keys, List.map_cons, List.mem_cons, hne, false_or] at ih ⊢
        rw [ih]
        by_cases hmem : key ∈ List.map Prod.fst rest
        · simp [hmem]
        · simp [hmem]

end Table

end RouteAtlas
