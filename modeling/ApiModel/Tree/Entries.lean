/-!
# Ordered maps

A map whose order counts is a list of keys and values without repeated keys.  `Entries.insert` keeps
the place of a key that is already there, so that a key stands where it first came and has the value
that came last.
-/

namespace ApiModel.Entries

variable {α β : Type}

/-- The value of a key. -/
def find? (key : String) : List (String × α) → Option α
  | [] => none
  | (k, v) :: rest => if k = key then some v else find? key rest

/-- Whether a key has a value. -/
def has (entries : List (String × α)) (key : String) : Bool :=
  entries.any (·.1 == key)

/-- The keys in their order. -/
def keys (entries : List (String × α)) : List String :=
  entries.map (·.1)

/-- Gives a key a value: in its place if it has one, else at the end. -/
def insert (key : String) (v : α) : List (String × α) → List (String × α)
  | [] => [(key, v)]
  | (k, w) :: rest => if k = key then (k, v) :: rest else (k, w) :: insert key v rest

/-- The map of keys and values that may repeat a key. -/
def ofPairs (pairs : List (String × α)) : List (String × α) :=
  pairs.foldl (fun entries (k, v) => insert k v entries) []

end ApiModel.Entries
