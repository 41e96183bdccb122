/-!
# Tables keyed by text

A table is a finite map from text keys to values, kept as its entries in increasing key order
with each key once. Inserting replaces the value of a key that is there; walking a table visits
its keys in order.
-/

namespace RaceArchive

/-- A finite map from text keys, as its entries in increasing key order. -/
abbrev Table (α : Type) := List (String × α)

namespace Table

variable {α : Type}

def find? (t : Table α) (k : String) : Option α := (List.find? (·.1 == k) t).map (·.2)

def contains (t : Table α) (k : String) : Bool := (find? t k).isSome

/-- Sets the value of a key, keeping the keys in order. -/
def insert (t : Table α) (k : String) (v : α) : Table α :=
  match t with
  | [] => [(k, v)]
  | (k', v') :: rest =>
    if k = k' then (k, v) :: rest
    else if k < k' then (k, v) :: (k', v') :: rest
    else (k', v') :: insert rest k v

def alter (t : Table α) (k : String) (f : Option α → α) : Table α := insert t k (f (find? t k))

def erase (t : Table α) (k : String) : Table α := List.filter (fun e => e.1 != k) t

def keys (t : Table α) : List String := List.map (·.1) t

/-- A table of some entries, a later entry of a key replacing an earlier one. -/
def ofList (entries : List (String × α)) : Table α :=
  entries.foldl (fun t (k, v) => insert t k v) []

end Table

end RaceArchive
