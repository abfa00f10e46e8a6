/-!
# Tables

Values by name. A table built with `Table.put` has each name once and its names in increasing order,
which is the order of their UTF-8 bytes, so equal tables hold the same values.
-/

namespace Redfish

abbrev Table (α : Type) := List (String × α)

namespace Table

def get? (t : Table α) (name : String) : Option α := t.lookup name

/-- Puts a value under a name, in its place among the sorted names. -/
def put (name : String) (value : α) : Table α → Table α
  | [] => [(name, value)]
  | (n, v) :: rest =>
    if name = n then (name, value) :: rest
    else if name < n then (name, value) :: (n, v) :: rest
    else (n, v) :: put name value rest

/-- The table of these values; of values under one name the last counts. -/
def ofList (entries : List (String × α)) : Table α :=
  entries.foldl (fun t e => t.put e.1 e.2) []

def names (t : Table α) : List String := t.map (·.1)

end Table

end Redfish
