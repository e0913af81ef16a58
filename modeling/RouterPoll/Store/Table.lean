/-!
# Keyed tables

Tables as lists of rows in the order of their first insertion, with at most one row for each key. `Table` holds values under keys; `upsert` is the same for rows that hold their key themselves.
-/

namespace RouterPoll

/-- Puts a row in, or merges it into the row that has its key already. -/
def upsert [BEq κ] (key : ρ → κ) (merge : ρ → ρ → ρ) (row : ρ) : List ρ → List ρ
  | [] => [row]
  | old :: rest =>
    if key old == key row then merge old row :: rest else old :: upsert key merge row rest

/-- Values under keys. -/
structure Table (κ α : Type) where
  entries : List (κ × α)
  deriving DecidableEq

namespace Table

variable {κ α : Type} [BEq κ]

def empty : Table κ α := ⟨[]⟩

instance : Inhabited (Table κ α) := ⟨empty⟩

def get? (table : Table κ α) (key : κ) : Option α := table.entries.lookup key

/-- The table with a value under a key, in place of an earlier one. -/
def put (table : Table κ α) (key : κ) (value : α) : Table κ α :=
  ⟨upsert (·.1) (fun _ entry => entry) (key, value) table.entries⟩

def size (table : Table κ α) : Nat := table.entries.length

def values (table : Table κ α) : List α := table.entries.map (·.2)

/-- The table of a list of entries, of which later ones take the place of earlier ones. -/
def ofList (entries : List (κ × α)) : Table κ α :=
  entries.foldl (fun table entry => table.put entry.1 entry.2) empty

end Table

end RouterPoll
