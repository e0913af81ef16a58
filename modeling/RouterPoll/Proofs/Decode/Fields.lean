import RouterPoll.Decode.Fields

/-!
# What is read of what was written

A count and a list are read from the nodes of the values they are written as. The fields of a structure are read from the entries of an object if each of them is, and a structure is read from an object that has its fields in the order of their declaration, each of them once.
-/

namespace RouterPoll

namespace Decode

open Json (Node)

variable {α β : Type} {source : Source}

theorem readNat_ofValue (expected : String) (source : Source) {limit value : Nat} (hvalue : value < limit) :
    readNat expected limit source (Node.ofValue (Json.nat value)) = .ok value := by
  have hfits : (decide ((0 : Int) ≤ value) && decide ((value : Int) < limit)) = true := by
    simp [hvalue]
  show (readWhole expected 0 limit source (.number (.whole value))).map Int.toNat = _
  rw [readWhole, if_pos hfits]
  rfl

theorem readItems_ofItems {read : Reader α} {write : α → Json} {items : List α}
    (hread : ∀ item ∈ items, read source (Node.ofValue (write item)) = .ok item) :
    readItems read source (Node.ofItems (items.map write)) = .ok items := by
  induction items with
  | nil => rfl
  | cons item items ih =>
      rw [List.map_cons, Node.ofItems, readItems, hread item List.mem_cons_self,
        ih fun other hmem => hread other (List.mem_cons_of_mem _ hmem)]
      rfl

namespace Fields

variable {entries : Entries}

theorem map_fromEntries {fields : Fields α} {value : α} (apply : α → β)
    (hread : fields.fromEntries source entries = .ok value) :
    (apply <$> fields).fromEntries source entries = .ok (apply value) := by
  show Earliest.both (.ok apply) (fields.fromEntries source entries) = _
  rw [hread]
  rfl

theorem seq_fromEntries {left : Fields (α → β)} {right : Fields α} {apply : α → β} {value : α}
    (hleft : left.fromEntries source entries = .ok apply) (hright : right.fromEntries source entries = .ok value) :
    (left <*> right).fromEntries source entries = .ok (apply value) := by
  show Earliest.both (left.fromEntries source entries) (right.fromEntries source entries) = _
  rw [hleft, hright]
  rfl

theorem field_fromEntries {name : String} {read : Reader α} {absent fallback : Option α} {place : Nat}
    {node : Node} {value : α} (hfind : find? name 0 entries = some (place, node))
    (hread : read source node = .ok value) :
    (field name read absent fallback).fromEntries source entries = .ok value := by
  simp only [field, hfind]
  rw [hread]
  rfl

/-- There is no stray fault among fields that all belong to the structure, each given once. -/
theorem stray_eq_ok {names seen : List String} {fields : List (String × Node)} (place : Nat)
    (hknown : ∀ field ∈ fields, field.1 ∈ names) (honce : (seen.reverse ++ fields.map (·.1)).Nodup) :
    stray names place seen (fields.map fun field => (.ok field.1, field.2)) = .ok () := by
  induction fields generalizing place seen with
  | nil => rfl
  | cons field fields ih =>
      obtain ⟨key, node⟩ := field
      have hkey : names.contains key = true := List.contains_iff_mem.2 (hknown (key, node) List.mem_cons_self)
      have hnew : seen.contains key = false := by
        rw [Bool.eq_false_iff]
        intro hseen
        refine (List.nodup_append.1 honce).2.2 key ?_ key List.mem_cons_self rfl
        exact List.mem_reverse.2 (List.contains_iff_mem.1 hseen)
      rw [List.map_cons, stray, hkey, hnew]
      exact ih (place + 1) (fun other hmem => hknown other (List.mem_cons_of_mem _ hmem)) (by simpa using honce)

def entriesOf (fields : List (String × Node)) : Entries := fields.map fun field => (.ok field.1, field.2)

/-- A structure is read from an object that has its fields in the order of their declaration, each of them once. -/
theorem reader_object {name : String} {fields : Fields α} {given : List (String × Node)} {value : α}
    (hnames : given.map (·.1) = fields.names) (honce : fields.names.Nodup)
    (hread : fields.fromEntries source (entriesOf given) = .ok value) :
    reader name fields source (.object (entriesOf given)) = .ok value := by
  have hstray : stray fields.names 0 [] (entriesOf given) = .ok () :=
    stray_eq_ok 0 (fun field hmem => hnames ▸ List.mem_map_of_mem hmem) (hnames.symm ▸ honce)
  show (Earliest.both ((stray fields.names 0 [] (entriesOf given)).map fun _ value => value)
    (fields.fromEntries source (entriesOf given))).mapError (·.2) = _
  rw [hstray, hread]
  rfl

end Fields

end Decode

end RouterPoll
