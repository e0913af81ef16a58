import RouterPoll.Proofs.Decode.Fields
import RouterPoll.Proofs.Json.Written
import RouterPoll.Proofs.Store.Table

/-!
# Documents that hold values

A document holds a value for a reader when its text is read as the document and the document as the value. Single values, optional ones, lists and structures hold what they are written for if their parts do, so that the document of a structure is shown to hold it field by field, in the order of the fields.
-/

namespace RouterPoll

namespace Decode

open Json (Node)

variable {α β : Type}

structure Holds (read : Reader α) (document : Json) (value : α) : Prop where
  exact : document.IsExact
  read (source : Source) : read source (Node.ofValue document) = .ok value

/-! ### Single values -/

theorem holds_text (value : String) : Holds readText (.string value) value where
  exact := .string value
  read _ := rfl

theorem holds_bool (value : Bool) : Holds readBool (.bool value) value where
  exact := .bool value
  read _ := rfl

theorem holds_nat {expected : String} {limit value : Nat} (hvalue : value < limit) (hlimit : limit ≤ Text.limit64) :
    Holds (readNat expected limit) (Json.nat value) value where
  exact := Json.isExact_nat (Nat.lt_of_lt_of_le hvalue hlimit)
  read source := readNat_ofValue expected source hvalue

theorem holds_nat16 {value : Nat} (hvalue : value < Text.limit16) : Holds readNat16 (Json.nat value) value :=
  holds_nat hvalue (by decide)

theorem holds_nat32 {value : Nat} (hvalue : value < Text.limit32) : Holds readNat32 (Json.nat value) value :=
  holds_nat hvalue (by decide)

theorem holds_nat64 {value : Nat} (hvalue : value < Text.limit64) : Holds readNat64 (Json.nat value) value :=
  holds_nat hvalue le_rfl

/-! ### What is made of other values -/

/-- What is missing is written as `null`, so nothing that is there may be written like that. -/
theorem holds_orNull {read : Reader α} {write : α → Json} {value : Option α}
    (hnull : ∀ item, write item ≠ .null) (hvalue : ∀ item ∈ value, Holds read (write item) item) :
    Holds (Decode.optional read) (Json.orNull write value) value := by
  cases value with
  | none => exact ⟨.null, fun _ => rfl⟩
  | some item =>
      have hitem := hvalue item rfl
      refine ⟨hitem.exact, fun source => ?_⟩
      have hread := hitem.read source
      show Decode.optional read source (Node.ofValue (write item)) = _
      cases hwrite : write item with
      | null => exact absurd hwrite (hnull item)
      | _ =>
          rw [hwrite] at hread
          exact congrArg (Except.map some) hread

theorem holds_text? (value : Option String) :
    Holds (Decode.optional readText) (Json.orNull .string value) value :=
  holds_orNull (fun _ hnull => by cases hnull) fun text _ => holds_text text

theorem holds_nat? {read : Reader Nat} {limit : Nat} {value : Option Nat}
    (hread : ∀ {number}, number < limit → Holds read (Json.nat number) number)
    (hvalue : ∀ number ∈ value, number < limit) :
    Holds (Decode.optional read) (Json.orNull Json.nat value) value :=
  holds_orNull (fun _ hnull => by cases hnull) fun number hmem => hread (hvalue number hmem)

theorem holds_list {read : Reader α} {write : α → Json} {items : List α}
    (hitems : ∀ item ∈ items, Holds read (write item) item) :
    Holds (listOf read) (.array (items.map write)) items where
  exact := by
    refine .array fun document hmem => ?_
    obtain ⟨item, hitem, rfl⟩ := List.mem_map.1 hmem
    exact (hitems item hitem).exact
  read source := readItems_ofItems fun item hmem => (hitems item hmem).read source

/-! ### Structures -/

def nodesOf (fields : List (String × Json)) : List (String × Node) :=
  fields.map fun field => (field.1, Node.ofValue field.2)

theorem ofFields_eq (fields : List (String × Json)) :
    Node.ofFields fields = Fields.entriesOf (nodesOf fields) := by
  induction fields with
  | nil => rfl
  | cons field fields ih =>
      obtain ⟨name, document⟩ := field
      rw [Node.ofFields, ih]
      rfl

theorem find?_entriesOf {name : String} {document : Json} {given : List (String × Json)} (place : Nat)
    (hfind : given.find? (·.1 == name) = some (name, document)) :
    ∃ found, Fields.find? name place (Fields.entriesOf (nodesOf given)) = some (found, Node.ofValue document) := by
  induction given generalizing place with
  | nil => cases hfind
  | cons field given ih =>
      show ∃ found, (if (field.1 == name) = true then some (place, Node.ofValue field.2)
        else Fields.find? name (place + 1) (Fields.entriesOf (nodesOf given))) = _
      rw [List.find?_cons] at hfind
      cases hname : field.1 == name with
      | true =>
          rw [hname] at hfind
          cases hfind
          exact ⟨place, rfl⟩
      | false =>
          rw [hname] at hfind
          exact ih (place + 1) hfind

/-- Fields are read as a value from the documents of a structure, and those documents of theirs from their texts. -/
structure FieldsHold (fields : Fields α) (given : List (String × Json)) (value : α) : Prop where
  exact : ∀ name ∈ fields.names, ∀ field, given.find? (·.1 == name) = some field → field.2.IsExact
  read (source : Source) : fields.fromEntries source (Fields.entriesOf (nodesOf given)) = .ok value

namespace FieldsHold

variable {given : List (String × Json)}

theorem field {name : String} {read : Reader α} {absent fallback : Option α} {document : Json} {value : α}
    (hfind : given.find? (·.1 == name) = some (name, document)) (hholds : Holds read document value) :
    FieldsHold (Fields.field name read absent fallback) given value where
  exact other hother field hfield := by
    rw [List.mem_singleton.1 hother, hfind] at hfield
    cases hfield
    exact hholds.exact
  read source := by
    obtain ⟨place, hplace⟩ := find?_entriesOf 0 hfind
    exact Fields.field_fromEntries hplace (hholds.read source)

theorem optional {name : String} {read : Reader α} {document : Json} {value : Option α}
    (hfind : given.find? (·.1 == name) = some (name, document)) (hholds : Holds (Decode.optional read) document value) :
    FieldsHold (Fields.optional name read) given value := by
  unfold Fields.optional Fields.defaulted
  exact field hfind hholds

theorem map {fields : Fields α} {value : α} (apply : α → β) (hfields : FieldsHold fields given value) :
    FieldsHold (apply <$> fields) given (apply value) where
  exact := hfields.exact
  read source := Fields.map_fromEntries apply (hfields.read source)

theorem seq {left : Fields (α → β)} {right : Fields α} {apply : α → β} {value : α}
    (hleft : FieldsHold left given apply) (hright : FieldsHold right given value) :
    FieldsHold (left <*> right) given (apply value) where
  exact name hname :=
    (List.mem_append.1 (show name ∈ left.names ++ right.names from hname)).elim (hleft.exact name) (hright.exact name)
  read source := Fields.seq_fromEntries (hleft.read source) (hright.read source)

end FieldsHold

/-- The document of a structure holds what its fields hold, if it has them in their order, each of them once. -/
theorem holds_object {name : String} {fields : Fields α} {given : List (String × Json)} {value : α}
    (hnames : given.map (·.1) = fields.names) (honce : fields.names.Nodup) (hfields : FieldsHold fields given value) :
    Holds (Fields.reader name fields) (.object given) value where
  exact := by
    refine .object fun field hmem => ?_
    refine hfields.exact field.1 (hnames ▸ List.mem_map_of_mem hmem) field ?_
    exact find?_of_mem (hnames.symm ▸ honce) hmem
  read source := by
    show Fields.reader name fields source (.object (Node.ofFields given)) = _
    rw [ofFields_eq]
    refine Fields.reader_object ?_ honce (hfields.read source)
    rw [nodesOf, List.map_map]
    exact hnames

end Decode

end RouterPoll
