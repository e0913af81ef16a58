import RouterPoll.Decode.Error

/-!
# Reading structures out of documents

A `Reader` asks a node for a value of one type and refuses with a reason. A structure is described once, by the list of its fields; the description reads it from an object, where fields may stand in any order, and from an array of its fields in declaration order. When several fields of an object are wrong, the one that stands first in the document is reported, and fields that are missing come last, in declaration order.
-/

namespace RouterPoll

namespace Decode

open Json (Node Key Flaw)

/-- Where a node comes from: the text of a document, or a value that was read before. They differ in how a choice between names is refused. -/
inductive Source where
  | text
  | value
  deriving DecidableEq, Repr

abbrev Reader (α : Type) := Source → Node → Except Error α

/-- What a node shows to someone who expected something else. -/
def mismatch (expected : String) : Node → Error
  | .null => .wrongType .null expected
  | .bool value => .wrongType (.bool value) expected
  | .number value => .wrongType (.number value) expected
  | .string value => .wrongType (.text value) expected
  | .array _ => .wrongType .sequence expected
  | .object _ => .wrongType .map expected
  | .unreadable flaw => .flaw flaw
  | .cut cut => .flaw cut.reading

/-! ### Readers of single values -/

def readBool : Reader Bool
  | _, .bool value => .ok value
  | _, node => .error (mismatch "a boolean" node)

def readText : Reader String
  | _, .string value => .ok value
  | _, node => .error (mismatch "a string" node)

/-- A whole number from `low` up to and without `high`. -/
def readWhole (expected : String) (low high : Int) : Reader Int
  | _, .number (.whole value) =>
    if low ≤ value && value < high then .ok value
    else .error (.wrongValue (.number (.whole value)) expected)
  | _, node => .error (mismatch expected node)

def readNat (expected : String) (limit : Nat) : Reader Nat := fun source node =>
  (readWhole expected 0 limit source node).map Int.toNat

def readNat16 : Reader Nat := readNat "u16" Text.limit16
def readNat32 : Reader Nat := readNat "u32" Text.limit32
def readNat64 : Reader Nat := readNat "u64" Text.limit64
def readSize : Reader Nat := readNat "usize" Text.limit64
def readInt32 : Reader Int := readWhole "i32" (-Text.signedLimit32) Text.signedLimit32

/-- A text with a form of its own. -/
def readForm (expected : String) (parse : String → Option α) (refusal : Error) : Reader α
  | _, .string value =>
    match parse value with
    | some result => .ok result
    | none => .error refusal
  | _, node => .error (mismatch expected node)

def optional (read : Reader α) : Reader (Option α)
  | _, .null => .ok none
  | source, node => (read source node).map some

def readItems (read : Reader α) (source : Source) : List Node → Except Error (List α)
  | [] => .ok []
  | item :: rest => do
    let value ← read source item
    let values ← readItems read source rest
    return value :: values

def listOf (read : Reader α) : Reader (List α)
  | source, .array items => readItems read source items
  | _, node => .error (mismatch "a sequence" node)

/-- The flaw of an object that goes on after its only field. -/
def notClosed : Node → Flaw
  | .cut (.plain .endInObject) => .endInObject
  | _ => .expectedValue

/-- One of several names. A name may also stand as the only key of an object whose value is `null`. -/
def choice (names : List (String × α)) : Reader α := fun source node =>
  let pick (name : String) : Except Error α :=
    match names.find? (·.1 == name) with
    | some (_, value) => .ok value
    | none => .error (.unknownVariant name (names.map (·.1)))
  match source, node with
  | _, .string name => pick name
  | _, .unreadable .numberTooLarge => .error (.flaw .expectedValue)
  | _, .unreadable flaw => .error (.flaw flaw)
  | _, .cut cut => .error (.flaw cut.naming)
  | .value, .object [(key, value)] => do
    let result ← match key with
      | .ok name => pick name
      | .error flaw => .error (.flaw flaw)
    match value with
    | .null => .ok result
    | other => .error (mismatch "unit" other)
  | .value, .object _ => .error (.wrongValue .map "map with a single key")
  | .value, node => .error (mismatch "string or map" node)
  | .text, .object ((key, value) :: rest) => do
    let result ← match key with
      | .ok name => pick name
      | .error flaw => .error (.flaw flaw)
    match value, rest with
    | .null, [] => .ok result
    | .null, (_, next) :: _ => .error (.flaw (notClosed next))
    | other, _ => .error (mismatch "unit" other)
  | .text, _ => .error (.flaw .expectedValue)

/-! ### Structures -/

/-- The fields of an object as they stand in the document. -/
abbrev Entries := List (Key × Node)

/-- A result, or the earliest of its faults with its place in the document. -/
abbrev Earliest (α : Type) := Except (Nat × Error) α

namespace Earliest

/-- Both results, or the fault that stands earlier; of two at one place the left one. -/
def both (left : Earliest (α → β)) (right : Earliest α) : Earliest β :=
  match left, right with
  | .ok apply, .ok value => .ok (apply value)
  | .error fault, .ok _ => .error fault
  | .ok _, .error fault => .error fault
  | .error first, .error second => .error (if second.1 < first.1 then second else first)

end Earliest

/-- The description of a structure by its fields: their names, how they are read from an object, and how they are read from an array. -/
structure Fields (α : Type) where
  names : List String
  fromEntries : Source → Entries → Earliest α
  fromItems : Source → List Node → Option (Except Error (α × List Node))

namespace Fields

def pure (value : α) : Fields α where
  names := []
  fromEntries _ _ := .ok value
  fromItems _ items := some (.ok (value, items))

def seq (left : Fields (α → β)) (right : Unit → Fields α) : Fields β where
  names := left.names ++ (right ()).names
  fromEntries source entries :=
    (left.fromEntries source entries).both ((right ()).fromEntries source entries)
  fromItems source items :=
    match left.fromItems source items with
    | some (.ok (apply, items)) =>
      match (right ()).fromItems source items with
      | some (.ok (value, items)) => some (.ok (apply value, items))
      | some (.error fault) => some (.error fault)
      | none => none
    | some (.error fault) => some (.error fault)
    | none => none

instance : Pure Fields := ⟨Fields.pure⟩
instance : Functor Fields where
  map apply fields := (Fields.pure apply).seq fun _ => fields
instance : Seq Fields := ⟨Fields.seq⟩

/-- The first field with a name, with its place. -/
def find? (name : String) : Nat → Entries → Option (Nat × Node)
  | _, [] => none
  | place, (.ok key, node) :: rest =>
    if key == name then some (place, node) else find? name (place + 1) rest
  | place, (.error _, _) :: rest => find? name (place + 1) rest

/-- A field with a name, a reader, what an object without it has (if it may lack it), and what an array that ends before it has. -/
def field (name : String) (read : Reader α) (absent fallback : Option α) : Fields α where
  names := [name]
  fromEntries source entries :=
    match find? name 0 entries with
    | some (place, node) => (read source node).mapError fun fault => (place, fault)
    | none =>
      match absent with
      | some value => .ok value
      | none => .error (entries.length, .missingField name)
  fromItems source items :=
    match items with
    | item :: rest => some ((read source item).map fun value => (value, rest))
    | [] => fallback.map fun value => .ok (value, [])

/-- A field that has to be there. -/
def required (name : String) (read : Reader α) : Fields α := field name read none none

/-- A field with a value of its own when it is not there. -/
def defaulted (name : String) (read : Reader α) (value : α) : Fields α :=
  field name read (some value) (some value)

/-- A field that is `null` or missing where there is nothing to say. -/
def optional (name : String) (read : Reader α) : Fields (Option α) :=
  defaulted name (Decode.optional read) none

/-- An optional field that an array has to hold even so. -/
def nullable (name : String) (read : Reader α) : Fields (Option α) :=
  field name (Decode.optional read) (some none) none

/-- The earliest fault that is no field's own: a key that can not be read, a field given twice, or a cut inside a field that is skipped. -/
def stray (names : List String) : Nat → List String → Entries → Earliest Unit
  | _, _, [] => .ok ()
  | place, _, (.error flaw, _) :: _ => .error (place, .flaw flaw)
  | place, seen, (.ok key, node) :: rest =>
    if names.contains key then
      if seen.contains key then .error (place, .duplicateField key)
      else stray names (place + 1) (key :: seen) rest
    else
      match node.stop? with
      | some flaw => .error (place, .flaw flaw)
      | none => stray names (place + 1) seen rest

/-- How many fields a structure should have had. -/
def lengthText (name : String) (count : Nat) : String :=
  "struct " ++ name ++ " with " ++ Text.natText count
    ++ (if count == 1 then " element" else " elements")

/-- The flaw of a text in which an array goes on after the last field of its structure. -/
def surplus : Node → Flaw
  | .cut (.plain .endInArray) => .endInArray
  | .cut .commaBeforeBracket => .trailingComma
  | _ => .trailingText

/-- The structure with these fields, under its name. -/
def reader (name : String) (fields : Fields α) : Reader α
  | source, .object entries =>
    (Earliest.both ((stray fields.names 0 [] entries).map fun _ value => value)
      (fields.fromEntries source entries)).mapError (·.2)
  | source, .array items =>
    match fields.fromItems source items with
    | none => .error (.wrongLength items.length (lengthText name fields.names.length))
    | some (.error fault) => .error fault
    | some (.ok (value, [])) => .ok value
    | some (.ok (_, next :: _)) =>
      match source with
      | .text => .error (.flaw (surplus next))
      | .value => .error (.wrongLength items.length "fewer elements in array")
  | _, node => .error (mismatch ("struct " ++ name) node)

end Fields

/-- A whole document read as one structure. -/
def readDocument (read : Reader α) (document : Json.Document) : Except Error α := do
  let value ← read .text document.root
  match document.trailing with
  | some flaw => .error (.flaw flaw)
  | none => .ok value

end Decode

end RouterPoll
