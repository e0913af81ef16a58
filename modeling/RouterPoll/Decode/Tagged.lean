import RouterPoll.Decode.Fields

/-!
# Tagged structures

Reading a structure that is one of several, told apart by a name under a tag key. The tag may stand anywhere in the object, so everything else is taken in before it is read as what the tag says it is. In an array the tag comes first.
-/

namespace RouterPoll

namespace Decode

open Json (Node Key)

/-- One of several names, which has to be a text. -/
def variant (names : List (String × α)) : Reader α
  | _, .string name =>
    match names.find? (·.1 == name) with
    | some (_, value) => .ok value
    | none => .error (.unknownVariant name (names.map (·.1)))
  | _, node => .error (mismatch "variant identifier" node)

/-- A node, if all of it can be taken in. -/
def takeIn (room : Nat) (node : Node) : Except Error Node :=
  match node.value? room with
  | .ok _ => .ok node
  | .error flaw => .error (.flaw flaw)

/-- The value of the tag, and the other entries in their order. -/
def splitTag (tag : String) (read : Node → Except Error α) (room : Nat) :
    Option α → Entries → Except Error (Option α × Entries)
  | found, [] => .ok (found, [])
  | _, (.error flaw, _) :: _ => .error (.flaw flaw)
  | found, (.ok key, node) :: rest =>
    if key == tag then
      match found with
      | some _ => .error (.duplicateField tag)
      | none => do
        let value ← read node
        splitTag tag read room (some value) rest
    else do
      let node ← takeIn room node
      let (found, entries) ← splitTag tag read room found rest
      return (found, (.ok key, node) :: entries)

/-- A structure that has no fields, whatever stands beside its tag. -/
def bareVariant (value : α) : Reader α
  | _, .array (item :: rest) => .error (.wrongLength (item :: rest).length "0 elements in sequence")
  | _, _ => .ok value

/-- The structure named by a tag, each read in its own way from what stands beside the tag. -/
def tagged (name tag : String) (room : Nat) (variants : List (String × Reader α)) : Reader α
  | source, .object entries => do
    match ← splitTag tag (variant variants source) room none entries with
    | (some read, entries) => read .value (.object entries)
    | (none, _) => .error (.missingField tag)
  | _, .array [] => .error (.missingField tag)
  | source, .array (first :: rest) => do
    let read ← variant variants source first
    let items ← rest.mapM (takeIn room)
    read .value (.array items)
  | _, node => .error (mismatch ("internally tagged enum " ++ name) node)

end Decode

end RouterPoll
