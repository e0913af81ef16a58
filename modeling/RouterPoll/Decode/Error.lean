import RouterPoll.Json.Node
import RouterPoll.Text.Quoted

/-!
# Why a document is not what it should be

The reasons for which a document is refused where a structure is asked of it, and the wording of each. A wrong type and a wrong value say what was found and what was expected.
-/

namespace RouterPoll

namespace Decode

/-- What stands in a document where something else was expected. -/
inductive Found where
  | null
  | bool (value : Bool)
  | number (value : Json.Number)
  | text (value : String)
  | sequence
  | map
  deriving DecidableEq, Inhabited

inductive Error where
  | missingField (field : String)
  | duplicateField (field : String)
  | unknownVariant (variant : String) (known : List String)
  | noVariant (type : String)
  | wrongType (found : Found) (expected : String)
  | wrongValue (found : Found) (expected : String)
  | wrongLength (length : Nat) (expected : String)
  | badAddress
  | badUuid
  | badInstant
  | flaw (flaw : Json.Flaw)
  deriving DecidableEq, Inhabited

def Found.describe : Found → String
  | .null => "null"
  | .bool value => "boolean `" ++ (if value then "true" else "false") ++ "`"
  | .number (.whole value) => "integer `" ++ Text.intText value ++ "`"
  | .number (.double value) => "floating point `" ++ (Decimal.document? value).getD "null" ++ "`"
  | .text value => "string " ++ Text.quoted value
  | .sequence => "sequence"
  | .map => "map"

def ticked (name : String) : String := "`" ++ name ++ "`"

/-- The variants a text could have been. -/
def oneOf : List String → String
  | [first] => ticked first
  | [first, second] => ticked first ++ " or " ++ ticked second
  | known => "one of " ++ String.intercalate ", " (known.map ticked)

def Error.message : Error → String
  | .missingField field => "missing field " ++ ticked field
  | .duplicateField field => "duplicate field " ++ ticked field
  | .unknownVariant variant known =>
    "unknown variant " ++ ticked variant ++ ", expected " ++ oneOf known
  | .noVariant type => "data did not match any variant of untagged enum " ++ type
  | .wrongType found expected => "invalid type: " ++ found.describe ++ ", expected " ++ expected
  | .wrongValue found expected => "invalid value: " ++ found.describe ++ ", expected " ++ expected
  | .wrongLength length expected =>
    "invalid length " ++ Text.natText length ++ ", expected " ++ expected
  | .badAddress => "invalid IP address syntax"
  | .badUuid => "invalid uuid"
  | .badInstant => "invalid timestamp"
  | .flaw reason => reason.message

end Decode

end RouterPoll
