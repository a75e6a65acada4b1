import Fanout.Json.Basic
import Fanout.Text.Shown

/-!
# Fanout — why a value is not of a wire form

`DecodeError` lists the causes; `DecodeError.message` words them.
-/

namespace Fanout

/-- What a wire form asks for at one place. -/
inductive Wanted where
  | string
  | boolean
  /-- An integer from 0 to `2 ^ 64 - 1`. -/
  | word
  | sequence
  /-- A record, as an object or as an array. -/
  | record (name : String)
  /-- One of several names, as a string or as the only key of an object. -/
  | choice
  /-- Null, beside the name of a choice. -/
  | nothing
  /-- A record that names its variant in one of its members. -/
  | tagged (name : String)
  /-- The name of a variant. -/
  | variant

/-- Why a value is not of the wanted form. -/
inductive DecodeError where
  | missingField (field : String)
  | unknownVariant (found : String) (known : List String)
  | wrongKind (found : Json) (wanted : Wanted)
  | negativeWord (value : Int)
  /-- An object that should have the name of a choice as its only key. -/
  | notOneKey
  /-- The array form of a record ends before a field that has no default. -/
  | tooShort (length : Nat) (record : String) (size : Nat)
  /-- The array form of a record goes on after the last field. -/
  | tooLong (length : Nat)
  /-- The same inside a tagged record, where the number of fields is part of the message. -/
  | tooLongInside (length size : Nat)

/-- What is wanted, in words. -/
def Wanted.text : Wanted → String
  | .string => "a string"
  | .boolean => "a boolean"
  | .word => "u64"
  | .sequence => "a sequence"
  | .record name => name
  | .choice => "string or map"
  | .nothing => "unit"
  | .tagged name => "internally tagged enum " ++ name
  | .variant => "variant identifier"

/-- What was found, in words: scalars with their value, containers by kind. -/
def Json.found : Json → String
  | .null => "null"
  | .bool true => "boolean `true`"
  | .bool false => "boolean `false`"
  | .number (.integer value h) => "integer `" ++ (Number.integer value h).text ++ "`"
  | .number (.double value) => "floating point `" ++ value.text ++ "`"
  | .string value => "string " ++ Text.shown value
  | .array _ => "sequence"
  | .object _ => "map"

namespace DecodeError

/-- The known names of a choice, in declaration order. -/
def oneOf : List String → String
  | [first, second] => "`" ++ first ++ "` or `" ++ second ++ "`"
  | names => "one of " ++ String.intercalate ", " (names.map (fun name => "`" ++ name ++ "`"))

/-- The wording of a cause. -/
def message : DecodeError → String
  | .missingField field => "missing field `" ++ field ++ "`"
  | .unknownVariant found known => "unknown variant `" ++ found ++ "`, expected " ++ oneOf known
  | .wrongKind found wanted => "invalid type: " ++ found.found ++ ", expected " ++ wanted.text
  | .negativeWord value => "invalid value: integer `" ++ toString value ++ "`, expected u64"
  | .notOneKey => "invalid value: map, expected map with a single key"
  | .tooShort length record size =>
    "invalid length " ++ toString length ++ ", expected " ++ record ++ " with " ++ toString size
      ++ " elements"
  | .tooLong length =>
    "invalid length " ++ toString length ++ ", expected fewer elements in array"
  | .tooLongInside length size =>
    "invalid length " ++ toString length ++ ", expected " ++ toString size
      ++ " elements in sequence"

end DecodeError

end Fanout
