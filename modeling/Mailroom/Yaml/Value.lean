import Mailroom.Number.Binary64
/-!
  Mailroom.Yaml.Value
  ────────────────────────────────
  **YAML VALUES, AND HOW A DOCUMENT CAN FAIL TO HAVE ONE.**
-/
namespace Mailroom.Yaml

open Mailroom.Number

/-! ## §1. Values. -/

/-- The value of a document; days and moments are kept as they are written. -/
inductive Value where
  | null
  | bool (b : Bool)
  | int (n : Int)
  | float (x : Binary64)
  | text (s : String)
  | octets (bs : List UInt8)
  | day (written : String)
  | moment (written : String)
  | list (items : List Value)
  | set (items : List Value)
  | mapping (fields : List (Value × Value))
  deriving Repr, Inhabited

namespace Value

/-- The name of the type of a value in messages. -/
def typeName : Value → String
  | null => "NoneType"
  | bool _ => "bool"
  | int _ => "int"
  | float _ => "float"
  | text _ => "str"
  | octets _ => "bytes"
  | day _ => "date"
  | moment _ => "datetime"
  | list _ => "list"
  | set _ => "set"
  | mapping _ => "dict"

/-- Whether a value can be the key of a mapping. -/
def isKey : Value → Bool
  | list _ | set _ | mapping _ => false
  | _ => true

/-- Whether a value is a given text. -/
def isText (s : String) : Value → Bool
  | text t => t == s
  | _ => false

/-- The value of a text key; the last one wins. -/
def field? (key : String) (fields : List (Value × Value)) : Option Value :=
  (fields.reverse.find? fun f => f.1.isText key).map (·.2)

end Value

/-! ## §2. Faults. -/

/-- Why a text has no value. -/
inductive Fault where
  /-- The text is not one YAML document, or has a value of no known type. -/
  | malformed
  /-- A scalar marked as an integer that is none, to a base. -/
  | notInteger (base : Nat) (text : String)
  | tooManyDigits (digits : Nat)
  /-- A scalar marked as a number that is empty. -/
  | emptyNumber
  /-- A scalar marked as a decimal that is none. -/
  | notDecimal (text : String)
  /-- A decimal to base 60 with a place whose weight is beyond all decimals. -/
  | tooLarge
  /-- A scalar marked as a truth value that is none. -/
  | notBool (text : String)
  /-- A scalar marked as a point in time that is none. -/
  | notTime
  /-- A mapping marked as a point in time. -/
  | mappingAsTime
  /-- A point in time that the calendar does not have. -/
  | noSuchTime (reason : String)
  /-- An escape for a code point beyond the last. -/
  | noSuchCharacter
  /-- A number that has too many digits to be written out. -/
  | unwritable
  deriving Repr, DecidableEq

end Mailroom.Yaml
