import Mailroom.Number.Notation
import Mailroom.Text.Quoted
/-!
  Mailroom.Json.Basic
  ────────────────────────────────
  **JSON VALUES, AND HOW THEY ARE SHOWN IN MESSAGES.**

  Directory records, classifier answers and log fields are JSON whose fields
  nobody checks beforehand, so a value keeps whatever shape it came with.
  Integers and decimals are apart; an object keeps its keys in order of first
  appearance with the value written last.
-/
namespace Mailroom

open Mailroom.Number

/-- A JSON value. -/
inductive Json where
  | null
  | bool (b : Bool)
  | int (n : Int)
  | float (x : Binary64)
  | text (s : String)
  | list (items : List Json)
  | object (fields : List (String × Json))
  deriving Repr, Inhabited

namespace Json

/-! ## §1. Fields. -/

/-- The fields with `key` set to `value`: a present key keeps its place. -/
def setField (key : String) (value : Json) : List (String × Json) → List (String × Json)
  | [] => [(key, value)]
  | (k, v) :: rest => if k == key then (k, value) :: rest else (k, v) :: setField key value rest

/-- An object from fields in order of writing; the last value of a key wins. -/
def ofFields (fields : List (String × Json)) : Json :=
  .object (fields.foldl (fun acc (k, v) => setField k v acc) [])

/-- The value of a key among fields. -/
def field? (key : String) (fields : List (String × Json)) : Option Json :=
  (fields.find? (·.1 == key)).map (·.2)

/-- The value of a key of an object; nothing for other shapes. -/
def get? (key : String) : Json → Option Json
  | .object fields => field? key fields
  | _ => none

/-! ## §2. Shapes. -/

/-- What kind of value a JSON value is. -/
inductive Shape where
  | null | bool | int | float | text | list | object
  deriving Repr, DecidableEq

/-- The shape of a value. -/
def shape : Json → Shape
  | .null => .null
  | .bool _ => .bool
  | .int _ => .int
  | .float _ => .float
  | .text _ => .text
  | .list _ => .list
  | .object _ => .object

/-- The name of a shape in messages. -/
def Shape.label : Shape → String
  | .null => "NoneType"
  | .bool => "bool"
  | .int => "int"
  | .float => "float"
  | .text => "str"
  | .list => "list"
  | .object => "dict"

/-- Whether a value counts as given: not null, false, zero or empty. -/
def isGiven : Json → Bool
  | .null => false
  | .bool b => b
  | .int n => n != 0
  | .float x => !x.isZero
  | .text s => s != ""
  | .list items => !items.isEmpty
  | .object fields => !fields.isEmpty

/-- The value, or the empty text when it is not given. -/
def orEmpty (v : Option Json) : Json :=
  match v with
  | some j => if j.isGiven then j else .text ""
  | none => .text ""

/-! ## §3. Showing values. -/

mutual

/-- A value as it is shown inside other values. -/
def shown : Json → String
  | .null => "None"
  | .bool true => "True"
  | .bool false => "False"
  | .int n => toString n
  | .float x => x.shortest
  | .text s => Text.quoted s
  | .list items => "[" ++ ", ".intercalate (shownItems items) ++ "]"
  | .object fields => "\x7b" ++ ", ".intercalate (shownFields fields) ++ "\x7d"

/-- The items of a list, shown. -/
def shownItems : List Json → List String
  | [] => []
  | v :: vs => shown v :: shownItems vs

/-- The fields of an object, shown. -/
def shownFields : List (String × Json) → List String
  | [] => []
  | (k, v) :: rest => (Text.quoted k ++ ": " ++ shown v) :: shownFields rest

end

/-- A value as it stands in a message: a text as it is, other values shown. -/
def plain : Json → String
  | .text s => s
  | v => shown v

mutual

/-- Equality of values. -/
def same : Json → Json → Bool
  | .null, .null => true
  | .bool a, .bool b => a == b
  | .int a, .int b => a == b
  | .float a, .float b => a == b
  | .text a, .text b => a == b
  | .list as, .list bs => sameItems as bs
  | .object as, .object bs => sameFields as bs
  | _, _ => false

/-- Equality of lists, item by item. -/
def sameItems : List Json → List Json → Bool
  | [], [] => true
  | a :: as, b :: bs => same a b && sameItems as bs
  | _, _ => false

/-- Equality of field lists, in order. -/
def sameFields : List (String × Json) → List (String × Json) → Bool
  | [], [] => true
  | (k, a) :: as, (l, b) :: bs => k == l && same a b && sameFields as bs
  | _, _ => false

end

instance : BEq Json := ⟨same⟩

end Json

end Mailroom
