import Mailroom.Mail.Date
import Mailroom.Number.Reading
import Mailroom.Text.Base64
import Mailroom.Text.Quoted
import Mailroom.Text.Utf8
import Mailroom.Yaml.Node
/-!
  Mailroom.Yaml.Document
  ────────────────────────────────
  **THE VALUE OF A YAML DOCUMENT.**

  A scalar has the value that its text stands for in the type of its tag.  A
  merge key stands for the fields of the mappings that it names, which yield to
  the fields written beside it.  Mappings, sequences and sets cannot be keys.
-/
namespace Mailroom.Yaml

open Mailroom.Number Mailroom.Text

/-! ## §1. Numbers. -/

/-- A text without underscores. -/
def withoutBars (s : String) : List Char := s.toList.filter (· != '_')

/-- The digit of a character to a base; decimal digits may be those of any script. -/
def digitIn? (base : Nat) (c : Char) : Option Nat :=
  ((digitValue? c).or (hexDigit? c)).filter (· < base)

/-- The letter that may stand behind a zero in front of digits to a base. -/
def baseLetter? (base : Nat) : Option Char :=
  if base == 2 then some 'b' else if base == 8 then some 'o' else if base == 16 then some 'x'
  else none

/-- Digits to a base without the mark of the base. -/
def withoutMark (base : Nat) : List Char → List Char
  | '0' :: c :: rest => if some (lowerAscii c) == baseLetter? base then rest else '0' :: c :: rest
  | cs => cs

/-- The number written by digits to base 2, 8 or 16. -/
def numeral (base : Nat) (cs : List Char) : Except Fault Int :=
  let (negative, body) := takeSign (trimWhile isTrimmed cs)
  match (withoutMark base body).mapM (digitIn? base) with
  | some (d :: ds) =>
    let n : Int := ((d :: ds).foldl (fun n d => base * n + d) 0 : Nat)
    .ok (if negative then -n else n)
  | _ => .error (.notInteger base (String.ofList cs))

/-- The number written in decimal. -/
def decimalNumeral (cs : List Char) : Except Fault Int :=
  match readInteger cs with
  | .ok n => .ok n
  | .error .malformed => .error (.notInteger 10 (String.ofList cs))
  | .error (.tooLong n) => .error (.tooManyDigits n)

/-- A number from its places to base 60, the most significant first. -/
def sixtieths (places : List Int) : Int := places.foldl (fun n d => 60 * n + d) 0

/-- The integer that a text stands for. -/
def integerOf (text : String) : Except Fault Int := do
  let cs := withoutBars text
  let sign : Int := if cs.head? == some '-' then -1 else 1
  if cs.isEmpty || (unsigned cs).isEmpty then throw .emptyNumber
  let n ← match unsigned cs with
    | '0' :: 'b' :: rest => numeral 2 rest
    | '0' :: 'x' :: rest => numeral 16 rest
    | '0' :: rest => numeral 8 ('0' :: rest)
    | body =>
      if body.contains ':' then do return sixtieths (← (colonParts body).mapM decimalNumeral)
      else decimalNumeral body
  return sign * n

/-- A decimal from its places to base 60, the least significant first, each with the weight of
its place. -/
def decimalSixtieths (weight : Int) : List Binary64 → Binary64 → Except Fault Binary64
  | [], sum => .ok sum
  | d :: ds, sum =>
    match Binary64.ofInt weight with
    | .infinite _ => .error .tooLarge
    | w => decimalSixtieths (60 * weight) ds (sum.add (d.mul w))

/-- A decimal without colons. -/
def plainDecimal (cs : List Char) : Except Fault Binary64 :=
  match readDecimal? cs with
  | some x => .ok x
  | none => .error (.notDecimal (String.ofList cs))

/-- The decimal that a text without its sign stands for. -/
def unsignedDecimal (body : List Char) : Except Fault Binary64 :=
  if body == ".inf".toList then .ok (.infinite false)
  else if body == ".nan".toList then .ok .nan
  else if body.contains ':' then do
    let places ← (colonParts body).mapM plainDecimal
    decimalSixtieths 1 places.reverse (.zero false)
  else plainDecimal body

/-- The decimal that a text stands for. -/
def decimalOf (text : String) : Except Fault Binary64 := do
  let cs := (withoutBars text).map lowerAscii
  if cs.isEmpty then throw .emptyNumber
  let x ← unsignedDecimal (unsigned cs)
  return if cs.head? == some '-' then x.neg else x

/-! ## §2. Points in time. -/

/-- The number written by ASCII digits. -/
def digitsValue (cs : List Char) : Nat := ofDigits (cs.map fun d => d.toNat - 48)

/-- A length of time of some minutes, as it is shown in messages. -/
def shownOffset (minutes : Int) : String :=
  let days := minutes.fdiv 1440
  let seconds := minutes.fmod 1440 * 60
  let parts := (if days != 0 then [s!"days={days}"] else [])
    ++ (if seconds != 0 then [s!"seconds={seconds}"] else [])
  "datetime.timedelta(" ++ ", ".intercalate parts ++ ")"

/-- Fails unless a condition on a point in time holds. -/
def demandTime (b : Bool) (reason : String) : Except Fault Unit :=
  if b then .ok () else .error (.noSuchTime reason)

/-- The point in time that a text stands for. -/
def timeOf (text : String) : Except Fault Value := do
  match timeParts? (formOf text) with
  | none => throw .notTime
  | some t =>
    let year := digitsValue t.year
    let month := digitsValue t.month
    let day := digitsValue t.day
    match t.offset with
    | some (negative, hours, minutes) =>
      let size : Int := digitsValue hours * 60 + digitsValue minutes
      let minutes := if negative then -size else size
      demandTime (size < 1440)
        ("offset must be a timedelta strictly between -timedelta(hours=24) and "
          ++ s!"timedelta(hours=24), not {shownOffset minutes}")
    | none => pure ()
    demandTime (1 ≤ year) s!"year {year} is out of range"
    demandTime (1 ≤ month && month ≤ 12) "month must be in 1..12"
    demandTime (1 ≤ day && day ≤ Mail.Date.daysIn year month) "day is out of range for month"
    match t.clock with
    | none => return .day text
    | some (hour, minute, second) =>
      demandTime (digitsValue hour ≤ 23) "hour must be in 0..23"
      demandTime (digitsValue minute ≤ 59) "minute must be in 0..59"
      demandTime (digitsValue second ≤ 59) "second must be in 0..59"
      return .moment text

/-! ## §3. Scalars. -/

/-- The truth value that a text stands for. -/
def boolOf (text : String) : Except Fault Bool :=
  let word := lower text
  match boolWords.lookup word with
  | some b => .ok b
  | none => .error (.notBool word)

/-- The octets that a base64 text stands for. -/
def octetsOf (text : String) : Except Fault (List UInt8) :=
  if text.toList.any fun c => 128 ≤ c.toNat then .error .malformed
  else
    match Base64.decodeFrom 0 0 0 (encode text) with
    | some bs => .ok bs
    | none => .error .malformed

/-- The value of a scalar. -/
def scalarValue (tag text : String) : Except Fault Value :=
  if tag == standard "str" then .ok (.text text)
  else if tag == standard "null" then .ok .null
  else if tag == standard "bool" then (boolOf text).map .bool
  else if tag == standard "int" then (integerOf text).map .int
  else if tag == standard "float" then (decimalOf text).map .float
  else if tag == standard "timestamp" then timeOf text
  else if tag == standard "binary" then (octetsOf text).map .octets
  else .error .malformed

/-! ## §4. Nodes. -/

/-- A value that is meant only where there are no faults, and the faults with the depth of the
nodes that have them. -/
structure Built (α : Type) where
  value : α
  faults : List (Nat × Fault) := []

instance : Monad Built where
  pure a := { value := a }
  bind b f := { value := (f b.value).value, faults := b.faults ++ (f b.value).faults }

/-- No value at some depth. -/
def Built.fail (depth : Nat) (f : Fault) : Built Value := { value := .null, faults := [(depth, f)] }

/-- The outcome of reading a scalar at some depth. -/
def Built.ofExcept (depth : Nat) : Except Fault Value → Built Value
  | .ok v => pure v
  | .error f => .fail depth f

/-- The first of the faults that are the least deep. -/
def earliest? : List (Nat × Fault) → Option (Nat × Fault)
  | [] => none
  | f :: fs =>
    match earliest? fs with
    | some g => some (if g.1 < f.1 then g else f)
    | none => some f

/-- The value, or the fault that is met first where nodes are read level by level. -/
def Built.toExcept {α : Type} (b : Built α) : Except Fault α :=
  match earliest? b.faults with
  | some f => .error f.2
  | none => .ok b.value

/-- The tag of a node. -/
def Node.tag : Node → String
  | .scalar tag _ | .sequence tag _ | .mapping tag _ => tag
  | .enclosing _ isMapping => if isMapping then Collection.mapping.tag else Collection.sequence.tag

/-- Whether a node is a merge key. -/
def Node.isMerge : Node → Bool
  | .enclosing _ _ => false
  | n => n.tag == standard "merge"

/-- A key that the default key stands for, too. -/
def keyTag (tag : String) : String := if tag == standard "value" then standard "str" else tag

mutual

/-- The text of a scalar; a mapping has that of its default key. -/
def Node.text : Node → Except Fault String
  | .scalar _ text => .ok text
  | .mapping _ fields => defaultText fields
  | .sequence _ _ | .enclosing _ _ => .error .malformed

/-- The text of the default key among some fields. -/
def defaultText : List (Node × Node) → Except Fault String
  | [] => .error .malformed
  | (k, v) :: rest => if k.tag == standard "value" then v.text else defaultText rest

end

/-- The value of a node whose tag is not one of a collection. -/
def Node.scalarAs (tag : String) (n : Node) : Except Fault Value := do
  let text ← n.text
  match n with
  | .mapping _ _ => if tag == standard "timestamp" then throw .mappingAsTime
  | _ => pure ()
  scalarValue tag text

/-- The value of a key. -/
def Node.keyValue (n : Node) : Except Fault Value :=
  if collectionTags.contains n.tag then .error .malformed else n.scalarAs (keyTag n.tag)

mutual

/-- Whether merge keys stand for the fields of mappings. -/
def canMerge : List (Node × Node) → Bool
  | [] => true
  | (k, v) :: rest => (if k.isMerge then isMergeable v else true) && canMerge rest

/-- Whether a node is a mapping or several, and has only such for merge keys; for a node around
it this is asked there. -/
def isMergeable : Node → Bool
  | .mapping _ fields => canMerge fields
  | .sequence _ items => areMergeable items
  | .enclosing _ _ => true
  | .scalar _ _ => false

/-- Whether nodes are mappings that have only such for merge keys. -/
def areMergeable : List Node → Bool
  | [] => true
  | .mapping _ fields :: rest => canMerge fields && areMergeable rest
  | .enclosing _ isMapping :: rest => isMapping && areMergeable rest
  | _ :: _ => false

end

mutual

/-- The value of a node at some depth. -/
def Node.build (depth : Nat) : Node → Built Value
  | .scalar tag text =>
    if collectionTags.contains tag then .fail (depth + 1) .malformed
    else .ofExcept depth (scalarValue tag text)
  | .sequence tag items =>
    if tag == standard "seq" then .list <$> buildItems (depth + 1) items
    else if tag == standard "omap" || tag == standard "pairs" then
      .list <$> buildPairs (depth + 1) items
    else if collectionTags.contains tag then .fail (depth + 1) .malformed
    else .fail depth .malformed
  | .mapping tag fields =>
    if tag == standard "map" || tag == standard "set" then
      if canMerge fields then do
        let (merged, own) := buildFields (depth + 1) fields
        let fields ← (merged ++ own).mapM id
        return if tag == standard "map" then .mapping fields else .set (fields.map (·.1))
      else .fail (depth + 1) .malformed
    else if collectionTags.contains tag then .fail (depth + 1) .malformed
    else .ofExcept depth (Node.scalarAs tag (.mapping tag fields))
  | .enclosing _ isMapping => pure (if isMapping then .mapping [] else .list [])

/-- The values of nodes. -/
def buildItems (depth : Nat) : List Node → Built (List Value)
  | [] => pure []
  | n :: ns => do return (← n.build depth) :: (← buildItems depth ns)

/-- The values of mappings with one field each. -/
def buildPairs (depth : Nat) : List Node → Built (List Value)
  | [] => pure []
  | .mapping _ [(k, v)] :: ns => do
    let k ← k.build depth
    let v ← v.build depth
    return .list [k, v] :: (← buildPairs depth ns)
  | .enclosing _ true :: ns => do return .list [] :: (← buildPairs depth ns)
  | _ :: _ => { value := [], faults := [(depth, .malformed)] }

/-- The fields that merge keys stand for, and the others. -/
def buildFields (depth : Nat) :
    List (Node × Node) → List (Built (Value × Value)) × List (Built (Value × Value))
  | [] => ([], [])
  | (k, v) :: rest =>
    let (merged, own) := buildFields depth rest
    if k.isMerge then (mergedFields depth v ++ merged, own)
    else
      let field : Built (Value × Value) := do
        let key ← .ofExcept depth k.keyValue
        let value ← v.build depth
        return (key, value)
      (merged, field :: own)

/-- The fields that the value of a merge key stands for. -/
def mergedFields (depth : Nat) : Node → List (Built (Value × Value))
  | .mapping _ fields =>
    let (merged, own) := buildFields depth fields
    merged ++ own
  | .sequence _ items => mergedItems depth items
  | _ => []

/-- The fields of mappings that are merged together; the first one wins. -/
def mergedItems (depth : Nat) : List Node → List (Built (Value × Value))
  | [] => []
  | .mapping _ fields :: rest =>
    let (merged, own) := buildFields depth fields
    mergedItems depth rest ++ merged ++ own
  | _ :: rest => mergedItems depth rest

end

/-- The value of a node. Collections are read level by level, so of two faults the one that is
less deep is met first. -/
def Node.value (n : Node) : Except Fault Value := (n.build 0).toExcept

/-! ## §5. Texts. -/

/-- The characters of a text with each line end as a line feed. -/
def withLineFeeds : List Char → List Char
  | '\r' :: '\n' :: cs => '\n' :: withLineFeeds cs
  | '\r' :: cs => '\n' :: withLineFeeds cs
  | c :: cs => c :: withLineFeeds cs
  | [] => []

/-- The only document of a text; nothing if there is none. -/
def compose (text : String) : Except Fault (Option Node) :=
  NodeReader.document (tokensOf (withLineFeeds text.toList))

/-- The value of the only document of a text; null if there is none. -/
def load (text : String) : Except Fault Value := do
  match ← compose text with
  | some n => n.value
  | none => return .null

/-- The message for a fault of a scalar. -/
def Fault.message : Fault → String
  | malformed => "not a YAML document"
  | notInteger base text => s!"invalid literal for int() with base {base}: {quoted text}"
  | tooManyDigits n =>
    s!"Exceeds the limit ({maxDigits} digits) for integer string conversion: value has {n} "
      ++ "digits; use sys.set_int_max_str_digits() to increase the limit"
  | emptyNumber => "string index out of range"
  | notDecimal text => s!"could not convert string to float: {quoted text}"
  | tooLarge => "int too large to convert to float"
  | notBool text => quoted text
  | notTime => "'NoneType' object has no attribute 'groupdict'"
  | mappingAsTime => "expected string or bytes-like object, got 'list'"
  | noSuchTime reason => reason
  | noSuchCharacter => "chr() arg not in range(0x110000)"
  | unwritable =>
    s!"Exceeds the limit ({maxDigits} digits) for integer string conversion; "
      ++ "use sys.set_int_max_str_digits() to increase the limit"

end Mailroom.Yaml
