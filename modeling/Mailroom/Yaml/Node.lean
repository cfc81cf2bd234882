import Mailroom.Yaml.Lexer
import Mailroom.Yaml.Implicit
/-!
  Mailroom.Yaml.Node
  ────────────────────────────────
  **FROM TOKENS TO A TREE.**

  A node is a scalar, a sequence or a mapping with a tag.  The tag is the one
  written in front of the node; a plain scalar without tag has the one that its
  text implies.  An alias stands for the node with its anchor, and a node that
  holds itself is written out for some levels.
-/
namespace Mailroom.Yaml

/-! ## §1. Nodes. -/

/-- A node of a document. -/
inductive Node where
  | scalar (tag text : String)
  | sequence (tag : String) (items : List Node)
  | mapping (tag : String) (fields : List (Node × Node))
  /-- An alias for a node around it. -/
  | enclosing (anchor : String) (isMapping : Bool)
  deriving Repr, Inhabited

/-- The kind of a collection. -/
inductive Collection where
  | sequence | mapping
  deriving DecidableEq

/-- The tag of a collection that states none. -/
def Collection.tag : Collection → String
  | sequence => standard "seq"
  | mapping => standard "map"

/-- The tags of collections. -/
def collectionTags : List String := ["seq", "omap", "pairs", "map", "set"].map standard

mutual

/-- A node with others in the places of its aliases for nodes around it; what is marked as a
scalar stays as it is. -/
def Node.replace (around : String → Option Node) : Node → Node
  | .scalar tag text => .scalar tag text
  | .sequence tag items => .sequence tag (replaceItems around items)
  | .mapping tag fields =>
    .mapping tag (if collectionTags.contains tag then replaceFields around fields else fields)
  | .enclosing anchor isMapping => (around anchor).getD (.enclosing anchor isMapping)

/-- Items with other nodes in the places of such aliases. -/
def replaceItems (around : String → Option Node) : List Node → List Node
  | [] => []
  | n :: ns => n.replace around :: replaceItems around ns

/-- Fields with other nodes in the places of such aliases. -/
def replaceFields (around : String → Option Node) : List (Node × Node) → List (Node × Node)
  | [] => []
  | (k, v) :: rest => (k.replace around, v.replace around) :: replaceFields around rest

end

/-- A node in which aliases for nodes around them are written out for some levels. -/
def Node.unrolled (anchors : List (String × Node)) : Nat → Node → Node
  | 0, n => n
  | levels + 1, n => n.replace fun anchor => (anchors.lookup anchor).map (unrolled anchors levels)

/-- The levels for which nodes that hold themselves are written out: settings are read from a
mapping, its sections and their fields. -/
def writtenLevels : Nat := 3

/-! ## §2. The state of reading. -/

/-- The tokens to be read and the fault behind them, the anchors so far, and what the tag
handles stand for. -/
structure Reading where
  tokens : List Token
  ending : Fault
  anchors : List (String × Node) := []
  handles : List (String × String)

/-- A reader of nodes. -/
abbrev NodeReader (α : Type) := StateT Reading (Except Fault) α

namespace NodeReader

/-- The next token. -/
def peek : NodeReader Token := do
  let r ← get
  match r.tokens with
  | t :: _ => return t
  | [] => throw r.ending

/-- Skips the next token. -/
def next : NodeReader Unit := modify fun r => { r with tokens := r.tokens.drop 1 }

/-- Fails. -/
def fail {α : Type} : NodeReader α := throw .malformed

/-- Skips the next token if it is a given one, and says whether it was. -/
def accept (t : Token) : NodeReader Bool := do
  if (← peek) == t then
    next
    return true
  else return false

/-- Whether the next token is one of some. -/
def isAt (ts : List Token) : NodeReader Bool := do return ts.contains (← peek)

/-- Skips the next token, which must be a given one. -/
def demand (t : Token) : NodeReader Unit := do
  if !(← accept t) then fail

/-- Remembers a node under an anchor. -/
def remember (anchor : Option String) (n : Node) : NodeReader Unit :=
  match anchor with
  | some name => modify fun r => { r with anchors := (name, n) :: r.anchors }
  | none => pure ()

/-- A scalar without text or tag. -/
def empty : Node := .scalar (standard "null") ""

/-- A tag in full. -/
def fullTag (handle : Option String) (suffix : String) : NodeReader String := do
  match handle with
  | none => return suffix
  | some h =>
    match (← get).handles.lookup h with
    | some stands => return stands ++ suffix
    | none => fail

/-- The anchor and the tag in front of a node, in any order. -/
def properties : NodeReader (Option String × Option String) := do
  match ← peek with
  | .anchor name => do
    next
    match ← peek with
    | .tag handle suffix => do
      next
      return (some name, some (← fullTag handle suffix))
    | _ => return (some name, none)
  | .tag handle suffix => do
    next
    match ← peek with
    | .anchor name => do
      next
      return (some name, some (← fullTag handle suffix))
    | _ => return (none, some (← fullTag handle suffix))
  | _ => return (none, none)

/-- The tag of a scalar. -/
def scalarTag (tag : Option String) (text : String) (plain : Bool) : String :=
  match tag with
  | none => if plain then impliedTag text else standard "str"
  | some "!" => impliedTag text
  | some t => t

/-- The tag of a collection. -/
def collectionTag (tag : Option String) (k : Collection) : String :=
  match tag with
  | none => k.tag
  | some "!" => k.tag
  | some t => t

/-- The node with an anchor. -/
def aliased (name : String) : NodeReader Node := do
  match (← get).anchors.lookup name with
  | some n => return n
  | none => fail

/-! ## §3. Nodes of all kinds. -/

/-- Where a node stands: what opens a block may stand there, and entries without
indentation of their own. -/
inductive Place where
  | flow | block | field
  deriving DecidableEq

mutual

/-- Reads a node. -/
def node (place : Place) : Nat → NodeReader Node
  | 0 => fail
  | fuel + 1 => do
    match ← peek with
    | .alias name => do
      next
      aliased name
    | _ => do
      let (anchor, tag) ← properties
      let start ← peek
      match anchor with
      | some name => if ((← get).anchors.lookup name).isSome then fail
      | none => pure ()
      let collection (k : Collection) (read : NodeReader Node) : NodeReader Node := do
        remember anchor (.enclosing (anchor.getD "") (k == .mapping))
        let n ← read
        remember anchor n
        return n
      match start with
      | .scalar text plain => do
        next
        let n := Node.scalar (scalarTag tag text plain) text
        remember anchor n
        return n
      | .entry =>
        if place == .field then
          collection .sequence do
            return .sequence (collectionTag tag .sequence) (← looseEntries fuel)
        else if anchor.isSome || tag.isSome then blank anchor tag
        else fail
      | .openBracket => do
        next
        collection .sequence do
          return .sequence (collectionTag tag .sequence) (← listItems true fuel)
      | .openBrace => do
        next
        collection .mapping do
          return .mapping (collectionTag tag .mapping) (← braceFields true fuel)
      | .sequenceStart =>
        if place == .flow then fail
        else do
          next
          collection .sequence do
            return .sequence (collectionTag tag .sequence) (← blockEntries fuel)
      | .mappingStart =>
        if place == .flow then fail
        else do
          next
          collection .mapping do
            return .mapping (collectionTag tag .mapping) (← blockFields fuel)
      | _ => if anchor.isSome || tag.isSome then blank anchor tag else fail
where
  /-- A node that has properties only. -/
  blank (anchor tag : Option String) : NodeReader Node := do
    let n := Node.scalar (scalarTag tag "" true) ""
    remember anchor n
    return n

/-- Reads a node, or nothing where one of some tokens follows. -/
def nodeUnless (place : Place) (ends : List Token) : Nat → NodeReader Node
  | 0 => fail
  | fuel + 1 => do
    if ← isAt ends then return empty else node place fuel

/-- Reads the entries of a block. -/
def blockEntries : Nat → NodeReader (List Node)
  | 0 => fail
  | fuel + 1 => do
    if ← accept .entry then
      let n ← nodeUnless .block [.entry, .blockEnd] fuel
      return n :: (← blockEntries fuel)
    else
      demand .blockEnd
      return []

/-- Reads entries that are not indented more than the key in front of them. -/
def looseEntries : Nat → NodeReader (List Node)
  | 0 => fail
  | fuel + 1 => do
    if ← accept .entry then
      let n ← nodeUnless .block [.entry, .key, .value, .blockEnd] fuel
      return n :: (← looseEntries fuel)
    else return []

/-- Reads the fields of a block. -/
def blockFields : Nat → NodeReader (List (Node × Node))
  | 0 => fail
  | fuel + 1 => do
    if ← accept .key then
      let k ← nodeUnless .field [.key, .value, .blockEnd] fuel
      let v ← if ← accept .value then nodeUnless .field [.key, .value, .blockEnd] fuel
        else pure empty
      return (k, v) :: (← blockFields fuel)
    else
      demand .blockEnd
      return []

/-- Reads the items of a list in brackets. -/
def listItems (first : Bool) : Nat → NodeReader (List Node)
  | 0 => fail
  | fuel + 1 => do
    if ← accept .closeBracket then return []
    if !first then demand .comma
    if ← accept .key then
      let k ← nodeUnless .flow [.value, .comma, .closeBracket] fuel
      let v ← if ← accept .value then nodeUnless .flow [.comma, .closeBracket] fuel else pure empty
      return .mapping Collection.mapping.tag [(k, v)] :: (← listItems false fuel)
    else if ← accept .closeBracket then return []
    else
      let n ← node .flow fuel
      return n :: (← listItems false fuel)

/-- Reads the fields of a mapping in braces. -/
def braceFields (first : Bool) : Nat → NodeReader (List (Node × Node))
  | 0 => fail
  | fuel + 1 => do
    if ← accept .closeBrace then return []
    if !first then demand .comma
    if ← accept .key then
      let k ← nodeUnless .flow [.value, .comma, .closeBrace] fuel
      let v ← if ← accept .value then nodeUnless .flow [.comma, .closeBrace] fuel else pure empty
      return (k, v) :: (← braceFields false fuel)
    else if ← accept .closeBrace then return []
    else
      let n ← node .flow fuel
      return (n, empty) :: (← braceFields false fuel)

end

/-! ## §4. Documents. -/

/-- What the tag handles stand for in any document. -/
def defaultHandles : List (String × String) := [("!", "!"), ("!!", tagBase)]

/-- Reads the directives in front of a document, and how it is announced: what tag handles
stand for. -/
def directives (ending : Fault) (versioned : Bool) (handles : List (String × String)) :
    List Token → Except Fault (List (String × String) × List Token)
  | .version major :: rest =>
    if versioned || major != 1 then .error .malformed else directives ending true handles rest
  | .handle h stands :: rest =>
    if (handles.lookup h).isSome then .error .malformed
    else directives ending versioned ((h, stands) :: handles) rest
  | .directive :: rest => directives ending versioned handles rest
  | .documentStart :: rest => .ok (handles ++ defaultHandles, rest)
  | _ :: _ => .error .malformed
  | [] => .error ending

/-- Reads the content of a document that is announced. -/
def content (fuel : Nat) : NodeReader Node := do
  match ← peek with
  | .version _ | .handle _ _ | .directive | .documentStart | .documentEnd | .streamEnd =>
    return empty
  | _ => node .block fuel

/-- The node of the only document of a text; nothing if there is no document. -/
def document (tokens : Tokens) : Except Fault (Option Node) := do
  let ending := tokens.ending
  let tokens := tokens.list
  let fuel := 4 * tokens.length + 8
  let announced := match tokens with
    | .version _ :: _ | .handle _ _ :: _ | .directive :: _ | .documentStart :: _ => true
    | _ => false
  if tokens.head? == some .streamEnd then return none
  let (node, r) ←
    if announced then do
      let (handles, rest) ← directives ending false [] tokens
      (content fuel).run { tokens := rest, ending, handles }
    else (node .block fuel).run { tokens, ending, handles := defaultHandles }
  match r.tokens.dropWhile (· == .documentEnd) with
  | .streamEnd :: _ => return some (node.unrolled r.anchors writtenLevels)
  | [] => throw ending
  | _ => throw .malformed

end NodeReader

end Mailroom.Yaml
