/-!
  Mailroom.Yaml.Token
  ────────────────────────────────
  **THE TOKENS OF A YAML TEXT.**

  Indentation is turned into tokens that open and close blocks, so that the
  structure of a text can be read off its tokens alone.
-/
namespace Mailroom.Yaml

/-- A token. -/
inductive Token where
  /-- A directive that states the version. -/
  | version (major : Nat)
  /-- A directive that states what a tag handle stands for. -/
  | handle (handle stands : String)
  /-- Any other directive. -/
  | directive
  | documentStart
  | documentEnd
  | streamEnd
  | sequenceStart
  | mappingStart
  | blockEnd
  | openBracket
  | closeBracket
  | openBrace
  | closeBrace
  /-- A comma between the entries of a collection in brackets. -/
  | comma
  /-- The hyphen in front of an entry. -/
  | entry
  | key
  | value
  | alias (name : String)
  | anchor (name : String)
  | tag (handle : Option String) (suffix : String)
  | scalar (text : String) (plain : Bool)
  deriving Repr, DecidableEq

end Mailroom.Yaml
