/-!
  Mailroom.Filter.Expr
  ────────────────────────────────
  **TAG FILTERS AS TREES.**

  A filter selects messages by their flags.  `matches` decides it on a set of
  flags; `text` writes it with parentheses around every AND and OR, so that it
  can be read back.
-/
namespace Mailroom.Filter

/-- A filter: a tag that must be present, or a combination of filters. -/
inductive Expr where
  | tag (name : String)
  | and (left right : Expr)
  | or (left right : Expr)
  | not (operand : Expr)
  deriving Repr, DecidableEq

namespace Expr

/-- Whether a set of flags satisfies the filter. -/
def holds (flags : List String) : Expr → Bool
  | tag name => flags.contains name
  | and l r => l.holds flags && r.holds flags
  | or l r => l.holds flags || r.holds flags
  | not e => !e.holds flags

/-- The filter as text, fully parenthesised. -/
def text : Expr → String
  | tag name => name
  | and l r => "(" ++ l.text ++ " AND " ++ r.text ++ ")"
  | or l r => "(" ++ l.text ++ " OR " ++ r.text ++ ")"
  | not e => "NOT " ++ e.text

end Expr

end Mailroom.Filter
