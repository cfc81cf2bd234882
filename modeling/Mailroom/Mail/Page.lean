import Mailroom.Mail.Message
import Mailroom.Number.Binary64
/-!
  Mailroom.Mail.Page
  ────────────────────────────────
  **PAGES OF A FOLDER LISTING.**

  A folder of `total` messages has `total / limit` pages, rounded up and at
  least one.  The quotient is taken in binary64 before it is rounded up.  A page
  number outside the range stands for the nearest page.
-/
namespace Mailroom.Mail

open Mailroom.Number

/-- One page of a listing, newest message first. -/
structure Page where
  messages : List Message
  total : Nat
  page : Int
  totalPages : Int
  deriving Repr, DecidableEq

/-- The quotient of two integers, rounded to binary64. -/
def quotient (a b : Int) : Binary64 :=
  Binary64.ofQuotient (decide (a < 0) != decide (b < 0)) a.natAbs b.natAbs

/-- The number of pages of `limit` messages that `total` messages fill; nothing
when the quotient is beyond the largest binary64 number. -/
def pageCount? (total limit : Int) : Option Int :=
  if limit ≤ 0 then some 1
  else (quotient total limit).ceil?.map (max 1)

/-- The number of pages, and the page number clamped to them. -/
def paginate? (total limit page : Int) : Option (Int × Int) :=
  (pageCount? total limit).map fun pages => (pages, min (max page 1) pages)

end Mailroom.Mail
