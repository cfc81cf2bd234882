import Mailroom.Text.Blank
import Mailroom.Text.Case
/-!
  Mailroom.Thread.Address
  ────────────────────────────────
  **THE BARE ADDRESS OF A FROM OR TO FIELD.**

  The address is what stands in the first pair of angle brackets; a field
  without such a pair is its own address.  Addresses are compared trimmed and in
  lower case.
-/
namespace Mailroom.Thread

open Mailroom.Text

/-- What stands between the first `<` and the `>` that follows it. -/
def angled? (cs : List Char) : Option (List Char) :=
  match cs.dropWhile (· ≠ '<') with
  | _ :: rest => if rest.contains '>' then some (rest.takeWhile (· ≠ '>')) else none
  | [] => none

/-- The bare address of a field, trimmed and in lower case. -/
def bareAddress (field : String) : String :=
  lower (trim (String.ofList ((angled? field.toList).getD field.toList)))

end Mailroom.Thread
