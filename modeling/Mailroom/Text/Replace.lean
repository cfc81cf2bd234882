/-!
  Mailroom.Text.Replace
  ────────────────────────────────
  **REPLACING EVERY OCCURRENCE OF A WORD.**

  Occurrences are taken from the left and do not overlap.
-/
namespace Mailroom.Text

/-- Replaces every occurrence of `old` by `new`; the first `skip` elements are
dropped, being the rest of an occurrence already replaced. -/
def replaceFrom {α : Type} [BEq α] (old new : List α) : Nat → List α → List α
  | _, [] => []
  | skip + 1, _ :: xs => replaceFrom old new skip xs
  | 0, x :: xs =>
    if !old.isEmpty && old.isPrefixOf (x :: xs)
    then new ++ replaceFrom old new (old.length - 1) xs
    else x :: replaceFrom old new 0 xs

/-- Replaces every occurrence of `old` by `new`, from the left and without
overlap. -/
def replaceAll {α : Type} [BEq α] (old new : List α) (xs : List α) : List α :=
  replaceFrom old new 0 xs

end Mailroom.Text
