/-!
# Searching texts

The first and the last place at which one text stands in another, told by what is before and behind it.
-/

set_option autoImplicit false

namespace Dispatch.Text

def aroundFirst (part : List Char) : List Char → Option (List Char × List Char)
  | [] => if part.isEmpty then some ([], []) else none
  | c :: rest =>
    if part.isPrefixOf (c :: rest) then some ([], (c :: rest).drop part.length)
    else (aroundFirst part rest).map fun (before, behind) => (c :: before, behind)

def aroundLast (part text : List Char) : Option (List Char × List Char) :=
  (aroundFirst part.reverse text.reverse).map fun (before, behind) => (behind.reverse, before.reverse)

def contains (part text : String) : Bool := (aroundFirst part.toList text.toList).isSome

end Dispatch.Text
