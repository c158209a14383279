import Dispatch.Json.Value

/-!
# Data trees

What JSON and TOML have in common, as settings are read from it. A number that no reader can take is
`unreadable`: it spoils whoever looks at it, and nobody else.
-/

set_option autoImplicit false

namespace Dispatch

inductive Tree where
  | nothing
  | truth (value : Bool)
  | whole (value : Int)
  | fraction (value : Binary64)
  | unreadable
  | text (value : String)
  | list (elements : List Tree)
  | record (fields : List (String × Tree))
  deriving Repr, Inhabited

namespace Tree

mutual

def every (p : Tree → Bool) : Tree → Bool
  | .list elements => everyElement p elements
  | .record fields => everyField p fields
  | leaf => p leaf

def everyElement (p : Tree → Bool) : List Tree → Bool
  | [] => true
  | element :: rest => element.every p && everyElement p rest

def everyField (p : Tree → Bool) : List (String × Tree) → Bool
  | [] => true
  | (_, field) :: rest => field.every p && everyField p rest

end

/-- Whether all of it can be looked at and passed over. -/
def isReadable (t : Tree) : Bool :=
  t.every fun
    | .unreadable => false
    | _ => true

/-- Whether all of it can be kept for later, for which whole numbers have to fit into 64 bits. -/
def isKeepable (t : Tree) : Bool :=
  t.every fun
    | .unreadable => false
    | .whole n => decide ((-n).toNat ≤ twoTo 63 ∧ n.toNat < twoTo 64)
    | _ => true

mutual

def ofJson : Json → Tree
  | .null => .nothing
  | .bool value => .truth value
  | .integer value => .whole value
  | .number value => .fraction value
  | .string value => .text value
  | .array elements => .list (ofElements elements)
  | .members fields => .record (ofFields fields)

def ofElements : List Json → List Tree
  | [] => []
  | element :: rest => ofJson element :: ofElements rest

def ofFields : List (String × Json) → List (String × Tree)
  | [] => []
  | (key, field) :: rest => (key, ofJson field) :: ofFields rest

end

end Tree

end Dispatch
