import Dispatch.Toml.Reader
import Dispatch.Tree

/-!
# Documents

Statements are put together into one tree. A table is defined once: by its header, or by the dotted keys
of one assignment block; a table that is only implied by a longer path may still get its header.
-/

set_option autoImplicit false

namespace Dispatch.Toml

inductive Origin where
  | implied
  | header
  | dotted
  deriving DecidableEq, Repr

inductive Node where
  | value (v : Value)
  | table (origin : Origin) (entries : List (String × Node))
  | rows (tables : List (List (String × Node)))
  deriving Repr

abbrev Entries := List (String × Node)

namespace Document

def put (key : String) (node : Node) : Entries → Entries
  | [] => [(key, node)]
  | (other, held) :: rest =>
    if other = key then (key, node) :: rest else (other, held) :: put key node rest

/-- Whether the dotted keys of an assignment may go into a table, as a step of their path or as its end. -/
def admitsDotted (origin : Origin) (last : Bool) : Bool :=
  match origin with
  | .header => false
  | .implied => !last
  | .dotted => true

/-- Changes the table at the end of a path, making the tables on the way. -/
def change (dotted : Bool) (f : Entries → Option Entries) : List String → Entries → Option Entries
  | [], entries => f entries
  | key :: path, entries =>
    match entries.lookup key with
    | none => do
      let inner ← change dotted f path []
      return put key (.table (if dotted then .dotted else .implied) inner) entries
    | some (.table origin inner) =>
      if dotted && !admitsDotted origin path.isEmpty then none
      else do return put key (.table origin (← change dotted f path inner)) entries
    | some (.rows tables) =>
      match if dotted then none else tables.getLast? with
      | some inner => do
        return put key (.rows (tables.dropLast ++ [← change dotted f path inner])) entries
      | none => none
    | some (.value _) => none

def defineTable (key : String) (entries : Entries) : Option Entries :=
  match entries.lookup key with
  | none => some (put key (.table .header []) entries)
  | some (.table .implied inner) => some (put key (.table .header inner) entries)
  | _ => none

def addRow (key : String) (entries : Entries) : Option Entries :=
  match entries.lookup key with
  | none => some (put key (.rows [[]]) entries)
  | some (.rows tables) => some (put key (.rows (tables ++ [[]])) entries)
  | _ => none

def addValue (key : String) (v : Value) (entries : Entries) : Option Entries :=
  match entries.lookup key with
  | none => some (put key (.value v) entries)
  | some _ => none

def splitLast (path : List String) : Option (List String × String) :=
  path.getLast?.map fun last => (path.dropLast, last)

def assign (path : List String) (v : Value) (entries : Entries) : Option Entries := do
  let (before, last) ← splitLast path
  change true (addValue last v) before entries

/-- One statement more; the path is that of the table whose header came last. -/
def extend (state : List String × Entries) : Statement → Option (List String × Entries)
  | .header path => do
    let (before, last) ← splitLast path
    return (path, ← change false (defineTable last) before state.2)
  | .arrayHeader path => do
    let (before, last) ← splitLast path
    return (path, ← change false (addRow last) before state.2)
  | .assign path v => do return (state.1, ← change false (assign path v) state.1 state.2)

def build (statements : List Statement) : Option Entries :=
  (statements.foldlM extend (([], []) : List String × Entries)).map Prod.snd

/-- A moment as data: a record of its text under a name no key of a document has to avoid. -/
def momentTree (text : String) : Tree := .record [("$__toml_private_datetime", .text text)]

/-- The data of a value, for which inline tables are built as documents are. -/
def valueTree : Nat → Value → Option Tree
  | 0, _ => none
  | _ + 1, .string text => some (.text text)
  | _ + 1, .integer n => some (.whole n)
  | _ + 1, .float x => some (.fraction x)
  | _ + 1, .excessive => some .unreadable
  | _ + 1, .boolean b => some (.truth b)
  | _ + 1, .moment text => some (momentTree text)
  | fuel + 1, .array elements => (elements.mapM (valueTree fuel)).map Tree.list
  | fuel + 1, .table assignments => do
    let entries ← assignments.foldlM (fun entries a => assign a.1 a.2 entries) []
    entriesTree fuel entries
where
  entriesTree : Nat → Entries → Option Tree
    | 0, _ => none
    | fuel + 1, entries =>
      (entries.mapM fun (entry : String × Node) => do
        return (entry.1, ← nodeTree fuel entry.2)).map Tree.record
  nodeTree : Nat → Node → Option Tree
    | 0, _ => none
    | fuel + 1, .value v => valueTree fuel v
    | fuel + 1, .table _ entries => entriesTree fuel entries
    | fuel + 1, .rows tables => (tables.mapM (entriesTree fuel)).map Tree.list

end Document

def tree? (text : String) : Option Tree := do
  let entries ← Document.build (← statements? text)
  Document.valueTree.entriesTree (4 * text.length + 4) entries

end Dispatch.Toml
