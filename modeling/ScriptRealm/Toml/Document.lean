import ScriptRealm.Number.Basic

/-!
# Documents

A configuration document is a table of keys. Tables come to be in
several ways, and the way decides what may still be added: a table that
has a header of its own takes keys under that header alone, one that only
longer headers imply may get a header later, one made by a dotted key
grows by dotted keys alone, and what stands inside a value is closed.

Adding a key that is there, or adding to what is closed, fails.
-/

set_option autoImplicit false

namespace ScriptRealm.Toml

/-- How a table came to be. -/
inductive Origin where
  | header
  | implied
  | dotted
  deriving DecidableEq

/-- What stands under a key. -/
inductive Node where
  | string (text : String)
  | integer (i : Int)
  | float (n : Number)
  | boolean (b : Bool)
  | dateTime (text : String)
  | array (items : List Node)
  | inlineTable (entries : List (String × Node))
  | table (origin : Origin) (entries : List (String × Node))
  /-- An array of tables, each with a header; the last one is open. -/
  | tables (earlier : List (List (String × Node))) (last : List (String × Node))
  deriving Inhabited

/-- The entries of a table in the order in which they came. -/
abbrev Entries : Type := List (String × Node)

namespace Entries

/-- What stands under a key. -/
def get? (entries : Entries) (key : String) : Option Node := entries.lookup key

/-- The entries with a node under a key, in the key's place if it has
one. -/
def set (entries : Entries) (key : String) (node : Node) : Entries :=
  if (entries.get? key).isSome then
    entries.map fun (k, n) => if k == key then (k, node) else (k, n)
  else
    entries ++ [(key, node)]

/-- Changes the entries that a header's path leads to. Tables that are
missing on the way are implied. -/
def alongHeader (f : Entries → Option Entries) : List String → Entries → Option Entries
  | [], entries => f entries
  | key :: path, entries =>
      match entries.get? key with
      | none => do
          return entries.set key (.table .implied (← alongHeader f path []))
      | some (.table origin sub) => do
          return entries.set key (.table origin (← alongHeader f path sub))
      | some (.tables earlier last) => do
          return entries.set key (.tables earlier (← alongHeader f path last))
      | some _ => none

/-- Gives a table its header. -/
def openTable (key : String) (entries : Entries) : Option Entries :=
  match entries.get? key with
  | none => some (entries.set key (.table .header []))
  | some (.table .implied sub) => some (entries.set key (.table .header sub))
  | some _ => none

/-- Starts the next table of an array of tables. -/
def openElement (key : String) (entries : Entries) : Option Entries :=
  match entries.get? key with
  | none => some (entries.set key (.tables [] []))
  | some (.tables earlier last) => some (entries.set key (.tables (earlier ++ [last]) []))
  | some _ => none

/-- Adds a node under a dotted key. A table that dotted keys did not make
can be passed through, unless it has a header, but it does not take the
node itself; `takes` says whether the table at hand does. -/
def insertDotted (key : String) (node : Node) :
    (path : List String) → (takes : Bool) → Entries → Option Entries
  | [], takes, entries =>
      if takes && (entries.get? key).isNone then some (entries ++ [(key, node)]) else none
  | first :: path, _, entries =>
      match entries.get? first with
      | none => do
          return entries.set first (.table .dotted (← insertDotted key node path true []))
      | some (.table .dotted sub) => do
          return entries.set first (.table .dotted (← insertDotted key node path true sub))
      | some (.table .implied sub) => do
          return entries.set first (.table .implied (← insertDotted key node path false sub))
      | some (.tables earlier last) => do
          return entries.set first (.tables earlier (← insertDotted key node path false last))
      | some _ => none

/-- Adds a node under a key of one or more parts. -/
def insert (parts : List String) (node : Node) (entries : Entries) : Option Entries :=
  match parts.getLast? with
  | none => none
  | some key => insertDotted key node parts.dropLast true entries

end Entries

end ScriptRealm.Toml
