import ScriptRealm.Number.Text
import ScriptRealm.Object.Kind
import ScriptRealm.Text.Quoted

/-!
# Inspection

The text of values, kinds and generators for someone who looks into a
realm. It shows identities and states, not what a script would see, and
runs none of a script's code.
-/

set_option autoImplicit false

namespace ScriptRealm

namespace Inspection

/-- A named group of fields. -/
def fields (name : String) (entries : List (String × String)) (closing : String) : String :=
  name ++ " \x7b " ++ ", ".intercalate (entries.map fun (field, text) => field ++ ": " ++ text) ++
    closing ++ " \x7d"

/-- Something that may be missing. -/
def optional (text : Option String) : String :=
  match text with
  | some text => "Some(" ++ text ++ ")"
  | none => "None"

def flag (b : Bool) : String := if b then "true" else "false"

end Inspection

open Inspection

def Handle.inspect (h : Handle) : String := "ObjectRef(" ++ toString h.index ++ ")"

def Symbol.inspect (s : Symbol) : String :=
  fields "Symbol"
    [("id", toString s.id), ("description", optional (s.description.map Text.quoted))] ""

def Value.inspect : Value → String
  | .undefined => "Undefined"
  | .null => "Null"
  | .boolean b => "Boolean(" ++ flag b ++ ")"
  | .number n => "Number(" ++ NumberFormat.inspection.text n ++ ")"
  | .string s => "String(" ++ Text.quoted s ++ ")"
  | .symbol s => "Symbol(" ++ s.inspect ++ ")"
  | .object h => "Object(" ++ h.inspect ++ ")"

def Location.inspect (l : Location) : String :=
  fields "SourceLocation" [("line", toString l.line), ("source", Text.quoted l.source)] ""

def GeneratorState.name : GeneratorState → String
  | .suspendedStart => "SuspendedStart"
  | .suspendedYield => "SuspendedYield"
  | .executing => "Executing"
  | .completed => "Completed"

def Frame.inspect (frame : Frame) : String :=
  fields "GeneratorFrame"
    [ ("resume_point", toString frame.resumePoint),
      ("locals", "[" ++ ", ".intercalate (frame.locals.map Value.inspect) ++ "]") ] ""

variable {P : Platform}

/-- The text of a generator. Its body is not shown. -/
def Generator.inspect (g : Generator P) : String :=
  fields "GeneratorRecord"
    [ ("state", g.state.name),
      ("frame", g.frame.inspect),
      ("delegate", optional (g.delegate.map fun record => record.iterator.inspect)),
      ("last_location", optional (g.lastLocation.map Location.inspect)) ] ", .."

/-- The text of an object's kind. -/
def Kind.inspect : Kind P → String
  | .ordinary => "Ordinary"
  | .error => "Error"
  | .function f =>
      fields "Function"
        [ ("name", Text.quoted f.name), ("length", toString f.length),
          ("constructor", flag f.isConstructor) ] ""
  | .generator g => "Generator(" ++ g.state.name ++ ")"
  | .listIterator c =>
      fields "ListIteratorState"
        [ ("target", c.target.inspect), ("next_index", toString c.next),
          ("done", flag c.done) ] ""
  | .foreign host => "Foreign(" ++ P.hosts.label host ++ ")"

end ScriptRealm
