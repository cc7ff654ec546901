import ScriptRealm.Config.Basic
import ScriptRealm.Toml.Reader

/-!
# Reading a configuration

A configuration document may set any of the three switches; what it does
not set keeps its default, and keys that are no switches are passed over.
-/

set_option autoImplicit false

namespace ScriptRealm

/-- Why there is no configuration. -/
inductive ConfigFault where
  /-- The file cannot be read. -/
  | unreadable
  /-- The text is malformed, or a switch has a value of the wrong kind. -/
  | malformed
  deriving DecidableEq

namespace Config

/-- The boolean under a key, or a default if there is nothing. -/
def boolean? (entries : Toml.Entries) (key : String) (default : Bool) : Option Bool :=
  match entries.get? key with
  | none => some default
  | some (.boolean b) => some b
  | some _ => none

/-- The 64-bit number under a key, or a default if there is nothing. -/
def word? (entries : Toml.Entries) (key : String) (default : Nat) : Option Nat :=
  match entries.get? key with
  | none => some default
  | some (.integer i) => if 0 ≤ i ∧ i < Int.pow 2 64 then some i.toNat else none
  | some _ => none

/-- The configuration in the text of a document. -/
def ofText (text : String) : Except ConfigFault Config :=
  let config : Option Config := do
    let entries ← Toml.parse? text
    return {
      strict := ← boolean? entries "strict" false
      maxIterations := ← word? entries "max_iterations" Number.maxSafeInteger
      enumerateIndicesFirst := ← boolean? entries "enumerate_indices_first" true }
  match config with
  | some config => .ok config
  | none => .error .malformed

/-- The configuration in a file, given its content if it can be read. -/
def ofFile (content : Option String) : Except ConfigFault Config :=
  match content with
  | some text => ofText text
  | none => .error .unreadable

end Config

end ScriptRealm
