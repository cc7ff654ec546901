import ScriptRealm.Opcode.Table

/-!
# Opcodes

An opcode is a place in one of the two tables. Its raw number is what
programs carry, and `Opcode.ofRaw` reads one back, refusing the numbers
outside the tables: those below the last extended opcode, those past the
last token, and the single hole between the two runs.

A dispatch table has one slot for every raw number from the lowest to
the highest, the hole included; `Opcode.slot` numbers them from zero.
-/

set_option autoImplicit false

namespace ScriptRealm

/-- An opcode by its place in its table. -/
inductive Opcode where
  | token (place : Fin 82)
  | extended (place : Fin 87)
  deriving DecidableEq

/-- A raw number that is no opcode. -/
structure InvalidOpcode where
  raw : Int
  deriving DecidableEq

/-- The text of the refusal of a raw number. -/
def InvalidOpcode.message (e : InvalidOpcode) : String := "Invalid opcode: " ++ toString e.raw

namespace Opcode

/-- The raw number of the first token. -/
def firstToken : Int := 2

/-- The raw number of the last token. -/
def lastToken : Int := 83

/-- The raw number of the last extended opcode. -/
def lastExtended : Int := -86

/-- The number of slots of a dispatch table. -/
def tableLength : Nat := (lastToken - lastExtended + 1).toNat

def raw : Opcode → Int
  | .token place => firstToken + place.val
  | .extended place => -(place.val : Int)

def isTokenCode (raw : Int) : Bool := firstToken ≤ raw && raw ≤ lastToken

def isExtendedCode (raw : Int) : Bool := lastExtended ≤ raw && raw ≤ 0

def isCode (raw : Int) : Bool := isExtendedCode raw || isTokenCode raw

/-- The token with a raw number. -/
def token? (raw : Int) : Option Opcode :=
  if h : firstToken ≤ raw ∧ raw ≤ lastToken then
    some (.token ⟨(raw - firstToken).toNat, by simp only [firstToken, lastToken] at h ⊢; omega⟩)
  else none

/-- The extended opcode with a raw number. -/
def extended? (raw : Int) : Option Opcode :=
  if h : lastExtended ≤ raw ∧ raw ≤ 0 then
    some (.extended ⟨(-raw).toNat, by simp only [lastExtended] at h; omega⟩)
  else none

/-- The opcode with a raw number. -/
def ofRaw (raw : Int) : Except InvalidOpcode Opcode :=
  match (extended? raw).or (token? raw) with
  | some opcode => .ok opcode
  | none => .error ⟨raw⟩

/-- The names of an opcode. -/
def entry : Opcode → OpcodeEntry
  | .token place => OpcodeEntry.tokens.get (place.cast OpcodeEntry.length_tokens.symm)
  | .extended place => OpcodeEntry.extended.get (place.cast OpcodeEntry.length_extended.symm)

/-- The name of an opcode in listings. -/
def mnemonic (opcode : Opcode) : String := opcode.entry.mnemonic

/-- The slot of an opcode in a dispatch table. -/
def slot (opcode : Opcode) : Nat := (opcode.raw - lastExtended).toNat

/-- The slot of a raw number in a dispatch table. -/
def slotOfRaw (raw : Int) : Except InvalidOpcode Nat := (ofRaw raw).map slot

/-- The tokens in table order. -/
def tokens : List Opcode := (List.finRange 82).map .token

/-- The extended opcodes in table order. -/
def extendeds : List Opcode := (List.finRange 87).map .extended

/-- Every opcode, the lowest raw number first. -/
def all : List Opcode := extendeds.reverse ++ tokens

/-- The token with a stored name. -/
def tokenNamed? (identifier : String) : Option Opcode :=
  tokens.find? (·.entry.identifier == identifier)

/-- The extended opcode with a stored name. -/
def extendedNamed? (identifier : String) : Option Opcode :=
  extendeds.find? (·.entry.identifier == identifier)

/-- The opcode that yields a value. -/
def yield : Opcode := .token 71

/-- The opcodes that set up, suspend or finish a generator's frame. -/
def generatorOpcodes : List Opcode :=
  [yield, .extended 69, .extended 70, .extended 72, .extended 73]

/-- Whether an opcode suspends or finishes a generator's frame. -/
def isGenerator (opcode : Opcode) : Bool := generatorOpcodes.contains opcode

end Opcode

end ScriptRealm
