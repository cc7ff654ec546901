import ScriptRealm.Generator
import ScriptRealm.Grouping
import ScriptRealm.Object.Definition
import ScriptRealm.Object.DescriptorForm

/-!
# Requests

Everything an embedder can ask of the library, as data. Each request has
a type of replies, and `Request.perform` is what the library does about
it. A request may fail with a fault instead of being answered.
-/

set_option autoImplicit false

namespace ScriptRealm

/-- Something an embedder asks of the library. -/
inductive Request (P : Platform) where
  /- Making objects -/
  | createObject
  | createWith (prototype : Option Handle)
  | createArray (values : List Value)
  | createFunction (name : String) (length : Nat) (code : P.Code)
  | createConstructor (name : String) (length : Nat) (code : P.Code)
  | defineMethod (h : Handle) (key : PropertyKey) (name : String) (length : Nat) (code : P.Code)
  | defineBuiltin (h : Handle) (key : PropertyKey) (value : Value)
  | createForeign (host : P.Host)
  | createError (name message : String)
  | createIterResult (value : Value) (done : Bool)
  | createListIterator (target : Handle)
  | createGenerator (body : P.Body) (frame : Frame)
  | newSymbol (description : Option String)
  /- Reading objects -/
  | get (h : Handle) (key : PropertyKey)
  | get? (h : Handle) (key : PropertyKey)
  | getFor? (h : Handle) (key : PropertyKey) (receiver : Value)
  | getMethod? (value : Value) (key : PropertyKey)
  | has (h : Handle) (key : PropertyKey)
  | hasOwn (h : Handle) (key : PropertyKey)
  | owns (h : Handle) (key : PropertyKey)
  | ownKeys (h : Handle) (hidden symbols : Bool)
  | describe? (h : Handle) (key : PropertyKey)
  | testIntegrity (h : Handle) (level : Integrity)
  | inspect (h : Handle)
  | isCallable (value : Value)
  | isConstructor (value : Value)
  | typeName (value : Value)
  /- Changing objects -/
  | put (h : Handle) (key : PropertyKey) (value : Value)
  | assign (h : Handle) (key : PropertyKey) (value : Value) (strict : Bool)
  | delete (h : Handle) (key : PropertyKey)
  | deleteOrFail (h : Handle) (key : PropertyKey)
  | define (h : Handle) (key : PropertyKey) (d : Descriptor)
  | defineOrFail (h : Handle) (key : PropertyKey) (d : Descriptor)
  | createData (h : Handle) (key : PropertyKey) (value : Value)
  | createDataOrFail (h : Handle) (key : PropertyKey) (value : Value)
  | setIntegrity (h : Handle) (level : Integrity)
  | setPrototype (h : Handle) (prototype : Option Handle)
  | setScope (h : Handle) (scope : Option Handle)
  | preventExtensions (h : Handle)
  /- Changing records directly, past every check -/
  | setExtensible (h : Handle) (extensible : Bool)
  | insertSlot (h : Handle) (key : PropertyKey) (slot : Slot)
  | removeSlot (h : Handle) (key : PropertyKey)
  | applyDescriptor (h : Handle) (key : PropertyKey) (extensible : Bool) (d : Descriptor)
      (current : Option Slot)
  /- Calling -/
  | call (f this : Value) (args : List Value)
  | construct (constructor : Value) (args : List Value)
  | species (h : Handle) (default : Value)
  | faultToValue (fault : Fault)
  /- Lists and descriptors -/
  | arrayLength (h : Handle)
  | arrayElements (value : Value) (admits : Value → Bool)
  | descriptorOfObject (value : Value)
  | descriptorToObject (d : Option Descriptor)
  /- Iteration, generators and grouping -/
  | iterator (iterable : Value)
  | iteratorNext (record : IteratorRecord) (value : Option Value)
  | resultIsDone (result : Handle)
  | resultValue (result : Handle)
  | iteratorStep (record : IteratorRecord)
  | iteratorStepValue (record : IteratorRecord)
  | iteratorToList (record : IteratorRecord)
  | iteratorClose (record : IteratorRecord) (completion : Except Fault Value)
  | resumeGenerator (h : Handle) (completion : Completion)
  | generatorState (h : Handle)
  | groupBy (items callback : Value) (coercion : KeyCoercion)
  | groupsToObject (groups : Groups)

namespace Request

variable {P : Platform}

/-- The type of the replies to a request. -/
abbrev Reply : Request P → Type
  | .createObject | .createWith .. | .createArray .. | .createFunction ..
  | .createConstructor .. | .defineMethod .. | .createForeign .. | .createError ..
  | .createIterResult .. | .createListIterator .. | .createGenerator .. => Handle
  | .defineBuiltin .. => Unit
  | .newSymbol .. => Symbol
  | .get .. => Value
  | .get? .. | .getFor? .. | .getMethod? .. => Option Value
  | .has .. | .hasOwn .. | .owns .. | .testIntegrity .. | .isCallable .. | .isConstructor .. => Bool
  | .ownKeys .. => List PropertyKey
  | .describe? .. => Option Descriptor
  | .inspect .. => ObjectRecord P
  | .typeName .. => TypeName
  | .put .. | .assign .. | .delete .. | .define .. | .createData .. | .setIntegrity ..
  | .setPrototype .. | .preventExtensions .. | .setExtensible .. | .applyDescriptor .. => Bool
  | .deleteOrFail .. | .defineOrFail .. | .createDataOrFail .. | .setScope ..
  | .insertSlot .. => Unit
  | .removeSlot .. => Option Slot
  | .call .. | .construct .. | .species .. | .faultToValue .. => Value
  | .arrayLength .. => Nat
  | .arrayElements .. => List Value
  | .descriptorOfObject .. => Descriptor
  | .descriptorToObject .. => Value
  | .iterator .. => IteratorRecord
  | .iteratorNext .. => Handle
  | .resultIsDone .. => Bool
  | .resultValue .. => Value
  | .iteratorStep .. => Except Fault (Option Handle) × IteratorRecord
  | .iteratorStepValue .. => Except Fault (Option Value) × IteratorRecord
  | .iteratorToList .. => Except Fault (List Value) × IteratorRecord
  | .iteratorClose .. => Value
  | .resumeGenerator .. => IterResult
  | .generatorState .. => GeneratorState
  | .groupBy .. => Groups
  | .groupsToObject .. => Handle

/-- A function that runs an embedder's code. -/
def native (name : String) (length : Nat) (code : P.Code) (isConstructor : Bool) :
    FunctionData P :=
  { name, length, code := .native code, isConstructor }

/-- What the library does about a request. -/
def perform (hooks : Hooks P) : (request : Request P) → Action P request.Reply
  | .createObject => Action.modifyGet (·.createObject)
  | .createWith prototype => Action.modifyGet (·.createWith prototype)
  | .createArray values => Action.modifyGet (·.createArray values)
  | .createFunction name length code =>
      Action.modifyGet (·.createFunction (native name length code false))
  | .createConstructor name length code =>
      Action.modifyGet (·.createConstructor (native name length code true))
  | .defineMethod h key name length code =>
      Action.modifyGet (·.defineMethod h key (native name length code false))
  | .defineBuiltin h key value => Action.modify (·.defineBuiltin h key value)
  | .createForeign host => Action.modifyGet (·.createForeign host)
  | .createError name message => Action.modifyGet (·.createError name message)
  | .createIterResult value done => Action.modifyGet (·.createIterResult value done)
  | .createListIterator target => Action.modifyGet (·.createListIterator target)
  | .createGenerator body frame => Action.modifyGet (·.createGenerator body frame)
  | .newSymbol description => Action.modifyGet (·.newSymbol description)
  | .get h key => Object.get hooks h key
  | .get? h key => Object.get? hooks h key
  | .getFor? h key receiver => Object.getFor? hooks h key receiver
  | .getMethod? value key => Object.getMethod? hooks value key
  | .has h key => return (← Action.realm).has h key
  | .hasOwn h key => return (← Action.realm).hasOwn h key
  | .owns h key => return Object.owns (← Action.realm) h key
  | .ownKeys h hidden symbols => return (← Action.realm).ownKeys h hidden symbols
  | .describe? h key => return Object.describe? (← Action.realm) h key
  | .testIntegrity h level => return level.test (← Action.realm) h
  | .inspect h => Action.record h
  | .isCallable value => return (← Action.realm).isCallable value
  | .isConstructor value => return (← Action.realm).isConstructor value
  | .typeName value => return (← Action.realm).typeName value
  | .put h key value => Object.put hooks h key value
  | .assign h key value strict => Object.assign hooks h key value strict
  | .delete h key => Object.delete h key
  | .deleteOrFail h key => Object.deleteOrFail h key
  | .define h key d => Object.define h key d
  | .defineOrFail h key d => Object.defineOrFail h key d
  | .createData h key value => Object.createData h key value
  | .createDataOrFail h key value => Object.createDataOrFail h key value
  | .setIntegrity h level => Action.modifyGet fun realm => level.set realm h
  | .setPrototype h prototype => Action.modifyGet (·.setPrototype h prototype)
  | .setScope h scope => Action.modify (·.setScope h scope)
  | .preventExtensions h => Action.modifyGet (·.setExtensible h false)
  | .setExtensible h extensible => Action.modifyGet (·.setExtensible h extensible)
  | .insertSlot h key slot => Action.modify (·.insertSlot h key slot)
  | .removeSlot h key => Action.modifyGet fun realm =>
      ((realm.record h).slot? key, realm.update h (·.erase key))
  | .applyDescriptor h key extensible d current =>
      Action.modifyGet (·.applyDescriptor h key extensible d current)
  | .call f this args => hooks.call f this args
  | .construct constructor args => Object.construct hooks constructor args
  | .species h default => Object.species hooks h default
  | .faultToValue fault => Object.faultToValue fault
  | .arrayLength h => ArrayLike.length hooks h
  | .arrayElements value admits => ArrayLike.toList hooks value admits
  | .descriptorOfObject value => Descriptor.ofObject hooks value
  | .descriptorToObject d => Descriptor.toObject d
  | .iterator iterable => Iteration.iterator hooks iterable
  | .iteratorNext record value => Iteration.next hooks record value
  | .resultIsDone result => Iteration.isDone hooks result
  | .resultValue result => Iteration.resultValue hooks result
  | .iteratorStep record => Iteration.step hooks record
  | .iteratorStepValue record => Iteration.stepValue hooks record
  | .iteratorToList record => Iteration.toList hooks record
  | .iteratorClose record completion => Iteration.close hooks record completion
  | .resumeGenerator h completion => Generator.resume hooks h completion
  | .generatorState h => Generator.currentState h
  | .groupBy items callback coercion => Grouping.groupBy hooks items callback coercion
  | .groupsToObject groups => Grouping.toObject groups

end Request

end ScriptRealm
