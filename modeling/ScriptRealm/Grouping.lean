import ScriptRealm.Iteration

/-!
# Grouping

A callback gives each item of an iterable a key, and items with the same
key are collected in a group, the groups being in the order in which
their keys first came up. Keys are compared as property keys or as the
keys of a collection are: by sameness up to the sign of zero, which folding
negative zero turns into equality.
-/

set_option autoImplicit false

namespace ScriptRealm

/-- How a callback's answer becomes a key. -/
inductive KeyCoercion where
  | property
  | collection
  deriving DecidableEq

/-- The key of a group. -/
inductive GroupKey where
  | property (key : PropertyKey)
  | collection (value : Value)
  deriving DecidableEq

namespace GroupKey

/-- A value with negative zero folded into zero. -/
def foldZero : Value → Value
  | .number n => .number (if n.isZero then .zero else n)
  | v => v

/-- The key that a callback's answer becomes. -/
def ofValue (coercion : KeyCoercion) (v : Value) : GroupKey :=
  match coercion with
  | .property => .property (.ofValue v)
  | .collection => .collection (foldZero v)

/-- A key as a script value. -/
def toValue : GroupKey → Value
  | .property key => key.toValue
  | .collection v => v

/-- The property that stands for a group in an object. -/
def toPropertyKey : GroupKey → PropertyKey
  | .property key => key
  | .collection v => .ofValue v

end GroupKey

/-- Items by key, in the order of the keys' first appearance. -/
abbrev Groups : Type := OrderedMap GroupKey (List Value)

namespace Groups

/-- Adds an item that comes before all those in the groups, so its group
is the first and it is the first of its group. -/
def addFirst (key : GroupKey) (item : Value) (groups : Groups) : Groups :=
  groups.insertFirst key (item :: (groups.get? key).getD [])

/-- The groups of a list of items with their keys. -/
def ofList (items : List (GroupKey × Value)) : Groups :=
  items.foldr (fun (key, item) groups => groups.addFirst key item) .empty

end Groups

namespace Grouping

variable {P : Platform} (hooks : Hooks P)

/-- Closes an iterator after a failure, and fails. -/
def closeWith (record : IteratorRecord) (fault : Fault) :
    Action P (List (GroupKey × Value)) := do
  let _ ← Iteration.close hooks record (.error fault)
  return []

/-- Gives a key to what an iterator has to give, from the item at `index`
on, for at most the given number of rounds. A failure of the callback, or
an item past the realm's bound on loops, closes the iterator; a failure of
the iterator itself does not. -/
def keyFrom (callback : Value) (coercion : KeyCoercion) (limit : Nat) :
    Nat → IteratorRecord → (index : Nat) → Action P (List (GroupKey × Value))
  | 0, _, _ => Action.exhausted
  | rounds + 1, record, index => do
      match ← Iteration.stepValue hooks record with
      -- A step that failed has left its iterator done: there is nothing to close.
      | (.error fault, _) => Action.fail fault
      | (.ok none, _) => return []
      | (.ok (some item), record) =>
          -- The bound is met before the callback sees the item.
          if limit < index then
            closeWith hooks record (.range .tooManyValues)
          else
            match ← (hooks.call callback .undefined
                [item, .number (.ofNat index)]).attempt with
            | .error fault => closeWith hooks record fault
            | .ok answer =>
                let rest ← keyFrom callback coercion limit rounds record (index + 1)
                return (.ofValue coercion answer, item) :: rest

/-- Groups the items of an iterable by the keys a callback gives them. -/
def groupBy (items callback : Value) (coercion : KeyCoercion) : Action P Groups := do
  let realm ← Action.realm
  if items.isNullish then
    Action.fail (.type (.groupingNullish items))
  else if realm.isCallable callback then
    let record ← Iteration.iterator hooks items
    let items ← keyFrom hooks callback coercion realm.config.maxIterations hooks.rounds record 0
    return .ofList items
  else
    Action.fail (.type (.callbackNotCallable callback (realm.typeName callback)))

/-- An object without prototype that has the groups as arrays. -/
def toObject (groups : Groups) : Action P Handle := Action.modifyGet fun realm =>
  -- The target is made first, so its handle comes before those of the arrays.
  let (target, realm) := realm.createWith none
  (target, groups.entries.foldl (fun realm (key, items) =>
    let (array, realm) := realm.createArray items
    realm.insertSlot target key.toPropertyKey (.plain (.object array))) realm)

end Grouping

end ScriptRealm
