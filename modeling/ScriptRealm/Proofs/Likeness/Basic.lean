import ScriptRealm.Embedder.Script
import ScriptRealm.Proofs.Handles.Walk

/-!
# `ScriptRealm.Proofs.Likeness.Basic`: realms that are alike

The library never looks into the code, the bodies, the storage and the
memory that an embedder brings along. It stores them, hands them out and
takes them back. So a run on one platform can be followed step by step by a
run on another one, as long as what the embedders bring corresponds.

A `Likeness` between two platforms says what corresponds to what. It
relates codes, foreign objects and memories, and it relates bodies together
with the frame they are to be resumed in. Two more things are up to it:
`key` restricts the keys that tables may have, and `order` relates the
settings of the two realms for the order in which keys are listed.

Everything that is not the embedder's has to be equal. `ObjectRecord.Alike`
and `Realm.Alike` say so. The first half of the file reads alike realms and
finds the same, the second half changes them and finds them alike again.
A realm can be alike itself. Then the likeness states an invariant, and what
follows for alike realms follows for the invariant.
-/

set_option autoImplicit false

namespace ScriptRealm

/-- Two answers of foreign objects that are the same, and leave storages and
memories that correspond. -/
structure AnswerAlike {α Host Memory Host' Memory' : Type} (host : Host → Host' → Prop)
    (memory : Memory → Memory' → Prop) (x : α × Host × Memory) (y : α × Host' × Memory') :
    Prop where
  answer : x.1 = y.1
  host : host x.2.1 y.2.1
  memory : memory x.2.2 y.2.2

/-- Foreign objects that correspond answer alike. -/
structure HostBehaviour.Alike {Host Memory Host' Memory' : Type} (host : Host → Host' → Prop)
    (memory : Memory → Memory' → Prop) (x : HostBehaviour Host Memory)
    (y : HostBehaviour Host' Memory') : Prop where
  has : ∀ {a b}, host a b → x.has a = y.has b
  get? : ∀ {a b}, host a b → x.get? a = y.get? b
  ownKeys : ∀ {a b}, host a b → x.ownKeys a = y.ownKeys b
  isCallable : ∀ {a b}, host a b → x.isCallable a = y.isCallable b
  put : ∀ {a b m n}, host a b → memory m n → ∀ key value,
    AnswerAlike host memory (x.put a key value m) (y.put b key value n)
  delete : ∀ {a b m n}, host a b → memory m n → ∀ key,
    AnswerAlike host memory (x.delete a key m) (y.delete b key n)
  call : ∀ {a b m n}, host a b → memory m n → ∀ this args,
    AnswerAlike host memory (x.call a this args m) (y.call b this args n)

/-- What corresponds to what on two platforms. -/
structure Likeness (P Q : Platform) where
  code : P.Code → Q.Code → Prop
  /-- Bodies that correspond if they are resumed in a frame. -/
  body : Frame → P.Body → Q.Body → Prop
  host : P.Host → Q.Host → Prop
  memory : P.Memory → Q.Memory → Prop
  /-- The keys that tables may have. -/
  key : PropertyKey → Prop
  /-- Settings for the order of keys that may go together. -/
  order : Bool → Bool → Prop
  hosts : P.hosts.Alike host memory Q.hosts
  /-- The library's own names are no indices, and no table is without them. -/
  key_text : ∀ text, PropertyKey.index? text = none → key (.string text)
  key_symbol : ∀ symbol, key (.symbol symbol)

variable {P Q : Platform}

/-- Two enumerations of the same keys, in the same order if only equal
settings go together. -/
structure Likeness.Keys (c : Likeness P Q) (keys keys' : List PropertyKey) : Prop where
  perm : keys.Perm keys'
  eq : (∀ first first', c.order first first' → first = first') → keys = keys'

/-- Keys that are listed alike are listed alike whatever the settings are. -/
theorem Likeness.Keys.refl (c : Likeness P Q) (keys : List PropertyKey) : c.Keys keys keys :=
  ⟨.refl keys, fun _ => rfl⟩

/-! ### Records and realms -/

/-- Intrinsic functions are the same, native codes correspond. -/
inductive FunctionCode.Alike (c : Likeness P Q) : FunctionCode P → FunctionCode Q → Prop where
  | intrinsic (f : IntrinsicFunction) : Alike c (.intrinsic f) (.intrinsic f)
  | native {code : P.Code} {code' : Q.Code} (h : c.code code code') :
      Alike c (.native code) (.native code')

structure FunctionData.Alike (c : Likeness P Q) (f : FunctionData P) (f' : FunctionData Q) :
    Prop where
  name : f.name = f'.name
  length : f.length = f'.length
  isConstructor : f.isConstructor = f'.isConstructor
  code : f.code.Alike c f'.code

/-- Generators that differ in their bodies only. A body corresponds to the
other one in the frame that is stored beside it. -/
structure Generator.Alike (c : Likeness P Q) (g : Generator P) (g' : Generator Q) : Prop where
  state : g.state = g'.state
  frame : g.frame = g'.frame
  delegate : g.delegate = g'.delegate
  lastLocation : g.lastLocation = g'.lastLocation
  body : Option.Rel (c.body g.frame) g.body g'.body

/-- What resumed bodies leave behind: the same frame and the same step, and
bodies that correspond in that frame. -/
structure Resumption.Alike (c : Likeness P Q) (x : Resumption P) (y : Resumption Q) : Prop where
  body : c.body x.frame x.body y.body
  frame : x.frame = y.frame
  step : x.step = y.step

inductive Kind.Alike (c : Likeness P Q) : Kind P → Kind Q → Prop where
  | ordinary : Alike c .ordinary .ordinary
  | function {f : FunctionData P} {f' : FunctionData Q} (h : f.Alike c f') :
      Alike c (.function f) (.function f')
  | generator {g : Generator P} {g' : Generator Q} (h : g.Alike c g') :
      Alike c (.generator g) (.generator g')
  | listIterator (cursor : ListCursor) : Alike c (.listIterator cursor) (.listIterator cursor)
  | error : Alike c .error .error
  | foreign {host : P.Host} {host' : Q.Host} (h : c.host host host') :
      Alike c (.foreign host) (.foreign host')

/-- Objects that differ in their kinds only, and there in what the embedders
brought. -/
structure ObjectRecord.Alike (c : Likeness P Q) (x : ObjectRecord P) (y : ObjectRecord Q) :
    Prop where
  kind : x.kind.Alike c y.kind
  slots : x.slots = y.slots
  keys : ∀ key, x.slots.contains key = true → c.key key
  prototype : x.prototype = y.prototype
  scope : x.scope = y.scope
  extensible : x.extensible = y.extensible

structure Config.Alike (c : Likeness P Q) (x y : Config) : Prop where
  strict : x.strict = y.strict
  maxIterations : x.maxIterations = y.maxIterations
  order : c.order x.enumerateIndicesFirst y.enumerateIndicesFirst

/-- Realms whose objects are alike, each with the one under the same
handle. -/
structure Realm.Alike (c : Likeness P Q) (r : Realm P) (s : Realm Q) : Prop where
  size : r.size = s.size
  record : ∀ h, (r.record h).Alike c (s.record h)
  config : r.config.Alike c s.config
  nextSymbol : r.nextSymbol = s.nextSymbol

structure Machine.Alike (c : Likeness P Q) (m : Machine P) (n : Machine Q) : Prop where
  realm : m.realm.Alike c n.realm
  memory : c.memory m.memory n.memory

variable {c : Likeness P Q}

/-! ### Reading -/

namespace Kind.Alike

variable {kind : Kind P} {kind' : Kind Q}

/-- Both are foreign or neither is, and the storages of foreign ones
correspond. -/
theorem host? (h : kind.Alike c kind') :
    kind.host? = none ∧ kind'.host? = none ∨
      ∃ host host', kind.host? = some host ∧ kind'.host? = some host' ∧ c.host host host' := by
  cases h with
  | foreign hhost => exact .inr ⟨_, _, rfl, rfl, hhost⟩
  | _ => exact .inl ⟨rfl, rfl⟩

/-- Both are generators or neither is, and generators that correspond are
alike. -/
theorem generator? (h : kind.Alike c kind') :
    kind.generator? = none ∧ kind'.generator? = none ∨
      ∃ g g', kind.generator? = some g ∧ kind'.generator? = some g' ∧ g.Alike c g' := by
  cases h with
  | generator hg => exact .inr ⟨_, _, rfl, rfl, hg⟩
  | _ => exact .inl ⟨rfl, rfl⟩

/-- Whether an object can be called is a matter of its kind, and of the
foreign object if it is one. -/
theorem isCallable (h : kind.Alike c kind') : kind.isCallable = kind'.isCallable := by
  cases h with
  | foreign hhost => exact c.hosts.isCallable hhost
  | _ => rfl

/-- Whether an object can be constructed with is stored with the function. -/
theorem isConstructor (h : kind.Alike c kind') :
    kind.constructor?.isSome = kind'.constructor?.isSome := by
  cases h with
  | function hf =>
      simp only [constructor?, hf.isConstructor]
      split <;> rfl
  | _ => rfl

end Kind.Alike

namespace ObjectRecord.Alike

variable {x : ObjectRecord P} {y : ObjectRecord Q}

/-- Alike objects have one table, so they have the same slots. -/
theorem slot? (h : x.Alike c y) (key : PropertyKey) : x.slot? key = y.slot? key := by
  rw [ObjectRecord.slot?, ObjectRecord.slot?, h.slots]

/-- Alike objects read alike. What is in a foreign storage is answered by the
storage, and storages that correspond answer alike. -/
theorem reading? (h : x.Alike c y) (key : PropertyKey) : x.reading? key = y.reading? key := by
  rw [ObjectRecord.reading?, ObjectRecord.reading?]
  obtain ⟨hnone, hnone'⟩ | ⟨host, host', hsome, hsome', hhost⟩ := h.kind.host?
  · simp only [hnone, hnone', h.slot?]
  · simp only [hsome, hsome', c.hosts.has hhost, c.hosts.get? hhost]

/-- A key under which something is read is one that tables may have. So a slot
that is there may be replaced by another one under the same key. -/
theorem key_of_slot? (h : x.Alike c y) {key : PropertyKey} {slot : Slot}
    (hslot : x.slot? key = some slot) : c.key key := by
  refine h.keys key ?_
  rw [ObjectRecord.slot?] at hslot
  rw [OrderedMap.contains_eq_isSome, hslot]
  rfl

end ObjectRecord.Alike

namespace ObjectRecord

/-- Which object a table belongs to does not show in the list of its keys. -/
theorem orderedKeys_congr {x : ObjectRecord P} {y : ObjectRecord Q} (h : x.slots = y.slots)
    (hidden symbols first : Bool) :
    x.orderedKeys hidden symbols first = y.orderedKeys hidden symbols first := by
  rw [orderedKeys, orderedKeys, h]

end ObjectRecord

namespace Realm.Alike

variable {r : Realm P} {s : Realm Q}

/-- The objects that are gone through in a lookup are the same, by induction
on how far it may go: prototypes are stored outside the kinds. -/
theorem chainUpTo (h : r.Alike c s) (n : Nat) (start : Handle) :
    r.chainUpTo n start = s.chainUpTo n start := by
  induction n generalizing start with
  | zero => rfl
  | succ n ih =>
      -- One link is looked at, and what lies behind it is the induction hypothesis.
      rw [Realm.chainUpTo, Realm.chainUpTo, (h.record start).prototype]
      cases (s.record start).prototype with
      | none => rfl
      | some p => simp only [ih p]

/-- Alike realms are of one size, so lookups go equally far. -/
theorem chain (h : r.Alike c s) (start : Handle) : r.chain start = s.chain start := by
  rw [Realm.chain, Realm.chain, h.size, h.chainUpTo]

/-- Having a property is having a slot, or a storage that says so. Alike
objects have one table, and their storages agree on it. -/
theorem hasOwn (h : r.Alike c s) (handle : Handle) : r.hasOwn handle = s.hasOwn handle := by
  funext key
  have hrecord := h.record handle
  rw [Realm.hasOwn, Realm.hasOwn]
  -- A foreign object is asked through its storage, any other one has a table.
  obtain ⟨hnone, hnone'⟩ | ⟨host, host', hsome, hsome', hhost⟩ := hrecord.kind.host?
  · simp only [hnone, hnone', hrecord.slots]
  · simp only [hsome, hsome', c.hosts.has hhost]

/-- The first object on the chain that has the property is the same on both
sides. -/
theorem owner? (h : r.Alike c s) (start : Handle) (key : PropertyKey) :
    r.owner? start key = s.owner? start key := by
  simp only [Realm.owner?, Realm.ownerUpTo?_eq_find?, h.size, h.chainUpTo, h.hasOwn]

/-- An object has a property if one on its chain does. -/
theorem has (h : r.Alike c s) (start : Handle) (key : PropertyKey) :
    r.has start key = s.has start key := by
  simp only [Realm.has, Realm.hasUpTo_eq_any, h.size, h.chainUpTo, h.hasOwn]

/-- What a lookup finds is what the first object on the chain has to read. -/
theorem readingUpTo? (h : r.Alike c s) (key : PropertyKey) (n : Nat) (start : Handle) :
    r.readingUpTo? key n start = s.readingUpTo? key n start := by
  simp only [Realm.readingUpTo?_eq_findSome?, h.chainUpTo, (h.record _).reading?]

/-- A value is callable if it is an object that is. -/
theorem isCallable (h : r.Alike c s) (value : Value) : r.isCallable value = s.isCallable value := by
  cases value with
  | object handle => exact (h.record handle).kind.isCallable
  | _ => rfl

/-- A value is a constructor if it is an object that is. -/
theorem isConstructor (h : r.Alike c s) (value : Value) :
    r.isConstructor value = s.isConstructor value := by
  cases value with
  | object handle => exact (h.record handle).kind.isConstructor
  | _ => rfl

/-- The type of a value depends on whether it can be called, and on the value
otherwise. -/
theorem typeName (h : r.Alike c s) (value : Value) : r.typeName value = s.typeName value := by
  rw [Realm.typeName, Realm.typeName, h.isCallable]

/-- The own keys are the same, and in the same order if the settings are.
Storages list their keys by themselves, so the settings have no part in
those. -/
theorem ownKeys (h : r.Alike c s) (handle : Handle) (hidden symbols : Bool) :
    c.Keys (r.ownKeys handle hidden symbols) (s.ownKeys handle hidden symbols) := by
  have hrecord := h.record handle
  rw [Realm.ownKeys, Realm.ownKeys]
  obtain ⟨hnone, hnone'⟩ | ⟨host, host', hsome, hsome', hhost⟩ := hrecord.kind.host?
  · simp only [hnone, hnone', ObjectRecord.orderedKeys_congr hrecord.slots]
    -- Tables are equal, so only the setting can make a difference, and only in the order.
    refine ⟨ObjectRecord.orderedKeys_perm _ _ _ _ _, fun hsame => ?_⟩
    rw [hsame _ _ h.config.order]
  · simp only [hsome, hsome', c.hosts.ownKeys hhost]
    exact .refl c _

/-- Whether an object is sealed or frozen is asked of all keys, and the order
in which it is asked does not matter. So alike realms agree even if they list
keys differently. -/
theorem test (h : r.Alike c s) (handle : Handle) (level : Integrity) :
    level.test r handle = level.test s handle := by
  have hrecord := h.record handle
  have hadmits : (fun key => ((r.record handle).slot? key).any level.admits)
      = fun key => ((s.record handle).slot? key).any level.admits := by
    funext key
    rw [hrecord.slot?]
  rw [Integrity.test, Integrity.test, hrecord.extensible, hadmits]
  -- All keys are asked, and a permutation of them is asked the same.
  exact congrArg _ (h.ownKeys handle true true).perm.all_eq

end Realm.Alike

/-! ### Changing -/

namespace ObjectRecord.Alike

variable {x : ObjectRecord P} {y : ObjectRecord Q}

/-- New objects are alike if their kinds are. They have no slots, so nothing
is asked of their keys. -/
theorem create {kind : Kind P} {kind' : Kind Q} (hkind : kind.Alike c kind')
    (prototype : Option Handle) :
    (ObjectRecord.create kind prototype).Alike c (ObjectRecord.create kind' prototype) where
  kind := hkind
  slots := rfl
  keys key hkey := by cases hkey
  prototype := rfl
  scope := rfl
  extensible := rfl

/-- Alike objects stay alike when one slot is written to both. The key has to
be one that tables may have. -/
theorem insert (h : x.Alike c y) {key : PropertyKey} (hkey : c.key key) (slot : Slot) :
    (x.insert key slot).Alike c (y.insert key slot) where
  kind := h.kind
  slots := congrArg (OrderedMap.insert · key slot) h.slots
  keys key' hkey' := by
    rw [ObjectRecord.insert, OrderedMap.contains_eq_isSome, OrderedMap.get?_insert] at hkey'
    -- A key of the new table is the one written, or it was there before.
    split at hkey'
    · rename_i heq
      rw [heq]
      exact hkey
    · rw [← OrderedMap.contains_eq_isSome] at hkey'
      exact h.keys key' hkey'
  prototype := h.prototype
  scope := h.scope
  extensible := h.extensible

/-- Alike objects stay alike when one slot is removed from both. A key that is
left was there before. -/
theorem erase (h : x.Alike c y) (key : PropertyKey) : (x.erase key).Alike c (y.erase key) where
  kind := h.kind
  slots := congrArg (OrderedMap.erase · key) h.slots
  keys key' hkey' := by
    rw [ObjectRecord.erase, OrderedMap.contains_eq_isSome, OrderedMap.get?_erase] at hkey'
    split at hkey'
    · cases hkey'
    · rw [← OrderedMap.contains_eq_isSome] at hkey'
      exact h.keys key' hkey'
  prototype := h.prototype
  scope := h.scope
  extensible := h.extensible

end ObjectRecord.Alike

namespace Realm.Alike

variable {r : Realm P} {s : Realm Q}

/-- Changing an object alike on both sides. The other objects are not touched,
and a handle that refers to none is out of range on both sides. -/
theorem update (h : r.Alike c s) (handle : Handle) {f : ObjectRecord P → ObjectRecord P}
    {g : ObjectRecord Q → ObjectRecord Q}
    (hfg : (f (r.record handle)).Alike c (g (s.record handle))) :
    (r.update handle f).Alike c (s.update handle g) where
  size := by rw [size_update, size_update, h.size]
  record handle' := by
    rw [record_update, record_update, h.size]
    -- The condition is about the handle and the size, which are those of the other side.
    split
    · exact hfg
    · exact h.record handle'
  config := h.config
  nextSymbol := h.nextSymbol

/-- Adding alike objects gives the same handle on both sides, since realms
that are alike have the same number of objects. -/
theorem allocate (h : r.Alike c s) {x : ObjectRecord P} {y : ObjectRecord Q}
    (hxy : x.Alike c y) :
    (r.allocate x).1 = (s.allocate y).1 ∧ (r.allocate x).2.Alike c (s.allocate y).2 := by
  refine ⟨congrArg Handle.mk h.size, ?_, fun handle => ?_, h.config, h.nextSymbol⟩
  · rw [size_allocate, size_allocate, h.size]
  · rw [record_allocate, record_allocate, h.size]
    -- The new handle is the old size, so it is new on both sides.
    split
    · exact hxy
    · exact h.record handle

/-- Symbols are numbered, and alike realms have come to the same number. -/
theorem newSymbol (h : r.Alike c s) (description : Option String) :
    (r.newSymbol description).1 = (s.newSymbol description).1 ∧
      (r.newSymbol description).2.Alike c (s.newSymbol description).2 := by
  refine ⟨?_, h.size, h.record, h.config, congrArg (· + 1) h.nextSymbol⟩
  rw [Realm.newSymbol, Realm.newSymbol, h.nextSymbol]

/-- Writing the same slot under a key of the correspondence, as a change of
the realm. All other objects keep their counterparts. -/
theorem insertSlot (h : r.Alike c s) (handle : Handle) {key : PropertyKey} (hkey : c.key key)
    (slot : Slot) : (r.insertSlot handle key slot).Alike c (s.insertSlot handle key slot) :=
  h.update handle ((h.record handle).insert hkey slot)

/-- Removing a slot from both objects, as a change of the realm. -/
theorem removeSlot (h : r.Alike c s) (handle : Handle) (key : PropertyKey) :
    (r.update handle (·.erase key)).Alike c (s.update handle (·.erase key)) :=
  h.update handle ((h.record handle).erase key)

/-- Replacing a kind by another one on each side. This is how generators,
cursors and storages are moved on. -/
theorem setKind (h : r.Alike c s) (handle : Handle) {kind : Kind P} {kind' : Kind Q}
    (hkind : kind.Alike c kind') : (r.setKind handle kind).Alike c (s.setKind handle kind') :=
  h.update handle { h.record handle with kind := hkind }

/-- A scope is a handle, and it is the same on both sides. -/
theorem setScope (h : r.Alike c s) (handle : Handle) (scope : Option Handle) :
    (r.setScope handle scope).Alike c (s.setScope handle scope) :=
  h.update handle { h.record handle with scope := rfl }

/-- A prototype is refused for reasons that both sides share: it is there
already, the object is not extensible, or the object would come to inherit
from itself. -/
theorem setPrototype (h : r.Alike c s) (handle : Handle) (prototype : Option Handle) :
    (r.setPrototype handle prototype).1 = (s.setPrototype handle prototype).1 ∧
      (r.setPrototype handle prototype).2.Alike c (s.setPrototype handle prototype).2 := by
  have hchain : r.chain = s.chain := funext h.chain
  rw [Realm.setPrototype, Realm.setPrototype, (h.record handle).prototype,
    (h.record handle).extensible, hchain]
  split
  · exact ⟨rfl, h⟩
  · split
    · exact ⟨rfl, h⟩
    · split
      · exact ⟨rfl, h⟩
      · exact ⟨rfl, h.update handle { h.record handle with prototype := rfl }⟩

/-- Asking for extensibility comes out the same on both sides, and so does
ending it. -/
theorem setExtensible (h : r.Alike c s) (handle : Handle) (extensible : Bool) :
    (r.setExtensible handle extensible).1 = (s.setExtensible handle extensible).1 ∧
      (r.setExtensible handle extensible).2.Alike c (s.setExtensible handle extensible).2 := by
  have hrecord := h.record handle
  simp only [Realm.setExtensible, ObjectRecord.setExtensible, hrecord.extensible]
  split
  · exact ⟨rfl, h.update handle hrecord⟩
  · exact ⟨rfl, h.update handle { hrecord with extensible := rfl }⟩

/-- Ending extensibility changes nothing else of an object. -/
theorem preventExtensions (h : r.Alike c s) (handle : Handle) :
    (r.preventExtensions handle).Alike c (s.preventExtensions handle) :=
  h.update handle { h.record handle with extensible := rfl }

end Realm.Alike

end ScriptRealm
