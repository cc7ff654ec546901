import ScriptRealm.Proofs.Likeness.Basic

/-!
# `ScriptRealm.Proofs.Likeness.Translation`: requests on another platform

A `Translation` carries requests from one platform to another: it says what
becomes of the codes, the bodies and the foreign objects that a request
brings. One that goes the other way can undo what a likeness relates, and
then the objects of the first realm are read off those of the second
(`Realm.Alike.objects_eq`).

On one platform everything can be asked to be the same (`Likeness.same`).
The translation is the identity then, and objects that are alike are equal
(`ObjectRecord.Alike.eq`).
-/

set_option autoImplicit false

namespace ScriptRealm

variable {P Q : Platform} {c : Likeness P Q}

/-- A way from one platform to another: what becomes of codes, of foreign
objects, and of bodies that are to start in a frame. -/
structure Translation (P Q : Platform) where
  code : P.Code → Q.Code
  body : Frame → P.Body → Q.Body
  host : P.Host → Q.Host

/-- Nothing becomes of anything. -/
def Translation.id (P : Platform) : Translation P P :=
  { code := fun code => code
    body := fun _ body => body
    host := fun host => host }

/-- What a translation gives corresponds to what it was given. -/
structure Translation.Respects (t : Translation P Q) (c : Likeness P Q) : Prop where
  code : ∀ code, c.code code (t.code code)
  body : ∀ frame body, c.body frame body (t.body frame body)
  host : ∀ host, c.host host (t.host host)

/-- Of two things that correspond, the translation makes the first of the
second. -/
structure Translation.Undoes (t : Translation Q P) (c : Likeness P Q) : Prop where
  code : ∀ {code code'}, c.code code code' → t.code code' = code
  body : ∀ {frame body body'}, c.body frame body body' → t.body frame body' = body
  host : ∀ {host host'}, c.host host host' → t.host host' = host

/-! ### Objects on another platform -/

def FunctionCode.translate (t : Translation P Q) : FunctionCode P → FunctionCode Q
  | .intrinsic f => .intrinsic f
  | .native code => .native (t.code code)

def FunctionData.translate (t : Translation P Q) (f : FunctionData P) : FunctionData Q where
  name := f.name
  length := f.length
  code := f.code.translate t
  isConstructor := f.isConstructor

/-- The body is taken as one that is to start in the frame beside it. -/
def Generator.translate (t : Translation P Q) (g : Generator P) : Generator Q where
  state := g.state
  frame := g.frame
  body := g.body.map (t.body g.frame)
  delegate := g.delegate
  lastLocation := g.lastLocation

def Kind.translate (t : Translation P Q) : Kind P → Kind Q
  | .ordinary => .ordinary
  | .function f => .function (f.translate t)
  | .generator g => .generator (g.translate t)
  | .listIterator cursor => .listIterator cursor
  | .error => .error
  | .foreign host => .foreign (t.host host)

/-- The same object on another platform. -/
def ObjectRecord.translate (t : Translation P Q) (x : ObjectRecord P) : ObjectRecord Q where
  kind := x.kind.translate t
  slots := x.slots
  prototype := x.prototype
  scope := x.scope
  extensible := x.extensible

section Undoing

variable {back : Translation Q P} (hback : back.Undoes c)
include hback

/-- A function is its counterpart translated back. The code is what had to be
translated; name, length and the flag are shared. -/
theorem FunctionData.Alike.translate_eq {f : FunctionData P} {f' : FunctionData Q}
    (h : f.Alike c f') : f'.translate back = f := by
  have hcode : f'.code.translate back = f.code := by
    have halike := h.code
    -- The codes are taken out of the functions, so that they can be told apart by cases.
    generalize f.code = code at halike ⊢
    generalize f'.code = code' at halike ⊢
    cases halike with
    | intrinsic i => rfl
    | native hcode => rw [FunctionCode.translate, hback.code hcode]
  rw [FunctionData.translate, hcode, ← h.name, ← h.length, ← h.isConstructor]

/-- A generator is its counterpart translated back. The body is translated as
one that is to start in the stored frame, and that is the frame in which the
bodies correspond. -/
theorem Generator.Alike.translate_eq {g : Generator P} {g' : Generator Q}
    (h : g.Alike c g') : g'.translate back = g := by
  have hbody : g'.body.map (back.body g.frame) = g.body := by
    have halike := h.body
    -- The two fields are replaced together, as the relation is one between them.
    generalize g.body = body at halike ⊢
    generalize g'.body = body' at halike ⊢
    cases halike with
    | none => rfl
    | some hbody => rw [Option.map_some, hback.body hbody]
  rw [Generator.translate, ← h.frame, hbody, ← h.state, ← h.delegate, ← h.lastLocation]

/-- What an embedder brought is in functions, generators and foreign objects,
and all the other kinds are the same on both platforms. -/
theorem Kind.Alike.translate_eq {kind : Kind P} {kind' : Kind Q} (h : kind.Alike c kind') :
    kind'.translate back = kind := by
  cases h with
  | ordinary => rfl
  | function hf => rw [Kind.translate, hf.translate_eq hback]
  | generator hg => rw [Kind.translate, hg.translate_eq hback]
  | listIterator cursor => rfl
  | error => rfl
  | foreign hhost => rw [Kind.translate, hback.host hhost]

/-- An object is its counterpart translated back. -/
theorem ObjectRecord.Alike.translate_eq {x : ObjectRecord P} {y : ObjectRecord Q}
    (h : x.Alike c y) : y.translate back = x := by
  rw [ObjectRecord.translate, h.kind.translate_eq hback, ← h.slots, ← h.prototype, ← h.scope,
    ← h.extensible]

/-- The objects of the first realm are found in the second. So a realm can be
told from one that is alike it, as far as a translation leads back. -/
theorem Realm.Alike.objects_eq {r : Realm P} {s : Realm Q} (h : r.Alike c s) :
    s.objects.map (·.translate back) = r.objects := by
  have hsize : s.objects.size = r.objects.size := h.size.symm
  refine Array.ext (by rw [Array.size_map, hsize]) fun i hi hi' => ?_
  have hi'' : i < s.objects.size := by omega
  have hrecord := (h.record ⟨i⟩).translate_eq hback
  -- Both handles are in range, so what is read under them are the objects of the arrays.
  rw [Realm.record, Realm.record, Array.getD_eq_getD_getElem?, Array.getD_eq_getD_getElem?,
    Array.getElem?_eq_getElem hi', Array.getElem?_eq_getElem hi''] at hrecord
  rw [Array.getElem_map]
  exact hrecord

end Undoing

/-! ### One platform

On one platform everything an embedder brings can be asked to be the same.
Then objects that are alike are the same, and all that is left of the
likeness is what it says about keys and their order. -/

/-- Everything is the same. -/
def Likeness.same (P : Platform) (key : PropertyKey → Prop) (order : Bool → Bool → Prop)
    (hkey_text : ∀ text, PropertyKey.index? text = none → key (.string text))
    (hkey_symbol : ∀ symbol, key (.symbol symbol)) : Likeness P P where
  code := Eq
  body _ := Eq
  host := Eq
  memory := Eq
  key := key
  order := order
  key_text := hkey_text
  key_symbol := hkey_symbol
  hosts :=
    { has := by rintro a b rfl; rfl
      get? := by rintro a b rfl; rfl
      ownKeys := by rintro a b rfl; rfl
      isCallable := by rintro a b rfl; rfl
      put := by rintro a b m n rfl rfl key value; exact ⟨rfl, rfl, rfl⟩
      delete := by rintro a b m n rfl rfl key; exact ⟨rfl, rfl, rfl⟩
      call := by rintro a b m n rfl rfl this args; exact ⟨rfl, rfl, rfl⟩ }

/-- Everything is the same, all keys may be used, and keys come in the same
order. -/
abbrev Likeness.equal (P : Platform) : Likeness P P :=
  .same P (fun _ => True) Eq (fun _ _ => trivial) fun _ => trivial

section Same

variable {key : PropertyKey → Prop} {order : Bool → Bool → Prop}
  {hkey_text : ∀ text, PropertyKey.index? text = none → key (.string text)}
  {hkey_symbol : ∀ symbol, key (.symbol symbol)}

/-- Where everything is the same there is nothing to undo. -/
theorem Translation.id_undoes :
    (Translation.id P).Undoes (.same P key order hkey_text hkey_symbol) :=
  ⟨Eq.symm, Eq.symm, Eq.symm⟩

/-- Where everything is the same, a kind is alike itself. Code, bodies and
storages correspond to themselves, and the rest is copied. -/
theorem Kind.Alike.refl (kind : Kind P) :
    kind.Alike (.same P key order hkey_text hkey_symbol) kind := by
  cases kind with
  | ordinary => exact .ordinary
  | function f =>
      refine .function ⟨rfl, rfl, rfl, ?_⟩
      -- A function is one of the library's or the embedder's.
      cases f.code with
      | intrinsic i => exact .intrinsic i
      | native code => exact .native rfl
  | generator g =>
      refine .generator ⟨rfl, rfl, rfl, rfl, ?_⟩
      cases g.body with
      | none => exact .none
      | some body => exact .some rfl
  | listIterator cursor => exact .listIterator cursor
  | error => exact .error
  | foreign host => exact .foreign rfl

/-- An object is alike itself if its keys are such as tables may have. This is
the one thing that a likeness on one platform still asks of objects. -/
theorem ObjectRecord.Alike.refl {x : ObjectRecord P}
    (hkeys : ∀ k, x.slots.contains k = true → key k) :
    x.Alike (.same P key order hkey_text hkey_symbol) x :=
  ⟨.refl x.kind, rfl, hkeys, rfl, rfl, rfl⟩

/-- The translation that changes nothing changes no object. -/
theorem ObjectRecord.translate_id (x : ObjectRecord P) : x.translate (.id P) = x := by
  -- An object is alike itself, so that translating it back gives the object.
  have halike : x.Alike (.equal P) x := .refl fun _ _ => trivial
  exact halike.translate_eq Translation.id_undoes

/-- Objects that are alike are equal where everything is the same. The second
translated back is the first, and translating back changes nothing. -/
theorem ObjectRecord.Alike.eq {x y : ObjectRecord P}
    (h : x.Alike (.same P key order hkey_text hkey_symbol) y) : x = y := by
  rw [← h.translate_eq Translation.id_undoes, y.translate_id]

/-- Generators that are alike are equal where everything is the same. The body
is the only field that was not asked to be equal. -/
theorem Generator.Alike.eq {g g' : Generator P}
    (h : g.Alike (.same P key order hkey_text hkey_symbol) g') : g = g' := by
  obtain ⟨state, body, frame, lastLocation, delegate⟩ := g
  obtain ⟨state', body', frame', lastLocation', delegate'⟩ := g'
  obtain ⟨rfl, rfl, rfl, rfl, hbody⟩ := h
  -- All fields but the body are the same by now.
  cases hbody with
  | some heq => rw [show _ = _ from heq]
  | none => rfl

/-- Realms that are alike have the same objects where everything is the same.
They may differ in their configurations still. -/
theorem Realm.Alike.same_objects {r s : Realm P}
    (h : r.Alike (.same P key order hkey_text hkey_symbol) s) : r.objects = s.objects := by
  rw [← h.objects_eq Translation.id_undoes]
  simp only [ObjectRecord.translate_id, Array.map_id']

/-- A realm is alike itself, if all keys may be used and keys come in the same
order. -/
theorem Realm.Alike.refl (r : Realm P) : r.Alike (.equal P) r :=
  ⟨rfl, fun _ => .refl fun _ _ => trivial, ⟨rfl, rfl, rfl⟩, rfl⟩

/-- What is left as it is corresponds to itself where everything is the
same. -/
theorem Translation.id_respects :
    (Translation.id P).Respects (.same P key order hkey_text hkey_symbol) :=
  ⟨fun _ => rfl, fun _ _ => rfl, fun _ => rfl⟩

end Same

/-! ### Requests -/

namespace Request

/-- The same request on another platform. -/
def translate (t : Translation P Q) : Request P → Request Q
  | .createObject => .createObject
  | .createWith prototype => .createWith prototype
  | .createArray values => .createArray values
  | .createFunction name length code => .createFunction name length (t.code code)
  | .createConstructor name length code => .createConstructor name length (t.code code)
  | .defineMethod h key name length code => .defineMethod h key name length (t.code code)
  | .defineBuiltin h key value => .defineBuiltin h key value
  | .createForeign host => .createForeign (t.host host)
  | .createError name message => .createError name message
  | .createIterResult value done => .createIterResult value done
  | .createListIterator target => .createListIterator target
  | .createGenerator body frame => .createGenerator (t.body frame body) frame
  | .newSymbol description => .newSymbol description
  | .get h key => .get h key
  | .get? h key => .get? h key
  | .getFor? h key receiver => .getFor? h key receiver
  | .getMethod? value key => .getMethod? value key
  | .has h key => .has h key
  | .hasOwn h key => .hasOwn h key
  | .owns h key => .owns h key
  | .ownKeys h hidden symbols => .ownKeys h hidden symbols
  | .describe? h key => .describe? h key
  | .testIntegrity h level => .testIntegrity h level
  | .inspect h => .inspect h
  | .isCallable value => .isCallable value
  | .isConstructor value => .isConstructor value
  | .typeName value => .typeName value
  | .put h key value => .put h key value
  | .assign h key value strict => .assign h key value strict
  | .delete h key => .delete h key
  | .deleteOrFail h key => .deleteOrFail h key
  | .define h key d => .define h key d
  | .defineOrFail h key d => .defineOrFail h key d
  | .createData h key value => .createData h key value
  | .createDataOrFail h key value => .createDataOrFail h key value
  | .setIntegrity h level => .setIntegrity h level
  | .setPrototype h prototype => .setPrototype h prototype
  | .setScope h scope => .setScope h scope
  | .preventExtensions h => .preventExtensions h
  | .setExtensible h extensible => .setExtensible h extensible
  | .insertSlot h key slot => .insertSlot h key slot
  | .removeSlot h key => .removeSlot h key
  | .applyDescriptor h key extensible d current => .applyDescriptor h key extensible d current
  | .call f this args => .call f this args
  | .construct constructor args => .construct constructor args
  | .species h default => .species h default
  | .faultToValue fault => .faultToValue fault
  | .arrayLength h => .arrayLength h
  | .arrayElements value admits => .arrayElements value admits
  | .descriptorOfObject value => .descriptorOfObject value
  | .descriptorToObject d => .descriptorToObject d
  | .iterator iterable => .iterator iterable
  | .iteratorNext record value => .iteratorNext record value
  | .resultIsDone result => .resultIsDone result
  | .resultValue result => .resultValue result
  | .iteratorStep record => .iteratorStep record
  | .iteratorStepValue record => .iteratorStepValue record
  | .iteratorToList record => .iteratorToList record
  | .iteratorClose record completion => .iteratorClose record completion
  | .resumeGenerator h completion => .resumeGenerator h completion
  | .generatorState h => .generatorState h
  | .groupBy items callback coercion => .groupBy items callback coercion
  | .groupsToObject groups => .groupsToObject groups

/-- Replies that correspond. Only an object that is looked into, and the
keys of one, can differ. -/
def Replies (c : Likeness P Q) (t : Translation P Q) (request : Request P)
    (reply : request.Reply) (reply' : (request.translate t).Reply) : Prop := by
  cases request with
  | inspect h => exact ObjectRecord.Alike c reply reply'
  | ownKeys h hidden symbols => exact c.Keys reply reply'
  | _ => exact reply = reply'

/-- Replies that are the same, except that keys may be listed in another
order. -/
def SameReplies (c : Likeness P P) (request : Request P) (reply reply' : request.Reply) :
    Prop := by
  cases request with
  | ownKeys h hidden symbols => exact c.Keys reply reply'
  | _ => exact reply = reply'

/-- What a reply to the translation is as a reply to the request. Only an
object that is looked into has to be translated back. -/
def untranslate (t : Translation P Q) (back : Translation Q P) (request : Request P) :
    (request.translate t).Reply → request.Reply := by
  cases request with
  | inspect h => exact ObjectRecord.translate back
  | _ => exact fun reply => reply

/-- The keys under which a request may write are among the given ones. Keys
that the library makes up itself are not counted. -/
def KeysIn (key : PropertyKey → Prop) : Request P → Prop
  | .put _ k _ | .insertSlot _ k _ | .applyDescriptor _ k _ _ _ | .defineBuiltin _ k _
  | .defineMethod _ k _ _ _ => key k
  | .assign _ k _ _ | .define _ k _ | .defineOrFail _ k _ | .createData _ k _
  | .createDataOrFail _ k _ => key k.canonical
  | .createArray values => ∀ i < values.length, key (.index i)
  | .groupsToObject groups => ∀ group ∈ groups.entries,
      key group.1.toPropertyKey ∧ ∀ i < group.2.length, key (.index i)
  | _ => True

/-- A request that keeps to some keys keeps to more of them. Arrays and groups
write under indices, one for each element. -/
theorem KeysIn.mono {key key' : PropertyKey → Prop} (hkey : ∀ k, key k → key' k)
    {request : Request P} (h : request.KeysIn key) : request.KeysIn key' := by
  cases request with
  | put | insertSlot | applyDescriptor | defineBuiltin | defineMethod => exact hkey _ h
  | assign | define | defineOrFail | createData | createDataOrFail => exact hkey _ h
  | createArray values => exact fun i hi => hkey _ (h i hi)
  | groupsToObject groups =>
      -- The name of a group and the places in it are keys of two objects.
      intro group hgroup
      obtain ⟨hname, hindices⟩ := h group hgroup
      exact ⟨hkey _ hname, fun i hi => hkey _ (hindices i hi)⟩
  | _ => trivial

/-- Where all keys are admitted, every request is. -/
theorem keysIn_of_forall {key : PropertyKey → Prop} (hkey : ∀ k, key k) (request : Request P) :
    request.KeysIn key := by
  cases request <;> simp [KeysIn, hkey]

end Request

end ScriptRealm
