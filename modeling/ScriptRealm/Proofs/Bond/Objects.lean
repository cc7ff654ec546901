import ScriptRealm.Proofs.Bond.Basic

/-!
# `ScriptRealm.Proofs.Bond.Objects`: operations on objects, side by side

The walk over the operations begins here, with what the library does to
single objects. There is one lemma for each function on realms that makes or
changes an object (`Bond.Lawful.createArray` and so on), one for each
operation that runs no code (`Object.define_carried`), and one for each that
does (`Object.assign_related`).

What a lemma asks for is what the operation asks for: data that are within
reach, and keys under which tables may be written to. That the object admits
what is written to it is not asked for, it is found in the operation's own
checks.
-/

set_option autoImplicit false

namespace ScriptRealm

open Refers (Below)

variable {P Q : Platform} [P.Told] {B : Bond P Q} {n : Nat} {m : Machine P} {m' : Machine Q}

namespace Bond

/-! ### Making objects -/

/-- Objects that are alike, and refer to the first `n`. -/
structure Pair (B : Bond P Q) (n : Nat) (x : ObjectRecord P) (y : ObjectRecord Q) : Prop where
  alike : x.Alike B.likeness y
  within : B.Within n x

/-- Objects without properties are alike if their kinds are, with one
prototype on both sides. -/
theorem Pair.create {kind : Kind P} {kind' : Kind Q} {prototype : Option Handle}
    (hkind : kind.Alike B.likeness kind') (hwithin : B.Within n kind)
    (hprototype : B.Within n prototype) :
    B.Pair n (.create kind prototype) (.create kind' prototype) :=
  ⟨.create hkind prototype, fun ht => ObjectRecord.below_create (hwithin ht) (hprototype ht)⟩

/-- Objects that are alike may get one more property. Objects are put together
like this before they are added to a realm, so no realm is asked whether it
admits the property. -/
theorem Pair.insert {x : ObjectRecord P} {y : ObjectRecord Q} (h : B.Pair n x y)
    {key : PropertyKey} (hkey : B.likeness.key key) {slot : Slot} (hslot : B.Within n slot) :
    B.Pair n (x.insert key slot) (y.insert key slot) :=
  ⟨h.alike.insert hkey slot, fun ht => ObjectRecord.below_insert (h.within ht) key (hslot ht)⟩

/-- A property under one of the library's own names. None of these names is
the text of an index, so every bond lets them be written under. -/
theorem Pair.insert_name {x : ObjectRecord P} {y : ObjectRecord Q} (h : B.Pair n x y)
    {name : String} (hname : PropertyKey.index? name = none) {slot : Slot}
    (hslot : B.Within n slot) :
    B.Pair n (x.insert (.string name) slot) (y.insert (.string name) slot) :=
  h.insert (B.likeness.key_text name hname) hslot

namespace Lawful

variable (hB : B.Lawful)
include hB

/-- An object that was put together on both sides is added to both realms. -/
theorem add (hm : B.machine n m m') {x : ObjectRecord P} {y : ObjectRecord Q}
    (hnew : x.kind.IsNew) (hxy : B.Pair n x y) :
    B.Gives n m m' (m.realm.allocate x) (m'.realm.allocate y) :=
  hB.allocate hm hnew hxy.alike hxy.within

/-- A bare object with a prototype that every realm has. Its handle is among
the first, which is what `hle` says. -/
theorem bare (hm : B.machine n m m') {kind : Kind P} {kind' : Kind Q}
    (hkind : kind.Alike B.likeness kind') (hwithin : B.Within n kind) (prototype : Handle)
    (hle : prototype.index ≤ Intrinsic.arrayPrototype.index) :
    B.Pair n (.create kind (some prototype)) (.create kind' (some prototype)) :=
  .create hkind hwithin (hB.intrinsic hm hle)

/-- A new ordinary object with a given prototype, which must be within reach
where reach is traced. -/
theorem createWith (hm : B.machine n m m') (prototype : Option Handle)
    (hprototype : B.Within n prototype) :
    B.Gives n m m' (m.realm.createWith prototype) (m'.realm.createWith prototype) :=
  hB.add hm trivial (.create .ordinary (fun _ => trivial) hprototype)

/-- A new ordinary object with the prototype that all realms give such
objects. -/
theorem createObject (hm : B.machine n m m') :
    B.Gives n m m' m.realm.createObject m'.realm.createObject :=
  hB.createWith hm _ (hB.intrinsic hm (h := Intrinsic.objectPrototype) (by decide))

/-- A foreign object. The two sides store what the likeness takes for the
same. -/
theorem createForeign (hm : B.machine n m m') {host : P.Host} {host' : Q.Host}
    (hhost : B.likeness.host host host') (hwithin : B.Within n host) :
    B.Gives n m m' (m.realm.createForeign host) (m'.realm.createForeign host') :=
  hB.add hm trivial (hB.bare hm (.foreign hhost) hwithin _ (by decide))

/-- A function gets its name and its length as properties, which are the same
on both sides. -/
theorem createFunction (hm : B.machine n m m') {f : FunctionData P} {f' : FunctionData Q}
    (hf : f.Alike B.likeness f') (hwithin : B.Within n f) :
    B.Gives n m m' (m.realm.createFunction f) (m'.realm.createFunction f') := by
  unfold Realm.createFunction
  rw [hf.name, hf.length]
  have hbare := hB.bare hm (.function hf) hwithin Intrinsic.functionPrototype (by decide)
  refine hB.add hm trivial ((hbare.insert_name rfl ?_).insert_name rfl ?_)
  · exact fun _ => trivial
  · exact fun _ => trivial

/-- What an iterator answers with is an object with the value and a flag. -/
theorem createIterResult (hm : B.machine n m m') {value : Value} (hvalue : B.Within n value)
    (done : Bool) :
    B.Gives n m m' (m.realm.createIterResult value done)
      (m'.realm.createIterResult value done) := by
  have hbare := hB.bare hm .ordinary (fun _ => trivial) Intrinsic.objectPrototype (by decide)
  refine hB.add hm trivial ((hbare.insert_name rfl ?_).insert_name rfl ?_)
  · exact hvalue
  · exact fun _ => trivial

/-- An error object has a name and a message, which refer to nothing. -/
theorem createError (hm : B.machine n m m') (name message : String) :
    B.Gives n m m' (m.realm.createError name message) (m'.realm.createError name message) := by
  have hbare := hB.bare hm .error (fun _ => trivial) Intrinsic.objectPrototype (by decide)
  refine hB.add hm trivial ((hbare.insert_name rfl ?_).insert_name rfl ?_)
  · exact fun _ => trivial
  · exact fun _ => trivial

/-- A list iterator refers to its target by the cursor it is made with. -/
theorem createListIterator (hm : B.machine n m m') {target : Handle}
    (htarget : B.Within n target) :
    B.Gives n m m' (m.realm.createListIterator target) (m'.realm.createListIterator target) :=
  hB.add hm trivial (hB.bare hm (.listIterator ⟨target, 0, false⟩) (fun ht => htarget ht)
    _ (by decide))

/-- A new generator's body corresponds in the frame that it starts in. The
frame is the same on both sides, and the bodies need not be. -/
theorem createGenerator (hm : B.machine n m m') {body : P.Body} {body' : Q.Body} {frame : Frame}
    (hbody : B.likeness.body frame body body') (hwithin : B.Within n body)
    (hframe : B.Within n frame) :
    B.Gives n m m' (m.realm.createGenerator body frame) (m'.realm.createGenerator body' frame) := by
  have hnew : (Generator.create body frame).Alike B.likeness (.create body' frame) :=
    ⟨rfl, rfl, rfl, rfl, .some hbody⟩
  refine hB.add hm ⟨body, frame, rfl⟩ (hB.bare hm (.generator hnew) (fun ht => ?_) _ (by decide))
  exact ⟨hframe ht, hwithin ht, trivial⟩

/-- An array needs a key for each of its elements. Apart from these it has a
`length`, so the keys of its table are gone through in two parts, and so are
the slots. -/
theorem createArray (hm : B.machine n m m') {values : List Value}
    (hkeys : ∀ i < values.length, B.likeness.key (.index i)) (hvalues : B.Within n values) :
    B.Gives n m m' (m.realm.createArray values) (m'.realm.createArray values) := by
  refine hB.allocate hm trivial ⟨.ordinary, rfl, fun key hkey => ?_, rfl, rfl, rfl⟩ fun ht => ?_
  -- The keys under which an array has slots.
  · rw [OrderedMap.contains_iff, OrderedMap.keys, Realm.arraySlots, List.map_append,
      List.mem_append] at hkey
    obtain hindex | hlength := hkey
    · simp only [List.map_map, List.mem_map, Prod.exists] at hindex
      obtain ⟨value, i, hentry, rfl⟩ := hindex
      exact hkeys i (List.snd_lt_of_mem_zipIdx hentry)
    · simp only [List.map_cons, List.map_nil, List.mem_singleton] at hlength
      rw [hlength]
      exact B.likeness.key_text _ rfl
  -- What these slots hold: the elements, and a number.
  · have hslots : Below n (Realm.arraySlots values) := by
      intro entry hentry
      rcases List.mem_append.mp hentry with hentry | hentry
      · obtain ⟨⟨value, i⟩, hmem, rfl⟩ := List.mem_map.mp hentry
        exact ⟨trivial, hvalues ht value (List.fst_mem_of_mem_zipIdx hmem)⟩
      · rw [List.mem_singleton.mp hentry]
        exact ⟨trivial, trivial⟩
    exact ⟨trivial, hslots, hB.intrinsic hm (Nat.le_refl _) ht, trivial⟩

/-- A new symbol has the same number on both sides, and it refers to no
object. -/
theorem newSymbol (hm : B.machine n m m') (description : Option String) :
    B.Gives n m m' (m.realm.newSymbol description) (m'.realm.newSymbol description) := by
  obtain ⟨n', hle, hm'⟩ := hB.change hm (.symbol description)
  exact ⟨n', hle, hm', ((hB.alike hm).newSymbol description).1, fun _ => trivial⟩

/-! ### Several changes at once -/

/-- Writing a configurable slot to an open object leaves the object open, so
that another one can be written. This is how objects are filled once they are
in the realm. -/
theorem insertOpen (hm : B.machine n m m') {h : Handle} (hopen : (m.realm.record h).IsOpen)
    {key : PropertyKey} (hkey : B.likeness.key key) (slot : Slot) (hslot : B.Within n slot)
    (hconfigurable : slot.configurable = true) :
    (∃ n', n ≤ n' ∧ B.machine n' { m with realm := m.realm.insertSlot h key slot }
      { m' with realm := m'.realm.insertSlot h key slot }) ∧
    ((m.realm.insertSlot h key slot).record h).IsOpen := by
  refine ⟨hB.insertSlot hm hkey slot hslot (.inr (hopen.admits key slot)), ?_⟩
  rw [Realm.insertSlot, Realm.record_update]
  split
  · exact hopen.insert key hconfigurable
  · exact hopen

/-- The function and its prototype object are made one after the other, and
linked when both are there. Each of the two links is a property that its
object does not have yet. -/
theorem createConstructor (hm : B.machine n m m') {f : FunctionData P} {f' : FunctionData Q}
    (hf : f.Alike B.likeness f') (hwithin : B.Within n f) :
    B.Gives n m m' (m.realm.createConstructor f) (m'.realm.createConstructor f') := by
  obtain ⟨n₁, hle₁, hm₁, hfunction, hin₁⟩ := hB.createFunction hm hf hwithin
  obtain ⟨n₂, hle₂, hm₂, hobject, hin₂⟩ := hB.createObject hm₁
  let r := m.realm
  let r₁ := (r.createFunction f).2
  let r₂ := r₁.createObject.2
  have hsize : r.size < r₁.size := by
    rw [show r₁ = (r.allocate _).2 from rfl, Realm.size_allocate]
    exact Nat.lt_succ_self _
  -- The prototype object has just been made, so it is open.
  have hopen : (r₂.record ⟨r₁.size⟩).IsOpen := by
    rw [show r₂ = (r₁.allocate _).2 from rfl, Realm.record_allocate, if_pos rfl]
    exact ObjectRecord.isOpen_create _ _
  obtain ⟨⟨n₃, hle₃, hm₃⟩, -⟩ := hB.insertOpen hm₂ hopen (B.likeness.key_text "constructor" rfl)
    (.hidden (.object ⟨r.size⟩)) (hin₁.mono hle₂) rfl
  -- The function was left alone in the meantime, and has no such property yet.
  have hadmits : ((r₂.insertSlot ⟨r₁.size⟩ (.string "constructor")
      (.hidden (.object ⟨r.size⟩))).record ⟨r.size⟩).Admits (.string "prototype")
      ⟨.data (.object ⟨r₁.size⟩) true, false, false⟩ := by
    have hne : (⟨r.size⟩ : Handle) ≠ ⟨r₁.size⟩ := by simpa using Nat.ne_of_lt hsize
    rw [Realm.insertSlot, Realm.record_update_of_ne hne, show r₂ = (r₁.allocate _).2 from rfl,
      Realm.record_allocate, if_neg (Nat.ne_of_lt hsize), show r₁ = (r.allocate _).2 from rfl,
      Realm.record_allocate, if_pos rfl]
    refine ⟨fun _ => rfl, fun old hold => ?_⟩
    rw [ObjectRecord.slot?_insert, ObjectRecord.slot?_insert, if_neg (by decide),
      if_neg (by decide), ObjectRecord.slot?_create] at hold
    cases hold
  obtain ⟨n₄, hle₄, hm₄⟩ := hB.insertSlot hm₃ (B.likeness.key_text "prototype" rfl)
    ⟨.data (.object ⟨r₁.size⟩) true, false, false⟩ (hin₂.mono hle₃) (.inr hadmits)
  have hle₂₄ := Nat.le_trans hle₂ (Nat.le_trans hle₃ hle₄)
  refine ⟨n₄, Nat.le_trans hle₁ hle₂₄, ?_, hfunction, hin₁.mono hle₂₄⟩
  -- The handles on the other side are the same, so the links are.
  have heq : (m'.realm.createConstructor f').2
      = (((m'.realm.createFunction f').2.createObject.2.insertSlot ⟨r₁.size⟩
        (.string "constructor") (.hidden (.object ⟨r.size⟩))).insertSlot ⟨r.size⟩
        (.string "prototype") ⟨.data (.object ⟨r₁.size⟩) true, false, false⟩) := by
    simp only [Realm.createConstructor]
    rw [← hfunction, ← hobject]
    rfl
  rw [heq]
  exact hm₄

/-- A function is made and written to an object without asking whether the
object admits it, so this takes a licence. -/
theorem defineMethod (hm : B.machine n m m') {h : Handle} {key : PropertyKey}
    {f : FunctionData P} {f' : FunctionData Q} (hkey : B.likeness.key key)
    (hf : f.Alike B.likeness f') (hwithin : B.Within n f) (hraw : B.licence.raw) :
    B.Gives n m m' (m.realm.defineMethod h key f) (m'.realm.defineMethod h key f') := by
  obtain ⟨n₁, hle₁, hm₁, hmethod, hin₁⟩ := hB.createFunction hm hf hwithin
  obtain ⟨n₂, hle₂, hm₂⟩ := hB.insertSlot hm₁ (h := h) hkey
    (.hidden (.object (m.realm.createFunction f).1)) hin₁ (.inl hraw)
  refine ⟨n₂, Nat.le_trans hle₁ hle₂, ?_, hmethod, hin₁.mono hle₂⟩
  simp only [Realm.defineMethod, Realm.defineBuiltin, ← hmethod]
  exact hm₂

/-- Extensibility is ended, or it is asked for and not given back. Only the
first of the two changes anything. -/
theorem setExtensible (hm : B.machine n m m') (h : Handle) (extensible : Bool) :
    B.Gives n m m' (m.realm.setExtensible h extensible) (m'.realm.setExtensible h extensible) := by
  have hheld := ((hB.alike hm).setExtensible h extensible).1
  cases extensible with
  | false =>
      obtain ⟨n', hle, hm'⟩ := hB.change hm (.preventExtensions (h := h))
      refine ⟨n', hle, ?_, hheld, fun _ => trivial⟩
      rw [Realm.setExtensible_false, Realm.setExtensible_false]
      exact hm'
  | true =>
      refine ⟨n, Nat.le_refl n, ?_, hheld, fun _ => trivial⟩
      rw [Realm.setExtensible_true, Realm.setExtensible_true]
      exact hm

end Lawful

end Bond

open Bond (Logic Carries)
open Bond.Logic (Relates Relays)

/-- An object that has a storage of its own is a foreign one. -/
theorem Kind.foreign_of_host? {P : Platform} {kind : Kind P} {host : P.Host}
    (h : kind.host? = some host) : kind = .foreign host := by
  cases kind with
  | foreign host' => exact congrArg Kind.foreign (Option.some.inj h)
  | _ => cases h

/-! ### Reading -/

namespace Object

variable (L : B.Logic)

/-- What is found is the same on both sides. A value is the answer, and a
getter is called on the receiver. That what is found is within reach is a law
of the bond, because a foreign object may answer with anything. -/
theorem getFor?_related (h : Handle) (key : PropertyKey) {receiver : Value}
    (hreceiver : B.Within n receiver) :
    L.Relays n (fun hooks => getFor? hooks h key receiver)
      (fun hooks => getFor? hooks h key receiver) := by
  intro n' m m' hle hm
  refine Logic.realm_bind ?_
  have hrs := L.lawful.alike hm
  have hwithin := L.lawful.reading hm key h
  rw [← hrs.size, ← hrs.readingUpTo?]
  cases hfound : m.realm.readingUpTo? key m.realm.size h with
  | none => exact L.const (.pure hm ⟨rfl, fun _ => trivial⟩)
  | some reading =>
      rw [hfound] at hwithin
      cases reading with
      | value v => exact L.const (.pure hm ⟨rfl, hwithin⟩)
      | getter f =>
          refine Relays.map (f := some) (.call hwithin (hreceiver.mono hle) ?_) ?_
            (Nat.le_refl n') hm
          · exact fun _ => Refers.below_nil
          · exact fun _ _ hv => hv

/-- Reading a property of an object with the object as the receiver. -/
theorem get?_related {h : Handle} (hh : B.Within n h) (key : PropertyKey) :
    L.Relays n (fun hooks => get? hooks h key) (fun hooks => get? hooks h key) := by
  have hreceiver : B.Within n (Value.object h) := hh
  exact getFor?_related L h key hreceiver

/-- A property that is not there reads as `undefined`, which refers to
nothing. -/
theorem get_related {h : Handle} (hh : B.Within n h) (key : PropertyKey) :
    L.Relays n (fun hooks => get hooks h key) (fun hooks => get hooks h key) :=
  Relays.bind (get?_related L hh key) fun _ _ _ hv => .pure fun ht => (hv ht).getD trivial

/-- A method is a property that is callable, or is not there. The values that
are no objects have no methods, or fail. -/
theorem getMethod?_related {value : Value} (hvalue : B.Within n value) (key : PropertyKey) :
    L.Relays n (fun hooks => getMethod? hooks value key)
      (fun hooks => getMethod? hooks value key) := by
  cases value with
  | object h =>
      refine Relays.bind (get_related L hvalue key) fun method n' _ hmethod => ?_
      -- What was read is judged by the realm as it is after the reading.
      refine .const fun hle hm => ?_
      split
      · exact .pure hm ⟨rfl, fun _ => trivial⟩
      · refine .realm_bind ?_
        rw [(L.lawful.alike hm).isCallable]
        split
        · exact .pure hm ⟨rfl, hmethod.mono hle⟩
        · exact .fail hm fun _ => trivial
  | undefined | null => exact .fail fun _ => trivial
  | _ => exact .pure fun _ => trivial

end Object

/-! ### Writing -/

/-- What has been done is reported as done, so the answers agree whenever the
machines do. -/
theorem Bond.Ends.thenTrue {x : Action P Unit} {y : Action Q Unit}
    (h : B.Ends B.Same n (x m) (y m')) :
    B.Ends B.Same n ((do x; return true : Action P Bool) m)
      ((do y; return true : Action Q Bool) m') :=
  h.bind fun _ _ hk _ => .pure hk ⟨rfl, fun _ => trivial⟩

namespace Object

/-- A value takes the place of another that is writable. The slot is the one
that was found under the key, so the object admits the write. -/
theorem overwrite_carried (hB : B.Lawful) (hm : B.machine n m m') {h : Handle}
    {key : PropertyKey} {slot : Slot} {old value : Value}
    (hslot : (m.realm.record h).slot? key = some slot) (hcontent : slot.content = .data old true)
    (hkey : B.likeness.key key) (hvalue : B.Within n value) :
    B.Ends B.Same n ((overwrite h key slot value : Action P Unit) m)
      ((overwrite h key slot value : Action Q Unit) m') := by
  refine .modify (hB.insertSlot hm hkey _ hvalue (.inr ?_))
  exact ObjectRecord.admits_overwrite hslot hcontent value

/-- A property is added to an extensible object that does not have it. -/
theorem addPlain_carried (hB : B.Lawful) (hm : B.machine n m m') {h : Handle}
    {key : PropertyKey} {value : Value} (hslot : (m.realm.record h).slot? key = none)
    (hext : (m.realm.record h).extensible = true) (hkey : B.likeness.key key)
    (hvalue : B.Within n value) :
    B.Ends B.Same n ((addPlain h key value : Action P Unit) m)
      ((addPlain h key value : Action Q Unit) m') :=
  .modify (hB.insertSlot hm hkey _ hvalue (.inr (ObjectRecord.admits_new hslot hext _)))

/-- A setter is run, and what it answers is dropped. -/
theorem callSetter_related (L : B.Logic) {setter value : Value} {h : Handle}
    (hsetter : B.Within n setter) (hh : B.Within n h) (hvalue : B.Within n value) :
    L.Relays n (fun hooks => do let _ ← hooks.call setter (.object h) [value]; return true)
      (fun hooks => do let _ ← hooks.call setter (.object h) [value]; return true) :=
  Relays.bind (.call hsetter hh fun ht => (hvalue ht).singleton) fun _ _ _ _ =>
    .pure fun _ => trivial

/-- A write to an object itself, in the cases of its own text: there is no
slot yet, there is one with a value, there is one with accessors, or the
object is foreign. The object's own checks decide in each, and they come out
the same on both sides. -/
theorem put_related (L : B.Logic) {h : Handle} {key : PropertyKey} {value : Value}
    (hkey : B.likeness.key key) (hh : B.Within n h) (hvalue : B.Within n value) :
    L.Relays n (fun hooks => put hooks h key value) (fun hooks => put hooks h key value) := by
  intro n' m m' hle hm
  refine Logic.record_bind ?_
  have hB := L.lawful
  have hrecord := (hB.alike hm).record h
  have hvalue := hvalue.mono hle
  obtain ⟨hnone, hnone'⟩ | ⟨host, host', hsome, hsome', -⟩ := hrecord.kind.host?
  · simp only [hnone, hnone', ← hrecord.slot?, ← hrecord.extensible]
    cases hslot : (m.realm.record h).slot? key with
    | none =>
        -- The write comes before the answer in both cases; in one of them it is skipped.
        cases hext : (m.realm.record h).extensible with
        | false => exact L.const (.pure hm ⟨rfl, fun _ => trivial⟩)
        | true =>
            exact L.const (addPlain_carried hB hm hslot hext hkey hvalue).thenTrue
    | some slot =>
        have hwithin := hB.slot? hm h key
        rw [hslot] at hwithin
        dsimp only
        cases hcontent : slot.content with
        | data old writable =>
            cases writable with
            | false => exact L.const (.pure hm ⟨rfl, fun _ => trivial⟩)
            | true =>
                exact L.const (overwrite_carried hB hm hslot hcontent hkey hvalue).thenTrue
        | accessor getter setter =>
            have hsetter : B.Within n' setter := fun ht => by
              have hcontent' : Below n' slot.content := hwithin ht
              rw [hcontent] at hcontent'
              exact hcontent'.2
            have hcall := callSetter_related L hsetter (hh.mono hle) hvalue (Nat.le_refl n') hm
            -- Only a setter that is there is called.
            cases setter with
            | undefined => exact L.const (.pure hm ⟨rfl, fun _ => trivial⟩)
            | _ => exact hcall
  · simp only [hsome, hsome']
    exact L.const (hB.put key hm (Kind.foreign_of_host? hsome) (Kind.foreign_of_host? hsome')
      hvalue)

/-- A write that is refused is a failure if the caller or the realm is strict,
and is reported otherwise. The realms of both sides have one configuration. -/
theorem refuse_carried (hB : B.Lawful) (key : PropertyKey) (reason : WriteRefusal)
    (strict : Bool) :
    B.Carries B.Same n (refuse key reason strict : Action P Bool) (refuse key reason strict) := by
  intro n' m m' _ hm
  refine .realm_bind ?_
  rw [(hB.alike hm).config.strict]
  split
  · exact .fail hm fun _ => trivial
  · exact .pure hm ⟨rfl, fun _ => trivial⟩

/-- A write that was handed on is a success, or it is refused. -/
theorem orRefuse_carried (hB : B.Lawful) (hm : B.machine n m m') (taken : Bool)
    (key : PropertyKey) (reason : WriteRefusal) (strict : Bool) :
    B.Ends B.Same n ((if taken then pure true else refuse key reason strict : Action P Bool) m)
      ((if taken then pure true else refuse key reason strict : Action Q Bool) m') := by
  split
  · exact .pure hm ⟨rfl, fun _ => trivial⟩
  · exact refuse_carried hB key reason strict (Nat.le_refl n) hm

/-- An assignment looks for the owner of the property and goes by what it
finds there. The owner is the same on both sides. A writable value of another
object is shadowed by a write to the object itself, a setter is called on it,
and a foreign owner takes the write. -/
theorem assign_related (L : B.Logic) {h : Handle} {key : PropertyKey} {value : Value}
    (hkey : B.likeness.key key.canonical) (hh : B.Within n h) (hvalue : B.Within n value)
    (strict : Bool) :
    L.Relays n (fun hooks => assign hooks h key value strict)
      (fun hooks => assign hooks h key value strict) := by
  intro n' m m' hle hm
  refine Logic.realm_bind ?_
  have hB := L.lawful
  have hrs := hB.alike hm
  have hvalue := hvalue.mono hle
  have hrefuse : ∀ reason, L.Rel B.Same n' Relayed
      (fun _ => (refuse key.canonical reason strict : Action P Bool) m)
      (fun _ => (refuse key.canonical reason strict : Action Q Bool) m') :=
    fun reason => L.const (refuse_carried hB _ reason strict (Nat.le_refl n') hm)
  simp only [← hrs.owner?]
  -- The property is that of the owner or, if there is none, of the object itself.
  generalize hbase : (m.realm.owner? h key.canonical).getD h = base
  have hrecord := hrs.record base
  obtain ⟨hnone, hnone'⟩ | ⟨host, host', hsome, hsome', -⟩ := hrecord.kind.host?
  · simp only [hnone, hnone', ← hrecord.slot?, ← hrecord.extensible]
    cases hslot : (m.realm.record base).slot? key.canonical with
    | none =>
        cases hext : (m.realm.record base).extensible with
        | false => exact hrefuse .nonExtensible
        | true =>
            exact L.const (addPlain_carried hB hm hslot hext hkey hvalue).thenTrue
    | some slot =>
        have hwithin := hB.slot? hm base key.canonical
        rw [hslot] at hwithin
        dsimp only
        cases hcontent : slot.content with
        | data old writable =>
            cases writable with
            | false => exact hrefuse .readOnly
            | true =>
                -- Where the owner is the object itself, the write is made in place.
                by_cases hown : base = h
                · rw [hown] at hslot
                  simp only [hown, if_true]
                  exact L.const (overwrite_carried hB hm hslot hcontent hkey hvalue).thenTrue
                · simp only [hown, if_false]
                  refine Relays.bind (put_related L hkey (hh.mono hle) hvalue)
                    (fun taken n₁ _ _ => ?_) (Nat.le_refl n') hm
                  exact .const fun _ hk => orRefuse_carried hB hk taken _ _ strict
        | accessor getter setter =>
            have hsetter : B.Within n' setter := fun ht => by
              have hcontent' : Below n' slot.content := hwithin ht
              rw [hcontent] at hcontent'
              exact hcontent'.2
            have hcall := callSetter_related L hsetter (hh.mono hle) hvalue (Nat.le_refl n') hm
            cases setter with
            | undefined => exact hrefuse .getterOnly
            | _ => exact hcall
  · simp only [hsome, hsome']
    refine L.const (.bind (hB.put _ hm (Kind.foreign_of_host? hsome)
      (Kind.foreign_of_host? hsome') hvalue) fun taken _ hk _ => ?_)
    exact orRefuse_carried hB hk taken _ _ strict

/-- A deletion removes a slot that is configurable, and asks a foreign object
to do it itself. That the slot is configurable is what the change of the realm
asks for. -/
theorem delete_carried (hB : B.Lawful) (h : Handle) (key : PropertyKey) :
    B.Carries B.Same n (delete h key : Action P Bool) (delete h key) := by
  intro n' m m' _ hm
  refine .realm_bind ?_
  have hrs := hB.alike hm
  have hrecord := hrs.record h
  obtain ⟨hnone, hnone'⟩ | ⟨host, host', hsome, hsome', -⟩ := hrecord.kind.host?
  · simp only [hnone, hnone', ← hrecord.slot?, hrs.config.strict]
    cases hslot : (m.realm.record h).slot? key with
    | none => exact .pure hm ⟨rfl, fun _ => trivial⟩
    | some slot =>
        dsimp only
        split
        · rename_i hopen
          refine (Bond.Ends.modify (hB.change hm (.erase _ (.inr fun slot' hslot' => ?_)))).thenTrue
          rw [hslot] at hslot'
          cases hslot'
          exact hopen
        · split
          · exact .fail hm fun _ => trivial
          · exact .pure hm ⟨rfl, fun _ => trivial⟩
  · simp only [hsome, hsome']
    exact hB.delete key hm (Kind.foreign_of_host? hsome) (Kind.foreign_of_host? hsome')

/-- An action that fails unless it was done. The fault is named beforehand, so
it is within reach where the action has ended. -/
theorem orFail_carried {x : Action P Bool} {y : Action Q Bool} (hxy : B.Carries B.Same n x y)
    {fault : Fault} (hfault : B.Within n fault) :
    B.Carries B.Same n (do unless ← x do Action.fail fault)
      (do unless ← y do Action.fail fault) := by
  intro n' m m' hle hm
  refine .bind (hxy hle hm) fun held hle' hk _ => ?_
  split
  · exact .pure hk ⟨rfl, fun _ => trivial⟩
  · exact .fail hk (hfault.mono (Nat.le_trans hle hle'))

/-- A deletion that fails if it is refused. Both sides refuse alike, and the
fault names the key and nothing of the machine. -/
theorem deleteOrFail_carried (hB : B.Lawful) (h : Handle) (key : PropertyKey) :
    B.Carries B.Same n (deleteOrFail h key : Action P Unit) (deleteOrFail h key) := by
  refine orFail_carried (delete_carried hB h key.canonical) ?_
  exact fun _ => trivial

/-- The slot that the descriptor is applied to is the one that is there, and
the object is asked whether it is extensible. So what reconciliation lets
through, the object admits. A foreign object takes a value only. -/
theorem define_carried (hB : B.Lawful) (h : Handle) {key : PropertyKey}
    (hkey : B.likeness.key key.canonical) {d : Descriptor} (hd : B.Within n d) :
    B.Carries B.Same n (define h key d : Action P Bool) (define h key d) := by
  intro n' m m' hle hm
  unfold define
  split
  · exact .fail hm fun _ => trivial
  · refine .record_bind ?_
    have hrecord := (hB.alike hm).record h
    obtain ⟨hnone, hnone'⟩ | ⟨host, host', hsome, hsome', -⟩ := hrecord.kind.host?
    · simp only [hnone, hnone', ← hrecord.slot?, ← hrecord.extensible]
      refine .modifyGet (hB.applyDescriptor hm hkey (hd.mono hle) (hB.slot? hm h _) ?_)
      exact .inr ⟨rfl, id⟩
    · simp only [hsome, hsome']
      cases hvalue : d.value with
      | none => exact .pure hm ⟨rfl, fun _ => trivial⟩
      | some value =>
          have hput := hB.put key.canonical hm (Kind.foreign_of_host? hsome)
            (Kind.foreign_of_host? hsome') fun ht => ((hd ht).1.of_eq_some hvalue).mono hle
          cases d.family? with
          | none => exact .pure hm ⟨rfl, fun _ => trivial⟩
          | some family =>
              cases family with
              | data => exact hput
              | accessor => exact .pure hm ⟨rfl, fun _ => trivial⟩

/-- A definition that fails if it is refused. Both sides refuse alike, and the
fault names the key and nothing of the machine. -/
theorem defineOrFail_carried (hB : B.Lawful) (h : Handle) {key : PropertyKey}
    (hkey : B.likeness.key key.canonical) {d : Descriptor} (hd : B.Within n d) :
    B.Carries B.Same n (defineOrFail h key d : Action P Unit) (defineOrFail h key d) := by
  refine orFail_carried (define_carried hB h hkey hd) ?_
  exact fun _ => trivial

/-- A plain data property is defined by a descriptor that has a value and all
flags. -/
theorem createData_carried (hB : B.Lawful) (h : Handle) {key : PropertyKey}
    (hkey : B.likeness.key key.canonical) {value : Value} (hvalue : B.Within n value) :
    B.Carries B.Same n (createData h key value : Action P Bool) (createData h key value) := by
  refine define_carried hB h hkey fun ht => ?_
  exact ⟨hvalue ht, trivial, trivial⟩

/-- A new data property, with a fault if it is refused, which both sides raise
alike. -/
theorem createDataOrFail_carried (hB : B.Lawful) (h : Handle) {key : PropertyKey}
    (hkey : B.likeness.key key.canonical) {value : Value} (hvalue : B.Within n value) :
    B.Carries B.Same n (createDataOrFail h key value : Action P Unit)
      (createDataOrFail h key value) := by
  refine orFail_carried (createData_carried hB h hkey hvalue) ?_
  exact fun _ => trivial

/-! ### Construction -/

/-- The prototype is read, the object is made, and the constructor runs on
it. -/
theorem construct_related (L : B.Logic) {constructor : Value} {args : List Value}
    (hconstructor : B.Within n constructor) (hargs : B.Within n args) :
    L.Relays n (fun hooks => construct hooks constructor args)
      (fun hooks => construct hooks constructor args) := by
  cases constructor with
  | object h =>
      intro n' m m' hle hm
      refine Logic.realm_bind ?_
      rw [← (L.lawful.alike hm).isConstructor]
      by_cases hgood : m.realm.isConstructor (.object h) = true
      · simp only [hgood, if_true]
        have hh : B.Within n' h := fun ht => Below.mono (hconstructor ht) hle
        refine Relays.bind (get_related L hh _) (fun found n₁ hle₁ hfound => ?_) (Nat.le_refl n') hm
        -- Whatever is under `prototype` is there already, and so is the usual prototype.
        refine .step (fun hle₁' hk => .modifyGet (L.lawful.createWith hk _ fun ht => ?_)) ?_
        · exact Below.getD ((hfound ht).mono hle₁').asObject? (L.lawful.intrinsic hk (by decide) ht)
        · intro this n₂ hle₂ hthis
          have hle₂ := Nat.le_trans hle (Nat.le_trans hle₁ hle₂)
          refine Relays.bind (.call (hconstructor.mono hle₂) hthis (hargs.mono hle₂)) ?_
          intro result n₃ hle₃ hresult
          refine .pure fun ht => ?_
          split
          · exact hresult ht
          · exact Below.mono (hthis ht) hle₃
      · simp only [hgood]
        exact L.const (.fail hm fun _ => trivial)
  | _ => exact .fail fun _ => trivial

/-- A failure that tells the type of a value, which the two sides agree
about. -/
theorem failOfType_carried {α β : Type} {R : Nat → α → β → Prop} (hB : B.Lawful) (v : Value)
    (cause : TypeName → TypeCause) :
    B.Carries R n (do Action.fail (.type (cause ((← Action.realm).typeName v))))
      (do Action.fail (.type (cause ((← Action.realm).typeName v)))) := by
  intro n' m m' _ hm
  refine .realm_bind ?_
  rw [(hB.alike hm).typeName]
  exact .fail hm fun _ => trivial

/-- The constructor for results is looked up in two steps, by `constructor`
and then by the species symbol. If one of them leads nowhere, the default is
taken. -/
theorem species_related (L : B.Logic) {h : Handle} (hh : B.Within n h) {default : Value}
    (hdefault : B.Within n default) :
    L.Relays n (fun hooks => species hooks h default) (fun hooks => species hooks h default) := by
  refine Relays.bind (get?_related L hh _) fun constructor n₁ hle₁ hconstructor => ?_
  cases constructor with
  | none => exact .pure (hdefault.mono hle₁)
  | some constructor =>
      cases constructor with
      | undefined => exact .pure (hdefault.mono hle₁)
      | object h' =>
          refine Relays.bind (get?_related L hconstructor _) fun species n₂ hle₂ hspecies => ?_
          refine .const fun hle₃ hm => .realm_bind ?_
          -- The default is as old as the call, so it is carried over both reads.
          have hle := Nat.le_trans hle₁ (Nat.le_trans hle₂ hle₃)
          rw [(L.lawful.alike hm).isConstructor, (L.lawful.alike hm).typeName]
          split
          · exact .pure hm ⟨rfl, hdefault.mono hle⟩
          · split
            · refine .pure hm ⟨rfl, fun ht => ?_⟩
              exact Below.mono ((hspecies ht).getD trivial) hle₃
            · exact .fail hm fun _ => trivial
      | _ => exact .const (failOfType_carried L.lawful _ .constructorNotObject)

/-- A fault becomes a value that code can catch: what was thrown is given
back, and the library's own faults become new error objects. The others stay
faults. -/
theorem faultToValue_carried (hB : B.Lawful) {fault : Fault} (hfault : B.Within n fault) :
    B.Carries B.Same n (faultToValue fault : Action P Value) (faultToValue fault) := by
  intro n' m m' hle hm
  have herror : ∀ name message, B.Ends B.Same n'
      ((Value.object <$> Action.modifyGet (·.createError name message) : Action P Value) m)
      ((Value.object <$> Action.modifyGet (·.createError name message) : Action Q Value) m') :=
    fun name message => .map (.modifyGet (hB.createError hm name message)) fun _ _ hh => hh
  cases fault with
  | thrown value => exact .pure hm ⟨rfl, hfault.mono hle⟩
  | type cause => exact herror _ _
  | range cause => exact herror _ _
  | _ => exact .fail hm fun _ => trivial

end Object

/-! ### Array-like objects -/

namespace ArrayLike

variable (L : B.Logic)

/-- A length is read and made a number. The conversion has a fault for values
it cannot convert, and none of these faults throws a value. -/
theorem length_related {h : Handle} (hh : B.Within n h) :
    L.Relays n (fun hooks => length hooks h) (fun hooks => length hooks h) := by
  refine Relays.bind (Object.get_related L hh _) fun value n' _ _ => ?_
  refine .const fun _ hm => .bind (.ofExcept hm fun _ => ?_) fun _ _ hk _ => ?_
  -- A conversion gives a number, or a fault that throws no value.
  · cases value with
    | _ => trivial
  · exact .pure hk ⟨rfl, fun _ => trivial⟩

/-- By induction on how many elements there are to read. Elements that were
read earlier stay within reach while the rest is read. -/
theorem elementsFrom_related (admits : Value → Bool) (remaining : Nat) :
    ∀ {n : Nat} {h : Handle} (_ : B.Within n h) (position : Nat),
      L.Relays n (fun hooks => elementsFrom hooks h admits remaining position)
        (fun hooks => elementsFrom hooks h admits remaining position) := by
  induction remaining with
  | zero => exact fun _ _ => .pure fun _ => Refers.below_nil
  | succ remaining ih =>
      intro n h hh position
      refine Relays.bind (Object.get_related L hh _) fun element n₁ hle₁ helement => ?_
      cases admits element with
      | true =>
          refine Relays.bind (ih (hh.mono hle₁) (position + 1)) fun rest n₂ hle₂ hrest => ?_
          exact .pure fun ht => ((helement ht).mono hle₂).cons (hrest ht)
      | false => exact .const (Object.failOfType_carried L.lawful element .listElement)

/-- The elements of an array-like, as many as its length says. A length that
is too great for the configuration is a failure before anything is read. -/
theorem toList_related {value : Value} (hvalue : B.Within n value) (admits : Value → Bool) :
    L.Relays n (fun hooks => toList hooks value admits)
      (fun hooks => toList hooks value admits) := by
  cases value with
  | object h =>
      refine Relays.bind (length_related L hvalue) fun length n₁ hle₁ _ => ?_
      intro n₂ m m' hle₂ hm
      refine Logic.realm_bind ?_
      rw [(L.lawful.alike hm).config.maxIterations]
      by_cases hlength : m'.realm.config.maxIterations < length
      · simp only [hlength, if_true]
        exact L.const (.fail hm fun _ => trivial)
      · simp only [hlength, if_false]
        have hh : B.Within n h := hvalue
        exact elementsFrom_related L admits length (hh.mono (Nat.le_trans hle₁ hle₂)) 0
          (Nat.le_refl n₂) hm
  | _ => exact .fail fun _ => trivial

end ArrayLike

/-! ### Descriptors -/

namespace Descriptor

/-- A field of a descriptor object is read if the object has it, by itself or
by its prototypes. Whether it has it is asked first, and this runs no code. -/
theorem field?_related (L : B.Logic) {h : Handle} (hh : B.Within n h) (name : String) :
    L.Relays n (fun hooks => field? hooks h name) (fun hooks => field? hooks h name) := by
  intro n' m m' hle hm
  refine Logic.realm_bind ?_
  rw [← (L.lawful.alike hm).has]
  cases m.realm.has h (.string name) with
  | true =>
      refine Relays.map (f := some) (Object.get_related L (hh.mono hle) _) ?_ (Nat.le_refl n') hm
      exact fun _ _ hv => hv
  | false => exact L.const (.pure hm ⟨rfl, fun _ => trivial⟩)

/-- A getter or a setter has to be callable, or not there. It is judged by the
realm after the reading. -/
theorem accessor?_related (L : B.Logic) {h : Handle} (hh : B.Within n h) (name : String)
    (cause : Value → TypeCause) :
    L.Relays n (fun hooks => accessor? hooks h name cause)
      (fun hooks => accessor? hooks h name cause) := by
  refine Relays.bind (field?_related L hh name) fun field n' _ hfield => ?_
  refine .const fun hle hm => ?_
  cases field with
  | none => exact .pure hm ⟨rfl, fun _ => trivial⟩
  | some accessor =>
      refine .realm_bind ?_
      rw [(L.lawful.alike hm).isCallable]
      split
      · exact .pure hm ⟨rfl, fun ht => Below.mono (hfield ht) hle⟩
      · exact .fail hm fun _ => trivial

/-- A descriptor that was put together is refused if it is of both
families. -/
theorem orMixed_carried {d : Descriptor} (hd : B.Within n d) :
    B.Carries B.Same n
      (if d.isMixed then Action.fail (.type .mixedDescriptor) else return d : Action P Descriptor)
      (if d.isMixed then Action.fail (.type .mixedDescriptor) else return d) := by
  intro n' m m' hle hm
  split
  · exact .fail hm fun _ => trivial
  · exact .pure hm (hd.mono hle).same

/-- The fields are read one after the other, and each of the values that
end up in the descriptor is carried over the reads that follow. -/
theorem ofObject_related (L : B.Logic) {value : Value} (hvalue : B.Within n value) :
    L.Relays n (fun hooks => ofObject hooks value) (fun hooks => ofObject hooks value) := by
  cases value with
  | object h =>
      have hh : B.Within n h := hvalue
      refine Relays.bind (field?_related L hh _) fun enumerable n₁ hle₁ _ => ?_
      have hh₁ := hh.mono hle₁
      refine Relays.bind (field?_related L hh₁ _) fun configurable n₂ hle₂ _ => ?_
      have hh₂ := hh₁.mono hle₂
      refine Relays.bind (field?_related L hh₂ _) fun value n₃ hle₃ hvalue => ?_
      have hh₃ := hh₂.mono hle₃
      refine Relays.bind (field?_related L hh₃ _) fun writable n₄ hle₄ _ => ?_
      have hh₄ := hh₃.mono hle₄
      refine Relays.bind (accessor?_related L hh₄ _ _) fun get n₅ hle₅ hget => ?_
      have hh₅ := hh₄.mono hle₅
      refine Relays.bind (accessor?_related L hh₅ _ _) fun set n₆ hle₆ hset => ?_
      -- Value and getter were read before the rest, so they are carried over what follows.
      have hle := Nat.le_trans hle₄ (Nat.le_trans hle₅ hle₆)
      refine .const (orMixed_carried fun ht => ?_)
      exact ⟨(hvalue ht).mono hle, (hget ht).mono hle₆, hset ht⟩
  | _ => exact .fail fun _ => trivial

/-- A field of a descriptor has one of six names, none of which is the text of
an index. Fields can therefore be written under every bond. -/
theorem index?_of_mem_fields {d : Descriptor} {name : String} {value : Value}
    (hfield : (name, value) ∈ d.fields) : PropertyKey.index? name = none := by
  rw [fields, List.mem_filterMap] at hfield
  obtain ⟨⟨name', value'⟩, hmem, hname⟩ := hfield
  obtain ⟨value'', _, hpair⟩ := Option.map_eq_some_iff.mp hname
  cases hpair
  simp only [List.mem_cons, Prod.mk.injEq, List.not_mem_nil, or_false] at hmem
  rcases hmem with ⟨rfl, _⟩ | ⟨rfl, _⟩ | ⟨rfl, _⟩ | ⟨rfl, _⟩ | ⟨rfl, _⟩ | ⟨rfl, _⟩ <;> rfl

/-- Fields are written to an open object one after the other, by induction on
what is left to write. Each leaves the object open for the next. -/
theorem foldl_fields_bonded (hB : B.Lawful) {h : Handle} (fields : List (String × Value)) :
    ∀ {n : Nat} {m : Machine P} {m' : Machine Q}, B.machine n m m' →
      (m.realm.record h).IsOpen → (∀ field ∈ fields, PropertyKey.index? field.1 = none) →
      B.Within n fields →
      ∃ n', n ≤ n' ∧ B.machine n'
        { m with realm := fields.foldl (fun realm (name, value) =>
          realm.insertSlot h (.string name) (.plain value)) m.realm }
        { m' with realm := fields.foldl (fun realm (name, value) =>
          realm.insertSlot h (.string name) (.plain value)) m'.realm } := by
  induction fields with
  | nil => exact fun hm _ _ _ => ⟨_, Nat.le_refl _, hm⟩
  | cons field rest ih =>
      intro n m m' hm hopen hnames hfields
      have hkey := B.likeness.key_text field.1 (hnames field List.mem_cons_self)
      obtain ⟨⟨n₁, hle₁, hm₁⟩, hopen₁⟩ := hB.insertOpen hm hopen hkey (.plain field.2)
        (fun ht => (hfields ht field List.mem_cons_self).2) rfl
      obtain ⟨n₂, hle₂, hm₂⟩ := ih hm₁ hopen₁
        (fun f hf => hnames f (List.mem_cons_of_mem _ hf))
        (fun ht f hf => (hfields ht f (List.mem_cons_of_mem _ hf)).mono hle₁)
      exact ⟨n₂, Nat.le_trans hle₁ hle₂, hm₂⟩

/-- A descriptor becomes a new object with its fields as properties. The
object has just been made, so it is open. No descriptor becomes
`undefined`. -/
theorem toObject_carried (hB : B.Lawful) {d : Option Descriptor} (hd : B.Within n d) :
    B.Carries B.Same n (toObject d : Action P Value) (toObject d) := by
  intro n' m m' hle hm
  cases d with
  | none => exact .pure hm ⟨rfl, fun _ => trivial⟩
  | some d =>
      obtain ⟨n₁, hle₁, hm₁, hobject, hh⟩ := hB.createObject hm
      have hopen : (m.realm.createObject.2.record m.realm.createObject.1).IsOpen := by
        rw [show m.realm.createObject = m.realm.allocate _ from rfl, Realm.record_allocate]
        exact if_pos rfl ▸ ObjectRecord.isOpen_create _ _
      obtain ⟨n₂, hle₂, hm₂⟩ := foldl_fields_bonded hB d.fields hm₁ hopen
        (fun _ hfield => index?_of_mem_fields hfield)
        fun ht => below_fields (Below.mono (hd ht) (Nat.le_trans hle hle₁))
      refine .modifyGet_bind hle₁ hobject (.bind (.modify ⟨n₂, hle₂, hm₂⟩) fun _ hle₂ hk _ => ?_)
      exact .pure hk ⟨rfl, fun ht => Below.mono (hh ht) hle₂⟩

end Descriptor

end ScriptRealm
