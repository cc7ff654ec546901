import ScriptRealm.Proofs.Generator.Resumption

/-!
# `ScriptRealm.Proofs.Locks`: what is locked stays locked

Two kinds of locks can be put on an object. A property that is not
configurable keeps its flags, its family and its accessors, and once it is
not writable it keeps its value too. An object that is not extensible
stays so, keeps its prototype and gains no properties.

`ObjectRecord.KeepsLocks` states this of one object before and after,
`Realm.KeepsLocks` of all objects of a realm. It is a preorder that every
checked change keeps and that does not look into generators
(`Realm.keepsLocks_blind`), so it holds between the
first and the last realm of every run that makes no raw requests
(`run_keepsLocks`). The scripts of the run may nest as they like: a
setter, a callback or a generator's body can make the same requests in
between, and none of them opens a lock.
-/

set_option autoImplicit false

namespace ScriptRealm

variable {P : Platform}

/-- What an object keeps, from one state to a later one. -/
structure ObjectRecord.KeepsLocks (old new : ObjectRecord P) : Prop where
  /-- A foreign object stays one, and no other becomes one. -/
  foreign : new.kind.host?.isSome = old.kind.host?.isSome
  /-- A property that is not configurable is still there, and is what such
  a property may become. -/
  property : ∀ key slot, old.slot? key = some slot → slot.configurable = false →
    ∃ slot', new.slot? key = some slot' ∧ slot.Keeps slot'
  /-- Extensibility that has ended stays ended. -/
  extensible : old.extensible = false → new.extensible = false
  /-- An object that is not extensible keeps its prototype. -/
  prototype : old.extensible = false → new.prototype = old.prototype
  /-- An object that is not extensible gains no properties. -/
  keys : old.extensible = false → ∀ key slot', new.slot? key = some slot' →
    ∃ slot, old.slot? key = some slot

/-- Every object of a realm is still there and has kept its locks. -/
structure Realm.KeepsLocks (r s : Realm P) : Prop where
  size : r.size ≤ s.size
  objects : ∀ h : Handle, h.index < r.size → (r.record h).KeepsLocks (s.record h)

namespace ObjectRecord.KeepsLocks

variable {record : ObjectRecord P}

/-- A change that leaves the table, the prototype and the extensibility
alone touches no lock. -/
theorem of_eq {old new : ObjectRecord P} (hforeign : new.kind.host?.isSome = old.kind.host?.isSome)
    (hslots : new.slots = old.slots) (hprototype : new.prototype = old.prototype)
    (hextensible : old.extensible = false → new.extensible = false) : old.KeepsLocks new where
  foreign := hforeign
  property key slot hslot hlocked := by
    refine ⟨slot, ?_, .refl hlocked⟩
    rw [slot?, hslots]
    exact hslot
  extensible := hextensible
  prototype _ := hprototype
  keys _ key slot' hslot' := by
    rw [slot?, hslots] at hslot'
    exact ⟨slot', hslot'⟩

/-- An object that is as it was has kept its locks. -/
theorem refl (record : ObjectRecord P) : record.KeepsLocks record :=
  of_eq rfl rfl rfl id

/-- An object that has kept its locks twice has kept them. A property that is
not configurable is still not so in between, and extensibility that has ended
stays ended. -/
theorem trans {a b c : ObjectRecord P} (hab : a.KeepsLocks b) (hbc : b.KeepsLocks c) :
    a.KeepsLocks c where
  foreign := hbc.foreign.trans hab.foreign
  property key slot hslot hlocked := by
    obtain ⟨slot', hslot', hkeeps⟩ := hab.property key slot hslot hlocked
    obtain ⟨slot'', hslot'', hkeeps'⟩ := hbc.property key slot' hslot' hkeeps.configurable
    exact ⟨slot'', hslot'', hkeeps.trans hkeeps'⟩
  extensible hend := hbc.extensible (hab.extensible hend)
  prototype hend := (hbc.prototype (hab.extensible hend)).trans (hab.prototype hend)
  keys hend key slot'' hslot'' := by
    obtain ⟨slot', hslot'⟩ := hbc.keys (hab.extensible hend) key slot'' hslot''
    exact hab.keys hend key slot' hslot'

/-- A slot that the object admits opens no lock. In the place of a locked one
it is what that one may become, and a new one is admitted by an extensible
object only. -/
theorem insert {key : PropertyKey} {slot : Slot} (hadmits : record.Admits key slot) :
    record.KeepsLocks (record.insert key slot) where
  foreign := rfl
  property key' old hold hlocked := by
    rw [slot?_insert]
    split
    · rename_i hkey
      subst hkey
      exact ⟨slot, rfl, hadmits.old old hold hlocked⟩
    · exact ⟨old, hold, .refl hlocked⟩
  extensible := id
  prototype _ := rfl
  keys hend key' slot' hslot' := by
    rw [slot?_insert] at hslot'
    split at hslot'
    · rename_i hkey
      subst hkey
      -- A property that is new would have needed an extensible object.
      cases hold : record.slot? key' with
      | none =>
          have hext := hadmits.new hold
          rw [hend] at hext
          cases hext
      | some old => exact ⟨old, rfl⟩
    · exact ⟨slot', hslot'⟩

/-- Removing a configurable property opens no lock. What is locked is under
another key, and no key is added. -/
theorem erase {key : PropertyKey}
    (hopen : ∀ slot, record.slot? key = some slot → slot.configurable = true) :
    record.KeepsLocks (record.erase key) where
  foreign := rfl
  property key' slot hslot hlocked := by
    rw [slot?_erase]
    split
    -- The property that goes is open, so it is not one that is locked.
    · rename_i hkey
      subst hkey
      rw [hopen slot hslot] at hlocked
      cases hlocked
    · exact ⟨slot, hslot, .refl hlocked⟩
  extensible := id
  prototype _ := rfl
  keys _ key' slot' hslot' := by
    rw [slot?_erase] at hslot'
    split at hslot'
    · cases hslot'
    · exact ⟨slot', hslot'⟩

/-- An extensible object may get another prototype. Its prototype is not
locked yet. -/
theorem setPrototype (hext : record.extensible = true) (prototype : Option Handle) :
    record.KeepsLocks { record with prototype } where
  foreign := rfl
  property key slot hslot hlocked := ⟨slot, hslot, .refl hlocked⟩
  extensible := id
  prototype hend := by
    rw [hext] at hend
    cases hend
  keys _ key slot' hslot' := ⟨slot', hslot'⟩

end ObjectRecord.KeepsLocks

namespace Realm

/-- Where nothing has happened, all locks are kept. -/
theorem KeepsLocks.refl (r : Realm P) : r.KeepsLocks r :=
  ⟨Nat.le_refl _, fun h _ => .refl (r.record h)⟩

/-- What is there in the first realm is there in the second, and so on. -/
theorem KeepsLocks.trans {r s t : Realm P} (hrs : r.KeepsLocks s) (hst : s.KeepsLocks t) :
    r.KeepsLocks t where
  size := Nat.le_trans hrs.size hst.size
  objects h hlt :=
    (hrs.objects h hlt).trans (hst.objects h (Nat.lt_of_lt_of_le hlt hrs.size))

/-- A realm keeps its locks if the one object that is changed does. -/
theorem KeepsLocks.update {r : Realm P} {h : Handle} {f : ObjectRecord P → ObjectRecord P}
    (hf : (r.record h).KeepsLocks (f (r.record h))) : r.KeepsLocks (r.update h f) where
  size := Nat.le_of_eq (size_update r h f).symm
  objects h' _ :=
    forall_record_update (p := fun h' record => (r.record h').KeepsLocks record)
      (fun h' => .refl (r.record h')) (fun _ => hf) h'

/-- A checked change opens no lock. The checks are what says that a slot is
admitted, that what is removed is configurable and that an object that is
linked anew is extensible. -/
theorem Change.keepsLocks {r s : Realm P} (hchange : Change False r s) : r.KeepsLocks s := by
  cases hchange with
  | allocate record hnew =>
      refine ⟨?_, fun h hlt => ?_⟩
      · rw [size_allocate]
        exact Nat.le_succ _
      · rw [record_allocate, if_neg (Nat.ne_of_lt hlt)]
        exact .refl _
  | symbol description => exact ⟨Nat.le_refl _, fun h _ => .refl (r.record h)⟩
  | insert h key slot hadmits => exact .update (.insert hadmits)
  | erase h key hopen => exact .update (.erase hopen)
  | prototype h prototype =>
      unfold setPrototype
      -- The prototype is set only if it is another one, the object is extensible and no cycle
      -- arises.
      split
      · exact .refl r
      · split
        · exact .refl r
        · rename_i hext
          have hext : (r.record h).extensible = true := by simpa using hext
          split
          · exact .refl r
          · exact .update (.setPrototype hext prototype)
  | scope h scope => exact .update (.of_eq rfl rfl rfl id)
  | preventExtensions h => exact .update (.of_eq rfl rfl rfl fun _ => rfl)
  | cursor h c finished hkind =>
      refine .update (.of_eq ?_ rfl rfl id)
      rw [hkind]
      rfl
  | host h old new hkind =>
      refine .update (.of_eq ?_ rfl rfl id)
      rw [hkind]
      rfl
  | rawInsert h key slot hraw => exact hraw.elim
  | rawErase h key hraw => exact hraw.elim

/-- Driving a generator touches no lock, since it changes the generator's
kind alone. -/
theorem keepsLocks_blind : Blind False (KeepsLocks (P := P)) where
  refl := KeepsLocks.refl
  trans _ _ _ := KeepsLocks.trans
  change _ _ := Change.keepsLocks
  drive r h g g' hkind := by
    refine .update (.of_eq ?_ rfl rfl id)
    rw [hkind]
    rfl

end Realm

/-- Every run keeps every lock. From any realm, whatever script is run and
whatever the embedder's functions and generator bodies do, as long as none
of them makes a raw request: each object of the first realm has kept its
locks in the last. -/
theorem run_keepsLocks {α : Type} (embedder : Embedder P)
    (huses : embedder.Uses fun request => request.isRaw = false) (rounds depth : Nat)
    (script : Script P α) (hscript : script.Uses fun request => request.isRaw = false)
    (m : Machine P) :
    (embedder.run rounds depth script m).Meets (fun _ m' => m.realm.KeepsLocks m'.realm)
      (fun _ m' => m.realm.KeepsLocks m'.realm) := by
  -- The law of checked changes has no licence for raw requests, so there must be none.
  have hraw : ∀ request : Request P, request.isRaw = false → request.isRaw = true → False := by
    intro request hchecked hraw
    rw [hchecked] at hraw
    cases hraw
  have hkeeps := embedder.run_keeps Realm.keepsLocks_blind.law (huses.mono hraw) rounds depth script
    (hscript.mono hraw) m
  exact hkeeps.mono (fun _ _ => And.right) (fun _ _ => And.right)

/-- A realm with one frozen object. -/
def frozenRealm : Realm Platform.fixed where
  objects := #[{ kind := .ordinary
                 slots := OrderedMap.empty.insert (.index 0) ⟨.data .null false, true, false⟩
                 prototype := none
                 scope := none
                 extensible := false }]
  config := {}
  nextSymbol := Symbol.firstFree

/-- A script that tries to write, to redefine and to remove a property of
the frozen object, to add one, and to link the object to a prototype. -/
def Script.tamperWithObject : Script Platform.fixed Unit :=
  .ask (.put ⟨0⟩ (.index 0) .undefined) fun _ =>
  .ask (.define ⟨0⟩ (.index 0) { writable := some true }) fun _ =>
  .ask (.delete ⟨0⟩ (.index 0)) fun _ =>
  .ask (.assign ⟨0⟩ (.index 1) .null false) fun _ =>
  .ask .createObject fun reply =>
  .ask (.setPrototype ⟨0⟩ reply.toOption) fun _ => .done ()

/-- The code of fixed answers makes no raw requests. -/
theorem fixed_uses : Embedder.fixed.Uses fun request => request.isRaw = false :=
  ⟨fun _ _ _ => ⟨rfl, fun _ => trivial⟩, fun _ _ _ => trivial⟩

/-- The tampering comes to an end, and the object is as frozen as before. -/
theorem run_keepsLocks_frozen :
    ∃ m', Embedder.fixed.run 1 1 Script.tamperWithObject ⟨frozenRealm, ()⟩ = .done () m' ∧
      frozenRealm.KeepsLocks m'.realm := by
  have h := run_keepsLocks Embedder.fixed fixed_uses 1 1 Script.tamperWithObject
    ⟨rfl, fun _ => ⟨rfl, fun _ => ⟨rfl, fun _ => ⟨rfl, fun _ => ⟨rfl, fun _ => ⟨rfl,
      fun _ => trivial⟩⟩⟩⟩⟩⟩ ⟨frozenRealm, ()⟩
  exact ⟨_, rfl, h⟩

end ScriptRealm
