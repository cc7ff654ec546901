/-!
# Maps in insertion order

A finite map that remembers the order in which its keys came. A key
keeps its place when its value is overwritten; a key that is removed and
inserted again goes to the end, or to the front with `insertFirst`. No
key occurs twice, which the type itself says.
-/

set_option autoImplicit false

namespace ScriptRealm

/-- A map whose entries are in the order of their insertion. -/
structure OrderedMap (κ ν : Type) where
  entries : List (κ × ν)
  nodup : (entries.map Prod.fst).Nodup

namespace OrderedMap

variable {κ ν : Type}

/-- Maps with the same entries are the same. That no key occurs twice is a
proof, so it is no part of the data. -/
@[ext] theorem ext {m₁ m₂ : OrderedMap κ ν} (h : m₁.entries = m₂.entries) : m₁ = m₂ := by
  cases m₁
  cases m₂
  cases h
  rfl

/-- The map without entries. -/
def empty : OrderedMap κ ν := ⟨[], by simp⟩

instance : Inhabited (OrderedMap κ ν) := ⟨empty⟩

/-- The keys, oldest first. -/
def keys (m : OrderedMap κ ν) : List κ := m.entries.map Prod.fst

/-- The number of keys. -/
def size (m : OrderedMap κ ν) : Nat := m.entries.length

/-- The same keys in the same order, with each value replaced. -/
def mapValues {ν' : Type} (f : κ → ν → ν') (m : OrderedMap κ ν) : OrderedMap κ ν' :=
  ⟨m.entries.map fun (k, v) => (k, f k v), by
    have h : (m.entries.map fun (k, v) => (k, f k v)).map Prod.fst = m.entries.map Prod.fst := by
      simp
    rw [h]
    exact m.nodup⟩

variable [DecidableEq κ]

/-- The value under a key. -/
def get? (m : OrderedMap κ ν) (key : κ) : Option ν :=
  (m.entries.find? (·.1 = key)).map Prod.snd

/-- Whether there is a value under a key. -/
def contains (m : OrderedMap κ ν) (key : κ) : Bool := m.entries.any (·.1 = key)

/-- A map contains the keys that it lists. -/
theorem contains_iff {m : OrderedMap κ ν} {key : κ} : m.contains key = true ↔ key ∈ m.keys := by
  simp [contains, keys]

/-- The map without a key. The other keys keep their order. -/
def erase (m : OrderedMap κ ν) (key : κ) : OrderedMap κ ν :=
  ⟨m.entries.filter (·.1 ≠ key), m.nodup.sublist (List.filter_sublist.map _)⟩

/-- A key that was removed is not there. -/
theorem not_mem_keys_erase (m : OrderedMap κ ν) (key : κ) : key ∉ (m.erase key).keys := by
  simp [erase, keys]

/-- The map with a value under a key: in the key's place if it has one, at
the end if it is new. -/
def insert (m : OrderedMap κ ν) (key : κ) (value : ν) : OrderedMap κ ν :=
  if h : m.contains key then
    m.mapValues fun k v => if k = key then value else v
  else
    ⟨m.entries ++ [(key, value)], by
      rw [List.map_append]
      exact List.nodup_append.mpr ⟨m.nodup, by simp, by
        intro a ha b hb
        simp only [List.map_cons, List.map_nil, List.mem_singleton] at hb
        rintro rfl
        exact h (contains_iff.mpr (hb ▸ ha))⟩⟩

/-- The map with a value under a key that comes before all others. -/
def insertFirst (m : OrderedMap κ ν) (key : κ) (value : ν) : OrderedMap κ ν :=
  if h : m.contains key then
    ⟨(key, value) :: (m.erase key).entries,
      List.nodup_cons.mpr ⟨m.not_mem_keys_erase key, (m.erase key).nodup⟩⟩
  else
    ⟨(key, value) :: m.entries,
      List.nodup_cons.mpr ⟨fun hk => h (contains_iff.mpr hk), m.nodup⟩⟩

end OrderedMap

end ScriptRealm
