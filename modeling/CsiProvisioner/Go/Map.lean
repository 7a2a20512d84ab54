import Mathlib.Data.List.Perm.Basic
import Mathlib.Data.List.Count

/-!
# Go maps and the order of `for ... range`

`main` reads three Go maps: the `Segments` of the driver's `AccessibleTopology`, which it ranges
over twice (`csi-provisioner.go:328` and `:437`), and the result of `factory.WaitForCacheSync`,
which it ranges over once (`:535`). A map is its entries with distinct keys (`GoMap`). Go leaves
the order of a `range` loop unspecified and picks it afresh for every loop, so each loop of the
source takes its order as a parameter (`RangeOrder`): any function that visits every entry once.
`RangeOrder.realizes` shows that this covers every order of every map.
-/

namespace CsiProvisioner

/-- A Go `map[κ]ν`: its entries, no key twice. The order of `entries` is not observable. -/
structure GoMap (κ ν : Type) where
  entries : List (κ × ν)
  nodupKeys : (entries.map Prod.fst).Nodup

/-- The order in which one `for ... range` statement visits the entries of a map. -/
structure RangeOrder (κ ν : Type) where
  visit : List (κ × ν) → List (κ × ν)
  perm : ∀ l, (visit l).Perm l

namespace GoMap

variable {κ ν : Type}

/-- A nil map, and `map[κ]ν{}`. -/
def empty : GoMap κ ν := ⟨[], List.nodup_nil⟩

/-- The keys of a map, in the order of `entries`. -/
def keys (m : GoMap κ ν) : List κ := m.entries.map Prod.fst

/-- `v, ok := m[k]`. -/
def get? [DecidableEq κ] (m : GoMap κ ν) (k : κ) : Option ν := m.entries.lookup k

/-- `m[k]`: the zero value of `ν` for a key that is absent. -/
def index [DecidableEq κ] [Inhabited ν] (m : GoMap κ ν) (k : κ) : ν := (m.get? k).getD default

/-- The entries that `for k, v := range m` visits under the loop's order `o`, in that order. -/
def range (m : GoMap κ ν) (o : RangeOrder κ ν) : List (κ × ν) := o.visit m.entries

@[simp] theorem entries_empty : (empty : GoMap κ ν).entries = [] := rfl

theorem range_perm (m : GoMap κ ν) (o : RangeOrder κ ν) : (m.range o).Perm m.entries :=
  o.perm _

@[simp] theorem mem_range {m : GoMap κ ν} {o : RangeOrder κ ν} {e : κ × ν} :
    e ∈ m.range o ↔ e ∈ m.entries :=
  (m.range_perm o).mem_iff

/-- A `range` loop visits no key twice. -/
theorem range_keys_nodup (m : GoMap κ ν) (o : RangeOrder κ ν) :
    ((m.range o).map Prod.fst).Nodup :=
  ((m.range_perm o).map Prod.fst).nodup_iff.2 m.nodupKeys

@[simp] theorem mem_range_keys {m : GoMap κ ν} {o : RangeOrder κ ν} {k : κ} :
    k ∈ (m.range o).map Prod.fst ↔ k ∈ m.keys :=
  ((m.range_perm o).map Prod.fst).mem_iff

/-- In a list with distinct keys, an entry is present exactly when `lookup` finds its value. -/
theorem mem_iff_lookup [DecidableEq κ] :
    ∀ {l : List (κ × ν)}, (l.map Prod.fst).Nodup → ∀ {k : κ} {v : ν}, (k, v) ∈ l ↔ l.lookup k = some v
  | [], _, _, _ => by simp
  | (k', v') :: l, hl, k, v => by
    rw [List.map_cons, List.nodup_cons] at hl
    by_cases hk : k = k'
    · subst hk
      have : (k, v) ∉ l := fun hv => hl.1 (List.mem_map.2 ⟨_, hv, rfl⟩)
      simp [this, eq_comm]
    · have hne : (k == k') = false := beq_false_of_ne hk
      simp [List.lookup_cons, hne, hk, mem_iff_lookup hl.2]

theorem mem_entries_iff_get? [DecidableEq κ] (m : GoMap κ ν) {k : κ} {v : ν} :
    (k, v) ∈ m.entries ↔ m.get? k = some v :=
  mem_iff_lookup m.nodupKeys

theorem mem_keys_iff [DecidableEq κ] (m : GoMap κ ν) {k : κ} :
    k ∈ m.keys ↔ ∃ v, m.get? k = some v := by
  simp [keys, ← mem_entries_iff_get?]

/-- The value `m[k]` of a key the map holds. -/
theorem index_of_mem [DecidableEq κ] [Inhabited ν] (m : GoMap κ ν) {k : κ} {v : ν}
    (h : (k, v) ∈ m.entries) : m.index k = v := by
  simp [index, (m.mem_entries_iff_get?).1 h]

end GoMap

namespace RangeOrder

variable {κ ν : Type}

/-- The order that visits every map in the order of its `entries`. -/
def ofEntries : RangeOrder κ ν := ⟨id, List.Perm.refl⟩

/-- Every order of every map is the order of some `RangeOrder`: taking the order of a loop as a
parameter leaves none out. -/
theorem realizes [DecidableEq κ] [DecidableEq ν] (m : GoMap κ ν) {l : List (κ × ν)}
    (h : l.Perm m.entries) : ∃ o : RangeOrder κ ν, m.range o = l :=
  ⟨⟨fun l' => if l' = m.entries then l else l', fun l' => by dsimp only; split <;> simp_all⟩,
    by simp [GoMap.range]⟩

end RangeOrder

end CsiProvisioner
