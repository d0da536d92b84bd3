import VectorFamily.List.Lookup

/-!
# Maps that keep their keys in order

A key keeps the place at which it came first; another value for it takes the place of the old one.
-/

namespace VectorFamily

/-- Values by their keys, in the order in which the keys came. -/
structure OrderedMap (α β : Type) where
  entries : List (α × β)
  nodup_keys : (entries.map (·.1)).Nodup
deriving DecidableEq, Repr

namespace OrderedMap

variable {α β : Type}

instance : EmptyCollection (OrderedMap α β) := ⟨⟨[], List.nodup_nil⟩⟩

instance : Inhabited (OrderedMap α β) := ⟨∅⟩

@[simp] theorem entries_empty : (∅ : OrderedMap α β).entries = [] := rfl

variable [DecidableEq α] {m : OrderedMap α β} {k k' : α} {b : β}

def get? (m : OrderedMap α β) (k : α) : Option β := m.entries.lookup k

theorem get?_eq_some_iff : m.get? k = some b ↔ (k, b) ∈ m.entries :=
  lookup_eq_some_iff_mem m.nodup_keys

theorem get?_eq_none_iff : m.get? k = none ↔ k ∉ m.entries.map (·.1) := lookup_eq_none_iff_notMem

/-- The map with the value under the key, and the value that was there before. -/
def insert (m : OrderedMap α β) (k : α) (b : β) : Option β × OrderedMap α β :=
  match h : m.get? k with
  | some old => (some old, ⟨m.entries.map fun e => if e.1 = k then (k, b) else e, by
      rw [map_fst_map_replace]
      exact m.nodup_keys⟩)
  | none => (none, ⟨m.entries ++ [(k, b)], by
      rw [List.map_append, List.map_singleton, List.nodup_append]
      refine ⟨m.nodup_keys, List.nodup_cons.2 ⟨List.not_mem_nil, List.nodup_nil⟩, ?_⟩
      rintro a ha c hc rfl
      obtain rfl : a = k := List.mem_singleton.1 hc
      exact get?_eq_none_iff.1 h ha⟩)

theorem insert_fst : (m.insert k b).1 = m.get? k := by
  unfold insert
  split
  · next h => exact h.symm
  · next h => exact h.symm

/-- The key has the new value, and the others keep theirs. -/
theorem get?_insert : (m.insert k b).2.get? k' = if k' = k then some b else m.get? k' := by
  unfold insert
  split
  · next old h =>
    rw [get?, lookup_map_replace]
    split
    · rw [show m.entries.lookup k = some old from h, Option.map_some]
    · rfl
  · next h =>
    rw [get?, List.lookup_append]
    by_cases hk : k' = k
    · subst hk
      simp [show m.entries.lookup k' = none from h]
    · have hbeq : (k' == k) = false := beq_eq_false_iff_ne.2 hk
      simp [hk, get?, List.lookup_cons, hbeq]

end OrderedMap

end VectorFamily
