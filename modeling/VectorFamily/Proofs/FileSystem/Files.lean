import VectorFamily.Proofs.FileSystem.Locations

/-!
# Files put into a directory

`Disk.putAll` puts files under their names into a directory, and `Disk.moveAll` moves them there
from another one. Once the directory from which they were moved is pruned, moving them is putting
them.
-/

namespace VectorFamily

open FileSystem

namespace Disk

variable {d : Disk} {D S l : Location} {e : Entry} {f : String × String}
  {fs : List (String × String)}

/-- The disk with files put into a directory. -/
def putAll (d : Disk) (D : Location) (fs : List (String × String)) : Disk :=
  fs.foldl (fun d f => d.put (D ++ [f.1]) (.text f.2)) d

/-- The disk with files moved from one directory to another. -/
def moveAll (d : Disk) (S D : Location) (fs : List (String × String)) : Disk :=
  fs.foldl (fun d f => (d.erase (S ++ [f.1])).put (D ++ [f.1]) (.text f.2)) d

theorem putAll_cons (d : Disk) (D : Location) (f : String × String) (fs : List (String × String)) :
    d.putAll D (f :: fs) = (d.put (D ++ [f.1]) (.text f.2)).putAll D fs :=
  rfl

/-! ### What stands where -/

section
variable (hfs : ∀ f ∈ fs, IsName f.1)
include hfs

theorem entryAt_putAll_of_forall_ne (h : ∀ f ∈ fs, l ≠ D ++ [f.1]) :
    (d.putAll D fs).entryAt l = d.entryAt l := by
  induction fs generalizing d with
  | nil => rfl
  | cons f fs ih =>
    obtain ⟨hf, hfs⟩ := List.forall_mem_cons.1 hfs
    obtain ⟨hne, h⟩ := List.forall_mem_cons.1 h
    rw [putAll_cons, ih hfs h, entryAt_put (isOutward_append_name hf), if_neg hne]

theorem entryAt_putAll_of_mem (hne : fs.Pairwise fun f g => f.1 ≠ g.1) (hf : f ∈ fs) :
    (d.putAll D fs).entryAt (D ++ [f.1]) = some (.text f.2) := by
  induction fs generalizing d with
  | nil => cases hf
  | cons g fs ih =>
    obtain ⟨hg, hfs⟩ := List.forall_mem_cons.1 hfs
    obtain ⟨hgs, hne⟩ := List.pairwise_cons.1 hne
    rcases List.mem_cons.1 hf with rfl | hf
    · have hnot : ∀ h ∈ fs, D ++ [f.1] ≠ D ++ [h.1] := by simpa using hgs
      have hrest := entryAt_putAll_of_forall_ne (d := d.put (D ++ [f.1]) (.text f.2)) ‹_› hnot
      rw [putAll_cons, hrest, entryAt_put_self _ _ _ (isOutward_append_name hg)]
    · exact ih hfs hne hf

theorem keepsDirectories_putAll (h : ∀ f ∈ fs, d.entryAt (D ++ [f.1]) ≠ some .directory) :
    KeepsDirectories d (d.putAll D fs) := by
  intro l hl
  rw [entryAt_putAll_of_forall_ne hfs]
  · exact hl
  · rintro f hf rfl
    exact h f hf hl

end

/-- A file that takes the place of no directory leaves the directories as they are. -/
theorem directory_put_iff (hf : IsName f.1) (hplace : d.entryAt (D ++ [f.1]) ≠ some .directory) :
    (d.put (D ++ [f.1]) (.text f.2)).entryAt l = some .directory ↔
      d.entryAt l = some .directory := by
  rw [entryAt_put (isOutward_append_name hf)]
  split
  · next hl => simp [hl, hplace]
  · exact Iff.rfl

theorem Tree.putAll (ht : d.Tree) (hfs : ∀ f ∈ fs, IsName f.1)
    (hD : d.entryAt D = some .directory)
    (hplace : ∀ f ∈ fs, d.entryAt (D ++ [f.1]) ≠ some .directory) : (d.putAll D fs).Tree := by
  induction fs generalizing d with
  | nil => exact ht
  | cons f fs ih =>
    obtain ⟨hf, hfs⟩ := List.forall_mem_cons.1 hfs
    obtain ⟨hp, hplace⟩ := List.forall_mem_cons.1 hplace
    have hiff := fun l => directory_put_iff (l := l) hf hp
    exact ih (ht.put (isOutward_append_name hf) hD (.inr hp)) hfs ((hiff D).2 hD)
      fun g hg => mt (hiff _).1 (hplace g hg)

theorem entryAt_move (hf : IsName f.1) :
    ((d.erase (S ++ [f.1])).put (D ++ [f.1]) (.text f.2)).entryAt l =
      if l = D ++ [f.1] then some (.text f.2) else if l = S ++ [f.1] then none
      else d.entryAt l := by
  rw [entryAt_put (isOutward_append_name hf), entryAt_erase (isOutward_append_name hf)]

theorem directory_move_iff (hf : IsName f.1)
    (hplace : d.entryAt (D ++ [f.1]) ≠ some .directory)
    (hfile : d.entryAt (S ++ [f.1]) ≠ some .directory) :
    ((d.erase (S ++ [f.1])).put (D ++ [f.1]) (.text f.2)).entryAt l = some .directory ↔
      d.entryAt l = some .directory := by
  rw [entryAt_move hf]
  split
  · next hl => simp [hl, hplace]
  split
  · next hl => simp [hl, hfile]
  · exact Iff.rfl

theorem keepsDirectories_moveAll (hfs : ∀ f ∈ fs, IsName f.1)
    (hplace : ∀ f ∈ fs, d.entryAt (D ++ [f.1]) ≠ some .directory)
    (hfile : ∀ f ∈ fs, d.entryAt (S ++ [f.1]) ≠ some .directory) :
    KeepsDirectories d (d.moveAll S D fs) := by
  induction fs generalizing d with
  | nil => exact fun _ h => h
  | cons f fs ih =>
    obtain ⟨hf, hfs⟩ := List.forall_mem_cons.1 hfs
    obtain ⟨hp, hplace⟩ := List.forall_mem_cons.1 hplace
    obtain ⟨he, hfile⟩ := List.forall_mem_cons.1 hfile
    have hiff := fun l => directory_move_iff (l := l) hf hp he
    intro l hl
    refine ih hfs (fun g hg => ?_) (fun g hg => ?_) l ((hiff l).2 hl)
    · exact mt (hiff _).1 (hplace g hg)
    · exact mt (hiff _).1 (hfile g hg)

/-! ### Putting twice -/

/-- The files stand before all else, in reverse, and nothing else stands in their places. -/
theorem entries_putAll (d : Disk) (D : Location) (hne : fs.Pairwise fun f g => f.1 ≠ g.1) :
    (d.putAll D fs).entries = (fs.map fun f => (D ++ [f.1], Entry.text f.2)).reverse ++
      d.entries.filter fun x => x.1 ∉ fs.map fun f => D ++ [f.1] := by
  induction fs generalizing d with
  | nil =>
    show d.entries = d.entries.filter fun _ => true
    exact (List.filter_eq_self.2 fun _ _ => rfl).symm
  | cons f fs ih =>
    obtain ⟨hgs, hne⟩ := List.pairwise_cons.1 hne
    have hnot : D ++ [f.1] ∉ fs.map fun g => D ++ [g.1] := by
      rw [List.mem_map]
      rintro ⟨g, hg, heq⟩
      exact hgs g hg (by simpa using heq.symm)
    rw [putAll_cons, ih _ hne, put, List.filter_cons_of_pos (by simpa using hnot),
      List.filter_filter, List.map_cons, List.reverse_cons, List.append_assoc]
    congr 2
    refine List.filter_congr fun x _ => ?_
    rw [List.map_cons, ← Bool.decide_and]
    simp only [List.mem_cons, not_or, and_comm]

theorem putAll_putAll (d : Disk) (D : Location) (hne : fs.Pairwise fun f g => f.1 ≠ g.1) :
    (d.putAll D fs).putAll D fs = d.putAll D fs := by
  have hnone : (fs.map fun f => (D ++ [f.1], Entry.text f.2)).reverse.filter
      (fun x => x.1 ∉ fs.map fun f => D ++ [f.1]) = [] := by
    rw [List.filter_eq_nil_iff]
    intro x hx
    obtain ⟨f, hf, rfl⟩ := List.mem_map.1 (List.mem_reverse.1 hx)
    simpa using ⟨f.2, hf⟩
  have hentries : ((d.putAll D fs).putAll D fs).entries = (d.putAll D fs).entries := by
    rw [entries_putAll _ D hne, entries_putAll d D hne, List.filter_append, hnone,
      List.filter_filter]
    simp
  exact congrArg Disk.mk hentries

/-! ### Pruning -/

theorem prune_put_of_outside (h : ¬ S <+: l) : (d.put l e).prune S = (d.prune S).put l e := by
  have hpre : (!S.isPrefixOf l) = true := by simpa [Bool.eq_false_iff] using h
  unfold put prune
  simp only [List.filter_cons, if_pos hpre, List.filter_filter, Bool.and_comm]

theorem prune_prune (d : Disk) (S : Location) : (d.prune S).prune S = d.prune S :=
  congrArg Disk.mk (by simp [prune])

theorem prune_erase_of_below (h : S <+: l) : (d.erase l).prune S = d.prune S := by
  unfold erase prune
  rw [List.filter_filter]
  refine congrArg Disk.mk (List.filter_congr fun x _ => ?_)
  by_cases hx : x.1 = l
  · have hpre : S.isPrefixOf x.1 = true := by rwa [List.isPrefixOf_iff_prefix, hx]
    simp [hpre]
  · simp [hx]

theorem prune_put_of_below (h : S <+: l) : (d.put l e).prune S = d.prune S := by
  have hpre : ¬ (!S.isPrefixOf l) = true := by simpa using h
  refine Eq.trans ?_ (prune_erase_of_below h)
  unfold put prune erase
  simp only [List.filter_cons, if_neg hpre]

/-- Where nothing stands nothing is below either, so there is nothing to prune. -/
theorem Tree.prune_eq_self (ht : d.Tree) (h : d.entryAt S = none) :
    d.prune S = d := by
  refine congrArg Disk.mk (List.filter_eq_self.2 fun x hx => ?_)
  rw [Bool.not_eq_true', Bool.eq_false_iff, ne_eq, List.isPrefixOf_iff_prefix]
  rintro ⟨ns, hns⟩
  have hsome : d.entryAt (S ++ ns) ≠ none := by
    intro hnone
    unfold entryAt at hnone
    split at hnone
    · cases hnone
    · exact absurd hns (by simpa using List.lookup_eq_none_iff.1 hnone x hx)
  by_cases hempty : ns = []
  · rw [hempty, List.append_nil] at hsome
    exact hsome h
  · exact hsome (ht.entryAt_eq_none (by simp [h]) hempty)

theorem prune_putAll_of_below (h : ∀ f ∈ fs, S <+: D ++ [f.1]) :
    (d.putAll D fs).prune S = d.prune S := by
  induction fs generalizing d with
  | nil => rfl
  | cons f fs ih =>
    obtain ⟨hf, hfs⟩ := List.forall_mem_cons.1 h
    rw [putAll_cons, ih hfs, prune_put_of_below hf]

/-- What is left of files that were moved once the directory where they were is pruned. -/
theorem prune_moveAll (h : ∀ f ∈ fs, ¬ S <+: D ++ [f.1]) :
    (d.moveAll S D fs).prune S = (d.prune S).putAll D fs := by
  induction fs generalizing d with
  | nil => rfl
  | cons f fs ih =>
    obtain ⟨hf, hfs⟩ := List.forall_mem_cons.1 h
    show (((d.erase (S ++ [f.1])).put (D ++ [f.1]) (.text f.2)).moveAll S D fs).prune S = _
    rw [ih hfs, prune_put_of_outside hf, prune_erase_of_below (List.prefix_append _ _)]
    rfl

end Disk

end VectorFamily
