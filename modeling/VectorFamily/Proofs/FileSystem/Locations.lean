import VectorFamily.List.Lookup
import VectorFamily.Proofs.FileSystem.Path
import VectorFamily.Proofs.Sequence

/-!
# Locations of a disk

What stands where after an entry has been put, erased or pruned. A disk is a `Tree` if whatever
stands somewhere stands in a directory; then nothing is below a location at which there is no
directory. Walks depend on directories alone, so they lead where they led as long as no directory is
lost.
-/

namespace VectorFamily

open FileSystem

namespace Disk

variable {d d' : Disk} {l l' : Location} {e : Entry}

/-! ### Entries -/

theorem entryAt_of_isOutward (h : isOutward l = true) : d.entryAt l = some .directory :=
  if_pos h

theorem entryAt_put (h : isOutward l = false) :
    (d.put l e).entryAt l' = if l' = l then some e else d.entryAt l' := by
  by_cases hl : l' = l
  · rw [if_pos hl, hl, entryAt_put_self d l e h]
  · have hbeq : (l' == l) = false := beq_eq_false_iff_ne.2 hl
    have hlookup := lookup_filter_fst (fun k => decide (k ≠ l)) l' d.entries
    rw [if_neg hl]
    unfold entryAt put
    simp only [List.lookup_cons, hbeq]
    rw [hlookup]
    simp [hl]

theorem entryAt_erase (h : isOutward l = false) :
    (d.erase l).entryAt l' = if l' = l then none else d.entryAt l' := by
  have hlookup := lookup_filter_fst (fun k => decide (k ≠ l)) l' d.entries
  unfold entryAt erase
  rw [hlookup]
  by_cases hl : l' = l
  · subst hl
    simp [h]
  · simp [hl]

theorem isOutward_of_below (h : l <+: l') (hl : isOutward l' = true) : isOutward l = true := by
  obtain ⟨t, rfl⟩ := h
  rw [isOutward, List.all_append, Bool.and_eq_true] at hl
  exact hl.1

theorem entryAt_prune (h : isOutward l = false) :
    (d.prune l).entryAt l' = if l <+: l' then none else d.entryAt l' := by
  have hlookup := lookup_filter_fst (fun k => !l.isPrefixOf k) l' d.entries
  unfold entryAt prune
  rw [hlookup]
  by_cases hl : l <+: l'
  · have hout : isOutward l' = false := by
      rw [Bool.eq_false_iff]
      intro hout
      rw [isOutward_of_below hl hout] at h
      cases h
    have hpre : l.isPrefixOf l' = true := List.isPrefixOf_iff_prefix.2 hl
    rw [hpre, if_pos hl, hout]
    rfl
  · have hpre : l.isPrefixOf l' = false := by
      rw [Bool.eq_false_iff]
      exact fun hp => hl (List.isPrefixOf_iff_prefix.1 hp)
    simp [hl, hpre]

theorem isOutward_append_name {name : String} (hname : IsName name) :
    isOutward (l ++ [name]) = false := by
  have hslash : name ≠ "/" := by
    rintro rfl
    exact hname.noSlash (by decide)
  simp [isOutward, hname.notUp, hslash]

/-! ### Trees -/

/-- Whatever stands somewhere stands in a directory. -/
def Tree (d : Disk) : Prop := ∀ l n, d.entryAt (l ++ [n]) ≠ none → d.entryAt l = some .directory

theorem tree_empty : Tree {} := by
  intro l n h
  by_cases hout : isOutward l = true
  · exact entryAt_of_isOutward hout
  · have hout' : isOutward (l ++ [n]) = false := by
      rw [Bool.eq_false_iff]
      exact fun h => hout (isOutward_of_below (List.prefix_append _ _) h)
    simp [entryAt, hout'] at h

theorem Tree.directory_above (ht : d.Tree) {ns : List String} (hns : ns ≠ [])
    (h : d.entryAt (l ++ ns) ≠ none) : d.entryAt l = some .directory := by
  induction ns generalizing l with
  | nil => exact absurd rfl hns
  | cons n ns ih =>
    by_cases hempty : ns = []
    · subst hempty
      exact ht l n h
    · have := ih (l := l ++ [n]) hempty (by simpa using h)
      exact ht l n (by rw [this]; simp)

/-- Nothing is below a location that is no directory. -/
theorem Tree.entryAt_eq_none (ht : d.Tree) (h : d.entryAt l ≠ some .directory) {ns : List String}
    (hns : ns ≠ []) : d.entryAt (l ++ ns) = none := by
  cases he : d.entryAt (l ++ ns) with
  | none => rfl
  | some e => exact absurd (ht.directory_above hns (by simp [he])) h

theorem Tree.put (ht : d.Tree) {n : String} (hout : isOutward (l ++ [n]) = false)
    (hl : d.entryAt l = some .directory)
    (h : e = .directory ∨ d.entryAt (l ++ [n]) ≠ some .directory) : (d.put (l ++ [n]) e).Tree := by
  intro l' n' hne
  rw [entryAt_put hout] at hne ⊢
  by_cases hsame : l' ++ [n'] = l ++ [n]
  · obtain ⟨rfl, -⟩ := List.append_inj' hsame rfl
    rw [if_neg (by simp)]
    exact hl
  · rw [if_neg hsame] at hne
    have hdir := ht l' n' hne
    split
    · next hl' =>
      subst hl'
      rcases h with rfl | h
      · rfl
      · exact absurd hdir h
    · exact hdir

theorem Tree.erase (ht : d.Tree) (hout : isOutward l = false)
    (h : d.entryAt l ≠ some .directory) : (d.erase l).Tree := by
  intro l' n hne
  rw [entryAt_erase hout] at hne ⊢
  split at hne
  · exact absurd rfl hne
  · have hdir := ht l' n hne
    have hne' : l' ≠ l := by
      rintro rfl
      exact h hdir
    rw [if_neg hne']
    exact hdir

theorem Tree.prune (ht : d.Tree) (hout : isOutward l = false) : (d.prune l).Tree := by
  intro l' n hne
  rw [entryAt_prune hout] at hne ⊢
  split at hne
  · exact absurd rfl hne
  · next hnot =>
    rw [if_neg fun h => hnot (h.trans (List.prefix_append _ _))]
    exact ht l' n hne

/-! ### Walks -/

/-- No directory is lost. -/
def KeepsDirectories (d d' : Disk) : Prop :=
  ∀ l, d.entryAt l = some .directory → d'.entryAt l = some .directory

theorem KeepsDirectories.trans {d'' : Disk} (h : KeepsDirectories d d')
    (h' : KeepsDirectories d' d'') : KeepsDirectories d d'' :=
  fun l hl => h' l (h l hl)

theorem walk_append (d : Disk) (l : Location) (ns ms : List String) :
    d.walk l (ns ++ ms) = d.walk l ns >>= fun l' => d.walk l' ms := by
  induction ns generalizing l with
  | nil => rfl
  | cons n ns ih =>
    rw [List.cons_append, walk, walk]
    split
    · exact ih l
    split
    · exact ih (above l)
    split
    · rfl
    cases d.entryAt (l ++ [n]) with
    | none => rfl
    | some e => cases e <;> first | exact ih _ | rfl

theorem walk_cons_eq_ok_iff {n : String} {ns : List String} : d.walk l (n :: ns) = .ok l' ↔
    (n = "." ∧ d.walk l ns = .ok l') ∨ (n = ".." ∧ d.walk (above l) ns = .ok l') ∨
    (n ≠ "." ∧ n ≠ ".." ∧ n.utf8ByteSize ≤ maxName ∧ d.entryAt (l ++ [n]) = some .directory ∧
      d.walk (l ++ [n]) ns = .ok l') := by
  rw [walk]
  by_cases hhere : n = "."
  · simp [hhere]
  by_cases hup : n = ".."
  · simp [hup]
  rw [if_neg hhere, if_neg hup]
  by_cases hlong : maxName < n.utf8ByteSize
  · have hnot : ¬ n.utf8ByteSize ≤ maxName := by omega
    simp [hhere, hup, hlong, hnot]
  · have hle : n.utf8ByteSize ≤ maxName := by omega
    rw [if_neg hlong]
    cases he : d.entryAt (l ++ [n]) with
    | none => simp [hhere, hup]
    | some e => cases e <;> simp [hhere, hup, hle]

theorem walk_keep (h : KeepsDirectories d d') {ns : List String} (hw : d.walk l ns = .ok l') :
    d'.walk l ns = .ok l' := by
  induction ns generalizing l with
  | nil => exact hw
  | cons n ns ih =>
    refine walk_cons_eq_ok_iff.2 ?_
    rcases walk_cons_eq_ok_iff.1 hw with ⟨rfl, hw⟩ | ⟨rfl, hw⟩ | ⟨hhere, hup, hle, he, hw⟩
    · exact .inl ⟨rfl, ih hw⟩
    · exact .inr (.inl ⟨rfl, ih hw⟩)
    · exact .inr (.inr ⟨hhere, hup, hle, h _ he, ih hw⟩)

theorem entryAt_above (ht : d.Tree) (hl : d.entryAt l = some .directory) :
    d.entryAt (above l) = some .directory := by
  unfold above
  split
  · exact hl
  split
  · next hout =>
    refine entryAt_of_isOutward ?_
    rw [isOutward, List.all_append, ← isOutward, hout]
    decide
  · next hout =>
    have hne : l ≠ [] := by
      rintro rfl
      exact hout rfl
    rw [← List.dropLast_concat_getLast hne] at hl
    exact ht _ _ (by rw [hl]; simp)

theorem entryAt_of_walk (ht : d.Tree) (hl : d.entryAt l = some .directory) {ns : List String}
    (hw : d.walk l ns = .ok l') : d.entryAt l' = some .directory := by
  induction ns generalizing l with
  | nil => exact Except.ok.inj hw ▸ hl
  | cons n ns ih =>
    rcases walk_cons_eq_ok_iff.1 hw with ⟨-, hw⟩ | ⟨-, hw⟩ | ⟨-, -, -, he, hw⟩
    · exact ih hl hw
    · exact ih (entryAt_above ht hl) hw
    · exact ih he hw

theorem entryAt_start (d : Disk) (path : String) : d.entryAt (start path) = some .directory := by
  unfold start
  split <;> exact entryAt_of_isOutward (by decide)

end Disk

end VectorFamily
