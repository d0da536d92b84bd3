import VectorFamily.Proofs.FileSystem.Invariant
import VectorFamily.Proofs.FileSystem.Operations

/-!
# Trees stay trees

Every operation leaves a tree if it starts on one, also if it fails on the way: a disk that programs
made of the empty one is a tree.
-/

namespace VectorFamily

open FileSystem

namespace Disk

variable {d d' : Disk} {path : String} {parent : Location} {name : String} {slash : Bool}

theorem Tree.directory_of_resolve (ht : d.Tree)
    (h : d.resolve path = .ok (.child parent name slash)) :
    IsName name ∧ d.entryAt parent = some .directory := by
  rcases resolve_cases h with ⟨l, heq, -⟩ | ⟨way, parent', name', slash', heq, -, hname, -, hw⟩
  · cases heq
  · cases heq
    exact ⟨hname, entryAt_of_walk ht (entryAt_start d path) hw⟩

/-- What a path without a last name leads to is there. -/
theorem Tree.directory_of_resolve_here {l : Location} (ht : d.Tree)
    (h : d.resolve path = .ok (.here l)) : d.entryAt l = some .directory := by
  rcases resolve_cases h with ⟨l', heq, hw⟩ | ⟨way, parent', name', slash', heq, -, -, -, -⟩
  · cases heq
    exact entryAt_of_walk ht (entryAt_start d path) hw
  · cases heq

theorem ne_directory_of_file {l : Location} {file : Entry} (hnot : file = .directory → False)
    (h : d.entryAt l = some file) : d.entryAt l ≠ some .directory :=
  fun hd => hnot (Option.some.inj (h.symm.trans hd))

/-! ### Operations -/

theorem Tree.makeDirectory (ht : d.Tree) (h : d.makeDirectory path = .ok d') : d'.Tree := by
  obtain ⟨t, hr, hnone, rfl⟩ := makeDirectory_eq_ok_iff.1 h
  cases t with
  | here l =>
    rw [Target.location, ht.directory_of_resolve_here hr] at hnone
    cases hnone
  | child parent name slash =>
    obtain ⟨hname, hparent⟩ := ht.directory_of_resolve hr
    exact ht.put (isOutward_append_name hname) hparent (.inl rfl)

theorem Tree.writeFile {e : Entry} (ht : d.Tree) (h : d.writeFile path e = .ok d') : d'.Tree := by
  obtain ⟨t, ha, h⟩ := bind_eq_ok.1 h
  split at h
  · cases h
  · cases h
  · next parent name =>
    obtain ⟨⟨⟩, hcheck, h⟩ := bind_eq_ok.1 h
    obtain ⟨hname, hparent⟩ := ht.directory_of_resolve (resolve_eq_ok_iff.2 ⟨ha, hcheck⟩)
    split at h
    · cases h
    · next hplace =>
      obtain rfl := Except.ok.inj h
      exact ht.put (isOutward_append_name hname) hparent (.inr hplace)

theorem Tree.moveFile {target : String} (ht : d.Tree) (h : d.moveFile path target = .ok d') :
    d'.Tree := by
  obtain ⟨s, hs, h⟩ := bind_eq_ok.1 h
  obtain ⟨t, htarget, h⟩ := bind_eq_ok.1 h
  split at h
  · cases h
  · cases h
  next sparent sname sslash tparent tname tslash _ =>
  obtain ⟨hsname, hsparent⟩ := ht.directory_of_resolve hs
  obtain ⟨htname, htparent⟩ := ht.directory_of_resolve htarget
  rw [Target.location, Target.location] at h
  split at h
  · cases h
  · cases h
  next file hnot hfile =>
  have hfile' := ne_directory_of_file hnot hfile
  split at h
  · cases h
  split at h
  · cases h
  split at h
  · cases h
  next hplace =>
  obtain rfl := Except.ok.inj h
  have hparent : tparent ≠ sparent ++ [sname] := by
    rintro rfl
    exact hfile' htparent
  refine (ht.erase (isOutward_append_name hsname) hfile').put (isOutward_append_name htname) ?_
    (.inr ?_)
  · rwa [entryAt_erase (isOutward_append_name hsname), if_neg hparent]
  · rw [entryAt_erase (isOutward_append_name hsname)]
    split
    · simp
    · exact hplace

theorem Tree.remove (ht : d.Tree) (h : d.remove path = .ok d') : d'.Tree := by
  obtain ⟨t, hr, h⟩ := bind_eq_ok.1 h
  split at h
  · cases h
  · cases h
  · next parent name slash hdir =>
    obtain rfl := Except.ok.inj h
    exact ht.prune (isOutward_append_name (ht.directory_of_resolve hr).1)
  · next hnot hfile =>
    split at h
    · cases h
    · obtain rfl := Except.ok.inj h
      exact ht.erase (isOutward_append_name (ht.directory_of_resolve hr).1)
        (ne_directory_of_file hnot hfile)

/-! ### Operations that stop on the way -/

/-- What is left of a file that was not written to its end is still no directory. -/
theorem Tree.writePart (ht : d.Tree) (contents : String) (progress : Nat) :
    (d.writePart path contents progress).Tree := by
  cases progress with
  | zero => exact ht
  | succ written =>
    rw [Disk.writePart]
    cases hwrite : d.writeFile path (Entry.ofBytes (contents.toUTF8.extract 0 written)) with
    | ok d' => exact ht.writeFile hwrite
    | error cause => exact ht

/-- A directory goes after all that is in it, so nothing is left without the directory it is in. -/
theorem Tree.removePart (ht : d.Tree) (marked : Location → Bool) :
    (d.removePart path marked).Tree := by
  unfold Disk.removePart
  split
  · next target _ =>
    -- a location stays if something below it does
    let stays (l : Location) : Bool := !(target.location.isPrefixOf l &&
      d.entries.all fun below => !l.isPrefixOf below.1 || marked below.1)
    have hstays : ∀ l n, stays (l ++ [n]) = true → stays l = true := by
      intro l n h
      rw [Bool.not_eq_true', Bool.eq_false_iff] at h ⊢
      intro hl
      rw [Bool.and_eq_true, List.isPrefixOf_iff_prefix] at hl
      refine h ?_
      rw [Bool.and_eq_true, List.isPrefixOf_iff_prefix]
      refine ⟨hl.1.trans (List.prefix_append _ _), List.all_eq_true.2 fun below hbelow => ?_⟩
      have hmarked := List.all_eq_true.1 hl.2 below hbelow
      rw [Bool.or_eq_true, Bool.not_eq_true', Bool.eq_false_iff, ne_eq,
        List.isPrefixOf_iff_prefix] at hmarked ⊢
      exact hmarked.imp_left fun hnot hpre => hnot ((List.prefix_append _ _).trans hpre)
    have hentry : ∀ l, entryAt ⟨d.entries.filter fun e => stays e.1⟩ l =
        if isOutward l then some .directory else if stays l then d.entries.lookup l else none := by
      intro l
      rw [entryAt, lookup_filter_fst]
    intro l n hne
    rw [hentry] at hne ⊢
    split
    · rfl
    next hin =>
    have hout : isOutward (l ++ [n]) = false := by
      rw [Bool.eq_false_iff]
      exact fun hout => hin (isOutward_of_below (List.prefix_append _ _) hout)
    rw [hout, if_neg (by simp)] at hne
    split at hne
    · next hkept =>
      have hdir := ht l n (by rwa [entryAt, hout, if_neg (by simp)])
      rw [entryAt, if_neg hin] at hdir
      rw [if_pos (hstays l n hkept), hdir]
    · exact absurd rfl hne
  · exact ht

/-! ### Programs -/

theorem keepsTree_perform {α : Type} {op : Operation} {f : Disk → Except Cause (α × Disk)}
    {part : Mishap → Disk → Disk} (hok : ∀ d a d', d.Tree → f d = .ok (a, d') → d'.Tree)
    (hpart : ∀ mishap d, d.Tree → (part mishap d).Tree) :
    Keeps (·.disk.Tree) (Machine.perform op f part).run :=
  keeps_perform (fun m a d ht h => hok m.disk a d ht h) (fun m mishap => hpart mishap m.disk)
    fun _ ht => ht

theorem keepsTree_perform_map {op : Operation} {f : Disk → Except Cause Disk}
    {part : Mishap → Disk → Disk} (hok : ∀ d d', d.Tree → f d = .ok d' → d'.Tree)
    (hpart : ∀ mishap d, d.Tree → (part mishap d).Tree) :
    Keeps (·.disk.Tree) (Machine.perform op (fun d => (f d).map ((), ·)) part).run := by
  refine keepsTree_perform (fun d a d' ht h => ?_) hpart
  cases hf : f d with
  | ok d₁ =>
    rw [hf] at h
    obtain ⟨-, rfl⟩ := Prod.mk.inj (Except.ok.inj h)
    exact hok d _ ht hf
  | error cause =>
    rw [hf] at h
    cases h

/-- Whatever goes wrong, a tree stays a tree. -/
theorem invariant_tree : Invariant (·.disk.Tree) where
  makeDirectory _ := keepsTree_perform_map (fun _ _ ht h => ht.makeDirectory h) fun _ _ ht => ht
  makeEnding _ ht := ht
  isDirectory path m ht := by
    rw [run_isDirectory]
    exact ht
  readText path m ht := by
    show (outcome (FileSystem.readText path : ExceptT Cause Change String) m).2.disk.Tree
    rw [outcome_readText_snd]
    exact ht
  writeText _ _ := keepsTree_perform_map (fun _ _ ht h => ht.writeFile h)
    fun mishap _ ht => ht.writePart _ mishap.progress
  moveFile _ _ := keepsTree_perform_map (fun _ _ ht h => ht.moveFile h) fun _ _ ht => ht
  removeDirectory _ := keepsTree_perform_map (fun _ _ ht h => ht.remove h)
    fun mishap _ ht => ht.removePart mishap.marked

end Disk

end VectorFamily
