import VectorFamily.Proofs.FileSystem.Files
import VectorFamily.Proofs.FileSystem.Invariant
import VectorFamily.Proofs.FileSystem.Operations

/-!
# Files on their way through a scratch directory

A set is written to a new scratch directory and moved from there to its place. Whatever goes wrong
while it is written, also in the middle of a file, changes nothing but the scratch directory. Each
of the two loops succeeds just under conditions on the disk on which it starts, if nothing else goes
wrong. When the scratch directory is removed, the disk is the one before with the files put in their
places that were moved.
-/

namespace VectorFamily

open FileSystem

/-! ### Disks with a scratch directory -/

namespace Disk

variable {d d' d'' : Disk} {S D l : Location} {dir c name : String} {e : Entry}

section
variable (hS : isOutward S = false) (h : d'.prune S = d)
include hS h

theorem entryAt_of_prune_eq (he : d.entryAt l = some e) : d'.entryAt l = some e := by
  rw [← h, entryAt_prune hS] at he
  split at he
  · cases he
  · exact he

theorem keepsDirectories_of_prune_eq : KeepsDirectories d d' := fun _ => entryAt_of_prune_eq hS h

end

/-- There is a scratch directory, and without it the disk is `d`. -/
structure Scratched (d d' : Disk) (S : Location) : Prop where
  pruned : d'.prune S = d
  directory : d'.entryAt S = some .directory

section
variable (hc : IsName c)
include hc

theorem scratched_put (ht : d.Tree) (hfree : d.entryAt (D ++ [c]) = none) :
    Scratched d (d.put (D ++ [c]) .directory) (D ++ [c]) := by
  refine ⟨?_, entryAt_put_self _ _ _ (isOutward_append_name hc)⟩
  rw [prune_put_of_below (List.prefix_refl _), ht.prune_eq_self hfree]

variable (hD : DirectoryAt d dir D) (hfits : Fits dir c) (h : Scratched d d' (D ++ [c]))
include h

theorem Scratched.keepsDirectories : KeepsDirectories d d' :=
  keepsDirectories_of_prune_eq (isOutward_append_name hc) h.pruned

include hD hfits

theorem Scratched.directoryAt : DirectoryAt d' (join dir c) (D ++ [c]) :=
  (hD.keep (h.keepsDirectories hc)).join hc hfits.name h.directory

theorem Scratched.remove : d'.remove (join dir c) = .ok d :=
  (remove_join_eq_ok_iff (hD.keep (h.keepsDirectories hc)) hc h.directory).2
    ⟨hfits, h.pruned.symm⟩

/-- Whatever is removed of a scratch directory, nothing else is. -/
theorem Scratched.prune_removePart (marked : Location → Bool) :
    (d'.removePart (join dir c) marked).prune (D ++ [c]) = d := by
  have hr := (resolve_join_eq_ok_iff (hD.keep (h.keepsDirectories hc)) hc).2 ⟨hfits, rfl⟩
  refine Eq.trans ?_ h.pruned
  rw [Disk.removePart, hr]
  refine congrArg Disk.mk (Eq.trans List.filter_filter (List.filter_congr fun x _ => ?_))
  show (!(D ++ [c]).isPrefixOf x.1 && !((D ++ [c]).isPrefixOf x.1 && _)) = _
  cases (D ++ [c]).isPrefixOf x.1 <;> rfl

variable (hname : IsName name)
include hname

theorem Scratched.writeFile (hw : d'.writeFile (join (join dir c) name) e = .ok d'') :
    Scratched d d'' (D ++ [c]) := by
  obtain ⟨-, -, rfl⟩ := (writeFile_join_eq_ok_iff (h.directoryAt hc hD hfits) hname).1 hw
  refine ⟨(prune_put_of_below (List.prefix_append _ _)).trans h.pruned, ?_⟩
  rw [entryAt_put (isOutward_append_name hname), if_neg (by simp)]
  exact h.directory

theorem Scratched.writePart (contents : String) (progress : Nat) :
    Scratched d (d'.writePart (join (join dir c) name) contents progress) (D ++ [c]) := by
  cases progress with
  | zero => exact h
  | succ written =>
    rw [Disk.writePart]
    cases hw : d'.writeFile (join (join dir c) name)
      (Entry.ofBytes (contents.toUTF8.extract 0 written)) with
    | ok d'' => exact h.writeFile hc hD hfits hname hw
    | error cause => exact h

end

end Disk

open Disk

namespace OutputSet

variable {s : OutputSet} {d : Disk} {m m' : Machine} {dir scratch c : String} {D S : Location}
  {fs : List (String × String)} {r : CommitReport} {e : Failure}

/-! ### Staging -/

/-- Staging changes nothing but the scratch directory, whatever goes wrong. -/
theorem keeps_stage (hD : DirectoryAt d dir D) (hc : IsName c) (hfits : Fits dir c)
    (hfs : ∀ f ∈ fs, IsName f.1) : Keeps (fun m => Scratched d m.disk (D ++ [c]))
      (stage (join dir c) fs : ExceptT Failure Change Unit).run := by
  induction fs with
  | nil => exact keeps_pure _
  | cons f fs ih =>
    obtain ⟨hf, hfs⟩ := List.forall_mem_cons.1 hfs
    refine Keeps.run_bind (Keeps.run_writing fun m h => ?_) fun _ => ih hfs
    show Scratched d (outcome (FileSystem.writeText (join (join dir c) f.1) f.2 :
      ExceptT Cause Change Unit) m).2.disk _
    rcases hwrite : outcome (FileSystem.writeText (join (join dir c) f.1) f.2 :
      ExceptT Cause Change Unit) m with ⟨_ | _, m'⟩
    · obtain ⟨progress, rfl⟩ := exists_writePart_of_writeText_eq_error hwrite
      exact h.writePart hc hD hfits hf f.2 progress
    · obtain ⟨-, d', hd', rfl⟩ := outcome_writeText_eq_ok_iff.1 hwrite
      exact h.writeFile hc hD hfits hf hd'

theorem stage_eq_ok_iff (hfs : ∀ f ∈ fs, IsName f.1) (hS : DirectoryAt m.disk scratch S) :
    outcome (stage scratch fs) m = (.ok (), m') ↔
      (m.Clear .writeText fs.length ∧
        ∀ f ∈ fs, Fits scratch f.1 ∧ m.disk.entryAt (S ++ [f.1]) ≠ some .directory) ∧
      m' = m.later (m.disk.putAll S fs) fs.length := by
  induction fs generalizing m with
  | nil => simp [stage, putAll, eq_comm, m.clear_zero, m.later_zero]
  | cons f fs ih =>
    obtain ⟨hf, hfs⟩ := List.forall_mem_cons.1 hfs
    rw [stage, outcome_bind_eq_ok_iff, List.forall_mem_cons, putAll_cons, List.length_cons]
    simp only [outcome_writing_eq_ok_iff, outcome_writeText_eq_ok_iff,
      writeFile_join_eq_ok_iff hS hf]
    constructor
    · rintro ⟨⟨⟩, m₁, ⟨hclear, d, ⟨hfits, hplace, rfl⟩, rfl⟩, hrest⟩
      have hiff := fun l => directory_put_iff (l := l) hf hplace
      obtain ⟨⟨hclears, hall⟩, rfl⟩ := (ih hfs (hS.keep fun l => (hiff l).2)).1 hrest
      refine ⟨⟨Machine.clear_succ_iff.2 ⟨hclear, hclears⟩, ⟨hfits, hplace⟩, fun g hg =>
        (hall g hg).imp_right (mt (hiff _).2)⟩, m.later_after _ _ _⟩
    · rintro ⟨⟨hclears, ⟨hfits, hplace⟩, hall⟩, rfl⟩
      have hiff := fun l => directory_put_iff (l := l) hf hplace
      obtain ⟨hclear, hclears⟩ := Machine.clear_succ_iff.1 hclears
      exact ⟨(), _, ⟨hclear, _, ⟨hfits, hplace, rfl⟩, rfl⟩,
        (ih hfs (hS.keep fun l => (hiff l).2)).2 ⟨⟨hclears, fun g hg =>
          (hall g hg).imp_right (mt (hiff _).1)⟩, (m.later_after _ _ _).symm⟩⟩

/-! ### Moving -/

/-- A move out of a directory below is refused only under that directory's own name. -/
theorem prefix_below_iff {n : String} :
    (D ++ [n] <+: D ++ [c] ++ [n] → D = D ++ [c]) ↔ n ≠ c := by
  have hbelow : D ++ [n] <+: D ++ [c] ++ [n] ↔ n = c := by
    rw [List.append_assoc, List.prefix_append_right_inj]
    simp
  rw [hbelow]
  simp

theorem unstage_eq_ok_iff (hfs : ∀ f ∈ fs, IsName f.1) (hne : fs.Pairwise fun f g => f.1 ≠ g.1)
    (hS : DirectoryAt m.disk scratch (D ++ [c])) (hD : DirectoryAt m.disk dir D)
    (hstaged : ∀ f ∈ fs, m.disk.entryAt (D ++ [c] ++ [f.1]) = some (.text f.2)) :
    outcome (unstage scratch dir fs) m = (.ok (), m') ↔
      (m.Clear .moveFile fs.length ∧ ∀ f ∈ fs, Fits scratch f.1 ∧ Fits dir f.1 ∧ f.1 ≠ c ∧
        m.disk.entryAt (D ++ [f.1]) ≠ some .directory) ∧
      m' = m.later (m.disk.moveAll (D ++ [c]) D fs) fs.length := by
  induction fs generalizing m with
  | nil => simp [unstage, moveAll, eq_comm, m.clear_zero, m.later_zero]
  | cons f fs ih =>
    obtain ⟨hf, hfs⟩ := List.forall_mem_cons.1 hfs
    obtain ⟨hgs, hne⟩ := List.pairwise_cons.1 hne
    obtain ⟨he, hstaged⟩ := List.forall_mem_cons.1 hstaged
    rw [unstage, outcome_bind_eq_ok_iff, List.forall_mem_cons, List.length_cons]
    simp only [outcome_writing_eq_ok_iff, outcome_moveFile_eq_ok_iff,
      moveFile_join_eq_ok_iff hS hD hf he, prefix_below_iff]
    -- what is still staged stays, and no directory comes or goes
    have hrest : m.disk.entryAt (D ++ [f.1]) ≠ some .directory →
        (∀ l, ((m.disk.erase (D ++ [c] ++ [f.1])).put (D ++ [f.1]) (.text f.2)).entryAt l =
          some .directory ↔ m.disk.entryAt l = some .directory) ∧
        ∀ g ∈ fs, ((m.disk.erase (D ++ [c] ++ [f.1])).put (D ++ [f.1]) (.text f.2)).entryAt
          (D ++ [c] ++ [g.1]) = some (.text g.2) := by
      intro hplace
      refine ⟨fun l => directory_move_iff hf hplace (by rw [he]; simp), fun g hg => ?_⟩
      rw [entryAt_move hf, if_neg (by simp), if_neg (by simpa using (hgs g hg).symm)]
      exact hstaged g hg
    constructor
    · rintro ⟨⟨⟩, m₁, ⟨hclear, d, ⟨hsrc, hdir, hname, hplace, rfl⟩, rfl⟩, hmoved⟩
      obtain ⟨hiff, hstill⟩ := hrest hplace
      obtain ⟨⟨hclears, hall⟩, rfl⟩ :=
        (ih hfs hne (hS.keep fun l => (hiff l).2) (hD.keep fun l => (hiff l).2) hstill).1 hmoved
      refine ⟨⟨Machine.clear_succ_iff.2 ⟨hclear, hclears⟩, ⟨hsrc, hdir, hname, hplace⟩,
        fun g hg => ?_⟩, m.later_after _ _ _⟩
      obtain ⟨hsrc, hdir, hname, hplace⟩ := hall g hg
      exact ⟨hsrc, hdir, hname, mt (hiff _).2 hplace⟩
    · rintro ⟨⟨hclears, ⟨hsrc, hdir, hname, hplace⟩, hall⟩, rfl⟩
      obtain ⟨hiff, hstill⟩ := hrest hplace
      obtain ⟨hclear, hclears⟩ := Machine.clear_succ_iff.1 hclears
      refine ⟨(), _, ⟨hclear, _, ⟨hsrc, hdir, hname, hplace, rfl⟩, rfl⟩,
        (ih hfs hne (hS.keep fun l => (hiff l).2) (hD.keep fun l => (hiff l).2) hstill).2
          ⟨⟨hclears, fun g hg => ?_⟩, (m.later_after _ _ _).symm⟩⟩
      obtain ⟨hsrc, hdir, hname, hplace⟩ := hall g hg
      exact ⟨hsrc, hdir, hname, mt (hiff _).1 hplace⟩

/-- Moving stops at the first file that cannot be moved, and leaves what it leaves when only the
files before that one are moved. -/
theorem exists_take_of_unstage_eq_error
    (h : outcome (unstage scratch dir fs) m = (.error e, m')) :
    ∃ k f cause m₁, fs[k]? = some f ∧ e = .notWritten (join dir f.1) cause ∧
      outcome (unstage scratch dir (fs.take k)) m = (.ok (), m₁) ∧ m' = m₁.after m₁.disk ∧
      ∀ m₂, outcome (unstage scratch dir (fs.take (k + 1))) m ≠ (.ok (), m₂) := by
  induction fs generalizing m with
  | nil => cases (Prod.mk.inj h).1
  | cons f fs ih =>
    rw [unstage, outcome_bind_eq_error_iff] at h
    rcases h with hfirst | ⟨⟨⟩, m₁, hfirst, hrest⟩
    · obtain ⟨cause, rfl, hmove⟩ := outcome_writing_eq_error_iff.1 hfirst
      refine ⟨0, f, cause, m, rfl, rfl, rfl, eq_after_of_moveFile_eq_error hmove, fun m₂ hone => ?_⟩
      obtain ⟨⟨⟩, m₃, hmoved, -⟩ := outcome_bind_eq_ok_iff.1 hone
      cases (Prod.mk.inj (hfirst.symm.trans hmoved)).1
    · obtain ⟨k, g, cause, m₂, hg, he, htaken, hm', hnext⟩ := ih hrest
      refine ⟨k + 1, g, cause, m₂, hg, he, ?_, hm', fun m₃ hone => ?_⟩
      · rw [List.take_succ_cons, unstage]
        exact outcome_bind_eq_ok_iff.2 ⟨(), m₁, hfirst, htaken⟩
      · obtain ⟨⟨⟩, m₁', hfirst', hrest'⟩ := outcome_bind_eq_ok_iff.1 hone
        obtain rfl := (Prod.mk.inj (hfirst.symm.trans hfirst')).2
        exact hnext m₃ hrest'

/-! ### Filling -/

theorem names_ne (s : OutputSet) : s.files.Pairwise fun f g => f.1 ≠ g.1 :=
  s.sorted.imp fun h => Std.ne_of_lt h

/-- The set of the first files. -/
def take (s : OutputSet) (k : Nat) : OutputSet where
  files := s.files.take k
  sorted := s.sorted.sublist (List.take_sublist k s.files)

theorem take_size (s : OutputSet) : s.take s.size = s := by
  cases s with
  | mk files sorted => simp [take, size]

/-- The disk with a new scratch directory that holds the files of a set. -/
def staged (s : OutputSet) (d : Disk) (D : Location) (c : String) : Disk :=
  (d.put (D ++ [c]) .directory).putAll (D ++ [c]) s.files

/-- The conditions under which the files of a set go through a scratch directory of a name to their
places. -/
structure Fillable (s : OutputSet) (d : Disk) (dir : String) (D : Location) (c : String) :
    Prop where
  scratch : ∀ f ∈ s.files, Fits (join dir c) f.1
  fits : ∀ f ∈ s.files, Fits dir f.1
  name : ∀ f ∈ s.files, f.1 ≠ c
  place : ∀ f ∈ s.files, d.entryAt (D ++ [f.1]) ≠ some .directory

theorem Fillable.take (h : s.Fillable d dir D c) (k : Nat) : (s.take k).Fillable d dir D c :=
  have hsub : ∀ f ∈ (s.take k).files, f ∈ s.files := fun _ hf => List.mem_of_mem_take hf
  ⟨fun f hf => h.scratch f (hsub f hf), fun f hf => h.fits f (hsub f hf),
    fun f hf => h.name f (hsub f hf), fun f hf => h.place f (hsub f hf)⟩

section
variable (hs : ∀ f ∈ s.files, IsName f.1) (ht : d.Tree) (hc : IsName c)
  (hfree : d.entryAt (D ++ [c]) = none)

include hs in
theorem entryAt_staged_file {f : String × String} (hf : f ∈ s.files) :
    (s.staged d D c).entryAt (D ++ [c] ++ [f.1]) = some (.text f.2) :=
  entryAt_putAll_of_mem hs s.names_ne hf

include hs hc in
theorem entryAt_staged_of_ne {n : String} (hn : n ≠ c) :
    (s.staged d D c).entryAt (D ++ [n]) = d.entryAt (D ++ [n]) := by
  rw [staged, entryAt_putAll_of_forall_ne hs (by simp), entryAt_put (isOutward_append_name hc),
    if_neg (by simpa using hn)]

include ht hc hfree

/-- A new scratch directory is empty. -/
theorem entryAt_put_scratch_ne (n : String) :
    (d.put (D ++ [c]) .directory).entryAt (D ++ [c] ++ [n]) ≠ some .directory := by
  rw [entryAt_put (isOutward_append_name hc), if_neg (by simp),
    ht.entryAt_eq_none (by simp [hfree]) (by simp)]
  simp

include hs

theorem scratched_staged : Scratched d (s.staged d D c) (D ++ [c]) := by
  have hnew := scratched_put hc ht hfree
  refine ⟨(prune_putAll_of_below fun f _ => List.prefix_append _ _).trans hnew.pruned, ?_⟩
  exact (keepsDirectories_putAll hs fun _ _ => entryAt_put_scratch_ne ht hc hfree _) _
    hnew.directory

/-- Without the scratch directory, the files that were moved are put in their places, and no
more. -/
theorem scratched_moveAll (hsub : ∀ f ∈ fs, f ∈ s.files) (hne : ∀ f ∈ fs, f.1 ≠ c)
    (hplace : ∀ f ∈ fs, d.entryAt (D ++ [f.1]) ≠ some .directory) :
    Scratched (d.putAll D fs) ((s.staged d D c).moveAll (D ++ [c]) D fs) (D ++ [c]) := by
  have hstaged := scratched_staged hs ht hc hfree
  refine ⟨?_, keepsDirectories_moveAll (fun f hf => hs f (hsub f hf)) (fun f hf => ?_)
    (fun f hf => ?_) _ hstaged.directory⟩
  · rw [prune_moveAll, hstaged.pruned]
    intro f hf hpre
    have heq : c = f.1 := by simpa using (List.prefix_append_right_inj D).1 hpre
    exact hne f hf heq.symm
  · rw [entryAt_staged_of_ne hs hc (hne f hf)]
    exact hplace f hf
  · rw [entryAt_staged_file hs (hsub f hf)]
    simp

variable (hD : DirectoryAt d dir D) (hfits : Fits dir c)
include hD hfits

theorem stage_files_eq_ok_iff (hm : m.disk = d.put (D ++ [c]) .directory) :
    outcome (stage (join dir c) s.files) m = (.ok (), m') ↔
      (m.Clear .writeText s.size ∧ ∀ f ∈ s.files, Fits (join dir c) f.1) ∧
        m' = m.later (s.staged d D c) s.size := by
  have hnew := (scratched_put hc ht hfree).directoryAt hc hD hfits
  rw [stage_eq_ok_iff hs (by rwa [hm]), hm]
  refine and_congr_left fun _ => and_congr_right fun _ => forall₂_congr fun f _ => ?_
  exact and_iff_left (entryAt_put_scratch_ne ht hc hfree f.1)

theorem unstage_take_eq_ok_iff {k : Nat} (hm : m.disk = s.staged d D c) :
    outcome (unstage (join dir c) dir (s.take k).files) m = (.ok (), m') ↔
      (m.Clear .moveFile (s.take k).size ∧ (s.take k).Fillable d dir D c) ∧
        m' = m.later ((s.staged d D c).moveAll (D ++ [c]) D (s.take k).files) (s.take k).size := by
  have hsub : ∀ f ∈ (s.take k).files, f ∈ s.files := fun f hf => List.mem_of_mem_take hf
  have hstaged := scratched_staged hs ht hc hfree
  rw [unstage_eq_ok_iff (fun f hf => hs f (hsub f hf)) (s.take k).names_ne
    (by rw [hm]; exact hstaged.directoryAt hc hD hfits)
    (by rw [hm]; exact hD.keep (hstaged.keepsDirectories hc))
    (by rw [hm]; exact fun f hf => entryAt_staged_file hs (hsub f hf)), hm]
  refine and_congr_left fun _ => and_congr_right fun _ => ?_
  constructor
  · intro h
    refine ⟨fun f hf => (h f hf).1, fun f hf => (h f hf).2.1, fun f hf => (h f hf).2.2.1,
      fun f hf => ?_⟩
    obtain ⟨-, -, hname, hplace⟩ := h f hf
    rwa [entryAt_staged_of_ne hs hc hname] at hplace
  · intro h f hf
    refine ⟨h.scratch f hf, h.fits f hf, h.name f hf, ?_⟩
    rw [entryAt_staged_of_ne hs hc (h.name f hf)]
    exact h.place f hf

/-- What filling leaves when it stops, be it at the end: the first files are in their places once
the scratch directory is removed. It is the move of the next file that fails if staging does not,
and if nothing else goes wrong that one does not meet the conditions. -/
theorem of_fill {r : Except Failure Unit} (hm : m.disk = d.put (D ++ [c]) .directory)
    (h : outcome (s.fill (join dir c) dir) m = (r, m')) :
    ∃ k, (s.take k).Fillable d dir D c ∧
      Scratched (d.putAll D (s.take k).files) m'.disk (D ++ [c]) ∧
      match r with
      | .ok _ => k = s.size
      | .error e =>
        match (outcome (stage (join dir c) s.files) m).1 with
        | .error e' => k = 0 ∧ e = e'
        | .ok _ => (∃ f cause, s.files[k]? = some f ∧ e = .notWritten (join dir f.1) cause) ∧
          (m.Quiet → ¬ (s.take (k + 1)).Fillable d dir D c) := by
  have hnew := scratched_put hc ht hfree
  rw [fill, outcome_bind] at h
  rcases hstage : outcome (stage (join dir c) s.files) m with ⟨e | ⟨⟩, m₁⟩
  · rw [hstage] at h
    obtain ⟨rfl, rfl⟩ := Prod.mk.inj h
    refine ⟨0, ⟨List.forall_mem_nil _, List.forall_mem_nil _, List.forall_mem_nil _,
      List.forall_mem_nil _⟩, ?_, rfl, rfl⟩
    exact (keeps_stage hD hc hfits hs).outcome hstage (by rwa [hm])
  · rw [hstage] at h
    obtain ⟨-, rfl⟩ := (stage_files_eq_ok_iff hs ht hc hfree hD hfits hm).1 hstage
    have hdisk : (m.later (s.staged d D c) s.size).disk = s.staged d D c := rfl
    have hmoved : ∀ {k}, (s.take k).Fillable d dir D c → Scratched (d.putAll D (s.take k).files)
        ((s.staged d D c).moveAll (D ++ [c]) D (s.take k).files) (D ++ [c]) := fun hfill =>
      scratched_moveAll hs ht hc hfree (fun _ hf => List.mem_of_mem_take hf) hfill.name hfill.place
    cases r with
    | ok a =>
      have hall : outcome (unstage (join dir c) dir (s.take s.size).files)
          (m.later (s.staged d D c) s.size) = (.ok a, m') := by
        rwa [take_size]
      obtain ⟨⟨-, hfill⟩, rfl⟩ := (unstage_take_eq_ok_iff hs ht hc hfree hD hfits hdisk).1 hall
      exact ⟨s.size, hfill, hmoved hfill, rfl⟩
    | error e =>
      obtain ⟨k, f, cause, m₂, hf, he, htaken, rfl, hnext⟩ := exists_take_of_unstage_eq_error h
      obtain ⟨⟨-, hfill⟩, rfl⟩ := (unstage_take_eq_ok_iff hs ht hc hfree hD hfits hdisk).1 htaken
      refine ⟨k, hfill, hmoved hfill, ⟨f, cause, hf, he⟩, fun hq hfill' => ?_⟩
      have htaken' := (unstage_take_eq_ok_iff (k := k + 1) hs ht hc hfree hD hfits hdisk).2
        ⟨⟨fun _ _ => hq .moveFile _, hfill'⟩, rfl⟩
      exact hnext _ htaken'

end

/-! ### What all operations keep -/

section
variable {I : Machine → Prop} (hI : Invariant I)
include hI

theorem keeps_stage_of_invariant :
    Keeps I (stage scratch fs : ExceptT Failure Change Unit).run := by
  induction fs with
  | nil => exact keeps_pure _
  | cons f fs ih => exact (hI.writeText _ _).run_writing.run_bind fun _ => ih

theorem keeps_unstage_of_invariant :
    Keeps I (unstage scratch dir fs : ExceptT Failure Change Unit).run := by
  induction fs with
  | nil => exact keeps_pure _
  | cons f fs ih => exact (hI.moveFile _ _).run_writing.run_bind fun _ => ih

theorem keeps_fill_of_invariant (s : OutputSet) :
    Keeps I (s.fill scratch dir : ExceptT Failure Change Unit).run :=
  (keeps_stage_of_invariant hI).run_bind fun _ => keeps_unstage_of_invariant hI

end

end OutputSet

end VectorFamily
