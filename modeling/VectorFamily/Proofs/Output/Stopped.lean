import VectorFamily.Proofs.Output.Commit

/-!
# Commits that fail

A commit that fails has put the first files of the set in their places and has done no more. What
fails before the first file is moved, be it in the middle of a file, leaves nothing but directories
on the way to the output directory; after that it is the move of a file that fails, and the files
before it are those that were moved. The scratch directory is gone unless it could not be removed.
-/

namespace VectorFamily

open FileSystem Disk

namespace OutputSet

variable {s : OutputSet} {d d' : Disk} {m m' : Machine} {dir scratch : String} {e : Failure}
  {k : Nat} {result : Except Failure CommitReport}

/-- The first `k` files are committed to a directory and no others. If there are none it may be that
the directory could not be made. -/
def Stopped (s : OutputSet) (k : Nat) (dir : String) (d d' : Disk) : Prop :=
  (k = 0 ∧ Led d d' dir) ∨ ∃ D, (s.take k).Committed dir d d' D

/-- The disks differ at most in a scratch directory that could not be removed. -/
def Leftover (dir : String) (d d' : Disk) : Prop :=
  d' = d ∨ ∃ D e, DirectoryAt d dir D ∧ d.entryAt (D ++ [scratchName scratchPrefix e]) = none ∧
    d'.prune (D ++ [scratchName scratchPrefix e]) = d

theorem Leftover.readText {path contents : String} (h : Leftover dir d d')
    (hread : d.readText path = .ok contents) : d'.readText path = .ok contents := by
  rcases h with rfl | ⟨D, e, -, -, hpruned⟩
  · exact hread
  · have hout : isOutward (D ++ [scratchName scratchPrefix e]) = false :=
      isOutward_append_name (isName_scratch e)
    exact readText_keep (fun t ht => resolve_keep (keepsDirectories_of_prune_eq hout hpruned) ht)
      (fun t _ he => entryAt_of_prune_eq hout hpruned he) hread

section
variable (hs : ∀ f ∈ s.files, IsName f.1)
include hs

/-- The name of the scratch directory is free again. -/
theorem Ended.free {d₁ : Disk} {D : Location} {ending : Ending} {m₁ m₂ : Machine}
    (hopened : Opened dir d d₁ d' D ending)
    (h : s.Ended dir d₁ D (scratchName scratchPrefix ending) k m₁ m₂ result) :
    (d₁.putAll D (s.take k).files).entryAt (D ++ [scratchName scratchPrefix ending]) = none := by
  have hsub : ∀ f ∈ (s.take k).files, IsName f.1 := fun f hf => hs f (List.mem_of_mem_take hf)
  rw [entryAt_putAll_of_forall_ne hsub fun f hf => by simpa using (h.fillable.name f hf).symm]
  exact hopened.free

/-- Whatever goes wrong, the first files are committed, but for a scratch directory that could not
be removed. -/
theorem exists_stopped_of_commit (ht : m.disk.Tree)
    (h : outcome (s.commit dir) m = (result, m')) :
    ∃ k d, s.Stopped k dir m.disk d ∧ Leftover dir d m'.disk ∧
      (m.Spares .removeDirectory → m'.disk = d) := by
  rcases ended_of_commit hs ht h with ⟨e, -, hopen⟩ | ⟨m₁, d, D, ending, k, hopen, hopened, hended⟩
  · exact ⟨0, m'.disk, .inl ⟨rfl, led_of_openScratch_eq_error ht hopen⟩, .inl rfl, fun _ => rfl⟩
  · have hmishap := (keeps_openScratch_of_invariant (invariant_mishap? m.mishap?)).outcome hopen rfl
    have hcommitted := hended.committed hs hopened
    exact ⟨k, _, .inr ⟨D, hcommitted⟩,
      .inr ⟨D, ending, hcommitted.directory, hended.free hs hopened, hended.pruned⟩,
      fun hspare => (hended.spared fun n => by rw [hmishap, hspare]).1⟩

end

theorem outcome_prepare_fst {m₁ : Machine}
    (h : outcome (openScratch dir) m = (.ok scratch, m₁)) :
    (outcome (s.prepare dir) m).1 =
      (outcome (stage scratch s.files) m₁).1.map fun _ => scratch := by
  rw [prepare, outcome_bind, h]
  simp only
  rw [outcome_bind]
  rcases outcome (stage scratch s.files) m₁ with ⟨_ | _, _⟩ <;> rfl

/-- A commit that fails has put the first `k` files in their places, changed nothing else and left
no scratch directory, if that can be removed. It is the move of the next file that fails, and none
is moved if something fails before. -/
theorem commit_error_spec (ht : m.disk.Tree) (hs : ∀ name ∈ s.names, IsName name)
    (hspare : m.Spares .removeDirectory)
    (h : outcome (s.commit dir) m = (.error e, m')) :
    ∃ k, s.Stopped k dir m.disk m'.disk ∧
      (∀ scratch m₁, outcome (openScratch dir) m = (.ok scratch, m₁) →
        m'.disk.vacant scratch = true) ∧
      match (outcome (s.prepare dir) m).1 with
      | .error e' => k = 0 ∧ e = e'
      | .ok _ => ∃ f cause, s.files[k]? = some f ∧ e = .notWritten (join dir f.1) cause := by
  have hfiles : ∀ f ∈ s.files, IsName f.1 := fun f hf => hs f.1 (List.mem_map_of_mem hf)
  rcases ended_of_commit hfiles ht h with ⟨e', he, hopen⟩ |
    ⟨m₁, d, D, ending, k, hopen, hopened, hended⟩
  · obtain rfl := Except.error.inj he
    refine ⟨0, .inl ⟨rfl, led_of_openScratch_eq_error ht hopen⟩, fun scratch m₁ hopened => ?_, ?_⟩
    · cases (Prod.mk.inj (hopen.symm.trans hopened)).1
    · rw [prepare, outcome_bind, hopen]
      exact ⟨rfl, rfl⟩
  · have hmishap := (keeps_openScratch_of_invariant (invariant_mishap? m.mishap?)).outcome hopen rfl
    obtain ⟨hdisk, hstaged⟩ := hended.spared fun n => by rw [hmishap, hspare]
    have hcommitted := hended.committed hfiles hopened
    rw [← hdisk] at hcommitted
    refine ⟨k, .inr ⟨D, hcommitted⟩, fun scratch m₂ hopen' => ?_, ?_⟩
    · obtain rfl := Except.ok.inj (Prod.mk.inj (hopen.symm.trans hopen')).1
      refine (vacant_join_iff hcommitted.directory (isName_scratch ending)).2 fun _ => ?_
      rw [hdisk]
      exact hended.free hfiles hopened
    · have hfailed := hstaged e rfl
      rw [outcome_prepare_fst hopen]
      rcases hstage : outcome (stage (join dir (scratchName scratchPrefix ending)) s.files) m₁ with
        ⟨_ | _, _⟩
      all_goals rw [hstage] at hfailed
      · exact hfailed
      · exact hfailed.1

/-- A commit that succeeds has prepared all that it moves. -/
theorem exists_prepare_of_commit_eq_ok {report : CommitReport}
    (h : outcome (s.commit dir) m = (.ok report, m')) :
    ∃ scratch, (outcome (s.prepare dir) m).1 = .ok scratch := by
  rw [outcome_commit] at h
  rcases hopen : outcome (openScratch dir) m with ⟨_ | scratch, m₁⟩
  · rw [hopen] at h
    cases (Prod.mk.inj h).1
  rcases hfill : outcome (s.fill scratch dir) m₁ with ⟨_ | ⟨⟩, m₂⟩
  · simp only [hopen, hfill] at h
    cases (Prod.mk.inj h).1
  · obtain ⟨⟨⟩, m₃, hstage, -⟩ := outcome_bind_eq_ok_iff.1 hfill
    exact ⟨scratch, by rw [outcome_prepare_fst hopen, hstage]; rfl⟩

/-- A disk with a directory in the place of a header. -/
def blockedDisk : Disk := (Disk.put {} ["out"] .directory).put ["out", "b.h"] .directory

theorem tree_blockedDisk : blockedDisk.Tree :=
  (tree_empty.put (l := []) (n := "out") rfl rfl (.inl rfl)).put (l := ["out"]) (n := "b.h") rfl rfl
    (.inl rfl)

/-- A device without space, on which no file is written further than to its first byte. -/
def fullMachine : Machine where
  disk := blockedDisk
  mishap? _ op :=
    if op = .writeText then
      some { cause := .system "No space left on device (os error 28)", progress := 2 }
    else none

/-- Two headers, the second of which cannot be put in its place there. -/
def twoHeaders : OutputSet where
  files := [("a.h", "A"), ("b.h", "B")]
  sorted := by decide

theorem isName_twoHeaders : ∀ f ∈ twoHeaders.files, IsName f.1 := by decide

theorem directoryAt_blockedDisk :
    DirectoryAt blockedDisk "out" ["out"] ∧ blockedDisk.isDirectory "out" = true :=
  directoryAt_name (by decide) (by decide +kernel) rfl

/-- The first header is put in its place and the second one is not. -/
theorem commit_blockedDisk : ∃ e m',
    outcome (twoHeaders.commit "out") { disk := blockedDisk } = (.error e, m') ∧
      m'.disk = blockedDisk.put ["out", "a.h"] (.text "A") := by
  obtain ⟨hD, hdir⟩ := directoryAt_blockedDisk
  have hfits : Fits "out" (scratchName scratchPrefix (.ofNat 0)) := by decide +kernel
  have hstaged : ∀ f ∈ twoHeaders.files,
      Fits (join "out" (scratchName scratchPrefix (.ofNat 0))) f.1 := by decide +kernel
  have hfresh : ({ disk := blockedDisk } : Machine).Fresh "out" scratchPrefix :=
    ⟨0, by decide, (vacant_join_iff hD (isName_scratch _)).2 fun _ => by decide +kernel⟩
  obtain ⟨ending, m₁, hopen, hopened, hq⟩ := exists_openScratch (m := { disk := blockedDisk })
    (fun _ _ => rfl) tree_blockedDisk (.inr hdir) hD hfits hfresh
  have hscratch : ∀ f ∈ twoHeaders.files,
      Fits (join "out" (scratchName scratchPrefix ending)) f.1 := fun f hf =>
    fits_join_scratchName slash_not_mem_scratchPrefix (isName_twoHeaders f hf) (hstaged f hf) ending
  rcases hrun : outcome (twoHeaders.commit "out") { disk := blockedDisk } with ⟨r, m'⟩
  obtain ⟨k, hended⟩ := ended_of_opened isName_twoHeaders hopen hopened hrun
  have hblocked : k ≠ 2 := by
    rintro rfl
    exact absurd (hended.fillable.place ("b.h", "B") (by decide)) (by decide +kernel)
  cases r with
  | ok report => exact absurd (hended.ok report rfl).2.1 hblocked
  | error e =>
    have hstage := (stage_files_eq_ok_iff isName_twoHeaders tree_blockedDisk (isName_scratch ending)
      hopened.free hD hopened.fits hopened.made).2 ⟨⟨fun _ _ => hq .writeText _, hscratch⟩, rfl⟩
    obtain ⟨hdisk, hfailed⟩ := hended.spared (hq .removeDirectory)
    have hmove := hfailed e rfl
    rw [hstage] at hmove
    obtain ⟨⟨f, cause, hf, -⟩, hnext⟩ := hmove
    have hk : k < 2 := (List.getElem?_eq_some_iff.1 hf).1
    have hfirst : k ≠ 0 := by
      rintro rfl
      refine hnext hq ⟨fun f hf => hscratch f (List.mem_of_mem_take hf), by decide +kernel,
        fun f hf => ?_, by decide +kernel⟩
      obtain rfl := List.mem_singleton.1 hf
      exact (scratchName_ne (by decide)).symm
    obtain rfl : k = 1 := by omega
    exact ⟨e, m', rfl, hdisk⟩

/-- Where no file can be written to its end nothing is prepared. -/
theorem prepare_fullMachine (scratch : String) :
    (outcome (twoHeaders.prepare "out") fullMachine).1 ≠ .ok scratch := by
  intro h
  obtain ⟨scratch', m₁, hopen, hstage⟩ := outcome_bind_eq_ok_iff.1 (Prod.ext h rfl)
  obtain ⟨⟨⟩, m₂, hstaged, -⟩ := outcome_bind_eq_ok_iff.1 hstage
  obtain ⟨⟨⟩, m₃, hwrite, -⟩ := outcome_bind_eq_ok_iff.1 hstaged
  have hclear := (outcome_writeText_eq_ok_iff.1 (outcome_writing_eq_ok_iff.1 hwrite)).1
  rw [(keeps_openScratch_of_invariant (invariant_mishap? fullMachine.mishap?)).outcome hopen rfl]
    at hclear
  cases hclear

/-- If a directory is in the way of the second header, the first one is put in its place; on a full
device, where the first one is written in part, none is. -/
theorem commit_error_spec_blocked :
    blockedDisk.Tree ∧ (∀ name ∈ twoHeaders.names, IsName name) ∧
    (∃ e m', outcome (twoHeaders.commit "out") { disk := blockedDisk } = (.error e, m') ∧
      m'.disk = blockedDisk.put ["out", "a.h"] (.text "A") ∧
      ∃ k, twoHeaders.Stopped k "out" blockedDisk m'.disk) ∧
    fullMachine.Spares .removeDirectory ∧
    ∃ e m', outcome (twoHeaders.commit "out") fullMachine = (.error e, m') ∧
      twoHeaders.Stopped 0 "out" blockedDisk m'.disk := by
  have hnames : ∀ name ∈ twoHeaders.names, IsName name := by decide
  have hspare : fullMachine.Spares .removeDirectory := fun _ => rfl
  obtain ⟨e, m', hblocked, hdisk⟩ := commit_blockedDisk
  obtain ⟨k, hstopped, -⟩ := commit_error_spec tree_blockedDisk hnames (fun _ => rfl) hblocked
  refine ⟨tree_blockedDisk, hnames, ⟨e, m', hblocked, hdisk, k, hstopped⟩, hspare, ?_⟩
  rcases hfull : outcome (twoHeaders.commit "out") fullMachine with ⟨e' | report, m''⟩
  · obtain ⟨k', hstopped', -, hprepared⟩ := commit_error_spec tree_blockedDisk hnames hspare hfull
    cases hprepare : (outcome (twoHeaders.prepare "out") fullMachine).1 with
    | ok scratch => exact absurd hprepare (prepare_fullMachine scratch)
    | error e'' =>
      rw [hprepare] at hprepared
      obtain ⟨rfl, -⟩ := hprepared
      exact ⟨e', m'', rfl, hstopped'⟩
  · obtain ⟨scratch, hprepare⟩ := exists_prepare_of_commit_eq_ok hfull
    exact absurd hprepare (prepare_fullMachine scratch)

end OutputSet

end VectorFamily
