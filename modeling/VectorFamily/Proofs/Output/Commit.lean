import VectorFamily.CommandLine.Run
import VectorFamily.Proofs.FileSystem.Scratch
import VectorFamily.Proofs.FileSystem.Way
import VectorFamily.Proofs.Output.Stage

/-!
# Commits

However a commit ends, the first files of the set are in their places, and without the scratch
directory that is all that it has done (`ended_of_commit`). If it succeeds these are all files, and
there is no scratch directory left. So a second commit leaves the same disk.
-/

namespace VectorFamily

open FileSystem Disk

namespace OutputSet

variable {s : OutputSet} {d d' d₁ : Disk} {m m' m₁ : Machine} {dir scratch c : String}
  {D : Location} {k : Nat} {e : Ending} {report : CommitReport}
  {r : Except Failure CommitReport}

/-! ### The scratch directory -/

/-- What a commit does first: it makes the output directory and a scratch directory there. -/
def openScratch {m : Type → Type} [Monad m] [FileSystem m] (dir : String) :
    ExceptT Failure m String := do
  writing dir (FileSystem.makeDirectories dir)
  writing dir (FileSystem.makeScratch dir scratchPrefix)

/-- What a commit does before it moves the first file. -/
def prepare {m : Type → Type} [Monad m] [FileSystem m] (s : OutputSet) (dir : String) :
    ExceptT Failure m String := do
  let scratch ← openScratch dir
  stage scratch s.files
  pure scratch

theorem slash_not_mem_scratchPrefix : '/' ∉ scratchPrefix.toList := by decide

theorem isName_scratch (e : Ending) : IsName (scratchName scratchPrefix e) :=
  isName_scratchName slash_not_mem_scratchPrefix e

/-- The way to a directory is made, and a scratch directory of a new name there. -/
structure Opened (dir : String) (d d₁ d₂ : Disk) (D : Location) (e : Ending) : Prop where
  led : Led d d₁ dir
  there : dir = "" ∨ d₁.isDirectory dir = true
  directory : DirectoryAt d₁ dir D
  fits : Fits dir (scratchName scratchPrefix e)
  free : d₁.entryAt (D ++ [scratchName scratchPrefix e]) = none
  made : d₂ = d₁.put (D ++ [scratchName scratchPrefix e]) .directory

theorem opened_of_openScratch (ht : m.disk.Tree)
    (h : outcome (openScratch dir) m = (.ok scratch, m')) :
    ∃ d₁ D e, scratch = join dir (scratchName scratchPrefix e) ∧
      Opened dir m.disk d₁ m'.disk D e := by
  obtain ⟨⟨⟩, m₁, hmake, hscratch⟩ := outcome_bind_eq_ok_iff.1 h
  obtain ⟨hled, hdir⟩ := led_makeDirectories ht (outcome_writing_eq_ok_iff.1 hmake)
  obtain ⟨D, hD⟩ := exists_directoryAt hdir
  obtain ⟨e, hname, hfits, hfree, hdisk⟩ := (of_tryScratch slash_not_mem_scratchPrefix hD
    (outcome_writing_eq_ok_iff.1 hscratch)).1 scratch rfl
  exact ⟨m₁.disk, D, e, hname, hled, hdir, hD, hfits, hfree, hdisk⟩

/-- If there is no scratch directory to be had, directories on the way are all that is new. -/
theorem led_of_openScratch_eq_error {e : Failure} (ht : m.disk.Tree)
    (h : outcome (openScratch dir) m = (.error e, m')) : Led m.disk m'.disk dir := by
  rcases outcome_bind_eq_error_iff.1 h with hmake | ⟨⟨⟩, m₁, hmake, hscratch⟩
  · obtain ⟨cause, -, hmake⟩ := outcome_writing_eq_error_iff.1 hmake
    exact led_of_makeDirectories_eq_error ht hmake
  · obtain ⟨hled, hdir⟩ := led_makeDirectories ht (outcome_writing_eq_ok_iff.1 hmake)
    obtain ⟨D, hD⟩ := exists_directoryAt hdir
    obtain ⟨cause, -, hscratch⟩ := outcome_writing_eq_error_iff.1 hscratch
    rw [(of_tryScratch slash_not_mem_scratchPrefix hD hscratch).2 cause rfl]
    exact hled

theorem keeps_openScratch_of_invariant {I : Machine → Prop} (hI : Invariant I) :
    Keeps I (openScratch dir : ExceptT Failure Change String).run :=
  hI.keeps_makeDirectories.run_writing.run_bind fun _ => hI.keeps_makeScratch.run_writing

/-- If nothing goes wrong and a name is free, there is a scratch directory to be had. -/
theorem exists_openScratch (hq : m.Quiet) (ht : m.disk.Tree)
    (hdir : dir = "" ∨ m.disk.isDirectory dir = true) (hD : DirectoryAt m.disk dir D)
    (hfits : Fits dir (scratchName scratchPrefix e))
    (hfresh : m.Fresh dir scratchPrefix) : ∃ e' m',
      outcome (openScratch dir) m = (.ok (join dir (scratchName scratchPrefix e')), m') ∧
        Opened dir m.disk m.disk m'.disk D e' ∧ m'.Quiet := by
  obtain ⟨clock, hmake⟩ := makeDirectories_of_isDirectory hq hdir
  obtain ⟨i, hi, hvacant⟩ := hfresh
  have hfree := (vacant_join_iff hD (isName_scratch _)).1 hvacant
    (fits_scratchName slash_not_mem_scratchPrefix hfits _)
  obtain ⟨scratch, m', hscratch⟩ := exists_tryScratch (m := { m with clock })
    slash_not_mem_scratchPrefix (fun op n => hq op n) hD hfits ⟨i, hi, hfree⟩
  obtain ⟨e', rfl, -, hfree', hdisk⟩ := (of_tryScratch (m := { m with clock })
    slash_not_mem_scratchPrefix hD hscratch).1 scratch rfl
  have hopen : outcome (openScratch dir) m =
      (.ok (join dir (scratchName scratchPrefix e')), m') :=
    outcome_bind_eq_ok_iff.2 ⟨(), _, outcome_writing_eq_ok_iff.2 hmake,
      outcome_writing_eq_ok_iff.2 hscratch⟩
  have hmishap := (keeps_openScratch_of_invariant (invariant_mishap? m.mishap?)).outcome hopen rfl
  refine ⟨e', m', hopen, ⟨.refl ht dir, hdir, hD, ?_, hfree', hdisk⟩, fun op n => ?_⟩
  · exact fits_scratchName slash_not_mem_scratchPrefix hfits e'
  · rw [hmishap]
    exact hq op n

/-- What is left when the scratch directory is removed, or a part of it only. -/
theorem of_removeDirectory {removed : Except Failure Unit} (hc : IsName c)
    (hD : DirectoryAt d dir D) (hfits : Fits dir c) (h : Scratched d m.disk (D ++ [c]))
    (hrun : outcome (writing dir (FileSystem.removeDirectory (join dir c))) m = (removed, m')) :
    m'.disk.prune (D ++ [c]) = d ∧ (removed = .ok () → m'.disk = d) ∧
      (m.Spares .removeDirectory → removed = .ok ()) := by
  have hgone := h.remove hc hD hfits
  cases removed with
  | ok a =>
    obtain ⟨-, d', hd', rfl⟩ :=
      outcome_removeDirectory_eq_ok_iff.1 (outcome_writing_eq_ok_iff.1 hrun)
    obtain rfl := Except.ok.inj (hgone.symm.trans hd')
    refine ⟨?_, fun _ => rfl, fun _ => rfl⟩
    show d.prune (D ++ [c]) = d
    rw [← h.pruned, prune_prune]
  | error failure =>
    obtain ⟨cause, -, hfailed⟩ := outcome_writing_eq_error_iff.1 hrun
    rcases outcome_perform_eq_error_iff.1 hfailed with ⟨mishap, hmishap, -, rfl⟩ | ⟨-, hdisk, -⟩
    · refine ⟨h.prune_removePart hc hD hfits mishap.marked, nofun, fun hspare => ?_⟩
      rw [hspare] at hmishap
      cases hmishap
    · rw [hgone] at hdisk
      cases hdisk

/-! ### Committing -/

theorem outcome_commit (s : OutputSet) (dir : String) (m : Machine) :
    outcome (s.commit dir) m =
      match outcome (openScratch dir) m with
      | (.error e, m₁) => (.error e, m₁)
      | (.ok scratch, m₁) =>
        match outcome (s.fill scratch dir) m₁ with
        | (filled, m₂) =>
          match outcome (writing dir (FileSystem.removeDirectory scratch)) m₂ with
          | (removed, m') =>
            ((filled.bind fun _ => removed).map fun _ => ⟨dir, s.size, s.digest⟩, m') := by
  unfold commit openScratch
  rw [outcome_bind, outcome_bind]
  rcases outcome (writing dir (FileSystem.makeDirectories dir)) m with ⟨_ | ⟨⟩, m₁⟩
  · rfl
  simp only
  rw [outcome_bind]
  rcases outcome (writing dir (FileSystem.makeScratch dir scratchPrefix)) m₁ with ⟨_ | scratch, m₂⟩
  · rfl
  simp only
  rw [outcome_lift_run_bind]
  rcases outcome (s.fill scratch dir) m₂ with ⟨filled, m₃⟩
  simp only
  rw [outcome_lift_run_bind]
  rcases outcome (writing dir (FileSystem.removeDirectory scratch)) m₃ with ⟨removed, m'⟩
  simp only
  rw [outcome_bind, outcome_mk_pure]
  rcases filled.bind fun _ => removed with _ | _ <;> rfl

/-- How a commit ends that started with a scratch directory `c` in `D` on `m`: the first `k` files
are in their places, and the scratch directory is gone unless it could not be removed. -/
structure Ended (s : OutputSet) (dir : String) (d : Disk) (D : Location) (c : String) (k : Nat)
    (m m' : Machine) (r : Except Failure CommitReport) : Prop where
  fillable : (s.take k).Fillable d dir D c
  pruned : m'.disk.prune (D ++ [c]) = d.putAll D (s.take k).files
  ok : ∀ report, r = .ok report →
    report = ⟨dir, s.size, s.digest⟩ ∧ k = s.size ∧ m'.disk = d.putAll D (s.take k).files
  spared : m.Spares .removeDirectory → m'.disk = d.putAll D (s.take k).files ∧
    ∀ e, r = .error e →
      match (outcome (stage (join dir c) s.files) m).1 with
      | .error e' => k = 0 ∧ e = e'
      | .ok _ => (∃ f cause, s.files[k]? = some f ∧ e = .notWritten (join dir f.1) cause) ∧
        (m.Quiet → ¬ (s.take (k + 1)).Fillable d dir D c)

section
variable (hs : ∀ f ∈ s.files, IsName f.1)
include hs

theorem ended_of_opened
    (hopen : outcome (openScratch dir) m = (.ok (join dir (scratchName scratchPrefix e)), m₁))
    (hopened : Opened dir d' d m₁.disk D e) (h : outcome (s.commit dir) m = (r, m')) :
    ∃ k, s.Ended dir d D (scratchName scratchPrefix e) k m₁ m' r := by
  have hc := isName_scratch e
  rw [outcome_commit, hopen] at h
  rcases hfill : outcome (s.fill (join dir (scratchName scratchPrefix e)) dir) m₁ with ⟨filled, m₂⟩
  rcases hremove : outcome (writing dir
    (FileSystem.removeDirectory (join dir (scratchName scratchPrefix e)))) m₂ with ⟨removed, m₃⟩
  simp only [hfill, hremove] at h
  obtain ⟨hr, rfl⟩ := Prod.mk.inj h
  obtain ⟨k, hfillable, hscratched, hfilled⟩ := of_fill hs hopened.led.tree hc hopened.free
    hopened.directory hopened.fits hopened.made hfill
  have hsub : ∀ f ∈ (s.take k).files, IsName f.1 := fun f hf => hs f (List.mem_of_mem_take hf)
  obtain ⟨hpruned, hgone, hspared⟩ := of_removeDirectory hc
    (hopened.directory.keep (keepsDirectories_putAll hsub hfillable.place)) hopened.fits hscratched
    hremove
  refine ⟨k, hfillable, hpruned, fun report hreport => ?_, fun hspare => ?_⟩
  · subst hr
    cases filled with
    | error e => cases hreport
    | ok a =>
      cases removed with
      | error e => cases hreport
      | ok a => exact ⟨(Except.ok.inj hreport).symm, hfilled, hgone rfl⟩
  · -- nothing that came before changes what goes wrong
    have hmishap : m₂.mishap? = m₁.mishap? :=
      (keeps_fill_of_invariant (invariant_mishap? m₁.mishap?) s).outcome hfill rfl
    have hremoved := hspared fun n => by rw [hmishap, hspare]
    refine ⟨hgone hremoved, fun e he => ?_⟩
    subst hr hremoved
    cases filled with
    | error e' =>
      obtain rfl := Except.error.inj he
      exact hfilled
    | ok a => cases he

/-- A commit cannot get a scratch directory, or it puts the first files in their places. -/
theorem ended_of_commit (ht : m.disk.Tree) (h : outcome (s.commit dir) m = (r, m')) :
    (∃ e, r = .error e ∧ outcome (openScratch dir) m = (.error e, m')) ∨
    ∃ m₁ d D e k,
      outcome (openScratch dir) m = (.ok (join dir (scratchName scratchPrefix e)), m₁) ∧
        Opened dir m.disk d m₁.disk D e ∧
        s.Ended dir d D (scratchName scratchPrefix e) k m₁ m' r := by
  rcases hopen : outcome (openScratch dir) m with ⟨e | scratch, m₁⟩
  · rw [outcome_commit, hopen] at h
    obtain ⟨rfl, rfl⟩ := Prod.mk.inj h
    exact .inl ⟨e, rfl, rfl⟩
  · obtain ⟨d, D, e, rfl, hopened⟩ := opened_of_openScratch ht hopen
    obtain ⟨k, hended⟩ := ended_of_opened hs hopen hopened h
    exact .inr ⟨m₁, d, D, e, k, rfl, hopened, hended⟩

/-- If nothing else goes wrong and a name for the scratch directory is free, a commit to a directory
puts all files into it. -/
theorem exists_commit (hq : m.Quiet) (ht : m.disk.Tree)
    (hdir : dir = "" ∨ m.disk.isDirectory dir = true) (hD : DirectoryAt m.disk dir D)
    (hfits : Fits dir (scratchName scratchPrefix e)) (hfresh : m.Fresh dir scratchPrefix)
    (hfill : ∀ e', m.disk.entryAt (D ++ [scratchName scratchPrefix e']) = none →
      s.Fillable m.disk dir D (scratchName scratchPrefix e')) :
    ∃ m', outcome (s.commit dir) m = (.ok ⟨dir, s.size, s.digest⟩, m') ∧
      m'.disk = m.disk.putAll D s.files := by
  obtain ⟨e', m₁, hopen, hopened, hq'⟩ := exists_openScratch hq ht hdir hD hfits hfresh
  have hfillable := hfill e' hopened.free
  rcases hrun : outcome (s.commit dir) m with ⟨r, m'⟩
  obtain ⟨k, hended⟩ := ended_of_opened hs hopen hopened hrun
  cases r with
  | ok report =>
    obtain ⟨rfl, rfl, hdisk⟩ := hended.ok report rfl
    rw [take_size] at hdisk
    exact ⟨m', rfl, hdisk⟩
  | error failure =>
    -- all files can be staged, and the first one that could not be moved is none of the set
    have hstaged := (stage_files_eq_ok_iff hs ht (isName_scratch e') hopened.free hD hopened.fits
      hopened.made).2 ⟨⟨fun _ _ => hq' .writeText _, hfillable.scratch⟩, rfl⟩
    have hfailed := (hended.spared (hq' .removeDirectory)).2 failure rfl
    rw [hstaged] at hfailed
    exact absurd (hfillable.take (k + 1)) (hfailed.2 hq')

end

/-! ### What a commit leaves -/

/-- A set is committed to a directory: its files are there, all else that there was is unchanged,
and all that is new else are directories on the way to it. -/
structure Committed (s : OutputSet) (dir : String) (d d' : Disk) (D : Location) : Prop where
  directory : DirectoryAt d' dir D
  written : ∀ f ∈ s.files, d'.readText (join dir f.1) = .ok f.2
  kept : ∀ l e, d.entryAt l = some e → (∀ f ∈ s.files, l ≠ D ++ [f.1]) → d'.entryAt l = some e
  resolved : ∀ path t, d.resolve path = .ok t → d'.resolve path = .ok t
  made : ∀ l e, d.entryAt l = none → d'.entryAt l = some e → (∀ f ∈ s.files, l ≠ D ++ [f.1]) →
    e = .directory ∧ ∃ way, way <+: FileSystem.names dir ∧ d'.walk (start dir) way = .ok l
  tree : d'.Tree

/-- The way to a directory is made and the files are put into it, in the places of no
directories. -/
theorem committed_putAll {d₁ : Disk} (hs : ∀ f ∈ s.files, IsName f.1) (hled : Led d d₁ dir)
    (hD : DirectoryAt d₁ dir D) (hfits : ∀ f ∈ s.files, Fits dir f.1)
    (hplace : ∀ f ∈ s.files, d₁.entryAt (D ++ [f.1]) ≠ some .directory) :
    s.Committed dir d (d₁.putAll D s.files) D := by
  have hkeep := keepsDirectories_putAll hs hplace
  have helse : ∀ l, (∀ f ∈ s.files, l ≠ D ++ [f.1]) →
      (d₁.putAll D s.files).entryAt l = d₁.entryAt l :=
    fun l hl => entryAt_putAll_of_forall_ne hs hl
  refine ⟨hD.keep hkeep, fun f hf => ?_, fun l e he hl => ?_, fun path t hr => ?_,
    fun l e hnone he hl => ?_, hled.tree.putAll hs hD.directory hplace⟩
  · exact readText_join (hD.keep hkeep) (hs f hf) (hfits f hf)
      (entryAt_putAll_of_mem hs s.names_ne hf)
  · rw [helse l hl]
    exact hled.kept l e he
  · exact resolve_keep hkeep (resolve_keep hled.keepsDirectories hr)
  · rw [helse l hl] at he
    obtain ⟨hdir, way, hway, hw⟩ := hled.made l e hnone he
    exact ⟨hdir, way, hway, walk_keep hkeep hw⟩

theorem Ended.committed {m₁ m₂ : Machine} (hs : ∀ f ∈ s.files, IsName f.1)
    (hopened : Opened dir m.disk d d₁ D e)
    (h : s.Ended dir d D (scratchName scratchPrefix e) k m₁ m₂ r) :
    (s.take k).Committed dir m.disk (d.putAll D (s.take k).files) D :=
  committed_putAll (fun f hf => hs f (List.mem_of_mem_take hf)) hopened.led hopened.directory
    h.fillable.fits h.fillable.place

/-- A commit that succeeds leaves the directory made and the files put into it. -/
theorem of_commit_eq_ok (hs : ∀ f ∈ s.files, IsName f.1) (ht : m.disk.Tree)
    (h : outcome (s.commit dir) m = (.ok report, m')) :
    report = ⟨dir, s.size, s.digest⟩ ∧ ∃ d D e,
      (dir = "" ∨ d.isDirectory dir = true) ∧ Fits dir (scratchName scratchPrefix e) ∧
      s.Fillable d dir D (scratchName scratchPrefix e) ∧ m'.disk = d.putAll D s.files ∧
      s.Committed dir m.disk m'.disk D := by
  rcases ended_of_commit hs ht h with ⟨_, he, -⟩ | ⟨m₁, d, D, e, k, -, hopened, hended⟩
  · cases he
  · obtain ⟨hreport, rfl, hdisk⟩ := hended.ok report rfl
    have hfill := hended.fillable
    have hcommitted := hended.committed hs hopened
    rw [← hdisk] at hcommitted
    rw [take_size] at hfill hcommitted hdisk
    exact ⟨hreport, d, D, e, hopened.there, hopened.fits, hfill, hdisk, hcommitted⟩

/-- A commit can be repeated. Another name may be found for the scratch directory. -/
theorem commit_of_commit {w : Machine} (hs : ∀ f ∈ s.files, IsName f.1) (ht : m.disk.Tree)
    (h : outcome (s.commit dir) m = (.ok report, m')) (hq : w.Quiet) (hw : w.disk = m'.disk)
    (hfresh : w.Fresh dir scratchPrefix) :
    ∃ w', outcome (s.commit dir) w = (.ok report, w') ∧ w'.disk = w.disk := by
  obtain ⟨rfl, d, D, e, hdir, hfits, hfill, hdisk, hcommitted⟩ := of_commit_eq_ok hs ht h
  rw [← hw] at hdisk hcommitted
  have hfile : ∀ f ∈ s.files, w.disk.entryAt (D ++ [f.1]) = some (.text f.2) := fun f hf => by
    rw [hdisk]
    exact entryAt_putAll_of_mem hs s.names_ne hf
  have hthere := hdir.imp_right (isDirectory_keep (keepsDirectories_putAll hs hfill.place))
  rw [← hdisk] at hthere
  have hfill' : ∀ e', w.disk.entryAt (D ++ [scratchName scratchPrefix e']) = none →
      s.Fillable w.disk dir D (scratchName scratchPrefix e') := by
    refine fun e' hfree => ⟨fun f hf => ?_, hfill.fits, fun f hf => ?_, fun f hf => by
      simp [hfile f hf]⟩
    · exact fits_join_scratchName slash_not_mem_scratchPrefix (hs f hf) (hfill.scratch f hf) e'
    · rintro heq
      rw [← heq, hfile f hf] at hfree
      cases hfree
  obtain ⟨w', hrun, hw'⟩ := exists_commit hs hq hcommitted.tree hthere hcommitted.directory hfits
    hfresh hfill'
  refine ⟨w', hrun, hw'.trans ?_⟩
  rw [hdisk, putAll_putAll d D s.names_ne]

/-! ### Comparing -/

theorem run_staleAmong (h : m.Spares .readText) (dir : String) (fs : List (String × String)) :
    StateT.run (staleAmong dir fs : Change (List String)) m =
      ((fs.filter fun f => (m.disk.readText (join dir f.1)).toOption != some f.2).map (·.1),
        m.later m.disk fs.length) := by
  induction fs generalizing m with
  | nil => rfl
  | cons f fs ih =>
    have hread : StateT.run (FileSystem.readText (join dir f.1) :
        ExceptT Cause Change String).run m = (m.disk.readText (join dir f.1), m.after m.disk) :=
      outcome_readText h (join dir f.1)
    rw [staleAmong, StateT.run_bind, hread]
    show StateT.run (staleAmong dir fs >>= _) (m.after m.disk) = _
    rw [StateT.run_bind, ih (m := m.after m.disk) h, m.later_after, List.filter_cons]
    cases m.disk.readText (join dir f.1) with
    | error cause => rfl
    | ok text =>
      have hsome : ∀ t : String, (Except.ok t : Except Cause String).toOption = some t :=
        fun _ => rfl
      show (if text = f.2 then _ else f.1 :: _, _) = _
      by_cases htext : text = f.2 <;> simp [htext, hsome]

/-- A file is reported just if it is missing or cannot be read, or has other contents. -/
theorem mem_staleFiles_iff {name : String} (h : m.Spares .readText) :
    name ∈ (StateT.run (s.staleFiles dir : Change (List String)) m).1 ↔
      ∃ contents, (name, contents) ∈ s.files ∧ m.disk.readText (join dir name) ≠ .ok contents := by
  have hsame : ∀ {text : Except Cause String} {contents : String},
      text.toOption = some contents ↔ text = .ok contents := by
    rintro (_ | _) _ <;> simp [Except.toOption]
  rw [staleFiles, run_staleAmong h]
  simp [hsame]

theorem run_staleFiles_snd (h : m.Spares .readText) :
    (StateT.run (s.staleFiles dir : Change (List String)) m).2 = m.later m.disk s.size := by
  rw [staleFiles, run_staleAmong h]
  rfl

theorem staleFiles_eq_nil_iff (h : m.Spares .readText) :
    (StateT.run (s.staleFiles dir : Change (List String)) m).1 = [] ↔
      ∀ f ∈ s.files, m.disk.readText (join dir f.1) = .ok f.2 := by
  simp [List.eq_nil_iff_forall_not_mem, mem_staleFiles_iff h]

theorem outcome_generate {g : Generator} (h : g.render = .ok s) :
    outcome (g.generate dir) m = outcome (s.commit dir) m := by
  rw [Generator.generate, outcome_bind, outcome_mk_pure, h]

/-- Nothing is written unless all is rendered. -/
theorem outcome_generate_of_error {g : Generator} {e : Failure} (h : g.render = .error e) :
    outcome (g.generate dir) m = (.error e, m) := by
  rw [Generator.generate, outcome_bind, outcome_mk_pure, h]

theorem checkOutputs_of_readText {g : Generator} (h : g.render = .ok s)
    (hspare : m.Spares .readText)
    (hs : ∀ f ∈ s.files, m.disk.readText (join dir f.1) = .ok f.2) :
    StateT.run (CommandLine.checkOutputs g dir : Change CommandLine.Outcome) m =
      (⟨0, ["✅ " ++ toString s.size ++ " files in " ++ quoted dir ++ " are up to date",
        "🔑 Digest: " ++ s.digest], ""⟩, m.later m.disk s.size) := by
  have hstale : StateT.run (s.staleFiles dir : Change (List String)) m =
      ([], m.later m.disk s.size) :=
    Prod.ext ((staleFiles_eq_nil_iff hspare).2 hs) (run_staleFiles_snd hspare)
  unfold CommandLine.checkOutputs
  rw [h]
  show StateT.run (s.staleFiles dir >>= _) m = _
  rw [StateT.run_bind, hstale]
  rfl

/-- A commit of files with proper names writes them all and nothing else. A machine on which that
is the disk finds nothing stale, and changes nothing when the commit is repeated and nothing goes
wrong. What a generator wrote it finds up to date. -/
theorem commit_spec (ht : m.disk.Tree) (hs : ∀ name ∈ s.names, IsName name)
    (h : outcome (s.commit dir) m = (.ok report, m')) :
    (∃ D, s.Committed dir m.disk m'.disk D) ∧
    (∀ w : Machine, w.disk = m'.disk → w.Spares .readText →
      ∃ w', StateT.run (s.staleFiles dir : Change (List String)) w = ([], w') ∧
        w'.disk = w.disk) ∧
    (∀ w : Machine, w.disk = m'.disk → w.Quiet → w.Fresh dir scratchPrefix →
      ∃ w', outcome (s.commit dir) w = (.ok report, w') ∧ w'.disk = w.disk) ∧
    ∀ g : Generator, g.render = .ok s →
      outcome (g.generate dir) m = (.ok report, m') ∧
      ∀ w : Machine, w.disk = m'.disk → w.Spares .readText →
        ∃ w', StateT.run (CommandLine.checkOutputs g dir : Change CommandLine.Outcome) w =
          (⟨0, ["✅ " ++ toString report.written ++ " files in " ++ quoted dir ++
            " are up to date", "🔑 Digest: " ++ report.digest], ""⟩, w') ∧ w'.disk = w.disk := by
  have hfiles : ∀ f ∈ s.files, IsName f.1 := fun f hf => hs f.1 (List.mem_map_of_mem hf)
  obtain ⟨rfl, -, D, -, -, -, -, -, hcommitted⟩ := of_commit_eq_ok hfiles ht h
  refine ⟨⟨D, hcommitted⟩, fun w hw hspare => ?_, fun w hw hq hfresh =>
    commit_of_commit hfiles ht h hq hw hfresh, fun g hg =>
      ⟨(outcome_generate hg).trans h, fun w hw hspare => ?_⟩⟩
  · rw [← hw] at hcommitted
    exact ⟨_, Prod.ext ((staleFiles_eq_nil_iff hspare).2 hcommitted.written)
      (run_staleFiles_snd hspare), rfl⟩
  · rw [← hw] at hcommitted
    exact ⟨_, checkOutputs_of_readText hg hspare hcommitted.written, rfl⟩

/-- A generator without element types, which writes the generic header alone. -/
def bareGenerator : Generator where
  registry := ⟨{}, [], ∅⟩
  master :=
    let operator : Text := "inline static Vector3d f(std::double_t);".toList
    ⟨operator, [], { scope := "N".toList, regions := [], helpers := (0, operator.byteSize) }⟩

def bareSet : OutputSet where
  files := [("VectorT.h", "#pragma once\n#include <iostream>\n#include <cstdint>\n\n" ++
    "namespace N \x7b\n\n\n\ntemplate<class T>\ninline static Vector3<T> f(T);\n\x7d\n")]

set_option maxRecDepth 4000 in
theorem render_bareGenerator : bareGenerator.render = .ok bareSet := by rfl

/-- A directory with an old header and a file that is not text. -/
def bareDisk : Disk :=
  ((Disk.put {} ["out"] .directory).put ["out", "logo"] (.binary [255])).put ["out", "VectorT.h"]
    (.text "old")

theorem tree_bareDisk : bareDisk.Tree := by
  have hout := tree_empty.put (l := []) (n := "out") (e := .directory) rfl rfl (.inl rfl)
  have hlogo := hout.put (l := ["out"]) (n := "logo") (e := .binary [255]) rfl rfl
    (.inr (by decide))
  exact hlogo.put (l := ["out"]) (n := "VectorT.h") rfl rfl (.inr (by decide))

theorem directoryAt_bareDisk :
    DirectoryAt bareDisk "out" ["out"] ∧ bareDisk.isDirectory "out" = true :=
  directoryAt_name (by decide) (by decide +kernel) rfl

theorem commit_bareSet : ∃ m',
    outcome (bareSet.commit "out") { disk := bareDisk } = (.ok ⟨"out", 1, bareSet.digest⟩, m') ∧
      m'.disk = bareDisk.putAll ["out"] bareSet.files := by
  obtain ⟨hD, hdir⟩ := directoryAt_bareDisk
  have hnames : ∀ f ∈ bareSet.files, IsName f.1 := by decide
  have hfits : Fits "out" (scratchName scratchPrefix (.ofNat 0)) := by decide +kernel
  have hstaged : Fits (join "out" (scratchName scratchPrefix (.ofNat 0))) "VectorT.h" := by
    decide +kernel
  refine exists_commit (m := { disk := bareDisk }) (D := ["out"]) (e := .ofNat 0) hnames
    (fun _ _ => rfl) tree_bareDisk (.inr hdir) hD hfits ⟨0, by decide, ?_⟩ fun e' hfree => ?_
  · exact (vacant_join_iff hD (isName_scratch _)).2 fun _ => by decide +kernel
  · refine ⟨?_, by decide +kernel, ?_, by decide +kernel⟩
    · intro f hf
      obtain rfl := List.mem_singleton.1 hf
      exact fits_join_scratchName slash_not_mem_scratchPrefix (by decide) hstaged e'
    · rintro f hf heq
      obtain rfl := List.mem_singleton.1 hf
      rw [← heq] at hfree
      exact absurd hfree (by decide +kernel)

/-- The first name is free for a scratch directory behind that commit. -/
theorem fresh_bareDisk :
    ({ disk := bareDisk.putAll ["out"] bareSet.files } : Machine).Fresh "out" scratchPrefix := by
  have hnames : ∀ f ∈ bareSet.files, IsName f.1 := by decide
  have hkeep : KeepsDirectories bareDisk (bareDisk.putAll ["out"] bareSet.files) :=
    keepsDirectories_putAll hnames (by decide +kernel)
  have hD := directoryAt_bareDisk.1.keep hkeep
  exact ⟨0, by decide, (vacant_join_iff hD (isName_scratch _)).2 fun _ => by decide +kernel⟩

/-- The old header is replaced, and the new one is found up to date, also behind another commit. -/
theorem commit_spec_bare :
    bareDisk.Tree ∧ (∀ name ∈ bareSet.names, IsName name) ∧ bareGenerator.render = .ok bareSet ∧
      ∃ m', outcome (bareSet.commit "out") { disk := bareDisk } =
          (.ok ⟨"out", 1, bareSet.digest⟩, m') ∧
        m'.disk = bareDisk.putAll ["out"] bareSet.files ∧
        (∃ D, bareSet.Committed "out" bareDisk m'.disk D) ∧
        (∃ w', outcome (bareSet.commit "out") { disk := m'.disk } =
          (.ok ⟨"out", 1, bareSet.digest⟩, w') ∧ w'.disk = m'.disk) ∧
        outcome (bareGenerator.generate "out") { disk := bareDisk } =
          (.ok ⟨"out", 1, bareSet.digest⟩, m') ∧
        ∃ w', StateT.run (CommandLine.checkOutputs bareGenerator "out" :
            Change CommandLine.Outcome) { disk := m'.disk } =
          (⟨0, ["✅ 1 files in \"out\" are up to date", "🔑 Digest: " ++ bareSet.digest], ""⟩, w') ∧
            w'.disk = m'.disk := by
  have hnames : ∀ name ∈ bareSet.names, IsName name := by decide
  obtain ⟨m', hrun, hdisk⟩ := commit_bareSet
  obtain ⟨hcommitted, -, hagain, hgenerator⟩ := commit_spec tree_bareDisk hnames hrun
  have hfresh : ({ disk := m'.disk } : Machine).Fresh "out" scratchPrefix := by
    rw [hdisk]
    exact fresh_bareDisk
  obtain ⟨hgenerate, hcheck⟩ := hgenerator bareGenerator render_bareGenerator
  obtain ⟨w', hchecked, hw'⟩ := hcheck { disk := m'.disk } rfl fun _ => rfl
  exact ⟨tree_bareDisk, hnames, render_bareGenerator, m', hrun, hdisk, hcommitted,
    hagain { disk := m'.disk } rfl (fun _ _ => rfl) hfresh, hgenerate, w',
    hchecked.trans (by rfl), hw'⟩

end OutputSet

end VectorFamily
