import VectorFamily.Proofs.Output.CanonicalPair

/-!
# What a run may change

Of the parts of a file name only tags are kept to letters, digits and underscores; the prefix, the
type parameter and the extensions may hold anything that is not blank. No name is that of the
directory itself or of the one above, but a name is one step below its directory only if none of
these parts holds a slash (`isName_spec`). Runs whose names are change nothing but direct children
of the output directory, and leave nothing else but a scratch directory there if it cannot be
removed.
-/

namespace VectorFamily

open FileSystem Disk

/-- What differs between two disks are entries of the names in the directory, and directories that
were made on the way to it. -/
def Confined (names : List String) (dir : String) (d d' : Disk) : Prop :=
  ∃ D, ∀ l, d'.entryAt l ≠ d.entryAt l →
    (DirectoryAt d' dir D ∧ ∃ name ∈ names, l = D ++ [name]) ∨
    (d.entryAt l = none ∧ d'.entryAt l = some .directory ∧
      ∃ way, way <+: FileSystem.names dir ∧ d'.walk (start dir) way = .ok l)

namespace Disk

variable {d d' : Disk} {dir : String}

theorem confined_refl (names : List String) (dir : String) (d : Disk) : Confined names dir d d :=
  ⟨[], fun _ h => absurd rfl h⟩

theorem confined_mono {names names' : List String} (hnames : names ⊆ names')
    (h : Confined names dir d d') : Confined names' dir d d' := by
  obtain ⟨D, hD⟩ := h
  refine ⟨D, fun l hne => (hD l hne).imp_left fun hchild => ?_⟩
  obtain ⟨hdir, name, hname, hl⟩ := hchild
  exact ⟨hdir, name, hnames hname, hl⟩

theorem Led.confined (h : Led d d' dir) (names : List String) : Confined names dir d d' := by
  refine ⟨[], fun l hne => .inr ?_⟩
  cases he : d.entryAt l with
  | some e => exact absurd ((h.kept l e he).trans he.symm) hne
  | none =>
    cases he' : d'.entryAt l with
    | none => exact absurd (he'.trans he.symm) hne
    | some e' =>
      obtain ⟨rfl, hway⟩ := h.made l e' he he'
      exact ⟨rfl, rfl, hway⟩

/-- The path of a name is that of a child, on every disk. -/
theorem location_of_resolve_join {D : Location} (hD : DirectoryAt d dir D) {name : String}
    (hname : IsName name) {t : Target} (ht : d.resolve (join dir name) = .ok t) :
    t.location = D ++ [name] := by
  obtain ⟨-, rfl⟩ := (resolve_join_eq_ok_iff hD hname).1 ht
  rfl

end Disk

namespace OutputSet

variable {s : OutputSet} {d d' : Disk} {m m' : Machine} {dir : String}

theorem Committed.confined {D : Location} (h : s.Committed dir d d' D) :
    Confined s.names dir d d' := by
  refine ⟨D, fun l hne => ?_⟩
  by_cases hfile : ∃ f ∈ s.files, l = D ++ [f.1]
  · obtain ⟨f, hf, rfl⟩ := hfile
    exact .inl ⟨h.directory, f.1, List.mem_map_of_mem hf, rfl⟩
  · have hfile : ∀ f ∈ s.files, l ≠ D ++ [f.1] := fun f hf he => hfile ⟨f, hf, he⟩
    refine .inr ?_
    cases he : d.entryAt l with
    | some e => exact absurd ((h.kept l e he hfile).trans he.symm) hne
    | none =>
      cases he' : d'.entryAt l with
      | none => exact absurd (he'.trans he.symm) hne
      | some e' =>
        obtain ⟨rfl, hway⟩ := h.made l e' he he' hfile
        exact ⟨rfl, rfl, hway⟩

theorem Stopped.confined {k : Nat} (h : s.Stopped k dir d d') : Confined s.names dir d d' := by
  rcases h with ⟨-, hled⟩ | ⟨D, hcommitted⟩
  · exact hled.confined s.names
  · exact confined_mono (List.map_subset _ (List.take_subset k s.files)) hcommitted.confined

/-- A commit of files with proper names is confined, whether it succeeds or not. -/
theorem confined_of_commit {result : Except Failure CommitReport} (ht : m.disk.Tree)
    (hs : ∀ name ∈ s.names, IsName name) (h : outcome (s.commit dir) m = (result, m')) :
    ∃ d, Confined s.names dir m.disk d ∧ Leftover dir d m'.disk ∧
      (m.Spares .removeDirectory → m'.disk = d) := by
  have hfiles : ∀ f ∈ s.files, IsName f.1 := fun f hf => hs f.1 (List.mem_map_of_mem hf)
  obtain ⟨k, d, hstopped, hleft⟩ := exists_stopped_of_commit hfiles ht h
  exact ⟨d, hstopped.confined, hleft⟩

end OutputSet

/-! ### The names of a registry -/

namespace Registry

def fileNames (r : Registry) : List String := r.conventions.genericFileName :: r.artifactNames

variable {r : Registry}

theorem Accepted.fileName_ne (h : Accepted r.conventions r.profiles) {name : String}
    (hname : name ∈ r.fileNames) {s : String} (hs : s.toList.length ≤ 2) : name ≠ s := by
  have hw := accepted_iff_wellFormed.1 h
  have hstem := hw.conventions.text r.conventions.classPrefix (by simp)
  rcases List.mem_cons.1 hname with rfl | hname
  · have hparameter := hw.conventions.text r.conventions.genericParameter (by simp)
    exact Conventions.fileName_ne hstem hparameter.length_pos hs
  · obtain ⟨p, hp, kind, rfl⟩ := mem_artifactNames_iff.1 hname
    have htag := (hw.profiles p hp).fileTag.nonempty
    refine Conventions.fileName_ne hstem (List.length_pos_iff.2 fun hnil => ?_) hs
    exact htag (String.toList_eq_nil_iff.1 hnil)

theorem Accepted.isName_iff (h : Accepted r.conventions r.profiles) :
    (∀ name ∈ r.fileNames, IsName name) ↔ r.conventions.InPlace := by
  refine ⟨fun hall s hs => ?_, fun hplace => (h.isName hplace).1⟩
  have hgeneric := (hall _ List.mem_cons_self).noSlash
  obtain ⟨p, hp⟩ := List.exists_mem_of_ne_nil r.profiles h.nonempty
  have himplementation : '/' ∉ (artifactFileName r.conventions p .implementation).toList := by
    exact (hall _ (List.mem_cons_of_mem _ (mem_artifactNames_iff.2 ⟨p, hp, _, rfl⟩))).noSlash
  simp only [Conventions.genericFileName, artifactFileName, Conventions.stem, String.toList_append,
    List.mem_append, not_or] at hgeneric himplementation
  simp only [List.mem_cons, List.not_mem_nil, or_false] at hs
  rcases hs with rfl | rfl | rfl | rfl
  · exact hgeneric.1.1.1
  · exact hgeneric.1.1.2
  · exact hgeneric.2
  · exact himplementation.2

end Registry

namespace Generator

/-- No file of an accepted registry is named like its directory or the one above. Its names are
those of direct children just if the prefix, the type parameter and the extensions hold no slash.
Then the path of each of them leads to a child of whatever directory it is joined to, and a run
changes nothing but such children of the output directory and the way to it, whether it succeeds or
fails. If the scratch directory cannot be removed, it stays there, too. -/
theorem isName_spec {c : Conventions} {ps : List Profile} {r : Registry}
    (hr : Registry.new c ps = .ok r) (m : Master) (keepExport : Bool) :
    let g : Generator := ⟨r, m, keepExport⟩
    (∀ out, g.render = .ok out → out.names.Perm r.fileNames) ∧
    (∀ name ∈ r.fileNames, name ≠ "" ∧ name ≠ "." ∧ name ≠ "..") ∧
    ((∀ name ∈ r.fileNames, IsName name) ↔ c.InPlace) ∧
    (c.InPlace →
      (∀ name ∈ r.fileNames, ∀ (d : Disk) dir D t, DirectoryAt d dir D →
        d.resolve (join dir name) = .ok t → t.location = D ++ [name]) ∧
      ∀ (w w' : Machine) dir result, w.disk.Tree → outcome (g.generate dir) w = (result, w') →
        ∃ d, Confined r.fileNames dir w.disk d ∧ OutputSet.Leftover dir d w'.disk ∧
          (w.Spares .removeDirectory → w'.disk = d)) := by
  obtain ⟨rfl, rfl, -, h⟩ := Registry.new_eq_ok_iff.1 hr
  intro g
  have hperm : ∀ out, g.render = .ok out → out.names.Perm r.fileNames :=
    fun out hout => perm_names_of_render (g := g) h.namesApart hout
  refine ⟨hperm, fun name hname => ?_, h.isName_iff, fun hplace =>
    ⟨fun name hname d dir D t hD ht => ?_, fun w w' dir result ht hrun => ?_⟩⟩
  · exact ⟨h.fileName_ne hname (by decide), h.fileName_ne hname (by decide),
      h.fileName_ne hname (by decide)⟩
  · exact location_of_resolve_join hD ((h.isName hplace).1 name hname) ht
  · cases hrender : g.render with
    | error e =>
      rw [OutputSet.outcome_generate_of_error hrender] at hrun
      obtain rfl := (Prod.mk.inj hrun).2
      exact ⟨w.disk, confined_refl _ dir w.disk, .inl rfl, fun _ => rfl⟩
    | ok out =>
      rw [OutputSet.outcome_generate hrender] at hrun
      have hnames : out.names ⊆ r.fileNames := (hperm out hrender).subset
      obtain ⟨d, hconfined, hleft⟩ := OutputSet.confined_of_commit ht
        (fun name hname => (h.isName hplace).1 name (hnames hname)) hrun
      exact ⟨d, confined_mono hnames hconfined, hleft⟩

/-- The files of the small pair stay in the output directory. -/
theorem isName_spec_short :
    Registry.new (shortConventions "T") [shortProfile] = .ok (shortGenerator "T").registry ∧
    (shortConventions "T").InPlace ∧
    ∀ (w w' : Machine) result, w.disk.Tree → w.Spares .removeDirectory →
      outcome ((shortGenerator "T").generate "out") w = (result, w') →
      Confined ["VT.h", "VA.h", "VA.x.h"] "out" w.disk w'.disk := by
  have hplace : (shortConventions "T").InPlace := by decide +kernel
  refine ⟨new_short, hplace, fun w w' result ht hspare hrun => ?_⟩
  obtain ⟨d, hconfined, -, hspared⟩ :=
    ((isName_spec new_short shortMaster true).2.2.2 hplace).2 w w' "out" result ht hrun
  rw [hspared hspare]
  exact hconfined

/-! ### A prefix that goes up -/

/-- A prefix that leads out of the output directory. -/
def upConventions : Conventions := { shortConventions "T" with classPrefix := "../x" }

def upProfile : Profile := { shortProfile with includeLabel := "../xA.h" }

/-- An interface with the class names that such a prefix gives. -/
def upInterface : Text :=
  ("S 0.0 Bytes: 1 Range: r\n// overloads for the << operator\ninline static a../x2d\n" ++
    "// End\n").toList

def upSection (arity : Nat) : Text :=
  let name := "../x".toList ++ (toString arity).toList ++ ['d']
  "// ".toList ++ name ++ ['\n'] ++ name ++ "::\n".toList

def upImplementation : Text :=
  "namespace N \x7b\nS Bytes: 1 Range: r ../xD.h a../x2d\n".toList ++ arities.flatMap upSection ++
    "// End\n\x7d\n".toList

def upMaster : Master where
  interface := upInterface
  implementation := upImplementation
  layout :=
    { scope := ['N']
      regions := [⟨2, 50, 69⟩, ⟨3, 69, 88⟩, ⟨4, 88, 107⟩, ⟨5, 107, 126⟩, ⟨6, 126, 145⟩,
        ⟨7, 145, 164⟩, ⟨8, 164, 183⟩, ⟨9, 183, 202⟩, ⟨10, 202, 223⟩]
      helpers := (24, 79) }

/-- A generator of files that are not in the output directory. -/
def upGenerator : Generator := ⟨.single upConventions upProfile, upMaster, true⟩

/-- An output directory, and a file beside it. -/
def besideDisk : Disk := (Disk.put {} ["out"] .directory).put ["xA.h"] (.text "keep")

/-- The prefix is accepted, and what a run into `out` writes goes where the file beside it is. -/
theorem name_outside : ∃ out,
    Registry.new upConventions [upProfile] = .ok upGenerator.registry ∧
    Master.ofSources upConventions upInterface upImplementation = .ok upMaster ∧
    upGenerator.render = .ok out ∧ "../xA.h" ∈ out.names ∧ ¬ IsName "../xA.h" ∧
    DirectoryAt besideDisk "out" ["out"] ∧
    besideDisk.resolve (join "out" "../xA.h") = .ok (.child [] "xA.h" false) := by
  have hr : Registry.new upConventions [upProfile] = .ok upGenerator.registry := by decide
  have hm : Master.ofSources upConventions upInterface upImplementation = .ok upMaster := by
    decide +kernel
  have hrender : upGenerator.render.isOk = true := by decide +kernel
  obtain ⟨out, hout⟩ := exists_of_isOk hrender
  have hname : "../xA.h" ∈ out.names := by
    have haccepted : Registry.Accepted upConventions [upProfile] :=
      Registry.exists_new_iff.1 ⟨_, hr⟩
    have hnames : upGenerator.registry.NamesApart := haccepted.namesApart
    refine (perm_names_of_render hnames hout).mem_iff.2 ?_
    decide
  have hD : DirectoryAt besideDisk "out" ["out"] ∧ besideDisk.isDirectory "out" = true :=
    directoryAt_name (by decide) (by decide +kernel) rfl
  have hzero : (join "out" "../xA.h").contains '\x00' = false := by
    rw [String.contains_char_eq]
    decide +kernel
  refine ⟨out, hr, hm, hout, hname, by decide, hD.1,
    resolve_eq_ok_iff.2 ⟨approach_eq_ok_iff.2 ⟨⟨hzero, by decide +kernel, by decide +kernel⟩,
      .inr ⟨["out", ".."], "xA.h", [], by decide +kernel, by decide +kernel, ?_⟩⟩, by decide +kernel⟩⟩
  decide +kernel

end Generator

end VectorFamily
