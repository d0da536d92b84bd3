import VectorFamily.Proofs.Output.Names
import VectorFamily.Proofs.Output.Stopped
import VectorFamily.Proofs.Registry.WellFormed

/-!
# The canonical pair among the files of a run

No artifact of an accepted registry is named like a file of the canonical pair, whatever the case of
its letters. The generic header can be, since the type parameter is not compared with the canonical
file tag: `masterFileName_spec` says just when. Otherwise a run into the directory of the pair
leaves the pair as it is, whether it succeeds or not and whatever goes wrong.
-/

namespace VectorFamily

open FileSystem Disk

/-! ### Names without regard to case -/

theorem foldCase_append (s t : String) : foldCase (s ++ t) = foldCase s ++ foldCase t := by
  simp [foldCase]

theorem eq_dot_of_toLower_eq {ch : Char} (h : ch.toLower = '.') : ch = '.' := by
  unfold Char.toLower at h
  split at h
  · next hupper =>
    have hval := congrArg (fun x : Char => x.val.toNat) h
    have hle : ch.val.toNat ≤ 'Z'.val.toNat := hupper.2
    have hge : 'A'.val.toNat ≤ ch.val.toNat := hupper.1
    simp [UInt32.toNat_add] at hval hle hge
    omega
  · exact h

theorem dot_not_mem_foldCase {tag : String} (h : tagDefect? tag = none) : '.' ∉ foldCase tag := by
  intro hdot
  obtain ⟨ch, hch, heq⟩ := List.mem_map.1 hdot
  exact dot_not_mem_of_tagDefect? h (eq_dot_of_toLower_eq heq ▸ hch)

section
variable {c : Conventions} {p : Profile} {kind kind' : ArtifactKind} {tag tag' ext ext' : String}

theorem foldCase_fileName (c : Conventions) (tag ext : String) :
    foldCase (c.stem tag ++ "." ++ ext) =
      foldCase c.classPrefix ++ (foldCase tag ++ '.' :: foldCase ext) := by
  rw [Conventions.stem, foldCase_append, foldCase_append, foldCase_append, List.append_assoc,
    List.append_assoc]
  rfl

/-- Names with tags between prefix and dot agree if they do so part by part. -/
theorem fileName_toLower_eq_iff (htag : tagDefect? tag = none) (htag' : tagDefect? tag' = none) :
    (c.stem tag ++ "." ++ ext).toLower = (c.stem tag' ++ "." ++ ext').toLower ↔
      tag.toLower = tag'.toLower ∧ ext.toLower = ext'.toLower := by
  simp only [← foldCase_eq_iff, foldCase_fileName, List.append_cancel_left_eq]
  constructor
  · exact eq_of_append_cons (dot_not_mem_foldCase htag) (dot_not_mem_foldCase htag')
  · rintro ⟨ht, he⟩
    rw [ht, he]

theorem genericFileName_toLower_eq_iff :
    c.genericFileName.toLower = (masterFileName c kind).toLower ↔
      (c.genericParameter ++ "." ++ c.interfaceExtension).toLower =
        (c.fileTag ++ "." ++ kind.extension c).toLower := by
  rw [← foldCase_eq_iff, ← foldCase_eq_iff, Conventions.genericFileName, masterFileName,
    Conventions.baseName, foldCase_fileName, foldCase_fileName, List.append_cancel_left_eq]
  simp only [foldCase_append, List.append_assoc]
  rfl

end

theorem HasText.length_pos {s : String} (h : HasText s) : 0 < s.toList.length := by
  obtain ⟨ch, hch, -⟩ := h
  exact List.length_pos_of_mem hch

namespace Conventions

/-- The generic header is named like a file of the canonical pair, whatever the case of its letters:
the type parameter is the canonical file tag, or it differs from it by what the extensions differ
by. -/
def HeaderCanonical (c : Conventions) : Prop :=
  c.genericParameter.toLower = c.fileTag.toLower ∨
    (c.genericParameter ++ "." ++ c.interfaceExtension).toLower =
      (c.fileTag ++ "." ++ c.implementationExtension).toLower

instance (c : Conventions) : Decidable c.HeaderCanonical := inferInstanceAs (Decidable (_ ∨ _))

theorem headerCanonical_iff {c : Conventions} : c.HeaderCanonical ↔
    ∃ kind, c.genericFileName.toLower = (masterFileName c kind).toLower := by
  have hinterface : c.genericParameter.toLower = c.fileTag.toLower ↔
      (c.genericParameter ++ "." ++ c.interfaceExtension).toLower =
        (c.fileTag ++ "." ++ c.interfaceExtension).toLower := by
    simp only [← foldCase_eq_iff, foldCase_append, List.append_cancel_right_eq]
  simp only [genericFileName_toLower_eq_iff]
  constructor
  · rintro (h | h)
    · exact ⟨.interface, hinterface.1 h⟩
    · exact ⟨.implementation, h⟩
  · rintro ⟨_ | _, h⟩
    · exact .inl (hinterface.2 h)
    · exact .inr h

/-- No file name made by the conventions leads into another directory. -/
def InPlace (c : Conventions) : Prop :=
  ∀ s ∈ [c.classPrefix, c.genericParameter, c.interfaceExtension, c.implementationExtension],
    '/' ∉ s.toList

instance (c : Conventions) : Decidable c.InPlace := inferInstanceAs (Decidable (∀ s ∈ _, _))

/-- A name of three characters at least is that of no directory by itself. -/
theorem fileName_ne {c : Conventions} {tag ext s : String} (hstem : HasText c.classPrefix)
    (htag : 0 < tag.toList.length) (hs : s.toList.length ≤ 2) : c.stem tag ++ "." ++ ext ≠ s := by
  rintro rfl
  simp only [stem, String.toList_append, List.length_append] at hs
  have hdot : ".".toList.length = 1 := rfl
  have := hstem.length_pos
  omega

theorem InPlace.isName {c : Conventions} {tag ext : String} (h : c.InPlace)
    (hstem : HasText c.classPrefix) (hlength : 0 < tag.toList.length) (htag : '/' ∉ tag.toList)
    (hext : '/' ∉ ext.toList) : IsName (c.stem tag ++ "." ++ ext) := by
  refine ⟨fileName_ne hstem hlength (by decide), ?_, fileName_ne hstem hlength (by decide),
    fileName_ne hstem hlength (by decide)⟩
  simp [stem, h c.classPrefix (by simp), htag, hext]

end Conventions

namespace Registry

section
variable {r : Registry} (h : Accepted r.conventions r.profiles)
include h

theorem Accepted.artifactFileName_toLower_ne {p : Profile} (hp : p ∈ r.profiles)
    (kind kind' : ArtifactKind) :
    (artifactFileName r.conventions p kind).toLower ≠
      (masterFileName r.conventions kind').toLower := by
  intro heq
  have htag := (Profile.check_eq_ok_iff.1 (h.profiles p hp)).2.1
  have hcanonical := (Conventions.check_eq_ok_iff.1 h.conventions).2.2.1
  exact ((accepted_iff_wellFormed.1 h).notReserved p hp).1
    ((fileName_toLower_eq_iff htag hcanonical).1 heq).1

/-- Some file of a run is named like a file of the canonical pair just if the generic header is. -/
theorem Accepted.exists_masterFileName_iff :
    (∃ name ∈ r.conventions.genericFileName :: r.artifactNames,
      ∃ kind, name.toLower = (masterFileName r.conventions kind).toLower) ↔
    r.conventions.HeaderCanonical := by
  simp only [Conventions.headerCanonical_iff, List.mem_cons, exists_eq_or_imp]
  refine or_iff_left ?_
  rintro ⟨name, hname, kind, heq⟩
  obtain ⟨p, hp, kind', rfl⟩ := mem_artifactNames_iff.1 hname
  exact h.artifactFileName_toLower_ne hp kind' kind heq

theorem Accepted.isName (hplace : r.conventions.InPlace) :
    (∀ name ∈ r.conventions.genericFileName :: r.artifactNames, IsName name) ∧
      ∀ kind, IsName (masterFileName r.conventions kind) := by
  obtain ⟨htext, -, hcanonical, -⟩ := (accepted_iff_wellFormed.1 h).conventions
  have hstem := htext r.conventions.classPrefix (by simp)
  have hext : ∀ kind : ArtifactKind, '/' ∉ (kind.extension r.conventions).toList := by
    rintro (_ | _) <;> exact hplace _ (by simp [ArtifactKind.extension])
  have hslash : ∀ {tag : String}, IsTag tag → '/' ∉ tag.toList :=
    fun htag hmem => absurd (htag.ascii _ hmem) (by decide)
  have hpos : ∀ {tag : String}, IsTag tag → 0 < tag.toList.length := fun htag =>
    List.length_pos_iff.2 fun hnil => htag.nonempty (String.toList_eq_nil_iff.1 hnil)
  refine ⟨fun name hname => ?_, fun kind =>
    hplace.isName hstem (hpos hcanonical) (hslash hcanonical) (hext kind)⟩
  rcases List.mem_cons.1 hname with rfl | hname
  · exact hplace.isName hstem (htext r.conventions.genericParameter (by simp)).length_pos
      (hplace _ (by simp)) (hext .interface)
  · obtain ⟨p, hp, kind, rfl⟩ := mem_artifactNames_iff.1 hname
    have htag := ((accepted_iff_wellFormed.1 h).profiles p hp).fileTag
    exact hplace.isName hstem (hpos htag) (hslash htag) (hext kind)

end

end Registry

/-! ### Files that are not of the set -/

namespace OutputSet

variable {s : OutputSet} {d d' : Disk} {m m' : Machine} {dir name contents : String} {D : Location}
  {k : Nat}

theorem Committed.readText_of_not_mem (h : s.Committed dir d d' D) (hname : IsName name)
    (hnot : name ∉ s.names) (hread : d.readText (join dir name) = .ok contents) :
    d'.readText (join dir name) = .ok contents := by
  refine readText_keep (h.resolved _) (fun t ht he => h.kept _ _ he fun f hf heq => hnot ?_) hread
  obtain ⟨-, rfl⟩ := (resolve_join_eq_ok_iff h.directory hname).1 (h.resolved _ _ ht)
  have hsame : name = f.1 := by simpa [Target.location] using heq
  exact hsame ▸ List.mem_map_of_mem hf

theorem Stopped.readText_of_not_mem (h : s.Stopped k dir d d') (hname : IsName name)
    (hnot : name ∉ s.names) (hread : d.readText (join dir name) = .ok contents) :
    d'.readText (join dir name) = .ok contents := by
  rcases h with ⟨-, hled⟩ | ⟨D, hcommitted⟩
  · exact readText_keep (fun t ht => resolve_keep hled.keepsDirectories ht)
      (fun t _ he => hled.kept _ _ he) hread
  · refine hcommitted.readText_of_not_mem hname (fun hmem => hnot ?_) hread
    exact List.map_subset _ (List.take_subset k s.files) hmem

/-- A commit leaves the files of other names, whether it succeeds or not. -/
theorem readText_of_commit {result : Except Failure CommitReport} (ht : m.disk.Tree)
    (hs : ∀ name ∈ s.names, IsName name) (h : outcome (s.commit dir) m = (result, m'))
    (hname : IsName name) (hnot : name ∉ s.names)
    (hread : m.disk.readText (join dir name) = .ok contents) :
    m'.disk.readText (join dir name) = .ok contents := by
  have hfiles : ∀ f ∈ s.files, IsName f.1 := fun f hf => hs f.1 (List.mem_map_of_mem hf)
  obtain ⟨k, d, hstopped, hleft, -⟩ := exists_stopped_of_commit hfiles ht h
  exact hleft.readText (hstopped.readText_of_not_mem hname hnot hread)

end OutputSet

namespace Generator

/-- No artifact of an accepted registry is named like a file of the canonical pair, whatever the
case of its letters. A run writes a file that is just if the generic header is. If it is not, a run
into the directory of the pair leaves the pair as it is, whatever goes wrong. -/
theorem masterFileName_spec {c : Conventions} {ps : List Profile} {r : Registry}
    (hr : Registry.new c ps = .ok r) (m : Master) (keepExport : Bool) :
    let g : Generator := ⟨r, m, keepExport⟩
    (∀ p ∈ ps, ∀ kind kind',
      (artifactFileName c p kind).toLower ≠ (masterFileName c kind').toLower) ∧
    (∀ out, g.render = .ok out →
      ((∃ name ∈ out.names, ∃ kind, name.toLower = (masterFileName c kind).toLower) ↔
        c.HeaderCanonical)) ∧
    (¬ c.HeaderCanonical → c.InPlace → ∀ (w w' : Machine) (dir : String) result kind contents,
      w.disk.Tree → outcome (g.generate dir) w = (result, w') →
      w.disk.readText (join dir (masterFileName c kind)) = .ok contents →
      w'.disk.readText (join dir (masterFileName c kind)) = .ok contents) := by
  obtain ⟨rfl, rfl, -, h⟩ := Registry.new_eq_ok_iff.1 hr
  intro g
  have hperm : ∀ out, g.render = .ok out →
      out.names.Perm (r.conventions.genericFileName :: r.artifactNames) :=
    fun out hout => perm_names_of_render (g := g) h.namesApart hout
  refine ⟨fun p hp kind kind' => h.artifactFileName_toLower_ne hp kind kind', fun out hout => ?_,
    fun hclear hplace w w' dir result kind contents ht hrun hread => ?_⟩
  · rw [← h.exists_masterFileName_iff]
    exact exists_congr fun name => and_congr_left fun _ => (hperm out hout).mem_iff
  · cases hrender : g.render with
    | error e =>
      rw [OutputSet.outcome_generate_of_error hrender] at hrun
      obtain rfl := (Prod.mk.inj hrun).2
      exact hread
    | ok out =>
      rw [OutputSet.outcome_generate hrender] at hrun
      obtain ⟨hnames, hmaster⟩ := h.isName hplace
      refine OutputSet.readText_of_commit ht
        (fun name hname => hnames name ((hperm out hrender).mem_iff.1 hname)) hrun (hmaster kind)
        (fun hmem => hclear ?_) hread
      exact h.exists_masterFileName_iff.1 ⟨_, (hperm out hrender).mem_iff.1 hmem, kind, rfl⟩

/-- A pair that is made generic in `T` is kept by runs into its own directory. -/
theorem masterFileName_spec_short :
    Registry.new (shortConventions "T") [shortProfile] = .ok (shortGenerator "T").registry ∧
    ∀ (w w' : Machine) result contents, w.disk.Tree →
      outcome ((shortGenerator "T").generate "in") w = (result, w') →
      w.disk.readText (join "in" "VD.h") = .ok contents →
      w'.disk.readText (join "in" "VD.h") = .ok contents := by
  obtain ⟨-, -, hkept⟩ := masterFileName_spec new_short shortMaster true
  exact ⟨new_short, fun w w' result contents =>
    hkept (by decide +kernel) (by decide +kernel) w w' "in" result .interface contents⟩

/-- The canonical file tag is taken for a type parameter, and the generic header is then the
interface of the pair. -/
theorem masterFileName_written :
    Registry.new (shortConventions "D") [shortProfile] = .ok (shortGenerator "D").registry ∧
    Master.ofSources (shortConventions "D") shortInterface shortImplementation = .ok shortMaster ∧
    ∃ out, (shortGenerator "D").render = .ok out ∧
      masterFileName (shortConventions "D") .interface ∈ out.names := by
  have hr : Registry.new (shortConventions "D") [shortProfile] =
      .ok (shortGenerator "D").registry := by decide
  have haccepted : Registry.Accepted (shortConventions "D") [shortProfile] :=
    Registry.exists_new_iff.1 ⟨_, hr⟩
  have hnames : (shortGenerator "D").registry.NamesApart := haccepted.namesApart
  have hprofiles : (shortGenerator "D").renderProfiles.isOk = true := by decide +kernel
  have hheader : (GenericHeader.render (shortConventions "D") shortMaster).isOk = true := by
    decide +kernel
  have hfree : ¬ (shortGenerator "D").registry.HeaderTaken := by
    simp [Registry.HeaderTaken, shortGenerator, shortConventions, shortProfile]
  obtain ⟨out, hout, hperm⟩ := (render_of_rendered (g := shortGenerator "D") hnames
    ⟨exists_of_isOk hprofiles, exists_of_isOk hheader⟩).2 hfree
  exact ⟨hr, by decide +kernel, out, hout, hperm.mem_iff.2 List.mem_cons_self⟩

end Generator

end VectorFamily
