import Mathlib.Data.List.Nodup
import VectorFamily.Generator
import VectorFamily.Proofs.Registry.Accepted
import VectorFamily.Proofs.Rule.Rewrite

/-!
# The files of a run

No tag holds a dot, so the first dot of a file name behind the prefix ends the tag. The artifacts of
an accepted registry are therefore written to different files. The generic header is named after
the type parameter, which may hold dots, so it can share its name with an implementation whose
extension holds one as well; with an interface it cannot. `render_spec` says that this is the only
way in which two files of a run can get one name, and how many files there are otherwise.
-/

namespace VectorFamily

/-! ### Names of artifacts -/

theorem dot_not_mem_of_tagDefect? {tag : String} (h : tagDefect? tag = none) : '.' ∉ tag.toList :=
  fun hc => absurd (isAsciiWord_of_tagDefect?_eq_none h _ hc) (by decide)

/-- The first place of an item cuts a list. -/
theorem eq_of_append_cons {α : Type _} {x : α} {a b u v : List α} (ha : x ∉ a) (hb : x ∉ b)
    (h : a ++ x :: u = b ++ x :: v) : a = b ∧ u = v := by
  rcases List.append_eq_append_iff.1 h with ⟨c, rfl, hc⟩ | ⟨c, rfl, hc⟩
  · cases c with
    | nil => exact ⟨by simp, (List.cons.inj hc).2⟩
    | cons d c => exact absurd ((List.cons.inj hc).1 ▸ by simp) hb
  · cases c with
    | nil => exact ⟨by simp, (List.cons.inj hc).2.symm⟩
    | cons d c => exact absurd ((List.cons.inj hc).1 ▸ by simp) ha

section
variable {c : Conventions} {p q : Profile} {kind kind' : ArtifactKind}

theorem toList_artifactFileName (c : Conventions) (p : Profile) (kind : ArtifactKind) :
    (artifactFileName c p kind).toList =
      c.classPrefix.toList ++ (p.fileTag.toList ++ '.' :: (kind.extension c).toList) := by
  simp [artifactFileName, Conventions.stem]

theorem toList_genericFileName (c : Conventions) : c.genericFileName.toList =
    c.classPrefix.toList ++ (c.genericParameter.toList ++ '.' :: c.interfaceExtension.toList) := by
  simp [Conventions.genericFileName, Conventions.stem]

theorem extension_inj (hc : c.interfaceExtension ≠ c.implementationExtension)
    (h : kind.extension c = kind'.extension c) : kind = kind' := by
  cases kind <;> cases kind' <;> simp_all [ArtifactKind.extension, eq_comm]

theorem artifactFileName_inj (hc : c.interfaceExtension ≠ c.implementationExtension)
    (hp : tagDefect? p.fileTag = none) (hq : tagDefect? q.fileTag = none)
    (h : artifactFileName c p kind = artifactFileName c q kind') :
    p.fileTag = q.fileTag ∧ kind = kind' := by
  have hlist := congrArg String.toList h
  rw [toList_artifactFileName, toList_artifactFileName, List.append_cancel_left_eq] at hlist
  obtain ⟨htag, hext⟩ :=
    eq_of_append_cons (dot_not_mem_of_tagDefect? hp) (dot_not_mem_of_tagDefect? hq) hlist
  exact ⟨String.toList_inj.1 htag, extension_inj hc (String.toList_inj.1 hext)⟩

theorem artifactFileName_eq_genericFileName_iff : artifactFileName c p kind = c.genericFileName ↔
    p.fileTag ++ "." ++ kind.extension c = c.genericParameter ++ "." ++ c.interfaceExtension := by
  rw [← String.toList_inj, toList_artifactFileName, toList_genericFileName,
    List.append_cancel_left_eq, ← String.toList_inj]
  simp

end

namespace Registry

def artifactNames (r : Registry) : List String :=
  r.profiles.flatMap fun p => ArtifactKind.all.map (artifactFileName r.conventions p)

theorem mem_artifactNames_iff {r : Registry} {name : String} : name ∈ r.artifactNames ↔
    ∃ p ∈ r.profiles, ∃ kind, name = artifactFileName r.conventions p kind := by
  simp only [artifactNames, List.mem_flatMap, List.mem_map, ArtifactKind.mem_all, true_and, eq_comm]

theorem length_artifactNames (r : Registry) : r.artifactNames.length = 2 * r.profiles.length := by
  simp [artifactNames, List.length_flatMap, ArtifactKind.all, Nat.mul_comm]

/-- The names that cannot fall together. -/
structure NamesApart (r : Registry) : Prop where
  /-- The files of the profiles differ from each other. -/
  artifacts : r.artifactNames.Nodup
  /-- No interface is named like the generic header. -/
  interfaces : ∀ p ∈ r.profiles,
    artifactFileName r.conventions p .interface ≠ r.conventions.genericFileName

/-- The implementation of some profile is named like the generic header: its tag and the type
parameter differ by what the extensions differ by. -/
def HeaderTaken (r : Registry) : Prop :=
  ∃ p ∈ r.profiles, p.fileTag ++ "." ++ r.conventions.implementationExtension =
    r.conventions.genericParameter ++ "." ++ r.conventions.interfaceExtension

theorem NamesApart.genericFileName_mem_iff {r : Registry} (h : r.NamesApart) :
    r.conventions.genericFileName ∈ r.artifactNames ↔ r.HeaderTaken := by
  rw [mem_artifactNames_iff]
  refine exists_congr fun p => and_congr_right fun hp => ⟨fun ⟨kind, hkind⟩ => ?_, fun htaken =>
    ⟨.implementation, (artifactFileName_eq_genericFileName_iff.2 htaken).symm⟩⟩
  cases kind with
  | interface => exact absurd hkind.symm (h.interfaces p hp)
  | implementation => exact artifactFileName_eq_genericFileName_iff.1 hkind.symm

theorem Accepted.namesApart {r : Registry} (h : Accepted r.conventions r.profiles) :
    r.NamesApart := by
  obtain ⟨-, hdistinct, hreserved⟩ := checkTags_eq_ok_iff.1 h.tags
  obtain ⟨-, -, -, hext⟩ := Conventions.check_eq_ok_iff.1 h.conventions
  have htag : ∀ p ∈ r.profiles, tagDefect? p.fileTag = none := fun p hp =>
    (Profile.check_eq_ok_iff.1 (h.profiles p hp)).2.1
  constructor
  · refine List.nodup_flatMap.2 ⟨fun p hp => ?_, ?_⟩
    · refine List.Nodup.map_on ?_ (by decide)
      intro k _ k' _ he
      exact (artifactFileName_inj hext (htag p hp) (htag p hp) he).2
    · have hpair : r.profiles.Pairwise fun p q => foldCase p.fileTag ≠ foldCase q.fileTag :=
        List.pairwise_map.1 hdistinct
      refine hpair.imp_of_mem fun {p q} hp hq hne name hpn hqn => ?_
      obtain ⟨k, -, rfl⟩ := List.mem_map.1 hpn
      obtain ⟨k', -, he⟩ := List.mem_map.1 hqn
      exact hne (congrArg foldCase (artifactFileName_inj hext (htag q hq) (htag p hp) he).1.symm)
  · intro p hp he
    have hlist := congrArg String.toList (artifactFileName_eq_genericFileName_iff.1 he)
    have htags : p.fileTag = r.conventions.genericParameter := by
      simpa [ArtifactKind.extension, String.toList_inj] using hlist
    exact hreserved p hp (by simp [reservedTags, htags])

end Registry

/-! ### Adding files -/

namespace OutputSet

theorem perm_place (f : String × String) (fs : List (String × String)) :
    (place f fs).Perm (f :: fs) := by
  induction fs with
  | nil => exact .refl _
  | cons g gs ih =>
    unfold place
    split
    · exact (ih.cons g).trans (.swap f g gs)
    · exact .refl _

variable {s : OutputSet} {a : Artifact}

theorem insert_of_mem (h : a.fileName ∈ s.names) :
    s.insert a = .error (.duplicateOutput a.fileName) := by
  simp [insert, h]

theorem insert_of_not_mem (h : a.fileName ∉ s.names) :
    ∃ out, s.insert a = .ok out ∧ out.names.Perm (a.fileName :: s.names) :=
  ⟨_, dif_neg h, (perm_place _ _).map _⟩

theorem insertAll_of_nodup {as : List Artifact}
    (h : (as.map (·.fileName) ++ s.names).Nodup) :
    ∃ out, s.insertAll as = .ok out ∧ out.names.Perm (as.map (·.fileName) ++ s.names) := by
  induction as generalizing s with
  | nil => exact ⟨s, rfl, .refl _⟩
  | cons a as ih =>
    obtain ⟨hnew, hnodup⟩ := List.nodup_cons.1 h
    obtain ⟨out, hout, hnames⟩ := insert_of_not_mem (s := s) (a := a) fun hmem =>
      hnew (List.mem_append_right _ hmem)
    have hperm : (as.map (·.fileName) ++ out.names).Perm
        (a.fileName :: (as.map (·.fileName) ++ s.names)) :=
      (hnames.append_left _).trans List.perm_middle
    obtain ⟨all, hall, hnames'⟩ := ih (hperm.nodup_iff.2 h)
    have hcons : s.insertAll (a :: as) = s.insert a >>= fun out => out.insertAll as :=
      List.foldlM_cons
    exact ⟨all, by rw [hcons, hout]; exact hall, hnames'.trans hperm⟩

end OutputSet

/-! ### What is rendered -/

namespace Failure

/-- The failure comes from rewriting: a rule that has to match did not, or a placeholder is left. -/
def OfRewriting : Failure → Prop
  | ruleNotApplied .. | incomplete .. => True
  | _ => False

theorem ofRewriting_of_applyAll {target : String} {kind : ArtifactKind} {rules : List Rule}
    {t : Text} {e : Failure} (h : Rule.applyAll target kind rules t = .error e) :
    e.OfRewriting := by
  obtain ⟨_, _, _, _, -, -, -, -, rfl⟩ := Rule.applyAll_eq_error_iff.1 h
  trivial

theorem ofRewriting_of_checkPlaceholders {target : String} {kind : ArtifactKind} {t : Text}
    {ps : List Pattern} {e : Failure} (h : checkPlaceholders target kind t ps = .error e) :
    e.OfRewriting := by
  obtain ⟨_, rfl⟩ := exists_of_checkPlaceholders_eq_error h
  trivial

/-- A text is rewritten and then looked through for placeholders. -/
theorem ofRewriting_of_checked {target : String} {kind : ArtifactKind} {rules : List Rule}
    {t : Text} {ps : List Pattern} {e : Failure}
    (h : (do
      let u ← Rule.applyAll target kind rules t
      checkPlaceholders target kind u ps
      pure u) = .error e) : e.OfRewriting := by
  rcases bind_eq_error.1 h with h | ⟨u, -, h⟩
  · exact ofRewriting_of_applyAll h
  · rcases bind_eq_error.1 h with h | ⟨-, -, h⟩
    · exact ofRewriting_of_checkPlaceholders h
    · cases h

theorem ofRewriting_of_render {c : Conventions} {m : Master} {e : Failure}
    (h : GenericHeader.render c m = .error e) : e.OfRewriting := by
  unfold GenericHeader.render at h
  rcases bind_eq_error.1 h with h | ⟨fragments, -, h⟩
  · obtain ⟨r, -, h⟩ := exists_mem_of_mapM_eq_error h
    unfold GenericHeader.fragment at h
    rcases bind_eq_error.1 h with h | ⟨body, -, h⟩
    · exact ofRewriting_of_checked h
    · cases h
  · rcases bind_eq_error.1 h with h | ⟨helpers, -, h⟩
    · exact ofRewriting_of_checked h
    · cases h

end Failure

namespace Generator

variable {g : Generator}

theorem fileName_of_renderArtifact {p : Profile} {kind : ArtifactKind} {a : Artifact}
    (h : g.renderArtifact p kind = .ok a) :
    a.fileName = artifactFileName g.registry.conventions p kind := by
  obtain ⟨t, -, h⟩ := bind_eq_ok.1 h
  rw [← pure_eq_ok.1 h]

theorem map_fileName_of_renderProfiles {as : List Artifact} (h : g.renderProfiles = .ok as) :
    as.map (·.fileName) = g.registry.artifactNames := by
  obtain ⟨ass, hass, h⟩ := bind_eq_ok.1 h
  have hnames : ass.map (List.map (·.fileName)) = g.registry.profiles.map fun p =>
      ArtifactKind.all.map (artifactFileName g.registry.conventions p) :=
    map_of_mapM_eq_ok (fun _ _ hp => map_of_mapM_eq_ok (fun _ _ => fileName_of_renderArtifact) hp)
      hass
  rw [← pure_eq_ok.1 h, List.map_flatten, hnames, Registry.artifactNames, List.flatMap_def]

theorem ofRewriting_of_renderProfiles {e : Failure} (h : g.renderProfiles = .error e) :
    e.OfRewriting := by
  rcases bind_eq_error.1 h with h | ⟨ass, -, h⟩
  · obtain ⟨p, -, h⟩ := exists_mem_of_mapM_eq_error h
    obtain ⟨kind, -, h⟩ := exists_mem_of_mapM_eq_error h
    rcases bind_eq_error.1 h with h | ⟨t, -, h⟩
    · exact Failure.ofRewriting_of_checked h
    · cases h
  · cases h

theorem fileName_of_genericHeader_render {c : Conventions} {m : Master} {a : Artifact}
    (h : GenericHeader.render c m = .ok a) : a.fileName = c.genericFileName := by
  obtain ⟨fragments, -, h⟩ := bind_eq_ok.1 h
  obtain ⟨helpers, -, h⟩ := bind_eq_ok.1 h
  rw [← pure_eq_ok.1 h]

theorem render_eq_error_of_renderProfiles {e : Failure} (h : g.renderProfiles = .error e) :
    g.render = .error e := by
  unfold render
  rw [h]
  rfl

/-- When the artifacts of the profiles are rendered, only the generic header is left. -/
theorem render_eq_of_renderProfiles (hnames : g.registry.NamesApart) {as : List Artifact}
    (has : g.renderProfiles = .ok as) : ∃ outputs : OutputSet,
      outputs.names.Perm g.registry.artifactNames ∧
      g.render = GenericHeader.render g.registry.conventions g.master >>= outputs.insert := by
  have hnodup : (as.map (·.fileName) ++ OutputSet.empty.names).Nodup := by
    simpa [map_fileName_of_renderProfiles has, OutputSet.empty, OutputSet.names] using
      hnames.artifacts
  obtain ⟨outputs, hout, hperm⟩ := OutputSet.insertAll_of_nodup hnodup
  refine ⟨outputs, ?_, ?_⟩
  · simpa [map_fileName_of_renderProfiles has, OutputSet.empty, OutputSet.names] using hperm
  · unfold render
    rw [has]
    show (OutputSet.empty.insertAll as >>= _) = _
    rw [hout]
    rfl

/-- A run without any of its parts fails, and not because of a name. -/
theorem render_of_not_rendered (hnames : g.registry.NamesApart)
    (h : ¬ ((∃ as, g.renderProfiles = .ok as) ∧
      ∃ a, GenericHeader.render g.registry.conventions g.master = .ok a)) :
    ∃ e, g.render = .error e ∧ e.OfRewriting := by
  cases has : g.renderProfiles with
  | error e => exact ⟨e, render_eq_error_of_renderProfiles has, ofRewriting_of_renderProfiles has⟩
  | ok as =>
    obtain ⟨outputs, -, hrender⟩ := render_eq_of_renderProfiles hnames has
    cases hheader : GenericHeader.render g.registry.conventions g.master with
    | ok header => exact absurd ⟨⟨as, has⟩, header, hheader⟩ h
    | error e =>
      rw [hheader] at hrender
      exact ⟨e, hrender, Failure.ofRewriting_of_render hheader⟩

/-- When all parts are rendered, the name of the generic header decides. -/
theorem render_of_rendered (hnames : g.registry.NamesApart)
    (h : (∃ as, g.renderProfiles = .ok as) ∧
      ∃ a, GenericHeader.render g.registry.conventions g.master = .ok a) :
    (g.registry.HeaderTaken →
      g.render = .error (.duplicateOutput g.registry.conventions.genericFileName)) ∧
    (¬ g.registry.HeaderTaken → ∃ out, g.render = .ok out ∧
      out.names.Perm (g.registry.conventions.genericFileName :: g.registry.artifactNames)) := by
  obtain ⟨⟨as, has⟩, header, hheader⟩ := h
  obtain ⟨outputs, hperm, hrender⟩ := render_eq_of_renderProfiles hnames has
  have hname := fileName_of_genericHeader_render hheader
  have hmem : header.fileName ∈ outputs.names ↔ g.registry.HeaderTaken := by
    rw [hperm.mem_iff, hname, hnames.genericFileName_mem_iff]
  have hrender : g.render = outputs.insert header := by
    rw [hrender, hheader]
    rfl
  rw [hrender]
  refine ⟨fun htaken => ?_, fun hfree => ?_⟩
  · rw [OutputSet.insert_of_mem (hmem.2 htaken), hname]
  · obtain ⟨out, hinsert, hout⟩ := OutputSet.insert_of_not_mem fun hm => hfree (hmem.1 hm)
    exact ⟨out, hinsert, hout.trans (by rw [hname]; exact hperm.cons _)⟩

/-- A run that succeeds has rendered all parts, and the name of the generic header is free. -/
theorem rendered_of_render (hnames : g.registry.NamesApart) {out : OutputSet}
    (h : g.render = .ok out) :
    ((∃ as, g.renderProfiles = .ok as) ∧
      ∃ a, GenericHeader.render g.registry.conventions g.master = .ok a) ∧
    ¬ g.registry.HeaderTaken := by
  by_cases hrendered : (∃ as, g.renderProfiles = .ok as) ∧
      ∃ a, GenericHeader.render g.registry.conventions g.master = .ok a
  · refine ⟨hrendered, fun htaken => ?_⟩
    cases h.symm.trans ((render_of_rendered hnames hrendered).1 htaken)
  · obtain ⟨e, he, -⟩ := render_of_not_rendered hnames hrendered
    cases h.symm.trans he

theorem perm_names_of_render (hnames : g.registry.NamesApart) {out : OutputSet}
    (h : g.render = .ok out) :
    out.names.Perm (g.registry.conventions.genericFileName :: g.registry.artifactNames) := by
  obtain ⟨hrendered, hfree⟩ := rendered_of_render hnames h
  obtain ⟨out', hout', hperm⟩ := (render_of_rendered hnames hrendered).2 hfree
  obtain rfl := Except.ok.inj (h.symm.trans hout')
  exact hperm

/-- The artifacts of an accepted registry have names of their own, and no interface is named like
the generic header. A run fails because of a name just if everything is rendered and an
implementation is named like the generic header; if none is, it holds two files for each profile
and the generic header. -/
theorem render_spec {c : Conventions} {ps : List Profile} {r : Registry}
    (hr : Registry.new c ps = .ok r) (m : Master) (keepExport : Bool) :
    let g : Generator := ⟨r, m, keepExport⟩
    let rendered := (∃ as, g.renderProfiles = .ok as) ∧ ∃ a, GenericHeader.render c m = .ok a
    r.NamesApart ∧
    (∀ name, g.render = .error (.duplicateOutput name) ↔
      rendered ∧ r.HeaderTaken ∧ name = c.genericFileName) ∧
    ((∃ out, g.render = .ok out) ↔ rendered ∧ ¬ r.HeaderTaken) ∧
    ∀ out, g.render = .ok out → out.names.Perm (c.genericFileName :: r.artifactNames) ∧
      out.size = g.expectedOutputs ∧ g.expectedOutputs = 2 * r.profiles.length + 1 := by
  obtain ⟨rfl, rfl, -, haccepted⟩ := Registry.new_eq_ok_iff.1 hr
  have hnames := haccepted.namesApart
  intro g rendered
  have hexpected : g.expectedOutputs = 2 * r.profiles.length + 1 := by
    simp [expectedOutputs, g, ArtifactKind.all, Nat.mul_comm]
  have hfail := render_of_not_rendered (g := g) hnames
  have hparts := render_of_rendered (g := g) hnames
  have hok : ∀ out, g.render = .ok out → rendered ∧ ¬ g.registry.HeaderTaken :=
    fun out hout => rendered_of_render hnames hout
  refine ⟨hnames, fun name => ⟨fun hname => ?_, ?_⟩, ⟨fun ⟨out, hout⟩ => hok out hout, ?_⟩,
    fun out hout => ?_⟩
  · have hrendered : rendered := by
      by_contra hnot
      obtain ⟨e, he, hrewriting⟩ := hfail hnot
      obtain rfl := Except.error.inj (he.symm.trans hname)
      exact hrewriting
    by_cases htaken : g.registry.HeaderTaken
    · cases hname.symm.trans ((hparts hrendered).1 htaken)
      exact ⟨hrendered, htaken, rfl⟩
    · obtain ⟨out, hout, -⟩ := (hparts hrendered).2 htaken
      cases hout.symm.trans hname
  · rintro ⟨hrendered, htaken, rfl⟩
    exact (hparts hrendered).1 htaken
  · rintro ⟨hrendered, hfree⟩
    obtain ⟨out, hout, -⟩ := (hparts hrendered).2 hfree
    exact ⟨out, hout⟩
  · have hperm := perm_names_of_render (g := g) hnames hout
    refine ⟨hperm, ?_, hexpected⟩
    have hlen : out.size = out.names.length := by simp [OutputSet.size, OutputSet.names]
    rw [hlen, hperm.length_eq, List.length_cons, Registry.length_artifactNames, hexpected]

/-! ### A small pair -/

/-- Conventions with short names; an implementation has two extensions. -/
def shortConventions (genericParameter : String) : Conventions where
  classPrefix := "V"
  symbol := "S"
  byteSize := 1
  range := "r"
  genericParameter := genericParameter
  interfaceExtension := "h"
  implementationExtension := "x.h"

/-- A profile with the files `VA.h` and `VA.x.h`. -/
def shortProfile : Profile where
  symbol := "Q"
  classTag := "q"
  fileTag := "A"
  defaultLiteral := "1"
  byteSize := 2
  range := "w"
  includeLabel := "VA.h"
  category := .standardNumeric

/-- An interface with nothing in it but what has to be there. -/
def shortInterface : Text :=
  ("S 0.0 Bytes: 1 Range: r\n// overloads for the << operator\ninline static V2d\n" ++
    "// End\n").toList

def shortSection (arity : Nat) : Text :=
  let name := 'V' :: (toString arity).toList ++ ['d']
  "// ".toList ++ name ++ ['\n'] ++ name ++ "::\n".toList

def shortImplementation : Text :=
  "namespace N \x7b\nS Bytes: 1 Range: r VD.h\n".toList ++ arities.flatMap shortSection ++
    "// End\n\x7d\n".toList

def shortMaster : Master where
  interface := shortInterface
  implementation := shortImplementation
  layout :=
    { scope := ['N']
      regions := [⟨2, 39, 52⟩, ⟨3, 52, 65⟩, ⟨4, 65, 78⟩, ⟨5, 78, 91⟩, ⟨6, 91, 104⟩, ⟨7, 104, 117⟩,
        ⟨8, 117, 130⟩, ⟨9, 130, 143⟩, ⟨10, 143, 158⟩]
      helpers := (24, 75) }

/-- A generator of three files. -/
def shortGenerator (genericParameter : String) : Generator :=
  ⟨.single (shortConventions genericParameter) shortProfile, shortMaster, true⟩

theorem new_short : Registry.new (shortConventions "T") [shortProfile] =
    .ok (shortGenerator "T").registry := by
  decide

theorem rendered_short : (∃ as, (shortGenerator "T").renderProfiles = .ok as) ∧
    ∃ a, GenericHeader.render (shortConventions "T") shortMaster = .ok a :=
  ⟨exists_of_isOk (by decide +kernel), exists_of_isOk (by decide +kernel)⟩

theorem not_headerTaken_short : ¬ (shortGenerator "T").registry.HeaderTaken := by
  simp [Registry.HeaderTaken, shortGenerator, shortConventions, shortProfile]

theorem exists_render_short : ∃ out, (shortGenerator "T").render = .ok out := by
  have haccepted : Registry.Accepted (shortConventions "T") [shortProfile] :=
    Registry.exists_new_iff.1 ⟨_, new_short⟩
  have hnames : (shortGenerator "T").registry.NamesApart := haccepted.namesApart
  obtain ⟨out, hout, -⟩ := (render_of_rendered hnames rendered_short).2 not_headerTaken_short
  exact ⟨out, hout⟩

theorem render_spec_short :
    Registry.new (shortConventions "T") [shortProfile] = .ok (shortGenerator "T").registry ∧
    Master.ofSources (shortConventions "T") shortInterface shortImplementation = .ok shortMaster ∧
    ∃ out, (shortGenerator "T").render = .ok out ∧ out.names.Perm ["VT.h", "VA.h", "VA.x.h"] ∧
      out.size = 3 := by
  obtain ⟨-, -, hok, hnames⟩ := render_spec new_short shortMaster true
  obtain ⟨out, hout⟩ := hok.2 ⟨rendered_short, not_headerTaken_short⟩
  obtain ⟨hperm, hsize, hexpected⟩ := hnames out hout
  exact ⟨new_short, by decide +kernel, out, hout, hperm, hsize.trans hexpected⟩

/-- A type parameter with a dot takes the name of an implementation with two extensions. -/
theorem render_duplicateOutput :
    Registry.new (shortConventions "A.x") [shortProfile] = .ok (shortGenerator "A.x").registry ∧
    Master.ofSources (shortConventions "A.x") shortInterface shortImplementation =
      .ok shortMaster ∧
    (shortGenerator "A.x").render = .error (.duplicateOutput "VA.x.h") := by
  have hr : Registry.new (shortConventions "A.x") [shortProfile] =
      .ok (shortGenerator "A.x").registry := by decide
  have hprofiles : (shortGenerator "A.x").renderProfiles.isOk = true := by decide +kernel
  have hheader : (GenericHeader.render (shortConventions "A.x") shortMaster).isOk = true := by
    decide +kernel
  have haccepted : Registry.Accepted (shortConventions "A.x") [shortProfile] :=
    Registry.exists_new_iff.1 ⟨_, hr⟩
  have hnames : (shortGenerator "A.x").registry.NamesApart := haccepted.namesApart
  refine ⟨hr, by decide +kernel, ?_⟩
  exact (render_of_rendered (g := shortGenerator "A.x") hnames
    ⟨exists_of_isOk hprofiles, exists_of_isOk hheader⟩).1
    ⟨shortProfile, by decide, by decide⟩

end Generator

end VectorFamily
