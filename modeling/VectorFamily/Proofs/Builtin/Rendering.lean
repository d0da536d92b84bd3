import VectorFamily.Proofs.Builtin.Header

/-!
# Rendering from the built-in pair

Every profile of an accepted registry whose values fit into the built-in pair gets both artifacts,
and the generic header has a name of its own. So a render from the built-in pair succeeds
(`exists_render_builtin`).
-/

namespace VectorFamily

open VectorFamily.Specialization

/-- The profiles of an accepted registry that fit into the default template are suited for it. -/
theorem Registry.Accepted.suited {ps : List Profile} (h : Accepted {} ps) {p : Profile}
    (hp : p ∈ ps) (hfits : p.Fits {}) : Suited p := by
  have hformed := accepted_iff_wellFormed.1 h
  have htags := hformed.profiles p hp
  refine ⟨hfits, htags.classTag, hformed.notCanonical p hp, htags.fileTag, fun he => ?_,
    h.labels p hp⟩
  exact (hformed.notReserved p hp).1 (congrArg String.toLower he)

/-- With the default extensions no implementation is named like the generic header. -/
theorem Registry.not_headerTaken {r : Registry} (h : r.conventions = {}) : ¬ r.HeaderTaken := by
  rintro ⟨p, -, he⟩
  rw [h] at he
  have hlast := congrArg (fun s : String => s.toList.getLast?) he
  have hext : ({} : Conventions).implementationExtension.toList = ['c', 'p'] ++ ['p'] ∧
      ({} : Conventions).interfaceExtension.toList = [] ++ ['h'] := by
    decide
  simp only [String.toList_append, hext, ← List.append_assoc, List.getLast?_concat] at hlast
  exact absurd hlast (by decide)

namespace Generator

theorem exists_renderProfiles {g : Generator} (h : ∀ p ∈ g.registry.profiles, ∀ kind,
    ∃ t, (g.specialization p).run kind (g.master.source kind) = .ok t) :
    ∃ as, g.renderProfiles = .ok as := by
  have hartifact : ∀ p ∈ g.registry.profiles, ∀ kind ∈ ArtifactKind.all,
      ∃ a, g.renderArtifact p kind = .ok a := by
    intro p hp kind _
    obtain ⟨t, ht⟩ := h p hp kind
    exact ⟨_, bind_eq_ok.2 ⟨t, ht, rfl⟩⟩
  obtain ⟨as, has⟩ := exists_mapM_eq_ok fun p hp => exists_mapM_eq_ok (hartifact p hp)
  exact ⟨as.flatten, bind_eq_ok.2 ⟨as, has, rfl⟩⟩

/-- The built-in pair is accepted, and a render from it succeeds for every accepted registry with
the default conventions whose profiles fit into it, whether the export token stays or not. -/
theorem exists_render_builtin {ps : List Profile} {r : Registry} (hr : Registry.new {} ps = .ok r)
    (hfits : ∀ p ∈ ps, p.Fits {}) : ∃ m,
    Master.ofSources {} Builtin.interface.toList Builtin.implementation.toList = .ok m ∧
      ∀ keepExport, ∃ out, (⟨r, m, keepExport⟩ : Generator).render = .ok out := by
  obtain ⟨hc, rfl, -, h⟩ := Registry.new_eq_ok_iff.1 hr
  obtain ⟨m, hm, hinterface, himplementation, hheader⟩ := Builtin.exists_master
  refine ⟨m, hm, fun keepExport => ?_⟩
  have hrun : ∀ p ∈ r.profiles, ∀ kind, ∃ t,
      run ⟨{}, p, keepExport⟩ kind (m.source kind) = .ok t := by
    intro p hp kind
    have hsuited := h.suited hp (hfits p hp)
    cases kind with
    | interface =>
      rw [Master.source, hinterface]
      exact exists_run_interface hsuited Builtin.completeInterface
    | implementation =>
      rw [Master.source, himplementation]
      exact exists_run_implementation hsuited Builtin.completeImplementation
  have hnames : r.NamesApart := Registry.Accepted.namesApart (hc ▸ h)
  have hrendered : ∃ as, (⟨r, m, keepExport⟩ : Generator).renderProfiles = .ok as := by
    refine exists_renderProfiles fun p hp kind => ?_
    rw [specialization, hc]
    exact hrun p hp kind
  obtain ⟨out, hout, -⟩ := (render_of_rendered (g := ⟨r, m, keepExport⟩) hnames
    ⟨hrendered, hc ▸ hheader⟩).2 (Registry.not_headerTaken hc)
  exact ⟨out, hout⟩

/-- A profile that leaves no literal of the template, and one that arithmetic is pruned for. -/
def plainProfiles : List Profile :=
  [{ symbol := "std::int32_t", classTag := "i32", fileTag := "i32", defaultLiteral := "0"
     byteSize := 4, range := "-2.147.483.648 to 2.147.483.647", includeLabel := "Vectori32.h"
     category := .standardNumeric },
   { symbol := "bool", classTag := "b", fileTag := "B", defaultLiteral := "false"
     byteSize := 1, range := "true or false", includeLabel := "VectorB.h", category := .boolean }]

theorem fits_plainProfiles : ∀ p ∈ plainProfiles, p.Fits {} := by
  have hfits : ∀ {canonical value : String},
      (∀ name ∈ Conventions.canonicalTokens {}, ¬ name.toList <:+: value.toList) ∧
        ';' ∉ value.toList ∧ ¬ " / ".toList <:+: value.toList →
      Conventions.Fits {} canonical value :=
    fun h => ⟨.inr fun name hname => tokenFree_of_absent (h.1 name hname), h.2.1, h.2.2⟩
  have hvalues : ∀ p ∈ plainProfiles,
      ∀ value ∈ [p.symbol, p.defaultLiteral, p.byteSizeNote, p.rangeNote],
        (∀ name ∈ Conventions.canonicalTokens {}, ¬ name.toList <:+: value.toList) ∧
          ';' ∉ value.toList ∧ ¬ " / ".toList <:+: value.toList := by
    decide +kernel
  intro p hp
  exact ⟨hfits (hvalues p hp _ (by simp)), hfits (hvalues p hp _ (by simp)),
    hfits (hvalues p hp _ (by simp)), hfits (hvalues p hp _ (by simp))⟩

theorem exists_render_builtin_plain :
    ∃ r, Registry.new {} plainProfiles = .ok r ∧ (∀ p ∈ plainProfiles, p.Fits {}) ∧ ∃ m,
      Master.ofSources {} Builtin.interface.toList Builtin.implementation.toList = .ok m ∧
        ∀ keepExport, ∃ out,
          (⟨r, m, keepExport⟩ : Generator).render = .ok out := by
  obtain ⟨r, hr⟩ : ∃ r, Registry.new {} plainProfiles = .ok r := exists_of_isOk (by decide +kernel)
  exact ⟨r, hr, fits_plainProfiles, exists_render_builtin hr fits_plainProfiles⟩

end Generator

end VectorFamily
