import VectorFamily.Proofs.Output.Order

/-!
# The contents of a run

The artifacts of a run are made piece by piece: they stand in the order of the pieces
(`renderProfiles_eq_ok_iff`), and the first piece that fails gives the error
(`renderProfiles_eq_error_iff`). A set of outputs finds each file by its name, and nothing of what
was made is lost in it (`render_contents`).
-/

namespace VectorFamily

namespace OutputSet

variable {s : OutputSet} {name contents : String}

/-- No other file stands in the way of one that is looked up. -/
theorem get?_eq_some_iff : s.get? name = some contents ↔ (name, contents) ∈ s.files := by
  rw [get?, List.lookup_eq_some_iff]
  constructor
  · rintro ⟨pre, post, hfiles, -⟩
    rw [hfiles]
    exact List.mem_append_right _ List.mem_cons_self
  · intro hmem
    obtain ⟨pre, post, hfiles⟩ := List.append_of_mem hmem
    have hsorted := hfiles ▸ s.sorted
    refine ⟨pre, post, hfiles, fun f hf => bne_iff_ne.2 fun he => ?_⟩
    have hlt : f.1 < name := (List.pairwise_append.1 hsorted).2.2 f hf _ List.mem_cons_self
    exact String.lt_irrefl name (he ▸ hlt)

end OutputSet

namespace Generator

variable {g : Generator}

theorem renderArtifact_eq_error_iff {p : Profile} {kind : ArtifactKind} {e : Failure} :
    g.renderArtifact p kind = .error e ↔
      (g.specialization p).run kind (g.master.source kind) = .error e := by
  unfold renderArtifact
  cases (g.specialization p).run kind (g.master.source kind) <;>
    simp [bind, Except.bind, pure, Except.pure]

/-- The artifacts are those of the pieces, in their order. -/
theorem renderProfiles_eq_ok_iff {as : List Artifact} : g.renderProfiles = .ok as ↔
    List.Forall₂ (fun x a =>
      (g.specialization x.1).run x.2 (g.master.source x.2) = .ok a.contents.toList ∧
        a.fileName = artifactFileName g.registry.conventions x.1 x.2) g.registry.pieces as := by
  simp only [renderProfiles_eq, mapM_eq_ok_iff_forall₂, renderArtifact_eq_ok_iff]

theorem renderProfiles_eq_error_iff {e : Failure} : g.renderProfiles = .error e ↔
    ∃ pre x post, g.registry.pieces = pre ++ x :: post ∧
      (∀ y ∈ pre, ∃ t, (g.specialization y.1).run y.2 (g.master.source y.2) = .ok t) ∧
      (g.specialization x.1).run x.2 (g.master.source x.2) = .error e := by
  have hok : ∀ x : Profile × ArtifactKind, (∃ a, g.renderArtifact x.1 x.2 = .ok a) ↔
      ∃ t, (g.specialization x.1).run x.2 (g.master.source x.2) = .ok t := fun x =>
    ⟨fun ⟨a, ha⟩ => ⟨_, (renderArtifact_eq_ok_iff.1 ha).1⟩, fun ⟨t, ht⟩ =>
      ⟨⟨artifactFileName g.registry.conventions x.1 x.2, String.ofList t⟩,
        renderArtifact_eq_ok_iff.2 ⟨by rw [ht, String.toList_ofList], rfl⟩⟩⟩
  simp only [renderProfiles_eq, mapM_eq_error_iff, renderArtifact_eq_error_iff, hok]

/-- The error of a run is that of the profiles. Only when there is none, it is that of the generic
header, and only when this has none either, its name can be taken. -/
theorem render_eq_error_iff (hnames : g.registry.NamesApart) {e : Failure} :
    g.render = .error e ↔ g.renderProfiles = .error e ∨
      (∃ as, g.renderProfiles = .ok as) ∧
        (GenericHeader.render g.registry.conventions g.master = .error e ∨
          (∃ header, GenericHeader.render g.registry.conventions g.master = .ok header) ∧
            g.registry.HeaderTaken ∧
            e = .duplicateOutput g.registry.conventions.genericFileName) := by
  cases has : g.renderProfiles with
  | error e' => simp [render_eq_error_of_renderProfiles has]
  | ok as =>
    obtain ⟨outputs, -, hrender⟩ := render_eq_of_renderProfiles hnames has
    cases hheader : GenericHeader.render g.registry.conventions g.master with
    | error e' => simp [hrender, hheader, bind, Except.bind]
    | ok header =>
      obtain ⟨htaken, hfree⟩ := render_of_rendered hnames ⟨⟨as, has⟩, header, hheader⟩
      by_cases h : g.registry.HeaderTaken
      · simp [htaken h, h, eq_comm]
      · obtain ⟨out, hout, -⟩ := hfree h
        simp [hout, h]

/-- A run that succeeds gives two files for each profile and the generic header, and each of them is
found by its name, as it was made. The artifacts of the profiles are made in the order of the
registry, the interface first; the first that fails gives the error, of them all and of the run. -/
theorem render_contents {c : Conventions} {ps : List Profile} {r : Registry}
    (hr : Registry.new c ps = .ok r) (m : Master) (keepExport : Bool) :
    let g : Generator := ⟨r, m, keepExport⟩
    let run := fun x : Profile × ArtifactKind => (g.specialization x.1).run x.2 (m.source x.2)
    (∀ out, g.render = .ok out →
      out.names.Nodup ∧ out.names.Perm (c.genericFileName :: r.artifactNames) ∧
      out.size = 2 * r.profiles.length + 1 ∧
      (∀ p ∈ r.profiles, ∀ kind, ∃ t, run (p, kind) = .ok t ∧
        out.get? (artifactFileName c p kind) = some (String.ofList t)) ∧
      (∃ contents, GenericHeader.render c m = .ok ⟨c.genericFileName, contents⟩ ∧
        out.get? c.genericFileName = some contents) ∧
      ∃ as, g.renderProfiles = .ok as ∧ List.Forall₂ (fun x a =>
        run x = .ok a.contents.toList ∧ a.fileName = artifactFileName c x.1 x.2) r.pieces as) ∧
    (∀ e, g.renderProfiles = .error e ↔ ∃ pre x post, r.pieces = pre ++ x :: post ∧
      (∀ y ∈ pre, ∃ t, run y = .ok t) ∧ run x = .error e) ∧
    ∀ e, g.render = .error e ↔ g.renderProfiles = .error e ∨ (∃ as, g.renderProfiles = .ok as) ∧
      (GenericHeader.render c m = .error e ∨ (∃ header, GenericHeader.render c m = .ok header) ∧
        r.HeaderTaken ∧ e = .duplicateOutput c.genericFileName) := by
  obtain ⟨rfl, rfl, -, haccepted⟩ := Registry.new_eq_ok_iff.1 hr
  have hnames := haccepted.namesApart
  intro g run
  refine ⟨fun out hout => ?_, fun e => renderProfiles_eq_error_iff, fun e =>
    render_eq_error_iff (g := g) hnames⟩
  have hperm := perm_names_of_render (g := g) hnames hout
  obtain ⟨as, header, has, hheader, -⟩ := render_eq_ok_iff.1 hout
  refine ⟨out.nodup_names, hperm, ?_, fun p hp kind => ?_, ⟨header.contents, ?_⟩,
    as, has, renderProfiles_eq_ok_iff.1 has⟩
  · have hsize : out.size = out.names.length := by simp [OutputSet.size, OutputSet.names]
    rw [hsize, hperm.length_eq, List.length_cons, Registry.length_artifactNames]
  · obtain ⟨t, ht⟩ := exists_run_of_render hout hp kind
    refine ⟨t, ht, OutputSet.get?_eq_some_iff.2 ?_⟩
    exact (mem_files_of_render_iff hout).2 (.inl ⟨p, hp, kind, t, ht, rfl, rfl⟩)
  · have hheader : GenericHeader.render r.conventions m =
        .ok ⟨r.conventions.genericFileName, header.contents⟩ := by
      rw [← fileName_of_genericHeader_render hheader]
      exact hheader
    exact ⟨hheader, OutputSet.get?_eq_some_iff.2 ((mem_files_of_render_iff hout).2 (.inr hheader))⟩

/-- The short pair gives three files. Without its implementation, the error is that of the second
piece. -/
theorem render_contents_short :
    Registry.new (shortConventions "T") [shortProfile] = .ok (shortGenerator "T").registry ∧
    (∃ out, (shortGenerator "T").render = .ok out ∧ out.size = 3 ∧
      out.get? "VA.h" = some ("Q 1 Bytes: 2 Range: w\n// overloads for the << operator\n" ++
        "inline static V2q\n// End\n")) ∧
    ∃ e, render { shortGenerator "T" with master.implementation := [] } = .error e ∧
      Specialization.run ⟨shortConventions "T", shortProfile, true⟩ .implementation [] =
        .error e := by
  have hrun : Specialization.run ⟨shortConventions "T", shortProfile, true⟩ .interface
      shortInterface = .ok ("Q 1 Bytes: 2 Range: w\n// overloads for the << operator\n" ++
        "inline static V2q\n// End\n").toList := by
    decide +kernel
  have hfailed : Specialization.run ⟨shortConventions "T", shortProfile, true⟩ .implementation [] =
      .error (.ruleNotApplied "q" .implementation .tokenSubstitution "token.symbol") := by
    decide +kernel
  refine ⟨new_short, ?_, _, ?_, hfailed⟩
  · obtain ⟨out, hout⟩ := exists_render_short
    obtain ⟨-, -, hsize, hfiles, -⟩ := (render_contents new_short shortMaster true).1 out hout
    obtain ⟨t, ht, hget⟩ := hfiles shortProfile (List.mem_singleton_self _) .interface
    obtain rfl := Except.ok.inj (hrun.symm.trans ht)
    exact ⟨out, hout, hsize, hget⟩
  · obtain ⟨-, hfirst, herror⟩ :=
      render_contents new_short { shortMaster with implementation := [] } true
    exact (herror _).2 <| .inl <| (hfirst _).2 ⟨[(shortProfile, .interface)],
      (shortProfile, .implementation), [], rfl, by simpa using ⟨_, hrun⟩, hfailed⟩

end Generator

end VectorFamily
