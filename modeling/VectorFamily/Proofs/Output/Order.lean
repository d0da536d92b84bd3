import Mathlib.Data.List.Perm.Basic
import Mathlib.Data.List.ProdSigma
import Mathlib.Data.List.Sort
import VectorFamily.Proofs.Output.Names
import VectorFamily.Proofs.Registry.WellFormed

/-!
# The order of the profiles

A set of outputs is known by its files, in whatever order they are listed, because it keeps them by
name. `OutputSet.insertAll_eq_ok_iff` describes the result of adding files by such a list, and
`Generator.render_eq_ok_iff` does so for a run: each artifact is rendered for itself, and no two of
them may have one name. Nothing of this mentions the order of the profiles, and neither do the
conditions for accepting them, so that a registry may be listed in any order (`render_of_perm`).
-/

namespace VectorFamily

theorem mapM_eq_ok_iff_forall₂ {ε α β : Type _} {f : α → Except ε β} {l : List α} {bs : List β} :
    l.mapM f = .ok bs ↔ List.Forall₂ (fun a b => f a = .ok b) l bs := by
  induction l generalizing bs with
  | nil => cases bs <;> simp [pure, Except.pure]
  | cons a l ih =>
    simp only [List.mapM_cons, bind_eq_ok, pure_eq_ok, ih, List.forall₂_cons_left_iff]
    exact ⟨fun ⟨b, hb, bs, hbs, he⟩ => ⟨b, bs, hb, hbs, he.symm⟩,
      fun ⟨b, bs, hb, hbs, he⟩ => ⟨b, hb, bs, hbs, he.symm⟩⟩

/-- The results of a list are found for it in any other order. -/
theorem exists_mapM_of_perm {ε α β : Type _} {f : α → Except ε β} {l l' : List α}
    (hperm : l.Perm l') {bs : List β} (h : l.mapM f = .ok bs) :
    ∃ cs, l'.mapM f = .ok cs ∧ cs.Perm bs := by
  obtain ⟨cs, hcs, hbs⟩ := List.perm_comp_forall₂ hperm.symm (mapM_eq_ok_iff_forall₂.1 h)
  exact ⟨cs, mapM_eq_ok_iff_forall₂.2 hcs, hbs⟩

/-- Two loops, one inside the other, are one over the pairs. -/
theorem mapM_product {ε α β γ : Type _} (f : α → β → Except ε γ) (as : List α) (bs : List β) :
    (as ×ˢ bs).mapM (fun x => f x.1 x.2) =
      as.mapM (fun a => bs.mapM (f a)) >>= fun rows => pure rows.flatten := by
  induction as with
  | nil => rfl
  | cons a as ih =>
    rw [List.product_cons, List.mapM_append, List.mapM_map, ih, List.mapM_cons]
    simp only [bind_assoc, pure_bind, List.flatten_cons]
    rfl

namespace Registry

/-- What is to be made: the kinds of artifacts of each profile. -/
def pieces (r : Registry) : List (Profile × ArtifactKind) := r.profiles ×ˢ ArtifactKind.all

theorem mem_pieces_iff {r : Registry} {p : Profile} {kind : ArtifactKind} :
    (p, kind) ∈ r.pieces ↔ p ∈ r.profiles :=
  List.mem_product.trans (and_iff_left kind.mem_all)

theorem WellFormed.of_perm {c : Conventions} {ps qs : List Profile} (hperm : ps.Perm qs)
    (h : WellFormed c ps) : WellFormed c qs where
  conventions := h.conventions
  nonempty := fun hnil => h.nonempty (hnil ▸ hperm).eq_nil
  profiles := fun p hp => h.profiles p (hperm.mem_iff.2 hp)
  classTags := (hperm.pairwise_iff fun hne => hne.symm).1 h.classTags
  notCanonical := fun p hp => h.notCanonical p (hperm.mem_iff.2 hp)
  fileTags := (hperm.pairwise_iff fun hne => hne.symm).1 h.fileTags
  notReserved := fun p hp => h.notReserved p (hperm.mem_iff.2 hp)
  labels := fun p hp => h.labels p (hperm.mem_iff.2 hp)

end Registry

/-! ### Sets by their files -/

def Artifact.file (a : Artifact) : String × String := (a.fileName, a.contents)

namespace OutputSet

theorem eq_of_perm {s t : OutputSet} (h : s.files.Perm t.files) : s = t := by
  obtain ⟨fs, hfs⟩ := s
  obtain ⟨gs, hgs⟩ := t
  obtain rfl : fs = gs := h.eq_of_pairwise (fun f g _ _ hlt hgt =>
    absurd (String.lt_trans hlt hgt) (String.lt_irrefl f.1)) hfs hgs
  rfl

theorem nodup_names (s : OutputSet) : s.names.Nodup :=
  List.pairwise_map.2 <| s.sorted.imp fun {f g} hlt (he : f.1 = g.1) =>
    String.lt_irrefl g.1 (he ▸ hlt)

variable {s out : OutputSet}

theorem insert_eq_ok_iff {a : Artifact} :
    s.insert a = .ok out ↔ a.fileName ∉ s.names ∧ out.files.Perm (a.file :: s.files) := by
  by_cases hmem : a.fileName ∈ s.names
  · simp [insert_of_mem hmem, hmem]
  · have hplaced : s.insert a = .ok ⟨place a.file s.files, sorted_place s.sorted hmem⟩ :=
      dif_neg hmem
    rw [hplaced, and_iff_right hmem]
    constructor
    · intro h
      obtain rfl := Except.ok.inj h
      exact perm_place _ _
    · intro h
      exact congrArg Except.ok (eq_of_perm ((perm_place _ _).trans h.symm))

/-- Files can be added if no two of all have one name, and these are then the files. -/
theorem insertAll_eq_ok_iff {as : List Artifact} : s.insertAll as = .ok out ↔
    (as.map (·.fileName) ++ s.names).Nodup ∧ out.files.Perm (as.map Artifact.file ++ s.files) := by
  induction as generalizing s with
  | nil =>
    have hnil : s.insertAll [] = .ok s := rfl
    rw [hnil]
    exact ⟨fun h => ⟨s.nodup_names, by rw [Except.ok.inj h]; rfl⟩,
      fun ⟨_, h⟩ => congrArg Except.ok (eq_of_perm h.symm)⟩
  | cons a as ih =>
    have hcons : s.insertAll (a :: as) = s.insert a >>= fun one => one.insertAll as :=
      List.foldlM_cons
    have hmiddle : ∀ one : OutputSet, one.files.Perm (a.file :: s.files) →
        (as.map Artifact.file ++ one.files).Perm ((a :: as).map Artifact.file ++ s.files) ∧
        (as.map (·.fileName) ++ one.names).Perm ((a :: as).map (·.fileName) ++ s.names) :=
      fun one hone => ⟨(hone.append_left _).trans List.perm_middle,
        ((hone.map (·.1)).append_left _).trans List.perm_middle⟩
    rw [hcons, bind_eq_ok]
    constructor
    · rintro ⟨one, hone, hrest⟩
      obtain ⟨-, hone⟩ := insert_eq_ok_iff.1 hone
      obtain ⟨hnodup, hout⟩ := ih.1 hrest
      exact ⟨(hmiddle one hone).2.nodup_iff.1 hnodup, hout.trans (hmiddle one hone).1⟩
    · rintro ⟨hnodup, hout⟩
      have hnew : a.fileName ∉ s.names := fun hmem =>
        (List.nodup_cons.1 hnodup).1 (List.mem_append_right _ hmem)
      obtain ⟨one, hone, -⟩ := insert_of_not_mem hnew
      have hfiles := (insert_eq_ok_iff.1 hone).2
      exact ⟨one, hone, ih.2 ⟨(hmiddle one hfiles).2.nodup_iff.2 hnodup,
        hout.trans (hmiddle one hfiles).1.symm⟩⟩

end OutputSet

/-! ### Runs -/

namespace Generator

/-- A run succeeds when all its files are rendered and no two of them have one name. -/
theorem render_eq_ok_iff {g : Generator} {out : OutputSet} : g.render = .ok out ↔
    ∃ as header, g.renderProfiles = .ok as ∧
      GenericHeader.render g.registry.conventions g.master = .ok header ∧
      ((header :: as).map (·.fileName)).Nodup ∧
      out.files.Perm ((header :: as).map Artifact.file) := by
  have hrun : g.render = g.renderProfiles >>= fun as => OutputSet.empty.insertAll as >>= fun s =>
      GenericHeader.render g.registry.conventions g.master >>= s.insert := by
    unfold render
    cases g.renderProfiles <;> rfl
  rw [hrun, bind_eq_ok]
  simp only [bind_eq_ok, OutputSet.insertAll_eq_ok_iff, OutputSet.insert_eq_ok_iff]
  simp only [OutputSet.empty, OutputSet.names, List.map_nil, List.append_nil]
  constructor
  · rintro ⟨as, has, s, ⟨hnodup, hs⟩, header, hheader, hnew, hout⟩
    refine ⟨as, header, has, hheader, ?_, hout.trans (hs.cons _)⟩
    refine List.nodup_cons.2 ⟨fun hmem => hnew ?_, hnodup⟩
    rwa [(hs.map Prod.fst).mem_iff, List.map_map]
  · rintro ⟨as, header, has, hheader, hnodup, hout⟩
    obtain ⟨hnew, hnodup⟩ := List.nodup_cons.1 hnodup
    have hempty : (as.map (·.fileName) ++ OutputSet.empty.names).Nodup := by
      simpa [OutputSet.empty, OutputSet.names] using hnodup
    obtain ⟨s, hs⟩ := OutputSet.insertAll_of_nodup hempty
    have hfiles : s.files.Perm (as.map Artifact.file) := by
      simpa [OutputSet.empty] using (OutputSet.insertAll_eq_ok_iff.1 hs.1).2
    refine ⟨as, has, s, ⟨hnodup, hfiles⟩, header, hheader, fun hmem => hnew ?_,
      hout.trans (hfiles.symm.cons _)⟩
    rwa [(hfiles.map Prod.fst).mem_iff, List.map_map] at hmem

theorem renderProfiles_eq (g : Generator) :
    g.renderProfiles = g.registry.pieces.mapM fun x => g.renderArtifact x.1 x.2 :=
  (mapM_product g.renderArtifact _ _).symm

theorem renderArtifact_eq_ok_iff {g : Generator} {p : Profile} {kind : ArtifactKind}
    {a : Artifact} : g.renderArtifact p kind = .ok a ↔
      (g.specialization p).run kind (g.master.source kind) = .ok a.contents.toList ∧
        a.fileName = artifactFileName g.registry.conventions p kind := by
  unfold renderArtifact
  simp only [bind_eq_ok, pure_eq_ok]
  constructor
  · rintro ⟨t, ht, rfl⟩
    exact ⟨by rw [ht, String.toList_ofList], rfl⟩
  · rintro ⟨ht, hname⟩
    exact ⟨_, ht, by rw [← hname, String.ofList_toList]⟩

/-- The artifacts of the profiles are the files of a run, together with the generic header. -/
theorem mem_files_of_render_iff {g : Generator} {out : OutputSet} (h : g.render = .ok out)
    {name contents : String} : (name, contents) ∈ out.files ↔
      (∃ p ∈ g.registry.profiles, ∃ kind t,
        (g.specialization p).run kind (g.master.source kind) = .ok t ∧
          name = artifactFileName g.registry.conventions p kind ∧ contents = String.ofList t) ∨
      GenericHeader.render g.registry.conventions g.master = .ok ⟨name, contents⟩ := by
  obtain ⟨as, header, has, hheader, -, hout⟩ := render_eq_ok_iff.1 h
  rw [renderProfiles_eq] at has
  have hmem : (name, contents) ∈ (header :: as).map Artifact.file ↔
      header = ⟨name, contents⟩ ∨ (⟨name, contents⟩ : Artifact) ∈ as := by
    have hfile : ∀ a : Artifact, a.file = (name, contents) ↔ a = ⟨name, contents⟩ := by
      rintro ⟨_, _⟩
      simp [Artifact.file]
    simp only [List.mem_map, hfile, exists_eq_right, List.mem_cons, eq_comm]
  rw [hout.mem_iff, hmem, hheader, Except.ok.injEq, mem_of_mapM_eq_ok_iff has, or_comm]
  refine or_congr_left ⟨fun ⟨⟨p, kind⟩, hp, ha⟩ => ?_, fun ⟨p, hp, kind, t, ht, hn, hc⟩ => ?_⟩
  · obtain ⟨ht, hn⟩ := renderArtifact_eq_ok_iff.1 ha
    exact ⟨p, Registry.mem_pieces_iff.1 hp, kind, _, ht, hn, String.ofList_toList.symm⟩
  · refine ⟨(p, kind), Registry.mem_pieces_iff.2 hp, renderArtifact_eq_ok_iff.2 ⟨?_, hn⟩⟩
    rw [ht, hc, String.toList_ofList]

/-- A run that succeeds has made both artifacts of each profile. -/
theorem exists_run_of_render {g : Generator} {out : OutputSet} (h : g.render = .ok out)
    {p : Profile} (hp : p ∈ g.registry.profiles) (kind : ArtifactKind) :
    ∃ t, (g.specialization p).run kind (g.master.source kind) = .ok t := by
  obtain ⟨as, -, has, -⟩ := render_eq_ok_iff.1 h
  rw [renderProfiles_eq] at has
  obtain ⟨a, ha⟩ := exists_of_mapM_eq_ok has (Registry.mem_pieces_iff.2 hp)
  exact ⟨_, (renderArtifact_eq_ok_iff.1 ha).1⟩

variable {c : Conventions} {ps qs : List Profile} {byTag byTag' : OrderedMap String Nat}
  {m : Master} {keepExport : Bool}

theorem exists_renderProfiles_of_perm (hperm : ps.Perm qs) {as : List Artifact}
    (h : renderProfiles ⟨⟨c, ps, byTag⟩, m, keepExport⟩ = .ok as) :
    ∃ bs, renderProfiles ⟨⟨c, qs, byTag'⟩, m, keepExport⟩ = .ok bs ∧ bs.Perm as := by
  rw [renderProfiles_eq] at h ⊢
  exact exists_mapM_of_perm (hperm.product_right _) h

theorem render_eq_ok_of_perm (hperm : ps.Perm qs) {out : OutputSet}
    (h : render ⟨⟨c, ps, byTag⟩, m, keepExport⟩ = .ok out) :
    render ⟨⟨c, qs, byTag'⟩, m, keepExport⟩ = .ok out := by
  obtain ⟨as, header, has, hheader, hnodup, hout⟩ := render_eq_ok_iff.1 h
  obtain ⟨bs, hbs, hfiles⟩ := exists_renderProfiles_of_perm hperm has
  refine render_eq_ok_iff.2 ⟨bs, header, hbs, hheader, ?_, hout.trans ?_⟩
  · exact ((hfiles.cons header).map _).nodup_iff.2 hnodup
  · exact ((hfiles.cons header).map _).symm

/-- Profiles are accepted in one order if they are in another. From every canonical pair, with or
without the export token, runs over the two orders both succeed or both fail, and they give the same
files and the same digest. -/
theorem render_of_perm (c : Conventions) {ps qs : List Profile} (hperm : ps.Perm qs) :
    ((∃ r, Registry.new c ps = .ok r) ↔ ∃ r, Registry.new c qs = .ok r) ∧
    ∀ (byTag byTag' : OrderedMap String Nat) (m : Master) (keepExport : Bool),
      let g : Generator := ⟨⟨c, ps, byTag⟩, m, keepExport⟩
      let g' : Generator := ⟨⟨c, qs, byTag'⟩, m, keepExport⟩
      ((∃ out, g.render = .ok out) ↔ ∃ out, g'.render = .ok out) ∧
      ∀ out out', g.render = .ok out → g'.render = .ok out' →
        out = out' ∧ out.digest = out'.digest := by
  refine ⟨?_, fun byTag byTag' m keepExport => ⟨?_, fun out out' hout hout' => ?_⟩⟩
  · rw [Registry.exists_new_iff, Registry.exists_new_iff, Registry.accepted_iff_wellFormed,
      Registry.accepted_iff_wellFormed]
    exact ⟨.of_perm hperm, .of_perm hperm.symm⟩
  · exact ⟨fun ⟨out, h⟩ => ⟨out, render_eq_ok_of_perm hperm h⟩,
      fun ⟨out, h⟩ => ⟨out, render_eq_ok_of_perm hperm.symm h⟩⟩
  · obtain rfl := Except.ok.inj ((render_eq_ok_of_perm hperm hout).symm.trans hout')
    exact ⟨rfl, rfl⟩

/-- Another profile beside the short one. -/
def otherProfile : Profile :=
  { shortProfile with symbol := "P", classTag := "p", fileTag := "B", includeLabel := "VB.h" }

/-- A generator for both profiles, in either order. -/
def pairGenerator (first second : Profile) (h : first.classTag ≠ second.classTag) : Generator where
  registry :=
    ⟨shortConventions "T", [first, second], ⟨[(first.classTag, 0), (second.classTag, 1)], by
      simpa using h⟩⟩
  master := shortMaster

/-- Two profiles rendered in either order. -/
theorem render_of_perm_two :
    let g := pairGenerator shortProfile otherProfile (by decide)
    let g' := pairGenerator otherProfile shortProfile (by decide)
    [shortProfile, otherProfile].Perm [otherProfile, shortProfile] ∧
    Registry.new (shortConventions "T") [shortProfile, otherProfile] = .ok g.registry ∧
    Registry.new (shortConventions "T") [otherProfile, shortProfile] = .ok g'.registry ∧
    ∃ out out', g.render = .ok out ∧ g'.render = .ok out' ∧ out = out' ∧
      out.digest = out'.digest := by
  intro g g'
  have hperm : [shortProfile, otherProfile].Perm [otherProfile, shortProfile] := .swap ..
  obtain ⟨hrenders, hsame⟩ := (render_of_perm (shortConventions "T") hperm).2
    g.registry.byTag g'.registry.byTag shortMaster true
  have hrender : g.render.isOk = true := by decide +kernel
  obtain ⟨out, hout⟩ := exists_of_isOk hrender
  obtain ⟨out', hout'⟩ := hrenders.1 ⟨out, hout⟩
  exact ⟨hperm, by decide +kernel, by decide +kernel, out, out', hout, hout',
    hsame out out' hout hout'⟩

end Generator

end VectorFamily
