import VectorFamily.Proofs.Builtin.Complete

/-!
# The generic header of the built-in pair

Each section of the built-in pair qualifies members of its own class and names no other class, and
the stream operators hold what their rules look for. So the pair has a generic header
(`exists_header`).
-/

namespace VectorFamily

open Piece (isWordAt)
open GenericHeader (IsMarkerRow PlainlyMarked Generalizable)
open VectorFamily.Specialization
open Text (closed join lineContent lines placedLines)

/-! ### Closed rows -/

theorem tokenFree_closed_iff {l : Text} (hne : l ≠ []) (hl : ∀ c ∈ l, Unicode.isBlank c = false)
    {rs : List Text} : TokenFree l (closed rs) ↔ ∀ t ∈ rs, TokenFree l t := by
  induction rs with
  | nil => simp [closed, tokenFree_nil hne]
  | cons t rs ih => rw [Text.closed_cons, tokenFree_cut_iff hne hl, ih, List.forall_mem_cons]

theorem trimEnd_closed {rs : List Text} {t : Text} (ht : Text.isAllBlank t = false)
    (htrim : t.trimEnd = t) : (closed (rs ++ [t])).trimEnd = join (rs ++ [t]) := by
  have hclosed : closed (rs ++ [t]) = join (rs ++ [t]) ++ ['\n'] := by
    rw [Text.join_append rs (by simp), Text.join_singleton]
    simp [closed]
  rw [hclosed, Text.trimEnd_append, if_pos (by decide), Text.join_append rs (by simp),
    Text.join_singleton, Text.trimEnd_append, if_neg (by rw [ht]; exact Bool.false_ne_true), htrim]

/-! ### Slots of class names -/

theorem endsItself_canonical {n : Nat} (hn : n ∈ arities) :
    EndsItself Slot.words (Slot.canonical (.className n)) := by
  rw [canonical_className]
  exact endsItself_taggedName hn isTag_classTag

/-- A row whose slots are those of one class names no other class. -/
theorem tokenFree_className {n k : Nat} {t : Text}
    (hs : sealedFrom Slot.words false (cells t) = true)
    (hslots : ∀ s, .slot s ∈ cells t → ofSection n s = true) (hk : k ∈ arities) (hkn : k ≠ n) :
    TokenFree (Conventions.className {} k).toList t := by
  have hword : ∀ k ∈ arities, (Conventions.className {} k).toList ∈ Slot.tokens := by
    decide +kernel
  have hmarks : ∀ e ∈ Slot.marks, ∀ k ∈ arities, (Conventions.className {} k).toList <+: e.2 →
      e.1 = .className k := by
    decide +kernel
  have hmem := Slot.mem_words_of_mem_tokens _ (hword k hk)
  have hfree : TokenFree (Conventions.className {} k).toList (fill Slot.canonical (cells t)) := by
    rw [tokenFree_fill_iff hmem (Slot.ne_nil_of_mem_words hmem)
      (fun n hn => endsItself_canonical (mem_arities_of_mem_cells hn)) hs]
    intro s hcell
    obtain ⟨e, he, rfl⟩ := List.mem_map.1 (mem_marks_of_mem_cellsFrom hcell)
    rw [(Slot.canonical_of_mem_marks e he).1]
    refine Slot.tokenFree_marks e he _ (hword k hk) fun hprefix => hkn ?_
    have hallowed := hslots e.1 hcell
    rw [hmarks e he k hk hprefix] at hallowed
    simpa [ofSection] using hallowed
  rwa [fill_cells] at hfree

/-! ### Stream operators -/

/-- The rules for stream operators find what they look for if one of the rows is the head of one. -/
theorem exists_applyAll_helperRules {rs : List Text} (hrs : operatorRow ∈ rs) :
    ∃ u, Rule.applyAll GenericHeader.target .implementation (GenericHeader.helperRules {}) (join rs) =
      .ok u := by
  have hstays : GenericHeader.functionStart.StaysInLine ∧
      (Conventions.classNamePattern {}).StaysInLine := by
    decide +kernel
  obtain ⟨start, className, hrules, hhits⟩ : ∃ start className,
      GenericHeader.helperRules {} = [start, className, GenericHeader.symbolRule {}] ∧
        (start.edit.Cuts ∧ (start.apply operatorRow).2 ≠ 0) ∧
        className.edit.Cuts ∧ (className.apply (start.apply operatorRow).1).2 ≠ 0 := by
    refine ⟨_, _, rfl, ⟨List.forall_mem_singleton.2 ⟨hstays.1, GenericHeader.solid_functionStart⟩,
      ?_⟩, List.forall_mem_singleton.2 ⟨hstays.2,
        Conventions.solid_classNamePattern _⟩, ?_⟩ <;> decide +kernel
  obtain ⟨⟨hstart, hfirst⟩, hclass, hsecond⟩ := hhits
  rw [hrules]
  have hsymbol : (GenericHeader.symbolRule {}).expect.requiredFor .implementation ≠ true := by decide
  refine ⟨_, Rule.applyAll_cons_eq_ok_iff.2 ⟨fun _ => Rule.hits_join hstart hrs hfirst,
    Rule.applyAll_cons_eq_ok_iff.2 ⟨fun _ => ?_, Rule.applyAll_cons_eq_ok_iff.2
      ⟨fun h => absurd h hsymbol, rfl⟩⟩⟩⟩
  rw [Rule.apply_join hstart (List.ne_nil_of_mem hrs)]
  exact Rule.hits_join hclass (List.mem_map_of_mem hrs) hsecond

namespace Builtin

/-! ### Sections -/

theorem generalizable_section {n : Nat} (hn : n ∈ arities) :
    Generalizable n (closed (pairRows.sections n)) := by
  have hword : ∀ n ∈ arities, GenericHeader.qualifierWord n ≠ [] ∧
      (GenericHeader.qualifierWord n).all (!Unicode.isBlank ·) = true := by
    decide +kernel
  simp only [List.all_eq_true, Bool.not_eq_true'] at hword
  have hspec := sections_spec hn
  constructor
  · rw [tokenFree_closed_iff (hword n hn).1 (hword n hn).2]
    obtain ⟨t, ht, rest, hcells⟩ := hspec.qualified
    have hrow := fill_cells t
    rw [← hcells, fill_append, fill_around] at hrow
    have hcut : t = "\tinline ".toList ++ GenericHeader.qualifierWord n ++
        fill Slot.canonical rest := by
      have hcolons : "::".toList = [':', ':'] := rfl
      rw [← hrow, GenericHeader.qualifierWord, hcolons, List.append_assoc "\tinline ".toList]
      rfl
    have hwhole : WholeToken "\tinline ".toList.getLast? (GenericHeader.qualifierWord n)
        (fill Slot.canonical rest).head? :=
      (GenericHeader.wholeToken_qualifierWord_iff hn).2 (by decide)
    exact fun hfree => hfree t ht _ _ hcut hwhole
  · intro k hk hkn
    have hname := (GenericHeader.isWord_className hk).1
    rw [tokenFree_closed_iff hname.ne hname.isBlank]
    intro t ht
    obtain ⟨hs, hslots⟩ := sealed_of_isImplementationRow (hspec.rows t ht)
    exact tokenFree_className hs hslots hk hkn

theorem plainlyMarked : PlainlyMarked {} (join pairRows.implementation) := by
  have hfronts : ∀ n ∈ arities, ∃ l ∈ markerFronts, l <+: ((Marker.arity n).comment {}).toList := by
    decide +kernel
  have hplain : ∀ n ∈ arities, IsMarkerRow (Conventions.className {} n).toList
      ('\t' :: ((Marker.arity n).comment {}).toList) := by
    decide +kernel
  have hrow : ∀ t ∈ pairRows.implementation, ∀ n ∈ arities,
      t.trim = ((Marker.arity n).comment {}).toList →
        IsMarkerRow (Conventions.className {} n).toList t := by
    intro t ht n hn htrim
    obtain ⟨l, hl, hfront⟩ := hfronts n hn
    have hmarked : isUnmarked t ≠ true := fun h => trim_ne_of_isUnmarked h hl hfront htrim
    rw [PairRows.implementation] at ht
    rcases List.mem_append.1 ht with ht | ht
    · rcases List.mem_append.1 ht with ht | ht
      · exact absurd (opening_spec.1 t ht).2 hmarked
      · obtain ⟨k, hk, ht⟩ := List.mem_flatMap.1 ht
        obtain ⟨rest, hrows, hrest⟩ := (sections_spec hk).marked
        rw [hrows] at ht
        rcases List.mem_cons.1 ht with rfl | ht
        · rw [Marker.trim_tab_comment _ (Marker.mem_all_iff.2 (.inr ⟨k, hk, rfl⟩))] at htrim
          rw [htrim]
          exact hplain n hn
        · exact absurd (hrest t ht) hmarked
    · obtain ⟨u, rest, hrows, hu, hrest⟩ := ending_spec.2
      rw [hrows] at ht
      rcases List.mem_cons.1 ht with rfl | ht
      · rw [hu] at htrim
        exact absurd htrim.symm (Marker.comment_arity_ne_finish hn)
      · exact absurd (hrest t ht) hmarked
  intro l hl n hn htrim
  have hflat := wellMarked.flat_implementation
  obtain ⟨t, ht, hline⟩ := Text.exists_row_of_mem_lines (fun t ht => (hflat t ht).1)
    (Text.text_mem_lines hl)
  have hcontent : lineContent l.text = t := by
    rcases hline with h | h
    · rw [h, Text.lineContent_of_not_mem (hflat t ht).1]
    · rw [h, Text.lineContent_append_newline (hflat t ht).2]
  rw [hcontent]
  refine hrow t ht n hn ?_
  rw [← htrim, ← hcontent, Text.trim_lineContent]

/-! ### The header -/

/-- The built-in pair is accepted, and it has a generic header. -/
theorem exists_master : ∃ m,
    Master.ofSources {} interface.toList implementation.toList = .ok m ∧
      m.interface = join pairRows.interface ∧ m.implementation = join pairRows.implementation ∧
      ∃ a, GenericHeader.render {} m = .ok a := by
  obtain ⟨m, hm, hinterface, himplementation, hregions, hhelpers⟩ := wellMarked.exists_ofSources
  have hm' := hm
  rw [join_interface, join_implementation] at hm'
  refine ⟨m, hm', hinterface, himplementation, GenericHeader.exists_render hm ?_ ?_ ?_⟩
  · rw [himplementation]
    exact plainlyMarked
  · intro r hr
    rw [hregions r hr]
    exact generalizable_section (GenericHeader.arity_mem hm hr)
  · obtain ⟨-, -, -, hoperator, hlast⟩ := operators_spec
    obtain ⟨rs, hrs⟩ := List.getLast?_eq_some_iff.1 hlast
    rw [hrs] at hoperator
    rw [hhelpers, hrs, trimEnd_closed (by decide) (by decide)]
    exact exists_applyAll_helperRules hoperator

end Builtin

end VectorFamily
