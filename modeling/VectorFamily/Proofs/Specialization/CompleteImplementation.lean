import VectorFamily.Proofs.Specialization.CompleteInterface
import VectorFamily.Proofs.Specialization.Lines

/-!
# Implementations on which runs succeed

On the rows of a complete implementation a run succeeds, whatever suited profile it is for
(`exists_run_implementation`). What pruning and the casts look for stands in rows without slots, and
the directive that the helper is put behind is in the first row.
-/

namespace VectorFamily.Specialization

open Piece (isWordAt)

/-! ### Rows that rules look for -/

def stepRow : Text := "\t\t++x; ++y;".toList

def divisionRow : Text := "\t\treturn \x7b x / v.x, y / v.y \x7d;".toList

def compoundRow : Text := "\t\tx += right.x; y += right.y;".toList

/-- A row of the implementation with mixed expressions that booleans keep. -/
def mixedRow : Text := "\t\treturn \x7b x + v.x, y + v.y \x7d;".toList

/-- What stands in front of the label in the directive that includes the interface. -/
def includeFront : Text := "#include \"".toList

def includeRow : Text := includeFront ++ "VectorD.h".toList ++ ['"']

/-- The rows of an implementation hold what the rules look for, and nothing that they could leave;
the first row includes the interface. -/
structure CompleteImplementation (rs : List Text) : Prop where
  rows : ∀ t ∈ rs, Prunable t
  slots : ∀ name ∈ requiredNames .implementation, ∃ t ∈ rs, HasSlotFor name t
  pruned : stepRow ∈ rs ∧ divisionRow ∈ rs ∧ compoundRow ∈ rs
  mixed : mixedRow ∈ rs
  included : rs.head? = some includeRow

variable {p : Profile} {keep : Bool} {t : Text}

theorem cells_includeRow : cells includeRow = around includeFront .includeLabel ['"'] := by
  decide +kernel

/-! ### Pruning -/

def pruningRules (p : Profile) (keep : Bool) : List Rule :=
  booleanRules.filter (·.applies (context ⟨{}, p, keep⟩ .implementation))

theorem earlyRules_implementation : earlyRules ⟨{}, p, keep⟩ .implementation =
    slotRules ⟨{}, p, keep⟩ .implementation ++ pruningRules p keep := by
  rw [earlyRules, List.filter_append]
  rfl

theorem pruningRules_subset : pruningRules p keep ⊆ booleanRules :=
  List.filter_subset_self _

/-- Each rule that prunes has a row that the others leave alone; the casts have one that they all
leave alone. -/
theorem hits_booleanRules : (∀ r ∈ booleanRules, ∃ t ∈ [stepRow, divisionRow, compoundRow],
      bare Slot.words t = true ∧ (r.apply t).2 ≠ 0 ∧
        ∀ r' ∈ booleanRules, r'.name ≠ r.name → (r'.apply t).1 = t) ∧
    bare Slot.words mixedRow = true ∧ (∀ r ∈ booleanRules, (r.apply mixedRow).1 = mixedRow) ∧
      (wrapRule.apply mixedRow).2 ≠ 0 := by
  decide +kernel

theorem cuts_booleanRules : ∀ r ∈ booleanRules, r.edit.Cuts := by
  have hstays : ∀ q ∈ prunedPatterns, q.StaysInLine := by decide
  have hcuts : ∀ ps ⊆ prunedPatterns, (Edit.substitute ps .delete).Cuts := fun ps hps q hq =>
    ⟨hstays q (hps hq), (solid_and_clean_of_mem (hps hq)).1⟩
  intro r hr
  simp only [booleanRules, List.mem_cons, List.not_mem_nil, or_false] at hr
  rcases hr with rfl | rfl | rfl <;> exact hcuts _ (by simp [prunedPatterns])

/-! ### The row that includes the interface -/

theorem startsWith_mixedExpression {f : Char} (hf : f ∈ fieldAlphabet) :
    (mixedExpression f).StartsWith [[f, ' ']] := by
  intro before rest h hm
  obtain ⟨m, hmem, post, rfl, hbefore, -, -⟩ := (match?_mixedExpression_eq_some hf).1 hm
  obtain ⟨w, rfl⟩ := exists_cons_cons_of_mem_mixedTexts hmem
  have hfield : isWordAt (some f) = true := isWord_field hf
  have hspace : Pattern.isEdge ' ' = false := by decide
  refine ⟨_, List.mem_singleton_self _, w ++ post, rfl, fun _ => ?_, fun he => ?_⟩
  · show isWordAt before ≠ isWordAt (some f)
    rw [hbefore, hfield]
    exact Bool.false_ne_true
  · simp [hspace] at he

/-- The row that includes the interface is where the helper is put. -/
theorem find?_includeDirective (label : String) (v : Text) :
    (includeDirective label).find? (includeFront ++ label.toList ++ ['"'] ++ v) ≠ none := by
  have hsplit : includeFront ++ label.toList ++ ['"'] ++ v =
      "#include".toList ++ (' ' :: ('"' :: label.toList ++ ['"'] ++ v)) := by
    have hfront : includeFront = "#include".toList ++ [' ', '"'] := by decide
    simp [hfront]
  have hblank : CharClass.blank.has ' ' = true ∧ CharClass.blank.has '"' = false := by decide
  have hmatch : ∃ h, (includeDirective label).match? none
      (includeFront ++ label.toList ++ ['"'] ++ v) = some h := by
    rw [hsplit, includeDirective, Pattern.match?_text_cons]
    simp [Pattern.match?, Part.run, Part.text, Piece.take?, hblank]
  obtain ⟨h, hm⟩ := hmatch
  intro hnone
  have hnomatch := Pattern.find?_eq_none_iff.1 hnone [] _ (List.nil_append _).symm
  cases hm.symm.trans hnomatch

section
variable (hp : Suited p)
include hp

theorem rewrite_includeRow : Rule.rewrite (slotRules ⟨{}, p, keep⟩ .implementation) includeRow =
    includeFront ++ p.includeLabel.toList ++ ['"'] := by
  have hsealed : sealedFrom Slot.words false (cells includeRow) = true := by decide +kernel
  rw [rewrite_cells slotRules_subset hp nodup_names_slotRules hsealed, cells_includeRow, fill_around,
    rewrite_slotRules_canonical hp (by decide) (by decide) (by decide)]
  rfl

theorem wrap_includeRow :
    (wrapRule.apply (Rule.rewrite (pruningRules p keep)
      (Rule.rewrite (slotRules ⟨{}, p, keep⟩ .implementation) includeRow))).1 =
      includeFront ++ p.includeLabel.toList ++ ['"'] := by
  have hpruned : sealedFrom (Slot.words ++ prunedWords) false (cells includeRow) = true := by
    decide +kernel
  have hmixed : sealedFrom (Slot.words ++ fieldAlphabet.map ([·, ' '])) false
      (cells includeRow) = true := by
    decide +kernel
  have hslot : ∀ s, .slot s ∈ cells includeRow → s = .includeLabel := by
    intro s hs
    rw [cells_includeRow] at hs
    exact slot_mem_around_iff.1 hs
  have hmark : (Slot.includeLabel, Slot.includeLabel.canonical) ∈ Slot.marks := by decide
  rw [rewrite_booleanRules_of_sealed hp hpruned (fun s hs => by rw [hslot s hs]; decide)
    pruningRules_subset, apply_wrapRule, Edit.substituteAll_of_find?_eq_none, rewrite_includeRow hp]
  intro q hq
  obtain ⟨f, hf, rfl⟩ := List.mem_map.1 hq
  refine (startsWith_mixedExpression hf).find?_eq_none fun l hl => ?_
  obtain rfl := List.mem_singleton.1 hl
  refine tokenFree_rewrite_of_sealed hp (by decide) hmixed (List.mem_map_of_mem hf) fun s hs => ?_
  rw [hslot s hs, rewrite_slotRules_canonical hp (by decide) (by decide) (by decide)]
  refine tokenFree_of_not_mem (e := ' ') (by simp) fun hspace => ?_
  exact absurd (isAsciiWord_or_dot hp hmark (.inr rfl) _ hspace) (by decide)

end

/-! ### Runs -/

section
variable (hp : Suited p) {rs : List Text} (hrs : CompleteImplementation rs)
include hp hrs

theorem applyAll_earlyRules : Rule.applyAll p.classTag .implementation
    (earlyRules ⟨{}, p, keep⟩ .implementation) (Text.join rs) =
      .ok (Text.join (rs.map fun t => Rule.rewrite (pruningRules p keep)
        (Rule.rewrite (slotRules ⟨{}, p, keep⟩ .implementation) t))) := by
  have hne : rs ≠ [] := List.ne_nil_of_mem hrs.mixed
  have hslots : Rule.applyAll p.classTag .implementation
      (slotRules ⟨{}, p, keep⟩ .implementation) (Text.join rs) =
        .ok (Text.join (rs.map (Rule.rewrite (slotRules ⟨{}, p, keep⟩ .implementation)))) :=
    applyAll_slotRules hp hne (fun t ht => (hrs.rows t ht).rowOf.sealed) hrs.slots p.classTag
  have hpruned : Rule.applyAll p.classTag .implementation (pruningRules p keep)
      (Text.join (rs.map (Rule.rewrite (slotRules ⟨{}, p, keep⟩ .implementation)))) =
        .ok (Text.join ((rs.map (Rule.rewrite (slotRules ⟨{}, p, keep⟩ .implementation))).map
          (Rule.rewrite (pruningRules p keep)))) := by
    refine Rule.applyAll_join (fun r hr => cuts_booleanRules r (pruningRules_subset hr))
      (by simpa using hne) fun pre r post hrules _ => ?_
    have hmem : pre ++ r :: post ⊆ booleanRules := hrules ▸ pruningRules_subset
    obtain ⟨t, ht, hbare, hhits, hothers⟩ := hits_booleanRules.1 r (hmem (by simp))
    have hrow : t ∈ rs := by
      obtain ⟨hstep, hdivision, hcompound⟩ := hrs.pruned
      simp only [List.mem_cons, List.not_mem_nil, or_false] at ht
      rcases ht with rfl | rfl | rfl
      · exact hstep
      · exact hdivision
      · exact hcompound
    refine ⟨t, List.mem_map.2 ⟨t, hrow, rewrite_of_bare hp hbare⟩, ?_⟩
    have hnodup : ((pre ++ r :: post).map (·.name)).Nodup := by
      have hall : (booleanRules.map (·.name)).Nodup := by decide
      rw [← hrules]
      exact hall.sublist (List.filter_sublist.map _)
    have hquiet : Rule.rewrite pre t = t := by
      refine Rule.rewrite_induction (P := fun u => u = t) (fun r' hr' u hu => ?_) rfl
      rw [hu, hothers r' (hmem (List.mem_append_left _ hr'))]
      rw [List.map_append, List.map_cons, List.nodup_append] at hnodup
      exact hnodup.2.2 _ (List.mem_map_of_mem hr') _ List.mem_cons_self
    rw [hquiet]
    exact hhits
  rw [earlyRules_implementation]
  rw [List.map_map] at hpruned
  exact Rule.applyAll_append_eq_ok hslots hpruned

theorem upToDate_pruned : ∀ t ∈ rs, UpToDate p (Rule.rewrite (pruningRules p keep)
    (Rule.rewrite (slotRules ⟨{}, p, keep⟩ .implementation) t)) :=
  fun t ht _ hl => tokenFree_rewrite_booleanRules hp (hrs.rows t ht) pruningRules_subset hl

/-- The casts are set, and the helper is put behind the first row. -/
theorem applyAll_castRules : ∃ out, Rule.applyAll p.classTag .implementation
    (castRules ⟨{}, p, keep⟩) (Text.join (rs.map fun t => Rule.rewrite (pruningRules p keep)
      (Rule.rewrite (slotRules ⟨{}, p, keep⟩ .implementation) t))) = .ok out := by
  have hcuts : wrapRule.edit.Cuts := by
    intro q hq
    refine ⟨(staysInLine_wrapRule.1 q hq).1, ?_⟩
    obtain ⟨f, hf, rfl⟩ := List.mem_map.1 hq
    exact solid_mixedExpression f
  have hne : rs ≠ [] := List.ne_nil_of_mem hrs.mixed
  obtain ⟨hbare, hquiet, hhits⟩ := hits_booleanRules.2
  have hmixed : Rule.rewrite (pruningRules p keep)
      (Rule.rewrite (slotRules ⟨{}, p, keep⟩ .implementation) mixedRow) = mixedRow := by
    rw [rewrite_of_bare hp hbare]
    refine Rule.rewrite_induction (P := fun u => u = mixedRow) (fun r hr u hu => ?_) rfl
    rw [hu, hquiet r (pruningRules_subset hr)]
  rw [castRules_eq]
  refine ⟨_, Rule.applyAll_cons_eq_ok_iff.2 ⟨fun _ => ?wrap, Rule.applyAll_cons_eq_ok_iff.2
    ⟨fun _ => ?helper, Rule.applyAll_cons_eq_ok_iff.2 ⟨fun h => ?scope, rfl⟩⟩⟩⟩
  case wrap =>
    exact Rule.hits_join hcuts (List.mem_map.2 ⟨_, hrs.mixed, hmixed⟩) hhits
  case helper =>
    obtain ⟨rest, hrest⟩ : ∃ rest, rs = includeRow :: rest := by
      have hhead := hrs.included
      cases rs with
      | nil => cases hhead
      | cons t rest => exact ⟨rest, by rw [Option.some.inj hhead]⟩
    rw [apply_helperRule, ne_eq, Edit.insertLines_snd_eq_zero_iff,
      Rule.apply_join hcuts (by simpa using hne), hrest, List.map_cons, List.map_cons,
      wrap_includeRow hp]
    obtain ⟨v, hv⟩ := Text.exists_join_cons (includeFront ++ p.includeLabel.toList ++ ['"'])
      ((rest.map fun t => Rule.rewrite (pruningRules p keep)
        (Rule.rewrite (slotRules ⟨{}, p, keep⟩ .implementation) t)).map
          fun t => (wrapRule.apply t).1)
    rw [hv]
    exact find?_includeDirective _ v
  case scope => cases h

theorem exists_run_implementation :
    ∃ out, run ⟨{}, p, keep⟩ .implementation (Text.join rs) = .ok out := by
  have hlate : ∀ r ∈ lateRules ⟨{}, p, keep⟩ .implementation,
      r.expect.requiredFor .implementation = false := by
    intro r hr
    rcases mem_lateRules hr with rfl | rfl | rfl <;> rfl
  have hearly : Rule.applyAll p.classTag .implementation (earlyRules ⟨{}, p, keep⟩ .implementation)
      (Text.join rs) = _ := applyAll_earlyRules hp hrs
  have hup : UpToDate p (Text.join (rs.map fun t => Rule.rewrite (pruningRules p keep)
      (Rule.rewrite (slotRules ⟨{}, p, keep⟩ .implementation) t))) :=
    upToDate_join (List.forall_mem_map.2 (upToDate_pruned hp hrs))
  by_cases hcasts : castsIn ⟨{}, p, keep⟩ .implementation
  · obtain ⟨t, ht⟩ : ∃ out, Rule.applyAll p.classTag .implementation (castRules ⟨{}, p, keep⟩) _ =
        .ok out := applyAll_castRules hp hrs
    refine ⟨_, run_of_upToDate hp (rulesFor_of_castsIn hcasts ▸ Rule.applyAll_append_eq_ok
      (Rule.applyAll_append_eq_ok hearly ht) (applyAll_of_not_required hlate t)) ?_⟩
    rw [← Rule.rewrite_of_applyAll ht]
    exact upToDate_lateRules (upToDate_castRules hp hup)
  · exact ⟨_, run_of_upToDate hp (rulesFor_of_not_castsIn hcasts ▸ Rule.applyAll_append_eq_ok
      hearly (applyAll_of_not_required hlate _)) (upToDate_lateRules hup)⟩

end

end VectorFamily.Specialization
