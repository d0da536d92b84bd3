import VectorFamily.Proofs.Specialization.UpToDate

/-!
# Interfaces on which runs succeed

A run fails if a rule that has to match does not, or if a canonical value is left. On the rows of a
complete interface neither happens, whatever suited profile the run is for (`exists_run_interface`).
For each rule behind those for slots there is a row that holds what the rule looks for, and that the
rules before it do not take it from.
-/

namespace VectorFamily.Specialization

open Piece (isWordAt)

/-! ### Rows that rules look for -/

def streamedRow : Text := "\t\tos << \"x: \" << v.x << \" | y: \" << v.y;".toList

/-- What stands in front of the class name in the head of a stream operator. -/
def operatorFront : Text :=
  "\tinline static std::ostream& operator<<(std::ostream& os, const ".toList

def operatorBack : Text := "& v) noexcept".toList

/-- A row of the interface with the type of a stream. -/
def operatorRow : Text := operatorFront ++ "Vector2d".toList ++ operatorBack

/-- The rows of an interface hold what the rules look for, and nothing that they could leave. -/
structure CompleteInterface (rs : List Text) : Prop where
  rows : ∀ t ∈ rs, RowOf .interface t
  slots : ∀ name ∈ requiredNames .interface, ∃ t ∈ rs, HasSlotFor name t
  streamed : streamedRow ∈ rs
  operator : operatorRow ∈ rs

variable {p : Profile} {keep : Bool} {kind : ArtifactKind} {t : Text}

theorem cells_operatorRow : cells operatorRow = around operatorFront (.className 2) operatorBack := by
  decide +kernel

/-! ### Applying rules one after another -/

theorem applyAll_of_not_required {target : String} {rules : List Rule}
    (h : ∀ r ∈ rules, r.expect.requiredFor kind = false) (t : Text) :
    Rule.applyAll target kind rules t = .ok (Rule.rewrite rules t) := by
  induction rules generalizing t with
  | nil => rfl
  | cons r rules ih =>
    obtain ⟨hr, hrules⟩ := List.forall_mem_cons.1 h
    refine Rule.applyAll_cons_eq_ok_iff.2 ⟨fun hreq => ?_, ih hrules _⟩
    rw [hr] at hreq
    cases hreq

/-- A run whose rules give a text that is up to date succeeds. -/
theorem run_of_upToDate (hp : Suited p) {source : Text}
    (happlied : Rule.applyAll p.classTag kind (rulesFor ⟨{}, p, keep⟩ kind) source = .ok t)
    (ht : UpToDate p t) : run ⟨{}, p, keep⟩ kind source = .ok t := by
  have hrun : run ⟨{}, p, keep⟩ kind source =
      Rule.applyAll p.classTag kind (rulesFor ⟨{}, p, keep⟩ kind) source >>= fun t =>
        checkPlaceholders p.classTag kind t (placeholders ⟨{}, p, keep⟩) >>= fun _ => pure t :=
    rfl
  rw [hrun, happlied]
  show checkPlaceholders p.classTag kind t (placeholders ⟨{}, p, keep⟩) >>= _ = _
  rw [checkPlaceholders_of_upToDate hp ht]
  rfl

/-! ### Interfaces -/

theorem rulesFor_interface : rulesFor ⟨{}, p, keep⟩ .interface =
    slotRules ⟨{}, p, keep⟩ .interface ++ lateRules ⟨{}, p, keep⟩ .interface := by
  have hcasts : ¬ castsIn ⟨{}, p, keep⟩ .interface := fun h => by cases h.1
  rw [rulesFor_of_not_castsIn hcasts]
  rfl

theorem lateRules_eq : lateRules ⟨{}, p, keep⟩ kind =
    [printableRule, wideRule, exportRule {}].filter (·.applies (context ⟨{}, p, keep⟩ kind)) := by
  rw [lateRules, streamRules_eq, exportRules_eq]
  rfl

theorem mem_lateRules {r : Rule} (hr : r ∈ lateRules ⟨{}, p, keep⟩ kind) :
    r = printableRule ∨ r = wideRule ∨ r = exportRule {} := by
  rw [lateRules_eq] at hr
  simpa using (List.mem_filter.1 hr).1

theorem cuts_lateRules : ∀ r ∈ lateRules ⟨{}, p, keep⟩ kind, r.edit.Cuts := by
  have hstays : streamedField.StaysInLine ∧ (Pattern.token "std::ostream&".toList).StaysInLine ∧
      (exportPattern {}).StaysInLine := by
    decide
  intro r hr
  rcases mem_lateRules hr with rfl | rfl | rfl <;> intro q hq <;>
    obtain rfl := List.mem_singleton.1 hq
  · exact ⟨hstays.1, Pattern.solid_text_cons (by decide) _⟩
  · exact ⟨hstays.2.1, Pattern.solid_token (by decide)⟩
  · refine ⟨hstays.2.2, fun before rest h hm => ?_⟩
    obtain ⟨post, h', -, -, -, rfl⟩ := Pattern.match?_token_append_eq_some.1 hm
    simp

theorem startsWith_streamedField : streamedField.StartsWith ["<< ".toList] := by
  intro before rest h hm
  obtain ⟨post, _, rfl, -, -⟩ := Pattern.match?_text_cons_eq_some.1 hm
  exact ⟨_, List.mem_singleton_self _, post, rfl, by
    exact ⟨fun he => absurd he (by decide), fun he => absurd he (by decide)⟩⟩

section
variable (hp : Suited p)
include hp

/-- The name of the class in the head of a stream operator, once it is filled. -/
theorem rewrite_operatorRow (hrow : RowOf .interface operatorRow) :
    Rule.rewrite (slotRules ⟨{}, p, keep⟩ .interface) operatorRow =
      operatorFront ++ taggedName 2 p.classTag ++ operatorBack := by
  rw [hrow.rewrite_cells hp, cells_operatorRow, fill_around,
    rewrite_slotRules_canonical hp (by decide) (by decide) (by decide)]
  rfl

theorem find?_streamedField_operatorRow : streamedField.find?
    (Rule.rewrite (slotRules ⟨{}, p, keep⟩ .interface) operatorRow) = none := by
  have hsealed : sealedFrom (Slot.words ++ ["<< ".toList]) false (cells operatorRow) = true := by
    decide +kernel
  refine startsWith_streamedField.find?_eq_none fun l hl => ?_
  refine tokenFree_rewrite_of_sealed hp (by decide) hsealed hl fun s hs => ?_
  obtain rfl : s = .className 2 := by
    rw [cells_operatorRow] at hs
    exact slot_mem_around_iff.1 hs
  obtain rfl := List.mem_singleton.1 hl
  rw [rewrite_slotRules_canonical hp (by decide) (by decide) (by decide)]
  refine tokenFree_of_not_mem (e := ' ') (by decide) fun hspace => ?_
  exact absurd (isAsciiWord_of_mem_taggedName (by decide) hp.classTag _ hspace) (by decide)

theorem hits_printable (hrow : RowOf .interface streamedRow) :
    (printableRule.apply
      (Rule.rewrite (slotRules ⟨{}, p, keep⟩ .interface) streamedRow)).2 ≠ 0 := by
  have hcells : cells streamedRow = streamedRow.map .char := by decide +kernel
  have hquiet : Rule.rewrite (slotRules ⟨{}, p, keep⟩ .interface) streamedRow = streamedRow :=
    hrow.rewrite_of_no_slot hp fun s hs => by simp [hcells] at hs
  rw [hquiet]
  decide +kernel

theorem hits_wide (hrow : RowOf .interface operatorRow) :
    (wideRule.apply
      (Rule.rewrite (slotRules ⟨{}, p, keep⟩ .interface) operatorRow)).2 ≠ 0 := by
  have hfront : operatorFront = "\tinline static ".toList ++ "std::ostream&".toList ++
      " operator<<(std::ostream& os, const ".toList := by decide
  have hwhole : WholeToken "\tinline static ".toList.getLast? "std::ostream&".toList (some ' ') := by
    decide
  rw [apply_wideRule, ne_eq, Pattern.replaceAll_snd_eq_zero_iff (Pattern.solid_token (by decide)),
    Pattern.find?_token_eq_none_iff, rewrite_operatorRow hp hrow, hfront, List.append_assoc,
    List.append_assoc]
  exact fun hfree => hfree _ _ rfl hwhole

/-- Each rule behind the casts that has to match in an interface hits a row at its turn. -/
theorem hits_lateRules {rs : List Text} (hrs : CompleteInterface rs) {pre post : List Rule}
    {r : Rule} (hrules : lateRules ⟨{}, p, keep⟩ .interface = pre ++ r :: post)
    (hreq : r.expect.requiredFor .interface = true) :
    ∃ t ∈ rs, (r.apply (Rule.rewrite pre
      (Rule.rewrite (slotRules ⟨{}, p, keep⟩ .interface) t))).2 ≠ 0 := by
  have hnodup : ([printableRule, wideRule, exportRule {}].map (·.name)).Nodup := by decide
  have hbefore : ∀ r' ∈ pre, r' ∈
      [printableRule, wideRule, exportRule {}].takeWhile (·.name ≠ r.name) := by
    rw [← filter_takeWhile_eq hnodup (lateRules_eq.symm.trans hrules)]
    exact fun r' => List.mem_of_mem_filter
  have hr : r ∈ lateRules ⟨{}, p, keep⟩ .interface := by
    rw [hrules]
    exact List.mem_append_right _ List.mem_cons_self
  rcases mem_lateRules hr with rfl | rfl | rfl
  · have hfirst : [printableRule, wideRule, exportRule {}].takeWhile
        (·.name ≠ printableRule.name) = [] := by
      decide
    rw [hfirst] at hbefore
    obtain rfl : pre = [] :=
      List.eq_nil_iff_forall_not_mem.2 fun r' hr' => List.not_mem_nil (hbefore r' hr')
    refine ⟨_, hrs.streamed, ?_⟩
    rw [Rule.rewrite_nil]
    exact hits_printable hp (hrs.rows _ hrs.streamed)
  · -- the rule in front of this one finds nothing in the row
    have hsecond : [printableRule, wideRule, exportRule {}].takeWhile
        (·.name ≠ wideRule.name) = [printableRule] := by
      decide
    rw [hsecond] at hbefore
    have hquiet : Rule.rewrite pre
        (Rule.rewrite (slotRules ⟨{}, p, keep⟩ .interface) operatorRow) =
          Rule.rewrite (slotRules ⟨{}, p, keep⟩ .interface) operatorRow := by
      refine Rule.rewrite_induction (P := fun u => u = _) (fun r' hr' u hu => ?_) rfl
      rw [List.mem_singleton.1 (hbefore r' hr'), hu, apply_printableRule,
        Pattern.replaceAll_of_find?_none (find?_streamedField_operatorRow hp)]
    refine ⟨_, hrs.operator, ?_⟩
    rw [hquiet]
    exact hits_wide hp (hrs.rows _ hrs.operator)
  · cases hreq

theorem exists_run_interface {rs : List Text} (hrs : CompleteInterface rs) :
    ∃ out, run ⟨{}, p, keep⟩ .interface (Text.join rs) = .ok out := by
  have hne : rs ≠ [] := List.ne_nil_of_mem hrs.streamed
  have hslots : Rule.applyAll p.classTag .interface (slotRules ⟨{}, p, keep⟩ .interface)
      (Text.join rs) = .ok (Text.join (rs.map (Rule.rewrite (slotRules ⟨{}, p, keep⟩ .interface)))) :=
    applyAll_slotRules hp hne (fun t ht => (hrs.rows t ht).sealed) hrs.slots p.classTag
  obtain ⟨out, hlate⟩ : ∃ out, Rule.applyAll p.classTag .interface
      (lateRules ⟨{}, p, keep⟩ .interface)
      (Text.join (rs.map (Rule.rewrite (slotRules ⟨{}, p, keep⟩ .interface)))) = .ok out := by
    refine ⟨_, Rule.applyAll_join cuts_lateRules (by simpa using hne) fun pre r post hrules hreq => ?_⟩
    obtain ⟨t, ht, hhits⟩ := hits_lateRules hp hrs hrules hreq
    exact ⟨_, List.mem_map_of_mem ht, hhits⟩
  refine ⟨out, run_of_upToDate hp (rulesFor_interface ▸ Rule.applyAll_append_eq_ok hslots hlate) ?_⟩
  rw [← Rule.rewrite_of_applyAll hlate]
  refine upToDate_lateRules (upToDate_join ?_)
  simp only [List.forall_mem_map]
  exact fun t ht l hl => tokenFree_rewrite_slotRules hp hl (hrs.rows t ht)

end

end VectorFamily.Specialization
