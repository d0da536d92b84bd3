import VectorFamily.Proofs.Pattern.Expansion
import VectorFamily.Proofs.Rule.Joined
import VectorFamily.Proofs.Specialization.Fitting
import VectorFamily.Proofs.Specialization.Metadata
import VectorFamily.Proofs.Specialization.Rules

/-!
# Rules that fill slots

Each of the rules for tokens and metadata fills the slots of one kind: it takes what stands there in
the canonical pair for what the profile has in its place, and finds nothing elsewhere. In a sealed
row the slots are therefore filled one by one (`rewrite_fill`).
-/

namespace VectorFamily

open Piece (isWordAt)

/-- A word that is the whole text is replaced as a whole. -/
theorem Pattern.Recognizes.replaceAll_self {p : Pattern} {hits : List Hit}
    (hp : p.Recognizes hits) (hsolid : p.Solid) {h : Hit} (hh : h ∈ hits)
    (hw : WholeToken none h.text none) (render : Hit → Text) :
    p.replaceAll render h.text = (render h, 1) := by
  have hm : p.match? none (h.text ++ []) = some h := (hp _ _ _).2 ⟨hh, [], rfl, hw⟩
  have hsegments : p.segments h.text = [.hit h] := by
    have htake := Pattern.segmentsFrom_take hsolid hm
    rw [List.append_nil, Pattern.segmentsFrom_nil hsolid] at htake
    exact htake
  refine Prod.ext ?_ ?_
  · rw [Pattern.replaceAll_fst, hsegments]
    exact List.append_nil _
  · rw [Pattern.replaceAll_snd, hsegments]
    rfl

/-- The rule replaces certain words, each of which fills a slot of the kind that the rule is named
for. -/
structure Rule.Fills (r : Rule) (p : Pattern) (render : Hit → Text) (hits : List Hit) : Prop where
  apply_eq : ∀ t, r.apply t = p.replaceAll render t
  cuts : r.edit.Cuts
  recognizes : p.Recognizes hits
  solid : p.Solid
  marks : ∀ h ∈ hits, ∃ e ∈ Slot.marks, e.2 = h.text ∧ e.1 ≠ .closedLiteral ∧
    e.1.ruleName = r.name

namespace Rule.Fills

variable {r : Rule} {p : Pattern} {render : Hit → Text} {hits : List Hit}
  (hr : r.Fills p render hits)
include hr

/-- A text without the words of the rule stays as it is. -/
theorem apply_of_quiet {t : Text} (ht : ∀ e ∈ Slot.marks, e.1 ≠ .closedLiteral →
    e.1.ruleName = r.name → Specialization.TokenFree e.2 t) : r.apply t = (t, 0) := by
  have hnone : p.find? t = none := by
    refine hr.recognizes.find?_eq_none_iff.2 fun h hh => ?_
    obtain ⟨e, he, htext, hne, hname⟩ := hr.marks h hh
    exact htext ▸ ht e he hne hname
  rw [hr.apply_eq]
  exact Prod.ext (Pattern.replaceAll_of_find?_none hnone render)
    ((Pattern.replaceAll_snd_eq_zero_iff hr.solid).2 hnone)

theorem mem_words {h : Hit} (hh : h ∈ hits) : h.text ∈ Slot.words := by
  obtain ⟨e, he, htext, -⟩ := hr.marks h hh
  exact htext ▸ Slot.mark_mem_words he

variable {v : Slot → Text} {cells : List Cell}
  (hv : ∀ n, .slot (.className n) ∈ cells → EndsItself Slot.words (v (.className n)))
  (hs : sealedFrom Slot.words false cells = true)
include hv hs

theorem apply_fill : (r.apply (fill v cells)).1 = fill (fun s => (r.apply (v s)).1) cells := by
  simp only [hr.apply_eq]
  exact replaceAll_fill hr.recognizes hr.solid (fun h hh => hr.mem_words hh) hv hs render

theorem hits_fill {s : Slot} (hmem : .slot s ∈ cells) (hhits : (r.apply (v s)).2 ≠ 0) :
    (r.apply (fill v cells)).2 ≠ 0 := by
  rw [hr.apply_eq, ne_eq, Pattern.replaceAll_snd_eq_zero_iff hr.solid] at hhits ⊢
  rw [find?_fill_eq_none_iff hr.recognizes hr.solid (fun h hh => hr.mem_words hh) hv hs]
  exact fun h => hhits (h s hmem)

end Rule.Fills

namespace Specialization

/-- What takes the place of the canonical text of a slot. -/
def slotValue (p : Profile) : Slot → Text
  | .className n => taggedName n p.classTag
  | .includeLabel => p.includeLabel.toList
  | .symbol => p.symbol.toList
  | .literal => p.defaultLiteral.toList
  | .closedLiteral => p.defaultLiteral.toList ++ [')']
  | .byteSize => p.byteSizeNote.toList
  | .range => p.rangeNote.toList

def slotRules (s : Specialization) (kind : ArtifactKind) : List Rule :=
  (s.tokenRules ++ s.metadataRules).filter (·.applies (s.context kind))

section
variable {p : Profile} {keep : Bool} {kind : ArtifactKind} {r : Rule}

theorem fills_literal {placeholder value : String} {e : Slot × Text} (he : e ∈ Slot.marks)
    (hne : e.1 ≠ .closedLiteral) (htext : placeholder.toList = e.2) (hname : e.1.ruleName = r.name)
    (hedit : r.edit = literal placeholder value) :
    r.Fills (Pattern.token e.2) (fun _ => value.toList) [⟨e.2, []⟩] where
  apply_eq t := by
    rw [Rule.apply, hedit, literal, Edit.apply, Edit.substituteAll_singleton, htext]
    rfl
  cuts := by
    have hstays : ∀ e ∈ Slot.marks, '\n' ∉ e.2 := by decide
    rw [hedit, literal, htext]
    intro q hq
    obtain rfl := List.mem_singleton.1 hq
    exact ⟨Pattern.staysInLine_token (hstays e he),
      Pattern.solid_token (Slot.canonical_of_mem_marks e he).2⟩
  recognizes := Pattern.recognizes_token e.2
  solid := Pattern.solid_token (Slot.canonical_of_mem_marks e he).2
  marks := by
    intro h hh
    obtain rfl := List.mem_singleton.1 hh
    exact ⟨e, he, rfl, hne, hname⟩

theorem fills_className {suffix : Text} (hname : r.name = "token.class-name")
    (hedit : r.edit = .substitute [({} : Conventions).classNamePattern]
      (.expand (({} : Conventions).classNameTemplate suffix))) :
    r.Fills ({} : Conventions).classNamePattern
      (fun h => h.expand (({} : Conventions).classNameTemplate suffix))
      (({} : Conventions).classNameHits) where
  apply_eq t := by
    rw [Rule.apply, hedit, Edit.apply, Edit.substituteAll_singleton]
    rfl
  cuts := by
    rw [hedit]
    intro q hq
    obtain rfl := List.mem_singleton.1 hq
    exact ⟨by decide, Conventions.solid_classNamePattern _⟩
  recognizes := Conventions.recognizes_classNamePattern
  solid := Conventions.solid_classNamePattern _
  marks := by
    have hall : ∀ n ∈ arities, ∃ e ∈ Slot.marks, e.2 = (({} : Conventions).className n).toList ∧
        e.1 ≠ .closedLiteral ∧ e.1.ruleName = "token.class-name" := by
      decide
    intro h hh
    obtain ⟨n, hn, rfl⟩ := List.mem_map.1 hh
    rw [hname]
    exact hall n hn

/-- Each of the rules fills the slots that it is named for. -/
theorem fills_spec (hr : r ∈ tokenRules ⟨{}, p, keep⟩ ++ metadataRules ⟨{}, p, keep⟩) :
    ∃ q render hits, r.Fills q render hits ∧ ∀ e ∈ Slot.marks, e.1 ≠ .closedLiteral →
      e.1.ruleName = r.name → ∃ h ∈ hits, h.text = e.2 ∧ render h = slotValue p e.1 := by
  -- a literal stands in the slots of one mark
  have single {s : Slot} {placeholder value : String} (hs : (s, s.canonical) ∈ Slot.marks)
      (hne : s ≠ .closedLiteral) (htext : placeholder.toList = s.canonical)
      (hname : s.ruleName = r.name) (hedit : r.edit = literal placeholder value)
      (hvalue : slotValue p s = value.toList)
      (honly : ∀ e ∈ Slot.marks, e.1 ≠ .closedLiteral → e.1.ruleName = s.ruleName → e.1 = s) :
      ∃ q render hits, r.Fills q render hits ∧ ∀ e ∈ Slot.marks, e.1 ≠ .closedLiteral →
        e.1.ruleName = r.name → ∃ h ∈ hits, h.text = e.2 ∧ render h = slotValue p e.1 := by
    refine ⟨_, _, _, fills_literal hs hne htext hname hedit, fun e he hne' hname' => ?_⟩
    have hes := honly e he hne' (hname'.trans hname.symm)
    refine ⟨_, List.mem_singleton_self _, ?_, by rw [hes, hvalue]⟩
    rw [← (Slot.canonical_of_mem_marks e he).1, hes]
  simp only [tokenRules, metadataRules, List.cons_append, List.nil_append, List.mem_cons,
    List.not_mem_nil, or_false] at hr
  rcases hr with rfl | rfl | rfl | rfl | rfl | rfl
  · exact single (s := .symbol) (by decide) (by decide) rfl rfl rfl rfl (by decide)
  · refine ⟨_, _, _, fills_className rfl rfl, fun e he hne hname => ?_⟩
    have hall : ∀ e ∈ Slot.marks, e.1.ruleName = "token.class-name" →
        ∃ n ∈ arities, e = (.className n, (({} : Conventions).className n).toList) := by
      decide
    obtain ⟨n, hn, rfl⟩ := hall e he hname
    have hh : (⟨(({} : Conventions).className n).toList, [("arity", (toString n).toList)]⟩ : Hit) ∈
        ({} : Conventions).classNameHits := List.mem_map_of_mem hn
    have hinj : ∀ n ∈ arities, ∀ k ∈ arities, (({} : Conventions).className n).toList =
        (({} : Conventions).className k).toList → n = k := by
      decide
    obtain ⟨k, hk, htext, hexpand⟩ := Conventions.expand_classNameTemplate hh
    obtain rfl := hinj n hn k hk htext
    refine ⟨_, hh, rfl, ?_⟩
    rw [hexpand, Hit.expand_protect]
    rfl
  · exact single (s := .literal) (by decide) (by decide) rfl rfl rfl rfl (by decide)
  · exact single (s := .byteSize) (by decide) (by decide) rfl rfl rfl rfl (by decide)
  · exact single (s := .range) (by decide) (by decide) rfl rfl rfl rfl (by decide)
  · exact single (s := .includeLabel) (by decide) (by decide) rfl rfl rfl rfl (by decide)

/-! ### The canonical pair -/

/-- A rule puts the value of the profile into its slots. -/
theorem apply_mark (hr : r ∈ tokenRules ⟨{}, p, keep⟩ ++ metadataRules ⟨{}, p, keep⟩)
    {e : Slot × Text} (he : e ∈ Slot.marks) (hne : e.1 ≠ .closedLiteral)
    (hname : e.1.ruleName = r.name) : r.apply e.2 = (slotValue p e.1, 1) := by
  have hwhole : ∀ e ∈ Slot.marks, e.1 ≠ .closedLiteral → WholeToken none e.2 none := by
    decide +kernel
  obtain ⟨q, render, hits, hfills, hall⟩ := fills_spec hr
  obtain ⟨h, hh, htext, hvalue⟩ := hall e he hne hname
  have hw := hwhole e he hne
  rw [← htext] at hw ⊢
  rw [hfills.apply_eq, hfills.recognizes.replaceAll_self hfills.solid hh hw, hvalue]

/-- The bracket behind a literal stays. -/
theorem apply_closedLiteral (hr : r ∈ tokenRules ⟨{}, p, keep⟩ ++ metadataRules ⟨{}, p, keep⟩)
    (hname : Slot.closedLiteral.ruleName = r.name) :
    (r.apply Slot.closedLiteral.canonical).1 = p.defaultLiteral.toList ++ [')'] := by
  obtain ⟨q, render, hits, hfills, hall⟩ := fills_spec hr
  obtain ⟨h, hh, htext, hvalue⟩ := hall (.literal, ['0', '.', '0']) (by decide) (by decide) hname
  have hvalue : render h = p.defaultLiteral.toList := hvalue
  have hcanonical : Slot.closedLiteral.canonical = h.text ++ [')'] := by
    rw [htext]
    decide
  have hmatch : q.match? none (h.text ++ [')']) = some h :=
    (hfills.recognizes _ _ _).2 ⟨hh, [')'], rfl, by rw [htext]; decide⟩
  have hend : ∀ before, q.match? before [')'] = none := by
    have hmarks : ∀ e ∈ Slot.marks, ¬ e.2 <+: [')'] := by decide
    intro before
    refine Option.eq_none_iff_forall_ne_some.2 fun h' hm => ?_
    obtain ⟨hh', -⟩ := (hfills.recognizes _ _ _).1 hm
    obtain ⟨e, he, htext', -⟩ := hfills.marks h' hh'
    exact hmarks e he (htext' ▸ Pattern.prefix_of_match? hm)
  have hsegments : q.segments (h.text ++ [')']) = [.hit h, .plain ')'] := by
    rw [Pattern.segments, Pattern.segmentsFrom_take hfills.solid hmatch,
      Pattern.segmentsFrom_skip (hend _), Pattern.segmentsFrom_nil hfills.solid]
  rw [hcanonical, hfills.apply_eq, Pattern.replaceAll_fst, hsegments, ← hvalue]
  rfl

/-- A rule finds nothing in the slots of another one. -/
theorem apply_other (hr : r ∈ tokenRules ⟨{}, p, keep⟩ ++ metadataRules ⟨{}, p, keep⟩)
    {e : Slot × Text} (he : e ∈ Slot.marks) (hname : e.1.ruleName ≠ r.name) :
    r.apply e.2 = (e.2, 0) := by
  obtain ⟨q, render, hits, hfills, -⟩ := fills_spec hr
  refine hfills.apply_of_quiet fun e' he' hne' hname' => ?_
  refine Slot.tokenFree_marks e he _ (Slot.mark_mem_tokens he' hne') fun hpre => hname ?_
  rw [← hname', Slot.ruleName_eq_of_prefix e he e' he' hne' hpre]

end

/-! ### The values of a profile -/

/-- What is known of the values of a profile of an accepted registry that fit into the template. -/
structure Suited (p : Profile) : Prop extends p.Fits {} where
  classTag : IsTag p.classTag
  classTag_ne : p.classTag ≠ "d"
  fileTag : IsTag p.fileTag
  fileTag_ne : p.fileTag ≠ "D"
  includeLabel : p.includeLabel = ({} : Conventions).includeLabelFor p.fileTag

theorem eq_or_tokenFree_of_fits {placeholder value : String}
    (h : Conventions.Fits {} placeholder value) :
    value.toList = placeholder.toList ∨ ∀ l ∈ Slot.tokens, TokenFree l value.toList := by
  rcases h.free with rfl | hfree
  · exact .inl rfl
  · refine .inr fun l hl => ?_
    obtain ⟨name, hname, rfl⟩ := Slot.exists_mem_canonicalTokens l hl
    exact hfree name hname

theorem mem_arities_of_mem_marks {n : Nat} {t : Text} (he : (.className n, t) ∈ Slot.marks) :
    n ∈ arities := by
  simp only [Slot.marks, List.mem_cons, Prod.mk.injEq, Slot.className.injEq, reduceCtorEq,
    false_and, List.not_mem_nil, or_false] at he
  rcases he with he | he | he | he | he | he | he | he | he <;> exact he.1 ▸ by decide

theorem mem_arities_of_mem_cells {n : Nat} {t : Text} (h : .slot (.className n) ∈ cells t) :
    n ∈ arities := by
  obtain ⟨⟨s, m⟩, he, hslot⟩ := List.mem_map.1 (mem_marks_of_mem_cellsFrom h)
  obtain rfl : s = .className n := hslot
  exact mem_arities_of_mem_marks he

section
variable {p : Profile} {keep : Bool} {kind : ArtifactKind} {r : Rule} (hp : Suited p)
include hp

/-- What takes the place of a canonical value is that value or holds no token. -/
theorem slotValue_cases {e : Slot × Text} (he : e ∈ Slot.marks) (hne : e.1 ≠ .closedLiteral) :
    slotValue p e.1 = e.2 ∨ ∀ l ∈ Slot.tokens, TokenFree l (slotValue p e.1) := by
  obtain ⟨s, t⟩ := e
  have hcanonical : s.canonical = t := (Slot.canonical_of_mem_marks _ he).1
  rw [← hcanonical]
  cases s with
  | className n =>
    exact .inr fun l hl => tokenFree_taggedName (mem_arities_of_mem_marks he) hp.classTag
      hp.classTag_ne (Slot.mem_words_of_mem_tokens l hl)
  | includeLabel =>
    refine .inr fun l hl => ?_
    show TokenFree l p.includeLabel.toList
    rw [hp.includeLabel]
    exact tokenFree_includeLabel hp.fileTag hp.fileTag_ne (Slot.mem_words_of_mem_tokens l hl)
  | symbol => exact eq_or_tokenFree_of_fits hp.symbol
  | literal => exact eq_or_tokenFree_of_fits hp.defaultLiteral
  | closedLiteral => exact absurd rfl hne
  | byteSize => exact eq_or_tokenFree_of_fits hp.byteSizeNote
  | range => exact eq_or_tokenFree_of_fits hp.rangeNote

/-- A rule finds nothing in the values of other slots. -/
theorem apply_slotValue (hr : r ∈ tokenRules ⟨{}, p, keep⟩ ++ metadataRules ⟨{}, p, keep⟩)
    {e : Slot × Text} (he : e ∈ Slot.marks) (hne : e.1 ≠ .closedLiteral)
    (hname : e.1.ruleName ≠ r.name) : r.apply (slotValue p e.1) = (slotValue p e.1, 0) := by
  rcases slotValue_cases hp he hne with hvalue | hfree
  · rw [hvalue]
    exact apply_other hr he hname
  · obtain ⟨q, render, hits, hfills, -⟩ := fills_spec hr
    exact hfills.apply_of_quiet fun e' he' hne' _ => hfree _ (Slot.mark_mem_tokens he' hne')

/-- Rules with different names put the value into a slot once. -/
theorem rewrite_mark {rules : List Rule}
    (hrules : rules ⊆ tokenRules ⟨{}, p, keep⟩ ++ metadataRules ⟨{}, p, keep⟩)
    (hnodup : (rules.map (·.name)).Nodup) {e : Slot × Text} (he : e ∈ Slot.marks)
    (hne : e.1 ≠ .closedLiteral) : Rule.rewrite rules e.2 =
      if e.1.ruleName ∈ rules.map (·.name) then slotValue p e.1 else e.2 := by
  induction rules with
  | nil => rfl
  | cons r rules ih =>
    obtain ⟨hr, hrules⟩ := List.cons_subset.1 hrules
    obtain ⟨hnotMem, hnodup⟩ := List.nodup_cons.1 hnodup
    rw [Rule.rewrite_cons]
    by_cases hname : e.1.ruleName = r.name
    · -- the rules behind find nothing in the value
      have hquiet : ∀ r' ∈ rules, ∀ t, t = slotValue p e.1 → (r'.apply t).1 = slotValue p e.1 := by
        rintro r' hr' _ rfl
        rw [apply_slotValue hp (hrules hr') he hne]
        intro hname'
        exact hnotMem (List.mem_map.2 ⟨r', hr', hname'.symm.trans hname⟩)
      rw [apply_mark hr he hne hname, if_pos (by simp [hname])]
      exact Rule.rewrite_induction hquiet rfl
    · rw [apply_other hr he hname, ih hrules hnodup]
      simp [hname]

end

end Specialization

end VectorFamily
