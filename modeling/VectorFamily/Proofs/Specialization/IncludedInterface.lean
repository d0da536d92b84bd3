import VectorFamily.Proofs.Specialization.Fitting
import VectorFamily.Proofs.Specialization.Lines
import VectorFamily.Proofs.Specialization.PrunedRows

/-!
# The included interface

The canonical implementation includes the canonical interface, and what is made of it for a profile
includes the interface that is made for the same profile. The characters that set a directive off
from the text around it, and the label off from the directive, are taken by no pattern, so that a
rule treats the label by itself (`replaceAll_around_directive`). One rule finds something in it; the
rules before find nothing in the canonical label, and those behind nothing in that of a profile.
-/

namespace VectorFamily

open Text (rows)

namespace Specialization

/-- What stands between the characters that set a directive and its label off. -/
def includeWord : Text := "include ".toList

def directive (l : Text) : Text := '#' :: includeWord ++ '"' :: l ++ ['"']

theorem newline_not_mem_directive {l : Text} (hl : '\n' ∉ l) : '\n' ∉ directive l := by
  have hword : '\n' ∉ includeWord := by decide
  simp [directive, hword, hl]

/-- Where a row of a text includes `l`, a row of what is made of the text includes `l'`. The
directive still starts its row, or ends it, if it did before. -/
def Redirects (f : Text → Text) (l l' : Text) : Prop :=
  ∀ t pre post, pre ++ directive l ++ post ∈ rows t → ∃ pre' post',
    pre' ++ directive l' ++ post' ∈ rows (f t) ∧ (pre = [] → pre' = []) ∧ (post = [] → post' = [])

namespace Redirects

variable {f g : Text → Text} {l l' m : Text}

theorem id (l : Text) : Redirects (fun t => t) l l :=
  fun _ pre post h => ⟨pre, post, h, fun h => h, fun h => h⟩

theorem comp (hg : Redirects g l' m) (hf : Redirects f l l') :
    Redirects (fun t => g (f t)) l m := by
  intro t pre post h
  obtain ⟨pre₁, post₁, h₁, hpre₁, hpost₁⟩ := hf t pre post h
  obtain ⟨pre₂, post₂, h₂, hpre₂, hpost₂⟩ := hg (f t) pre₁ post₁ h₁
  exact ⟨pre₂, post₂, h₂, hpre₂ ∘ hpre₁, hpost₂ ∘ hpost₁⟩

/-- Where all rows stay nothing is redirected. -/
theorem of_subset (h : ∀ t, ∀ row ∈ rows t, row ≠ [] → row ∈ rows (f t)) : Redirects f l l := by
  intro t pre post hmem
  exact ⟨pre, post, h t _ hmem (by simp [directive]), fun h => h, fun h => h⟩

theorem rewrite {rules : List Rule} (h : ∀ r ∈ rules, Redirects (fun t => (r.apply t).1) l l) :
    Redirects (Rule.rewrite rules) l l := by
  induction rules with
  | nil => exact Redirects.id l
  | cons r rules ih =>
    obtain ⟨hr, hrules⟩ := List.forall_mem_cons.1 h
    exact (ih hrules).comp hr

/-- What includes `l` somewhere is made into what includes `l'`. -/
theorem infix_of_infix (h : Redirects f l l') (hl : '\n' ∉ l) {t : Text}
    (ht : directive l <:+: t) : directive l' <:+: f t := by
  obtain ⟨x, y, rfl⟩ := ht
  obtain ⟨pre, post, hmem, -, -⟩ := Text.exists_row_around (newline_not_mem_directive hl) x y
  obtain ⟨pre', post', hmem', -, -⟩ := h _ pre post hmem
  exact List.IsInfix.trans ⟨pre', post', rfl⟩ (Text.infix_of_mem_rows hmem')

end Redirects

end Specialization

/-! ### Replacing around a directive -/

open VectorFamily.Specialization (includeWord directive newline_not_mem_directive Redirects)

namespace Pattern

/-- The pattern takes no character that sets a directive or a label off, and it finds nothing in the
word between them. -/
structure PassesDirectives (p : Pattern) : Prop where
  hash : p.StopsAt '#'
  quote : p.StopsAt '"'
  line : p.StaysInLine
  empty : p.match? none [] = none
  word : p.find? includeWord = none

instance (p : Pattern) : Decidable p.PassesDirectives :=
  decidable_of_iff (p.StopsAt '#' ∧ p.StopsAt '"' ∧ p.StaysInLine ∧ p.match? none [] = none ∧
      p.find? includeWord = none)
    ⟨fun ⟨hhash, hquote, hline, hempty, hword⟩ => ⟨hhash, hquote, hline, hempty, hword⟩,
      fun h => ⟨h.hash, h.quote, h.line, h.empty, h.word⟩⟩

variable {p : Pattern} (hp : p.PassesDirectives) (render : Hit → Text)
include hp

theorem replaceAll_around_directive (pre l post : Text) :
    (p.replaceAll render (pre ++ directive l ++ post)).1 =
      (p.replaceAll render pre).1 ++ directive (p.replaceAll render l).1 ++
        (p.replaceAll render post).1 := by
  have hcut : ∀ pre l post : Text, pre ++ directive l ++ post =
      pre ++ '#' :: (includeWord ++ '"' :: (l ++ '"' :: post)) := by
    simp [directive]
  rw [hcut, hcut, replaceAll_append_cons hp.hash.cutsAt, replaceAll_append_cons hp.quote.cutsAt,
    replaceAll_append_cons hp.quote.cutsAt, replaceAll_of_find?_none hp.word]

/-- If something is replaced in the label, the directive includes what it becomes. -/
theorem redirects_replaceAll {l : Text} (hl : '\n' ∉ (p.replaceAll render l).1) :
    Redirects (fun t => (p.replaceAll render t).1) l (p.replaceAll render l).1 := by
  intro t pre post hmem
  have hsubset := Text.rows_subset_of_cut (f := fun t => (p.replaceAll render t).1)
    (replaceAll_append_newline hp.line render) hmem
  have hempty := replaceAll_empty hp.empty render
  rw [replaceAll_around_directive hp] at hsubset
  obtain ⟨pre', post', hmem', hpre, hpost⟩ :=
    Text.exists_row_around (newline_not_mem_directive hl) (p.replaceAll render pre).1
      (p.replaceAll render post).1
  exact ⟨pre', post', hsubset hmem', fun h => hpre (by rw [h, hempty]),
    fun h => hpost (by rw [h, hempty])⟩

end Pattern

namespace Edit

variable {l : Text}

theorem redirects_substituteAll {action : Action} {ps : List Pattern} (hl : '\n' ∉ l)
    (hps : ∀ p ∈ ps, p.PassesDirectives ∧ p.find? l = none) :
    Redirects (fun t => (substituteAll action ps t).1) l l := by
  induction ps with
  | nil => exact Redirects.id l
  | cons p ps ih =>
    obtain ⟨⟨hp, hnone⟩, hps⟩ := List.forall_mem_cons.1 hps
    have hlabel := Pattern.replaceAll_of_find?_none hnone action.render
    have hfirst := Pattern.redirects_replaceAll hp action.render (hlabel.symm ▸ hl)
    rw [hlabel] at hfirst
    simp only [substituteAll_cons_fst]
    exact (ih hps).comp hfirst

theorem redirects_insertLines (anchor : Pattern) (text : Text) :
    Redirects (fun t => (insertLines anchor text t).1) l l := by
  refine Redirects.of_subset fun t row hrow _ => ?_
  cases hfind : anchor.find? t with
  | none => rwa [insertLines_of_find?_none hfind]
  | some found =>
    obtain ⟨before, h, after⟩ := found
    rw [← List.take_append_drop (rows (before ++ h.text)).length (rows t)] at hrow
    rw [rows_insertLines text hfind]
    rcases List.mem_append.1 hrow with hrow | hrow
    · exact List.mem_append_left _ (List.mem_append_left _ hrow)
    · exact List.mem_append_right _ hrow

theorem redirects_addLine {line : Text} (hline : '\n' ∉ line) : Redirects (addLine line) l l := by
  refine Redirects.of_subset fun t row hrow hne => ?_
  rw [rows_addLine hline]
  exact List.mem_append_left _ (Text.mem_trimRows hrow hne)

end Edit

/-! ### Before the label is replaced -/

namespace Specialization

def canonicalLabel : Text := "VectorD.h".toList

/-- The rules in front of the one that replaces the label. -/
def rulesToLabel (s : Specialization) : List Rule := s.tokenRules ++ s.metadataRules.take 2

def labelRule (p : Profile) : Rule where
  name := "metadata.include-label"
  stage := .metadataSubstitution
  scope := .only .implementation
  expect := .matchIn (.only .implementation)
  edit := literal ({} : Conventions).includeLabel p.includeLabel

def rulesFromLabel (s : Specialization) : List Rule :=
  (booleanRules ++ s.castRules ++ streamRules ++ s.exportRules).filter
    (·.applies (s.context .implementation))

variable {p : Profile} {keep : Bool}

theorem rulesFor_implementation : rulesFor ⟨{}, p, keep⟩ .implementation =
    rulesToLabel ⟨{}, p, keep⟩ ++ labelRule p :: rulesFromLabel ⟨{}, p, keep⟩ := by
  have hfront : (tokenRules ⟨{}, p, keep⟩ ++ metadataRules ⟨{}, p, keep⟩).filter
      (·.applies (context ⟨{}, p, keep⟩ .implementation)) =
        rulesToLabel ⟨{}, p, keep⟩ ++ [labelRule p] :=
    rfl
  simp only [rulesFor, rules, rulesFromLabel, List.append_assoc, List.filter_append] at hfront ⊢
  rw [← List.append_assoc, hfront]
  simp

theorem redirects_rulesToLabel :
    Redirects (Rule.rewrite (rulesToLabel ⟨{}, p, keep⟩)) canonicalLabel canonicalLabel := by
  have hpatterns : ∀ q ∈ [Pattern.token ({} : Conventions).symbol.toList,
      ({} : Conventions).classNamePattern,
      Pattern.token ({} : Conventions).defaultLiteral.toList,
      Pattern.token ({} : Conventions).byteSizeNote.toList,
      Pattern.token ({} : Conventions).rangeNote.toList],
      q.PassesDirectives ∧ q.find? canonicalLabel = none := by
    decide
  have hedit : ∀ r ∈ rulesToLabel ⟨{}, p, keep⟩, ∃ q action, r.edit = .substitute [q] action ∧
      q.PassesDirectives ∧ q.find? canonicalLabel = none := by
    intro r hr
    simp only [rulesToLabel, tokenRules, metadataRules, List.take_succ_cons, List.take_zero,
      List.cons_append, List.nil_append, List.mem_cons, List.not_mem_nil, or_false] at hr
    rcases hr with rfl | rfl | rfl | rfl | rfl <;>
      exact ⟨_, _, rfl, hpatterns _ (by simp)⟩
  refine Redirects.rewrite fun r hr => ?_
  obtain ⟨q, action, he, hq⟩ := hedit r hr
  simp only [Rule.apply, he, Edit.apply]
  exact Edit.redirects_substituteAll (by decide) (List.forall_mem_singleton.2 hq)

theorem redirects_labelRule (hlabel : '\n' ∉ p.includeLabel.toList) :
    Redirects (fun t => ((labelRule p).apply t).1) canonicalLabel p.includeLabel.toList := by
  have hpasses : (Pattern.token canonicalLabel).PassesDirectives := by decide
  have hreplaced := (Pattern.recognizes_token canonicalLabel).replaceAll_self
    (Pattern.solid_token (by decide)) (List.mem_singleton_self _) (by decide)
    (Action.replace p.includeLabel.toList).render
  have hredirects := Pattern.redirects_replaceAll hpasses
    (Action.replace p.includeLabel.toList).render (l := canonicalLabel)
  rw [hreplaced] at hredirects
  simp only [Rule.apply, labelRule, literal, Edit.apply, Edit.substituteAll_singleton]
  exact hredirects hlabel

/-! ### Behind it -/

/-- The patterns behind the label but for that of the export token. -/
def patternsFromLabel : List Pattern :=
  prunedPatterns ++ perField mixedExpression ++
    [streamedField, Pattern.token "std::ostream&".toList]

/-- Each of them needs a character that no label has. -/
theorem needs_of_mem_patternsFromLabel : ∀ q ∈ patternsFromLabel, q.PassesDirectives ∧
    (q.Needs ';' ∨ q.Needs ' ' ∨ q.Needs ':') := by
  decide

section
variable {fileTag : String} (htag : IsTag fileTag)
include htag

theorem not_mem_includeLabelFor {c : Char} (hc : Unicode.isAsciiWord c = false ∧ c ≠ '.') :
    c ∉ (({} : Conventions).includeLabelFor fileTag).toList := by
  intro hmem
  rcases isAsciiWord_or_dot_includeLabelFor htag c hmem with hword | hdot
  · rw [hc.1] at hword
    cases hword
  · exact hc.2 hdot

theorem redirects_patternsFromLabel {ps : List Pattern} (hps : ps ⊆ patternsFromLabel)
    (action : Action) : Redirects (fun t => (Edit.substituteAll action ps t).1)
      (({} : Conventions).includeLabelFor fileTag).toList
      (({} : Conventions).includeLabelFor fileTag).toList := by
  refine Edit.redirects_substituteAll (not_mem_includeLabelFor htag (by decide)) fun q hq => ?_
  obtain ⟨hpasses, hneeds⟩ := needs_of_mem_patternsFromLabel q (hps hq)
  refine ⟨hpasses, ?_⟩
  rcases hneeds with hneeds | hneeds | hneeds
  all_goals exact hneeds.find?_eq_none (not_mem_includeLabelFor htag (by decide))

theorem redirects_exportRule (hne : fileTag ≠ "D") :
    Redirects (fun t => ((exportRule {}).apply t).1)
      (({} : Conventions).includeLabelFor fileTag).toList
      (({} : Conventions).includeLabelFor fileTag).toList := by
  have hpasses : (exportPattern {}).PassesDirectives := by decide
  have hfree := tokenFree_includeLabel htag hne (List.mem_cons_self : Slot.exportWord ∈ Slot.words)
  simp only [apply_exportRule, ← Edit.substituteAll_singleton]
  exact Edit.redirects_substituteAll (not_mem_includeLabelFor htag (by decide))
    (List.forall_mem_singleton.2 ⟨hpasses, find?_exportPattern_of_tokenFree hfree⟩)

end

theorem redirects_rulesFromLabel (htag : IsTag p.fileTag) (hne : p.fileTag ≠ "D") :
    Redirects (Rule.rewrite (rulesFromLabel ⟨{}, p, keep⟩))
      (({} : Conventions).includeLabelFor p.fileTag).toList
      (({} : Conventions).includeLabelFor p.fileTag).toList := by
  refine Redirects.rewrite fun r hr => ?_
  have hr := (List.mem_filter.1 hr).1
  rw [castRules_eq, streamRules_eq, exportRules_eq] at hr
  simp only [List.mem_append, List.mem_cons, List.not_mem_nil, or_false] at hr
  rcases hr with ((hr | rfl | rfl | rfl) | rfl | rfl) | rfl
  · obtain ⟨ps, hps, happly⟩ := apply_of_mem_booleanRules hr
    have hsubset : ps ⊆ patternsFromLabel :=
      fun q hq => List.mem_append_left _ (List.mem_append_left _ (hps hq))
    simp only [happly]
    exact redirects_patternsFromLabel htag hsubset _
  · have hsubset : perField mixedExpression ⊆ patternsFromLabel :=
      fun q hq => List.mem_append_left _ (List.mem_append_right _ hq)
    simp only [apply_wrapRule]
    exact redirects_patternsFromLabel htag hsubset _
  · simp only [apply_helperRule]
    exact Edit.redirects_insertLines _ _
  · simp only [apply_scopeRule]
    exact Edit.redirects_addLine (by decide)
  · simp only [apply_printableRule, ← Edit.substituteAll_singleton]
    exact redirects_patternsFromLabel htag (by simp [patternsFromLabel]) _
  · simp only [apply_wideRule, ← Edit.substituteAll_singleton]
    exact redirects_patternsFromLabel htag (by simp [patternsFromLabel]) _
  · exact redirects_exportRule htag hne

/-! ### The whole run -/

section
variable (hlabel : p.includeLabel = ({} : Conventions).includeLabelFor p.fileTag)
  (htag : IsTag p.fileTag) (hne : p.fileTag ≠ "D")
include hlabel htag hne

theorem redirects_rulesFor : Redirects (Rule.rewrite (rulesFor ⟨{}, p, keep⟩ .implementation))
    canonicalLabel p.includeLabel.toList := by
  have hline : '\n' ∉ p.includeLabel.toList := hlabel ▸ not_mem_includeLabelFor htag (by decide)
  have hbehind : Redirects (Rule.rewrite (rulesFromLabel ⟨{}, p, keep⟩)) p.includeLabel.toList
      p.includeLabel.toList := hlabel ▸ redirects_rulesFromLabel htag hne
  have hsteps : Rule.rewrite (rulesFor ⟨{}, p, keep⟩ .implementation) = fun t =>
      Rule.rewrite (rulesFromLabel ⟨{}, p, keep⟩)
        ((labelRule p).apply (Rule.rewrite (rulesToLabel ⟨{}, p, keep⟩) t)).1 := by
    funext t
    rw [rulesFor_implementation, Rule.rewrite_append, Rule.rewrite_cons]
  rw [hsteps]
  exact (hbehind.comp (redirects_labelRule hline)).comp redirects_rulesToLabel

omit htag in
/-- A run that succeeds has left no canonical label, so nothing that includes it. -/
theorem not_includes_canonical_of_run {kind : ArtifactKind} {source out : Text}
    (hrun : run ⟨{}, p, keep⟩ kind source = .ok out) : ¬ directive canonicalLabel <:+: out := by
  have hother : ({} : Conventions).includeLabel ≠ p.includeLabel := by
    rw [hlabel]
    intro h
    have hlists := congrArg String.toList h
    rw [Conventions.includeLabel, toList_includeLabelFor, toList_includeLabelFor,
      List.append_cancel_right_eq, List.append_cancel_left_eq] at hlists
    exact hne (String.toList_inj.1 hlists).symm
  have hmem : Pattern.token canonicalLabel ∈ placeholders ⟨{}, p, keep⟩ :=
    List.mem_cons_of_mem _ (List.mem_map.2 ⟨(({} : Conventions).includeLabel, p.includeLabel),
      List.mem_filter.2 ⟨by simp [replacements], by simpa using hother⟩, rfl⟩)
  have hfree := Pattern.find?_token_eq_none_iff.1 ((run_eq_ok_iff.1 hrun).2 _ hmem)
  rintro ⟨x, y, rfl⟩
  refine hfree (x ++ '#' :: includeWord ++ ['"']) ('"' :: y) (by simp [directive]) ?_
  rw [List.getLast?_concat, List.head?_cons]
  decide

end

/-- The implementation of a profile includes the interface of the same profile wherever the
canonical one includes the canonical interface, in a row of its own if it did so there, and the
canonical interface nowhere. -/
theorem includes_interface_of_run {ps : List Profile} {r : Registry}
    (hr : Registry.new {} ps = .ok r) {p : Profile} (hp : p ∈ r.profiles) {keep : Bool}
    {source out : Text} (hrun : run ⟨{}, p, keep⟩ .implementation source = .ok out) :
    let canonical := directive "VectorD.h".toList
    let emitted := directive (artifactFileName {} p .interface).toList
    (canonical <:+: source → emitted <:+: out) ∧
    (∀ pre post, pre ++ canonical ++ post ∈ rows source → ∃ pre' post',
      pre' ++ emitted ++ post' ∈ rows out ∧ (pre = [] → pre' = []) ∧ (post = [] → post' = [])) ∧
    ¬ canonical <:+: out := by
  obtain ⟨-, rfl, -, haccepted⟩ := Registry.new_eq_ok_iff.1 hr
  have hwf := Registry.accepted_iff_wellFormed.1 haccepted
  have htag := (hwf.profiles p hp).fileTag
  have hne : p.fileTag ≠ "D" := fun h => (hwf.notReserved p hp).1 (by rw [h])
  have hlabel : p.includeLabel = artifactFileName {} p .interface := haccepted.labels p hp
  have hredirects : Redirects (Rule.rewrite (rulesFor ⟨{}, p, keep⟩ .implementation))
      canonicalLabel p.includeLabel.toList := redirects_rulesFor hlabel htag hne
  rw [← hlabel]
  refine ⟨fun hin => ?_, fun pre post hrow => ?_, not_includes_canonical_of_run hlabel hne hrun⟩
  · rw [← rewrite_of_run hrun]
    exact hredirects.infix_of_infix (by decide) hin
  · rw [← rewrite_of_run hrun]
    exact hredirects source pre post hrow

/-- The implementation for booleans has a row that includes `VectorB.h`. -/
theorem includes_interface_of_run_bool :
    Registry.new {} [boolProfile] = .ok (.single {} boolProfile) ∧
    run ⟨{}, boolProfile, true⟩ .implementation stepSource = .ok stepOutput ∧
    directive "VectorD.h".toList <:+: stepSource ∧ directive "VectorD.h".toList ∈ rows stepSource ∧
    directive "VectorB.h".toList <:+: stepOutput ∧
    directive "VectorB.h".toList ∈ rows stepOutput := by
  have hr : Registry.new {} [boolProfile] = .ok (.single {} boolProfile) := by decide
  have hin : directive "VectorD.h".toList <:+: stepSource := by decide +kernel
  have hrow : directive "VectorD.h".toList ∈ rows stepSource := by decide +kernel
  have hincludes := includes_interface_of_run hr (p := boolProfile) (by decide) run_stepSource
  obtain ⟨pre, post, hmem, hpre, hpost⟩ :=
    hincludes.2.1 [] [] ((List.append_nil (directive "VectorD.h".toList)).symm ▸ hrow)
  rw [hpre rfl, hpost rfl, List.nil_append, List.append_nil] at hmem
  exact ⟨hr, run_stepSource, hin, hrow, hincludes.1 hin, hmem⟩

end Specialization

end VectorFamily
