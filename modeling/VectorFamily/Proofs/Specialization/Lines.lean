import VectorFamily.Proofs.Registry.Accepted
import VectorFamily.Proofs.Rule.Lines
import VectorFamily.Proofs.Specialization.Rules

/-!
# Specialization line by line

All rules but two rewrite an artifact row by row, if no value of the profile has a line feed.
-/

namespace VectorFamily

open Text (LineLocal rows rows_append_newline rows_of_not_mem trimRows)

namespace Specialization

/-- No value that a rule puts into an artifact has a line feed. -/
structure SingleLine (p : Profile) : Prop where
  symbol : '\n' ∉ p.symbol.toList
  classTag : '\n' ∉ p.classTag.toList
  defaultLiteral : '\n' ∉ p.defaultLiteral.toList
  range : '\n' ∉ p.range.toList
  includeLabel : '\n' ∉ p.includeLabel.toList

theorem newline_not_mem_of_tagDefect? {tag : String} (h : tagDefect? tag = none) :
    '\n' ∉ tag.toList :=
  fun hc => absurd (isAsciiWord_of_tagDefect?_eq_none h _ hc) (by decide)

theorem singleLine_of_mem {ps : List Profile} {r : Registry} (hr : Registry.new {} ps = .ok r)
    {p : Profile} (hp : p ∈ r.profiles) (hsymbol : '\n' ∉ p.symbol.toList)
    (hliteral : '\n' ∉ p.defaultLiteral.toList) (hrange : '\n' ∉ p.range.toList) :
    SingleLine p := by
  obtain ⟨-, rfl, -, haccepted⟩ := Registry.new_eq_ok_iff.1 hr
  obtain ⟨hclass, hfile, -⟩ := Profile.check_eq_ok_iff.1 (haccepted.profiles p hp)
  refine ⟨hsymbol, newline_not_mem_of_tagDefect? hclass, hliteral, hrange, ?_⟩
  have hstem : '\n' ∉ ("Vector" ++ p.fileTag ++ "." ++ "h").toList := by
    simp [newline_not_mem_of_tagDefect? hfile]
  rw [haccepted.labels p hp]
  exact hstem

theorem newline_not_mem_byteSizeNote (p : Profile) : '\n' ∉ p.byteSizeNote.toList := by
  have hdigits : '\n' ∉ Nat.toDigits 10 p.byteSize := by
    intro hc
    exact absurd (Nat.isDigit_of_mem_toDigits (by decide) (by decide) hc) (by decide)
  simp [Profile.byteSizeNote, hdigits]

section
variable {p : Profile} {keepExport : Bool}

theorem staysInLine_literal {placeholder replacement : String} (hp : '\n' ∉ placeholder.toList)
    (hne : placeholder.toList ≠ []) (hr : '\n' ∉ replacement.toList) :
    (literal placeholder replacement).StaysInLine := by
  refine ⟨?_, hr⟩
  intro p hmem
  obtain rfl := List.mem_singleton.1 hmem
  exact ⟨Pattern.staysInLine_token hp, Pattern.match?_nil_of_solid (Pattern.solid_token hne)⟩

theorem newline_not_mem_protect {t : Text} (ht : '\n' ∉ t) : '\n' ∉ Expansion.protect t := by
  intro hc
  obtain ⟨c, hmem, hc⟩ := List.mem_flatMap.1 hc
  split at hc
  · simp at hc
  · obtain rfl := List.mem_singleton.1 hc
    exact ht hmem

theorem staysInLine_of_mem_tokenRules (hp : SingleLine p) {r : Rule}
    (hr : r ∈ tokenRules ⟨{}, p, keepExport⟩) : r.edit.StaysInLine := by
  simp only [tokenRules, List.mem_cons, List.not_mem_nil, or_false] at hr
  rcases hr with rfl | rfl | rfl
  · exact staysInLine_literal (by decide) (by decide) hp.symbol
  · refine ⟨by decide, ?_⟩
    have hfront : '\n' ∉ Expansion.protect "Vector".toList ++ "$\x7barity\x7d".toList := by decide
    intro hc
    rcases List.mem_append.1 hc with hc | hc
    · exact hfront hc
    · exact newline_not_mem_protect hp.classTag hc
  · exact staysInLine_literal (by decide) (by decide) hp.defaultLiteral

theorem staysInLine_of_mem_metadataRules (hp : SingleLine p) {r : Rule}
    (hr : r ∈ metadataRules ⟨{}, p, keepExport⟩) : r.edit.StaysInLine := by
  have hrange : '\n' ∉ p.rangeNote.toList := by simp [Profile.rangeNote, hp.range]
  simp only [metadataRules, List.mem_cons, List.not_mem_nil, or_false] at hr
  rcases hr with rfl | rfl | rfl
  · exact staysInLine_literal (by decide) (by decide) (newline_not_mem_byteSizeNote p)
  · exact staysInLine_literal (by decide) (by decide) hrange
  · exact staysInLine_literal (by decide) (by decide) hp.includeLabel

theorem staysInLine_of_mem_booleanRules {r : Rule} (hr : r ∈ booleanRules) :
    r.edit.StaysInLine := by
  simp only [booleanRules, List.mem_cons, List.not_mem_nil, or_false] at hr
  rcases hr with rfl | rfl | rfl <;> exact ⟨by decide, trivial⟩

theorem staysInLine_wrapRule : wrapRule.edit.StaysInLine :=
  ⟨by decide, by decide, by decide⟩

theorem staysInLine_of_mem_streamRules {r : Rule} (hr : r ∈ streamRules) :
    r.edit.StaysInLine := by
  simp only [streamRules, List.mem_cons, List.not_mem_nil, or_false] at hr
  rcases hr with rfl | rfl
  · have htemplate : '\n' ∉ "<< (int)$field".toList := by decide
    exact ⟨by decide, htemplate⟩
  · exact staysInLine_literal (by decide) (by decide) (by decide)

theorem staysInLine_of_mem_exportRules {r : Rule} (hr : r ∈ exportRules ⟨{}, p, keepExport⟩) :
    r.edit.StaysInLine := by
  have hpattern : (exportPattern {}).StaysInLine ∧ (exportPattern {}).match? none [] = none := by
    decide
  obtain rfl := List.mem_singleton.1 hr
  refine ⟨?_, trivial⟩
  intro q hq
  obtain rfl := List.mem_singleton.1 hq
  exact hpattern

/-- The rules that run before the first line is added, on an artifact with casts. -/
def rulesToCasts (s : Specialization) (kind : ArtifactKind) : List Rule :=
  s.earlyRules kind ++ [wrapRule]

theorem lineLocal_early (hp : SingleLine p) (kind : ArtifactKind) :
    ∀ r ∈ earlyRules ⟨{}, p, keepExport⟩ kind, r.edit.StaysInLine := by
  intro r hr
  have hr := (List.mem_filter.1 hr).1
  simp only [List.mem_append] at hr
  rcases hr with (hr | hr) | hr
  · exact staysInLine_of_mem_tokenRules hp hr
  · exact staysInLine_of_mem_metadataRules hp hr
  · exact staysInLine_of_mem_booleanRules hr

theorem lineLocal_late (kind : ArtifactKind) :
    ∀ r ∈ lateRules ⟨{}, p, keepExport⟩ kind, r.edit.StaysInLine := by
  intro r hr
  rcases List.mem_append.1 (List.mem_filter.1 hr).1 with hr | hr
  · exact staysInLine_of_mem_streamRules hr
  · exact staysInLine_of_mem_exportRules hr

end

/-- What becomes of the rows of an artifact when a profile of an accepted registry is made from the
default template. Without casts every row is rewritten by itself. With casts the rows of the helper
are put behind the row on which the directive that includes the interface ends, and the row that
takes the helper back comes last; a last row that is empty by then gives its place to it, as the
row behind a final line feed does. -/
theorem rows_of_run {ps : List Profile} {r : Registry} (hr : Registry.new {} ps = .ok r)
    {p : Profile} (hp : p ∈ r.profiles) (hsymbol : '\n' ∉ p.symbol.toList)
    (hliteral : '\n' ∉ p.defaultLiteral.toList) (hrange : '\n' ∉ p.range.toList)
    {keepExport : Bool} {kind : ArtifactKind} {source out : Text}
    (hrun : run ⟨{}, p, keepExport⟩ kind source = .ok out) :
    (¬ castsIn ⟨{}, p, keepExport⟩ kind →
      let line := Rule.rewrite (rulesFor ⟨{}, p, keepExport⟩ kind)
      line [] = [] ∧ rows out = (rows source).map line) ∧
    (castsIn ⟨{}, p, keepExport⟩ kind →
      let early := Rule.rewrite (rulesToCasts ⟨{}, p, keepExport⟩ kind)
      let late := Rule.rewrite (lateRules ⟨{}, p, keepExport⟩ kind)
      early [] = [] ∧ late [] = [] ∧
      ∃ before h after,
        (includeDirective p.includeLabel).find? (early source) = some (before, h, after) ∧
        let body := (rows source).map early
        let n := (rows (before ++ h.text)).length
        rows out = (trimRows (body.take n ++ [[], helperLine p.symbol] ++ body.drop n) ++
          [scopeLine, []]).map late) := by
  have hs := singleLine_of_mem hr hp hsymbol hliteral hrange
  constructor
  · intro hcasts
    have hall : LineLocal (Rule.rewrite (rulesFor ⟨{}, p, keepExport⟩ kind)) := by
      refine Rule.lineLocal_rewrite fun r hr => ?_
      rw [rulesFor_of_not_castsIn hcasts] at hr
      rcases List.mem_append.1 hr with hr | hr
      · exact lineLocal_early hs kind r hr
      · exact lineLocal_late kind r hr
    refine ⟨hall.empty, ?_⟩
    rw [← rewrite_of_run hrun, hall.rows_apply]
  · intro hcasts
    have hrules : rulesFor ⟨{}, p, keepExport⟩ kind = rulesToCasts ⟨{}, p, keepExport⟩ kind ++
        helperRule p :: scopeRule :: lateRules ⟨{}, p, keepExport⟩ kind := by
      rw [rulesFor_of_castsIn hcasts, castRules_eq]
      simp [rulesToCasts]
    have hbefore : LineLocal (Rule.rewrite (rulesToCasts ⟨{}, p, keepExport⟩ kind)) := by
      refine Rule.lineLocal_rewrite fun r hr => ?_
      rcases List.mem_append.1 hr with hr | hr
      · exact lineLocal_early hs kind r hr
      · obtain rfl := List.mem_singleton.1 hr
        exact staysInLine_wrapRule
    have hlate : LineLocal (Rule.rewrite (lateRules ⟨{}, p, keepExport⟩ kind)) :=
      Rule.lineLocal_rewrite (lineLocal_late kind)
    -- the rule of the helper has to hit here, so the run has found its anchor
    have happlied := applyAll_of_run hrun
    have hrewrite := rewrite_of_run hrun
    rw [hrules] at happlied hrewrite
    have hhits := Rule.hits_of_applyAll happlied (by rw [hcasts.1]; rfl)
    rw [apply_helperRule] at hhits
    cases hfind : (includeDirective p.includeLabel).find?
        (Rule.rewrite (rulesToCasts ⟨{}, p, keepExport⟩ kind) source) with
    | none => simp [Edit.insertLines, hfind] at hhits
    | some found =>
      obtain ⟨before, h, after⟩ := found
      have hhelper : '\n' ∉ helperLine p.symbol := by
        simp [helperLine, castHelper, hs.symbol]
      have hlines : rows ('\n' :: helperLine p.symbol) = [[], helperLine p.symbol] := by
        rw [← List.nil_append ('\n' :: _), rows_append_newline, rows_of_not_mem hhelper]
        rfl
      refine ⟨hbefore.empty, hlate.empty, before, h, after, hfind, ?_⟩
      rw [← hrewrite, Rule.rewrite_append, Rule.rewrite_cons, Rule.rewrite_cons, apply_helperRule,
        apply_scopeRule, hlate.rows_apply, Edit.rows_addLine (by decide),
        Edit.rows_insertLines _ hfind, hbefore.rows_apply, hlines]

def boolProfile : Profile where
  symbol := "bool"
  classTag := "b"
  fileTag := "B"
  defaultLiteral := "false"
  byteSize := 1
  range := "true or false"
  includeLabel := "VectorB.h"
  category := .boolean

/-- An implementation whose last line, which no line feed ends, is a step of a field. -/
def stepSource : Text :=
  ("#include \"VectorD.h\"\nstd::double_t Vector2d Bytes: 8 " ++
    "Range: 1.7E +/- 308  precision: (15 digits)\nx / number x += number; x + v.x\n++x;").toList

/-- What is made of it: of the four lines three are left, and three are added. -/
def stepOutput : Text :=
  ("#include \"VectorB.h\"\n\n#define cast(x) static_cast<bool>(x)\n" ++
    "bool Vector2b Bytes: 1 Range: true or false\n  cast(x + v.x)\n#undef cast\n").toList

theorem run_stepSource :
    run ⟨{}, boolProfile, true⟩ .implementation stepSource = .ok stepOutput := by
  decide +kernel

theorem rows_of_run_bool :
    let early := Rule.rewrite (rulesToCasts ⟨{}, boolProfile, true⟩ .implementation)
    let late := Rule.rewrite (lateRules ⟨{}, boolProfile, true⟩ .implementation)
    Registry.new {} [boolProfile] = .ok (.single {} boolProfile) ∧
    run ⟨{}, boolProfile, true⟩ .implementation stepSource = .ok stepOutput ∧
    ∃ before h after,
      (includeDirective "VectorB.h").find? (early stepSource) = some (before, h, after) ∧
      let body := (rows stepSource).map early
      let n := (rows (before ++ h.text)).length
      rows stepOutput = (trimRows (body.take n ++ [[], helperLine "bool"] ++ body.drop n) ++
        [scopeLine, []]).map late := by
  have hr : Registry.new {} [boolProfile] = .ok (.single {} boolProfile) := by decide
  have hrows := rows_of_run hr (p := boolProfile) (by decide) (by decide) (by decide) (by decide)
    run_stepSource
  exact ⟨hr, run_stepSource, (hrows.2 ⟨rfl, rfl⟩).2.2⟩

/-- The last line is not counted with the others: with the three lines added there should be seven,
and there are six. -/
theorem length_rows_stepOutput :
    Registry.new {} [boolProfile] = .ok (.single {} boolProfile) ∧
    castsIn ⟨{}, boolProfile, true⟩ .implementation ∧
    run ⟨{}, boolProfile, true⟩ .implementation stepSource = .ok stepOutput ∧
    (trimRows (rows stepOutput)).length ≠ (trimRows (rows stepSource)).length + 3 := by
  exact ⟨by decide, ⟨rfl, rfl⟩, run_stepSource, by decide +kernel⟩

end Specialization

end VectorFamily
