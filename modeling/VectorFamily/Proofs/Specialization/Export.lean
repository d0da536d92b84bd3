import VectorFamily.Proofs.Pattern.Find
import VectorFamily.Proofs.Rule.Rewrite

/-!
# The export token

Two runs that differ only in whether the export token stays do the same up to the last rule, and
that rule takes out whole tokens: `strip` says how, without reference to patterns, and
`strip_replaceAll` that the rule does just that. `tokenFree_strip` is the other half, that taking a
token out never makes a new one of what stood around it.
-/

namespace VectorFamily

open Piece (isWordAt)

namespace Specialization

/-! ### Taking tokens out of a text -/

def frontSpace (t : Text) : Text := if t.head? = some ' ' then [' '] else []

/-- What is taken out at a position: the token with one space behind it where it stands as a whole
token, and nothing elsewhere. -/
def stripped (token : Text) (before : Option Char) (rest : Text) : Text :=
  match token.isPrefixOf? rest with
  | some post => if WholeToken before token post.head? then token ++ frontSpace post else []
  | none => []

/-- The text without its whole tokens, from a position on, where `skip` characters are left of the
last token taken out. -/
def stripFrom (token : Text) : Option Char → Nat → Text → Text
  | _, _, [] => []
  | _, skip + 1, c :: t => stripFrom token (some c) skip t
  | before, 0, c :: t =>
    match (stripped token before (c :: t)).length with
    | 0 => c :: stripFrom token (some c) 0 t
    | skip + 1 => stripFrom token (some c) skip t

/-- The text without its whole tokens, each taken out with one space behind it. -/
def strip (token t : Text) : Text := stripFrom token none 0 t

/-- The token stands nowhere in the text as a whole token. -/
def TokenFree (token t : Text) : Prop :=
  ∀ pre post, t = pre ++ token ++ post → ¬ WholeToken pre.getLast? token post.head?

section
variable {c : Conventions} {before : Option Char} {rest : Text}

theorem match?_exportPattern_eq_some {h : Hit} : (exportPattern c).match? before rest = some h ↔
    ∃ post, rest = c.exportToken.toList ++ post ∧
      WholeToken before c.exportToken.toList post.head? ∧
      h = ⟨c.exportToken.toList ++ frontSpace post, []⟩ := by
  rw [exportPattern, Pattern.match?_token_append_eq_some]
  simp only [Pattern.match?_optional, Option.some.injEq]
  constructor
  · rintro ⟨post, _, rfl, hw, rfl, rfl⟩
    exact ⟨post, rfl, hw, rfl⟩
  · rintro ⟨post, rfl, hw, rfl⟩
    exact ⟨post, _, rfl, hw, rfl, rfl⟩

theorem find?_exportPattern_of_tokenFree (ht : TokenFree c.exportToken.toList rest) :
    (exportPattern c).find? rest = none := by
  refine Pattern.find?_eq_none_of_forall fun u v h huv hm => ?_
  obtain ⟨post, rfl, hw, -⟩ := match?_exportPattern_eq_some.1 hm
  exact ht u post (by rw [huv, List.append_assoc]) hw

/-- The pattern takes what is taken out. -/
theorem stripped_eq : stripped c.exportToken.toList before rest =
    (((exportPattern c).match? before rest).map Hit.text).getD [] := by
  unfold stripped
  cases hm : (exportPattern c).match? before rest with
  | some h =>
    obtain ⟨post, rfl, hw, rfl⟩ := match?_exportPattern_eq_some.1 hm
    simp [List.isPrefixOf?_eq_some_iff_append_eq.2 rfl, hw]
  | none =>
    cases hp : c.exportToken.toList.isPrefixOf? rest with
    | none => rfl
    | some post =>
      obtain rfl := List.isPrefixOf?_eq_some_iff_append_eq.1 hp
      have hw : ¬ WholeToken before c.exportToken.toList post.head? := by
        intro hw
        rw [match?_exportPattern_eq_some.2 ⟨post, rfl, hw, rfl⟩] at hm
        cases hm
      simp [hw]

end

/-- Deleting what the pattern matches takes the whole tokens out, from any position on. -/
theorem flatMap_replaced_segmentsFrom (c : Conventions) (before : Option Char)
    (stand : Pattern.Stand) (t : Text) :
    ((exportPattern c).segmentsFrom before stand t).flatMap
        (Segment.replaced Action.delete.render) =
      stripFrom c.exportToken.toList before
        (match stand with | .apart => 0 | .inside n => n) t := by
  induction t generalizing before stand with
  | nil =>
    cases stand with
    | apart =>
      cases hm : (exportPattern c).match? before [] <;>
        simp [Pattern.segmentsFrom, hm, stripFrom, Segment.replaced, Action.render]
    | inside n => simp [Pattern.segmentsFrom, stripFrom]
  | cons d t ih =>
    have key (stand : Pattern.Stand) (hs : stand = .apart ∨ stand = .inside 0) :
        ((exportPattern c).segmentsFrom before stand (d :: t)).flatMap
            (Segment.replaced Action.delete.render) =
          stripFrom c.exportToken.toList before 0 (d :: t) := by
      rw [Pattern.segmentsFrom.eq_4 _ _ _ _ _ (by rintro n rfl; simp at hs), stripFrom,
        stripped_eq]
      cases hm : (exportPattern c).match? before (d :: t) with
      | none => simp [Segment.replaced, ih]
      | some h =>
        cases hl : h.text.length with
        | zero =>
          by_cases hs : stand = .apart <;> simp [hs, hl, Segment.replaced, ih, Action.render]
        | succ n => simp [hl, Segment.replaced, ih, Action.render]
    rcases stand with _ | _ | n
    · exact key _ (.inl rfl)
    · exact key _ (.inr rfl)
    · simp [Pattern.segmentsFrom, stripFrom, ih]

theorem strip_replaceAll (c : Conventions) (t : Text) :
    ((exportPattern c).replaceAll Action.delete.render t).1 = strip c.exportToken.toList t := by
  rw [Pattern.replaceAll_fst]
  exact flatMap_replaced_segmentsFrom c none .apart t

/-! ### No token comes of taking tokens out -/

/-- What holds while tokens are taken out: none starts in what has been written, and what is still
to be read stands behind a character of the same kind as before, or starts no word. -/
structure Stripping (token read written rest : Text) : Prop where
  free : ∀ pre post, written ++ rest = pre ++ token ++ post → pre.length < written.length →
    ¬ WholeToken pre.getLast? token post.head?
  edge : isWordAt written.getLast? = isWordAt read.getLast? ∨ isWordAt rest.head? = false

section
variable {c : Conventions} (hne : c.exportToken.toList ≠ [])
  (hw : ∀ d ∈ c.exportToken.toList, Unicode.isAsciiWord d = true)
include hne hw

theorem isWordAt_head?_token (post : Text) :
    isWordAt (c.exportToken.toList ++ post).head? = true := by
  rw [List.head?_append_of_ne_nil _ hne, List.head?_eq_some_head hne]
  exact isWord_of_isAsciiWord (hw _ (List.head_mem hne))

variable {read written rest : Text}

theorem Stripping.skip {d : Char} (h : Stripping c.exportToken.toList read written (d :: rest))
    (hm : (exportPattern c).match? read.getLast? (d :: rest) = none) :
    Stripping c.exportToken.toList (read ++ [d]) (written ++ [d]) rest := by
  refine ⟨?_, .inl (by simp)⟩
  intro pre post he hlt hwhole
  have he' : written ++ d :: rest = pre ++ (c.exportToken.toList ++ post) := by simpa using he
  by_cases hpre : pre.length < written.length
  · exact h.free pre post (by simpa using he') hpre hwhole
  -- a token that starts at the position would have been matched there
  have hlen : written.length = pre.length := by
    simp only [List.length_append, List.length_singleton] at hlt
    omega
  obtain ⟨rfl, hrest⟩ := List.append_inj he' hlen
  rcases h.edge with hedge | hedge
  · obtain ⟨hb, ha⟩ := (wholeToken_iff_of_word hne hw).1 hwhole
    rw [hedge] at hb
    rw [match?_exportPattern_eq_some.2
      ⟨post, hrest, (wholeToken_iff_of_word hne hw).2 ⟨hb, ha⟩, rfl⟩] at hm
    cases hm
  · rw [hrest, isWordAt_head?_token hne hw] at hedge
    cases hedge

theorem Stripping.take {hit : Hit}
    (h : Stripping c.exportToken.toList read written (hit.text ++ rest))
    (hm : (exportPattern c).match? read.getLast? (hit.text ++ rest) = some hit) :
    Stripping c.exportToken.toList (read ++ hit.text) written rest := by
  obtain ⟨post, hrest, hwhole, rfl⟩ := match?_exportPattern_eq_some.1 hm
  obtain ⟨hb, ha⟩ := (wholeToken_iff_of_word hne hw).1 hwhole
  have hpost : frontSpace post ++ rest = post := by simpa using hrest
  -- the token stood apart from what has been written, so no word ends there
  have hwritten : isWordAt written.getLast? = false := by
    rcases h.edge with hedge | hedge
    · rw [hedge, hb]
    · rw [List.append_assoc, isWordAt_head?_token hne hw] at hedge
      cases hedge
  refine ⟨?_, ?_⟩
  · intro pre post' he hlt hwhole'
    obtain ⟨m, hm', rfl⟩ : ∃ m, m ≠ [] ∧ written = pre ++ m := by
      rw [List.append_assoc] at he
      obtain ⟨m, rfl⟩ := List.prefix_of_prefix_length_le ⟨_, he.symm⟩ ⟨_, rfl⟩ (Nat.le_of_lt hlt)
      exact ⟨m, by rintro rfl; simp at hlt, rfl⟩
    have he' : m ++ rest = c.exportToken.toList ++ post' := by simpa using he
    -- it would end within what has been written, where it was before
    rcases List.append_eq_append_iff.1 he' with ⟨a, ha', -⟩ | ⟨a, rfl, rfl⟩
    · rw [isWordAt_getLast?_append hm' fun d hd => hw d (by simp [ha', hd])] at hwritten
      cases hwritten
    · cases a with
      | nil =>
        rw [List.append_nil, isWordAt_getLast?_append hne hw] at hwritten
        cases hwritten
      | cons d a =>
        refine h.free pre (d :: a ++ (c.exportToken.toList ++ frontSpace post ++ rest)) ?_ hlt ?_
        · simp
        · simpa using hwhole'
  · by_cases hspace : post.head? = some ' '
    · left
      have hfront : frontSpace post = [' '] := if_pos hspace
      rw [hwritten, hfront, ← List.append_assoc, List.getLast?_concat]
      rfl
    · right
      have hfront : frontSpace post = [] := if_neg hspace
      rw [hfront, List.nil_append] at hpost
      rw [hpost, ha]

theorem tokenFree_strip (t : Text) :
    TokenFree c.exportToken.toList (strip c.exportToken.toList t) := by
  have solid : (exportPattern c).Solid := by
    intro before rest h hm
    obtain ⟨post, -, -, rfl⟩ := match?_exportPattern_eq_some.1 hm
    simp [hne]
  have walk : Stripping c.exportToken.toList t
      ((exportPattern c).replaceAll Action.delete.render t).1 [] := by
    refine Pattern.replaceAll_induction solid (motive := Stripping c.exportToken.toList)
      ?skip ?take ?start
    case start => exact ⟨by simp, .inl rfl⟩
    case skip => exact fun _ _ _ _ h hm => h.skip hne hw hm
    case take =>
      intro read written h rest hstrip hm
      simpa [Action.render] using hstrip.take hne hw hm
  rw [strip_replaceAll] at walk
  intro pre post he
  refine walk.free pre post (by simpa using he) ?_
  have := List.length_pos_iff.2 hne
  simp only [he, List.length_append]
  omega

end

/-! ### Two runs -/

/-- The rules that run on an artifact before the export token is taken out. -/
def rulesBeforeExport (s : Specialization) (kind : ArtifactKind) : List Rule :=
  (s.rulesFor kind).filter (·.stage ≠ .exportStripping)

def rulesButExport (s : Specialization) : List Rule :=
  s.tokenRules ++ s.metadataRules ++ booleanRules ++ s.castRules ++ streamRules

section
variable (c : Conventions) (p : Profile) (kind : ArtifactKind)

theorem rulesButExport_spec (s : Specialization) :
    ∀ r ∈ s.rulesButExport, r.stage ≠ .exportStripping ∧ r.gate ≠ .exportDisabled := by
  have all : (s.rulesButExport.all fun r =>
      r.stage ≠ .exportStripping ∧ r.gate ≠ .exportDisabled) = true := rfl
  simpa using all

theorem applies_congr {r : Rule} (hr : r.gate ≠ .exportDisabled) (keep : Bool) :
    r.applies (context ⟨c, p, keep⟩ kind) = r.applies (context ⟨c, p, true⟩ kind) := by
  unfold Rule.applies context
  cases hg : r.gate with
  | exportDisabled => exact absurd hg hr
  | always => rfl
  | categories cs => rfl

/-- Whether the export token stays has no say in the rules before. -/
theorem rulesBeforeExport_eq (keep : Bool) : rulesBeforeExport ⟨c, p, keep⟩ kind =
    (rulesButExport ⟨c, p, true⟩).filter (·.applies (context ⟨c, p, true⟩ kind)) := by
  have hrules : rules ⟨c, p, keep⟩ = rulesButExport ⟨c, p, true⟩ ++ exportRules ⟨c, p, keep⟩ := rfl
  have hexport : (exportRules ⟨c, p, keep⟩).filter (·.stage ≠ .exportStripping) = [] := rfl
  have hbut : (rulesButExport ⟨c, p, true⟩).filter (·.stage ≠ .exportStripping) =
      rulesButExport ⟨c, p, true⟩ :=
    List.filter_eq_self.2 fun r hr => by simpa using (rulesButExport_spec _ r hr).1
  rw [rulesBeforeExport, rulesFor, List.filter_comm, hrules, List.filter_append, hexport, hbut,
    List.append_nil]
  exact List.filter_congr fun r hr => applies_congr c p kind (rulesButExport_spec _ r hr).2 keep

theorem rulesFor_eq_rulesBeforeExport (keep : Bool) : rulesFor ⟨c, p, keep⟩ kind =
    rulesBeforeExport ⟨c, p, true⟩ kind ++ if keep then [] else exportRules ⟨c, p, keep⟩ := by
  have hrules : rules ⟨c, p, keep⟩ = rulesButExport ⟨c, p, true⟩ ++ exportRules ⟨c, p, keep⟩ := rfl
  have hexport : (exportRules ⟨c, p, keep⟩).filter (·.applies (context ⟨c, p, keep⟩ kind)) =
      if keep then [] else exportRules ⟨c, p, keep⟩ := by
    cases keep <;> cases kind <;> rfl
  have hbut : (rulesButExport ⟨c, p, true⟩).filter (·.applies (context ⟨c, p, keep⟩ kind)) =
      (rulesButExport ⟨c, p, true⟩).filter (·.applies (context ⟨c, p, true⟩ kind)) :=
    List.filter_congr fun r hr => applies_congr c p kind (rulesButExport_spec _ r hr).2 keep
  rw [rulesBeforeExport_eq, rulesFor, hrules, List.filter_append, hexport, hbut]

end

/-- A run that gets past the rules ends with the text they leave, or with a placeholder that is
still in it. -/
def EndsWith (s : Specialization) (kind : ArtifactKind) (source t : Text) : Prop :=
  s.run kind source = .ok t ∨
    ∃ placeholder, s.run kind source = .error (.incomplete s.profile.classTag kind placeholder)

section
variable {c : Conventions} {p : Profile} {kind : ArtifactKind} {source : Text}

/-- All rules together leave the text that those before the last leave, without the token if that is
to go. -/
theorem applyAll_rulesFor (keep : Bool) :
    Rule.applyAll p.classTag kind (rulesFor ⟨c, p, keep⟩ kind) source =
      (Rule.applyAll p.classTag kind (rulesBeforeExport ⟨c, p, true⟩ kind) source).map
        fun t => if keep then t else strip c.exportToken.toList t := by
  rw [rulesFor_eq_rulesBeforeExport, Rule.applyAll_append]
  cases Rule.applyAll p.classTag kind (rulesBeforeExport ⟨c, p, true⟩ kind) source with
  | error e => rfl
  | ok t =>
    cases keep with
    | true => rfl
    | false =>
      show Rule.applyAll p.classTag kind (exportRules ⟨c, p, false⟩) t = .ok (strip _ t)
      rw [← strip_replaceAll]
      exact Rule.applyAll_cons_eq_ok_iff.2 ⟨(nomatch ·), rfl⟩

/-- An output is what the rules before the last leave, without the token if that is to go. -/
theorem exists_of_run {keep : Bool} {out : Text} (h : run ⟨c, p, keep⟩ kind source = .ok out) :
    ∃ t, Rule.applyAll p.classTag kind (rulesBeforeExport ⟨c, p, true⟩ kind) source = .ok t ∧
      out = if keep then t else strip c.exportToken.toList t := by
  have h := applyAll_of_run h
  rw [applyAll_rulesFor] at h
  cases hbefore : Rule.applyAll p.classTag kind (rulesBeforeExport ⟨c, p, true⟩ kind) source with
  | error e =>
    rw [hbefore] at h
    cases h
  | ok t =>
    rw [hbefore] at h
    exact ⟨t, rfl, (Except.ok.inj h).symm⟩

end

/-- Whether the export token stays makes no difference but for the token: the runs fail by the same
rule or come to the same text, of which one leaves out every whole token, and if the token is a word
then none is left. -/
theorem run_keepExport (c : Conventions) (p : Profile) (kind : ArtifactKind) (source : Text) :
    ((∃ stage rule, ∀ keep, run ⟨c, p, keep⟩ kind source =
        .error (.ruleNotApplied p.classTag kind stage rule)) ∨
      ∃ t, (∀ keep, Rule.applyAll p.classTag kind (rulesBeforeExport ⟨c, p, keep⟩ kind) source =
          .ok t) ∧
        EndsWith ⟨c, p, true⟩ kind source t ∧
        EndsWith ⟨c, p, false⟩ kind source (strip c.exportToken.toList t)) ∧
    (∀ out out', run ⟨c, p, true⟩ kind source = .ok out →
      run ⟨c, p, false⟩ kind source = .ok out' → out' = strip c.exportToken.toList out) ∧
    (c.exportToken.toList ≠ [] → (∀ d ∈ c.exportToken.toList, Unicode.isAsciiWord d = true) →
      ∀ out, run ⟨c, p, false⟩ kind source = .ok out → TokenFree c.exportToken.toList out) := by
  refine ⟨?_, ?_, ?_⟩
  · cases hbefore : Rule.applyAll p.classTag kind (rulesBeforeExport ⟨c, p, true⟩ kind) source with
    | error e =>
      obtain ⟨_, r, _, _, -, -, -, -, rfl⟩ := Rule.applyAll_eq_error_iff.1 hbefore
      refine .inl ⟨r.stage, r.name, fun keep => run_eq_error_of_applyAll ?_⟩
      rw [applyAll_rulesFor, hbefore]
      rfl
    | ok t =>
      have hend (keep : Bool) : EndsWith ⟨c, p, keep⟩ kind source
          (if keep then t else strip c.exportToken.toList t) := by
        refine run_of_applyAll ?_
        rw [applyAll_rulesFor, hbefore]
        rfl
      refine .inr ⟨t, fun keep => ?_, hend true, hend false⟩
      rw [rulesBeforeExport_eq, ← rulesBeforeExport_eq c p kind true, hbefore]
  · intro out out' hon hoff
    obtain ⟨t, ht, rfl⟩ := exists_of_run hon
    obtain ⟨t', ht', rfl⟩ := exists_of_run hoff
    rw [ht] at ht'
    cases ht'
    rfl
  · intro hne hw out hoff
    obtain ⟨t, -, rfl⟩ := exists_of_run hoff
    exact tokenFree_strip hne hw t

def floatProfile : Profile where
  symbol := "float"
  classTag := "f"
  fileTag := "F"
  defaultLiteral := "0.0f"
  byteSize := 4
  range := "3.4E"
  includeLabel := "VectorF.h"
  category := .standardNumeric

/-- A line with tokens side by side, at its end, and in a longer word. -/
def exportSource : Text :=
  ("class PFO_API PFO_API Vector2d; MY_PFO_API(PFO_API) std::double_t x = 0.0; // Bytes: 8, " ++
    "Range: 1.7E +/- 308  precision: (15 digits) PFO_API").toList

def exportKept : Text :=
  ("class PFO_API PFO_API Vector2f; MY_PFO_API(PFO_API) float x = 0.0f; // Bytes: 4, " ++
    "Range: 3.4E PFO_API").toList

def exportStripped : Text :=
  "class Vector2f; MY_PFO_API() float x = 0.0f; // Bytes: 4, Range: 3.4E ".toList

theorem run_keepExport_line :
    run ⟨{}, floatProfile, true⟩ .interface exportSource = .ok exportKept ∧
    run ⟨{}, floatProfile, false⟩ .interface exportSource = .ok exportStripped ∧
    exportStripped = strip "PFO_API".toList exportKept ∧
    TokenFree "PFO_API".toList exportStripped := by
  have hon : run ⟨{}, floatProfile, true⟩ .interface exportSource = .ok exportKept := by
    decide +kernel
  have hoff : run ⟨{}, floatProfile, false⟩ .interface exportSource = .ok exportStripped := by
    decide +kernel
  obtain ⟨-, hstrip, hfree⟩ := run_keepExport {} floatProfile .interface exportSource
  have hword : "PFO_API".toList.all Unicode.isAsciiWord = true := by decide
  exact ⟨hon, hoff, hstrip _ _ hon hoff, hfree (by decide) (List.all_eq_true.1 hword) _ hoff⟩

end Specialization

end VectorFamily
