import Mathlib.Data.List.Nodup
import VectorFamily.Proofs.Pattern.Lines
import VectorFamily.Proofs.Pattern.Spares
import VectorFamily.Proofs.Registry.Accepted
import VectorFamily.Proofs.Rule.Rewrite

/-!
# Annotations and what is replaced before them

The placeholders of metadata are replaced behind the element type, the class names and the default
literal, and those before them. `metadata_applied` says when a placeholder that stands in the source
is sure to be found by its rule: when every rule before it spares the place where it stands. No
check of a registry relates the placeholders, so a rule may well reach into another placeholder, or
change the word boundary beside it (`metadata_not_applied`); under the default conventions this is
possible only where the label of the included file stands directly behind a range annotation.
-/

namespace VectorFamily

open Piece (isWordAt)

/-- The edit replaces matches, and spares whole tokens that stand between the given characters. -/
def Edit.Spares (before : Option Char) (m : Text) (after : Option Char) : Edit → Prop
  | .substitute patterns action => ∀ p ∈ patterns, p.Spares action.render before m after
  | .insertAfterLine _ _ | .appendLine _ => False

namespace Conventions

/-- The placeholders of metadata, each behind the name of its rule. -/
def metadata (c : Conventions) : List (String × String) :=
  [("metadata.byte-size", c.byteSizeNote), ("metadata.range", c.rangeNote),
    ("metadata.include-label", c.includeLabel)]

variable {c : Conventions}

theorem toList_ne_nil_of_not_blank {s : String} (h : isBlankString s = false) : s.toList ≠ [] := by
  intro hs
  simp [isBlankString, hs, Text.isAllBlank] at h

theorem ne_nil_of_mem_metadata {name placeholder : String} (h : (name, placeholder) ∈ c.metadata) :
    placeholder.toList ≠ [] := by
  simp only [metadata, List.mem_cons, Prod.mk.injEq, List.not_mem_nil, or_false] at h
  rcases h with ⟨-, rfl⟩ | ⟨-, rfl⟩ | ⟨-, rfl⟩
  · simp [byteSizeNote]
  · simp [rangeNote]
  · simp [includeLabel, includeLabelFor]

theorem text_of_match?_classNamePattern {before : Option Char} {rest : Text} {found : Hit}
    (hm : c.classNamePattern.match? before rest = some found) :
    ∃ digits ∈ arityDigits, found.text = c.classPrefix.toList ++ digits ++ c.classTag.toList := by
  obtain ⟨-, h₁⟩ := Pattern.match?_boundary_cons_eq_some.1 hm
  obtain ⟨_, _, -, h₂, rfl⟩ := Pattern.match?_text_cons_eq_some.1 h₁
  obtain ⟨digits, _, _, hdigits, -, h₃, rfl⟩ := Pattern.match?_oneOf_cons_eq_some.1 h₂
  obtain ⟨_, _, -, h₄, rfl⟩ := Pattern.match?_text_cons_eq_some.1 h₃
  obtain ⟨-, h₅⟩ := Pattern.match?_boundary_cons_eq_some.1 h₄
  obtain rfl := Option.some.inj h₅
  exact ⟨digits, List.mem_of_find?_eq_some hdigits, by simp [Hit.after, Part.text]⟩

theorem solid_classNamePattern (c : Conventions) : c.classNamePattern.Solid := by
  intro before rest found hm
  obtain ⟨digits, hdigits, htext⟩ := text_of_match?_classNamePattern hm
  have hne : digits ≠ [] := fun he => absurd (he ▸ hdigits) (by decide)
  simp [htext, hne]

end Conventions

namespace Specialization

def rulesBefore (s : Specialization) (name : String) : List Rule :=
  s.rules.takeWhile (·.name ≠ name)

variable {c : Conventions} {p : Profile} {keep : Bool} {kind : ArtifactKind}
  {before after : Option Char} {m : Text}

theorem nodup_names_rules (s : Specialization) : (s.rules.map (·.name)).Nodup := by
  have names : s.rules.map (·.name) =
      ["token.symbol", "token.class-name", "token.default-literal", "metadata.byte-size",
        "metadata.range", "metadata.include-label", "bool.step", "bool.divide", "bool.compound",
        "cast.wrap", "cast.helper", "cast.scope", "stream.printable", "stream.wide",
        "export.strip"] :=
    rfl
  rw [names]
  decide

/-- The rules that run in front of a rule are those listed in front of it, as far as they run. -/
theorem filter_takeWhile_eq {l pre post : List Rule} {r : Rule} {f : Rule → Bool}
    (hl : (l.map (·.name)).Nodup) (h : l.filter f = pre ++ r :: post) :
    (l.takeWhile (·.name ≠ r.name)).filter f = pre := by
  induction l generalizing pre with
  | nil => simp at h
  | cons a l ih =>
    obtain ⟨ha, hl⟩ := List.nodup_cons.1 hl
    have next (hr : r ∈ l) : (a :: l).takeWhile (·.name ≠ r.name) =
        a :: l.takeWhile (·.name ≠ r.name) := by
      have hne : a.name ≠ r.name := by
        intro he
        exact ha (List.mem_map.2 ⟨r, hr, he.symm⟩)
      exact List.takeWhile_cons_of_pos (by simpa using hne)
    by_cases hf : f a = true
    · rw [List.filter_cons_of_pos hf] at h
      cases pre with
      | nil =>
        obtain rfl := (List.cons.inj h).1
        simp
      | cons b pre =>
        rw [List.cons_append, List.cons.injEq] at h
        obtain ⟨rfl, h⟩ := h
        have hr : r ∈ l := List.mem_of_mem_filter (p := f) (by simp [h])
        rw [next hr, List.filter_cons_of_pos hf, ih hl h]
    · rw [List.filter_cons_of_neg hf] at h
      have hr : r ∈ l := List.mem_of_mem_filter (p := f) (by simp [h])
      rw [next hr, List.filter_cons_of_neg hf, ih hl h]

/-! ### Rules that spare a placeholder -/

/-- The rules in front of those for metadata, and these, have one pattern each. -/
theorem exists_pattern_of_mem (hc : c.check = .ok ()) {r : Rule}
    (hr : r ∈ tokenRules ⟨c, p, keep⟩ ++ metadataRules ⟨c, p, keep⟩) :
    ∃ q action, r.edit = .substitute [q] action ∧ q.Solid := by
  obtain ⟨hblank, -⟩ := Conventions.check_eq_ok_iff.1 hc
  have solid {l : String} (hl : l.toList ≠ []) (v : String) :
      ∃ q action, literal l v = .substitute [q] action ∧ q.Solid :=
    ⟨_, _, rfl, Pattern.solid_token hl⟩
  have field {x : String × String} (hx : x ∈ c.required) : x.2.toList ≠ [] :=
    Conventions.toList_ne_nil_of_not_blank (hblank x hx)
  have note {x : String × String} (hx : x ∈ c.metadata) : x.2.toList ≠ [] :=
    Conventions.ne_nil_of_mem_metadata hx
  rcases List.mem_append.1 hr with hr | hr
  · simp only [tokenRules, List.mem_cons, List.not_mem_nil, or_false] at hr
    rcases hr with rfl | rfl | rfl
    · exact solid (field (x := ("symbol", c.symbol)) (by simp [Conventions.required])) _
    · exact ⟨_, _, rfl, c.solid_classNamePattern⟩
    · exact solid (field (x := ("default_literal", c.defaultLiteral))
        (by simp [Conventions.required])) _
  · simp only [metadataRules, List.mem_cons, List.not_mem_nil, or_false] at hr
    rcases hr with rfl | rfl | rfl
    · exact solid (note (x := ("metadata.byte-size", c.byteSizeNote))
        (by simp [Conventions.metadata])) _
    · exact solid (note (x := ("metadata.range", c.rangeNote)) (by simp [Conventions.metadata])) _
    · exact solid (note (x := ("metadata.include-label", c.includeLabel))
        (by simp [Conventions.metadata])) _

/-- What all rules spare stands where it was when they have been applied. -/
theorem standsBetween_rewrite {rules : List Rule} {t : Text}
    (hrules : ∀ r ∈ rules, ∃ q action, r.edit = .substitute [q] action ∧ q.Solid)
    (hspared : ∀ r ∈ rules, r.edit.Spares before m after) (hw : WholeToken before m after)
    (ht : StandsBetween before m after t) :
    StandsBetween before m after (Rule.rewrite rules t) := by
  refine Rule.rewrite_induction (fun r hr t ht => ?_) ht
  obtain ⟨q, action, hedit, hq⟩ := hrules r hr
  have hs := hspared r hr
  rw [hedit] at hs
  rw [Rule.apply, hedit]
  show StandsBetween before m after (Edit.substituteAll action [q] t).1
  rw [Edit.substituteAll_singleton]
  exact ht.replaceAll hq hw (hs q List.mem_cons_self)

theorem exists_of_mem_metadata {name placeholder : String}
    (h : (name, placeholder) ∈ c.metadata) (p : Profile) (keep : Bool) :
    ∃ r ∈ metadataRules ⟨c, p, keep⟩, r.name = name ∧ ∃ v, r.edit = literal placeholder v := by
  simp only [Conventions.metadata, List.mem_cons, Prod.mk.injEq, List.not_mem_nil, or_false] at h
  rcases h with ⟨rfl, rfl⟩ | ⟨rfl, rfl⟩ | ⟨rfl, rfl⟩
  · exact ⟨_, List.mem_cons_self, rfl, _, rfl⟩
  · exact ⟨_, List.mem_cons_of_mem _ List.mem_cons_self, rfl, _, rfl⟩
  · exact ⟨_, List.mem_cons_of_mem _ (List.mem_cons_of_mem _ List.mem_cons_self), rfl, _, rfl⟩

theorem rulesBefore_subset {name placeholder : String} (h : (name, placeholder) ∈ c.metadata) :
    rulesBefore ⟨c, p, keep⟩ name ⊆ tokenRules ⟨c, p, keep⟩ ++ metadataRules ⟨c, p, keep⟩ := by
  simp only [Conventions.metadata, List.mem_cons, Prod.mk.injEq, List.not_mem_nil, or_false] at h
  have hbefore : rulesBefore ⟨c, p, keep⟩ name <+:
      tokenRules ⟨c, p, keep⟩ ++ metadataRules ⟨c, p, keep⟩ := by
    rcases h with ⟨rfl, rfl⟩ | ⟨rfl, rfl⟩ | ⟨rfl, rfl⟩
    · exact ⟨metadataRules ⟨c, p, keep⟩, rfl⟩
    · exact ⟨(metadataRules ⟨c, p, keep⟩).drop 1, rfl⟩
    · exact ⟨(metadataRules ⟨c, p, keep⟩).drop 2, rfl⟩
  exact hbefore.subset

/-! ### The names of a template -/

/-- What the rules in front of those for metadata match. -/
def templateNames (c : Conventions) : List Text :=
  [c.symbol.toList, c.defaultLiteral.toList] ++
    arityDigits.map fun digits => c.classPrefix.toList ++ digits ++ c.classTag.toList

/-- The placeholder starts with a word character and ends with one or with a character that asks for
no boundary. -/
def WordEnds (m : Text) : Prop :=
  isWordAt m.head? = true ∧ (m.getLast?.any Pattern.isEdge = true → isWordAt m.getLast? = true)

instance (m : Text) : Decidable (WordEnds m) :=
  inferInstanceAs (Decidable (_ ∧ _))

theorem spares_token_of_words {l : Text} (hl : isWordAt l.head? = true ∧ isWordAt l.getLast? = true)
    (hm : WordEnds m) (hlm : Text.Apart l m) (render : Hit → Text) :
    (Pattern.token l).Spares render before m after := by
  refine Pattern.spares_of_words hm.1 hm.2 (fun _ _ found hfound => ?_) render before after
  rw [Pattern.eq_of_match?_token hfound]
  exact ⟨hlm, hl⟩

/-- Names that are words and never reach into the placeholder spare it, whatever takes their
place. -/
theorem spares_of_mem_tokenRules
    (hends : ∀ l ∈ templateNames c, isWordAt l.head? = true ∧ isWordAt l.getLast? = true)
    (hm : WordEnds m) (hnames : ∀ l ∈ templateNames c, Text.Apart l m) {r : Rule}
    (hr : r ∈ tokenRules ⟨c, p, keep⟩) : r.edit.Spares before m after := by
  have single {l : Text} (hl : l ∈ templateNames c) (render : Hit → Text) :
      (Pattern.token l).Spares render before m after :=
    spares_token_of_words (hends l hl) hm (hnames l hl) render
  simp only [tokenRules, List.mem_cons, List.not_mem_nil, or_false] at hr
  rcases hr with rfl | rfl | rfl <;> intro q hq <;> obtain rfl := List.mem_singleton.1 hq
  · exact single (by simp [templateNames]) _
  · refine Pattern.spares_of_words hm.1 hm.2 (fun _ _ found hfound => ?_) _ before after
    obtain ⟨digits, hdigits, htext⟩ := Conventions.text_of_match?_classNamePattern hfound
    have hmem : found.text ∈ templateNames c := by
      rw [htext]
      exact List.mem_append_right _ (List.mem_map_of_mem hdigits)
    exact ⟨hnames _ hmem, hends _ hmem⟩
  · exact single (by simp [templateNames]) _

/-! ### The default conventions -/

theorem apart_rangeNote_includeLabel : Text.Apart ({} : Conventions).rangeNote.toList
    ({} : Conventions).includeLabel.toList := by
  decide +kernel

theorem clearOf_rangeNote : (Pattern.token ({} : Conventions).rangeNote.toList).ClearOf
    ({} : Conventions).includeLabel.toList := by
  intro pre found post u v hm he _
  rw [Pattern.eq_of_match?_token hm] at he ⊢
  exact apart_rangeNote_includeLabel.le_or_le he

/-- The range annotation ends with a bracket, so it may stand right in front of the label of the
included file, but nowhere else. -/
theorem spares_rangeNote (hbefore : before ≠ some ')') (render : Hit → Text) :
    (Pattern.token ({} : Conventions).rangeNote.toList).Spares render before
      ({} : Conventions).includeLabel.toList after where
  apart := clearOf_rangeNote
  front := by
    intro _ pre found post hm _ hlast
    rw [Pattern.eq_of_match?_token hm] at hlast
    exact absurd hlast.symm hbefore
  back := by
    intro hedge pre found post hm hw
    have := hw.back hedge
    rw [Pattern.eq_of_match?_token hm] at this
    exact absurd (by decide) this

theorem spares_default {name placeholder : String}
    (h : (name, placeholder) ∈ ({} : Conventions).metadata)
    (hbefore : name = "metadata.include-label" → before ≠ some ')') {r : Rule}
    (hr : r ∈ rulesBefore ⟨{}, p, keep⟩ name) :
    r.edit.Spares before placeholder.toList after := by
  have names : ∀ m ∈ ({} : Conventions).metadata,
      WordEnds m.2.toList ∧ ∀ l ∈ templateNames {}, Text.Apart l m.2.toList := by decide +kernel
  obtain ⟨hends, hnames⟩ := names _ h
  have bytes : ∀ m ∈ ({} : Conventions).metadata.tail,
      Text.Apart ({} : Conventions).byteSizeNote.toList m.2.toList := by decide +kernel
  have byteEnds : isWordAt ({} : Conventions).byteSizeNote.toList.head? = true ∧
      isWordAt ({} : Conventions).byteSizeNote.toList.getLast? = true := by decide
  have early (hr : r ∈ tokenRules ⟨{}, p, keep⟩) : r.edit.Spares before placeholder.toList after :=
    spares_of_mem_tokenRules (by decide) hends hnames hr
  have byteSize (htail : (name, placeholder) ∈ ({} : Conventions).metadata.tail) :
      (literal ({} : Conventions).byteSizeNote p.byteSizeNote).Spares before placeholder.toList
        after := by
    intro q hq
    obtain rfl := List.mem_singleton.1 hq
    exact spares_token_of_words byteEnds hends (bytes _ htail) _
  simp only [Conventions.metadata, List.mem_cons, Prod.mk.injEq, List.not_mem_nil, or_false] at h
  rcases h with ⟨rfl, rfl⟩ | ⟨rfl, rfl⟩ | ⟨rfl, rfl⟩
  · exact early hr
  · rcases List.mem_append.1 (show r ∈ tokenRules ⟨{}, p, keep⟩ ++
      (metadataRules ⟨{}, p, keep⟩).take 1 from hr) with hr | hr
    · exact early hr
    · obtain rfl := List.mem_singleton.1 hr
      exact byteSize List.mem_cons_self
  · rcases List.mem_append.1 (show r ∈ tokenRules ⟨{}, p, keep⟩ ++
      (metadataRules ⟨{}, p, keep⟩).take 2 from hr) with hr | hr
    · exact early hr
    · rcases List.mem_cons.1 hr with rfl | hr
      · exact byteSize (List.mem_cons_of_mem _ List.mem_cons_self)
      · obtain rfl := List.mem_singleton.1 hr
        intro q hq
        obtain rfl := List.mem_singleton.1 hq
        exact spares_rangeNote (hbefore rfl) _

/-! ### Labels behind brackets -/

/-- The rules in front of the one for ranges see a closing bracket as an end of the text. -/
theorem exists_pattern_of_mem_rulesBefore_range {r : Rule}
    (hr : r ∈ rulesBefore ⟨{}, p, keep⟩ "metadata.range") :
    ∃ q action, r.edit = .substitute [q] action ∧ q.Solid ∧ q.CutsAt ')' := by
  have hcuts : ∀ q ∈ [Pattern.token ({} : Conventions).symbol.toList,
      ({} : Conventions).classNamePattern, Pattern.token ({} : Conventions).defaultLiteral.toList,
      Pattern.token ({} : Conventions).byteSizeNote.toList], q.StopsAt ')' := by decide
  have hrange : ("metadata.range", ({} : Conventions).rangeNote) ∈ ({} : Conventions).metadata := by
    decide
  obtain ⟨q, action, hedit, hq⟩ := exists_pattern_of_mem (by decide) (rulesBefore_subset hrange hr)
  refine ⟨q, action, hedit, hq, Pattern.StopsAt.cutsAt (hcuts q ?_)⟩
  have hmem : r ∈ tokenRules ⟨{}, p, keep⟩ ++ (metadataRules ⟨{}, p, keep⟩).take 1 := hr
  simp only [tokenRules, metadataRules, List.take_succ_cons, List.take_zero, List.mem_append,
    List.mem_cons, List.not_mem_nil, or_false] at hmem
  rcases hmem with (rfl | rfl | rfl) | rfl
  all_goals
    obtain ⟨hq, -⟩ := Edit.substitute.inj hedit
    simp [← List.singleton_inj.1 hq]

theorem rewrite_append_bracket (t u : Text) :
    Rule.rewrite (rulesBefore ⟨{}, p, keep⟩ "metadata.range") (t ++ ')' :: u) =
      Rule.rewrite (rulesBefore ⟨{}, p, keep⟩ "metadata.range") t ++
        ')' :: Rule.rewrite (rulesBefore ⟨{}, p, keep⟩ "metadata.range") u := by
  have hrules : ∀ r ∈ rulesBefore ⟨{}, p, keep⟩ "metadata.range", ∃ q action,
      r.edit = .substitute [q] action ∧ q.Solid ∧ q.CutsAt ')' :=
    fun r hr => exists_pattern_of_mem_rulesBefore_range hr
  generalize rulesBefore ⟨{}, p, keep⟩ "metadata.range" = rules at hrules
  induction rules generalizing t u with
  | nil => rfl
  | cons r rules ih =>
    obtain ⟨⟨q, action, hedit, -, hcut⟩, hrules⟩ := List.forall_mem_cons.1 hrules
    have happly : ∀ t, (r.apply t).1 = (q.replaceAll action.render t).1 := fun t => by
      rw [Rule.apply, hedit, Edit.apply, Edit.substituteAll_singleton]
    rw [Rule.rewrite_cons, Rule.rewrite_cons, Rule.rewrite_cons, happly, happly, happly,
      Pattern.replaceAll_append_cons hcut, ih _ _ hrules]

theorem rewrite_append_singleton_bracket (t : Text) :
    Rule.rewrite (rulesBefore ⟨{}, p, keep⟩ "metadata.range") (t ++ [')']) =
      Rule.rewrite (rulesBefore ⟨{}, p, keep⟩ "metadata.range") t ++ [')'] := by
  have hempty : Rule.rewrite (rulesBefore ⟨{}, p, keep⟩ "metadata.range") [] = [] := by
    refine Rule.rewrite_induction (P := fun t => t = []) (fun r hr t ht => ?_) rfl
    obtain ⟨q, action, hedit, hq, -⟩ := exists_pattern_of_mem_rulesBefore_range hr
    rw [ht, Rule.apply, hedit, Edit.apply, Edit.substituteAll_singleton]
    refine Pattern.replaceAll_empty (Option.eq_none_iff_forall_ne_some.2 fun found hm => ?_) _
    exact hq _ _ _ hm (List.prefix_nil.1 (Pattern.prefix_of_match? hm))
  rw [rewrite_append_bracket, hempty]

theorem includeLabel_mem_metadata :
    ("metadata.include-label", ({} : Conventions).includeLabel) ∈ ({} : Conventions).metadata := by
  decide

theorem rulesBefore_includeLabel (p : Profile) (keep : Bool) :
    rulesBefore ⟨{}, p, keep⟩ "metadata.include-label" =
      rulesBefore ⟨{}, p, keep⟩ "metadata.range" ++
        [{ name := "metadata.range", stage := .metadataSubstitution
           expect := .matchIn .both
           edit := literal ({} : Conventions).rangeNote p.rangeNote }] :=
  rfl

/-- A label at the start stays there, and what comes behind it starts with the same character. -/
theorem rewrite_includeLabel_append (p : Profile) (keep : Bool) {post : Text}
    (hwhole : WholeToken none ({} : Conventions).includeLabel.toList post.head?) :
    ∃ post', Rule.rewrite (rulesBefore ⟨{}, p, keep⟩ "metadata.range")
        (({} : Conventions).includeLabel.toList ++ post) =
          ({} : Conventions).includeLabel.toList ++ post' ∧ post'.head? = post.head? := by
  have hrange : rulesBefore ⟨{}, p, keep⟩ "metadata.range" ⊆
      rulesBefore ⟨{}, p, keep⟩ "metadata.include-label" := by
    rw [rulesBefore_includeLabel]
    exact List.subset_append_left _ _
  obtain ⟨x, post', hx, hnil, hpost⟩ : StandsBetween none
      ({} : Conventions).includeLabel.toList post.head?
      (Rule.rewrite (rulesBefore ⟨{}, p, keep⟩ "metadata.range")
        (({} : Conventions).includeLabel.toList ++ post)) :=
    standsBetween_rewrite
      (fun _ hr => exists_pattern_of_mem (by decide)
        (rulesBefore_subset includeLabel_mem_metadata (hrange hr)))
      (fun _ hr => spares_default includeLabel_mem_metadata (fun _ => by simp) (hrange hr)) hwhole
      ⟨[], post, rfl, fun _ => rfl, fun _ => rfl⟩
  obtain rfl : x = [] := List.getLast?_eq_none_iff.1 (hnil (by decide))
  exact ⟨post', hx, hpost (by decide)⟩

/-- The rule for ranges spares a label that does not stand directly behind an annotation. -/
theorem standsBetween_replaceAll_rangeNote {pre post : Text}
    (hclear : ¬ ({} : Conventions).rangeNote.toList <:+ pre)
    (hwhole : WholeToken pre.getLast? ({} : Conventions).includeLabel.toList post.head?)
    (render : Hit → Text) :
    StandsBetween pre.getLast? ({} : Conventions).includeLabel.toList post.head?
      ((Pattern.token ({} : Conventions).rangeNote.toList).replaceAll render
        (pre ++ ({} : Conventions).includeLabel.toList ++ post)).1 := by
  refine StandsBetween.replaceAll_of_beside (Pattern.solid_token (by decide)) clearOf_rangeNote
    hwhole (fun _ v found hv hm => ?_) fun hedge found v hv hm => ?_
  · rw [Pattern.eq_of_match?_token hm] at hv
    exact absurd ⟨v, hv.symm⟩ hclear
  · -- an annotation behind the label would go on with its word
    have hback := hwhole.back hedge
    rw [hv, Pattern.eq_of_match?_token hm] at hback
    exact absurd rfl hback

/-- A label behind a bracket is spared if what stands in front of it does not end with a range
annotation when that is replaced. -/
theorem standsBetween_includeLabel {pre post : Text} (hlast : pre.getLast? = some ')')
    (hclear : ¬ ({} : Conventions).rangeNote.toList <:+
      Rule.rewrite (rulesBefore ⟨{}, p, keep⟩ "metadata.range") pre)
    (hwhole : WholeToken pre.getLast? ({} : Conventions).includeLabel.toList post.head?) :
    StandsBetween pre.getLast? ({} : Conventions).includeLabel.toList post.head?
      (Rule.rewrite (rulesBefore ⟨{}, p, keep⟩ "metadata.include-label")
        (pre ++ ({} : Conventions).includeLabel.toList ++ post)) := by
  obtain ⟨t, rfl⟩ := List.getLast?_eq_some_iff.1 hlast
  rw [hlast] at hwhole
  -- the bracket cuts the text, and behind the cut the label stands at the start
  obtain ⟨post', hlabel, hpost'⟩ :=
    rewrite_includeLabel_append p keep (hwhole.congr (by decide) rfl)
  rw [rewrite_append_singleton_bracket] at hclear
  rw [← hpost', ← List.getLast?_concat (l := Rule.rewrite _ t)] at hwhole
  have hkept := standsBetween_replaceAll_rangeNote hclear hwhole
    (Action.replace p.rangeNote.toList).render
  rw [List.getLast?_concat, hpost'] at hkept
  rw [List.getLast?_concat, rulesBefore_includeLabel, Rule.rewrite_append, List.append_assoc,
    List.append_assoc, List.singleton_append, rewrite_append_bracket, hlabel]
  simpa [Rule.apply, Edit.apply, literal, Edit.substituteAll_singleton] using hkept

/-! ### The rules for metadata apply -/

theorem standsBetween_of_forall_spares (hc : c.check = .ok ()) {name placeholder : String}
    (hm : (name, placeholder) ∈ c.metadata) {pre post : Text}
    (hwhole : WholeToken pre.getLast? placeholder.toList post.head?)
    (hspared : ∀ r ∈ rulesBefore ⟨c, p, keep⟩ name,
      r.edit.Spares pre.getLast? placeholder.toList post.head?) (f : Rule → Bool) :
    StandsBetween pre.getLast? placeholder.toList post.head?
      (Rule.rewrite ((rulesBefore ⟨c, p, keep⟩ name).filter f)
        (pre ++ placeholder.toList ++ post)) :=
  standsBetween_rewrite
    (fun _ hr => exists_pattern_of_mem hc (rulesBefore_subset hm (List.mem_of_mem_filter hr)))
    (fun r hr => hspared r (List.mem_of_mem_filter hr)) hwhole
    ⟨pre, post, rfl, fun _ => rfl, fun _ => rfl⟩

/-- Under the default conventions the rules in front of the one for a placeholder leave it where it
stands, unless it is a label directly behind a range annotation. -/
theorem standsBetween_default {name placeholder : String}
    (hm : (name, placeholder) ∈ ({} : Conventions).metadata) {pre post : Text}
    (hwhole : WholeToken pre.getLast? placeholder.toList post.head?)
    (hclear : name = "metadata.include-label" → pre.getLast? = some ')' →
      ¬ ({} : Conventions).rangeNote.toList <:+
        Rule.rewrite (rulesBefore ⟨{}, p, keep⟩ "metadata.range") pre) :
    StandsBetween pre.getLast? placeholder.toList post.head?
      (Rule.rewrite ((rulesBefore ⟨{}, p, keep⟩ name).filter
        (·.applies (context ⟨{}, p, keep⟩ kind))) (pre ++ placeholder.toList ++ post)) := by
  by_cases hbracket : name = "metadata.include-label" ∧ pre.getLast? = some ')'
  · obtain ⟨rfl, hlast⟩ := hbracket
    obtain rfl : placeholder = ({} : Conventions).includeLabel := by
      simpa [Conventions.metadata] using hm
    have hall : (rulesBefore ⟨{}, p, keep⟩ "metadata.include-label").filter
        (·.applies (context ⟨{}, p, keep⟩ kind)) =
        rulesBefore ⟨{}, p, keep⟩ "metadata.include-label" := by
      cases kind <;> rfl
    rw [hall]
    exact standsBetween_includeLabel hlast (hclear rfl hlast) hwhole
  · exact standsBetween_of_forall_spares (by decide) hm hwhole
      (fun r hr => spares_default hm (fun hname hlast => hbracket ⟨hname, hlast⟩) hr) _

/-- A placeholder of metadata that stands in the source as a whole token is found by its rule, if
every rule in front of that rule spares such tokens. Under the default conventions all of them do,
except that a label of an included file must not stand directly behind a range annotation when that
is replaced. -/
theorem metadata_applied {ps : List Profile} {reg : Registry} (hreg : Registry.new c ps = .ok reg)
    {name placeholder : String} (hm : (name, placeholder) ∈ c.metadata) {pre post : Text}
    (hwhole : WholeToken pre.getLast? placeholder.toList post.head?)
    (hspared : (∀ r ∈ rulesBefore ⟨c, p, keep⟩ name,
        r.edit.Spares pre.getLast? placeholder.toList post.head?) ∨
      c = {} ∧ (name = "metadata.include-label" → pre.getLast? = some ')' →
        ¬ ({} : Conventions).rangeNote.toList <:+
          Rule.rewrite (rulesBefore ⟨{}, p, keep⟩ "metadata.range") pre))
    (target : String) (kind' : ArtifactKind) (stage : Stage) :
    run ⟨c, p, keep⟩ kind (pre ++ placeholder.toList ++ post) ≠
      .error (.ruleNotApplied target kind' stage name) := by
  obtain ⟨-, -, -, haccepted⟩ := Registry.new_eq_ok_iff.1 hreg
  intro hrun
  -- the rule was reached and did not match
  cases happlied : Rule.applyAll p.classTag kind (rulesFor ⟨c, p, keep⟩ kind)
      (pre ++ placeholder.toList ++ post) with
  | ok t =>
    rcases run_of_applyAll happlied with h | ⟨placeholder, h⟩
    · rw [h] at hrun
      cases hrun
    · rw [h] at hrun
      cases hrun
  | error e =>
    rw [run_eq_error_of_applyAll happlied] at hrun
    obtain ⟨early, r, late, u, hrules, hu, hhits, -, rfl⟩ := Rule.applyAll_eq_error_iff.1 happlied
    obtain rfl : r.name = name := by
      injection hrun with h
      injection h
    -- so it is the rule of the placeholder, and those before it have left the placeholder alone
    obtain ⟨r', hr', hname, v, hedit⟩ := exists_of_mem_metadata hm p keep
    have hmem : r ∈ rulesFor ⟨c, p, keep⟩ kind := by simp [hrules]
    obtain rfl : r' = r := by
      refine List.inj_on_of_nodup_map (nodup_names_rules ⟨c, p, keep⟩) ?_ ?_ hname
      · simp [rules, hr']
      · exact List.mem_of_mem_filter hmem
    have hearly := filter_takeWhile_eq (nodup_names_rules ⟨c, p, keep⟩) hrules
    have hstands : StandsBetween pre.getLast? placeholder.toList post.head? u := by
      rw [← Rule.rewrite_of_applyAll hu, ← hearly]
      rcases hspared with h | ⟨rfl, hclear⟩
      · exact standsBetween_of_forall_spares haccepted.conventions hm hwhole h _
      · exact standsBetween_default hm hwhole hclear
    rw [Rule.apply, hedit, literal, Edit.apply, Edit.substituteAll_singleton] at hhits
    exact hstands.replaceAll_snd_ne_zero (Conventions.ne_nil_of_mem_metadata hm) hwhole _ hhits

/-- A type whose range ends with a digit. -/
def unsignedProfile : Profile where
  symbol := "std::uint32_t"
  classTag := "ui32"
  fileTag := "Ui32"
  defaultLiteral := "0U"
  byteSize := 4
  range := "0 to 4.294.967.295"
  includeLabel := "VectorUi32.h"
  category := .standardNumeric

/-- Conventions whose default literal is a word of the range. -/
def zeroConventions : Conventions where
  defaultLiteral := "0"
  range := "0 to 255"

theorem metadata_applied_unsigned :
    (Registry.new {} [unsignedProfile] = .ok (.single {} unsignedProfile) ∧
      run ⟨{}, unsignedProfile, true⟩ .implementation
          ("#include \"".toList ++ "VectorD.h".toList ++ "\"\nstd::double_t Vector2d\n".toList) ≠
        .error (.ruleNotApplied "ui32" .implementation .metadataSubstitution
          "metadata.include-label") ∧
      run ⟨{}, unsignedProfile, true⟩ .implementation
          ("std::double_t Vector2d Bytes: 8 (see)".toList ++ "VectorD.h".toList ++ "\n".toList) ≠
        .error (.ruleNotApplied "ui32" .implementation .metadataSubstitution
          "metadata.include-label")) ∧
    Registry.new zeroConventions [unsignedProfile] =
        .ok (.single zeroConventions unsignedProfile) ∧
      run ⟨zeroConventions, unsignedProfile, true⟩ .interface
          ("std::double_t Vector2d 0 ".toList ++ "Bytes: 8".toList ++ "\n".toList) ≠
        .error (.ruleNotApplied "ui32" .interface .metadataSubstitution "metadata.byte-size") := by
  have hreg : Registry.new {} [unsignedProfile] = .ok (.single {} unsignedProfile) := by decide
  have hzero : Registry.new zeroConventions [unsignedProfile] =
      .ok (.single zeroConventions unsignedProfile) := by decide
  have hspared : ∀ r ∈ rulesBefore ⟨zeroConventions, unsignedProfile, true⟩ "metadata.byte-size",
      r.edit.Spares (some ' ') "Bytes: 8".toList (some '\n') := fun r hr =>
    spares_of_mem_tokenRules (c := zeroConventions) (by decide) (by decide) (by decide +kernel) hr
  refine ⟨⟨hreg, metadata_applied hreg (by decide) (by decide) (.inr ⟨rfl, by decide⟩) _ _ _,
    metadata_applied hreg (by decide) (by decide) (.inr ⟨rfl, fun _ _ => ?_⟩) _ _ _⟩,
    hzero, metadata_applied hzero (by decide) (by decide) (.inl hspared) _ _ _⟩
  decide +kernel

/-- A type whose symbol is the start of a range annotation. -/
def rangedProfile : Profile := { unsignedProfile with symbol := "Range:" }

/-- The default literal can reach into the range annotation, and what takes the place of a range
annotation can run on into a label right behind it, also if the annotation was put together by a
rule before. -/
theorem metadata_not_applied :
    (Registry.new zeroConventions [unsignedProfile] =
        .ok (.single zeroConventions unsignedProfile) ∧
      WholeToken "std::double_t Vector2d 0 Bytes: 8\n".toList.getLast? "Range: 0 to 255".toList
        "\n".toList.head? ∧
      run ⟨zeroConventions, unsignedProfile, true⟩ .interface
          ("std::double_t Vector2d 0 Bytes: 8\n".toList ++ "Range: 0 to 255".toList ++
            "\n".toList) =
        .error (.ruleNotApplied "ui32" .interface .metadataSubstitution "metadata.range")) ∧
    (Registry.new {} [unsignedProfile] = .ok (.single {} unsignedProfile) ∧
      WholeToken "Range: 1.7E +/- 308  precision: (15 digits)".toList.getLast? "VectorD.h".toList
        "\n".toList.head? ∧
      run ⟨{}, unsignedProfile, true⟩ .implementation
          ("std::double_t Vector2d Bytes: 8 Range: 1.7E +/- 308  precision: (15 digits)".toList ++
            "VectorD.h".toList ++ "\n".toList) =
        .error (.ruleNotApplied "ui32" .implementation .metadataSubstitution
          "metadata.include-label")) ∧
    Registry.new {} [rangedProfile] = .ok (.single {} rangedProfile) ∧
      run ⟨{}, rangedProfile, true⟩ .implementation
          ("Vector2d Bytes: 8 std::double_t 1.7E +/- 308  precision: (15 digits)".toList ++
            "VectorD.h".toList ++ "\n".toList) =
        .error (.ruleNotApplied "ui32" .implementation .metadataSubstitution
          "metadata.include-label") := by
  refine ⟨⟨by decide, by decide, by decide +kernel⟩, ⟨by decide, by decide, by decide +kernel⟩,
    by decide, by decide +kernel⟩

end Specialization

end VectorFamily
