import Mathlib.Data.List.Perm.Basic
import VectorFamily.Proofs.Rule.Joined
import VectorFamily.Proofs.Specialization.CastsKept

/-!
# All casts at once

`anyMixedExpression` is a pattern for the mixed expressions of all fields. Its scan of a text lists
them once and for all, and the patterns of the fields, one after another and in whatever order, only
ever meet segments of this list: behind some of them the text is the list with the expressions of
their fields cast (`castOf`), where the pattern of another field finds the expressions of its field
in the list and nothing else (`replaceAll_partly`). So the order does not matter, and behind all of
them the text is what one pass makes of it.
-/

namespace VectorFamily

open Piece (isWordAt)

namespace Segment

/-- Each segment is what the pattern says at its position, from behind the character `before` on. -/
def Scanned (p : Pattern) : Option Char → List Segment → Prop
  | _, [] => True
  | before, s :: segs =>
    s.FoundBy p before (segs.flatMap text) ∧ Scanned p (s.text.getLast?.or before) segs

theorem scanned_of_forall {p : Pattern} {before : Option Char} {segs : List Segment}
    (h : ∀ s₁ s s₂, segs = s₁ ++ s :: s₂ →
      s.FoundBy p ((s₁.flatMap text).getLast?.or before) (s₂.flatMap text)) :
    Scanned p before segs := by
  induction segs generalizing before with
  | nil => trivial
  | cons s segs ih =>
    refine ⟨h [] s segs rfl, ih fun s₁ s' s₂ he => ?_⟩
    have hs := h (s :: s₁) s' s₂ (by rw [he, List.cons_append])
    rwa [List.flatMap_cons, List.getLast?_append, Option.or_assoc] at hs

theorem scanned_segments {p : Pattern} (hp : p.Solid) (t : Text) :
    Scanned p none (p.segments t) := by
  refine scanned_of_forall fun s₁ s s₂ he => ?_
  rw [Option.or_none]
  exact Pattern.found_of_segments_eq hp he

end Segment

namespace Specialization

open Segment (Scanned)

/-! ### One pattern for all fields -/

/-- A mixed expression of any field, as a whole. -/
def anyMixedExpression : Pattern :=
  [.boundary, .choice (fieldAlphabet.flatMap mixedTexts), .boundary]

theorem find?_mixedTexts {f : Char} (hf : f ∈ fieldAlphabet) {m : Text} (hm : m ∈ mixedTexts f)
    (post : Text) :
    (fieldAlphabet.flatMap mixedTexts).find? (·.isPrefixOf (m ++ post)) = some m := by
  cases hfind : (fieldAlphabet.flatMap mixedTexts).find? (·.isPrefixOf (m ++ post)) with
  | none =>
    have hself := List.find?_eq_none.1 hfind m (List.mem_flatMap.2 ⟨f, hf, hm⟩)
    simp at hself
  | some m' =>
    obtain ⟨g, -, hm'⟩ := List.mem_flatMap.1 (List.mem_of_find?_eq_some hfind)
    obtain ⟨post', he⟩ : m' <+: m ++ post := by simpa using List.find?_some hfind
    obtain ⟨w, hw⟩ := exists_cons_cons_of_mem_mixedTexts hm
    obtain ⟨w', hw'⟩ := exists_cons_cons_of_mem_mixedTexts hm'
    obtain rfl : g = f := by
      rw [hw, hw'] at he
      exact (List.cons.inj he).1
    rw [eq_of_mixedTexts hm' hm he]

theorem match?_anyMixedExpression_eq_some {before : Option Char} {rest : Text} {h : Hit} :
    anyMixedExpression.match? before rest = some h ↔
      ∃ p ∈ perField mixedExpression, p.match? before rest = some h := by
  have hfield : (∃ p ∈ perField mixedExpression, p.match? before rest = some h) ↔
      ∃ f ∈ fieldAlphabet, ∃ m ∈ mixedTexts f, ∃ post, rest = m ++ post ∧
        isWordAt before = false ∧ isWordAt post.head? = false ∧ h = ⟨m, []⟩ := by
    simp only [perField, List.mem_map]
    constructor
    · rintro ⟨_, ⟨f, hf, rfl⟩, hm⟩
      exact ⟨f, hf, (match?_mixedExpression_eq_some hf).1 hm⟩
    · rintro ⟨f, hf, hm⟩
      exact ⟨_, ⟨f, hf, rfl⟩, (match?_mixedExpression_eq_some hf).2 hm⟩
  rw [hfield, anyMixedExpression, Pattern.match?_boundary_cons_eq_some, Part.choice,
    Pattern.match?_oneOf_cons_eq_some]
  have ends : ∀ {f m}, f ∈ fieldAlphabet → m ∈ mixedTexts f → ∀ post : Text,
      isWordAt (m ++ post).head? = true ∧ isWordAt (m.getLast?.or before) = true := by
    intro f m hf hm post
    obtain ⟨e, -, hlast⟩ := getLast?_mixedTexts hf hm
    have hword := isWordAt_getLast?_mixedTexts hf hm
    obtain ⟨w, rfl⟩ := exists_cons_cons_of_mem_mixedTexts hm
    exact ⟨isWord_field hf, by rw [hlast] at hword ⊢; exact hword⟩
  constructor
  · rintro ⟨hb, m, post, h', hfind, rfl, hm', rfl⟩
    obtain ⟨f, hf, hm⟩ := List.mem_flatMap.1 (List.mem_of_find?_eq_some hfind)
    obtain ⟨hhead, hlast⟩ := ends hf hm post
    obtain ⟨hp, h''⟩ := Pattern.match?_boundary_cons_eq_some.1 hm'
    obtain rfl := Option.some.inj h''
    rw [hhead] at hb
    rw [hlast] at hp
    refine ⟨f, hf, m, hm, post, rfl, by simpa using hb, by simpa using hp.symm, ?_⟩
    simp [Hit.after]
  · rintro ⟨f, hf, m, hm, post, rfl, hb, hp, rfl⟩
    obtain ⟨hhead, hlast⟩ := ends hf hm post
    have hfront : isWordAt before ≠ isWordAt (m ++ post).head? := by
      rw [hb, hhead]
      exact Bool.false_ne_true
    refine ⟨hfront, m, post, ⟨[], []⟩, find?_mixedTexts hf hm post, rfl,
      Pattern.match?_boundary_cons_eq_some.2 ⟨by simp [hlast, hp], rfl⟩, ?_⟩
    simp [Hit.after]

/-- A match is a mixed expression of some field, and no word goes on behind it. -/
theorem exists_of_match?_anyMixedExpression {before : Option Char} {h : Hit} {rest : Text}
    (hm : anyMixedExpression.match? before (h.text ++ rest) = some h) :
    ∃ f ∈ fieldAlphabet, h.text ∈ mixedTexts f ∧ isWordAt before = false ∧
      isWordAt rest.head? = false ∧ h = ⟨h.text, []⟩ := by
  obtain ⟨p, hp, hm⟩ := match?_anyMixedExpression_eq_some.1 hm
  obtain ⟨f, hf, rfl⟩ := List.mem_map.1 hp
  obtain ⟨m, hmem, post, hrest, hb, hpost, rfl⟩ := (match?_mixedExpression_eq_some hf).1 hm
  obtain rfl := List.append_cancel_left hrest
  exact ⟨f, hf, hmem, hb, hpost, rfl⟩

theorem solid_anyMixedExpression : anyMixedExpression.Solid := by
  intro before rest h hm
  obtain ⟨p, hp, hm⟩ := match?_anyMixedExpression_eq_some.1 hm
  obtain ⟨f, -, rfl⟩ := List.mem_map.1 hp
  exact solid_mixedExpression f _ _ _ hm

/-! ### Casts for some of the fields -/

/-- What becomes of a mixed expression when those of the fields `fs` are cast. -/
def castOf (fs : List Char) (h : Hit) : Text :=
  if h.text.head?.any (fs.contains ·) then castAction.render h else h.text

/-- The text of the segments, with the mixed expressions of the fields `fs` cast. -/
def partly (fs : List Char) (segs : List Segment) : Text :=
  segs.flatMap (Segment.replaced (castOf fs))

def isOf (f : Char) : Segment → Bool
  | .plain _ => false
  | .hit h => h.text.head? == some f

section
variable {f g : Char} {fs : List Char} {h : Hit}

theorem castOf_of_mem (hm : h.text ∈ mixedTexts g) (hg : g ∈ fs) :
    castOf fs h = castOpening ++ (h.text ++ [')']) := by
  obtain ⟨w, hw⟩ := exists_cons_cons_of_mem_mixedTexts hm
  simp [castOf, hw, hg, castAction, Action.render]

theorem castOf_of_not_mem (hm : h.text ∈ mixedTexts g) (hg : g ∉ fs) : castOf fs h = h.text := by
  obtain ⟨w, hw⟩ := exists_cons_cons_of_mem_mixedTexts hm
  simp [castOf, hw, hg]

theorem castOf_cons_of_ne (hm : h.text ∈ mixedTexts g) (hne : g ≠ f) :
    castOf (f :: fs) h = castOf fs h := by
  obtain ⟨w, hw⟩ := exists_cons_cons_of_mem_mixedTexts hm
  simp [castOf, hw, hne]

@[simp] theorem partly_nil : partly fs [] = [] := rfl

@[simp] theorem partly_plain {c : Char} {segs : List Segment} :
    partly fs (.plain c :: segs) = c :: partly fs segs := rfl

@[simp] theorem partly_hit {segs : List Segment} :
    partly fs (.hit h :: segs) = castOf fs h ++ partly fs segs := rfl

variable {before : Option Char} {segs : List Segment}

/-- A cast starts a word like the expression in it, so a text starts a word just if it did. -/
theorem isWordAt_head?_partly (fs : List Char) (hs : Scanned anyMixedExpression before segs) :
    isWordAt (partly fs segs).head? = isWordAt (segs.flatMap Segment.text).head? := by
  cases segs with
  | nil => rfl
  | cons s segs =>
    cases s with
    | plain c => rfl
    | hit h =>
      obtain ⟨g, hg, hm, -⟩ := exists_of_match?_anyMixedExpression hs.1
      obtain ⟨w, hw⟩ := exists_cons_cons_of_mem_mixedTexts hm
      have hword := isWord_field hg
      by_cases hgs : g ∈ fs
      · rw [partly_hit, castOf_of_mem hm hgs]
        simp [castOpening, castHelper, Segment.text, hw, isWordAt, hword]
        decide
      · rw [partly_hit, castOf_of_not_mem hm hgs]
        simp [Segment.text, hw]

/-- The casts add no mixed expression: what can be read as the end of one was there before. -/
theorem exists_of_partly_eq (hf : f ∈ fieldAlphabet) (hs : Scanned anyMixedExpression before segs)
    {x y post : Text} (hm : x ++ y ∈ mixedTexts f) (he : partly fs segs = y ++ post)
    (hpost : isWordAt post.head? = false) :
    ∃ post', segs.flatMap Segment.text = y ++ post' ∧ isWordAt post'.head? = false := by
  induction segs generalizing before x y with
  | nil =>
    obtain ⟨rfl, rfl⟩ := List.nil_eq_append_iff.1 he
    exact ⟨[], rfl, hpost⟩
  | cons s segs ih =>
    by_cases hy : y = []
    · subst hy
      have hhead := isWordAt_head?_partly fs hs
      rw [he, List.nil_append, hpost] at hhead
      exact ⟨_, rfl, hhead.symm⟩
    cases s with
    | plain c =>
      obtain ⟨d, y, rfl⟩ := List.exists_cons_of_ne_nil hy
      obtain ⟨rfl, he'⟩ := List.cons.inj he
      obtain ⟨post', hflat, hpost'⟩ := ih hs.2 (x := x ++ [c]) (by simpa using hm) he'
      exact ⟨post', by simp [Segment.text, hflat], hpost'⟩
    | hit h =>
      obtain ⟨g, hg, hmem, -⟩ := exists_of_match?_anyMixedExpression hs.1
      rw [partly_hit] at he
      by_cases hgs : g ∈ fs
      · rw [castOf_of_mem hmem hgs, List.append_assoc] at he
        exact (not_straddle_castOpening hf hy hm he hpost).elim
      · rw [castOf_of_not_mem hmem hgs] at he
        rcases List.append_eq_append_iff.1 he with ⟨y', rfl, he'⟩ | ⟨c, hh, rfl⟩
        · obtain ⟨post', hflat, hpost'⟩ := ih hs.2 (x := x ++ h.text) (by simpa using hm) he'
          exact ⟨post', by simp [Segment.text, hflat], hpost'⟩
        · refine ⟨c ++ segs.flatMap Segment.text, by simp [Segment.text, hh], ?_⟩
          cases c with
          | nil =>
            rw [List.nil_append] at hpost ⊢
            rwa [← isWordAt_head?_partly fs hs.2]
          | cons d c => exact hpost

theorem getLast?_eq_of_mem_mixedTexts {m : Text} (hm : m ∈ mixedTexts g) :
    m.getLast? = some g ∨ m.getLast? = some 'r' := by
  obtain ⟨op, -, x, hx, rfl⟩ := mem_mixedTexts.1 hm
  have hx : x ≠ [] ∧ (x.getLast? = some g ∨ x.getLast? = some 'r') := by
    simp only [operands, List.mem_cons, List.not_mem_nil, or_false] at hx
    rcases hx with rfl | rfl | rfl
    · exact ⟨List.cons_ne_nil _ _, .inl rfl⟩
    · exact ⟨List.cons_ne_nil _ _, .inl rfl⟩
    · exact ⟨List.cons_ne_nil _ _, .inr rfl⟩
  have hsplit : g :: ' ' :: (op ++ ' ' :: x) = (g :: ' ' :: (op ++ [' '])) ++ x := by simp
  rw [hsplit, List.getLast?_append_of_ne_nil _ hx.1]
  exact hx.2

/-- In a mixed expression of one field no other field with a space behind it stands, also if the
space stands behind the expression. -/
theorem eq_of_start_in_mixedText (hg : g ∈ fieldAlphabet) (hf : f ∈ fieldAlphabet)
    {m a b rest w : Text} (hm : m ∈ mixedTexts g) (hab : m = a ++ b) (hb : b ≠ [])
    (he : b ++ rest = f :: ' ' :: w) : g = f := by
  obtain ⟨d, b, rfl⟩ := List.exists_cons_of_ne_nil hb
  obtain ⟨rfl, hnext⟩ := List.cons.inj he
  cases b with
  | nil =>
    have hlast := getLast?_eq_of_mem_mixedTexts hm
    rw [hab, List.getLast?_concat, Option.some.injEq, Option.some.injEq] at hlast
    exact (hlast.resolve_right (field_ne_of_not_mem hf (by decide))).symm
  | cons e b =>
    obtain ⟨rfl, -⟩ := List.cons.inj hnext
    have hstart : a = [] := start_in_argument hg hf hm (b := ' ' :: (b ++ [')']))
      (by simp [hab]) fun c b' hcut => (List.cons.inj hcut).1.symm
    obtain ⟨v, rfl⟩ := exists_cons_cons_of_mem_mixedTexts hm
    rw [hstart] at hab
    exact (List.cons.inj hab).1

/-! ### The pattern of one field -/

theorem match?_mixedExpression_eq_none (hf : f ∈ fieldAlphabet) {rest : Text}
    (hrest : ∀ w, rest ≠ f :: ' ' :: w) : (mixedExpression f).match? before rest = none := by
  refine Option.eq_none_iff_forall_ne_some.2 fun h hm => ?_
  obtain ⟨m, hmem, post, rfl, -⟩ := (match?_mixedExpression_eq_some hf).1 hm
  obtain ⟨w, rfl⟩ := exists_cons_cons_of_mem_mixedTexts hmem
  exact hrest _ rfl

/-- The pattern of a field matches at no character that is no match in the list. -/
theorem match?_partly_of_plain (fs : List Char) (hf : f ∈ fieldAlphabet) {b : Option Char} {c : Char}
    (hs : Scanned anyMixedExpression before (.plain c :: segs))
    (hedge : isWordAt b = isWordAt before ∨ isWordAt (some c) = false) :
    (mixedExpression f).match? b (c :: partly fs segs) = none := by
  refine Option.eq_none_iff_forall_ne_some.2 fun h hm => ?_
  obtain ⟨m, hmem, post, he, hb, hpost, rfl⟩ := (match?_mixedExpression_eq_some hf).1 hm
  obtain ⟨post', hflat, hpost'⟩ := exists_of_partly_eq hf hs (x := []) hmem he hpost
  rcases hedge with hedge | hedge
  · have hfound : anyMixedExpression.match? before (c :: segs.flatMap Segment.text) = some ⟨m, []⟩ :=
      match?_anyMixedExpression_eq_some.2 ⟨_, List.mem_map_of_mem hf,
        (match?_mixedExpression_eq_some hf).2 ⟨m, hmem, post', hflat, hedge ▸ hb, hpost', rfl⟩⟩
    rw [hs.1] at hfound
    cases hfound
  · obtain ⟨w, rfl⟩ := exists_cons_cons_of_mem_mixedTexts hmem
    obtain ⟨rfl, -⟩ := List.cons.inj he
    exact absurd (isWord_field hf) (by simpa [isWordAt] using hedge)

/-- The pattern of a field starts a match nowhere in a mixed expression of another field, whether
that one is cast or not. -/
theorem castOf_not_starts (hf : f ∈ fieldAlphabet) (hg : g ∈ fieldAlphabet)
    (hm : h.text ∈ mixedTexts g) (hne : g ≠ f) {a b rest w : Text} (hab : castOf fs h = a ++ b)
    (hb : b ≠ []) : b ++ rest ≠ f :: ' ' :: w := by
  intro he
  by_cases hgs : g ∈ fs
  · rw [castOf_of_mem hm hgs, ← List.append_assoc] at hab
    obtain rfl := start_in_cast hg hf hm hab hb he
    rw [List.append_assoc, List.append_cancel_left_eq] at hab
    obtain ⟨v, hv⟩ := exists_cons_cons_of_mem_mixedTexts hm
    rw [← hab, hv] at he
    exact hne (List.cons.inj he).1
  · rw [castOf_of_not_mem hm hgs] at hab
    exact hne (eq_of_start_in_mixedText hg hf hm hab hb he)

/-- Where the expressions of other fields may be cast, the pattern of a field finds those of its own
field in the list, and nothing else. -/
theorem segmentsFrom_partly (hf : f ∈ fieldAlphabet) (hfs : f ∉ fs) {b : Option Char}
    (hs : Scanned anyMixedExpression before segs)
    (hedge : isWordAt b = isWordAt before ∨
      isWordAt (segs.flatMap Segment.text).head? = false) :
    (Pattern.segmentsFrom (mixedExpression f) b .apart (partly fs segs)).flatMap
        (Segment.replaced castAction.render) = partly (f :: fs) segs ∧
      (Pattern.segmentsFrom (mixedExpression f) b .apart (partly fs segs)).countP
        Segment.isHit = segs.countP (isOf f) := by
  have hsolid := solid_mixedExpression f
  induction segs generalizing before b with
  | nil => simp [Pattern.segmentsFrom_nil hsolid]
  | cons s segs ih =>
    cases s with
    | plain c =>
      obtain ⟨htext, hcount⟩ := ih hs.2 (b := some c) (.inl rfl)
      have hnone := match?_partly_of_plain fs hf hs hedge
      rw [partly_plain, Pattern.segmentsFrom_skip hnone]
      simp [Segment.replaced, Segment.isHit, isOf, htext, hcount]
    | hit h =>
      obtain ⟨g, hg, hm, hb, hpost, hgroups⟩ := exists_of_match?_anyMixedExpression hs.1
      obtain ⟨v, hv⟩ := exists_cons_cons_of_mem_mixedTexts hm
      rw [partly_hit]
      by_cases hgf : g = f
      · subst hgf
        -- the list has the field's own expression here, and the pattern finds it
        have hb' : isWordAt b = false := by
          rcases hedge with hedge | hedge
          · rw [hedge, hb]
          · simp [Segment.text, hv, isWordAt, isWord_field hf] at hedge
        have hmatch : (mixedExpression g).match? b (h.text ++ partly fs segs) = some h :=
          (match?_mixedExpression_eq_some hg).2
            ⟨h.text, hm, _, rfl, hb', (isWordAt_head?_partly fs hs.2).trans hpost, hgroups⟩
        obtain ⟨htext, hcount⟩ := ih hs.2 (b := h.text.getLast?.or b) (.inr hpost)
        rw [castOf_of_not_mem hm hfs, Pattern.segmentsFrom_take hsolid hmatch]
        simp only [List.flatMap_cons, List.countP_cons, htext, hcount, partly_hit]
        exact ⟨by rw [castOf_of_mem hm List.mem_cons_self]; rfl, by simp [Segment.isHit, isOf, hv]⟩
      · have hpass : Pattern.segmentsFrom (mixedExpression f) b .apart
            (castOf fs h ++ partly fs segs) = (castOf fs h).map .plain ++
              Pattern.segmentsFrom (mixedExpression f) ((castOf fs h).getLast?.or b) .apart
                (partly fs segs) :=
          Pattern.segmentsFrom_append_of_match?_eq_none fun a b hab hne =>
            match?_mixedExpression_eq_none hf fun w => castOf_not_starts hf hg hm hgf hab hne
        obtain ⟨htext, hcount⟩ := ih hs.2 (b := (castOf fs h).getLast?.or b)
          (.inr hpost)
        rw [hpass, List.flatMap_append, List.countP_append, htext, hcount,
          Pattern.flatMap_replaced_map_plain, partly_hit, castOf_cons_of_ne hm hgf]
        exact ⟨rfl, by simp [Segment.isHit, isOf, hv, hgf, Function.comp_def]⟩

theorem replaceAll_partly (hf : f ∈ fieldAlphabet) (hfs : f ∉ fs) (t : Text) :
    (mixedExpression f).replaceAll castAction.render (partly fs (anyMixedExpression.segments t)) =
      (partly (f :: fs) (anyMixedExpression.segments t),
        (anyMixedExpression.segments t).countP (isOf f)) := by
  obtain ⟨htext, hcount⟩ := segmentsFrom_partly (b := none) hf hfs
    (Segment.scanned_segments solid_anyMixedExpression t) (.inl rfl)
  exact Prod.ext (by rw [Pattern.replaceAll_fst]; exact htext)
    (by rw [Pattern.replaceAll_snd]; exact hcount)

theorem countP_isOf_cons {gs : List Char} (hf : f ∉ gs) (segs : List Segment) :
    segs.countP (fun s => (f :: gs).any (isOf · s)) =
      segs.countP (isOf f) + segs.countP (fun s => gs.any (isOf · s)) := by
  -- a match starts with one field only
  have apart : ∀ s, isOf f s = true → gs.any (isOf · s) = false := by
    intro s hs
    cases s with
    | plain c => cases hs
    | hit h =>
      have hhead : h.text.head? = some f := by simpa [isOf] using hs
      refine List.any_eq_false.2 fun g hg => ?_
      simp only [isOf, hhead, beq_iff_eq, Option.some.injEq]
      exact fun he => hf (he ▸ hg)
  induction segs with
  | nil => rfl
  | cons s segs ih =>
    rw [List.countP_cons, List.countP_cons, List.countP_cons, ih, List.any_cons]
    cases hs : isOf f s with
    | true =>
      rw [apart s hs]
      simp [Nat.add_right_comm]
    | false => simp [Nat.add_assoc]

/-- The patterns of several fields cast the expressions of these fields. -/
theorem substituteAll_partly {gs : List Char} (hgs : ∀ g ∈ gs, g ∈ fieldAlphabet)
    (hnodup : gs.Nodup) (hfs : ∀ g ∈ gs, g ∉ fs) (t : Text) :
    Edit.substituteAll castAction (gs.map mixedExpression)
        (partly fs (anyMixedExpression.segments t)) =
      (partly (gs.reverse ++ fs) (anyMixedExpression.segments t),
        (anyMixedExpression.segments t).countP fun s => gs.any (isOf · s)) := by
  induction gs generalizing fs with
  | nil => simp
  | cons f gs ih =>
    obtain ⟨hf, hgs⟩ := List.forall_mem_cons.1 hgs
    obtain ⟨hffs, hfs⟩ := List.forall_mem_cons.1 hfs
    obtain ⟨hfgs, hnodup⟩ := List.nodup_cons.1 hnodup
    have hothers : ∀ g ∈ gs, g ∉ f :: fs := fun g hg hmem =>
      (List.mem_cons.1 hmem).elim (fun he => hfgs (he ▸ hg)) (hfs g hg)
    have hrest := ih hgs hnodup hothers
    have hone := replaceAll_partly hf hffs t
    refine Prod.ext ?_ ?_
    · rw [List.map_cons, Edit.substituteAll_cons_fst, hone, hrest, List.reverse_cons,
        List.append_assoc, List.singleton_append]
    · rw [List.map_cons, Edit.substituteAll_cons_snd, hone, hrest, countP_isOf_cons hfgs]

/-! ### The patterns of all fields -/

theorem partly_nil_segments (t : Text) : partly [] (anyMixedExpression.segments t) = t := by
  conv_rhs => rw [← Pattern.flatMap_text_segments anyMixedExpression t]
  refine List.flatMap_congr fun s _ => ?_
  cases s <;> simp [Segment.replaced, Segment.text, castOf]

/-- Behind the patterns of all fields, in any order, the text is what one pass makes of it that casts
every mixed expression. -/
theorem substituteAll_of_perm_fields {gs : List Char} (hgs : gs.Perm fieldAlphabet) (t : Text) :
    Edit.substituteAll castAction (gs.map mixedExpression) t =
      anyMixedExpression.replaceAll castAction.render t := by
  have hsub : ∀ g ∈ gs, g ∈ fieldAlphabet := fun g => hgs.mem_iff.1
  have hnone : ∀ g ∈ gs, g ∉ [] := fun g _ => List.not_mem_nil
  have hall := substituteAll_partly hsub (hgs.nodup_iff.2 (by decide)) hnone t
  rw [partly_nil_segments, List.append_nil] at hall
  -- every match of the list is of one of the fields
  have hmem : ∀ h, Segment.hit h ∈ anyMixedExpression.segments t →
      ∃ g ∈ gs, h.text ∈ mixedTexts g := by
    intro h hh
    obtain ⟨s₁, s₂, he⟩ := List.append_of_mem hh
    obtain ⟨g, hg, hm, -⟩ := exists_of_match?_anyMixedExpression
      (Pattern.match?_of_segments_eq solid_anyMixedExpression he)
    exact ⟨g, hgs.mem_iff.2 hg, hm⟩
  rw [hall]
  refine Prod.ext ?_ ?_
  · rw [Pattern.replaceAll_fst]
    refine List.flatMap_congr fun s hs => ?_
    cases s with
    | plain c => rfl
    | hit h =>
      obtain ⟨g, hg, hm⟩ := hmem h hs
      exact (castOf_of_mem hm (List.mem_reverse.2 hg)).trans rfl
  · rw [Pattern.replaceAll_snd]
    refine List.countP_congr fun s hs => ?_
    cases s with
    | plain c => simp [isOf, Segment.isHit]
    | hit h =>
      obtain ⟨g, hg, hm⟩ := hmem h hs
      obtain ⟨w, hw⟩ := exists_cons_cons_of_mem_mixedTexts hm
      simp [isOf, Segment.isHit, hw, hg]

end

theorem substituteAll_of_perm {patterns : List Pattern}
    (hperm : patterns.Perm (perField mixedExpression)) (t : Text) :
    Edit.substituteAll castAction patterns t =
      anyMixedExpression.replaceAll castAction.render t := by
  obtain ⟨gs, rfl, hgs⟩ :=
    (congrFun₂ (List.eq_map_comp_perm mixedExpression) patterns fieldAlphabet).mpr hperm
  exact substituteAll_of_perm_fields hgs t

theorem filter_name_rules (s : Specialization) :
    s.rules.filter (·.name == "cast.wrap") = [wrapRule] := by
  rw [rules, castRules_eq]
  simp [tokenRules, metadataRules, booleanRules, pruning, wrapRule, helperRule, scopeRule,
    streamRules, exportRules]

/-- The rule of the casts is one, with one pattern for each of the thirteen fields. In whatever order
they run, the text and the number of matches are the same, and they are those of one pass that casts
whatever any of the patterns matches. -/
theorem apply_wrapRule_of_perm {patterns : List Pattern}
    (hperm : patterns.Perm (perField mixedExpression)) (s : Specialization) (t : Text) :
    s.rules.filter (·.name == "cast.wrap") = [wrapRule] ∧
    wrapRule.edit =
      .substitute (perField mixedExpression) (.wrap "cast(".toList ")".toList) ∧
    (perField mixedExpression).length = 13 ∧
    (∀ before rest h, anyMixedExpression.match? before rest = some h ↔
      ∃ p ∈ perField mixedExpression, p.match? before rest = some h) ∧
    Edit.substituteAll castAction patterns t = wrapRule.apply t ∧
    wrapRule.apply t = anyMixedExpression.replaceAll castAction.render t := by
  have hwrap : wrapRule.apply t = anyMixedExpression.replaceAll castAction.render t := by
    rw [apply_wrapRule, substituteAll_of_perm (List.Perm.refl _)]
  exact ⟨filter_name_rules s, rfl, rfl, fun _ _ _ => match?_anyMixedExpression_eq_some,
    (substituteAll_of_perm hperm t).trans hwrap.symm, hwrap⟩

/-- Two expressions side by side, the second one in the order of the fields first. -/
theorem apply_wrapRule_of_perm_reverse :
    (perField mixedExpression).reverse.Perm (perField mixedExpression) ∧
    Edit.substituteAll castAction (perField mixedExpression).reverse "y -= v.y,x * number".toList =
      ("cast(y -= v.y),cast(x * number)".toList, 2) := by
  have hperm := List.reverse_perm (perField mixedExpression)
  obtain ⟨-, -, -, -, hreverse, -⟩ :=
    apply_wrapRule_of_perm hperm charSpecialization "y -= v.y,x * number".toList
  exact ⟨hperm, hreverse.trans (by decide +kernel)⟩

end Specialization

end VectorFamily
