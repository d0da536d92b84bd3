import VectorFamily.Proofs.Pattern.Segments
import VectorFamily.Proofs.Pattern.Token
import VectorFamily.Proofs.Text.Placed

/-!
# Where the matches of a pattern are

`Leftmost` says without a scan which spans of a text are chosen from left to right; there is only
one such list, and the scan of a solid pattern finds it (`spans_eq_iff`). For the pattern of a
literal that means: its occurrences that are whole tokens. These are the occurrences that cut no
word just if the two notions of a word character agree at the ends of the literal
(`spans_token_spec`), as they do in ASCII.
-/

namespace VectorFamily

open Piece (isWordAt)
open Text (byteSize byteSize_append byteSize_pos)

/-- The spans are chosen from left to right among the valid ones: one comes behind the other, and
whatever else could be chosen starts inside of one that is. -/
structure Leftmost (Valid : Nat × Nat → Prop) (spans : List (Nat × Nat)) : Prop where
  valid : ∀ o ∈ spans, Valid o
  ordered : spans.Pairwise fun a b => a.2 ≤ b.1
  first : ∀ o, Valid o → o ∈ spans ∨ ∃ a ∈ spans, a.1 < o.1 ∧ o.1 < a.2

namespace Leftmost

variable {Valid Valid' : Nat × Nat → Prop} {o x : Nat × Nat} {xs ys : List (Nat × Nat)}

theorem congr (h : ∀ o, Valid o ↔ Valid' o) : Leftmost Valid xs ↔ Leftmost Valid' xs := by
  simp only [funext fun o => propext (h o)]

/-- A span that no other one can start before is chosen. -/
theorem mem_of_first (hx : Leftmost Valid xs) (ho : Valid o) (hfirst : ∀ a, Valid a → o.1 ≤ a.1) :
    o ∈ xs := by
  rcases hx.first o ho with hmem | ⟨a, ha, hlt, -⟩
  · exact hmem
  · exact absurd (hfirst a (hx.valid a ha)) (Nat.not_le.2 hlt)

variable (hpos : ∀ o, Valid o → o.1 < o.2)
include hpos

theorem eq_or_lt (hx : Leftmost Valid (x :: xs)) (ho : Valid o) : o = x ∨ x.1 < o.1 := by
  have hlater : ∀ a ∈ xs, x.1 < a.1 := fun a ha =>
    Nat.lt_of_lt_of_le (hpos x (hx.valid x List.mem_cons_self))
      (List.rel_of_pairwise_cons hx.ordered ha)
  rcases hx.first o ho with hmem | ⟨a, ha, hlt, -⟩
  · exact (List.mem_cons.1 hmem).imp_right (hlater o)
  · rcases List.mem_cons.1 ha with rfl | ha
    · exact .inr hlt
    · exact .inr (Nat.lt_trans (hlater a ha) hlt)

theorem tail (hx : Leftmost Valid (x :: xs)) : Leftmost (fun o => Valid o ∧ x.2 ≤ o.1) xs := by
  have hxpos := hpos x (hx.valid x List.mem_cons_self)
  refine ⟨fun o ho => ⟨hx.valid o (List.mem_cons_of_mem _ ho),
    List.rel_of_pairwise_cons hx.ordered ho⟩, hx.ordered.of_cons, ?_⟩
  rintro o ⟨ho, hle⟩
  rcases hx.first o ho with hmem | ⟨a, ha, hlt, hgt⟩
  · rcases List.mem_cons.1 hmem with rfl | hmem
    · omega
    · exact .inl hmem
  · rcases List.mem_cons.1 ha with rfl | ha
    · omega
    · exact .inr ⟨a, ha, hlt, hgt⟩

/-- There is only one way to choose. -/
theorem eq (hx : Leftmost Valid xs) (hy : Leftmost Valid ys) : xs = ys := by
  have hnil : ∀ {Valid : Nat × Nat → Prop} {y ys}, Leftmost Valid [] → ¬ Leftmost Valid (y :: ys) :=
    fun hx hy => by simpa using hx.first _ (hy.valid _ List.mem_cons_self)
  induction xs generalizing Valid ys with
  | nil =>
    cases ys with
    | nil => rfl
    | cons y ys => exact absurd hy (hnil hx)
  | cons x xs ih =>
    cases ys with
    | nil => exact absurd hx (hnil hy)
    | cons y ys =>
      obtain rfl : x = y := by
        rcases hx.eq_or_lt hpos (hy.valid y List.mem_cons_self) with h | h
        · exact h.symm
        · rcases hy.eq_or_lt hpos (hx.valid x List.mem_cons_self) with h' | h'
          · exact h'
          · omega
      rw [ih (fun o ho => hpos o ho.1) (hx.tail hpos) (hy.tail hpos)]

end Leftmost

/-! ### The spans of a scan -/

namespace Segment

/-- Where the matches among the segments start and end, in bytes from `start` on. -/
def spans (start : Nat) : List Segment → List (Nat × Nat)
  | [] => []
  | plain c :: segs => spans (start + c.utf8Size) segs
  | hit h :: segs => (start, start + h.text.byteSize) :: spans (start + h.text.byteSize) segs

theorem foldl_spans (segs : List Segment) (start : Nat) (acc : List (Nat × Nat)) :
    (segs.foldl (Segment.elim (fun s c => (s.1 + c.utf8Size, s.2))
      (fun s h => (s.1 + h.text.byteSize, (s.1, s.1 + h.text.byteSize) :: s.2))) (start, acc)).2 =
        (spans start segs).reverse ++ acc := by
  induction segs generalizing start acc with
  | nil => rfl
  | cons s segs ih =>
    cases s with
    | plain c => exact ih _ _
    | hit h =>
      rw [List.foldl_cons, elim, ih, spans, List.reverse_cons, List.append_assoc]
      rfl

theorem spans_append (s₁ s₂ : List Segment) (start : Nat) :
    spans start (s₁ ++ s₂) = spans start s₁ ++ spans (start + byteSize (s₁.flatMap text)) s₂ := by
  induction s₁ generalizing start with
  | nil => rfl
  | cons s s₁ ih => cases s <;> simp [spans, text, ih, Nat.add_assoc]

/-- A span is that of a match behind all the segments in front of it. -/
theorem mem_spans {segs : List Segment} {start : Nat} {o : Nat × Nat} :
    o ∈ spans start segs ↔ ∃ s₁ h s₂, segs = s₁ ++ .hit h :: s₂ ∧
      o = (start + byteSize (s₁.flatMap text), start + byteSize (s₁.flatMap text ++ h.text)) := by
  constructor
  · intro ho
    induction segs generalizing start with
    | nil => cases ho
    | cons s segs ih =>
      have behind : o ∈ spans (start + byteSize s.text) segs → ∃ s₁ h s₂,
          s :: segs = s₁ ++ .hit h :: s₂ ∧ o = (start + byteSize (s₁.flatMap text),
            start + byteSize (s₁.flatMap text ++ h.text)) := by
        intro ho
        obtain ⟨s₁, h, s₂, rfl, rfl⟩ := ih ho
        exact ⟨s :: s₁, h, s₂, rfl, by simp [Nat.add_assoc]⟩
      cases s with
      | plain c => exact behind ho
      | hit h =>
        rcases List.mem_cons.1 ho with rfl | ho
        · exact ⟨[], h, segs, rfl, rfl⟩
        · exact behind ho
  · rintro ⟨s₁, h, s₂, rfl, rfl⟩
    rw [spans_append, spans, byteSize_append, Nat.add_assoc]
    simp

theorem ordered_spans (segs : List Segment) (start : Nat) :
    (spans start segs).Pairwise fun a b => a.2 ≤ b.1 := by
  induction segs generalizing start with
  | nil => exact .nil
  | cons s segs ih =>
    cases s with
    | plain c => exact ih _
    | hit h =>
      refine List.pairwise_cons.2 ⟨fun o ho => ?_, ih _⟩
      obtain ⟨s₁, _, _, -, rfl⟩ := mem_spans.1 ho
      exact Nat.le_add_right _ _

end Segment

namespace Pattern

variable {p : Pattern} {t : Text}

theorem spans_eq_spans_segments (p : Pattern) (t : Text) :
    p.spans t = Segment.spans 0 (p.segments t) := by
  rw [spans, fold_eq_foldl, Segment.foldl_spans, List.append_nil, List.reverse_reverse]

/-- The pattern matches from the one offset to the other. -/
def MatchesAt (p : Pattern) (t : Text) (o : Nat × Nat) : Prop :=
  ∃ pre h post, t = pre ++ h.text ++ post ∧ p.match? pre.getLast? (h.text ++ post) = some h ∧
    o = (byteSize pre, byteSize (pre ++ h.text))

/-- A scan finds the leftmost matches. -/
theorem leftmost_spans (hp : p.Solid) (t : Text) : Leftmost (p.MatchesAt t) (p.spans t) := by
  rw [spans_eq_spans_segments]
  refine ⟨fun o ho => ?_, Segment.ordered_spans _ _, ?_⟩
  · obtain ⟨s₁, h, s₂, he, rfl⟩ := Segment.mem_spans.1 ho
    refine ⟨_, h, s₂.flatMap Segment.text, ?_, match?_of_segments_eq hp he, by simp⟩
    conv_lhs => rw [← flatMap_text_segments p t, he]
    simp [Segment.text]
  · rintro o ⟨pre, h, post, ht, hm, rfl⟩
    rw [List.append_assoc] at ht
    rcases Segment.cut ((flatMap_text_segments p t).trans ht) with
      ⟨s₁, s₂, he, rfl, hpost⟩ | ⟨s₁, h', s₂, x, y, he, hx, hy, hh', rfl, -⟩
    · -- what the scan meets at the place of a match is that match
      left
      rw [← hpost] at hm
      cases s₂ with
      | nil =>
        rw [List.flatMap_nil, match?_nil_of_solid hp] at hm
        cases hm
      | cons s s₂ =>
        have hfound := found_of_segments_eq hp he
        cases s with
        | plain c => cases hm.symm.trans hfound
        | hit h' =>
          obtain rfl := Option.some.inj (hm.symm.trans hfound)
          exact Segment.mem_spans.2 ⟨s₁, h, s₂, he, by simp⟩
    · right
      refine ⟨_, Segment.mem_spans.2 ⟨s₁, h', s₂, he, rfl⟩, ?_, ?_⟩
      · simpa using byteSize_pos hx
      · simpa [hh'] using byteSize_pos hy

theorem spans_eq_iff (hp : p.Solid) {spans : List (Nat × Nat)} :
    p.spans t = spans ↔ Leftmost (p.MatchesAt t) spans := by
  have hpos : ∀ o, p.MatchesAt t o → o.1 < o.2 := by
    rintro _ ⟨pre, h, post, -, hm, rfl⟩
    simpa using byteSize_pos (hp _ _ _ hm)
  exact ⟨fun h => h ▸ leftmost_spans hp t, fun h => (leftmost_spans hp t).eq hpos h⟩

end Pattern

/-! ### Whole tokens -/

namespace Text

/-- The literal stands in the text from the one offset to the other, and what is around it is as
asked for. -/
def OccursAt (l : Text) (Around : Text → Text → Prop) (t : Text) (o : Nat × Nat) : Prop :=
  ∃ pre post, t = pre ++ l ++ post ∧ o = (byteSize pre, byteSize (pre ++ l)) ∧ Around pre post

/-- At each end of the literal that is alphanumeric or an underscore there is a word boundary. -/
def IsTokenIn (l pre post : Text) : Prop := WholeToken pre.getLast? l post.head?

/-- The place between the two texts is inside of a word. -/
def CutsWord (u v : Text) : Prop := isWordAt u.getLast? = true ∧ isWordAt v.head? = true

instance (u v : Text) : Decidable (CutsWord u v) := inferInstanceAs (Decidable (_ ∧ _))

/-- Neither end of the literal is inside of a word. -/
structure StandsFree (l pre post : Text) : Prop where
  front : ¬ CutsWord pre (l ++ post)
  back : ¬ CutsWord (pre ++ l) post

def ends (l : Text) : List Char := l.head?.toList ++ l.getLast?.toList

variable {l : Text} {Around Around' : Text → Text → Prop}

theorem occursAt_congr (h : ∀ pre post, Around pre post ↔ Around' pre post) {t : Text}
    {o : Nat × Nat} : OccursAt l Around t o ↔ OccursAt l Around' t o := by
  simp only [OccursAt, h]

theorem eq_of_byteSize_eq {u v u' v' : Text} (h : u ++ v = u' ++ v')
    (hsize : byteSize u = byteSize u') : u = u' := by
  rcases List.append_eq_append_iff.1 h with ⟨w, rfl, -⟩ | ⟨w, rfl, -⟩
  all_goals
    rw [byteSize_append] at hsize
    have hw : w = [] := by
      by_contra hne
      have := byteSize_pos hne
      omega
    rw [hw, List.append_nil]

theorem occursAt_iff (l pre post : Text) :
    OccursAt l Around (pre ++ l ++ post) (byteSize pre, byteSize (pre ++ l)) ↔ Around pre post := by
  constructor
  · rintro ⟨pre', post', ht, ho, h⟩
    rw [List.append_assoc, List.append_assoc] at ht
    obtain rfl := eq_of_byteSize_eq ht (Prod.mk.inj ho).1
    obtain rfl := List.append_cancel_left (List.append_cancel_left ht)
    exact h
  · exact fun h => ⟨pre, post, rfl, rfl, h⟩

theorem head_mem_ends {c : Char} (h : l.head? = some c) : c ∈ ends l := by
  simp [ends, h]

theorem last_mem_ends {c : Char} (h : l.getLast? = some c) : c ∈ ends l := by
  simp [ends, h]

theorem isTokenIn_nil_iff : IsTokenIn l [] [] ↔
    ∀ c ∈ ends l, Pattern.isEdge c = true → Unicode.isWord c = true := by
  have hend : ∀ c : Option Char, (c.any Pattern.isEdge = true → isWordAt c = true) ↔
      ∀ d ∈ c.toList, Pattern.isEdge d = true → Unicode.isWord d = true := by
    intro c
    cases c <;> simp [isWordAt]
  rw [ends, List.forall_mem_append, ← hend, ← hend]
  have hnone : isWordAt none = false := rfl
  constructor
  · rintro ⟨hfront, hback⟩
    exact ⟨fun h => by simpa [hnone] using (hfront h).symm, fun h => by simpa [hnone] using hback h⟩
  · rintro ⟨hfront, hback⟩
    exact ⟨fun h => by simp [hnone, hfront h], fun h => by simp [hnone, hback h]⟩

section
variable (hl : l ≠ [])
include hl

/-- Where every word character at an end asks for a boundary, whole tokens cut no word. -/
theorem IsTokenIn.standsFree
    (hends : ∀ c ∈ ends l, Unicode.isWord c = true → Pattern.isEdge c = true) {pre post : Text}
    (h : IsTokenIn l pre post) : StandsFree l pre post := by
  constructor
  · rintro ⟨hpre, hhead⟩
    rw [List.head?_append_of_ne_nil _ hl] at hhead
    have hc := List.head?_eq_some_head hl
    rw [hc] at hhead
    have := h.front (by rw [hc]; exact hends _ (head_mem_ends hc) hhead)
    rw [hc, hhead] at this
    exact this hpre
  · rintro ⟨hlast, hpost⟩
    rw [List.getLast?_append_of_ne_nil _ hl] at hlast
    have hc := List.getLast?_eq_some_getLast hl
    rw [hc] at hlast
    have := h.back (by rw [hc]; exact hends _ (last_mem_ends hc) hlast)
    rw [hc, hlast] at this
    exact this hpost.symm

/-- Where every end that asks for a boundary is a word character, what cuts no word is a whole
token. -/
theorem StandsFree.isTokenIn
    (hends : ∀ c ∈ ends l, Pattern.isEdge c = true → Unicode.isWord c = true) {pre post : Text}
    (h : StandsFree l pre post) : IsTokenIn l pre post := by
  constructor
  · intro hedge hsame
    have hc := List.head?_eq_some_head hl
    rw [hc] at hedge hsame
    have hword : isWordAt (some (l.head hl)) = true := hends _ (head_mem_ends hc) hedge
    refine h.front ⟨hsame.trans hword, ?_⟩
    rw [List.head?_append_of_ne_nil _ hl, hc, hword]
  · intro hedge hsame
    have hc := List.getLast?_eq_some_getLast hl
    rw [hc] at hedge hsame
    have hword : isWordAt (some (l.getLast hl)) = true := hends _ (last_mem_ends hc) hedge
    refine h.back ⟨?_, hsame.symm.trans hword⟩
    rw [List.getLast?_append_of_ne_nil _ hl, hc, hword]

end

end Text

namespace Pattern

open Text (OccursAt IsTokenIn CutsWord StandsFree ends)

variable {l : Text} (hl : l ≠ [])

theorem matchesAt_token_iff {t : Text} {o : Nat × Nat} :
    (token l).MatchesAt t o ↔ OccursAt l (IsTokenIn l) t o := by
  constructor
  · rintro ⟨pre, h, post, rfl, hm, rfl⟩
    obtain ⟨post', hpost, hw, rfl⟩ := match?_token_eq_some.1 hm
    obtain rfl := List.append_cancel_left hpost
    exact ⟨pre, post, rfl, rfl, hw⟩
  · rintro ⟨pre, post, rfl, rfl, hw⟩
    exact ⟨pre, ⟨l, []⟩, post, rfl, match?_token_eq_some.2 ⟨post, rfl, hw, rfl⟩, rfl⟩

include hl

theorem spans_token_eq_iff {t : Text} {spans : List (Nat × Nat)} :
    (token l).spans t = spans ↔ Leftmost (OccursAt l (IsTokenIn l) t) spans := by
  rw [spans_eq_iff (solid_token hl)]
  exact Leftmost.congr fun _ => matchesAt_token_iff

/-- A literal by itself is found just if each of its ends that asks for a word boundary has one
there. -/
theorem spans_token_self_iff :
    (token l).spans l = [(0, byteSize l)] ↔ IsTokenIn l [] [] := by
  have honly : ∀ o, OccursAt l (IsTokenIn l) l o ↔ o = (0, byteSize l) ∧ IsTokenIn l [] [] := by
    intro o
    constructor
    · rintro ⟨pre, post, ht, rfl, hw⟩
      have hlen := congrArg List.length ht
      simp only [List.length_append] at hlen
      obtain rfl : pre = [] := List.length_eq_zero_iff.1 (by omega)
      obtain rfl : post = [] := List.length_eq_zero_iff.1 (by omega)
      exact ⟨rfl, hw⟩
    · rintro ⟨rfl, hw⟩
      exact ⟨[], [], by simp, rfl, hw⟩
  rw [spans_token_eq_iff hl, Leftmost.congr honly]
  constructor
  · exact fun h => (h.valid _ (List.mem_singleton_self _)).2
  · exact fun h => ⟨by simpa using h, List.pairwise_singleton _ _, fun o ho => .inl (by simp [ho.1])⟩

/-- Nothing can be found in front of a literal if it is not there that the literal starts. -/
theorem mem_spans_of_isTokenIn {pre post : Text}
    (hpre : pre = [] ∨ ∃ e, pre = [e] ∧ l.head? ≠ some e) (hw : IsTokenIn l pre post) :
    (byteSize pre, byteSize (pre ++ l)) ∈ (token l).spans (pre ++ l ++ post) := by
  have hleft := (spans_token_eq_iff hl (t := pre ++ l ++ post)).1 rfl
  refine hleft.mem_of_first ((Text.occursAt_iff l pre post).2 hw) ?_
  rintro _ ⟨pre', post', ht, rfl, -⟩
  rcases hpre with rfl | ⟨e, rfl, he⟩
  · exact Nat.zero_le _
  · cases pre' with
    | nil =>
      have hhead := congrArg List.head? ht
      rw [List.nil_append, List.head?_append_of_ne_nil _ hl] at hhead
      exact absurd hhead.symm he
    | cons d pre' =>
      obtain rfl : e = d := (List.cons.inj ht).1
      simp

/-- No match cuts a word just if every word character at an end of the literal asks for a
boundary. -/
theorem forall_spans_standsFree_iff :
    (∀ t, ∀ o ∈ (token l).spans t, OccursAt l (StandsFree l) t o) ↔
      ∀ c ∈ ends l, Unicode.isWord c = true → isEdge c = true := by
  have hletter : isWordAt (some 'a') = true := by decide
  constructor
  · intro h c hc hword
    by_contra hedge
    have hends : l.head? = some c ∨ l.getLast? = some c := by
      simpa [ends] using hc
    rcases hends with hc | hc
    · -- a letter in front, and behind whatever the other end asks for
      obtain ⟨post, hback⟩ : ∃ post : Text, isWordAt l.getLast? ≠ isWordAt post.head? := by
        cases hlast : isWordAt l.getLast? with
        | true => exact ⟨[], by simp [isWordAt]⟩
        | false => exact ⟨['a'], by rw [List.head?_cons, hletter]; exact Bool.false_ne_true⟩
      have hw : IsTokenIn l ['a'] post :=
        ⟨fun he => absurd (by simpa [hc] using he) hedge, fun _ => hback⟩
      have hne : l.head? ≠ some 'a' := by
        rw [hc]
        rintro ⟨rfl⟩
        exact hedge (by decide)
      have hfree := (Text.occursAt_iff l ['a'] post).1
        (h _ _ (mem_spans_of_isTokenIn hl (.inr ⟨'a', rfl, hne⟩) hw))
      refine hfree.front ⟨hletter, ?_⟩
      rw [List.head?_append_of_ne_nil _ hl, hc]
      exact hword
    · -- a letter behind, and in front whatever the other end asks for
      obtain ⟨pre, hpre, hfront⟩ : ∃ pre : Text, (pre = [] ∨ ∃ e, pre = [e] ∧ l.head? ≠ some e) ∧
          isWordAt pre.getLast? ≠ isWordAt l.head? := by
        cases hhead : isWordAt l.head? with
        | true => exact ⟨[], .inl rfl, by simp [isWordAt]⟩
        | false =>
          refine ⟨['a'], .inr ⟨'a', rfl, fun he => ?_⟩, by simpa using hletter⟩
          rw [he, hletter] at hhead
          cases hhead
      have hw : IsTokenIn l pre ['a'] :=
        ⟨fun _ => hfront, fun he => absurd (by simpa [hc] using he) hedge⟩
      have hfree := (Text.occursAt_iff l pre ['a']).1 (h _ _ (mem_spans_of_isTokenIn hl hpre hw))
      refine hfree.back ⟨?_, hletter⟩
      rw [List.getLast?_append_of_ne_nil _ hl, hc]
      exact hword
  · intro hends t o ho
    obtain ⟨pre, post, ht, ho, hw⟩ := ((spans_token_eq_iff hl).1 rfl).valid o ho
    exact ⟨pre, post, ht, ho, hw.standsFree hl hends⟩

/-- The pattern of a literal finds, from left to right, the occurrences with a word boundary at each
end that is alphanumeric or an underscore. So the literal by itself is found just if such ends are
word characters; no word is ever cut just if the ends that are word characters are such ends; and
the occurrences found are the leftmost ones that cut no word just if both hold. -/
theorem spans_token_spec :
    (∀ t spans, (token l).spans t = spans ↔ Leftmost (OccursAt l (IsTokenIn l) t) spans) ∧
    ((token l).spans l = [(0, byteSize l)] ↔
      ∀ c ∈ ends l, isEdge c = true → Unicode.isWord c = true) ∧
    ((∀ t, ∀ o ∈ (token l).spans t, OccursAt l (StandsFree l) t o) ↔
      ∀ c ∈ ends l, Unicode.isWord c = true → isEdge c = true) ∧
    ((∀ t, Leftmost (OccursAt l (StandsFree l) t) ((token l).spans t)) ↔
      ∀ c ∈ ends l, isEdge c = Unicode.isWord c) := by
  refine ⟨fun t spans => spans_token_eq_iff hl,
    (spans_token_self_iff hl).trans Text.isTokenIn_nil_iff, forall_spans_standsFree_iff hl, ?_⟩
  constructor
  · intro h c hc
    have hself : (0, byteSize l) ∈ (token l).spans l :=
      (h l).mem_of_first ⟨[], [], by simp, rfl, by simp [Text.CutsWord, isWordAt],
        by simp [Text.CutsWord, isWordAt]⟩ fun _ _ => Nat.zero_le _
    have hwhole : IsTokenIn l [] [] := by
      have hat := ((spans_token_eq_iff hl).1 rfl).valid _ hself
      rw [← List.append_nil l] at hat
      exact (Text.occursAt_iff l [] []).1 (by simpa using hat)
    exact Bool.eq_iff_iff.2 ⟨Text.isTokenIn_nil_iff.1 hwhole c hc,
      (forall_spans_standsFree_iff hl).1 (fun t => (h t).valid) c hc⟩
  · intro hends t
    refine (Leftmost.congr fun _ => Text.occursAt_congr fun pre post => ?_).1
      ((spans_token_eq_iff hl).1 rfl)
    exact ⟨fun h => h.standsFree hl fun c hc => (Bool.eq_iff_iff.1 (hends c hc)).2,
      fun h => h.isTokenIn hl fun c hc => (Bool.eq_iff_iff.1 (hends c hc)).1⟩

omit hl

theorem isEdge_eq_isWord_of_ascii {c : Char} (h : c.toNat < 0x80) : isEdge c = Unicode.isWord c := by
  rw [isEdge, Unicode.isAlphanumeric_of_ascii h, Unicode.isWord_of_ascii h, Unicode.isAsciiWord]

theorem spans_token_spec_decimal :
    "0.0".toList ≠ [] ∧
    (∀ t, Leftmost (OccursAt "0.0".toList (StandsFree "0.0".toList) t)
      ((token "0.0".toList).spans t)) ∧
    Leftmost (OccursAt "0.0".toList (IsTokenIn "0.0".toList) "0.0, 10.0, 0.0".toList)
      [(0, 3), (11, 14)] := by
  have hl : "0.0".toList ≠ [] := by decide
  have hascii : (ends "0.0".toList).all (decide <| ·.toNat < 0x80) = true := by decide
  simp only [List.all_eq_true, decide_eq_true_eq] at hascii
  exact ⟨hl, (spans_token_spec hl).2.2.2.2 fun c hc => isEdge_eq_isWord_of_ascii (hascii c hc),
    ((spans_token_spec hl).1 _ _).1 (by decide +kernel)⟩

/-- `³` is alphanumeric and not a word character, so a literal that ends in it is not found by
itself; a combining accent is a word character and not alphanumeric, so a literal that ends in one
is found inside of a longer word. -/
theorem spans_token_outside_ascii :
    ((token "x³".toList).spans "x³".toList = [] ∧
      ¬ Leftmost (OccursAt "x³".toList (StandsFree "x³".toList) "x³".toList) []) ∧
    ((token "cafe\u0301".toList).spans "cafe\u0301s".toList = [(0, 6)] ∧
      ¬ Leftmost (OccursAt "cafe\u0301".toList (StandsFree "cafe\u0301".toList)
        "cafe\u0301s".toList) [(0, 6)]) := by
  refine ⟨⟨by decide +kernel, fun h => ?_⟩, by decide +kernel, fun h => ?_⟩
  · have hself := h.mem_of_first (o := (0, 3))
      ⟨[], [], by simp, by decide, ⟨by decide +kernel, by decide +kernel⟩⟩ fun _ _ => Nat.zero_le _
    cases hself
  · have hfree := (Text.occursAt_iff "cafe\u0301".toList [] "s".toList).1
      (h.valid (0, 6) (List.mem_singleton_self _))
    exact hfree.back (by decide +kernel)

end Pattern

end VectorFamily
