import VectorFamily.Proofs.Pattern.Segments
import VectorFamily.Proofs.Pattern.Token
import VectorFamily.Proofs.Text.Occurrence

/-!
# Replacing beside a token

Replacing the matches of one pattern leaves a whole token of some other literal alone if no match
reaches into it and what is put beside it does not touch the word boundaries at its ends.
`StandsBetween.replaceAll` proves it; `Spares` is what has to be known of the pattern.
-/

namespace VectorFamily

open Piece (isWordAt)

/-- The literal stands in the text, next to the given characters at each end that asks for a word
boundary. -/
def StandsBetween (before : Option Char) (m : Text) (after : Option Char) (t : Text) : Prop :=
  ∃ pre post, t = pre ++ m ++ post ∧
    (m.head?.any Pattern.isEdge = true → pre.getLast? = before) ∧
    (m.getLast?.any Pattern.isEdge = true → post.head? = after)

namespace Pattern

/-- In no text does a match share a character with a whole token. -/
def ClearOf (p : Pattern) (m : Text) : Prop :=
  ∀ (pre : Text) (found : Hit) (post u v : Text),
    p.match? pre.getLast? (found.text ++ post) = some found →
    pre ++ found.text ++ post = u ++ m ++ v → WholeToken u.getLast? m v.head? →
    pre.length + found.text.length ≤ u.length ∨ u.length + m.length ≤ pre.length

/-- Replacing matches leaves whole tokens alone that stand between the given characters. -/
structure Spares (p : Pattern) (render : Hit → Text) (before : Option Char) (m : Text)
    (after : Option Char) : Prop where
  apart : p.ClearOf m
  /-- A match directly in front of a whole token keeps its last character. -/
  front : m.head?.any isEdge = true → ∀ (pre : Text) (found : Hit) (post : Text),
    p.match? pre.getLast? (found.text ++ (m ++ post)) = some found →
    WholeToken found.text.getLast? m post.head? → found.text.getLast? = before →
    (render found).getLast? = before
  /-- A match directly behind a whole token keeps its first character. -/
  back : m.getLast?.any isEdge = true → ∀ (pre : Text) (found : Hit) (post : Text),
    p.match? (pre ++ m).getLast? (found.text ++ post) = some found →
    WholeToken pre.getLast? m found.text.head? → found.text.head? = after →
    (render found).head? = after

/-- Between word characters and matches that are words there is always something else, so nothing
has to be known of what is put in. -/
theorem spares_of_words {p : Pattern} {m : Text} (hhead : isWordAt m.head? = true)
    (hlast : m.getLast?.any isEdge = true → isWordAt m.getLast? = true)
    (hp : ∀ before rest found, p.match? before rest = some found → Text.Apart found.text m ∧
      isWordAt found.text.head? = true ∧ isWordAt found.text.getLast? = true)
    (render : Hit → Text) (before after : Option Char) : p.Spares render before m after where
  apart := fun _ _ _ _ _ hm he _ => (hp _ _ _ hm).1.le_or_le he
  front := by
    intro hedge pre found post hm hw
    have := hw.front hedge
    rw [hhead, (hp _ _ _ hm).2.2] at this
    exact absurd rfl this
  back := by
    intro hedge pre found post hm hw
    have := hw.back hedge
    rw [hlast hedge, (hp _ _ _ hm).2.1] at this
    exact absurd rfl this

end Pattern

namespace StandsBetween

variable {before after : Option Char} {m t : Text}

theorem wholeToken (hw : WholeToken before m after) {pre post : Text}
    (hfront : m.head?.any Pattern.isEdge = true → pre.getLast? = before)
    (hback : m.getLast?.any Pattern.isEdge = true → post.head? = after) :
    WholeToken pre.getLast? m post.head? :=
  ⟨fun he => by rw [hfront he]; exact hw.front he, fun he => by rw [hback he]; exact hw.back he⟩

variable {p : Pattern} {render : Hit → Text}

/-- Between segments that cover a whole token there is no match, since none reaches into it. -/
theorem exists_segments (hp : p.Solid) (hapart : p.ClearOf m) {pre post : Text}
    (hw : WholeToken pre.getLast? m post.head?) : ∃ s₁ s₂ s₃,
      p.segments (pre ++ m ++ post) = s₁ ++ s₂ ++ s₃ ∧ s₁.flatMap Segment.text = pre ∧
      s₂.flatMap Segment.text = m ∧ s₃.flatMap Segment.text = post ∧
      ∀ found, .hit found ∉ s₂ := by
  have htext := Pattern.flatMap_text_segments p (pre ++ m ++ post)
  refine Segment.split htext (fun _ => Pattern.text_ne_nil_of_mem_segments hp) ?_
  intro s₁ found s₂ he
  have hm := Pattern.match?_of_segments_eq hp he
  rw [he] at htext
  exact hapart _ _ _ _ _ hm (by simpa [Segment.text] using htext) hw

/-- A whole token that no match reaches into stays if the matches directly beside it, if there are
any, keep the characters there. -/
theorem replaceAll_of_beside {pre post : Text} (hp : p.Solid) (hapart : p.ClearOf m)
    (hw : WholeToken pre.getLast? m post.head?)
    (hfront : m.head?.any Pattern.isEdge = true → ∀ u found, pre = u ++ found.text →
      p.match? u.getLast? (found.text ++ (m ++ post)) = some found →
      (render found).getLast? = pre.getLast?)
    (hback : m.getLast?.any Pattern.isEdge = true → ∀ found v, post = found.text ++ v →
      p.match? (pre ++ m).getLast? (found.text ++ v) = some found →
      (render found).head? = post.head?) :
    StandsBetween pre.getLast? m post.head? (p.replaceAll render (pre ++ m ++ post)).1 := by
  obtain ⟨s₁, s₂, s₃, he, rfl, hs₂, rfl, hplain⟩ := exists_segments hp hapart hw
  refine ⟨s₁.flatMap (Segment.replaced render), s₃.flatMap (Segment.replaced render), ?_, ?_, ?_⟩
  · rw [Pattern.replaceAll_fst, he, List.flatMap_append, List.flatMap_append,
      Segment.flatMap_replaced_of_plain hplain, hs₂]
  · intro hedge
    refine Pattern.getLast?_flatMap_replaced hp (he.trans (List.append_assoc ..)) rfl
      fun u found hu hm => ?_
    rw [List.flatMap_append, hs₂] at hm
    exact hfront hedge u found hu hm
  · intro hedge
    refine Pattern.head?_flatMap_replaced hp he rfl fun found v hv hm => ?_
    rw [List.flatMap_append, hs₂] at hm
    exact hback hedge found v hv hm

theorem replaceAll (hp : p.Solid) (hw : WholeToken before m after)
    (hs : p.Spares render before m after) (h : StandsBetween before m after t) :
    StandsBetween before m after (p.replaceAll render t).1 := by
  obtain ⟨pre, post, rfl, hfront, hback⟩ := h
  have hwhole := wholeToken hw hfront hback
  obtain ⟨pre', post', ht, hfront', hback'⟩ : StandsBetween pre.getLast? m post.head?
      (p.replaceAll render (pre ++ m ++ post)).1 := by
    refine replaceAll_of_beside hp hs.apart hwhole (fun hedge u found hu hm => ?_)
      fun hedge found v hv hm => ?_
    · have hlast : found.text.getLast? = pre.getLast? := by
        rw [hu, List.getLast?_append_of_ne_nil _ (hp _ _ _ hm)]
      rw [hfront hedge] at hlast ⊢
      refine hs.front hedge u found post hm ?_ hlast
      rw [hlast, ← hfront hedge]
      exact hwhole
    · have hhead : found.text.head? = post.head? := by
        rw [hv, List.head?_append_of_ne_nil _ (hp _ _ _ hm)]
      rw [hback hedge] at hhead ⊢
      refine hs.back hedge pre found v hm ?_ hhead
      rw [hhead, ← hback hedge]
      exact hwhole
  exact ⟨pre', post', ht, fun hedge => (hfront' hedge).trans (hfront hedge),
    fun hedge => (hback' hedge).trans (hback hedge)⟩

theorem replaceAll_snd_ne_zero (hne : m ≠ []) (hw : WholeToken before m after)
    (h : StandsBetween before m after t) (render : Hit → Text) :
    ((Pattern.token m).replaceAll render t).2 ≠ 0 := by
  obtain ⟨pre, post, rfl, hfront, hback⟩ := h
  rw [List.append_assoc]
  exact Pattern.replaceAll_snd_ne_zero (Pattern.solid_token hne)
    (Pattern.match?_token_eq_some.2 ⟨post, rfl, wholeToken hw hfront hback, rfl⟩) render

end StandsBetween

end VectorFamily
