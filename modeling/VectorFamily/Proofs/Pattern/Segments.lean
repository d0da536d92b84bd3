import Mathlib.Data.List.Basic
import VectorFamily.Proofs.Pattern.Scan

/-!
# Taking a scan apart

A scan is a list of segments whose texts make up the text. It can be cut at any position of the text
that is not inside a match (`Segment.cut`), and what it says of a segment is what the pattern says
at the position of the segment (`found_of_segments_eq`).
-/

namespace VectorFamily

namespace Segment

theorem cut {segs : List Segment} {u v : Text} (h : segs.flatMap text = u ++ v) :
    (∃ s₁ s₂, segs = s₁ ++ s₂ ∧ s₁.flatMap text = u ∧ s₂.flatMap text = v) ∨
    ∃ s₁ found s₂ x y, segs = s₁ ++ .hit found :: s₂ ∧ x ≠ [] ∧ y ≠ [] ∧ found.text = x ++ y ∧
      u = s₁.flatMap text ++ x ∧ v = y ++ s₂.flatMap text := by
  induction segs generalizing u with
  | nil => exact .inl ⟨[], [], rfl, (List.nil_eq_append_iff.1 h).1.symm,
      (List.nil_eq_append_iff.1 h).2.symm⟩
  | cons s segs ih =>
    rw [List.flatMap_cons] at h
    by_cases hu : u = []
    · subst hu
      exact .inl ⟨[], s :: segs, rfl, rfl, by simpa using h⟩
    rcases List.append_eq_append_iff.1 h with ⟨u', rfl, h'⟩ | ⟨y, hs, rfl⟩
    · rcases ih h' with ⟨s₁, s₂, rfl, rfl, rfl⟩ | ⟨s₁, found, s₂, x, y, rfl, hx, hy, ht, rfl, rfl⟩
      · exact .inl ⟨s :: s₁, s₂, rfl, by simp, rfl⟩
      · exact .inr ⟨s :: s₁, found, s₂, x, y, rfl, hx, hy, ht, by simp, rfl⟩
    · by_cases hy : y = []
      · subst hy
        exact .inl ⟨[s], segs, rfl, by simpa using hs, rfl⟩
      · cases s with
        | plain c =>
          have hlen := congrArg List.length hs
          have := List.length_pos_iff.2 hu
          have := List.length_pos_iff.2 hy
          simp only [text, List.length_singleton, List.length_append] at hlen
          omega
        | hit found => exact .inr ⟨[], found, segs, u, y, rfl, hu, hy, hs, by simp, rfl⟩

/-- A piece of the text that no match reaches into is covered by segments of its own. -/
theorem split {segs : List Segment} {pre m post : Text}
    (h : segs.flatMap text = pre ++ m ++ post) (hne : ∀ found, .hit found ∈ segs → found.text ≠ [])
    (apart : ∀ s₁ found s₂, segs = s₁ ++ .hit found :: s₂ →
      (s₁.flatMap text).length + found.text.length ≤ pre.length ∨
        pre.length + m.length ≤ (s₁.flatMap text).length) :
    ∃ s₁ s₂ s₃, segs = s₁ ++ s₂ ++ s₃ ∧ s₁.flatMap text = pre ∧ s₂.flatMap text = m ∧
      s₃.flatMap text = post ∧ ∀ found, .hit found ∉ s₂ := by
  rcases cut (h.trans (List.append_assoc ..)) with
    ⟨s₁, s', rfl, hs₁, hs'⟩ | ⟨s₁, found, s₂, x, y, he, hx, hy, hfound, hpre, -⟩
  · rcases cut hs' with ⟨s₂, s₃, rfl, hs₂, hs₃⟩ | ⟨s₂, found, s₃, x, y, rfl, hx, hy, hfound, hm, -⟩
    · refine ⟨s₁, s₂, s₃, (List.append_assoc ..).symm, hs₁, hs₂, hs₃, fun found hmem => ?_⟩
      obtain ⟨a, b, rfl⟩ := List.append_of_mem hmem
      have hfound := List.length_pos_iff.2 (hne found (by simp))
      have := apart (s₁ ++ a) found (b ++ s₃) (by simp)
      simp only [List.flatMap_append, hs₁, List.length_append, ← hs₂, List.flatMap_cons,
        text] at this
      omega
    · have := apart (s₁ ++ s₂) found s₃ (by simp)
      have hx := List.length_pos_iff.2 hx
      have hy := List.length_pos_iff.2 hy
      simp only [List.flatMap_append, hs₁, List.length_append, hm, hfound] at this
      omega
  · have := apart _ _ _ he
    have hx := List.length_pos_iff.2 hx
    have hy := List.length_pos_iff.2 hy
    simp only [hpre, List.length_append, hfound] at this
    omega

theorem flatMap_replaced_of_plain {render : Hit → Text} {segs : List Segment}
    (h : ∀ found, .hit found ∉ segs) : segs.flatMap (replaced render) = segs.flatMap text := by
  refine List.flatMap_congr fun s hs => ?_
  cases s with
  | plain c => rfl
  | hit found => exact absurd hs (h found)

/-- What the pattern says where the segment starts. -/
def FoundBy (p : Pattern) (before : Option Char) (rest : Text) : Segment → Prop
  | plain c => p.match? before (c :: rest) = none
  | hit found => p.match? before (found.text ++ rest) = some found

end Segment

namespace Pattern

variable {p : Pattern}

theorem append_singleton_eq_append_cons {α : Type _} {l s₁ s₂ : List α} {x s : α}
    (h : l ++ [x] = s₁ ++ s :: s₂) :
    (s₂ = [] ∧ s₁ = l ∧ s = x) ∨ ∃ s₂', s₂ = s₂' ++ [x] ∧ l = s₁ ++ s :: s₂' := by
  rcases List.eq_nil_or_concat s₂ with rfl | ⟨s₂, x', rfl⟩
  · obtain ⟨rfl, hx⟩ := List.append_inj' h rfl
    exact .inl ⟨rfl, rfl, (List.singleton_inj.1 hx).symm⟩
  · rw [List.concat_eq_append, ← List.cons_append, ← List.append_assoc] at h
    obtain ⟨rfl, hx⟩ := List.append_inj' h rfl
    obtain rfl := List.singleton_inj.1 hx
    exact .inr ⟨s₂, by simp, rfl⟩

theorem found_of_segments_eq (hp : p.Solid) {t : Text} {s₁ s₂ : List Segment} {s : Segment}
    (h : p.segments t = s₁ ++ s :: s₂) :
    s.FoundBy p (s₁.flatMap Segment.text).getLast? (s₂.flatMap Segment.text) := by
  -- what was found stays true while the scan goes on, since the text behind stays the same
  have step {met : List Segment} {x : Segment} {rest : Text}
      (hmet : ∀ s₁ s s₂, met = s₁ ++ s :: s₂ →
        s.FoundBy p (s₁.flatMap Segment.text).getLast?
          (s₂.flatMap Segment.text ++ (x.text ++ rest)))
      (hx : x.FoundBy p (met.flatMap Segment.text).getLast? rest) (s₁ : List Segment) (s : Segment)
      (s₂ : List Segment) (he : met ++ [x] = s₁ ++ s :: s₂) :
      s.FoundBy p (s₁.flatMap Segment.text).getLast? (s₂.flatMap Segment.text ++ rest) := by
    rcases append_singleton_eq_append_cons he with ⟨rfl, rfl, rfl⟩ | ⟨s₂', rfl, he'⟩
    · exact hx
    · simpa using hmet s₁ s s₂' he'
  have walk : t = (p.segments t).flatMap Segment.text ∧
      ∀ s₁ s s₂, p.segments t = s₁ ++ s :: s₂ →
        s.FoundBy p (s₁.flatMap Segment.text).getLast? (s₂.flatMap Segment.text ++ []) := by
    refine segments_induction hp (motive := fun read met rest => read = met.flatMap Segment.text ∧
      ∀ s₁ s s₂, met = s₁ ++ s :: s₂ →
        s.FoundBy p (s₁.flatMap Segment.text).getLast? (s₂.flatMap Segment.text ++ rest))
      ?skip ?take ?start
    case start => exact ⟨rfl, by simp⟩
    case skip =>
      rintro read met c rest ⟨rfl, hmet⟩ hm
      exact ⟨by simp [Segment.text], step hmet hm⟩
    case take =>
      rintro read met found rest ⟨rfl, hmet⟩ hm
      exact ⟨by simp [Segment.text], step hmet hm⟩
  simpa using walk.2 s₁ s s₂ h

theorem match?_of_segments_eq (hp : p.Solid) {t : Text} {s₁ s₂ : List Segment} {found : Hit}
    (h : p.segments t = s₁ ++ .hit found :: s₂) :
    p.match? (s₁.flatMap Segment.text).getLast? (found.text ++ s₂.flatMap Segment.text) =
      some found :=
  found_of_segments_eq hp h

theorem text_ne_nil_of_mem_segments (hp : p.Solid) {t : Text} {found : Hit}
    (h : .hit found ∈ p.segments t) : found.text ≠ [] := by
  obtain ⟨s₁, s₂, he⟩ := List.append_of_mem h
  exact hp _ _ _ (match?_of_segments_eq hp he)

/-! ### Replacing up to a position and from there on -/

section
variable {render : Hit → Text} {t : Text} {s₁ s₂ : List Segment}

/-- The last character in front of a position is still there when matches that end with it keep
it. -/
theorem getLast?_flatMap_replaced (hp : p.Solid) (he : p.segments t = s₁ ++ s₂)
    {before : Option Char} (hlast : (s₁.flatMap Segment.text).getLast? = before)
    (keep : ∀ (pre : Text) (found : Hit), s₁.flatMap Segment.text = pre ++ found.text →
      p.match? pre.getLast? (found.text ++ s₂.flatMap Segment.text) = some found →
      (render found).getLast? = before) :
    (s₁.flatMap (Segment.replaced render)).getLast? = before := by
  rcases List.eq_nil_or_concat s₁ with rfl | ⟨s₁, s, rfl⟩
  · exact hlast
  · cases s with
    | plain c => simpa [Segment.replaced, Segment.text] using hlast
    | hit found =>
      have hcut : p.segments t = s₁ ++ .hit found :: s₂ := by
        rw [he]
        simp
      have hm := match?_of_segments_eq hp hcut
      have hne := hp _ _ _ hm
      have hfound : found.text.getLast? = before := by
        simpa [Segment.text, List.getLast?_append_of_ne_nil _ hne] using hlast
      have hrender := keep _ _ (by simp [Segment.text]) hm
      have hne' : render found ≠ [] := by
        intro hnil
        rw [hnil, List.getLast?_nil, ← hfound] at hrender
        exact hne (List.getLast?_eq_none_iff.1 hrender.symm)
      simp [Segment.replaced, List.getLast?_append_of_ne_nil _ hne', hrender]

/-- The first character behind a position is still there when matches that start with it keep it. -/
theorem head?_flatMap_replaced (hp : p.Solid) (he : p.segments t = s₁ ++ s₂)
    {after : Option Char} (hhead : (s₂.flatMap Segment.text).head? = after)
    (keep : ∀ (found : Hit) (post : Text), s₂.flatMap Segment.text = found.text ++ post →
      p.match? (s₁.flatMap Segment.text).getLast? (found.text ++ post) = some found →
      (render found).head? = after) :
    (s₂.flatMap (Segment.replaced render)).head? = after := by
  cases s₂ with
  | nil => exact hhead
  | cons s s₂ =>
    cases s with
    | plain c => simpa [Segment.replaced, Segment.text] using hhead
    | hit found =>
      have hm := match?_of_segments_eq hp he
      have hne := hp _ _ _ hm
      have hfound : found.text.head? = after := by
        simpa [Segment.text, List.head?_append_of_ne_nil _ hne] using hhead
      have hrender := keep _ _ (by simp [Segment.text]) hm
      have hne' : render found ≠ [] := by
        intro hnil
        rw [hnil, List.head?_nil, ← hfound] at hrender
        exact hne (List.head?_eq_none_iff.1 hrender.symm)
      simp [Segment.replaced, List.head?_append_of_ne_nil _ hne', hrender]

end

/-! ### Counting -/

theorem replaceAll_snd (p : Pattern) (render : Hit → Text) (t : Text) :
    (p.replaceAll render t).2 = (p.segments t).countP Segment.isHit := by
  simp [replaceAll, fold_eq_foldl, foldl_replaced]

/-- A pattern that matches at some position of a text has a match there or across the position. -/
theorem replaceAll_snd_ne_zero (hp : p.Solid) {u v : Text} {found : Hit}
    (hm : p.match? u.getLast? v = some found) (render : Hit → Text) :
    (p.replaceAll render (u ++ v)).2 ≠ 0 := by
  have hhit : ∃ found, .hit found ∈ p.segments (u ++ v) := by
    rcases Segment.cut (flatMap_text_segments p (u ++ v)) with
      ⟨s₁, s₂, hs, rfl, hv⟩ | ⟨s₁, found', s₂, -, -, hs, -⟩
    · cases s₂ with
      | nil =>
        obtain rfl : [] = v := hv
        rw [match?_nil_of_solid hp] at hm
        cases hm
      | cons s s₂ =>
        cases s with
        | hit found' => exact ⟨found', by simp [hs]⟩
        | plain c =>
          have hnone := found_of_segments_eq hp hs
          rw [← hv] at hm
          exact absurd (hm.symm.trans hnone) (by simp)
    · exact ⟨found', by simp [hs]⟩
  obtain ⟨found', hmem⟩ := hhit
  rw [replaceAll_snd]
  exact Nat.ne_of_gt (List.countP_pos_iff.2 ⟨_, hmem, rfl⟩)

end Pattern

end VectorFamily
