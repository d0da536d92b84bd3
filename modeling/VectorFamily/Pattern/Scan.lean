import VectorFamily.Pattern.Basic

/-!
# Finding every match

A scan goes through a text from left to right and tries the pattern at each position that is not
inside an earlier match. A match without characters does not count directly behind another match.
`segments` lists what a scan meets, characters and matches; `fold` consumes the same list without
building it (`fold_eq_foldl`).
-/

namespace VectorFamily

/-- A character outside all matches, or a match. -/
inductive Segment where
  | plain (c : Char)
  | hit (h : Hit)
deriving DecidableEq, Repr

namespace Segment

/-- The piece of the text that the segment covers. -/
def text : Segment → Text
  | plain c => [c]
  | hit h => h.text

/-- One of two functions, by the kind of the segment. -/
def elim {σ : Type _} (onChar : σ → Char → σ) (onHit : σ → Hit → σ) (s : σ) : Segment → σ
  | plain c => onChar s c
  | hit h => onHit s h

end Segment

namespace Pattern

/-- Where a scan stands: apart from the last match, or in it with `left` characters still to come.
Directly behind a match nothing is left. -/
inductive Stand where
  | apart
  | inside (left : Nat)
deriving DecidableEq, Repr

/-- The segments of a text, from a position on. -/
def segmentsFrom (p : Pattern) : Option Char → Stand → Text → List Segment
  | before, .apart, [] => (p.match? before []).toList.map .hit
  | _, .inside _, [] => []
  | _, .inside (n + 1), c :: t => segmentsFrom p (some c) (.inside n) t
  | before, stand, c :: t =>
    match p.match? before (c :: t) with
    | none => .plain c :: segmentsFrom p (some c) .apart t
    | some h =>
      match h.text.length with
      -- an empty match goes on behind the next character, or the scan would stand still
      | 0 =>
        (if stand = .apart then [.hit h] else []) ++ .plain c :: segmentsFrom p (some c) .apart t
      | n + 1 => .hit h :: segmentsFrom p (some c) (.inside n) t

def segments (p : Pattern) (t : Text) : List Segment := segmentsFrom p none .apart t

/-- Runs through the segments of a text from a position on, with a state. -/
@[specialize] def foldFrom {σ : Type _} (p : Pattern) (onChar : σ → Char → σ)
    (onHit : σ → Hit → σ) : Option Char → Stand → σ → Text → σ
  | before, .apart, s, [] => ((p.match? before []).map (onHit s)).getD s
  | _, .inside _, s, [] => s
  | _, .inside (n + 1), s, c :: t => foldFrom p onChar onHit (some c) (.inside n) s t
  | before, stand, s, c :: t =>
    match p.match? before (c :: t) with
    | none => foldFrom p onChar onHit (some c) .apart (onChar s c) t
    | some h =>
      match h.text.length with
      | 0 =>
        foldFrom p onChar onHit (some c) .apart
          (onChar (if stand = .apart then onHit s h else s) c) t
      | n + 1 => foldFrom p onChar onHit (some c) (.inside n) (onHit s h) t

@[inline] def fold {σ : Type _} (p : Pattern) (onChar : σ → Char → σ) (onHit : σ → Hit → σ) (s : σ)
    (t : Text) : σ :=
  foldFrom p onChar onHit none .apart s t

theorem foldFrom_eq_foldl {σ : Type _} (p : Pattern) (onChar : σ → Char → σ) (onHit : σ → Hit → σ)
    (before : Option Char) (stand : Stand) (s : σ) (t : Text) :
    foldFrom p onChar onHit before stand s t =
      (segmentsFrom p before stand t).foldl (Segment.elim onChar onHit) s := by
  induction t generalizing before stand s with
  | nil =>
    cases stand with
    | apart => cases h : p.match? before [] <;> simp [foldFrom, segmentsFrom, h, Segment.elim]
    | inside n => simp [foldFrom, segmentsFrom]
  | cons c t ih =>
    rcases stand with _ | _ | n
    · cases h : p.match? before (c :: t) with
      | none => simp [foldFrom, segmentsFrom, h, Segment.elim, ih]
      | some h' =>
        cases hl : h'.text.length <;> simp [foldFrom, segmentsFrom, h, hl, Segment.elim, ih]
    · cases h : p.match? before (c :: t) with
      | none => simp [foldFrom, segmentsFrom, h, Segment.elim, ih]
      | some h' =>
        cases hl : h'.text.length <;> simp [foldFrom, segmentsFrom, h, hl, Segment.elim, ih]
    · simp [foldFrom, segmentsFrom, ih]

theorem fold_eq_foldl {σ : Type _} (p : Pattern) (onChar : σ → Char → σ) (onHit : σ → Hit → σ)
    (s : σ) (t : Text) :
    p.fold onChar onHit s t = (p.segments t).foldl (Segment.elim onChar onHit) s :=
  foldFrom_eq_foldl p onChar onHit none .apart s t

/-- Nothing is lost and nothing moves: from a position `n` characters before the end of a match,
the segments cover all but those characters. -/
theorem flatMap_text_segmentsFrom (p : Pattern) (before : Option Char) (stand : Stand) (t : Text) :
    (segmentsFrom p before stand t).flatMap Segment.text =
      t.drop (match stand with | .apart => 0 | .inside n => n) := by
  induction t generalizing before stand with
  | nil =>
    cases stand with
    | apart =>
      cases h : p.match? before [] with
      | none => simp [segmentsFrom, h]
      | some h' => simpa [segmentsFrom, h, Segment.text] using prefix_of_match? h
    | inside n => simp [segmentsFrom]
  | cons c t ih =>
    have key (stand : Stand) (hs : stand = .apart ∨ stand = .inside 0) :
        (segmentsFrom p before stand (c :: t)).flatMap Segment.text = c :: t := by
      rw [segmentsFrom.eq_4 _ _ _ _ _ (by rintro n rfl; simp at hs)]
      cases h : p.match? before (c :: t) with
      | none => simp [Segment.text, ih]
      | some h' =>
        obtain ⟨r, hr⟩ := prefix_of_match? h
        cases hl : h'.text with
        | nil => by_cases hs : stand = .apart <;> simp [hs, hl, Segment.text, ih]
        | cons d u =>
          rw [hl] at hr
          simp only [List.cons_append, List.cons.injEq] at hr
          obtain ⟨rfl, rfl⟩ := hr
          simp [hl, Segment.text, ih]
    rcases stand with _ | _ | n
    · exact key _ (.inl rfl)
    · exact key _ (.inr rfl)
    · simp [segmentsFrom, ih]

theorem flatMap_text_segments (p : Pattern) (t : Text) :
    (p.segments t).flatMap Segment.text = t :=
  flatMap_text_segmentsFrom p none .apart t

/-! ### What is read off a scan -/

/-- The text with every match replaced, and the number of matches. -/
def replaceAll (p : Pattern) (render : Hit → Text) (t : Text) : Text × Nat :=
  let out := p.fold (fun s c => (c :: s.1, s.2)) (fun s h => ((render h).reverse ++ s.1, s.2 + 1))
    (([] : Text), 0) t
  (out.1.reverse, out.2)

/-- Where the matches start and end, in bytes. -/
def spans (p : Pattern) (t : Text) : List (Nat × Nat) :=
  let out := p.fold (fun s c => (s.1 + c.utf8Size, s.2))
    (fun s h => (s.1 + h.text.byteSize, (s.1, s.1 + h.text.byteSize) :: s.2)) (0, []) t
  out.2.reverse

/-- The first match at or behind a position, with the text between and the text after it. -/
def findFrom (p : Pattern) : Option Char → Text → Text → Option (Text × Hit × Text)
  | before, passed, [] => (p.match? before []).map fun h => (passed.reverse, h, [])
  | before, passed, c :: t =>
    match p.match? before (c :: t) with
    | some h => some (passed.reverse, h, (c :: t).drop h.text.length)
    | none => findFrom p (some c) (c :: passed) t

/-- The first match, with the text before and after it. -/
def find? (p : Pattern) (t : Text) : Option (Text × Hit × Text) := findFrom p none [] t

def occursIn (p : Pattern) (t : Text) : Bool := (p.find? t).isSome

theorem append_of_findFrom {p : Pattern} {before : Option Char} {passed t pre post : Text} {h : Hit}
    (hf : findFrom p before passed t = some (pre, h, post)) :
    pre ++ h.text ++ post = passed.reverse ++ t := by
  induction t generalizing before passed with
  | nil =>
    simp only [findFrom, Option.map_eq_some_iff, Prod.mk.injEq] at hf
    obtain ⟨h', hm, rfl, rfl, rfl⟩ := hf
    simpa using prefix_of_match? hm
  | cons c t ih =>
    simp only [findFrom] at hf
    split at hf
    · next h' hm =>
      simp only [Option.some.injEq, Prod.mk.injEq] at hf
      obtain ⟨rfl, rfl, rfl⟩ := hf
      obtain ⟨r, hr⟩ := prefix_of_match? hm
      simp [← hr]
    · simpa using ih hf

theorem append_of_find? {p : Pattern} {t pre post : Text} {h : Hit}
    (hf : p.find? t = some (pre, h, post)) : pre ++ h.text ++ post = t := by
  simpa using append_of_findFrom hf

theorem segments_of_findFrom_none {p : Pattern} {before : Option Char} {passed t : Text}
    (hf : findFrom p before passed t = none) :
    segmentsFrom p before .apart t = t.map .plain := by
  induction t generalizing before passed with
  | nil => simpa [findFrom, segmentsFrom] using hf
  | cons c t ih =>
    simp only [findFrom] at hf
    split at hf
    · simp at hf
    · next hm => simp [segmentsFrom, hm, ih hf]

end Pattern

end VectorFamily
