import VectorFamily.Proofs.Pattern.Recognition
import VectorFamily.Proofs.Text.Runs

/-!
# Words and runs

A pattern that recognizes words sees a text run by run. A run that is one of the words is a match;
in any other run, a longer word among them, nothing is matched, and no match reaches from one run
into the next (`Recognizes.segments_eq_runs`).
-/

namespace VectorFamily.Pattern

open Piece (isWordAt)
open Text (IsRun ByTurns runs byTurns_runs flatten_runs)

/-- What a scan for the words meets in a run. -/
def runSegments (words : List Hit) (u : Text) : List Segment :=
  match words.find? (·.text = u) with
  | some w => [.hit w]
  | none => u.map .plain

theorem countP_runSegments (words : List Hit) (u : Text) :
    (runSegments words u).countP Segment.isHit =
      if (words.find? (·.text = u)).isSome = true then 1 else 0 := by
  rw [runSegments]
  split
  · next w hfind => simp [hfind, Segment.isHit]
  · next hfind => simp [hfind, List.countP_map, List.countP_eq_zero, Segment.isHit]

namespace Recognizes

variable {p : Pattern} {words : List Hit} (hp : p.Recognizes words)
  (hwords : ∀ w ∈ words, IsWord w.text)
include hp hwords

/-- A run that is none of the words is passed over. -/
theorem match?_eq_none_of_run {u a b rest : Text} (hu : IsRun u) (hnot : ∀ w ∈ words, w.text ≠ u)
    (hrest : isWordAt u.head? = true → isWordAt rest.head? = false) (hab : u = a ++ b)
    (hb : b ≠ []) (before : Option Char) :
    p.match? (a.getLast?.or before) (b ++ rest) = none := by
  refine Option.eq_none_iff_forall_ne_some.2 fun w hm => ?_
  obtain ⟨hmem, post, he, hw⟩ := (hp _ _ _).1 hm
  have hword := hwords w hmem
  obtain ⟨hfront, hback⟩ := hword.wholeToken_iff.1 hw
  -- where a word starts all characters of the run are word characters
  have hchars : ∀ c ∈ u, Unicode.isWord c = true := by
    have hhead : isWordAt b.head? = true := by
      rw [← List.head?_append_of_ne_nil b hb, he]
      exact hword.isWordAt_head? post
    rw [List.head?_eq_some_head hb] at hhead
    have hkind := hu.kind (b.head hb) (by simp [hab])
    intro c hc
    rw [hu.kind c hc, ← hkind]
    exact hhead
  have ha : a = [] := by
    by_contra ha
    have hlast := hchars (a.getLast ha) (by simp [hab])
    rw [List.getLast?_eq_some_getLast ha, Option.some_or] at hfront
    exact absurd (hlast.symm.trans hfront) (by simp)
  rw [ha, List.nil_append] at hab
  subst hab
  have hkind : isWordAt u.head? = true := by
    rw [← hu.kind _ (List.head_mem hb)]
    exact hchars _ (List.head_mem hb)
  refine hnot w hmem ?_
  rw [← hword.takeWhile_append hback, ← he]
  exact takeWhile_isWord_append hchars (hrest hkind)

theorem segmentsFrom_flatten {us : List Text} (hus : ByTurns us) {before : Option Char}
    (hbefore : isWordAt us.flatten.head? = true → isWordAt before = false) :
    segmentsFrom p before .apart us.flatten = us.flatMap (runSegments words) := by
  have hsolid : p.Solid := hp.solid fun w hw => (hwords w hw).ne
  induction us generalizing before with
  | nil => exact segmentsFrom_nil hsolid
  | cons u us ih =>
    have hu := hus.isRun u List.mem_cons_self
    have hnext := hus.isWordAt_head?_flatten
    have hlast : u.getLast?.or before = u.getLast? := by
      rw [List.getLast?_eq_some_getLast hu.ne, Option.some_or]
    rw [List.flatten_cons, List.flatMap_cons, ← ih hus.of_cons hus.isWordAt_getLast?, runSegments]
    split
    · next w hfind =>
      have hmem := List.mem_of_find?_eq_some hfind
      obtain rfl : w.text = u := by simpa using List.find?_some hfind
      have hhead : isWordAt w.text.head? = true := by
        simpa using (hwords w hmem).isWordAt_head? []
      have hfront : isWordAt before = false :=
        hbefore (by rw [List.flatten_cons, List.head?_append_of_ne_nil _ hu.ne, hhead])
      have hw := (hwords w hmem).wholeToken_iff.2 ⟨hfront, hnext hhead⟩
      rw [segmentsFrom_take hsolid ((hp _ _ _).2 ⟨hmem, _, rfl, hw⟩), hlast]
      rfl
    · next hfind =>
      have hnot : ∀ w ∈ words, w.text ≠ u := by simpa using List.find?_eq_none.1 hfind
      rw [segmentsFrom_append_of_match?_eq_none, hlast]
      intro a b hab hb
      exact match?_eq_none_of_run hp hwords hu hnot hnext hab hb before

/-- The scan of a text is that of its runs. -/
theorem segments_eq_runs (t : Text) : p.segments t = (runs t).flatMap (runSegments words) := by
  conv_lhs => rw [← flatten_runs t]
  exact segmentsFrom_flatten hp hwords (byTurns_runs t) fun _ => rfl

theorem replaceAll_eq_runs (render : Hit → Text) (t : Text) : p.replaceAll render t =
    ((runs t).flatMap fun u => ((words.find? (·.text = u)).map render).getD u,
      (runs t).countP fun u => (words.find? (·.text = u)).isSome) := by
  refine Prod.ext ?_ ?_
  · rw [replaceAll_fst, segments_eq_runs hp hwords, List.flatMap_assoc]
    refine List.flatMap_congr fun u _ => ?_
    rw [runSegments]
    split
    · next w hfind => simp [hfind, Segment.replaced]
    · next hfind => rw [hfind, flatMap_replaced_map_plain]; rfl
  · rw [replaceAll_snd, segments_eq_runs hp hwords]
    induction runs t with
    | nil => rfl
    | cons u us ih =>
      rw [List.flatMap_cons, List.countP_append, ih, countP_runSegments, List.countP_cons,
        Nat.add_comm]

end Recognizes

end VectorFamily.Pattern
