import Mathlib.Data.List.SplitBy
import VectorFamily.Proofs.Pattern.Token

/-!
# Runs

A text is cut into runs where a word character meets another one: its words, however long, and the
gaps between them. The runs are of the two kinds by turns, and there is no other way to cut the text
like that (`runs_eq_iff`).
-/

namespace VectorFamily.Text

open Piece (isWordAt)

variable {t u : Text} {us : List Text}

/-- The longest pieces of the text with word characters only, and those with none. -/
def runs (t : Text) : List Text := t.splitBy fun a b => Unicode.isWord a == Unicode.isWord b

/-- Not empty, and with characters of one kind. -/
structure IsRun (u : Text) : Prop where
  ne : u ≠ []
  kind : ∀ c ∈ u, Unicode.isWord c = isWordAt u.head?

/-- Runs of the two kinds by turns. -/
structure ByTurns (us : List Text) : Prop where
  isRun : ∀ u ∈ us, IsRun u
  turn : us.IsChain fun u v => isWordAt u.head? ≠ isWordAt v.head?

theorem isRun_iff : IsRun u ↔
    u ≠ [] ∧ u.IsChain fun a b => (Unicode.isWord a == Unicode.isWord b) = true := by
  have huniform : (u.IsChain fun a b => (Unicode.isWord a == Unicode.isWord b) = true) ↔
      ∀ a ∈ u.head?, ∀ c ∈ u, Unicode.isWord c = Unicode.isWord a := by
    simp only [beq_iff_eq]
    rw [← List.isChain_map (R := fun a b : Bool => a = b), List.isChain_eq_iff_eq_replicate]
    simp [List.eq_replicate_iff]
  rw [huniform]
  constructor
  · intro h
    refine ⟨h.ne, fun a ha c hc => ?_⟩
    rw [h.kind c hc, Option.mem_def.1 ha]
    rfl
  · rintro ⟨hne, h⟩
    have hhead := List.head?_eq_some_head hne
    refine ⟨hne, fun c hc => ?_⟩
    rw [h _ hhead c hc, hhead]
    rfl

theorem IsRun.isWordAt_getLast? (hu : IsRun u) : isWordAt u.getLast? = isWordAt u.head? := by
  rw [List.getLast?_eq_some_getLast hu.ne]
  exact hu.kind _ (List.getLast_mem hu.ne)

theorem runs_eq_iff : runs t = us ↔ us.flatten = t ∧ ByTurns us := by
  have hturn (hus : ∀ u ∈ us, IsRun u) : (us.IsChain fun u v => ∃ hu hv,
      (Unicode.isWord (u.getLast hu) == Unicode.isWord (v.head hv)) = false) ↔
        us.IsChain fun u v => isWordAt u.head? ≠ isWordAt v.head? := by
    refine List.IsChain.iff_of_mem_imp fun u v hu hv => ?_
    have hlast := (hus u hu).isWordAt_getLast?
    rw [List.getLast?_eq_some_getLast (hus u hu).ne] at hlast
    rw [← hlast, List.head?_eq_some_head (hus v hv).ne]
    simp [isWordAt, (hus u hu).ne, (hus v hv).ne]
  rw [runs, List.splitBy_eq_iff]
  constructor
  · rintro ⟨rfl, hne, hchain, hsplit⟩
    have hus : ∀ u ∈ us, IsRun u := fun u hu =>
      isRun_iff.2 ⟨fun h => hne (h ▸ hu), hchain u hu⟩
    exact ⟨rfl, hus, (hturn hus).1 hsplit⟩
  · rintro ⟨rfl, hus, hsplit⟩
    exact ⟨rfl, fun hnil => (hus [] hnil).ne rfl, fun u hu => (isRun_iff.1 (hus u hu)).2,
      (hturn hus).2 hsplit⟩

theorem flatten_runs (t : Text) : (runs t).flatten = t := (runs_eq_iff.1 rfl).1

theorem byTurns_runs (t : Text) : ByTurns (runs t) := (runs_eq_iff.1 rfl).2

namespace ByTurns

theorem of_cons (h : ByTurns (u :: us)) : ByTurns us :=
  ⟨fun v hv => h.isRun v (List.mem_cons_of_mem u hv), h.turn.of_cons⟩

/-- Behind a run comes a character of the other kind, or nothing. -/
theorem isWordAt_head?_flatten (h : ByTurns (u :: us)) (hu : isWordAt u.head? = true) :
    isWordAt us.flatten.head? = false := by
  cases us with
  | nil => rfl
  | cons v us =>
    have hv := (h.isRun v (by simp)).ne
    have hne := (List.isChain_cons_cons.1 h.turn).1
    rw [List.flatten_cons, List.head?_append_of_ne_nil _ hv]
    simpa [hu] using hne

/-- A run in front of a word character ends with another character. -/
theorem isWordAt_getLast? (h : ByTurns (u :: us)) (hus : isWordAt us.flatten.head? = true) :
    isWordAt u.getLast? = false := by
  rw [(h.isRun u List.mem_cons_self).isWordAt_getLast?]
  refine Bool.eq_false_iff.2 fun hu => ?_
  exact absurd (hus.symm.trans (h.isWordAt_head?_flatten hu)) (by simp)

theorem map (h : ByTurns us) {f : Text → Text}
    (hf : ∀ u ∈ us, IsRun (f u) ∧ isWordAt (f u).head? = isWordAt u.head?) :
    ByTurns (us.map f) := by
  refine ⟨List.forall_mem_map.2 fun u hu => (hf u hu).1, (List.isChain_map f).2 ?_⟩
  refine (List.IsChain.iff_of_mem_imp fun u v hu hv => ?_).1 h.turn
  rw [(hf u hu).2, (hf v hv).2]

end ByTurns

end VectorFamily.Text
