import Mathlib.Data.List.Basic
import Mathlib.Data.List.TakeWhile
import VectorFamily.Proofs.Pattern.Lines
import VectorFamily.Proofs.Rule.Rewrite

/-!
# Characters that rules leave alone

Rules neither take out nor bring in characters that none of their patterns can match and none of
their replacements holds. Those characters of a text, in their order, are the same after any number
of such rules (`Rule.filter_rewrite`), whatever becomes of the rest.
-/

namespace VectorFamily

variable {P : Char → Bool}

def Text.Avoids (P : Char → Bool) (t : Text) : Prop := ∀ c ∈ t, P c = false

theorem Text.avoids_iff_filter_eq_nil {t : Text} : t.Avoids P ↔ t.filter P = [] := by
  simp [Text.Avoids]

theorem Text.avoids_of_all {t : Text} (h : t.all (!P ·) = true) : t.Avoids P := by
  simpa [Text.Avoids] using h

theorem Text.avoids_append {t u : Text} : Text.Avoids P (t ++ u) ↔ t.Avoids P ∧ u.Avoids P :=
  List.forall_mem_append

def Piece.Avoids (P : Char → Bool) : Piece → Prop
  | boundary | lineStart | lineEnd => True
  | oneOf options => ∀ option ∈ options, Text.Avoids P option
  | run cls _ => ∀ c, cls.has c = true → P c = false

theorem Piece.avoids_of_take? {piece : Piece} (hpiece : piece.Avoids P) {before : Option Char}
    {rest taken : Text} (h : piece.take? before rest = some taken) : taken.Avoids P := by
  cases piece with
  | boundary | lineStart | lineEnd =>
    simp only [take?, Option.ite_none_right_eq_some, Option.some.injEq] at h
    rw [← h.2]
    exact List.forall_mem_nil _
  | oneOf options => exact hpiece taken (List.mem_of_find?_eq_some h)
  | run cls least =>
    simp only [take?, Option.ite_none_right_eq_some, Option.some.injEq] at h
    rw [← h.2]
    exact fun c hc => hpiece c (List.mem_takeWhile_imp hc)

def Piece.options : Piece → List Text
  | oneOf options => options
  | _ => []

/-- The piece is no run: it takes one of a few texts, or nothing. -/
def Piece.isFixed : Piece → Bool
  | run _ _ => false
  | _ => true

theorem Piece.avoids_of_isFixed {piece : Piece} (h : piece.isFixed = true)
    (ht : ∀ t ∈ piece.options, Text.Avoids P t) : piece.Avoids P := by
  cases piece with
  | boundary | lineStart | lineEnd => trivial
  | oneOf options => exact ht
  | run cls least => cases h

namespace Pattern

/-- No part of the pattern takes any of the characters in question. -/
def Avoids (P : Char → Bool) (p : Pattern) : Prop := ∀ part ∈ p, part.piece.Avoids P

variable {p : Pattern}

theorem avoids_append {q : Pattern} : Avoids P (p ++ q) ↔ p.Avoids P ∧ q.Avoids P :=
  List.forall_mem_append

theorem avoids_text {t : Text} (ht : t.Avoids P) : (Part.text t).piece.Avoids P := by
  intro option hoption
  obtain rfl := List.mem_singleton.1 hoption
  exact ht

theorem avoids_edge (c : Option Char) : (edge c).Avoids P := by
  intro part hpart
  unfold edge at hpart
  split at hpart
  · obtain rfl := List.mem_singleton.1 hpart
    trivial
  · cases hpart

theorem avoids_token {literal : Text} (h : literal.Avoids P) : (token literal).Avoids P := by
  refine avoids_append.2 ⟨avoids_append.2 ⟨avoids_edge _, fun part hpart => ?_⟩, avoids_edge _⟩
  obtain rfl := List.mem_singleton.1 hpart
  exact avoids_text h

theorem avoids_of_match? (hp : p.Avoids P) {before : Option Char} {rest : Text} {h : Hit}
    (hm : p.match? before rest = some h) : h.text.Avoids P := by
  induction p generalizing before rest h with
  | nil =>
    obtain rfl := Option.some.inj hm
    exact List.forall_mem_nil _
  | cons part p ih =>
    obtain ⟨hpart, hp⟩ := List.forall_mem_cons.1 hp
    simp only [match?, Option.bind_eq_some_iff, Option.map_eq_some_iff] at hm
    obtain ⟨taken, htake, h', hm, rfl⟩ := hm
    exact Text.avoids_append.2 ⟨Piece.avoids_of_take? hpart htake, ih hp hm⟩

/-- Neither the matches nor what takes their place hold any of the characters. -/
theorem filter_replaceAll (hp : p.Avoids P) {render : Hit → Text}
    (hrender : ∀ before rest h, p.match? before rest = some h → (render h).Avoids P) (t : Text) :
    (p.replaceAll render t).1.filter P = t.filter P := by
  have hsegment : ∀ s ∈ p.segments t, (s.replaced render).filter P = s.text.filter P := by
    intro s hs
    rcases mem_segmentsFrom hs with ⟨c, -, rfl⟩ | ⟨before, rest, h, -, hm, rfl⟩
    · rfl
    · exact (Text.avoids_iff_filter_eq_nil.1 (hrender before rest h hm)).trans
        (Text.avoids_iff_filter_eq_nil.1 (avoids_of_match? hp hm)).symm
  calc (p.replaceAll render t).1.filter P
      = (p.segments t).flatMap fun s => (s.replaced render).filter P := by
        rw [replaceAll_fst, List.filter_flatMap]
    _ = (p.segments t).flatMap fun s => s.text.filter P := List.flatMap_congr hsegment
    _ = t.filter P := by rw [← List.filter_flatMap, flatMap_text_segments]

end Pattern

namespace Action

/-- The action brings none of the characters in. -/
def Avoids (P : Char → Bool) : Action → Prop
  | replace text => text.Avoids P
  | expand template => ∀ c, .literal c ∈ Expansion.parse template → P c = false
  | wrap before after => before.Avoids P ∧ after.Avoids P
  | delete => True

theorem avoids_render {action : Action} (ha : action.Avoids P) {p : Pattern} (hp : p.Avoids P)
    {before : Option Char} {rest : Text} {h : Hit} (hm : p.match? before rest = some h) :
    (action.render h).Avoids P := by
  have htext := Pattern.avoids_of_match? hp hm
  cases action with
  | replace text => exact ha
  | expand template =>
    intro c hc
    obtain ⟨piece, hpiece, hc⟩ := List.mem_flatMap.1 hc
    cases piece with
    | literal d =>
      obtain rfl := List.mem_singleton.1 hc
      exact ha _ hpiece
    | group name => exact htext c (Hit.mem_of_mem_group hm hc)
  | wrap before after => exact Text.avoids_append.2 ⟨Text.avoids_append.2 ⟨ha.1, htext⟩, ha.2⟩
  | delete => exact List.forall_mem_nil _

end Action

namespace Edit

/-- The edit matches none of the characters and brings none of them in. What an anchor matches
stays, so nothing is asked of it. -/
def Avoids (P : Char → Bool) : Edit → Prop
  | substitute patterns action => (∀ p ∈ patterns, p.Avoids P) ∧ action.Avoids P
  | insertAfterLine _ text => text.Avoids P
  | appendLine line => line.Avoids P

theorem filter_substituteAll {action : Action} (ha : action.Avoids P) {ps : List Pattern}
    (hps : ∀ p ∈ ps, p.Avoids P) (t : Text) :
    (substituteAll action ps t).1.filter P = t.filter P := by
  induction ps generalizing t with
  | nil => rfl
  | cons p ps ih =>
    obtain ⟨hp, hps⟩ := List.forall_mem_cons.1 hps
    rw [substituteAll_cons_fst, ih hps, Pattern.filter_replaceAll hp
      fun _ _ _ hm => Action.avoids_render ha hp hm]

section
variable (hnewline : P '\n' = false)
include hnewline

theorem filter_insertLines (anchor : Pattern) {text : Text} (htext : text.Avoids P) (t : Text) :
    (insertLines anchor text t).1.filter P = t.filter P := by
  have htext := Text.avoids_iff_filter_eq_nil.1 htext
  cases hfind : anchor.find? t with
  | none => rw [insertLines_of_find?_none hfind]
  | some found =>
    obtain ⟨before, h, after⟩ := found
    rcases insertLines_of_find? text hfind with ⟨-, he⟩ | ⟨lineRest, later, -, rfl, he⟩
    · simp [he, htext, hnewline]
    · rw [he, ← Pattern.append_of_find? hfind]
      simp [htext, hnewline]

theorem filter_addLine {line : Text} (hline : line.Avoids P) (t : Text) :
    (addLine line t).filter P = t.filter P := by
  have hline := Text.avoids_iff_filter_eq_nil.1 hline
  unfold addLine
  split <;> simp [hline, hnewline]

theorem filter_apply {e : Edit} (he : e.Avoids P) (t : Text) :
    (e.apply t).1.filter P = t.filter P := by
  cases e with
  | substitute patterns action => exact filter_substituteAll he.2 he.1 t
  | insertAfterLine anchor text => exact filter_insertLines hnewline anchor he t
  | appendLine line => exact filter_addLine hnewline he t

end

end Edit

theorem Rule.filter_rewrite (hnewline : P '\n' = false) {rules : List Rule}
    (hrules : ∀ r ∈ rules, r.edit.Avoids P) (t : Text) :
    (Rule.rewrite rules t).filter P = t.filter P := by
  refine Rule.rewrite_induction (P := fun u => u.filter P = t.filter P) (fun r hr u hu => ?_) rfl
  exact (Edit.filter_apply hnewline (hrules r hr) u).trans hu

end VectorFamily
