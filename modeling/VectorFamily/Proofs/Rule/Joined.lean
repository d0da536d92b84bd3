import VectorFamily.Proofs.Pattern.Find
import VectorFamily.Proofs.Rule.Lines

/-!
# Rules on joined rows

A text that is joined from rows is rewritten by treating each row by itself, whatever stands in the
rows and whatever is put into them. A rule hits the text just if it hits one of the rows.
-/

namespace VectorFamily

namespace Text

/-- The rows with a line feed between any two of them. -/
def join (rs : List Text) : Text := ['\n'].intercalate rs

@[simp] theorem join_singleton (t : Text) : join [t] = t := by
  simp [join]

theorem join_cons {rs : List Text} (hne : rs ≠ []) (t : Text) :
    join (t :: rs) = t ++ '\n' :: join rs := by
  obtain ⟨u, us, rfl⟩ := List.exists_cons_of_ne_nil hne
  simp [join, List.intercalate_cons_cons]

theorem exists_join_cons (t : Text) (rs : List Text) : ∃ v, join (t :: rs) = t ++ v := by
  by_cases hne : rs = []
  · exact ⟨[], by simp [hne]⟩
  · exact ⟨_, join_cons hne t⟩

/-- Rows are joined from the last one on. -/
theorem join_induction {motive : List Text → Prop} (row : ∀ t, motive [t])
    (cons : ∀ t rs, rs ≠ [] → motive rs → motive (t :: rs)) {rs : List Text} (hne : rs ≠ []) :
    motive rs := by
  induction rs with
  | nil => exact absurd rfl hne
  | cons t rs ih =>
    by_cases hrs : rs = []
    · exact hrs ▸ row t
    · exact cons t rs hrs (ih hrs)

/-- A property that a line feed takes apart holds of joined rows just if it holds of each. -/
theorem forall_join_iff {P : Text → Prop} (cut : ∀ t u, P (t ++ '\n' :: u) ↔ P t ∧ P u)
    {rs : List Text} (hne : rs ≠ []) : P (join rs) ↔ ∀ t ∈ rs, P t := by
  refine join_induction (motive := fun rs => P (join rs) ↔ ∀ t ∈ rs, P t) (fun t => ?_)
    (fun t rs hrs ih => ?_) hne
  · simp
  · rw [join_cons hrs, cut, ih, List.forall_mem_cons]

end Text

open Text (join join_cons)

namespace Edit

/-- The edit replaces matches that stay in their lines. -/
def Cuts : Edit → Prop
  | substitute patterns _ => ∀ p ∈ patterns, p.StaysInLine ∧ p.Solid
  | insertAfterLine _ _ | appendLine _ => False

theorem substituteAll_cons_snd (action : Action) (p : Pattern) (ps : List Pattern) (t : Text) :
    (substituteAll action (p :: ps) t).2 = (p.replaceAll action.render t).2 +
      (substituteAll action ps (p.replaceAll action.render t).1).2 := by
  rw [substituteAll, List.foldl_cons, substituteAll_foldl, Nat.zero_add]

theorem substituteAll_of_find?_eq_none {action : Action} {ps : List Pattern} {t : Text}
    (h : ∀ p ∈ ps, p.find? t = none) : (substituteAll action ps t).1 = t := by
  induction ps with
  | nil => rfl
  | cons p ps ih =>
    obtain ⟨hp, hps⟩ := List.forall_mem_cons.1 h
    rw [substituteAll_cons_fst, Pattern.replaceAll_of_find?_none hp, ih hps]

/-- Both sides of a line feed are treated by themselves. -/
theorem substituteAll_append_newline {ps : List Pattern} (hps : ∀ p ∈ ps, p.StaysInLine ∧ p.Solid)
    (action : Action) (t u : Text) :
    (substituteAll action ps (t ++ '\n' :: u)).1 =
        (substituteAll action ps t).1 ++ '\n' :: (substituteAll action ps u).1 ∧
      ((substituteAll action ps (t ++ '\n' :: u)).2 = 0 ↔
        (substituteAll action ps t).2 = 0 ∧ (substituteAll action ps u).2 = 0) := by
  induction ps generalizing t u with
  | nil => simp
  | cons p ps ih =>
    obtain ⟨⟨hstays, hsolid⟩, hps⟩ := List.forall_mem_cons.1 hps
    have hp := Pattern.replaceAll_append_newline hstays action.render t u
    have hhits := Pattern.find?_append_newline_eq_none_iff hstays (t := t) (u := u)
    have hcount : ∀ t, (p.replaceAll action.render t).2 = 0 ↔ p.find? t = none :=
      fun _ => Pattern.replaceAll_snd_eq_zero_iff hsolid
    simp only [← hcount] at hhits
    obtain ⟨hfst, hsnd⟩ := ih hps (p.replaceAll action.render t).1 (p.replaceAll action.render u).1
    simp only [substituteAll_cons_fst, substituteAll_cons_snd, hp, hfst, Nat.add_eq_zero_iff, hhits,
      hsnd, true_and]
    exact and_and_and_comm

end Edit

namespace Rule

variable {r : Rule} (hr : r.edit.Cuts)
include hr

theorem apply_append_newline (t u : Text) :
    (r.apply (t ++ '\n' :: u)).1 = (r.apply t).1 ++ '\n' :: (r.apply u).1 ∧
      ((r.apply (t ++ '\n' :: u)).2 = 0 ↔ (r.apply t).2 = 0 ∧ (r.apply u).2 = 0) := by
  obtain ⟨name, stage, gate, scope, expect, edit⟩ := r
  cases edit with
  | substitute ps action => exact Edit.substituteAll_append_newline hr action t u
  | insertAfterLine anchor text => exact hr.elim
  | appendLine line => exact hr.elim

theorem apply_join {rs : List Text} (hne : rs ≠ []) :
    (r.apply (join rs)).1 = join (rs.map fun t => (r.apply t).1) := by
  refine Text.join_induction
    (motive := fun rs => (r.apply (join rs)).1 = join (rs.map fun t => (r.apply t).1))
    (fun t => ?_) (fun t rs hrs ih => ?_) hne
  · simp
  · rw [join_cons hrs, (apply_append_newline hr t _).1, ih, List.map_cons,
      join_cons (by simpa using hrs)]

/-- A rule that hits a row hits the text. -/
theorem hits_join {rs : List Text} {t : Text} (ht : t ∈ rs) (hhits : (r.apply t).2 ≠ 0) :
    (r.apply (join rs)).2 ≠ 0 := by
  intro hzero
  have hall := (Text.forall_join_iff (P := fun t => (r.apply t).2 = 0)
    (fun t u => (apply_append_newline hr t u).2) (List.ne_nil_of_mem ht)).1 hzero
  exact hhits (hall t ht)

end Rule

theorem Rule.applyAll_append_eq_ok {target : String} {kind : ArtifactKind} {rules rules' : List Rule}
    {t u v : Text} (h : applyAll target kind rules t = .ok u)
    (h' : applyAll target kind rules' u = .ok v) :
    applyAll target kind (rules ++ rules') t = .ok v := by
  rw [applyAll_append, h]
  exact h'

theorem Rule.rewrite_join {rules : List Rule} (hrules : ∀ r ∈ rules, r.edit.Cuts) {rs : List Text}
    (hne : rs ≠ []) : rewrite rules (join rs) = join (rs.map (rewrite rules)) := by
  induction rules generalizing rs with
  | nil =>
    have hid : rewrite [] = id := rfl
    rw [hid, List.map_id, id]
  | cons r rules ih =>
    obtain ⟨hr, hrules⟩ := List.forall_mem_cons.1 hrules
    rw [rewrite_cons, apply_join hr hne, ih hrules (by simpa using hne), List.map_map]
    rfl

/-- Rules that cut rows succeed on joined rows if each that has to match hits one of the rows at its
turn. -/
theorem Rule.applyAll_join {target : String} {kind : ArtifactKind} {rules : List Rule}
    (hrules : ∀ r ∈ rules, r.edit.Cuts) {rs : List Text} (hne : rs ≠ [])
    (hhits : ∀ pre r post, rules = pre ++ r :: post → r.expect.requiredFor kind = true →
      ∃ t ∈ rs, (r.apply (rewrite pre t)).2 ≠ 0) :
    applyAll target kind rules (join rs) = .ok (join (rs.map (rewrite rules))) := by
  cases h : applyAll target kind rules (join rs) with
  | ok u => rw [← rewrite_of_applyAll h, rewrite_join hrules hne]
  | error e =>
    obtain ⟨pre, r, post, u, rfl, hpre, hzero, hreq, -⟩ := applyAll_eq_error_iff.1 h
    obtain ⟨hcutsPre, hcuts⟩ := List.forall_mem_append.1 hrules
    obtain ⟨t, ht, hhit⟩ := hhits pre r post rfl hreq
    have hu : u = join (rs.map (rewrite pre)) := by
      rw [← rewrite_of_applyAll hpre, rewrite_join hcutsPre hne]
    rw [hu] at hzero
    exact absurd hzero (hits_join (hcuts r List.mem_cons_self) (List.mem_map_of_mem ht) hhit)

end VectorFamily
