import VectorFamily.Proofs.Pattern.Find
import VectorFamily.Proofs.Rule.Rewrite

/-!
# Rules line by line

A rule that replaces matches stays in a line if its patterns do, none of them matches the empty text
and no replacement has a line feed; such rules rewrite a text row by row. The two rules that add
lines put rows between the others.
-/

namespace VectorFamily

open Text (LineLocal rows rows_append_newline rows_of_not_mem rows_ne_nil trimRows)

namespace Edit

/-- The edit replaces matches within their lines, and finds none in an empty one. -/
def StaysInLine : Edit → Prop
  | substitute patterns action =>
    (∀ p ∈ patterns, p.StaysInLine ∧ p.match? none [] = none) ∧ action.StaysInLine
  | insertAfterLine _ _ | appendLine _ => False

theorem lineLocal_replaceAll {p : Pattern} (hp : p.StaysInLine)
    (hempty : p.match? none [] = none) {action : Action} (ha : action.StaysInLine) :
    LineLocal fun t => (p.replaceAll action.render t).1 := by
  constructor
  · exact Pattern.replaceAll_append_newline hp action.render
  · intro t ht hn
    rw [Pattern.replaceAll_fst] at hn
    obtain ⟨s, hs, hn⟩ := List.mem_flatMap.1 hn
    rcases Pattern.mem_segmentsFrom hs with ⟨c, hc, rfl⟩ | ⟨before, rest, h, hrest, hm, rfl⟩
    · obtain rfl := List.mem_singleton.1 hn
      exact ht hc
    · exact Action.newline_not_mem_render ha (fun hc => ht (hrest.mem hc)) hm hn
  · exact Pattern.replaceAll_empty hempty action.render

theorem lineLocal_replaceAll_token {literal text : Text} (hne : literal ≠ []) (hl : '\n' ∉ literal)
    (ht : '\n' ∉ text) :
    LineLocal fun t => ((Pattern.token literal).replaceAll (fun _ => text) t).1 := by
  have hreplace : (Action.replace text).StaysInLine := ht
  exact lineLocal_replaceAll (Pattern.staysInLine_token hl)
    (Pattern.match?_nil_of_solid (Pattern.solid_token hne)) hreplace

theorem lineLocal_substituteAll {patterns : List Pattern} {action : Action}
    (hp : ∀ p ∈ patterns, p.StaysInLine ∧ p.match? none [] = none) (ha : action.StaysInLine) :
    LineLocal fun t => (substituteAll action patterns t).1 := by
  induction patterns with
  | nil => exact LineLocal.id
  | cons p patterns ih =>
    simp only [substituteAll_cons_fst]
    have hrest := ih fun q hq => hp q (List.mem_cons_of_mem _ hq)
    obtain ⟨hstays, hempty⟩ := hp p List.mem_cons_self
    exact hrest.comp (lineLocal_replaceAll hstays hempty ha)

/-- Inserted lines are rows behind the row on which the match ends. -/
theorem rows_insertLines {anchor : Pattern} (text : Text) {t before after : Text} {h : Hit}
    (hf : anchor.find? t = some (before, h, after)) : rows (insertLines anchor text t).1 =
      (rows t).take (rows (before ++ h.text)).length ++ rows text ++
        (rows t).drop (rows (before ++ h.text)).length := by
  have happend := Pattern.append_of_find? hf
  rcases insertLines_of_find? text hf with ⟨hn, he⟩ | ⟨lineRest, later, hn, rfl, he⟩
  · have hlen : (rows (before ++ h.text)).length = (rows t).length := by
      rw [← happend, Text.length_rows_append hn]
    rw [he, rows_append_newline, hlen]
    simp
  · have hlen := Text.length_rows_append (t := before ++ h.text) hn
    have ht : t = (before ++ h.text ++ lineRest) ++ '\n' :: later := by
      rw [← happend]
      simp
    rw [he, ht, List.append_assoc _ ('\n' :: text), List.cons_append, rows_append_newline,
      rows_append_newline, rows_append_newline, ← hlen]
    simp

/-- Behind an anchor on the first row an inserted line is the second row. -/
theorem rows_insertLines_of_first {anchor : Pattern} (hanchor : anchor.StaysInLine)
    {text t row : Text} {later : List Text} (ht : rows t = row :: later) {h : Hit}
    (hm : anchor.match? none row = some h) (htext : '\n' ∉ text) :
    rows (insertLines anchor text t).1 = row :: text :: later := by
  have hrow : '\n' ∉ row := Text.newline_not_mem_of_mem_rows (ht ▸ List.mem_cons_self)
  have hfirst : anchor.match? none t = some h := by
    rw [← hm]
    rcases Text.exists_of_rows_eq_cons ht with ⟨rfl, -⟩ | ⟨u, rfl, -⟩
    · rfl
    · exact Pattern.match?_append_newline hanchor none row u
  have hhit : rows h.text = [h.text] :=
    rows_of_not_mem fun hn => hrow ((Pattern.prefix_of_match? hm).mem hn)
  rw [rows_insertLines text (Pattern.find?_of_match? hfirst), List.nil_append, hhit,
    rows_of_not_mem htext, ht]
  rfl

/-- An added line is a row in place of an empty last row, or behind the last row. -/
theorem rows_addLine {line : Text} (hline : '\n' ∉ line) (t : Text) :
    rows (addLine line t) = trimRows (rows t) ++ [line, []] := by
  have hend : rows (line ++ ['\n']) = [line, []] := by
    rw [rows_append_newline, rows_of_not_mem hline]
    rfl
  unfold addLine trimRows
  by_cases hlast : t.getLast?.all (· == '\n') = true
  · rw [if_pos hlast, if_pos (Text.getLast?_rows_eq_nil_iff.2 hlast)]
    cases hl : t.getLast? with
    | none =>
      obtain rfl := List.getLast?_eq_none_iff.1 hl
      exact hend
    | some c =>
      obtain ⟨u, rfl⟩ := List.getLast?_eq_some_iff.1 hl
      obtain rfl : c = '\n' := by simpa [hl] using hlast
      have hu : rows (u ++ ['\n']) = rows u ++ [[]] := rows_append_newline u []
      rw [List.append_assoc, List.append_assoc, List.singleton_append, rows_append_newline, hend,
        hu]
      simp
  · rw [if_neg hlast, if_neg fun he => hlast (Text.getLast?_rows_eq_nil_iff.1 he),
      List.append_assoc, List.cons_append, rows_append_newline, hend]

end Edit

namespace Rule

theorem lineLocal_apply {r : Rule} (hr : r.edit.StaysInLine) :
    LineLocal fun t => (r.apply t).1 := by
  obtain ⟨name, stage, gate, scope, expect, edit⟩ := r
  cases edit with
  | substitute patterns action => exact Edit.lineLocal_substituteAll hr.1 hr.2
  | insertAfterLine anchor text => exact hr.elim
  | appendLine line => exact hr.elim

/-- Rules that stay in a line rewrite a text row by row. -/
theorem lineLocal_rewrite {rules : List Rule} (h : ∀ r ∈ rules, r.edit.StaysInLine) :
    LineLocal (rewrite rules) :=
  LineLocal.foldl fun r hr => lineLocal_apply (h r hr)

end Rule

end VectorFamily
