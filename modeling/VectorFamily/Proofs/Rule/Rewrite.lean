import VectorFamily.Proofs.Pattern.Scan
import VectorFamily.Proofs.Sequence
import VectorFamily.Rule.Check
import VectorFamily.Specialization

/-!
# What rules make of a text

`Rule.rewrite` applies rules without asking whether they match. A run that succeeds gives just that
(`rewrite_of_applyAll`, `rewrite_of_run`), so what holds of every rewritten text holds of every
output.
-/

namespace VectorFamily

namespace Edit

theorem substituteAll_foldl (action : Action) (ps : List Pattern) (t : Text) (n : Nat) :
    ps.foldl (fun s p =>
        ((p.replaceAll action.render s.1).1, s.2 + (p.replaceAll action.render s.1).2)) (t, n) =
      ((substituteAll action ps t).1, n + (substituteAll action ps t).2) := by
  unfold substituteAll
  induction ps generalizing t n with
  | nil => simp
  | cons p ps ih =>
    simp only [List.foldl_cons]
    rw [ih, ih (n := 0 + _)]
    simp [Nat.add_assoc]

@[simp] theorem substituteAll_nil (action : Action) (t : Text) :
    substituteAll action [] t = (t, 0) :=
  rfl

theorem substituteAll_cons_fst (action : Action) (p : Pattern) (ps : List Pattern) (t : Text) :
    (substituteAll action (p :: ps) t).1 =
      (substituteAll action ps (p.replaceAll action.render t).1).1 := by
  rw [substituteAll, List.foldl_cons, substituteAll_foldl]

theorem substituteAll_append_fst (action : Action) (ps qs : List Pattern) (t : Text) :
    (substituteAll action (ps ++ qs) t).1 =
      (substituteAll action qs (substituteAll action ps t).1).1 := by
  induction ps generalizing t with
  | nil => rfl
  | cons p ps ih => rw [List.cons_append, substituteAll_cons_fst, ih, substituteAll_cons_fst]

theorem substituteAll_singleton (action : Action) (p : Pattern) (t : Text) :
    substituteAll action [p] t = p.replaceAll action.render t := by
  simp [substituteAll]

theorem insertLines_of_find? {anchor : Pattern} (text : Text) {t before after : Text} {h : Hit}
    (hf : anchor.find? t = some (before, h, after)) :
    ('\n' ∉ after ∧ (insertLines anchor text t).1 = t ++ '\n' :: text) ∨
    ∃ lineRest later, '\n' ∉ lineRest ∧ after = lineRest ++ '\n' :: later ∧
      (insertLines anchor text t).1 =
        before ++ h.text ++ lineRest ++ '\n' :: text ++ '\n' :: later := by
  have whole : ∀ {lineRest : Text}, '\n' ∉ lineRest → ∀ c ∈ lineRest, (c != '\n') = true := by
    intro lineRest hn c hc
    have hne : c ≠ '\n' := fun he => hn (he ▸ hc)
    simpa using hne
  simp only [insertLines, hf]
  by_cases hn : '\n' ∈ after
  · obtain ⟨lineRest, later, rfl, hl⟩ := List.eq_append_cons_of_mem hn
    refine .inr ⟨lineRest, later, hl, rfl, ?_⟩
    rw [List.takeWhile_append_of_pos (whole hl)]
    simp
  · refine .inl ⟨hn, ?_⟩
    have htake : (after ++ []).takeWhile (· != '\n') = after ++ [] :=
      List.takeWhile_append_of_pos (whole hn)
    rw [List.append_nil] at htake
    simp [htake]

theorem insertLines_of_find?_none {anchor : Pattern} {text t : Text} (hf : anchor.find? t = none) :
    (insertLines anchor text t).1 = t := by
  simp [insertLines, hf]

theorem insertLines_snd_eq_zero_iff {anchor : Pattern} {text t : Text} :
    (insertLines anchor text t).2 = 0 ↔ anchor.find? t = none := by
  unfold insertLines
  cases anchor.find? t with
  | none => simp
  | some found =>
    obtain ⟨before, h, after⟩ := found
    simp only [reduceCtorEq, iff_false]
    split <;> simp

section
variable {P : Text → Prop} (cut : ∀ u v, P (u ++ '\n' :: v) ↔ P u ∧ P v)
include cut

/-- A property that holds line by line is kept when lines with it are inserted. -/
theorem insertLines_induction {anchor : Pattern} {text t : Text} (htext : P text) (ht : P t) :
    P (insertLines anchor text t).1 := by
  cases hfind : anchor.find? t with
  | none =>
    rw [insertLines_of_find?_none hfind]
    exact ht
  | some found =>
    obtain ⟨before, h, after⟩ := found
    rcases insertLines_of_find? text hfind with ⟨-, he⟩ | ⟨lineRest, later, -, rfl, he⟩
    · rw [he]
      exact (cut _ _).2 ⟨ht, htext⟩
    · rw [← Pattern.append_of_find? hfind, ← List.append_assoc, cut] at ht
      rw [he, cut, cut]
      exact ⟨⟨ht.1, htext⟩, ht.2⟩

theorem addLine_induction (hnil : P []) {line t : Text} (hline : P line) (ht : P t) :
    P (addLine line t) := by
  have hend : P (line ++ ['\n']) := (cut _ _).2 ⟨hline, hnil⟩
  unfold addLine
  split
  · next hlast =>
    cases hl : t.getLast? with
    | none =>
      obtain rfl := List.getLast?_eq_none_iff.1 hl
      exact hend
    | some c =>
      obtain ⟨u, rfl⟩ := List.getLast?_eq_some_iff.1 hl
      obtain rfl : c = '\n' := by simpa [hl] using hlast
      have := (cut _ _).2 ⟨((cut _ _).1 ht).1, hend⟩
      simpa using this
  · have := (cut _ _).2 ⟨ht, hend⟩
    simpa using this

end

end Edit

namespace Rule

/-- The text after the rules, whether they match or not. -/
def rewrite (rules : List Rule) (t : Text) : Text := rules.foldl (fun t r => (r.apply t).1) t

@[simp] theorem rewrite_nil (t : Text) : rewrite [] t = t := rfl

@[simp] theorem rewrite_cons (r : Rule) (rules : List Rule) (t : Text) :
    rewrite (r :: rules) t = rewrite rules (r.apply t).1 :=
  rfl

theorem rewrite_append (rules rules' : List Rule) (t : Text) :
    rewrite (rules ++ rules') t = rewrite rules' (rewrite rules t) := by
  simp [rewrite]

theorem rewrite_induction {P : Text → Prop} {rules : List Rule} {t : Text}
    (step : ∀ r ∈ rules, ∀ t, P t → P (r.apply t).1) (h : P t) : P (rewrite rules t) := by
  induction rules generalizing t with
  | nil => exact h
  | cons r rules ih =>
    exact ih (fun r' hr' => step r' (List.mem_cons_of_mem _ hr')) (step r List.mem_cons_self t h)

section
variable {target : String} {kind : ArtifactKind} {t u : Text} {r : Rule} {rules rules' : List Rule}

theorem applyChecked_eq_ok_iff : applyChecked target kind t r = .ok u ↔
    (r.expect.requiredFor kind = true → (r.apply t).2 ≠ 0) ∧ (r.apply t).1 = u := by
  by_cases hhits : (r.apply t).2 = 0
  · cases hreq : r.expect.requiredFor kind <;> simp [applyChecked, hhits, hreq]
  · simp [applyChecked, hhits]

theorem applyChecked_eq_error_iff {e : Failure} : applyChecked target kind t r = .error e ↔
    (r.apply t).2 = 0 ∧ r.expect.requiredFor kind = true ∧
      e = .ruleNotApplied target kind r.stage r.name := by
  by_cases hhits : (r.apply t).2 = 0
  · cases hreq : r.expect.requiredFor kind <;> simp [applyChecked, hhits, hreq, eq_comm]
  · simp [applyChecked, hhits]

theorem applyAll_append : applyAll target kind (rules ++ rules') t =
    applyAll target kind rules t >>= applyAll target kind rules' :=
  List.foldlM_append

theorem applyAll_cons : applyAll target kind (r :: rules) t =
    applyChecked target kind t r >>= applyAll target kind rules :=
  List.foldlM_cons

theorem applyAll_cons_eq_ok_iff : applyAll target kind (r :: rules) t = .ok u ↔
    (r.expect.requiredFor kind = true → (r.apply t).2 ≠ 0) ∧
      applyAll target kind rules (r.apply t).1 = .ok u := by
  rw [applyAll_cons, bind_eq_ok]
  simp only [applyChecked_eq_ok_iff, and_assoc, exists_and_left, exists_eq_left']

/-- Rules fail just when one of them has to match and does not, after those before it have been
applied. -/
theorem applyAll_eq_error_iff {e : Failure} : applyAll target kind rules t = .error e ↔
    ∃ pre r post u, rules = pre ++ r :: post ∧ applyAll target kind pre t = .ok u ∧
      (r.apply u).2 = 0 ∧ r.expect.requiredFor kind = true ∧
      e = .ruleNotApplied target kind r.stage r.name := by
  constructor
  · intro h
    induction rules generalizing t with
    | nil => cases h
    | cons r rules ih =>
      rw [applyAll_cons] at h
      rcases bind_eq_error.1 h with h | ⟨v, hv, h⟩
      · obtain ⟨hhits, hreq, rfl⟩ := applyChecked_eq_error_iff.1 h
        exact ⟨[], r, rules, t, rfl, rfl, hhits, hreq, rfl⟩
      · obtain ⟨pre, r', post, u, rfl, hu, hr'⟩ := ih h
        refine ⟨r :: pre, r', post, u, rfl, ?_, hr'⟩
        rw [applyAll_cons, hv]
        exact hu
  · rintro ⟨pre, r, post, u, rfl, hu, hhits, hreq, rfl⟩
    rw [applyAll_append, hu]
    show applyAll target kind (r :: post) u = _
    rw [applyAll_cons, applyChecked_eq_error_iff.2 ⟨hhits, hreq, rfl⟩]
    rfl

theorem rewrite_of_applyAll (h : applyAll target kind rules t = .ok u) : rewrite rules t = u := by
  induction rules generalizing t with
  | nil => exact Except.ok.inj h
  | cons r rules ih => exact ih (applyAll_cons_eq_ok_iff.1 h).2

theorem hits_of_applyAll (h : applyAll target kind (rules ++ r :: rules') t = .ok u)
    (hr : r.expect.requiredFor kind = true) : (r.apply (rewrite rules t)).2 ≠ 0 := by
  rw [applyAll_append, bind_eq_ok] at h
  obtain ⟨v, hv, h⟩ := h
  rw [rewrite_of_applyAll hv]
  exact (applyAll_cons_eq_ok_iff.1 h).1 hr

end

end Rule

theorem exists_of_checkPlaceholders_eq_error {target : String} {kind : ArtifactKind} {t : Text}
    {ps : List Pattern} {e : Failure} (h : checkPlaceholders target kind t ps = .error e) :
    ∃ placeholder, e = .incomplete target kind placeholder := by
  induction ps with
  | nil => cases h
  | cons p ps ih =>
    rw [checkPlaceholders] at h
    split at h
    · cases h
      exact ⟨_, rfl⟩
    · exact ih h

theorem checkPlaceholders_eq_ok_iff {target : String} {kind : ArtifactKind} {t : Text}
    {ps : List Pattern} :
    checkPlaceholders target kind t ps = .ok () ↔ ∀ p ∈ ps, p.find? t = none := by
  induction ps with
  | nil => simp [checkPlaceholders]
  | cons p ps ih =>
    rw [checkPlaceholders, List.forall_mem_cons]
    cases hfind : p.find? t with
    | none => simpa using ih
    | some found => simp

namespace Specialization

variable {s : Specialization} {kind : ArtifactKind} {source out : Text}

theorem run_eq_error_of_applyAll {e : Failure}
    (h : Rule.applyAll s.profile.classTag kind (s.rulesFor kind) source = .error e) :
    s.run kind source = .error e := by
  rw [run, h]
  rfl

/-- Once the rules have been applied, only a placeholder that is left fails a run. -/
theorem run_of_applyAll {t : Text}
    (h : Rule.applyAll s.profile.classTag kind (s.rulesFor kind) source = .ok t) :
    s.run kind source = .ok t ∨ ∃ placeholder,
      s.run kind source = .error (.incomplete s.profile.classTag kind placeholder) := by
  have hrun : s.run kind source =
      checkPlaceholders s.profile.classTag kind t s.placeholders >>= fun _ => pure t := by
    rw [run, h]
    rfl
  rw [hrun]
  cases hcheck : checkPlaceholders s.profile.classTag kind t s.placeholders with
  | ok => exact .inl rfl
  | error e =>
    obtain ⟨placeholder, rfl⟩ := exists_of_checkPlaceholders_eq_error hcheck
    exact .inr ⟨placeholder, rfl⟩

theorem run_eq_ok_iff : s.run kind source = .ok out ↔
    Rule.applyAll s.profile.classTag kind (s.rulesFor kind) source = .ok out ∧
      ∀ p ∈ s.placeholders, p.find? out = none := by
  unfold run
  rw [bind_eq_ok]
  constructor
  · rintro ⟨t, ht, h⟩
    obtain ⟨hfree, h⟩ := check_bind_eq_ok.1 h
    obtain rfl := pure_eq_ok.1 h
    exact ⟨ht, checkPlaceholders_eq_ok_iff.1 hfree⟩
  · rintro ⟨ht, hfree⟩
    exact ⟨out, ht, check_bind_eq_ok.2 ⟨checkPlaceholders_eq_ok_iff.2 hfree, rfl⟩⟩

theorem applyAll_of_run (h : s.run kind source = .ok out) :
    Rule.applyAll s.profile.classTag kind (s.rulesFor kind) source = .ok out :=
  (run_eq_ok_iff.1 h).1

theorem rewrite_of_run (h : s.run kind source = .ok out) :
    Rule.rewrite (s.rulesFor kind) source = out :=
  Rule.rewrite_of_applyAll (applyAll_of_run h)

end Specialization

end VectorFamily
