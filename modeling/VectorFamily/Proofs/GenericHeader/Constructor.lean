import VectorFamily.GenericHeader
import VectorFamily.Proofs.Pattern.Find
import VectorFamily.Proofs.Rule.Lines
import VectorFamily.Proofs.Template.Sections
import VectorFamily.Proofs.Text.Indented

/-!
# The place of the default constructor

The default constructor goes behind the marker line of a section, which two parts of the generator
look for: the layout trims a line and compares it with the comment, the generic header wants nothing
but tabs and spaces in front of the comment and nothing behind it. `fragments_constructor_spec` says
when a section that the layout accepts has no place for the constructor, and that the two agree just
on plain marker lines.
-/

namespace VectorFamily.GenericHeader

open Text (rows LineLocal isAllBlank not_mem_of_isAllBlank placedLines lineContent)

/-- The line is the comment that names a class, behind tabs and spaces. -/
def IsMarkerRow (name row : Text) : Prop :=
  row.dropWhile CharClass.indent.has = "// ".toList ++ name

instance (name row : Text) : Decidable (IsMarkerRow name row) :=
  inferInstanceAs (Decidable (_ = _))

/-- The failure for want of a place for the default constructor. -/
def constructorMissing : Failure :=
  .ruleNotApplied target .implementation .generalization "generic.default-constructor"

section
variable (c : Conventions) (n : Nat)

def qualifier : Pattern := Pattern.token (c.className n).toList ++ [.text "::".toList]

/-- The rules that run before the default constructor is put in its place. -/
def substitutionRules : List Rule := (fragmentRules c n []).take 3

def constructorRule (indent : Text) : Rule where
  name := "generic.default-constructor"
  stage := .generalization
  expect := .matchIn .both
  edit := .insertAfterLine (markerLine (c.genericClassName n).toList)
    (defaultConstructor indent (c.genericClassName n).toList)

/-- A section names a member of its class, and no line of it becomes the marker line of the class
template. -/
structure LacksMarker (t : Text) : Prop where
  qualified : (qualifier c n).occursIn t = true
  unmarked : ∀ row ∈ rows t,
    ¬ IsMarkerRow (c.genericClassName n).toList (Rule.rewrite (substitutionRules c n) row)

end

/-- The lines that the layout takes for markers of arities are plain: tabs and spaces, the comment
and a line end. -/
def PlainlyMarked (c : Conventions) (t : Text) : Prop :=
  ∀ l ∈ placedLines t, ∀ n ∈ arities, l.text.trim = ((Marker.arity n).comment c).toList →
    IsMarkerRow (c.className n).toList (lineContent l.text)

instance (c : Conventions) (t : Text) : Decidable (PlainlyMarked c t) :=
  inferInstanceAs (Decidable (∀ l ∈ placedLines t, ∀ n ∈ arities, _ → _))

/-! ### The marker line as a pattern -/

section
variable {name : Text}

theorem exists_match?_markerLine_iff {before : Option Char} {rest : Text} (hrest : '\n' ∉ rest) :
    (∃ h, (markerLine name).match? before rest = some h) ↔
      before.all (· == '\n') = true ∧ IsMarkerRow name rest := by
  have hhead : ∀ later : Text, '\n' ∉ later → later.head?.all (· == '\n') = true → later = [] := by
    intro later hlater hend
    cases later with
    | nil => rfl
    | cons c later =>
      obtain rfl : c = '\n' := by simpa using hend
      exact absurd List.mem_cons_self hlater
  simp only [markerLine, Pattern.match?_lineStart_cons_eq_some, Pattern.match?_run_cons,
    Option.map_eq_some_iff, Pattern.match?_text_cons_eq_some, Pattern.match?_lineEnd,
    Option.ite_none_right_eq_some, IsMarkerRow]
  constructor
  · rintro ⟨-, hb, -, ⟨later, -, hcut, ⟨hend, -⟩, -⟩, -⟩
    have hlater : '\n' ∉ later := fun hn => hrest
      ((List.dropWhile_suffix _).mem (hcut ▸ List.mem_append_right _ hn))
    rw [hhead later hlater hend, List.append_nil] at hcut
    exact ⟨hb, hcut⟩
  · rintro ⟨hb, hcut⟩
    exact ⟨_, hb, _, ⟨[], _, by simpa using hcut, ⟨rfl, rfl⟩, rfl⟩, rfl⟩

theorem isAllBlank_of_indent {indent : Text}
    (hindent : ∀ ch ∈ indent, CharClass.indent.has ch = true) : isAllBlank indent = true := by
  refine List.all_eq_true.2 fun ch hch => ?_
  have hch : ch = ' ' ∨ ch = '\t' := by simpa [CharClass.has] using hindent ch hch
  rcases hch with rfl | rfl <;> rfl

/-- Among blanks, a comment is the marker line if tabs and spaces precede it and nothing follows. -/
theorem isMarkerRow_append_iff (name : Text) {a b : Text} (ha : isAllBlank a = true) :
    IsMarkerRow name (a ++ "// ".toList ++ name ++ b) ↔
      (∀ ch ∈ a, CharClass.indent.has ch = true) ∧ b = [] := by
  unfold IsMarkerRow
  induction a with
  | nil =>
    show "// ".toList ++ name ++ b = "// ".toList ++ name ↔ _
    simp
  | cons ch a ih =>
    obtain ⟨hch, ha⟩ := Bool.and_eq_true_iff.1 ha
    by_cases hindent : CharClass.indent.has ch = true
    · simpa [hindent] using ih ha
    · have hslash : ch ≠ '/' := by
        rintro rfl
        exact absurd hch (by decide)
      simp [hindent, hslash]

theorem staysInLine_markerLine (hname : '\n' ∉ name) : (markerLine name).StaysInLine := by
  have hcomment : '\n' ∉ "// ".toList ++ name := by simp [hname]
  intro part hpart
  simp only [markerLine, List.mem_cons, List.not_mem_nil, or_false] at hpart
  rcases hpart with rfl | rfl | rfl | rfl
  · exact trivial
  · decide
  · simpa [Part.text, Piece.StaysInLine] using hcomment
  · exact trivial

theorem find?_markerLine_eq_none_iff (hname : '\n' ∉ name) {t : Text} :
    (markerLine name).find? t = none ↔ ∀ row ∈ rows t, ¬ IsMarkerRow name row := by
  rw [Pattern.find?_eq_none_iff_rows (staysInLine_markerLine hname)]
  refine forall₂_congr fun row hrow => ?_
  have hstays := Text.newline_not_mem_of_mem_rows hrow
  have hmatch : (∃ h, (markerLine name).match? none row = some h) ↔ _ :=
    exists_match?_markerLine_iff hstays
  rw [Pattern.find?_eq_none_iff_of_lineStart rfl hstays, ← not_iff_not, not_not, ← ne_eq,
    Option.ne_none_iff_exists']
  exact hmatch.trans (and_iff_right Option.all_none)

end

/-! ### The failure -/

section
variable {c : Conventions} {n : Nat} {source t : Text}

theorem names_substitutionRules (c : Conventions) (n : Nat) :
    (substitutionRules c n).map (·.name) =
      ["generic.qualifier", "generic.class-name", "generic.symbol"] :=
  rfl

theorem applyAll_substitutionRules_ne :
    Rule.applyAll target .implementation (substitutionRules c n) t ≠ .error constructorMissing := by
  intro h
  obtain ⟨pre, r, post, u, hrules, -, -, -, he⟩ := Rule.applyAll_eq_error_iff.1 h
  have hr : r.name ∈ (substitutionRules c n).map (·.name) :=
    List.mem_map_of_mem (by simp [hrules])
  rw [names_substitutionRules, ← (Failure.ruleNotApplied.inj he).2.2.2] at hr
  simp at hr

theorem applyAll_constructorRule_eq_error_iff (hname : '\n' ∉ (c.genericClassName n).toList)
    {indent : Text} :
    Rule.applyAll target .implementation [constructorRule c n indent] t =
        .error constructorMissing ↔
      ∀ row ∈ rows t, ¬ IsMarkerRow (c.genericClassName n).toList row := by
  have hhits : ((constructorRule c n indent).apply t).2 = 0 ↔
      (markerLine (c.genericClassName n).toList).find? t = none :=
    Edit.insertLines_snd_eq_zero_iff
  rw [← find?_markerLine_eq_none_iff hname, ← hhits, Rule.applyAll_cons, bind_eq_error,
    Rule.applyChecked_eq_error_iff]
  constructor
  · rintro (⟨h, -⟩ | ⟨_, -, h⟩)
    · exact h
    · cases h
  · exact fun h => .inl ⟨h, rfl, rfl⟩

theorem generalize_eq_error_iff (hname : '\n' ∉ (c.genericClassName n).toList)
    (hlocal : LineLocal (Rule.rewrite (substitutionRules c n))) :
    generalize c n source = .error constructorMissing ↔
      (∃ u, Rule.applyAll target .implementation (substitutionRules c n) source.indented =
        .ok u) ∧
      ∀ row ∈ rows source.indented,
        ¬ IsMarkerRow (c.genericClassName n).toList
          (Rule.rewrite (substitutionRules c n) row) := by
  have hrules : ∀ indent, fragmentRules c n indent =
      substitutionRules c n ++ [constructorRule c n indent] := fun _ => rfl
  -- what is left of the canonical names fails otherwise
  have hcheck : ∀ u, checkPlaceholders target .implementation u (placeholders c) >>=
      (fun _ => pure u) ≠ .error constructorMissing := by
    intro u h
    rcases bind_eq_error.1 h with h | ⟨_, -, h⟩
    · obtain ⟨placeholder, he⟩ := exists_of_checkPlaceholders_eq_error h
      cases he
    · cases h
  have hmarked : ∀ u,
      Rule.applyAll target .implementation (substitutionRules c n) source.indented = .ok u →
      ((∀ row ∈ rows u, ¬ IsMarkerRow (c.genericClassName n).toList row) ↔
        ∀ row ∈ rows source.indented, ¬ IsMarkerRow (c.genericClassName n).toList
          (Rule.rewrite (substitutionRules c n) row)) := by
    intro u hu
    rw [← Rule.rewrite_of_applyAll hu, hlocal.rows_apply, List.forall_mem_map]
  rw [generalize, rewrite, bind_eq_error, hrules, Rule.applyAll_append, bind_eq_error]
  constructor
  · rintro ((h | ⟨u, hu, h⟩) | ⟨u, -, h⟩)
    · exact absurd h applyAll_substitutionRules_ne
    · exact ⟨⟨u, hu⟩, (hmarked u hu).1 ((applyAll_constructorRule_eq_error_iff hname).1 h)⟩
    · exact absurd h (hcheck u)
  · rintro ⟨⟨u, hu⟩, h⟩
    exact .inl (.inr ⟨u, hu,
      (applyAll_constructorRule_eq_error_iff hname).2 ((hmarked u hu).2 h)⟩)

end

/-! ### Marker lines of the default conventions -/

theorem colon_not_mem {a b word : Text} (ha : isAllBlank a = true) (hb : isAllBlank b = true)
    (hword : ∀ ch ∈ word, Unicode.isAsciiWord ch = true) :
    ':' ∉ a ++ "// ".toList ++ word ++ b := by
  have hw : ':' ∉ word := fun h => absurd (hword _ h) (by decide)
  simp [not_mem_of_isAllBlank ha, not_mem_of_isAllBlank hb, hw, Unicode.isBlank]

theorem find?_qualifier_eq_none {c : Conventions} {n : Nat} {t : Text} (ht : ':' ∉ t) :
    (qualifier c n).find? t = none := by
  have hneeds : (qualifier c n).Needs ':' :=
    ⟨.text "::".toList, List.mem_append_right _ List.mem_cons_self, by decide⟩
  exact hneeds.find?_eq_none ht

theorem find?_symbol_eq_none {t : Text} (ht : ':' ∉ t) :
    (Pattern.token ({} : Conventions).symbol.toList).find? t = none := by
  have hneeds : (Pattern.token ({} : Conventions).symbol.toList).Needs ':' := by decide
  exact hneeds.find?_eq_none ht

theorem rewrite_substitutionRules (c : Conventions) (n : Nat) (t : Text) :
    Rule.rewrite (substitutionRules c n) t =
      ((Pattern.token c.symbol.toList).replaceAll (fun _ => c.genericParameter.toList)
        ((Pattern.token (c.className n).toList).replaceAll
          (fun _ => (c.genericClassName n).toList)
          ((qualifier c n).replaceAll (fun _ => []) t).1).1).1 := by
  simp only [substitutionRules, fragmentRules, List.take_succ_cons, List.take_zero,
    Rule.rewrite_cons, Rule.rewrite_nil, Rule.apply, Edit.apply, symbolRule,
    Edit.substituteAll_singleton]
  rfl

theorem exists_applyAll_substitutionRules_iff {c : Conventions} {n : Nat} {t : Text} :
    (∃ u, Rule.applyAll target .implementation (substitutionRules c n) t = .ok u) ↔
      ((qualifier c n).replaceAll (fun _ => []) t).2 ≠ 0 ∧
        ((Pattern.token (c.className n).toList).replaceAll
          (fun _ => (c.genericClassName n).toList)
          ((qualifier c n).replaceAll (fun _ => []) t).1).2 ≠ 0 := by
  simp only [substitutionRules, fragmentRules, List.take_succ_cons, List.take_zero,
    Rule.applyAll_cons_eq_ok_iff, Rule.apply, Edit.apply, Edit.substituteAll_singleton]
  constructor
  · rintro ⟨u, hqualifier, hclass, -⟩
    exact ⟨hqualifier rfl, hclass rfl⟩
  · rintro ⟨hqualifier, hclass⟩
    exact ⟨_, fun _ => hqualifier, fun _ => hclass, fun h => (by cases h), rfl⟩

theorem solid_qualifier {c : Conventions} {n : Nat} : (qualifier c n).Solid :=
  Pattern.solid_append_of_right (Pattern.solid_text_cons (by decide) [])

section
variable {n : Nat} (hn : n ∈ arities)
include hn

theorem isAsciiWord_of_mem_className : ∀ ch ∈ (Conventions.className {} n).toList,
    Unicode.isAsciiWord ch = true := by
  have hall : ∀ n ∈ arities,
      (Conventions.className {} n).toList.all Unicode.isAsciiWord = true := by
    decide
  exact List.all_eq_true.1 (hall n hn)

theorem isAsciiWord_of_mem_genericClassName : ∀ ch ∈ (Conventions.genericClassName {} n).toList,
    Unicode.isAsciiWord ch = true := by
  have hall : ∀ n ∈ arities,
      (Conventions.genericClassName {} n).toList.all Unicode.isAsciiWord = true := by
    decide
  exact List.all_eq_true.1 (hall n hn)

theorem head?_className : (Conventions.className {} n).toList.head? = some 'V' := by
  revert n
  decide

theorem trimEnd_className : isAllBlank (Conventions.className {} n).toList = false ∧
    Text.trimEnd (Conventions.className {} n).toList = (Conventions.className {} n).toList := by
  revert n
  decide

theorem className_ne_nil : (Conventions.className {} n).toList ≠ [] := by
  intro h
  have := head?_className hn
  simp [h] at this

theorem newline_not_mem_className : '\n' ∉ (Conventions.className {} n).toList :=
  fun h => absurd (isAsciiWord_of_mem_className hn _ h) (by decide)

theorem newline_not_mem_genericClassName : '\n' ∉ (Conventions.genericClassName {} n).toList :=
  fun h => absurd (isAsciiWord_of_mem_genericClassName hn _ h) (by decide)

theorem staysInLine_qualifier : (qualifier {} n).StaysInLine := by
  intro part hpart
  rcases List.mem_append.1 hpart with hpart | hpart
  · exact Pattern.staysInLine_token (newline_not_mem_className hn) part hpart
  · obtain rfl := List.mem_singleton.1 hpart
    decide

theorem lineLocal_qualifier :
    LineLocal fun t => ((qualifier {} n).replaceAll (fun _ => []) t).1 := by
  have hdelete : Action.delete.StaysInLine := trivial
  exact Edit.lineLocal_replaceAll (staysInLine_qualifier hn)
    (Pattern.match?_nil_of_solid solid_qualifier) hdelete

theorem lineLocal_substitutionRules : LineLocal (Rule.rewrite (substitutionRules {} n)) := by
  have hclass := Edit.lineLocal_replaceAll_token (className_ne_nil hn)
    (newline_not_mem_className hn) (newline_not_mem_genericClassName hn)
  have hsymbol := Edit.lineLocal_replaceAll_token
    (by decide : ({} : Conventions).symbol.toList ≠ []) (by decide)
    (by decide : '\n' ∉ ({} : Conventions).genericParameter.toList)
  rw [funext (rewrite_substitutionRules {} n)]
  exact (hsymbol.comp hclass).comp (lineLocal_qualifier hn)

variable {a b : Text}

theorem wholeToken_className (hb : isAllBlank b = true) : WholeToken (a ++ "// ".toList).getLast?
    (Conventions.className {} n).toList b.head? := by
  refine (wholeToken_iff_of_word (className_ne_nil hn) (isAsciiWord_of_mem_className hn)).2
    ⟨?_, isWordAt_head?_of_isAllBlank hb⟩
  rw [List.getLast?_append_of_ne_nil _ (by decide)]
  decide

variable (ha : isAllBlank a = true) (hb : isAllBlank b = true)
include ha hb

/-- The rules turn the comment that names a class into the one that names the class template. -/
theorem rewrite_marker : Rule.rewrite (substitutionRules {} n)
      (a ++ "// ".toList ++ (Conventions.className {} n).toList ++ b) =
    a ++ "// ".toList ++ (Conventions.genericClassName {} n).toList ++ b := by
  have hfront : ∀ ch ∈ a ++ "// ".toList, (Conventions.className {} n).toList.head? ≠ some ch := by
    rw [head?_className hn]
    rintro ch hch ⟨rfl⟩
    have hblank : 'V' ∉ a := not_mem_of_isAllBlank ha (by decide)
    simp [hblank] at hch
  have hback : ∀ ch ∈ b, (Conventions.className {} n).toList.head? ≠ some ch := by
    rw [head?_className hn]
    rintro ch hch ⟨rfl⟩
    exact not_mem_of_isAllBlank hb (by decide) hch
  -- a comment between blanks has no colon, so neither the qualifier nor the element type is there
  rw [rewrite_substitutionRules,
    Pattern.replaceAll_of_find?_none (find?_qualifier_eq_none
      (colon_not_mem ha hb (isAsciiWord_of_mem_className hn))),
    Pattern.replaceAll_token_once (className_ne_nil hn) hfront hback
      (wholeToken_className hn hb),
    Pattern.replaceAll_of_find?_none (find?_symbol_eq_none
      (colon_not_mem ha hb (isAsciiWord_of_mem_genericClassName hn)))]

/-- The rules up to the class name do not fail where the class is named in a comment of its own. -/
theorem exists_applyAll_iff_occursIn {t : Text}
    (ht : a ++ "// ".toList ++ (Conventions.className {} n).toList ++ b ∈ rows t) :
    (∃ u, Rule.applyAll target .implementation (substitutionRules {} n) t = .ok u) ↔
      (qualifier {} n).occursIn t = true := by
  have hclass : ((Pattern.token (Conventions.className {} n).toList).replaceAll
      (fun _ => (Conventions.genericClassName {} n).toList)
      ((qualifier {} n).replaceAll (fun _ => []) t).1).2 ≠ 0 := by
    rw [ne_eq, Pattern.replaceAll_snd_eq_zero_iff (Pattern.solid_token (className_ne_nil hn)),
      Pattern.find?_eq_none_iff_rows (Pattern.staysInLine_token (newline_not_mem_className hn)),
      (lineLocal_qualifier hn).rows_apply, List.forall_mem_map]
    intro hnone
    have hrow := hnone _ ht
    rw [Pattern.replaceAll_of_find?_none (find?_qualifier_eq_none
      (colon_not_mem ha hb (isAsciiWord_of_mem_className hn))), List.append_assoc] at hrow
    exact Pattern.find?_ne_none (Pattern.match?_token_eq_some.2
      ⟨b, rfl, wholeToken_className hn hb, rfl⟩) hrow
  rw [exists_applyAll_substitutionRules_iff, Pattern.occursIn, Option.isSome_iff_ne_none, ne_eq,
    Pattern.replaceAll_snd_eq_zero_iff solid_qualifier]
  exact and_iff_left hclass

end

section
variable {n : Nat} {x : Text} (hx : x.trim = ((Marker.arity n).comment {}).toList)
include hx

/-- A marker is a comment between blanks; another tab may stand in front. -/
theorem exists_blanks_of_marker : ∃ a b, isAllBlank a = true ∧ isAllBlank ('\t' :: a) = true ∧
    isAllBlank b = true ∧ x = a ++ "// ".toList ++ (Conventions.className {} n).toList ++ b := by
  obtain ⟨a, b, ha, hb, hcut⟩ := Text.exists_blanks_of_trim x
  refine ⟨a, b, ha, by simpa [isAllBlank, Unicode.isBlank] using ha, hb, ?_⟩
  rw [hx] at hcut
  simpa [Marker.comment] using hcut

/-- The layout and the generic header agree on a marker just if it is plain. -/
theorem isMarkerRow_rewrite_iff (hn : n ∈ arities) :
    IsMarkerRow (Conventions.genericClassName {} n).toList
        (Rule.rewrite (substitutionRules {} n) ('\t' :: x)) ↔
      IsMarkerRow (Conventions.className {} n).toList x := by
  obtain ⟨a, b, ha, ha', hb, rfl⟩ := exists_blanks_of_marker hx
  have hrewrite := rewrite_marker hn ha' hb
  have hmarker := isMarkerRow_append_iff (Conventions.genericClassName {} n).toList (b := b) ha'
  have htab : CharClass.indent.has '\t' = true := rfl
  rw [← hrewrite, List.forall_mem_cons, and_iff_right htab] at hmarker
  exact hmarker.trans (isMarkerRow_append_iff _ ha).symm

theorem trimEnd_of_isMarkerRow (hn : n ∈ arities)
    (hrow : IsMarkerRow (Conventions.className {} n).toList x) : x.trimEnd = x := by
  obtain ⟨a, b, ha, -, -, rfl⟩ := exists_blanks_of_marker hx
  obtain ⟨-, rfl⟩ := (isMarkerRow_append_iff _ ha).1 hrow
  obtain ⟨hblank, htrim⟩ := trimEnd_className hn
  rw [List.append_nil, Text.trimEnd_append, hblank, if_neg Bool.false_ne_true, htrim]

end

/-! ### Sections of an accepted pair -/

section
variable {interface implementation : Text} {m : Master} {r : Region}

/-- A section starts with the line that the layout takes for its marker. -/
theorem exists_regionText_eq {c : Conventions}
    (hm : Master.ofSources c interface implementation = .ok m) (hr : r ∈ m.layout.regions)
    {l : Line} (hl : l ∈ placedLines m.implementation)
    (htrim : l.text.trim = ((Marker.arity r.arity).comment c).toList) :
    ∃ u later, '\n' ∉ u ∧ l.text = u ++ ['\n'] ∧ m.regionText r = u ++ '\n' :: later := by
  have hregions := (Master.ofSources_eq_ok_iff.1 hm).regions
  have hsectioned := Layout.sectioned_of_locateRegions hregions
  have hlt := Layout.start_lt_stop_of_locateRegions hregions hr
  -- the marker is there only once
  have hoffset : l.offset = r.start := by
    have hmem : l.offset ∈ Marker.offsets c (placedLines m.implementation) (.arity r.arity) :=
      List.mem_map_of_mem (List.mem_filter.2 ⟨hl, beq_iff_eq.2 htrim⟩)
    rw [hsectioned.start r hr] at hmem
    exact List.mem_singleton.1 hmem
  have hstop : r.stop ∈ Marker.offsets c (placedLines m.implementation)
      (Layout.markerAfter r.arity) := by
    simp [hsectioned.stop r hr]
  obtain ⟨l', hl', hoffset'⟩ := Layout.mem_placedLines_of_offsets hstop
  rw [← hoffset, ← hoffset'] at hlt
  obtain ⟨u, hu, hline⟩ := Text.exists_eq_append_newline hl hl' hlt
  obtain ⟨later, hbetween⟩ :=
    Text.exists_between_eq_append (Text.pairwise_placedLines m.implementation) hl hlt
  refine ⟨u, later, hu, hline, ?_⟩
  rw [Master.regionText, ← hoffset, ← hoffset', hbetween, hline]
  simp

/-- A section starts with a line that the layout takes for a marker; blanks behind the comment are
gone if nothing else follows. -/
theorem exists_marker_row {c : Conventions}
    (hm : Master.ofSources c interface implementation = .ok m) (hr : r ∈ m.layout.regions) :
    ∃ l ∈ placedLines m.implementation,
      l.text.trim = ((Marker.arity r.arity).comment c).toList ∧
      ∃ x : Text, '\t' :: x ∈ rows (m.regionText r).trimEnd.indented ∧
        x.trim = ((Marker.arity r.arity).comment c).toList ∧
        (x = lineContent l.text ∨ x = (lineContent l.text).trimEnd) := by
  have hsectioned := Layout.sectioned_of_locateRegions (Master.ofSources_eq_ok_iff.1 hm).regions
  have hstart : r.start ∈ Marker.offsets c (placedLines m.implementation) (.arity r.arity) := by
    simp [hsectioned.start r hr]
  obtain ⟨l, hl, -⟩ := List.mem_map.1 hstart
  obtain ⟨hl, htrim⟩ := List.mem_filter.1 hl
  have htrim : l.text.trim = ((Marker.arity r.arity).comment c).toList := beq_iff_eq.1 htrim
  obtain ⟨u, later, hu, hline, htext⟩ := exists_regionText_eq hm hr hl htrim
  have hu' : u.trim = ((Marker.arity r.arity).comment c).toList := by
    rw [← htrim, hline, Text.trim_append_blank (by decide)]
  have hne : u.trim ≠ [] := by
    rw [hu', Marker.toList_comment_arity]
    simp
  obtain ⟨x, hrow, hx, hcontent⟩ := Text.exists_mem_rows_indented hu hne later
  rw [← htext] at hrow
  rw [← hline] at hcontent
  exact ⟨l, hl, htrim, x, hrow, hx.trans hu', hcontent⟩

end

section
variable {interface implementation : Text} {m : Master} {r : Region}
  (hm : Master.ofSources {} interface implementation = .ok m) (hr : r ∈ m.layout.regions)
include hm hr

theorem arity_mem : r.arity ∈ arities := by
  have hsectioned := Layout.sectioned_of_locateRegions (Master.ofSources_eq_ok_iff.1 hm).regions
  exact hsectioned.arities ▸ List.mem_map_of_mem hr

theorem generalize_eq_constructorMissing_iff :
    generalize {} r.arity (m.regionText r).trimEnd = .error constructorMissing ↔
      LacksMarker {} r.arity (m.regionText r).trimEnd.indented := by
  have hn := arity_mem hm hr
  obtain ⟨l, -, -, x, hrow, hx, -⟩ := exists_marker_row hm hr
  obtain ⟨a, b, -, ha, hb, rfl⟩ := exists_blanks_of_marker hx
  rw [generalize_eq_error_iff (newline_not_mem_genericClassName hn)
    (lineLocal_substitutionRules hn), exists_applyAll_iff_occursIn hn ha hb hrow]
  exact ⟨fun ⟨hqualified, hunmarked⟩ => ⟨hqualified, hunmarked⟩,
    fun h => ⟨h.qualified, h.unmarked⟩⟩

theorem generalize_ne_constructorMissing (hplain : PlainlyMarked {} m.implementation) :
    generalize {} r.arity (m.regionText r).trimEnd ≠ .error constructorMissing := by
  have hn := arity_mem hm hr
  obtain ⟨l, hl, hmark, x, hrow, hx, hcontent⟩ := exists_marker_row hm hr
  have hline := hplain l hl r.arity hn hmark
  have hx' : x = lineContent l.text := by
    rcases hcontent with h | h
    · exact h
    · rw [h, trimEnd_of_isMarkerRow ((Text.trim_lineContent l.text).trans hmark) hn hline]
  intro h
  exact ((generalize_eq_constructorMissing_iff hm hr).1 h).unmarked _ hrow
    ((isMarkerRow_rewrite_iff hx hn).2 (hx' ▸ hline))

end

theorem fragment_eq_error_iff {c : Conventions} {m : Master} {r : Region} {e : Failure} :
    fragment c m r = .error e ↔ generalize c r.arity (m.regionText r).trimEnd = .error e := by
  show generalize c r.arity (m.regionText r).trimEnd >>= _ = _ ↔ _
  rw [bind_eq_error]
  exact ⟨fun h => h.elim id fun ⟨_, _, h⟩ => (by cases h), .inl⟩

/-- An accepted pair fails for want of a place for the default constructor just if in the first
section that fails a member of the class is named and no line becomes the marker line. The marker
that the layout saw becomes it just if it is plain, so a pair with plain markers never fails so. -/
theorem fragments_constructor_spec {interface implementation : Text} {m : Master}
    (hm : Master.ofSources {} interface implementation = .ok m) :
    (fragments {} m = .error constructorMissing ↔
      ∃ pre r post, m.layout.regions = pre ++ r :: post ∧
        (∀ r' ∈ pre, ∃ f, fragment {} m r' = .ok f) ∧
        LacksMarker {} r.arity (m.regionText r).trimEnd.indented) ∧
    (∀ l ∈ placedLines m.implementation, ∀ n ∈ arities,
      l.text.trim = ((Marker.arity n).comment {}).toList →
        (IsMarkerRow (Conventions.genericClassName {} n).toList
            (Rule.rewrite (substitutionRules {} n) ('\t' :: lineContent l.text)) ↔
          IsMarkerRow (Conventions.className {} n).toList (lineContent l.text))) ∧
    (PlainlyMarked {} m.implementation → fragments {} m ≠ .error constructorMissing) := by
  refine ⟨?_, fun l _ n hn hl => ?_, fun hplain h => ?_⟩
  · rw [fragments, mapM_eq_error_iff]
    refine exists_congr fun pre => exists_congr fun r => exists_congr fun post =>
      and_congr_right fun hsplit => and_congr_right fun _ => ?_
    have hr : r ∈ m.layout.regions := by simp [hsplit]
    rw [fragment_eq_error_iff, generalize_eq_constructorMissing_iff hm hr]
  · exact isMarkerRow_rewrite_iff ((Text.trim_lineContent l.text).trans hl) hn
  · obtain ⟨r, hr, he⟩ := exists_mem_of_mapM_eq_error h
    exact generalize_ne_constructorMissing hm hr hplain (fragment_eq_error_iff.1 he)

/-- An interface with one stream operator. -/
def sparseInterface : Text :=
  "// overloads for the << operator\n".toList ++ "inline static Vector2d\n".toList ++
    "// End\n".toList

/-- A section that names one member, with the given blanks behind its marker. -/
def sparseSection (blanks : Text) (n : Nat) : Text :=
  "// Vector".toList ++ Nat.toDigits 10 n ++ 'd' :: blanks ++ "\nVector".toList ++
    Nat.toDigits 10 n ++ "d::\n".toList

def sparseImplementation (blanks : Text) : Text :=
  "namespace N \x7b\n".toList ++ arities.flatMap (sparseSection blanks) ++
    "// End\n\x7d\n".toList

theorem exists_render_sparse : ∃ m a,
    Master.ofSources {} sparseInterface (sparseImplementation []) = .ok m ∧
      render {} m = .ok a := by
  have hrender : (Master.ofSources {} sparseInterface (sparseImplementation []) >>=
      render {}).isOk = true := by
    decide +kernel
  obtain ⟨a, ha⟩ := exists_of_isOk hrender
  obtain ⟨m, hm, ha⟩ := bind_eq_ok.1 ha
  exact ⟨m, a, hm, ha⟩

theorem fragments_constructor_spec_plain : ∃ m,
    Master.ofSources {} sparseInterface (sparseImplementation []) = .ok m ∧
      fragments {} m ≠ .error constructorMissing := by
  obtain ⟨m, -, hm, -⟩ := exists_render_sparse
  have hplain : PlainlyMarked {} m.implementation := by
    rw [(Master.ofSources_eq_ok_iff.1 hm).implementation]
    decide +kernel
  exact ⟨m, hm, (fragments_constructor_spec hm).2.2 hplain⟩

/-- A blank behind a marker line is enough: the layout does not see it, the generic header does. -/
theorem fragments_constructor_blank : ¬ ∀ interface implementation m,
    Master.ofSources {} interface implementation = .ok m →
      fragments {} m ≠ .error constructorMissing := by
  have hok : (Master.ofSources {} sparseInterface (sparseImplementation [' '])).isOk = true := by
    decide +kernel
  have hfails : Master.ofSources {} sparseInterface (sparseImplementation [' ']) >>=
      fragments {} = .error constructorMissing := by
    decide +kernel
  obtain ⟨m, hm⟩ := exists_of_isOk hok
  rw [hm] at hfails
  exact fun h => h _ _ m hm hfails

end VectorFamily.GenericHeader
