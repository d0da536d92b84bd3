import VectorFamily.Proofs.GenericHeader.Rendering
import VectorFamily.Proofs.Pattern.Cut

/-!
# The rows of a class template

A section becomes the body of a class template row by row. Blank rows become empty; any other row
gets a tab in front, which no rule sees, and is rewritten by itself. Just one row is new, that of
the default constructor, which stands behind the marker line because the marker line is the first
row of the section (`rows_of_fragments`).
-/

namespace VectorFamily.GenericHeader

open Text (rows isAllBlank indentedRow)

def commentRow (indent name : Text) : Text := indent ++ "// ".toList ++ name

/-- What becomes of a row of a section: the members lose their qualifier, the class loses its tag,
and the element type becomes the type parameter. -/
def genericRow (n : Nat) (row : Text) : Text :=
  let unqualified := ((qualifier {} n).replaceAll (fun _ => []) row).1
  let renamed := ((Pattern.token (Conventions.className {} n).toList).replaceAll
    (fun _ => (Conventions.genericClassName {} n).toList) unqualified).1
  let generic := ((Pattern.token (Conventions.symbol {}).toList).replaceAll
    (fun _ => (Conventions.genericParameter {}).toList) renamed).1
  if isAllBlank row then [] else '\t' :: generic

/-! ### Rows behind the marker line -/

section
variable {n : Nat} (hn : n ∈ arities)
include hn

/-- No rule sees a tab in front of a row. -/
theorem rewrite_tab (t : Text) : Rule.rewrite (substitutionRules {} n) ('\t' :: t) =
    '\t' :: Rule.rewrite (substitutionRules {} n) t := by
  have htab : Unicode.isWord '\t' = false := by decide
  have hqualifier : ∀ n ∈ arities, qualifierWord n ≠ [] ∧ '\t' ∉ qualifierWord n := by decide
  have hclass : '\t' ∉ (Conventions.className {} n).toList := fun h =>
    absurd (isAsciiWord_of_mem_className hn _ h) (by decide)
  rw [rewrite_substitutionRules, rewrite_substitutionRules,
    (recognizes_qualifier hn).replaceAll_cons htab
      (List.forall_mem_singleton.2 (hqualifier n hn)),
    Pattern.replaceAll_token_cons (className_ne_nil hn) htab hclass,
    Pattern.replaceAll_token_cons (by decide) htab (by decide)]

theorem rewrite_indentedRow (row : Text) :
    Rule.rewrite (substitutionRules {} n) (indentedRow row) = genericRow n row := by
  rw [indentedRow, genericRow, ← rewrite_substitutionRules]
  split
  · exact (lineLocal_substitutionRules hn).empty
  · exact rewrite_tab hn row

end

/-! ### The marker line -/

section
variable {n : Nat} (hn : n ∈ arities) {indent : Text}
include hn

theorem trimEnd_commentRow : (commentRow indent (Conventions.className {} n).toList).trimEnd =
    commentRow indent (Conventions.className {} n).toList := by
  obtain ⟨hblank, htrim⟩ := trimEnd_className hn
  rw [commentRow, Text.trimEnd_append, hblank, if_neg Bool.false_ne_true, htrim]

theorem trim_commentRow (hindent : isAllBlank indent = true) :
    (commentRow indent (Conventions.className {} n).toList).trim =
      ((Marker.arity n).comment {}).toList := by
  have hstart : (commentRow indent (Conventions.className {} n).toList).trimStart =
      commentRow [] (Conventions.className {} n).toList := by
    rw [commentRow, List.append_assoc, Text.trimStart,
      List.dropWhile_append_of_pos (List.all_eq_true.1 hindent)]
    exact List.dropWhile_cons_of_neg (by decide)
  rw [Text.trim, hstart, trimEnd_commentRow hn]
  simp [commentRow, Marker.comment]

theorem rewrite_commentRow (hindent : isAllBlank indent = true) :
    Rule.rewrite (substitutionRules {} n) (commentRow indent (Conventions.className {} n).toList) =
      commentRow indent (Conventions.genericClassName {} n).toList := by
  have h := rewrite_marker hn hindent (b := []) rfl
  rwa [List.append_nil, List.append_nil] at h

end

/-- Tabs and spaces in front of a comment are all the indentation that the text has. -/
theorem indentOf_of_rows_eq_cons {indent name t : Text}
    (hindent : ∀ ch ∈ indent, CharClass.indent.has ch = true) {later : List Text}
    (ht : rows t = commentRow indent name :: later) : indentOf t = indent := by
  obtain ⟨u, rfl⟩ : ∃ u, t = commentRow indent name ++ u := by
    rcases Text.exists_of_rows_eq_cons ht with ⟨rfl, -⟩ | ⟨u, rfl, -⟩
    · exact ⟨[], (List.append_nil _).symm⟩
    · exact ⟨_, rfl⟩
  have hslash : ("// ".toList ++ (name ++ u)).takeWhile CharClass.indent.has = [] :=
    List.takeWhile_cons_of_neg (by decide)
  rw [indentOf, commentRow, List.append_assoc, List.append_assoc,
    List.takeWhile_append_of_pos hindent, hslash, List.append_nil]

theorem isMarkerRow_commentRow {indent name : Text}
    (hindent : ∀ ch ∈ indent, CharClass.indent.has ch = true) :
    IsMarkerRow name (commentRow indent name) := by
  have h := (isMarkerRow_append_iff name (b := []) (isAllBlank_of_indent hindent)).2 ⟨hindent, rfl⟩
  rwa [List.append_nil] at h

theorem newline_not_mem_defaultConstructor {indent name : Text}
    (hindent : ∀ ch ∈ indent, CharClass.indent.has ch = true) (hname : '\n' ∉ name) :
    '\n' ∉ defaultConstructor indent name := by
  have hblank : '\n' ∉ indent := fun h => absurd (hindent _ h) (by decide)
  simp [defaultConstructor, hblank, hname]

/-! ### The body of a class template -/

section
variable {interface implementation : Text} {m : Master} {r : Region} {indent : Text}
  (hm : Master.ofSources {} interface implementation = .ok m) (hr : r ∈ m.layout.regions)
  (hreturn : '\r' ∉ m.implementation)
  (hindent : ∀ ch ∈ indent, CharClass.indent.has ch = true)
include hm hr hreturn hindent

/-- The marker line is the first row of its section. -/
theorem exists_rows_source
    (hmarker : commentRow indent (Conventions.className {} r.arity).toList ∈ rows m.implementation) :
    ∃ later, rows (m.regionText r).trimEnd =
      commentRow indent (Conventions.className {} r.arity).toList :: later := by
  have hn := arity_mem hm hr
  have hblank := isAllBlank_of_indent hindent
  have hne : commentRow indent (Conventions.className {} r.arity).toList ≠ [] := by
    simp [commentRow]
  obtain ⟨line, hline, hcontent⟩ := Text.exists_line_of_mem_rows hreturn hmarker hne
  obtain ⟨l, hl, rfl⟩ := Text.exists_placed_of_mem_lines hline
  have htrim : l.text.trim = ((Marker.arity r.arity).comment {}).toList := by
    rw [← Text.trim_lineContent, hcontent, trim_commentRow hn hblank]
  obtain ⟨u, later, hu, htext, hregion⟩ := exists_regionText_eq hm hr hl htrim
  have hplain : '\r' ∉ u := fun h =>
    hreturn (Text.mem_of_mem_lines hline (htext ▸ List.mem_append_left _ h))
  rw [htext, Text.lineContent_append_newline hplain] at hcontent
  subst hcontent
  rw [hregion]
  exact Text.exists_rows_trimEnd_eq_cons hu (trimEnd_commentRow hn) later

theorem rows_body {f : Fragment} (hf : fragment {} m r = .ok f) {later : List Text}
    (hsource : rows f.source =
      commentRow indent (Conventions.className {} r.arity).toList :: later) :
    rows f.body = commentRow ('\t' :: indent) (Conventions.genericClassName {} r.arity).toList ::
      defaultConstructor ('\t' :: indent) (Conventions.genericClassName {} r.arity).toList ::
        later.map (genericRow r.arity) := by
  have hn := arity_mem hm hr
  have htab : ∀ ch ∈ '\t' :: indent, CharClass.indent.has ch = true :=
    List.forall_mem_cons.2 ⟨rfl, hindent⟩
  obtain ⟨hbody, -, hsection⟩ := fragment_eq_ok_iff.1 hf
  obtain ⟨happlied, -⟩ := rewrite_eq_ok_iff.1 hbody
  rw [hsection] at hsource
  have hindented : rows (sectionSource (m.regionText r)) =
      commentRow ('\t' :: indent) (Conventions.className {} r.arity).toList ::
        later.map indentedRow := by
    have hne : (m.regionText r).trimEnd ≠ [] := fun h => by
      rw [h] at hsource
      simp [rows, commentRow] at hsource
    have hvisible : isAllBlank (commentRow indent (Conventions.className {} r.arity).toList) =
        false := by
      simp [isAllBlank, commentRow, Unicode.isBlank]
    rw [sectionSource, Text.rows_indented_trimEnd hne fun h => hreturn (Text.mem_of_mem_between h),
      hsource, List.map_cons, indentedRow, hvisible]
    rfl
  have hrewritten : rows (Rule.rewrite (substitutionRules {} r.arity)
      (sectionSource (m.regionText r))) =
        commentRow ('\t' :: indent) (Conventions.genericClassName {} r.arity).toList ::
          later.map (genericRow r.arity) := by
    have hlater : (later.map indentedRow).map (Rule.rewrite (substitutionRules {} r.arity)) =
        later.map (genericRow r.arity) := by
      simp only [List.map_map, Function.comp_def, rewrite_indentedRow hn]
    rw [(lineLocal_substitutionRules hn).rows_apply, hindented, List.map_cons, hlater,
      rewrite_commentRow hn (isAllBlank_of_indent htab)]
  have hconstructor : f.body = (Edit.insertLines
      (markerLine (Conventions.genericClassName {} r.arity).toList)
      (defaultConstructor ('\t' :: indent) (Conventions.genericClassName {} r.arity).toList)
      (Rule.rewrite (substitutionRules {} r.arity) (sectionSource (m.regionText r)))).1 := by
    rw [← Rule.rewrite_of_applyAll happlied, ← indentOf_of_rows_eq_cons htab hindented]
    rfl
  have hname := newline_not_mem_genericClassName hn
  obtain ⟨h, hmatch⟩ := (exists_match?_markerLine_iff
    (Text.newline_not_mem_of_mem_rows (hrewritten ▸ List.mem_cons_self))).2
      ⟨Option.all_none, isMarkerRow_commentRow htab⟩
  rw [hconstructor, Edit.rows_insertLines_of_first (staysInLine_markerLine hname) hrewritten hmatch
    (newline_not_mem_defaultConstructor htab hname)]

end

/-- For a pair without carriage returns the class templates come in ascending order, each out of the
section of its arity. Behind a plain marker line no row of the section is lost or moved; the default
constructor is the one row that is new. -/
theorem rows_of_fragments {interface implementation : Text} {m : Master}
    (hm : Master.ofSources {} interface implementation = .ok m) (hreturn : '\r' ∉ m.implementation)
    {fs : List Fragment} (hfs : fragments {} m = .ok fs) :
    fs.map (·.arity) = arities ∧ ∀ f ∈ fs,
      (∃ t, m.aritySource? f.arity = some t ∧ f.source = t.trimEnd) ∧
      ∀ indent : Text, (∀ ch ∈ indent, ch = '\t' ∨ ch = ' ') →
        indent ++ "// ".toList ++ (Conventions.className {} f.arity).toList ∈
          rows m.implementation →
        (rows f.body).length = (rows f.source).length + 1 ∧
        ∃ later, rows f.source =
            (indent ++ "// ".toList ++ (Conventions.className {} f.arity).toList) :: later ∧
          rows f.body =
            ('\t' :: indent ++ "// ".toList ++ (Conventions.genericClassName {} f.arity).toList) ::
            ('\t' :: indent ++ "inline ".toList ++
              (Conventions.genericClassName {} f.arity).toList ++ "() noexcept \x7b\x7d".toList) ::
            later.map (genericRow f.arity) := by
  have harities : fs.map (·.arity) = m.layout.regions.map (·.arity) :=
    map_of_mapM_eq_ok (fun _ _ h => (fragment_eq_ok_iff.1 h).2.1) hfs
  have hsectioned := Layout.sectioned_of_locateRegions (Master.ofSources_eq_ok_iff.1 hm).regions
  refine ⟨harities.trans hsectioned.arities, fun f hf => ?_⟩
  obtain ⟨r, hr, hfragment⟩ := exists_mem_of_mapM_eq_ok hfs hf
  obtain ⟨-, harity, hsource⟩ := fragment_eq_ok_iff.1 hfragment
  rw [harity]
  refine ⟨⟨_, Master.aritySource?_of_mem hm hr, hsource⟩, fun indent hindent hmarker => ?_⟩
  have hindent : ∀ ch ∈ indent, CharClass.indent.has ch = true := fun ch hch => by
    simpa [CharClass.has, or_comm] using hindent ch hch
  obtain ⟨later, hlater⟩ := exists_rows_source hm hr hreturn hindent hmarker
  rw [← hsource] at hlater
  have hbody := rows_body hm hr hreturn hindent hfragment hlater
  refine ⟨?_, later, hlater, hbody⟩
  rw [hbody, hlater]
  simp

/-- A section with a marker behind a tab and a space, and a row of blanks. -/
def tabbedSection (n : Nat) : Text :=
  let name := "Vector".toList ++ Nat.toDigits 10 n ++ ['d']
  "\t // ".toList ++ name ++ '\n' :: name ++ "& ".toList ++ name ++
    "::f(std::double_t)\n \nend\n".toList

def tabbedImplementation : Text :=
  "namespace N \x7b\n".toList ++ arities.flatMap tabbedSection ++ "// End\n\x7d\n".toList

/-- The rows of the first class template. -/
theorem rows_of_fragments_tabbed : ∃ m fs,
    Master.ofSources {} sparseInterface tabbedImplementation = .ok m ∧ '\r' ∉ m.implementation ∧
    fragments {} m = .ok fs ∧ "\t // Vector2d".toList ∈ rows m.implementation ∧
    ∃ f ∈ fs, f.arity = 2 ∧ rows f.body = ["\t\t // Vector2".toList,
      "\t\t inline Vector2() noexcept \x7b\x7d".toList, "\tVector2& f(T)".toList, [],
      "\tend".toList] := by
  have hok : (Master.ofSources {} sparseInterface tabbedImplementation >>=
      fragments {}).isOk = true := by
    decide +kernel
  have hsection : (Master.ofSources {} sparseInterface tabbedImplementation).map
      (·.aritySource? 2) = .ok (some (tabbedSection 2)) := by
    decide +kernel
  obtain ⟨fs, hfs⟩ := exists_of_isOk hok
  obtain ⟨m, hm, hfs⟩ := bind_eq_ok.1 hfs
  rw [hm] at hsection
  have hsection : m.aritySource? 2 = some (tabbedSection 2) := Except.ok.inj hsection
  have himplementation := (Master.ofSources_eq_ok_iff.1 hm).implementation
  have hreturn : '\r' ∉ m.implementation := by
    rw [himplementation]
    decide +kernel
  have hmarker : "\t // Vector2d".toList ∈ rows m.implementation := by
    rw [himplementation]
    decide +kernel
  obtain ⟨harities, hall⟩ := rows_of_fragments hm hreturn hfs
  obtain ⟨f, hf, harity⟩ := List.mem_map.1 (harities ▸ (by decide : 2 ∈ arities))
  obtain ⟨⟨t, ht, hsource⟩, hrows⟩ := hall f hf
  rw [harity] at ht hrows
  obtain rfl := Option.some.inj (ht.symm.trans hsection)
  obtain ⟨-, later, hlater, hbody⟩ := hrows "\t ".toList (by simp) hmarker
  have hsection : rows (tabbedSection 2).trimEnd = ["\t // Vector2d".toList,
      "Vector2d& Vector2d::f(std::double_t)".toList, [' '], "end".toList] := by
    decide +kernel
  rw [hsource, hsection] at hlater
  refine ⟨m, fs, hm, hreturn, hfs, hmarker, f, hf, harity, ?_⟩
  rw [hbody, ← (List.cons.inj hlater).2]
  decide +kernel

end VectorFamily.GenericHeader
