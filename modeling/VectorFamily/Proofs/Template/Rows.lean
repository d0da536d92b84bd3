import Mathlib.Data.List.Nodup
import VectorFamily.Proofs.Rule.Joined
import VectorFamily.Proofs.Template.Operators
import VectorFamily.Proofs.Template.Sections
import VectorFamily.Proofs.Text.Indented
import VectorFamily.Proofs.Text.LineEnds

/-!
# Pairs that are given row by row

A pair whose rows are known part by part is accepted, and its parts are cut out just where the rows
of the next part start (`exists_ofSources`).
-/

namespace VectorFamily

open Marker (all offsets ofLine? sightings)
open Text (byteSize between join join_cons lines placeLines placedLines)

namespace Text

/-! ### Closed rows -/

def closed (rs : List Text) : Text := rs.flatMap (· ++ ['\n'])

@[simp] theorem closed_cons (t : Text) (rs : List Text) :
    closed (t :: rs) = t ++ '\n' :: closed rs := by
  simp [closed]

theorem flatten_map_newline (rs : List Text) : (rs.map (· ++ ['\n'])).flatten = closed rs :=
  List.flatMap_def.symm

theorem join_append (rs : List Text) {rs' : List Text} (hne : rs' ≠ []) :
    join (rs ++ rs') = closed rs ++ join rs' := by
  induction rs with
  | nil => rfl
  | cons t rs ih =>
    rw [List.cons_append, join_cons (by simp [hne]), ih, closed_cons, List.append_assoc,
      List.cons_append]

theorem lines_closed_append {rs : List Text} (hrs : ∀ t ∈ rs, '\n' ∉ t) (u : Text) :
    lines (closed rs ++ u) = rs.map (· ++ ['\n']) ++ lines u := by
  induction rs with
  | nil => rfl
  | cons t rs ih =>
    obtain ⟨ht, hrs⟩ := List.forall_mem_cons.1 hrs
    rw [closed_cons, List.append_assoc, List.cons_append, lines_append_newline ht, ih hrs,
      List.map_cons, List.cons_append]

/-- The first of the joined rows is the first line, its line feed apart. -/
theorem exists_lines_join_cons {t : Text} (hne : t ≠ []) (ht : '\n' ∉ t) (rs : List Text) :
    ∃ e post, lines (join (t :: rs)) = (t ++ e) :: post ∧ isAllBlank e = true := by
  by_cases hrs : rs = []
  · exact ⟨[], [], by simp [hrs, lines_of_not_mem hne ht], rfl⟩
  · exact ⟨['\n'], lines (join rs), by rw [join_cons hrs, lines_append_newline ht], by decide⟩

/-- The lines of joined rows are the rows, each but the last one with a line feed behind it. -/
theorem exists_row_of_mem_lines {rs : List Text} (hrs : ∀ t ∈ rs, '\n' ∉ t) {l : Text}
    (hl : l ∈ lines (join rs)) : ∃ t ∈ rs, l = t ∨ l = t ++ ['\n'] := by
  induction rs with
  | nil => exact absurd hl (by simp [join])
  | cons t rs ih =>
    obtain ⟨ht, hrs⟩ := List.forall_mem_cons.1 hrs
    by_cases hne : rs = []
    · rw [hne, join_singleton] at hl
      by_cases hnil : t = []
      · simp [hnil] at hl
      · rw [lines_of_not_mem hnil ht, List.mem_singleton] at hl
        exact ⟨t, List.mem_cons_self, .inl hl⟩
    · rw [join_cons hne, lines_append_newline ht] at hl
      rcases List.mem_cons.1 hl with rfl | hl
      · exact ⟨t, List.mem_cons_self, .inr rfl⟩
      · obtain ⟨u, hu, h⟩ := ih hrs hl
        exact ⟨u, List.mem_cons_of_mem _ hu, h⟩

theorem not_mem_join {rs : List Text} {c : Char} (hc : c ≠ '\n') (h : ∀ t ∈ rs, c ∉ t) :
    c ∉ join rs := by
  by_cases hne : rs = []
  · simp [hne, join]
  · refine (forall_join_iff (P := fun t => c ∉ t) (fun t u => ?_) hne).2 h
    simp [hc, not_or]

/-! ### Cutting at lines -/

theorem placeLines_append (start : Nat) (ls ls' : List Text) :
    placeLines start (ls ++ ls') =
      placeLines start ls ++ placeLines (start + byteSize ls.flatten) ls' := by
  induction ls generalizing start with
  | nil => rfl
  | cons l ls ih =>
    rw [List.cons_append, placeLines, ih, placeLines, List.flatten_cons, byteSize_append,
      List.cons_append, Nat.add_assoc]

/-- From the offset of one line to that of another stand the lines up to the second. -/
theorem between_placeLines {pre ls post : List Text} (hls : ∀ t ∈ pre ++ ls, t ≠ []) :
    between (placeLines 0 (pre ++ ls ++ post)) (byteSize pre.flatten)
      (byteSize pre.flatten + byteSize ls.flatten) = ls.flatten := by
  obtain ⟨hpre, hls⟩ := List.forall_mem_append.1 hls
  have hfront : between (placeLines 0 pre) (byteSize pre.flatten)
      (byteSize pre.flatten + byteSize ls.flatten) = [] :=
    between_eq_nil fun l hl => .inl (by simpa using offset_lt_of_mem_placeLines hpre hl)
  have hback : between (placeLines (byteSize pre.flatten + byteSize ls.flatten) post)
      (byteSize pre.flatten) (byteSize pre.flatten + byteSize ls.flatten) = [] :=
    between_eq_nil fun l hl => .inr (le_offset_of_mem_placeLines hl)
  have hall : between (placeLines (byteSize pre.flatten) ls) (byteSize pre.flatten)
      (byteSize pre.flatten + byteSize ls.flatten) = ls.flatten := by
    rw [between, List.filter_eq_self.2, flatMap_text_placeLines]
    intro l hl
    have hlo := le_offset_of_mem_placeLines hl
    have hhi := offset_lt_of_mem_placeLines hls hl
    simp [hlo, hhi]
  rw [placeLines_append, placeLines_append, between_concat, between_concat, List.flatten_append,
    byteSize_append, Nat.zero_add, Nat.zero_add, hfront, hall, hback, List.append_nil,
    List.nil_append]

end Text

/-! ### Markers among lines -/

namespace Layout

variable {c : Conventions} {t : Text} {m : Marker}

theorem map_fst_sightings (start : Nat) (ls : List Text) :
    (sightings c (placeLines start ls)).map (·.1) = ls.filterMap (ofLine? c) := by
  induction ls generalizing start with
  | nil => rfl
  | cons l ls ih =>
    rw [placeLines, sightings, List.filterMap_cons, List.filterMap_cons]
    cases hl : ofLine? c l with
    | none => exact ih _
    | some m => exact congrArg (m :: ·) (ih _)

theorem mem_offsets_of_mem_sightings {ls : List Line} {s : Marker × Nat}
    (hs : s ∈ sightings c ls) : s.2 ∈ offsets c ls s.1 := by
  obtain ⟨l, hl, hmark⟩ := List.mem_filterMap.1 hs
  obtain ⟨m, hm, rfl⟩ := Option.map_eq_some_iff.1 hmark
  have htrim := (Marker.ofLine?_eq_some_iff (Marker.mem_all_of_ofLine? hm)).1 hm
  exact List.mem_map_of_mem (List.mem_filter.2 ⟨hl, by simpa using htrim⟩)

theorem pairwise_sightings (t : Text) :
    (sightings c (placedLines t)).Pairwise fun s s' => s.2 < s'.2 := by
  refine List.Pairwise.filterMap _ (fun l l' hlt s hs s' hs' => ?_) (Text.pairwise_placedLines t)
  obtain ⟨m, -, rfl⟩ := Option.map_eq_some_iff.1 hs
  obtain ⟨m', -, rfl⟩ := Option.map_eq_some_iff.1 hs'
  exact hlt

/-- A text whose lines are the markers one after another, others apart, has its sections. -/
theorem marked_of_filterMap (h : (lines t).filterMap (ofLine? c) = all) :
    MarkedOnce c t ∧ MarkedInOrder c t := by
  have hmarks : (sightings c (placedLines t)).map (·.1) = all := (map_fst_sightings 0 _).trans h
  have honce : MarkedOnce c t := by
    intro m hm
    have hnodup : all.Nodup := by decide
    rw [← Marker.count_sightings hm, hmarks]
    exact List.count_eq_one_of_mem hnodup hm
  refine ⟨honce, ?_⟩
  have hoffsets : ∀ s ∈ sightings c (placedLines t),
      offsets c (placedLines t) s.1 = [s.2] := by
    intro s hs
    have hmem := mem_offsets_of_mem_sightings hs
    have hall : s.1 ∈ all := hmarks ▸ List.mem_map_of_mem hs
    rw [offsets_eq_singleton (honce s.1 hall)] at hmem ⊢
    rw [List.mem_singleton.1 hmem]
  have hseen : all.flatMap (offsets c (placedLines t)) = (sightings c (placedLines t)).map (·.2) := by
    rw [← hmarks, List.flatMap_map, List.flatMap_congr hoffsets, List.map_eq_flatMap]
  rw [MarkedInOrder, hseen, List.pairwise_map]
  exact pairwise_sightings t

theorem mem_offsets_of_lines {pre post : List Text} {l : Text} (ht : lines t = pre ++ l :: post)
    (hm : m ∈ all) (hl : ofLine? c l = some m) :
    byteSize pre.flatten ∈ offsets c (placedLines t) m := by
  have hplaced : (⟨byteSize pre.flatten, l⟩ : Line) ∈ placedLines t := by
    rw [placedLines, ht, Text.placeLines_append, Nat.zero_add]
    exact List.mem_append_right _ List.mem_cons_self
  exact List.mem_map_of_mem (f := Line.offset)
    (List.mem_filter.2 ⟨hplaced, by simpa using (Marker.ofLine?_eq_some_iff hm).1 hl⟩)

/-- A section is what stands from its marker up to the next one. -/
theorem between_of_lines {rs : List Region} (h : Sectioned c t rs) {r : Region} (hr : r ∈ rs)
    {pre ls post : List Text} {l l' : Text} (ht : lines t = pre ++ l :: ls ++ l' :: post)
    (hl : ofLine? c l = some (.arity r.arity)) (hl' : ofLine? c l' = some (markerAfter r.arity)) :
    between (placedLines t) r.start r.stop = (l :: ls).flatten := by
  have hsplit : lines t = pre ++ l :: (ls ++ l' :: post) := by simpa using ht
  have hstart := mem_offsets_of_lines hsplit (Marker.mem_all_of_ofLine? hl) hl
  have hstop := mem_offsets_of_lines ht (Marker.mem_all_of_ofLine? hl') hl'
  rw [h.start r hr, List.mem_singleton] at hstart
  rw [h.stop r hr, List.mem_singleton, List.flatten_append, Text.byteSize_append] at hstop
  rw [← hstart, ← hstop, placedLines, ht]
  refine Text.between_placeLines fun u hu => Text.ne_nil_of_mem_lines (t := t) ?_
  rw [ht]
  exact List.mem_append_left _ hu

/-! ### The namespace and the stream operators -/

theorem exists_locateScope {pre post : List Text} (hpre : ∀ l ∈ pre, l ≠ [])
    (h : ∃ l ∈ pre, openedScope? l ≠ none) :
    ∃ name, locateScope (placeLines 0 (pre ++ post)) (byteSize pre.flatten) = .ok name := by
  obtain ⟨l, hl, hopens⟩ := h
  have htake : ∀ l ∈ placeLines 0 pre, decide (l.offset < byteSize pre.flatten) = true := by
    intro l hl
    simpa using Text.offset_lt_of_mem_placeLines hpre hl
  cases hname : ((placeLines 0 (pre ++ post)).takeWhile
      (·.offset < byteSize pre.flatten)).findSome? (openedScope? ·.text) with
  | some name => exact ⟨name, by rw [locateScope, hname]⟩
  | none =>
    rw [Text.placeLines_append, List.takeWhile_append_of_pos htake, List.findSome?_append] at hname
    have hnone := (Option.or_eq_none_iff.1 hname).1
    rw [← Text.map_text_placeLines 0 pre] at hl
    obtain ⟨line, hline, rfl⟩ := List.mem_map.1 hl
    exact absurd (List.findSome?_eq_none_iff.1 hnone line hline) hopens

/-- The stream operators stand from their marker up to the end marker. -/
theorem helpersFrom_of_lines {pre ls post : List Text} {l l' : Text}
    (hpre : ∀ u ∈ pre, u.trim ≠ helpersMarker.toList) (hl : l.trim = helpersMarker.toList)
    (hls : ∀ u ∈ ls, u.trim ≠ helpersMarker.toList ∧ u.trim ≠ endMarker.toList)
    (hl' : l'.trim = endMarker.toList) :
    helpersFrom none (placeLines 0 (pre ++ l :: ls ++ l' :: post)) =
      .ok (byteSize pre.flatten, byteSize pre.flatten + byteSize (l :: ls).flatten) := by
  have hplaced : ∀ {P : Text → Prop} {start : Nat} {us : List Text}, (∀ u ∈ us, P u) →
      ∀ line ∈ placeLines start us, P line.text := fun {P start us} h line hline =>
    h _ (Text.map_text_placeLines start us ▸ List.mem_map_of_mem hline)
  have hlines : placeLines 0 (pre ++ l :: ls ++ l' :: post) = placeLines 0 pre ++
      ⟨byteSize pre.flatten, l⟩ :: (placeLines (byteSize pre.flatten + byteSize l) ls ++
        placeLines (byteSize pre.flatten + byteSize (l :: ls).flatten) (l' :: post)) := by
    rw [Text.placeLines_append, Text.placeLines_append, Nat.zero_add, Nat.zero_add,
      List.flatten_append, Text.byteSize_append, List.append_assoc]
    rfl
  exact helpersFrom_eq_iff.2 (.closed ⟨hlines, hplaced hpre, hl, hplaced hls⟩ hl')

end Layout

/-! ### Parts -/

/-- The rows start with one that is the marker, and no other is a marker. -/
def IsPart (m : Marker) (rs : List Text) : Prop :=
  ∃ t rest, rs = t :: rest ∧ ofLine? {} t = some m ∧ ∀ u ∈ rest, ofLine? {} u = none

theorem IsPart.filterMap {m : Marker} {rs : List Text} (h : IsPart m rs) :
    rs.filterMap (ofLine? {}) = [m] := by
  obtain ⟨t, rest, rfl, ht, hrest⟩ := h
  rw [List.filterMap_cons_some ht, List.filterMap_eq_nil_iff.2 hrest]

/-- A pair, row by row. -/
structure PairRows where
  /-- The interface up to its stream operators. -/
  classes : List Text
  /-- The stream operators, from their marker on. -/
  operators : List Text
  /-- The interface from its end marker on. -/
  closing : List Text
  /-- The implementation up to its first section. -/
  opening : List Text
  /-- The section of each arity, from its marker on. -/
  sections : Nat → List Text
  /-- The implementation from its end marker on. -/
  ending : List Text

namespace PairRows

def interface (R : PairRows) : List Text := R.classes ++ R.operators ++ R.closing

def implementation (R : PairRows) : List Text :=
  R.opening ++ arities.flatMap R.sections ++ R.ending

/-- Each part starts with its marker, and the rows are rows. -/
structure WellMarked (R : PairRows) : Prop where
  flat : ∀ t ∈ R.interface ++ R.implementation, '\n' ∉ t ∧ '\r' ∉ t
  classes : ∀ t ∈ R.classes, t.trim ≠ helpersMarker.toList
  operators : ∃ t rest, R.operators = t :: rest ∧ t.trim = helpersMarker.toList ∧
    ∀ u ∈ rest, u.trim ≠ helpersMarker.toList ∧ u.trim ≠ endMarker.toList
  closing : ∃ t rest, R.closing = t :: rest ∧ t.trim = endMarker.toList
  opening : ∀ t ∈ R.opening, ofLine? {} t = none
  scope : ∃ t ∈ R.opening, Layout.openedScope? t ≠ none
  sections : ∀ n ∈ arities, IsPart (.arity n) (R.sections n)
  ending : IsPart .finish R.ending

theorem ofLine?_append_blank {c : Conventions} {t e : Text} (he : Text.isAllBlank e = true) :
    ofLine? c (t ++ e) = ofLine? c t := by
  rw [ofLine?, ofLine?, Text.trim_append_blank he]

theorem filterMap_ofLine?_lines {rs : List Text} (hrs : ∀ t ∈ rs, '\n' ∉ t) :
    (lines (join rs)).filterMap (ofLine? {}) = rs.filterMap (ofLine? {}) := by
  have hnil : ofLine? {} [] = none := by decide
  induction rs with
  | nil => rfl
  | cons t rs ih =>
    obtain ⟨ht, hrs⟩ := List.forall_mem_cons.1 hrs
    by_cases hne : rs = []
    · by_cases htnil : t = []
      · simp [hne, htnil, hnil]
      · simp [hne, Text.lines_of_not_mem htnil ht]
    · rw [join_cons hne, Text.lines_append_newline ht, List.filterMap_cons, List.filterMap_cons,
        ofLine?_append_blank (by decide), ih hrs]

namespace WellMarked

variable {R : PairRows} (hR : R.WellMarked)
include hR

theorem flat_implementation : ∀ t ∈ R.implementation, '\n' ∉ t ∧ '\r' ∉ t :=
  fun t ht => hR.flat t (List.mem_append_right _ ht)

theorem lines_implementation {rs part rest : List Text} {m : Marker} (hpart : IsPart m part)
    (hrs : R.implementation = rs ++ (part ++ rest)) :
    ∃ t e post, lines (join R.implementation) = rs.map (· ++ ['\n']) ++ (t ++ e) :: post ∧
      ofLine? {} (t ++ e) = some m := by
  obtain ⟨t, more, rfl, ht, -⟩ := hpart
  have hflat := hR.flat_implementation
  rw [hrs] at hflat ⊢
  have htne : t ≠ [] := by
    rintro rfl
    rw [show ofLine? {} [] = none by decide] at ht
    cases ht
  obtain ⟨e, post, hlines, he⟩ :=
    Text.exists_lines_join_cons htne (hflat t (by simp)).1 (more ++ rest)
  refine ⟨t, e, post, ?_, (ofLine?_append_blank he).trans ht⟩
  rw [Text.join_append rs (by simp), Text.lines_closed_append fun u hu => (hflat u (by simp [hu])).1,
    List.cons_append, hlines]

theorem exists_regions : ∃ rs,
    Layout.locateRegions {} (placedLines (join R.implementation)) = .ok rs ∧
      Layout.Sectioned {} (join R.implementation) rs := by
  have hmarks : (lines (join R.implementation)).filterMap (ofLine? {}) = all := by
    rw [filterMap_ofLine?_lines fun t ht => (hR.flat_implementation t ht).1, implementation,
      List.filterMap_append, List.filterMap_append, List.filterMap_eq_nil_iff.2 hR.opening,
      hR.ending.filterMap, List.nil_append, List.filterMap_flatMap,
      List.flatMap_congr fun n hn => (hR.sections n hn).filterMap]
    rfl
  obtain ⟨honce, horder⟩ := Layout.marked_of_filterMap hmarks
  exact Layout.sectioned_of_marked honce horder

/-- Between the rows in front of a section and the part behind it there is the section. -/
theorem exists_implementation_eq {n : Nat} (hn : n ∈ arities) : ∃ pre next rest,
    IsPart (Layout.markerAfter n) next ∧
      R.implementation = pre ++ (R.sections n ++ (next ++ rest)) := by
  have hsplit : ∀ n ∈ arities, arities =
      arities.takeWhile (· < n) ++ n :: arities.dropWhile (· ≤ n) ∧
        ((arities.dropWhile (· ≤ n)).head?.map Marker.arity).getD .finish =
          Layout.markerAfter n := by
    decide
  obtain ⟨hsplit, hafter⟩ := hsplit n hn
  have hrows : R.implementation = (R.opening ++
      (arities.takeWhile (· < n)).flatMap R.sections) ++ (R.sections n ++
        ((arities.dropWhile (· ≤ n)).flatMap R.sections ++ R.ending)) := by
    have hall : arities.flatMap R.sections = (arities.takeWhile (· < n)).flatMap R.sections ++
        (R.sections n ++ (arities.dropWhile (· ≤ n)).flatMap R.sections) := by
      conv_lhs => rw [hsplit]
      rw [List.flatMap_append, List.flatMap_cons]
    rw [implementation, hall]
    simp only [List.append_assoc]
  cases hdrop : arities.dropWhile (· ≤ n) with
  | nil =>
    rw [hdrop] at hafter hrows
    exact ⟨_, R.ending, [], hafter ▸ hR.ending, by rw [List.append_nil]; exact hrows⟩
  | cons k ks =>
    rw [hdrop] at hafter hrows
    have hk : k ∈ arities := (List.dropWhile_suffix _).mem (hdrop ▸ List.mem_cons_self)
    have hnext : (k :: ks).flatMap R.sections ++ R.ending =
        R.sections k ++ (ks.flatMap R.sections ++ R.ending) := by
      rw [List.flatMap_cons, List.append_assoc]
    rw [hnext] at hrows
    exact ⟨_, R.sections k, _, hafter ▸ hR.sections k hk, hrows⟩

theorem regionText_eq {rs : List Region}
    (hrs : Layout.Sectioned {} (join R.implementation) rs) {r : Region} (hr : r ∈ rs) :
    between (placedLines (join R.implementation)) r.start r.stop =
      Text.closed (R.sections r.arity) := by
  have hn : r.arity ∈ arities := hrs.arities ▸ List.mem_map_of_mem hr
  obtain ⟨pre, next, rest, hnext, hrows⟩ := hR.exists_implementation_eq hn
  obtain ⟨t, more, hsection, ht, -⟩ := hR.sections r.arity hn
  have hcut : R.implementation = (pre ++ R.sections r.arity) ++ (next ++ rest) := by
    rw [hrows, List.append_assoc]
  obtain ⟨t', e, post, hlines, ht'⟩ := hR.lines_implementation hnext hcut
  rw [hsection, List.map_append, List.map_cons] at hlines
  rw [Layout.between_of_lines hrs hr hlines ((ofLine?_append_blank (by decide)).trans ht) ht',
    hsection, List.flatten_cons, Text.flatten_map_newline, Text.closed_cons, List.append_assoc,
    List.singleton_append]

theorem exists_scope {rs : List Region} (hrs : Layout.Sectioned {} (join R.implementation) rs) :
    ∃ name, Layout.locateScope (placedLines (join R.implementation))
      ((rs.head?.map (·.start)).getD 0) = .ok name := by
  obtain ⟨t, more, hsection, ht, -⟩ := hR.sections 2 (by decide)
  have hcut : R.implementation =
      R.opening ++ (R.sections 2 ++ ((arities.tail.flatMap R.sections) ++ R.ending)) := by
    simp [implementation, arities]
  obtain ⟨t, e, post, hlines, ht⟩ := hR.lines_implementation (hR.sections 2 (by decide)) hcut
  have hstart : (rs.head?.map (·.start)).getD 0 =
      byteSize (R.opening.map (· ++ ['\n'])).flatten := by
    have hoffset := Layout.mem_offsets_of_lines hlines (by decide) ht
    cases rs with
    | nil => exact absurd hrs.arities (by decide)
    | cons r rs =>
      have harity : r.arity = 2 := (List.cons.inj hrs.arities).1
      have := hrs.start r List.mem_cons_self
      rw [harity] at this
      rw [this, List.mem_singleton] at hoffset
      exact hoffset.symm
  rw [hstart, placedLines, hlines]
  refine Layout.exists_locateScope (fun l hl => ?_) ?_
  · obtain ⟨u, -, rfl⟩ := List.mem_map.1 hl
    simp
  · obtain ⟨u, hu, hopens⟩ := hR.scope
    refine ⟨_, List.mem_map_of_mem hu, ?_⟩
    rwa [Layout.openedScope?, Text.trim_append_blank (by decide)]

theorem helpers_eq : Layout.helpersFrom none (placedLines (join R.interface)) =
      .ok (byteSize (Text.closed R.classes),
        byteSize (Text.closed R.classes) + byteSize (Text.closed R.operators)) ∧
    between (placedLines (join R.interface)) (byteSize (Text.closed R.classes))
      (byteSize (Text.closed R.classes) + byteSize (Text.closed R.operators)) =
        Text.closed R.operators := by
  obtain ⟨t, more, hoperators, ht, hmore⟩ := hR.operators
  obtain ⟨t', rest, hclosing, ht'⟩ := hR.closing
  have hflat : ∀ u ∈ R.interface, '\n' ∉ u :=
    fun u hu => (hR.flat u (List.mem_append_left _ hu)).1
  have htne : t' ≠ [] := by
    rintro rfl
    exact absurd ht' (by decide)
  rw [interface, hclosing] at hflat
  obtain ⟨e, post, hjoin, he⟩ := Text.exists_lines_join_cons htne (hflat t' (by simp)) rest
  have hblank : ∀ u : Text, (u ++ ['\n']).trim = u.trim := fun u => Text.trim_append_blank (by decide)
  have hlines : lines (join R.interface) = R.classes.map (· ++ ['\n']) ++
      (R.operators.map (· ++ ['\n'])) ++ (t' ++ e) :: post := by
    rw [interface, hclosing, Text.join_append _ (by simp),
      Text.lines_closed_append fun u hu => hflat u (List.mem_append_left _ hu), hjoin,
      List.map_append]
  have hfound : Layout.helpersFrom none (placeLines 0 (R.classes.map (· ++ ['\n']) ++
      (t ++ ['\n']) :: more.map (· ++ ['\n']) ++ (t' ++ e) :: post)) = _ :=
    Layout.helpersFrom_of_lines
      (List.forall_mem_map.2 fun u hu => by rw [hblank]; exact hR.classes u hu)
      (by rw [hblank]; exact ht)
      (List.forall_mem_map.2 fun u hu => by rw [hblank]; exact hmore u hu)
      (by rw [Text.trim_append_blank he]; exact ht')
  have hcons : (t ++ ['\n']) :: more.map (· ++ ['\n']) = R.operators.map (· ++ ['\n']) := by
    rw [hoperators, List.map_cons]
  rw [hcons, Text.flatten_map_newline, Text.flatten_map_newline] at hfound
  constructor
  · rw [placedLines, hlines]
    exact hfound
  · have hne : ∀ u ∈ R.classes.map (· ++ ['\n']) ++ R.operators.map (· ++ ['\n']), u ≠ [] := by
      intro u hu
      rw [← List.map_append] at hu
      obtain ⟨v, -, rfl⟩ := List.mem_map.1 hu
      simp
    have hcut : between (placeLines 0 (R.classes.map (· ++ ['\n']) ++
        R.operators.map (· ++ ['\n']) ++ (t' ++ e) :: post)) _ _ = _ :=
      Text.between_placeLines hne
    rw [Text.flatten_map_newline, Text.flatten_map_newline] at hcut
    rw [placedLines, hlines]
    exact hcut

/-- A pair whose parts start with their markers is accepted and cut into these parts. -/
theorem exists_ofSources : ∃ m,
    Master.ofSources {} (join R.interface) (join R.implementation) = .ok m ∧
      m.interface = join R.interface ∧ m.implementation = join R.implementation ∧
      (∀ r ∈ m.layout.regions, m.regionText r = Text.closed (R.sections r.arity)) ∧
      m.helpersText = Text.closed R.operators := by
  have hreturn : ∀ rs : List Text, (∀ t ∈ rs, t ∈ R.interface ++ R.implementation) →
      (join rs).normalizeNewlines = join rs := fun rs hrs =>
    Text.normalizeNewlines_of_not_mem (Text.not_mem_join (by decide) fun t ht =>
      (hR.flat t (hrs t ht)).2)
  obtain ⟨rs, hlocated, hrs⟩ := hR.exists_regions
  obtain ⟨name, hscope⟩ := hR.exists_scope hrs
  obtain ⟨hhelpers, hcut⟩ := hR.helpers_eq
  refine ⟨⟨join R.interface, join R.implementation, ⟨name, rs, _, _⟩⟩, ?_, rfl, rfl,
    fun r hr => hR.regionText_eq hrs hr, hcut⟩
  exact Master.ofSources_eq_ok_iff.2 ⟨(hreturn _ fun t ht => List.mem_append_left _ ht).symm,
    (hreturn _ fun t ht => List.mem_append_right _ ht).symm, hlocated, hscope, hhelpers⟩

end WellMarked

end PairRows

end VectorFamily
