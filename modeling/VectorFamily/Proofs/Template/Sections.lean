import Mathlib.Data.List.Chain
import Mathlib.Data.List.Nodup
import VectorFamily.Proofs.Sequence
import VectorFamily.Proofs.Template.Markers
import VectorFamily.Proofs.Text.Placed
import VectorFamily.Template.Master

/-!
# Sections of an implementation

An implementation has its sections if every marker stands on one line and the lines are in the order
of the markers. `locateRegions_spec` says that the sections are found just then, that they and what
stands around them make up the text, and which error is given otherwise.
-/

namespace VectorFamily.Layout

open Marker (all offsets)
open Text (between placedLines byteSize)

/-! ### From the offsets of the markers to the sections -/

/-- The sections that start at the given offsets, whether these ascend or not. -/
def spans (finish : Nat) : List (Nat × Nat) → List Region
  | [] => []
  | (n, start) :: rest => ⟨n, start, (rest.head?.map (·.2)).getD finish⟩ :: spans finish rest

/-- The markers behind the given offsets. -/
def marks (finish : Nat) (starts : List (Nat × Nat)) : List (Marker × Nat) :=
  starts.map (fun s => (.arity s.1, s.2)) ++ [(.finish, finish)]

section
variable {c : Conventions} {finish : Nat} {starts : List (Nat × Nat)}

def nextMark (finish : Nat) (starts : List (Nat × Nat)) : Marker × Nat :=
  (starts.head?.map fun s => (Marker.arity s.1, s.2)).getD (.finish, finish)

theorem marks_eq_cons (finish : Nat) (starts : List (Nat × Nat)) :
    ∃ rest, marks finish starts = nextMark finish starts :: rest := by
  cases starts with
  | nil => exact ⟨[], rfl⟩
  | cons s starts => exact ⟨marks finish starts, rfl⟩

theorem isChain_marks_cons {n start : Nat} :
    ((marks finish ((n, start) :: starts)).map (·.2)).IsChain (· < ·) ↔
      start < (nextMark finish starts).2 ∧ ((marks finish starts).map (·.2)).IsChain (· < ·) := by
  obtain ⟨rest, hrest⟩ := marks_eq_cons finish starts
  have hcons : marks finish ((n, start) :: starts) =
      (.arity n, start) :: nextMark finish starts :: rest := by
    rw [← hrest]
    rfl
  rw [hcons, hrest, List.map_cons, List.map_cons, List.isChain_cons_cons]

theorem regionsFrom_cons {n start : Nat} : regionsFrom c finish ((n, start) :: starts) =
    if (nextMark finish starts).2 ≤ start then
      .error (.markerMisplaced .implementation ((nextMark finish starts).1.comment c)
        ((Marker.arity n).comment c))
    else (regionsFrom c finish starts).map
      (⟨n, start, (nextMark finish starts).2⟩ :: ·) := by
  rw [regionsFrom]
  show (if (nextMark finish starts).2 ≤ start then _ else _) = _
  split
  · rfl
  · cases regionsFrom c finish starts <;> rfl

theorem spans_cons {n start : Nat} : spans finish ((n, start) :: starts) =
    ⟨n, start, (nextMark finish starts).2⟩ :: spans finish starts := by
  rw [spans]
  cases starts <;> rfl

theorem regionsFrom_of_isChain (h : ((marks finish starts).map (·.2)).IsChain (· < ·)) :
    regionsFrom c finish starts = .ok (spans finish starts) := by
  induction starts with
  | nil => rfl
  | cons s starts ih =>
    obtain ⟨n, start⟩ := s
    obtain ⟨hlt, hchain⟩ := isChain_marks_cons.1 h
    rw [regionsFrom_cons, if_neg (by omega), ih hchain, spans_cons]
    rfl

/-- Of markers that are not in order, the first two neighbours in the wrong order are named. -/
theorem regionsFrom_of_not_isChain (h : ¬ ((marks finish starts).map (·.2)).IsChain (· < ·)) :
    ∃ pre m o m' o' post, marks finish starts = pre ++ (m, o) :: (m', o') :: post ∧
      ((pre ++ [(m, o)]).map (·.2)).IsChain (· < ·) ∧ o' ≤ o ∧
      regionsFrom c finish starts =
        .error (.markerMisplaced .implementation (m'.comment c) (m.comment c)) := by
  induction starts with
  | nil => exact absurd (List.IsChain.singleton finish) h
  | cons s starts ih =>
    obtain ⟨n, start⟩ := s
    obtain ⟨rest, hrest⟩ := marks_eq_cons finish starts
    by_cases hlt : start < (nextMark finish starts).2
    · have htail : ¬ ((marks finish starts).map (·.2)).IsChain (· < ·) :=
        fun htail => h (isChain_marks_cons.2 ⟨hlt, htail⟩)
      obtain ⟨pre, m, o, m', o', post, hmarks, hchain, hle, herror⟩ := ih htail
      refine ⟨(.arity n, start) :: pre, m, o, m', o', post, ?_, ?_, hle, ?_⟩
      · show _ :: marks finish starts = _
        rw [hmarks]
        rfl
      · -- the marker behind the first one is the first of the others
        have hhead : ∃ more, pre ++ [(m, o)] = nextMark finish starts :: more := by
          rw [hrest] at hmarks
          cases pre with
          | nil => exact ⟨[], by rw [(List.cons.inj hmarks).1]; rfl⟩
          | cons s pre => exact ⟨pre ++ [(m, o)], by rw [(List.cons.inj hmarks).1]; rfl⟩
        obtain ⟨more, hmore⟩ := hhead
        rw [hmore] at hchain
        rw [List.cons_append, hmore, List.map_cons, List.map_cons, List.isChain_cons_cons]
        exact ⟨hlt, hchain⟩
      · rw [regionsFrom_cons, if_neg (by omega), herror]
        rfl
    · refine ⟨[], .arity n, start, (nextMark finish starts).1, (nextMark finish starts).2, rest,
        ?_, List.IsChain.singleton _, by omega, ?_⟩
      · show _ :: marks finish starts = _
        rw [hrest]
        rfl
      · rw [regionsFrom_cons, if_pos (by omega)]

theorem nextMark_le_finish (h : ((marks finish starts).map (·.2)).IsChain (· < ·)) :
    (nextMark finish starts).2 ≤ finish := by
  induction starts with
  | nil => exact Nat.le_refl finish
  | cons s starts ih =>
    obtain ⟨n, start⟩ := s
    obtain ⟨hlt, hchain⟩ := isChain_marks_cons.1 h
    exact Nat.le_of_lt (Nat.lt_of_lt_of_le hlt (ih hchain))

theorem start_lt_stop_of_mem_spans (h : ((marks finish starts).map (·.2)).IsChain (· < ·))
    {r : Region} (hr : r ∈ spans finish starts) : r.start < r.stop := by
  induction starts with
  | nil => simp [spans] at hr
  | cons s starts ih =>
    obtain ⟨n, start⟩ := s
    obtain ⟨hlt, hchain⟩ := isChain_marks_cons.1 h
    rw [spans_cons] at hr
    rcases List.mem_cons.1 hr with rfl | hr
    · exact hlt
    · exact ih hchain hr

/-- Sections that follow each other make up what stands between the first marker and the end. -/
theorem flatMap_spans {ls : List Line} (hls : ls.Pairwise (·.offset < ·.offset))
    (h : ((marks finish starts).map (·.2)).IsChain (· < ·)) :
    (spans finish starts).flatMap (fun r => between ls r.start r.stop) =
      between ls (nextMark finish starts).2 finish := by
  induction starts with
  | nil => exact (Text.between_self ls finish).symm
  | cons s starts ih =>
    obtain ⟨n, start⟩ := s
    obtain ⟨hlt, hchain⟩ := isChain_marks_cons.1 h
    rw [spans_cons, List.flatMap_cons, ih hchain]
    exact Text.between_append hls (Nat.le_of_lt hlt) (nextMark_le_finish hchain)

end

/-! ### What is found -/

section
variable {c : Conventions} {ls : List Line}

theorem firstRepeat?_sightings_of_le_one (h : ∀ m ∈ all, (offsets c ls m).length ≤ 1) :
    firstRepeat? [] ((Marker.sightings c ls).map (·.1)) = none := by
  refine firstRepeat?_eq_none_iff.2 ⟨List.nodup_iff_count.2 fun m => ?_, by simp⟩
  by_cases hm : m ∈ all
  · rw [Marker.count_sightings hm]
    exact h m hm
  · rw [List.count_eq_zero_of_not_mem fun hs => hm (Marker.mem_all_of_mem_sightings hs)]
    exact Nat.zero_le 1

theorem locateRegions_of_repeated {m : Marker} (hm : m ∈ all)
    (h : 1 < (offsets c ls m).length) : ∃ m ∈ all, 1 < (offsets c ls m).length ∧
      locateRegions c ls = .error (.markerRepeated .implementation (m.comment c)) := by
  cases hr : firstRepeat? [] ((Marker.sightings c ls).map (·.1)) with
  | none =>
    have hnodup := (firstRepeat?_eq_none_iff.1 hr).1
    have := List.nodup_iff_count.1 hnodup m
    rw [Marker.count_sightings hm] at this
    omega
  | some m' =>
    have hcount : 1 < ((Marker.sightings c ls).map (·.1)).count m' :=
      one_lt_count_of_firstRepeat? hr
    have hm' : m' ∈ all :=
      Marker.mem_all_of_mem_sightings (List.count_pos_iff.1 (Nat.lt_trans Nat.zero_lt_one hcount))
    rw [Marker.count_sightings hm'] at hcount
    refine ⟨m', hm', hcount, ?_⟩
    simp only [locateRegions, hr]
    rfl

theorem offsetOf_eq {m : Marker} (hm : m ∈ all) : offsetOf c (Marker.sightings c ls) m =
    match (offsets c ls m).head? with
    | some offset => .ok offset
    | none => .error (.markerMissing .implementation (m.comment c)) := by
  cases hhead : (offsets c ls m).head? <;> rw [offsetOf, Marker.lookup_sightings hm, hhead]

def startOf (c : Conventions) (ls : List Line) (n : Nat) : Except Failure (Nat × Nat) := do
  return (n, ← offsetOf c (Marker.sightings c ls) (.arity n))

theorem locateRegions_eq (h : ∀ m ∈ all, (offsets c ls m).length ≤ 1) : locateRegions c ls =
    arities.mapM (startOf c ls) >>= fun starts =>
      offsetOf c (Marker.sightings c ls) .finish >>= fun finish =>
        regionsFrom c finish starts := by
  unfold locateRegions
  simp only [firstRepeat?_sightings_of_le_one h]
  rfl

def offset (c : Conventions) (ls : List Line) (m : Marker) : Nat := (offsets c ls m).headD 0

theorem offsets_eq_singleton {m : Marker} (h : (offsets c ls m).length = 1) :
    offsets c ls m = [offset c ls m] := by
  obtain ⟨o, ho⟩ := List.length_eq_one_iff.1 h
  rw [offset, ho]
  rfl

/-- The offsets of the markers of the arities, if each of them stands on one line. -/
def foundStarts (c : Conventions) (ls : List Line) : List (Nat × Nat) :=
  arities.map fun n => (n, offset c ls (.arity n))

theorem startOf_eq_ok {n : Nat} (hn : n ∈ arities) (h : (offsets c ls (.arity n)).length = 1) :
    startOf c ls n = .ok (n, offset c ls (.arity n)) := by
  rw [startOf, offsetOf_eq (Marker.mem_all_iff.2 (.inr ⟨n, hn, rfl⟩)), offsets_eq_singleton h]
  rfl

theorem locateRegions_of_missing (h : ∀ m ∈ all, (offsets c ls m).length ≤ 1) {m : Marker}
    (hm : all.find? (fun m => (offsets c ls m).isEmpty) = some m) :
    locateRegions c ls = .error (.markerMissing .implementation (m.comment c)) := by
  have present : ∀ n ∈ arities, (offsets c ls (.arity n)).isEmpty = false →
      startOf c ls n = .ok (n, offset c ls (.arity n)) := by
    intro n hn hne
    have hpos := List.length_pos_iff.2 (List.isEmpty_eq_false_iff.1 hne)
    have hle := h _ (Marker.mem_all_iff.2 (.inr ⟨n, hn, rfl⟩))
    exact startOf_eq_ok hn (by omega)
  rw [all, List.find?_append, List.find?_map] at hm
  rw [locateRegions_eq h]
  cases hf : arities.find? ((fun m => (offsets c ls m).isEmpty) ∘ Marker.arity) with
  | some n =>
    rw [hf] at hm
    obtain rfl : Marker.arity n = m := by simpa using hm
    obtain ⟨hempty, pre, post, hsplit, hpre⟩ := List.find?_eq_some_iff_append.1 hf
    have hn : n ∈ arities := by simp [hsplit]
    have hmissing : startOf c ls n =
        .error (.markerMissing .implementation ((Marker.arity n).comment c)) := by
      rw [startOf, offsetOf_eq (Marker.mem_all_iff.2 (.inr ⟨n, hn, rfl⟩)),
        List.isEmpty_iff.1 hempty]
      rfl
    have hfound : ∀ k ∈ pre, startOf c ls k = .ok (k, offset c ls (.arity k)) :=
      fun k hk => present k (by simp [hsplit, hk]) (by simpa using hpre k hk)
    rw [hsplit, mapM_eq_error hfound hmissing]
    rfl
  | none =>
    rw [hf, Option.map_none, Option.none_or] at hm
    have hfinish : Marker.finish ∈ all := Marker.mem_all_iff.2 (.inl rfl)
    have hempty := List.find?_some hm
    obtain rfl := List.mem_singleton.1 (List.mem_of_find?_eq_some hm)
    have hfound : ∀ n ∈ arities, startOf c ls n = .ok (n, offset c ls (.arity n)) :=
      fun n hn => present n hn (by simpa using List.find?_eq_none.1 hf n hn)
    rw [mapM_eq_ok hfound, offsetOf_eq hfinish, List.isEmpty_iff.1 hempty]
    rfl

/-- When every marker stands on one line, only the order is left to be checked. -/
theorem locateRegions_of_once (h : ∀ m ∈ all, (offsets c ls m).length = 1) :
    locateRegions c ls = regionsFrom c (offset c ls .finish) (foundStarts c ls) := by
  have hfound : ∀ n ∈ arities, startOf c ls n = .ok (n, offset c ls (.arity n)) :=
    fun n hn => startOf_eq_ok hn (h _ (Marker.mem_all_iff.2 (.inr ⟨n, hn, rfl⟩)))
  have hfinish : Marker.finish ∈ all := Marker.mem_all_iff.2 (.inl rfl)
  rw [locateRegions_eq fun m hm => Nat.le_of_eq (h m hm), mapM_eq_ok hfound, offsetOf_eq hfinish,
    offsets_eq_singleton (h _ hfinish)]
  rfl

theorem marks_foundStarts : marks (offset c ls .finish) (foundStarts c ls) =
    all.map fun m => (m, offset c ls m) := by
  simp [marks, foundStarts, all]

theorem flatMap_offsets {ms : List Marker} (h : ∀ m ∈ ms, (offsets c ls m).length = 1) :
    ms.flatMap (offsets c ls) = ms.map (offset c ls) := by
  induction ms with
  | nil => rfl
  | cons m ms ih =>
    rw [List.flatMap_cons, offsets_eq_singleton (h m List.mem_cons_self),
      ih fun m' hm' => h m' (List.mem_cons_of_mem _ hm')]
    rfl

theorem isChain_marks_iff (h : ∀ m ∈ all, (offsets c ls m).length = 1) :
    ((marks (offset c ls .finish) (foundStarts c ls)).map (·.2)).IsChain (· < ·) ↔
      (all.flatMap (offsets c ls)).Pairwise (· < ·) := by
  rw [flatMap_offsets h, ← List.isChain_iff_pairwise, marks_foundStarts, List.map_map]
  rfl

end

/-! ### The sections of a text -/

def MarkedOnce (c : Conventions) (t : Text) : Prop :=
  ∀ m ∈ all, (offsets c (placedLines t) m).length = 1

/-- The lines that are markers are in the order of the markers. -/
def MarkedInOrder (c : Conventions) (t : Text) : Prop :=
  (all.flatMap (offsets c (placedLines t))).Pairwise (· < ·)

def markerAfter (n : Nat) : Marker := if n < 10 then .arity (n + 1) else .finish

/-- What is found in a text that has its sections. -/
structure Sectioned (c : Conventions) (t : Text) (rs : List Region) : Prop where
  arities : rs.map (·.arity) = arities
  start : ∀ r ∈ rs, offsets c (placedLines t) (.arity r.arity) = [r.start]
  stop : ∀ r ∈ rs, offsets c (placedLines t) (markerAfter r.arity) = [r.stop]
  size : ∀ r ∈ rs, r.start + byteSize (between (placedLines t) r.start r.stop) = r.stop
  whole : ∃ first last, offsets c (placedLines t) (.arity 2) = [first] ∧
    offsets c (placedLines t) .finish = [last] ∧
    between (placedLines t) 0 first ++
      rs.flatMap (fun r => between (placedLines t) r.start r.stop) ++
      between (placedLines t) last (byteSize t) = t

theorem mem_placedLines_of_offsets {c : Conventions} {t : Text} {m : Marker} {o : Nat}
    (h : o ∈ offsets c (placedLines t) m) : ∃ l ∈ placedLines t, l.offset = o := by
  obtain ⟨l, hl, rfl⟩ := List.mem_map.1 h
  exact ⟨l, (List.mem_filter.1 hl).1, rfl⟩

theorem byteSize_between_offsets {c : Conventions} {t : Text} {m m' : Marker} {o o' : Nat}
    (h : o ∈ offsets c (placedLines t) m) (h' : o' ∈ offsets c (placedLines t) m') (hle : o ≤ o') :
    o + byteSize (between (placedLines t) o o') = o' := by
  obtain ⟨l, hl, rfl⟩ := mem_placedLines_of_offsets h
  obtain ⟨l', hl', rfl⟩ := mem_placedLines_of_offsets h'
  have hcut := Text.between_append (Text.pairwise_placedLines t) (Nat.zero_le l.offset) hle
  have hsize := congrArg byteSize hcut
  rw [Text.byteSize_append, Text.byteSize_between_zero hl, Text.byteSize_between_zero hl'] at hsize
  exact hsize

theorem sectioned_of_marked {c : Conventions} {t : Text} (honce : MarkedOnce c t)
    (horder : MarkedInOrder c t) : ∃ rs, locateRegions c (placedLines t) = .ok rs ∧
      Sectioned c t rs := by
  have hchain := (isChain_marks_iff honce).2 horder
  refine ⟨_, (locateRegions_of_once honce).trans (regionsFrom_of_isChain hchain), ?_⟩
  have hlt := fun r => start_lt_stop_of_mem_spans hchain (r := r)
  have hwhole := flatMap_spans (Text.pairwise_placedLines t) hchain
  have hle := nextMark_le_finish hchain
  -- over the fixed list of markers the spans unfold to one region for each arity
  have hspans : spans (offset c (placedLines t) .finish) (foundStarts c (placedLines t)) =
      arities.map fun n =>
        ⟨n, offset c (placedLines t) (.arity n), offset c (placedLines t) (markerAfter n)⟩ :=
    rfl
  have hfirst : nextMark (offset c (placedLines t) .finish) (foundStarts c (placedLines t)) =
      (.arity 2, offset c (placedLines t) (.arity 2)) :=
    rfl
  have once : ∀ m ∈ all, offsets c (placedLines t) m = [offset c (placedLines t) m] :=
    fun m hm => offsets_eq_singleton (honce m hm)
  have harity : ∀ n ∈ arities, Marker.arity n ∈ all := by decide
  have hafter : ∀ n ∈ arities, markerAfter n ∈ all := by decide
  rw [hspans] at hlt hwhole ⊢
  rw [hfirst] at hwhole hle
  constructor
  case arities => rfl
  case start =>
    intro r hr
    obtain ⟨n, hn, rfl⟩ := List.mem_map.1 hr
    exact once _ (harity n hn)
  case stop =>
    intro r hr
    obtain ⟨n, hn, rfl⟩ := List.mem_map.1 hr
    exact once _ (hafter n hn)
  case size =>
    intro r hr
    have hlt := hlt r hr
    obtain ⟨n, hn, rfl⟩ := List.mem_map.1 hr
    have h₁ := once _ (harity n hn)
    have h₂ := once _ (hafter n hn)
    exact byteSize_between_offsets (by rw [h₁]; exact List.mem_singleton_self _)
      (by rw [h₂]; exact List.mem_singleton_self _) (Nat.le_of_lt hlt)
  case whole =>
    have h₂ := once (.arity 2) (by decide)
    have hend := once .finish (by decide)
    have hmem : offset c (placedLines t) .finish ∈ offsets c (placedLines t) .finish := by
      rw [hend]
      exact List.mem_singleton_self _
    obtain ⟨l, hl, hoffset⟩ := mem_placedLines_of_offsets hmem
    have hsize := Text.offset_lt_byteSize hl
    refine ⟨_, _, h₂, hend, ?_⟩
    rw [hwhole, Text.between_append (Text.pairwise_placedLines t) (Nat.zero_le _) hle,
      Text.between_append (Text.pairwise_placedLines t) (Nat.zero_le _) (by omega),
      Text.between_zero_byteSize]

/-- The first two neighbouring markers in the wrong order are named, and all before them are in
order. -/
theorem locateRegions_of_not_inOrder {c : Conventions} {t : Text} (honce : MarkedOnce c t)
    (horder : ¬ MarkedInOrder c t) : ∃ pre m m' post o o', all = pre ++ m :: m' :: post ∧
      ((pre ++ [m]).flatMap (offsets c (placedLines t))).Pairwise (· < ·) ∧
      offsets c (placedLines t) m = [o] ∧ offsets c (placedLines t) m' = [o'] ∧ o' ≤ o ∧
      locateRegions c (placedLines t) =
        .error (.markerMisplaced .implementation (m'.comment c) (m.comment c)) := by
  have hchain := fun h => horder ((isChain_marks_iff honce).1 h)
  obtain ⟨pre, m, o, m', o', post, hmarks, hpre, hle, herror⟩ :=
    regionsFrom_of_not_isChain (c := c) hchain
  rw [marks_foundStarts] at hmarks
  obtain ⟨pre, rest, hall, rfl, hrest⟩ := List.map_eq_append_iff.1 hmarks
  obtain ⟨m₁, rest, rfl, hm, hrest⟩ := List.map_eq_cons_iff.1 hrest
  obtain ⟨m₂, post, rfl, hm', -⟩ := List.map_eq_cons_iff.1 hrest
  obtain ⟨rfl, rfl⟩ := Prod.mk.inj hm
  obtain ⟨rfl, rfl⟩ := Prod.mk.inj hm'
  have once : ∀ m ∈ pre ++ [m₁], (offsets c (placedLines t) m).length = 1 := by
    intro m hm
    refine honce m ?_
    rw [hall]
    rcases List.mem_append.1 hm with hm | hm
    · exact List.mem_append_left _ hm
    · obtain rfl := List.mem_singleton.1 hm
      simp
  refine ⟨pre, m₁, m₂, post, _, _, hall, ?_, offsets_eq_singleton (honce m₁ (by simp [hall])),
    offsets_eq_singleton (honce m₂ (by simp [hall])), hle,
    (locateRegions_of_once honce).trans herror⟩
  rw [flatMap_offsets once, ← List.isChain_iff_pairwise]
  simpa [Function.comp_def] using hpre

section
variable {c : Conventions} {t : Text} {rs : List Region}

/-- Sections are found only where every marker stands on one line and the lines are in order. -/
theorem marked_of_locateRegions (hrs : locateRegions c (placedLines t) = .ok rs) :
    MarkedOnce c t ∧ MarkedInOrder c t := by
  have hle : ∀ m ∈ all, (offsets c (placedLines t) m).length ≤ 1 := by
    intro m hm
    refine Nat.le_of_not_lt fun h => ?_
    obtain ⟨_, -, -, he⟩ := locateRegions_of_repeated hm h
    rw [hrs] at he
    cases he
  have honce : MarkedOnce c t := by
    intro m hm
    have hne : all.find? (fun m => (offsets c (placedLines t) m).isEmpty) = none := by
      cases hf : all.find? fun m => (offsets c (placedLines t) m).isEmpty with
      | none => rfl
      | some m =>
        have he := locateRegions_of_missing hle hf
        rw [hrs] at he
        cases he
    have hpos := List.length_pos_iff.2
      (List.isEmpty_eq_false_iff.1 (by simpa using List.find?_eq_none.1 hne m hm))
    have := hle m hm
    omega
  refine ⟨honce, ?_⟩
  by_cases horder : MarkedInOrder c t
  · exact horder
  · obtain ⟨_, _, _, _, _, _, -, -, -, -, -, he⟩ := locateRegions_of_not_inOrder honce horder
    rw [hrs] at he
    cases he

theorem sectioned_of_locateRegions (hrs : locateRegions c (placedLines t) = .ok rs) :
    Sectioned c t rs := by
  obtain ⟨honce, horder⟩ := marked_of_locateRegions hrs
  obtain ⟨rs', hrs', h⟩ := sectioned_of_marked honce horder
  rw [hrs] at hrs'
  obtain rfl := Except.ok.inj hrs'
  exact h

theorem start_lt_stop_of_locateRegions (hrs : locateRegions c (placedLines t) = .ok rs)
    {r : Region} (hr : r ∈ rs) : r.start < r.stop := by
  obtain ⟨honce, horder⟩ := marked_of_locateRegions hrs
  have hchain := (isChain_marks_iff honce).2 horder
  rw [locateRegions_of_once honce, regionsFrom_of_isChain hchain] at hrs
  obtain rfl := Except.ok.inj hrs
  exact start_lt_stop_of_mem_spans hchain hr

end

/-- Which sections are found in an implementation, and which error is given when there are none. -/
theorem locateRegions_spec (c : Conventions) (t : Text) :
    ((∃ rs, locateRegions c (placedLines t) = .ok rs) ↔ MarkedOnce c t ∧ MarkedInOrder c t) ∧
    (∀ rs, locateRegions c (placedLines t) = .ok rs → Sectioned c t rs) ∧
    ((∃ m ∈ all, 1 < (offsets c (placedLines t) m).length) →
      ∃ m ∈ all, 1 < (offsets c (placedLines t) m).length ∧
        locateRegions c (placedLines t) = .error (.markerRepeated .implementation (m.comment c))) ∧
    ((∀ m ∈ all, (offsets c (placedLines t) m).length ≤ 1) →
      ∀ m, all.find? (fun m => (offsets c (placedLines t) m).isEmpty) = some m →
        locateRegions c (placedLines t) = .error (.markerMissing .implementation (m.comment c))) ∧
    (MarkedOnce c t → ¬ MarkedInOrder c t →
      ∃ pre m m' post o o', all = pre ++ m :: m' :: post ∧
        ((pre ++ [m]).flatMap (offsets c (placedLines t))).Pairwise (· < ·) ∧
        offsets c (placedLines t) m = [o] ∧ offsets c (placedLines t) m' = [o'] ∧ o' ≤ o ∧
        locateRegions c (placedLines t) =
          .error (.markerMisplaced .implementation (m'.comment c) (m.comment c))) := by
  refine ⟨⟨fun ⟨rs, hrs⟩ => marked_of_locateRegions hrs, fun ⟨honce, horder⟩ => ?_⟩,
    fun rs hrs => sectioned_of_locateRegions hrs, fun ⟨_, hm, h⟩ => locateRegions_of_repeated hm h,
    fun hle m hm => locateRegions_of_missing hle hm, locateRegions_of_not_inOrder⟩
  obtain ⟨rs, hrs, -⟩ := sectioned_of_marked honce horder
  exact ⟨rs, hrs⟩

end VectorFamily.Layout

namespace VectorFamily.Master

variable {c : Conventions} {interface implementation : Text} {m : Master}

/-- The texts of a pair are those that were given, up to the line ends, and each of its parts is what
was found in one of them. -/
structure Located (c : Conventions) (interface implementation : Text) (m : Master) : Prop where
  interface : m.interface = interface.normalizeNewlines
  implementation : m.implementation = implementation.normalizeNewlines
  regions : Layout.locateRegions c m.implementation.placedLines = .ok m.layout.regions
  scope : Layout.locateScope m.implementation.placedLines
    ((m.layout.regions.head?.map (·.start)).getD 0) = .ok m.layout.scope
  helpers : Layout.helpersFrom none m.interface.placedLines = .ok m.layout.helpers

/-- The stream operators are looked for last. -/
theorem ofSources_eq (c : Conventions) (interface implementation : Text) :
    ofSources c interface implementation =
      Layout.locateRegions c implementation.normalizeNewlines.placedLines >>= fun regions =>
        Layout.locateScope implementation.normalizeNewlines.placedLines
          ((regions.head?.map (·.start)).getD 0) >>= fun scope =>
        (Layout.helpersFrom none interface.normalizeNewlines.placedLines).map fun helpers =>
          ⟨interface.normalizeNewlines, implementation.normalizeNewlines,
            ⟨scope, regions, helpers⟩⟩ := by
  unfold ofSources Layout.locate
  simp only [bind_assoc]
  refine bind_congr fun regions => bind_congr fun scope => ?_
  cases Layout.helpersFrom none interface.normalizeNewlines.placedLines <;> rfl

theorem ofSources_eq_ok_iff :
    ofSources c interface implementation = .ok m ↔ Located c interface implementation m := by
  have hmap : ∀ {x : Except Failure (Nat × Nat)} {f : Nat × Nat → Master},
      x.map f = .ok m ↔ ∃ helpers, x = .ok helpers ∧ f helpers = m := by
    rintro (e | helpers) f <;> simp [Except.map]
  rw [ofSources_eq]
  simp only [bind_eq_ok, hmap]
  constructor
  · rintro ⟨regions, hregions, scope, hscope, helpers, hhelpers, rfl⟩
    exact ⟨rfl, rfl, hregions, hscope, hhelpers⟩
  · rintro ⟨hinterface, himplementation, hregions, hscope, hhelpers⟩
    rw [himplementation] at hregions hscope
    rw [hinterface] at hhelpers
    refine ⟨_, hregions, _, hscope, _, hhelpers, ?_⟩
    rw [← hinterface, ← himplementation]

theorem aritySource?_of_mem (hm : ofSources c interface implementation = .ok m) {r : Region}
    (hr : r ∈ m.layout.regions) : m.aritySource? r.arity = some (m.regionText r) := by
  have hsectioned := Layout.sectioned_of_locateRegions (ofSources_eq_ok_iff.1 hm).regions
  have hnodup : (m.layout.regions.map (·.arity)).Nodup := by
    rw [hsectioned.arities]
    decide
  cases hfind : m.layout.regions.find? (·.arity == r.arity) with
  | none =>
    have hnone := List.find?_eq_none.1 hfind r hr
    simp at hnone
  | some r' =>
    have harity : r'.arity = r.arity := by simpa using List.find?_some hfind
    obtain rfl := List.inj_on_of_nodup_map hnodup (List.mem_of_find?_eq_some hfind) hr harity
    rw [aritySource?, hfind, Option.map_some]

end VectorFamily.Master
