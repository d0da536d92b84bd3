import VectorFamily.Proofs.Builtin.Rows

/-!
# The built-in pair is complete

The built-in pair has all its parts in their order (`wellMarked`), and its rows hold all that a run
for a suited profile looks for (`completeInterface`, `completeImplementation`).
-/

namespace VectorFamily

open Marker (ofLine?)
open VectorFamily.Specialization

namespace Marker

theorem trim_tab_comment : ∀ m ∈ all,
    Text.trim ('\t' :: (m.comment {}).toList) = (m.comment {}).toList := by
  decide +kernel

theorem ofLine?_tab_comment {m : Marker} (hm : m ∈ all) :
    ofLine? {} ('\t' :: (m.comment {}).toList) = some m :=
  (ofLine?_eq_some_iff hm).2 (trim_tab_comment m hm)

end Marker

namespace Builtin

variable {t : Text} {n : Nat}

theorem exists_cons_of_head? {ts : List Text} {m : Text}
    (h : (ts.head?.map Text.trim == some m) = true) : ∃ t rest, ts = t :: rest ∧ t.trim = m := by
  cases ts with
  | nil => cases h
  | cons t rest => exact ⟨t, rest, rfl, by simpa using h⟩

/-! ### The interface -/

theorem of_mem_classes (ht : t ∈ pairRows.classes) : isInterfaceRow t = true ∧ isUnmarked t = true := by
  have hclass : ∀ ts, isClass ts = true → t ∈ ts → isInterfaceRow t = true ∧ isUnmarked t = true :=
    fun ts hts ht => Bool.and_eq_true_iff.1 (List.all_eq_true.1 hts t ht)
  rcases List.mem_append.1 ht with ht | ht
  · exact hclass _ (Bool.and_eq_true_iff.1 interface_checked.1).1 ht
  · obtain ⟨n, hn, ht⟩ := List.mem_flatMap.1 ht
    exact hclass _ (interface_checked.2.2.2 n hn) ht

theorem of_mem_interface (ht : t ∈ pairRows.interface) : isInterfaceRow t = true := by
  have hsplit : pairRows.operators ++ pairRows.closing = interfaceHelpers.map String.toList :=
    List.take_append_drop ..
  have hend := interface_checked.2.1
  simp only [isInterfaceEnd, Bool.and_eq_true, List.all_eq_true] at hend
  rw [PairRows.interface, List.append_assoc, hsplit] at ht
  rcases List.mem_append.1 ht with ht | ht
  · exact (of_mem_classes ht).1
  · exact hend.1.1 t ht

theorem operators_spec : (∃ t rest, pairRows.operators = t :: rest ∧
      t.trim = helpersMarker.toList ∧ ∀ u ∈ rest, isUnmarked u = true) ∧
    (∃ t rest, pairRows.closing = t :: rest ∧ t.trim = endMarker.toList) ∧
    streamedRow ∈ pairRows.operators ∧ operatorRow ∈ pairRows.operators ∧
    pairRows.operators.getLast? = some ['\t', '\x7d'] := by
  have hend := interface_checked.2.1
  simp only [isInterfaceEnd, Bool.and_eq_true, List.contains_iff_mem, beq_iff_eq] at hend
  obtain ⟨⟨-, ⟨hmarker, hrest⟩, hclosing⟩, ⟨hstreamed, hoperator⟩, hlast⟩ := hend
  obtain ⟨t, rest, hoperators, ht⟩ := exists_cons_of_head? (beq_iff_eq.2 hmarker)
  refine ⟨⟨t, rest, hoperators, ht, ?_⟩, exists_cons_of_head? (beq_iff_eq.2 hclosing), hstreamed,
    hoperator, hlast⟩
  rw [hoperators] at hrest
  exact List.all_eq_true.1 hrest

theorem completeInterface : CompleteInterface pairRows.interface := by
  have hstart : ∀ t ∈ interfaceStart.map String.toList, t ∈ pairRows.interface :=
    fun t ht => by simp [PairRows.interface, pairRows, ht]
  have hfirst : ∀ t ∈ (classLines 2).map String.toList, t ∈ pairRows.interface := fun t ht => by
    have hclass : t ∈ arities.flatMap fun n => (classLines n).map String.toList :=
      List.mem_flatMap.2 ⟨2, by decide, ht⟩
    exact List.mem_append_left _ (List.mem_append_left _ (List.mem_append_right _ hclass))
  have hoperators : ∀ t ∈ pairRows.operators, t ∈ pairRows.interface :=
    fun t ht => List.mem_append_left _ (List.mem_append_right _ ht)
  refine ⟨fun t ht => rowOf_of_isInterfaceRow (of_mem_interface ht), fun name hname => ?_,
    hoperators _ operators_spec.2.2.1, hoperators _ operators_spec.2.2.2.1⟩
  have hnames : requiredNames .interface =
      [Slot.symbol, .className 2, .literal].map Slot.ruleName ++
        [Slot.byteSize, .range].map Slot.ruleName := rfl
  rw [hnames] at hname
  rcases List.mem_append.1 hname with hname | hname
  · obtain ⟨t, ht, hslot⟩ := exists_hasSlotFor (by decide) interface_checked.2.2.1 hname
    exact ⟨t, hfirst t ht, hslot⟩
  · have hslots := (Bool.and_eq_true_iff.1 interface_checked.1).2
    obtain ⟨t, ht, hslot⟩ := exists_hasSlotFor (by decide) hslots hname
    exact ⟨t, hstart t ht, hslot⟩

/-! ### The implementation -/

/-- A section starts with its marker; a constructor follows. -/
structure SectionSpec (n : Nat) (ts : List Text) : Prop where
  rows : ∀ t ∈ ts, isImplementationRow (ofSection n) t = true
  marked : ∃ rest, ts = ('\t' :: ((Marker.arity n).comment {}).toList) :: rest ∧
    ∀ t ∈ rest, isUnmarked t = true
  qualified : ∃ t ∈ ts, around "\tinline ".toList (.className n) "::".toList <+: cells t

theorem sectionSpec_of_isSection {ts : List Text} (h : isSection n ts = true) : SectionSpec n ts := by
  unfold isSection at h
  split at h
  · next marker constructor rest =>
    simp only [Bool.and_eq_true, List.all_eq_true, beq_iff_eq, List.isPrefixOf_iff_prefix] at h
    obtain ⟨⟨hrows, hrest⟩, hmarker, hconstructor⟩ := h
    exact ⟨hrows, ⟨_, by rw [marker_of_cells hmarker], hrest⟩, constructor, by simp, hconstructor⟩
  · cases h

theorem sections_spec (hn : n ∈ arities) : SectionSpec n (pairRows.sections n) :=
  sectionSpec_of_isSection (implementation_checked.2.2.2 n hn)

theorem opening_spec : (∀ t ∈ pairRows.opening,
      isImplementationRow (standsIn .implementation) t = true ∧ isUnmarked t = true) ∧
    pairRows.opening.head? = some includeRow ∧
    (∃ t ∈ pairRows.opening, Layout.openedScope? t ≠ none) ∧
    hasSlots [.includeLabel, .byteSize, .range] pairRows.opening = true := by
  have hstart := implementation_checked.1
  simp only [isImplementationStart, Bool.and_eq_true, List.all_eq_true, beq_iff_eq,
    List.any_eq_true, Option.isSome_iff_ne_none] at hstart
  exact ⟨hstart.1.1, hstart.1.2.1, hstart.1.2.2, hstart.2⟩

theorem ending_spec : (∀ t ∈ pairRows.ending,
      isImplementationRow (standsIn .implementation) t = true) ∧
    ∃ t rest, pairRows.ending = t :: rest ∧ t.trim = endMarker.toList ∧
      ∀ u ∈ rest, isUnmarked u = true := by
  have hend := implementation_checked.2.1
  simp only [isImplementationEnd, Bool.and_eq_true, List.all_eq_true] at hend
  obtain ⟨t, rest, hrows, ht⟩ := exists_cons_of_head? hend.2.1
  refine ⟨hend.1, t, rest, hrows, ht, ?_⟩
  have hrest := hend.2.2
  rw [hrows] at hrest
  exact hrest

theorem of_mem_implementation (ht : t ∈ pairRows.implementation) : isFlat t = true ∧ Prunable t := by
  have hrow : ∀ allowed, isImplementationRow allowed t = true →
      (∀ s, allowed s = true → standsIn .implementation s = true) → isFlat t = true ∧ Prunable t :=
    fun allowed h hallowed =>
      ⟨(Bool.and_eq_true_iff.1 h).1, prunable_of_isImplementationRow hallowed h⟩
  rw [PairRows.implementation] at ht
  rcases List.mem_append.1 ht with ht | ht
  · rcases List.mem_append.1 ht with ht | ht
    · exact hrow _ (opening_spec.1 t ht).1 fun _ => id
    · obtain ⟨n, hn, ht⟩ := List.mem_flatMap.1 ht
      exact hrow _ ((sections_spec hn).rows t ht) fun _ => standsIn_of_ofSection
  · exact hrow _ (ending_spec.1 t ht) fun _ => id

theorem completeImplementation : CompleteImplementation pairRows.implementation := by
  have hopening : ∀ t ∈ pairRows.opening, t ∈ pairRows.implementation :=
    fun t ht => List.mem_append_left _ (List.mem_append_left _ ht)
  have hfirst : ∀ t ∈ (sectionLines 2).map String.toList, t ∈ pairRows.implementation :=
    fun t ht => List.mem_append_left _ (List.mem_append_right _
      (List.mem_flatMap.2 ⟨2, by decide, ht⟩))
  have hcomplete := implementation_checked.2.2.1
  simp only [isComplete, Bool.and_eq_true, List.all_cons, List.all_nil, and_true,
    List.contains_iff_mem] at hcomplete
  obtain ⟨hslots, hstep, hdivision, hcompound, hmixed⟩ := hcomplete
  refine ⟨fun t ht => (of_mem_implementation ht).2, fun name hname => ?_,
    ⟨hfirst _ hstep, hfirst _ hdivision, hfirst _ hcompound⟩, hfirst _ hmixed, ?_⟩
  · have hnames : ∀ name ∈ requiredNames .implementation,
        name ∈ [Slot.symbol, .className 2].map Slot.ruleName ∨
          name ∈ [Slot.includeLabel, .byteSize, .range].map Slot.ruleName := by
      decide
    rcases hnames name hname with hname | hname
    · obtain ⟨t, ht, hslot⟩ := exists_hasSlotFor (by decide) hslots hname
      exact ⟨t, hfirst t ht, hslot⟩
    · obtain ⟨t, ht, hslot⟩ := exists_hasSlotFor (by decide) opening_spec.2.2.2 hname
      exact ⟨t, hopening t ht, hslot⟩
  · rw [PairRows.implementation, List.append_assoc, List.head?_append, opening_spec.2.1]
    rfl

/-! ### The parts -/

theorem wellMarked : pairRows.WellMarked where
  flat t ht := by
    rcases List.mem_append.1 ht with ht | ht
    · exact not_mem_of_isFlat (Bool.and_eq_true_iff.1 (of_mem_interface ht)).1
    · exact not_mem_of_isFlat (of_mem_implementation ht).1
  classes t ht := (trim_ne_markers (of_mem_classes ht).2).1
  operators := by
    obtain ⟨t, rest, hrows, ht, hrest⟩ := operators_spec.1
    exact ⟨t, rest, hrows, ht, fun u hu => trim_ne_markers (hrest u hu)⟩
  closing := operators_spec.2.1
  opening t ht := ofLine?_of_isUnmarked (opening_spec.1 t ht).2
  scope := opening_spec.2.2.1
  sections n hn := by
    obtain ⟨rest, hrows, hrest⟩ := (sections_spec hn).marked
    exact ⟨_, rest, hrows, Marker.ofLine?_tab_comment (Marker.mem_all_iff.2 (.inr ⟨n, hn, rfl⟩)),
      fun u hu => ofLine?_of_isUnmarked (hrest u hu)⟩
  ending := by
    obtain ⟨t, rest, hrows, ht, hrest⟩ := ending_spec.2
    exact ⟨t, rest, hrows, (Marker.ofLine?_eq_some_iff (by decide)).2 ht,
      fun u hu => ofLine?_of_isUnmarked (hrest u hu)⟩

end Builtin

end VectorFamily
