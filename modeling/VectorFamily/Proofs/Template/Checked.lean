import VectorFamily.Proofs.GenericHeader.Rendering
import VectorFamily.Proofs.Specialization.CompleteImplementation
import VectorFamily.Proofs.Template.Rows

/-!
# Rows that are checked character by character

What a complete pair asks of its rows is found out by running through their characters. A row that
passes the checks is one of its artifact, and none but a marker starts like one.
-/

namespace VectorFamily

open Marker (ofLine?)
open VectorFamily.Specialization (HasSlotFor Prunable RowOf TokenFree prunedWords standsIn)

variable {t : Text} {rs : List Text}

/-! ### Slots -/

/-- A character, or a slot that is allowed. -/
def Cell.isAllowed (allowed : Slot → Bool) : Cell → Bool
  | char _ => true
  | slot s => allowed s

theorem allowed_of_all {allowed : Slot → Bool} {cells : List Cell}
    (h : cells.all (Cell.isAllowed allowed) = true) : ∀ s, .slot s ∈ cells → allowed s = true :=
  fun s hs => List.all_eq_true.1 h (.slot s) hs

def hasSlots (slots : List Slot) (rs : List Text) : Bool :=
  slots.all fun s => rs.any fun t => (cells t).contains (.slot s)

theorem exists_hasSlotFor {slots : List Slot}
    (hslots : ∀ s ∈ slots, s ∈ Slot.marks.map (·.1) ∧ s ≠ .closedLiteral)
    (h : hasSlots slots rs = true) {name : String} (hname : name ∈ slots.map Slot.ruleName) :
    ∃ t ∈ rs, HasSlotFor name t := by
  obtain ⟨s, hs, rfl⟩ := List.mem_map.1 hname
  obtain ⟨hmark, hne⟩ := hslots s hs
  obtain ⟨t, ht, hcell⟩ := List.any_eq_true.1 (List.all_eq_true.1 h s hs)
  obtain ⟨e, he, rfl⟩ := List.mem_map.1 hmark
  exact ⟨t, ht, e, he, hne, rfl, by simpa using hcell⟩

/-! ### Line ends -/

def isFlat (t : Text) : Bool := t.all fun c => c != '\n' && c != '\r'

theorem not_mem_of_isFlat (h : isFlat t = true) : '\n' ∉ t ∧ '\r' ∉ t := by
  simp only [isFlat, List.all_eq_true, Bool.and_eq_true, bne_iff_ne] at h
  exact ⟨fun hn => (h _ hn).1 rfl, fun hr => (h _ hr).2 rfl⟩

/-! ### Markers -/

/-- How the comments start that mark parts. -/
def markerFronts : List Text :=
  [['/', '/', ' ', 'V'], ['/', '/', ' ', 'E'], ['/', '/', ' ', 'o', 'v']]

/-- The row does not start like a comment that marks a part. -/
def isUnmarked (t : Text) : Bool := markerFronts.all fun l => !l.isPrefixOf t.trimStart

theorem trim_ne_of_isUnmarked (h : isUnmarked t = true) {m l : Text} (hl : l ∈ markerFronts)
    (hm : l <+: m) : t.trim ≠ m := by
  rintro rfl
  obtain ⟨b, -, hb⟩ := Text.exists_trimEnd_append t.trimStart
  have hfront : l <+: t.trimStart := hm.trans ⟨b, hb.symm⟩
  have hnot := List.all_eq_true.1 h l hl
  rw [Bool.not_eq_true', ← Bool.not_eq_true, List.isPrefixOf_iff_prefix] at hnot
  exact hnot hfront

theorem ofLine?_of_isUnmarked (h : isUnmarked t = true) : ofLine? {} t = none := by
  have hfronts : ∀ m ∈ Marker.all, ∃ l ∈ markerFronts, l <+: (m.comment {}).toList := by
    decide +kernel
  refine List.find?_eq_none.2 fun m hm => ?_
  obtain ⟨l, hl, hfront⟩ := hfronts m hm
  rw [beq_iff_eq]
  exact (trim_ne_of_isUnmarked h hl hfront).symm

theorem trim_ne_markers (h : isUnmarked t = true) :
    t.trim ≠ helpersMarker.toList ∧ t.trim ≠ endMarker.toList :=
  ⟨trim_ne_of_isUnmarked h (l := ['/', '/', ' ', 'o', 'v']) (by decide) (by decide),
    trim_ne_of_isUnmarked h (l := ['/', '/', ' ', 'E']) (by decide) (by decide)⟩

/-- The comment that marks a section stands behind a tab. -/
theorem marker_of_cells {n : Nat} (h : cells t = around "\t// ".toList (.className n) []) :
    t = '\t' :: ((Marker.arity n).comment {}).toList := by
  have hfill := fill_cells t
  rw [h, fill_around, List.append_nil] at hfill
  rw [← hfill, Marker.comment, String.toList_append]
  rfl

/-! ### Rows of the artifacts -/

def isInterfaceRow (t : Text) : Bool :=
  isFlat t && (sealedFrom Slot.words false (cells t) &&
    (cells t).all (Cell.isAllowed (standsIn .interface)))

/-- A row of an implementation in which some slots are allowed. -/
def isImplementationRow (allowed : Slot → Bool) (t : Text) : Bool :=
  isFlat t && (bare Slot.words t || sealedFrom (Slot.words ++ prunedWords) false (cells t) &&
    (cells t).all (Cell.isAllowed allowed))

theorem rowOf_of_isInterfaceRow (h : isInterfaceRow t = true) : RowOf .interface t := by
  simp only [isInterfaceRow, Bool.and_eq_true] at h
  exact ⟨h.2.1, allowed_of_all h.2.2⟩

theorem prunable_of_isImplementationRow {allowed : Slot → Bool}
    (hallowed : ∀ s, allowed s = true → standsIn .implementation s = true)
    (h : isImplementationRow allowed t = true) : Prunable t := by
  simp only [isImplementationRow, Bool.and_eq_true, Bool.or_eq_true] at h
  exact h.2.imp_right fun h => ⟨h.1, fun s hs => hallowed s (allowed_of_all h.2 s hs)⟩

theorem sealed_of_isImplementationRow {allowed : Slot → Bool}
    (h : isImplementationRow allowed t = true) : sealedFrom Slot.words false (cells t) = true ∧
      ∀ s, .slot s ∈ cells t → allowed s = true := by
  simp only [isImplementationRow, Bool.and_eq_true, Bool.or_eq_true] at h
  rcases h.2 with hbare | ⟨hs, hslots⟩
  · have hcells := cells_of_bare (fun e he => Slot.mark_mem_words he) hbare
    refine ⟨hcells ▸ sealedFrom_of_bare false hbare, fun s hs => ?_⟩
    simp [hcells] at hs
  · exact ⟨sealedFrom_mono (List.subset_append_left _ _) hs, allowed_of_all hslots⟩

/-- The slots that a section may have: those of its own class name, and no closed literal. -/
def ofSection (n : Nat) : Slot → Bool
  | .className k => k == n
  | .closedLiteral => false
  | _ => true

theorem standsIn_of_ofSection {n : Nat} {s : Slot} (h : ofSection n s = true) :
    standsIn .implementation s = true := by
  cases s with
  | closedLiteral => cases h
  | _ => rfl

end VectorFamily
