import VectorFamily.Proofs.FileSystem.Invariant
import VectorFamily.Proofs.FileSystem.Operations

/-!
# Scratch directories

`FileSystem.makeScratch` makes up names until one of them is not in use. Whatever names it makes up,
a directory that it gives is new and empty. All these names have the same characters apart from
their ends, and the ends are alike as far as the lengths of paths go.
-/

namespace VectorFamily

open FileSystem

/-! ### Endings -/

namespace FileSystem.Ending

variable {e : Ending}

theorem toList_text (e : Ending) : e.text.toList = e.toList.map char := String.toList_ofList

theorem isAlphanum_of_mem_text {c : Char} (h : c ∈ e.text.toList) : c.isAlphanum = true := by
  rw [toList_text] at h
  obtain ⟨i, -, rfl⟩ := List.mem_map.1 h
  have hall : ∀ i : Fin 62, (char i).isAlphanum = true := by decide
  exact hall i

theorem length_text (e : Ending) : e.text.toList.length = 6 := by simp [toList_text]

theorem utf8ByteSize_text (e : Ending) : e.text.utf8ByteSize = 6 := by
  have hone : ∀ i : Fin 62, (char i).utf8Size = 1 := by decide
  have hsize : ∀ is : List (Fin 62),
      (String.ofList (is.map char)).utf8ByteSize = is.length := by
    intro is
    induction is with
    | nil => rfl
    | cons i is ih =>
      rw [List.map_cons, String.ofList_cons, String.utf8ByteSize_append, ih,
        String.utf8ByteSize_singleton, hone, List.length_cons, Nat.add_comm]
  rw [text, hsize, Vector.length_toList]

end FileSystem.Ending

namespace Disk

variable {m m' : Machine} {dir namePrefix scratch : String} {D : Location} {e e' : Ending}
  {attempts : Nat}

/-! ### Names -/

def scratchName (namePrefix : String) (e : Ending) : String := namePrefix ++ e.text

theorem toList_scratchName (namePrefix : String) (e : Ending) :
    (scratchName namePrefix e).toList = namePrefix.toList ++ e.text.toList :=
  String.toList_append

theorem scratchName_ne {s : String} (h : s.toList.length < 6) : scratchName namePrefix e ≠ s := by
  rintro rfl
  rw [toList_scratchName, List.length_append, e.length_text] at h
  omega

theorem isName_scratchName (h : '/' ∉ namePrefix.toList) (e : Ending) :
    IsName (scratchName namePrefix e) := by
  refine ⟨scratchName_ne (by decide), ?_, scratchName_ne (by decide), scratchName_ne (by decide)⟩
  rw [toList_scratchName, List.mem_append]
  rintro (hslash | hslash)
  · exact h hslash
  · exact absurd (Ending.isAlphanum_of_mem_text hslash) (by decide)

/-- What the path of a name in a directory starts with. -/
def lead (dir : String) : String :=
  if dir.isEmpty then "" else if dir.endsWith "/" then dir else dir ++ "/"

theorem join_eq_lead_append {name : String} (hname : IsName name) :
    join dir name = lead dir ++ name := by
  unfold join lead
  rw [hname.not_startsWith_slash]
  cases hdir : dir.isEmpty
  · cases dir.endsWith "/" <;> simp
  · simp

theorem lead_join {name : String} (hname : IsName name) :
    lead (join dir name) = lead dir ++ name ++ "/" := by
  have hne : (join dir name).isEmpty = false := by
    rw [Bool.eq_false_iff]
    exact fun h => hname.join_ne_empty dir (String.isEmpty_iff.1 h)
  rw [lead, hne, hname.not_endsWith_slash_join, join_eq_lead_append hname]
  rfl

theorem fits_iff_lead {name : String} (hname : IsName name) : Fits dir name ↔
    ('\x00' ∉ (lead dir).toList ∧ '\x00' ∉ name.toList) ∧
      (lead dir).utf8ByteSize + name.utf8ByteSize ≤ maxPath ∧ name.utf8ByteSize ≤ maxName := by
  rw [fits_iff, join_eq_lead_append hname, String.toList_append, String.utf8ByteSize_append,
    List.mem_append, not_or]

section
variable (hslash : '/' ∉ namePrefix.toList)
include hslash

/-- Whether a scratch name can be looked up does not depend on how it ends. -/
theorem fits_scratchName (h : Fits dir (scratchName namePrefix e)) (e' : Ending) :
    Fits dir (scratchName namePrefix e') := by
  rw [fits_iff_lead (isName_scratchName hslash _)] at h ⊢
  have hzero : '\x00' ∉ e'.text.toList := fun hc =>
    absurd (Ending.isAlphanum_of_mem_text hc) (by decide)
  rw [toList_scratchName, List.mem_append, not_or, scratchName, String.utf8ByteSize_append,
    Ending.utf8ByteSize_text] at h ⊢
  exact ⟨⟨h.1.1, h.1.2.1, hzero⟩, h.2⟩

theorem fits_join_scratchName {name : String} (hname : IsName name)
    (h : Fits (join dir (scratchName namePrefix e)) name) (e' : Ending) :
    Fits (join dir (scratchName namePrefix e')) name := by
  have hzero : '\x00' ∉ e'.text.toList := fun hc =>
    absurd (Ending.isAlphanum_of_mem_text hc) (by decide)
  rw [fits_iff_lead hname, lead_join (isName_scratchName hslash _)] at h ⊢
  simp only [String.toList_append, List.mem_append, not_or, scratchName,
    String.utf8ByteSize_append, Ending.utf8ByteSize_text] at h ⊢
  exact ⟨⟨⟨⟨h.1.1.1.1, h.1.1.1.2.1, hzero⟩, h.1.1.2⟩, h.1.2⟩, h.2⟩

end

/-! ### Names in use -/

/-- Nothing stands where the path leads, or it leads nowhere. -/
def vacant (d : Disk) (path : String) : Bool :=
  match d.resolve path with
  | .ok target => d.entryAt target.location = none
  | .error _ => true

theorem vacant_join_iff {d : Disk} {name : String} (hD : DirectoryAt d dir D)
    (hname : IsName name) :
    d.vacant (join dir name) = true ↔ (Fits dir name → d.entryAt (D ++ [name]) = none) := by
  unfold vacant
  cases hr : d.resolve (join dir name) with
  | ok t =>
    obtain ⟨hfits, rfl⟩ := (resolve_join_eq_ok_iff hD hname).1 hr
    exact decide_eq_true_iff.trans ⟨fun h _ => h, fun h => h hfits⟩
  | error cause =>
    have hfits : ¬ Fits dir name := by
      intro hfits
      rw [(resolve_join_eq_ok_iff hD hname).2 ⟨hfits, rfl⟩] at hr
      cases hr
    simp [hfits]

theorem makeDirectory_join_eq_ok_iff {d d' : Disk} {name : String} (hD : DirectoryAt d dir D)
    (hname : IsName name) : d.makeDirectory (join dir name) = .ok d' ↔
      Fits dir name ∧ d.entryAt (D ++ [name]) = none ∧ d' = d.put (D ++ [name]) .directory := by
  rw [makeDirectory_eq_ok_iff]
  constructor
  · rintro ⟨t, hr, hfree, rfl⟩
    obtain ⟨hfits, rfl⟩ := (resolve_join_eq_ok_iff hD hname).1 hr
    exact ⟨hfits, hfree, rfl⟩
  · rintro ⟨hfits, hfree, rfl⟩
    exact ⟨_, (resolve_join_eq_ok_iff hD hname).2 ⟨hfits, rfl⟩, hfree, rfl⟩

theorem makeDirectory_join_of_taken {d : Disk} {name : String} (hD : DirectoryAt d dir D)
    (hname : IsName name) (hfits : Fits dir name) (h : d.entryAt (D ++ [name]) ≠ none) :
    d.makeDirectory (join dir name) = .error .alreadyExists := by
  obtain ⟨entry, hentry⟩ := Option.ne_none_iff_exists'.1 h
  rw [makeDirectory, (resolve_join_eq_ok_iff hD hname).2 ⟨hfits, rfl⟩]
  simp only [bind, Except.bind, Target.location, hentry]
  rfl

end Disk

/-- Of the names that are made up next for a directory, one is not in use. -/
def Machine.Fresh (m : Machine) (dir namePrefix : String) : Prop :=
  ∃ i < scratchAttempts,
    m.disk.vacant (join dir (Disk.scratchName namePrefix (m.ending (m.drawn + i)))) = true

namespace Disk

variable {m m' : Machine} {dir namePrefix : String} {D : Location} {e : Ending} {attempts : Nat}

/-! ### The directory -/

theorem outcome_tryScratch_succ (m : Machine) (dir namePrefix : String) (attempts : Nat) :
    outcome (tryScratch dir namePrefix (attempts + 1) : ExceptT Cause Change String) m =
      let path := join dir (scratchName namePrefix (m.ending m.drawn))
      match outcome (FileSystem.makeDirectory path : ExceptT Cause Change Unit)
        { m with drawn := m.drawn + 1 } with
      | (.ok (), m') => (.ok path, m')
      | (.error cause, m') =>
        if cause = .alreadyExists then outcome (tryScratch dir namePrefix attempts) m'
        else (.error (cause.atPath path), m') := by
  rw [tryScratch, outcome_bind]
  show outcome (tryCatch (FileSystem.makeDirectory (join dir (scratchName namePrefix
    (m.ending m.drawn))) >>= fun _ => pure _) _) { m with drawn := m.drawn + 1 } = _
  rw [outcome_tryCatch_bind_pure]
  simp only
  rcases outcome (FileSystem.makeDirectory _ : ExceptT Cause Change Unit) _ with ⟨cause | _, m'⟩
  · show outcome (if cause = .alreadyExists then _ else _) m' = ite _ _ _
    split <;> rfl
  · rfl

/-- A scratch directory is a new one of one of the names, and if there is none to be had nothing is
made. -/
theorem of_tryScratch {r : Except Cause String} (hslash : '/' ∉ namePrefix.toList)
    (hD : DirectoryAt m.disk dir D)
    (h : outcome (tryScratch dir namePrefix attempts : ExceptT Cause Change String) m = (r, m')) :
    (∀ scratch, r = .ok scratch → ∃ e, scratch = join dir (scratchName namePrefix e) ∧
      Fits dir (scratchName namePrefix e) ∧
      m.disk.entryAt (D ++ [scratchName namePrefix e]) = none ∧
      m'.disk = m.disk.put (D ++ [scratchName namePrefix e]) .directory) ∧
    ∀ cause, r = .error cause → m'.disk = m.disk := by
  induction attempts generalizing m with
  | zero =>
    obtain ⟨rfl, rfl⟩ := Prod.mk.inj h
    exact ⟨nofun, fun _ _ => rfl⟩
  | succ attempts ih =>
    have hname := isName_scratchName hslash (m.ending m.drawn)
    rw [outcome_tryScratch_succ] at h
    simp only at h
    rcases hmake : outcome (FileSystem.makeDirectory (join dir (scratchName namePrefix
      (m.ending m.drawn))) : ExceptT Cause Change Unit) { m with drawn := m.drawn + 1 } with
      ⟨cause | ⟨⟩, m₁⟩
    · obtain rfl := eq_after_of_makeDirectory_eq_error hmake
      rw [hmake] at h
      simp only at h
      split at h
      · exact ih (m := Machine.after { m with drawn := m.drawn + 1 } m.disk) hD h
      · obtain ⟨rfl, rfl⟩ := Prod.mk.inj h
        exact ⟨nofun, fun _ _ => rfl⟩
    · rw [hmake] at h
      obtain ⟨rfl, rfl⟩ := Prod.mk.inj h
      obtain ⟨-, d, hd, rfl⟩ := outcome_makeDirectory_eq_ok_iff.1 hmake
      obtain ⟨hfits, hfree, rfl⟩ := (makeDirectory_join_eq_ok_iff hD hname).1 hd
      refine ⟨fun scratch hscratch => ?_, nofun⟩
      exact ⟨_, (Except.ok.inj hscratch).symm, hfits, hfree, rfl⟩

/-- If nothing goes wrong, one of the names that are made up is taken if it is not in use. -/
theorem exists_tryScratch (hslash : '/' ∉ namePrefix.toList) (hq : m.Quiet)
    (hD : DirectoryAt m.disk dir D) (hfits : Fits dir (scratchName namePrefix e))
    (hfresh : ∃ i < attempts,
      m.disk.entryAt (D ++ [scratchName namePrefix (m.ending (m.drawn + i))]) = none) :
    ∃ scratch m',
      outcome (tryScratch dir namePrefix attempts : ExceptT Cause Change String) m =
        (.ok scratch, m') := by
  induction attempts generalizing m with
  | zero =>
    obtain ⟨i, hi, -⟩ := hfresh
    exact absurd hi (Nat.not_lt_zero i)
  | succ attempts ih =>
    have hname := isName_scratchName hslash (m.ending m.drawn)
    have hfits' := fits_scratchName hslash hfits (m.ending m.drawn)
    have hquiet : m.mishap? m.clock .makeDirectory = none := hq _ _
    rw [outcome_tryScratch_succ]
    simp only
    by_cases hfree : m.disk.entryAt (D ++ [scratchName namePrefix (m.ending m.drawn)]) = none
    · have hmake := (outcome_makeDirectory_eq_ok_iff (m := { m with drawn := m.drawn + 1 })
        (u := ())).2
        ⟨hquiet, _, (makeDirectory_join_eq_ok_iff hD hname).2 ⟨hfits', hfree, rfl⟩, rfl⟩
      rw [hmake]
      exact ⟨_, _, rfl⟩
    · have hmake := outcome_makeDirectory_of_error (m := { m with drawn := m.drawn + 1 }) hquiet
        (makeDirectory_join_of_taken hD hname hfits' hfree)
      rw [hmake]
      simp only [if_true]
      obtain ⟨i, hi, hi'⟩ := hfresh
      cases i with
      | zero => exact absurd hi' hfree
      | succ i =>
        refine ih (m := Machine.after { m with drawn := m.drawn + 1 } m.disk) (fun op n => hq op n)
          hD ⟨i, by omega, ?_⟩
        show m.disk.entryAt (D ++ [scratchName namePrefix (m.ending (m.drawn + 1 + i))]) = none
        rw [Nat.add_assoc, Nat.add_comm 1 i]
        exact hi'

end Disk

end VectorFamily
