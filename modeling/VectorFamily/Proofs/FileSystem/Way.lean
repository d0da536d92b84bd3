import VectorFamily.Proofs.FileSystem.Tree

/-!
# Making the way to a directory

What `FileSystem.makeDirectories` leaves: nothing new but directories on the way, and a directory at
the path if it succeeds. If there is a directory already and nothing goes wrong, it succeeds and
changes nothing.
-/

namespace VectorFamily

open FileSystem

namespace Disk

variable {d d' d'' : Disk} {path p : String}

/-! ### Leading parts of a path -/

theorem walk_filter (d : Disk) (l : Location) (ns : List String) :
    d.walk l (ns.filter (· ≠ ".")) = d.walk l ns := by
  induction ns generalizing l with
  | nil => rfl
  | cons n ns ih =>
    by_cases hn : n = "."
    · subst hn
      rw [List.filter_cons_of_neg (by simp), ih, walk, if_pos rfl]
    · rw [List.filter_cons_of_pos (by simpa using hn), walk, walk, if_neg hn, if_neg hn]
      simp only [ih]

/-- The path goes the way of a leading part of another one. -/
def OnWay (path p : String) : Prop :=
  start p = start path ∧
    ∃ way, way <+: names path ∧ ∀ d l, walk d l (names p) = walk d l way

theorem onWay_self (path : String) : OnWay path path :=
  ⟨rfl, names path, List.prefix_refl _, fun _ _ => rfl⟩

/-- The steps of a path walk where its names walk. -/
theorem exists_prefix_of_prefix_steps {zs : List String} (h : zs <+: steps path) :
    ∃ way, way <+: names path ∧ ∀ d l, walk d l zs = walk d l way := by
  unfold steps at h
  cases hnames : names path with
  | nil =>
    rw [hnames] at h
    exact ⟨zs, h, fun _ _ => rfl⟩
  | cons n ns =>
    rw [hnames] at h
    simp only at h
    split at h
    · next hroot =>
      obtain ⟨ms, hms, rfl⟩ := List.prefix_filter_iff.1 h
      have hn : n = "." := by
        rw [Bool.and_eq_true, beq_iff_eq] at hroot
        exact hroot.2
      refine ⟨n :: ms, List.prefix_cons_inj n |>.2 hms, fun d l => ?_⟩
      rw [walk_filter, walk, if_pos hn]
    · rcases zs with _ | ⟨z, zs⟩
      · exact ⟨[], List.nil_prefix, fun _ _ => rfl⟩
      · obtain ⟨rfl, hzs⟩ := List.cons_prefix_cons.1 h
        obtain ⟨ms, hms, rfl⟩ := List.prefix_filter_iff.1 hzs
        refine ⟨z :: ms, List.prefix_cons_inj z |>.2 hms, fun d l => ?_⟩
        calc d.walk l (z :: ms.filter (· ≠ "."))
            = d.walk l [z] >>= fun l' => d.walk l' (ms.filter (· ≠ ".")) := walk_append d l [z] _
          _ = d.walk l [z] >>= fun l' => d.walk l' ms := by simp only [walk_filter]
          _ = d.walk l (z :: ms) := (walk_append d l [z] ms).symm

theorem mem_names_of_mem_steps {n : String} (h : n ∈ steps path) : n ∈ names path := by
  unfold steps at h
  cases hnames : names path with
  | nil =>
    rw [hnames] at h
    exact h
  | cons m ns =>
    rw [hnames] at h
    simp only at h
    split at h
    · exact List.mem_cons_of_mem _ (List.mem_filter.1 h).1
    · exact List.mem_cons.2 ((List.mem_cons.1 h).imp_right fun h => (List.mem_filter.1 h).1)

theorem onWay_intercalate {zs : List String} (h : zs <+: steps path) :
    OnWay path ((if path.startsWith "/" then "/" else "") ++ "/".intercalate zs) := by
  have hmem : ∀ z ∈ zs, z ∈ names path := fun z hz => mem_names_of_mem_steps (h.subset hz)
  refine ⟨start_intercalate hmem, ?_⟩
  rw [names_intercalate hmem]
  exact exists_prefix_of_prefix_steps h

/-! ### Directories on the way -/

/-- Whatever stands is left as it is, and what is new are directories on the way of a path. -/
structure Led (d d' : Disk) (path : String) : Prop where
  kept : ∀ l e, d.entryAt l = some e → d'.entryAt l = some e
  made : ∀ l e, d.entryAt l = none → d'.entryAt l = some e →
    e = .directory ∧ ∃ way, way <+: names path ∧ d'.walk (start path) way = .ok l
  tree : d'.Tree

theorem Led.refl (ht : d.Tree) (path : String) : Led d d path :=
  ⟨fun _ _ h => h, fun _ _ h h' => absurd (h.symm.trans h') (by simp), ht⟩

theorem Led.keepsDirectories (h : Led d d' path) : KeepsDirectories d d' :=
  fun l => h.kept l .directory

theorem Led.trans (h : Led d d' path) (h' : Led d' d'' path) : Led d d'' path := by
  refine ⟨fun l e he => h'.kept l e (h.kept l e he), fun l e hl he => ?_, h'.tree⟩
  cases hl' : d'.entryAt l with
  | none => exact h'.made l e hl' he
  | some e' =>
    obtain ⟨rfl, way, hway, hw⟩ := h.made l e' hl hl'
    rw [h'.kept l _ hl'] at he
    exact ⟨(Option.some.inj he).symm, way, hway, walk_keep h'.keepsDirectories hw⟩

theorem led_makeDirectory (ht : d.Tree) (hp : OnWay path p) (h : d.makeDirectory p = .ok d') :
    Led d d' path ∧ d'.isDirectory p = true := by
  have htree := ht.makeDirectory h
  obtain ⟨t, hr, hnone, rfl⟩ := makeDirectory_eq_ok_iff.1 h
  have hout : isOutward t.location = false := by
    rw [Bool.eq_false_iff]
    intro hout
    rw [entryAt_of_isOutward hout] at hnone
    cases hnone
  have hkept : ∀ l e, d.entryAt l = some e →
      (d.put t.location .directory).entryAt l = some e := by
    intro l e he
    rw [entryAt_put hout, if_neg]
    · exact he
    · rintro rfl
      rw [hnone] at he
      cases he
  -- the path leads there on the new disk too, and the way to it is a part of `path`
  have hr' := resolve_keep (fun l => hkept l .directory) hr
  have hthere := entryAt_put_self d t.location .directory hout
  refine ⟨⟨hkept, fun l e hl he => ?_, htree⟩, isDirectory_iff.2 ⟨t, hr', hthere⟩⟩
  rw [entryAt_put hout] at he
  split at he
  · next heq =>
    subst heq
    obtain ⟨hstart, way, hway, hwalk⟩ := hp
    refine ⟨(Option.some.inj he).symm, way, hway, ?_⟩
    rw [← hwalk, ← hstart]
    exact (directoryAt_of_resolve hr' hthere).walk
  · rw [hl] at he
    cases he

/-! ### Programs -/

section
variable {m m' : Machine} {r : Except Cause Unit}

theorem outcome_unless_isDirectory (m : Machine) (path : String) (cause : Cause) :
    outcome (do unless ← (FileSystem.isDirectory path : Change Bool) do throw cause :
        ExceptT Cause Change Unit) m =
      (if (m.mishap? m.clock .isDirectory).isNone && m.disk.isDirectory path then .ok ()
        else .error cause, m.after m.disk) := by
  rw [outcome_bind]
  show (match ((Except.ok (StateT.run (FileSystem.isDirectory path : Change Bool) m).1,
    (StateT.run (FileSystem.isDirectory path : Change Bool) m).2) :
      Except Cause Bool × Machine) with
    | (.ok there, m') => outcome (if there = true then pure () else throw cause) m'
    | (.error e, m') => (.error e, m')) = _
  rw [run_isDirectory]
  cases (m.mishap? m.clock .isDirectory).isNone && m.disk.isDirectory path <;> rfl

/-- After a failure it is looked whether there is a directory. -/
theorem of_unless_isDirectory {cause : Cause} (h : outcome
    (do unless ← (FileSystem.isDirectory path : Change Bool) do throw cause :
      ExceptT Cause Change Unit) m = (r, m')) :
    m'.disk = m.disk ∧ (r = .ok () → m.disk.isDirectory path = true) := by
  rw [outcome_unless_isDirectory] at h
  obtain ⟨rfl, rfl⟩ := Prod.mk.inj h
  refine ⟨rfl, fun hok => ?_⟩
  split at hok
  · next hdir => exact (Bool.and_eq_true_iff.1 hdir).2
  · cases hok

/-- Whether a directory can be made or not, what is new is on the way. -/
theorem led_ensureDirectory (ht : m.disk.Tree) (hp : OnWay path p)
    (h : outcome (FileSystem.ensureDirectory p : ExceptT Cause Change Unit) m = (r, m')) :
    Led m.disk m'.disk path ∧ (r = .ok () → m'.disk.isDirectory p = true) := by
  rw [ensureDirectory, outcome_tryCatch] at h
  rcases hmake : outcome (FileSystem.makeDirectory p : ExceptT Cause Change Unit) m with
    ⟨cause | ⟨⟩, m₁⟩
  · obtain rfl := eq_after_of_makeDirectory_eq_error hmake
    rw [hmake] at h
    obtain ⟨hdisk, hdir⟩ := of_unless_isDirectory h
    rw [hdisk]
    exact ⟨.refl ht path, hdir⟩
  · rw [hmake] at h
    obtain rfl := (Prod.mk.inj h).2
    obtain ⟨-, d, hd, rfl⟩ := outcome_makeDirectory_eq_ok_iff.1 hmake
    exact (led_makeDirectory ht hp hd).imp_right fun hdir _ => hdir

theorem outcome_makeWay_empty (root : String) (above : List String) :
    outcome (FileSystem.makeWay "" root above : ExceptT Cause Change Unit) m = (.ok (), m) := by
  cases above <;> rfl

theorem outcome_makeWay_nil {root : String} (hpath : path ≠ "") :
    outcome (FileSystem.makeWay path root [] : ExceptT Cause Change Unit) m =
      outcome (FileSystem.ensureDirectory path) m := by
  rw [makeWay, if_neg (by simpa using hpath)]

theorem outcome_makeWay_cons {root name : String} {above : List String} (hpath : path ≠ "") :
    outcome (FileSystem.makeWay path root (name :: above) : ExceptT Cause Change Unit) m =
      match outcome (FileSystem.makeDirectory path : ExceptT Cause Change Unit) m with
      | (.ok (), m') => (.ok (), m')
      | (.error cause, m') =>
        if cause = .notFound then
          outcome (do
            FileSystem.makeWay (root ++ "/".intercalate above.reverse) root above
            FileSystem.ensureDirectory path) m'
        else
          outcome (do unless ← (FileSystem.isDirectory path : Change Bool) do throw cause :
            ExceptT Cause Change Unit) m' := by
  rw [makeWay, if_neg (by simpa using hpath), outcome_tryCatch]
  rcases outcome (FileSystem.makeDirectory path : ExceptT Cause Change Unit) m with ⟨cause | _, m'⟩
  · show outcome (if cause = .notFound then _ else _) m' = ite _ _ _
    split <;> rfl
  · rfl

/-- The recursion is on the steps above the path, which are a leading part of all of them. -/
theorem led_makeWay {above : List String} (ht : m.disk.Tree) (hp : OnWay path p)
    (habove : above.reverse <+: steps path)
    (h : outcome (FileSystem.makeWay p (if path.startsWith "/" then "/" else "") above :
      ExceptT Cause Change Unit) m = (r, m')) :
    Led m.disk m'.disk path ∧ (r = .ok () → p = "" ∨ m'.disk.isDirectory p = true) := by
  induction above generalizing r m m' p with
  | nil =>
    by_cases hempty : p = ""
    · subst hempty
      rw [outcome_makeWay_empty] at h
      obtain rfl := (Prod.mk.inj h).2
      exact ⟨.refl ht path, fun _ => .inl rfl⟩
    · rw [outcome_makeWay_nil hempty] at h
      exact (led_ensureDirectory ht hp h).imp_right fun hdir hr => .inr (hdir hr)
  | cons n above ih =>
    by_cases hempty : p = ""
    · subst hempty
      rw [outcome_makeWay_empty] at h
      obtain rfl := (Prod.mk.inj h).2
      exact ⟨.refl ht path, fun _ => .inl rfl⟩
    rw [List.reverse_cons] at habove
    have hshort := (List.prefix_append above.reverse [n]).trans habove
    have hthis := onWay_intercalate hshort
    rw [outcome_makeWay_cons hempty] at h
    rcases hmake : outcome (FileSystem.makeDirectory p : ExceptT Cause Change Unit) m with
      ⟨cause | ⟨⟩, m₁⟩
    · obtain rfl := eq_after_of_makeDirectory_eq_error hmake
      rw [hmake] at h
      simp only at h
      split at h
      · -- the way above is made first; if that fails, it is as far as it was made
        rw [outcome_bind] at h
        rcases hway : outcome (FileSystem.makeWay (m := Change) _ _ above) _ with ⟨e | _, m₂⟩
        · rw [hway] at h
          obtain ⟨rfl, rfl⟩ := Prod.mk.inj h
          exact ⟨(ih (m := m.after m.disk) ht hthis hshort hway).1, by simp⟩
        · rw [hway] at h
          obtain ⟨hled, -⟩ := ih (m := m.after m.disk) ht hthis hshort hway
          obtain ⟨hled', hdir⟩ := led_ensureDirectory hled.tree hp h
          exact ⟨hled.trans hled', fun hr => .inr (hdir hr)⟩
      · obtain ⟨hdisk, hdir⟩ := of_unless_isDirectory h
        rw [hdisk]
        exact ⟨.refl ht path, fun hr => .inr (hdir hr)⟩
    · rw [hmake] at h
      obtain rfl := (Prod.mk.inj h).2
      obtain ⟨-, d, hd, rfl⟩ := outcome_makeDirectory_eq_ok_iff.1 hmake
      exact (led_makeDirectory ht hp hd).imp_right fun hdir _ => .inr hdir

/-! ### The directory -/

/-- Making a directory leaves a directory, and makes nothing but directories on the way to it. -/
theorem led_makeDirectories (ht : m.disk.Tree)
    (h : outcome (FileSystem.makeDirectories path : ExceptT Cause Change Unit) m = (.ok (), m')) :
    Led m.disk m'.disk path ∧ (path = "" ∨ m'.disk.isDirectory path = true) :=
  (led_makeWay ht (onWay_self path) (by simp) h).imp_right fun hdir => hdir rfl

/-- Directories on the way are all that is new when a directory cannot be made, too. -/
theorem led_of_makeDirectories_eq_error {cause : Cause} (ht : m.disk.Tree)
    (h : outcome (FileSystem.makeDirectories path : ExceptT Cause Change Unit) m =
      (.error cause, m')) : Led m.disk m'.disk path :=
  (led_makeWay ht (onWay_self path) (by simp) h).1

theorem makeDirectories_of_isDirectory (hq : m.Quiet)
    (h : path = "" ∨ m.disk.isDirectory path = true) : ∃ clock,
    outcome (FileSystem.makeDirectories path : ExceptT Cause Change Unit) m =
      (.ok (), { m with clock }) := by
  unfold makeDirectories
  by_cases hempty : path = ""
  · subst hempty
    exact ⟨m.clock, outcome_makeWay_empty _ _⟩
  have hdir := h.resolve_left hempty
  have hmake : outcome (FileSystem.makeDirectory path : ExceptT Cause Change Unit) m =
      (.error .alreadyExists, m.after m.disk) :=
    outcome_makeDirectory_of_error (hq _ _) (makeDirectory_of_isDirectory hdir)
  have hthere : (((m.after m.disk).mishap? (m.after m.disk).clock .isDirectory).isNone &&
      (m.after m.disk).disk.isDirectory path) = true := by
    rw [Machine.mishap?_after, hq, Machine.disk_after, hdir]
    rfl
  refine ⟨m.clock + 2, ?_⟩
  cases (steps path).reverse with
  | nil =>
    rw [outcome_makeWay_nil hempty, ensureDirectory, outcome_tryCatch, hmake]
    simp only
    rw [outcome_unless_isDirectory, if_pos hthere]
    rfl
  | cons n above =>
    rw [outcome_makeWay_cons hempty, hmake]
    simp only [reduceCtorEq, if_false]
    rw [outcome_unless_isDirectory, if_pos hthere]
    rfl

end

theorem exists_directoryAt (h : path = "" ∨ d.isDirectory path = true) :
    ∃ D, DirectoryAt d path D := by
  rcases h with rfl | h
  · exact ⟨[], directoryAt_empty d⟩
  · exact exists_directoryAt_of_isDirectory h

end Disk

end VectorFamily
