import VectorFamily.Proofs.FileSystem.Locations

/-!
# Operations on a disk

When each operation succeeds and which disk it leaves. A path that resolves leads to a directory
that its names walk to, or to a last name in such a directory; it leads there as long as no
directory is lost. For the path of a name in a directory all conditions are about that name.
-/

namespace VectorFamily

open FileSystem

namespace Disk

variable {d d' : Disk} {path dir name : String} {D : Location} {t : Target}

/-! ### Paths that resolve -/

/-- What the last name of a path leads to from a directory. -/
def lastTarget (parent : Location) (name : String) (slash : Bool) : Target :=
  if name = "." then .here parent
  else if name = ".." then .here (above parent)
  else .child parent name slash

theorem lastTarget_of_isName (hname : IsName name) (parent : Location) (slash : Bool) :
    lastTarget parent name slash = .child parent name slash := by
  rw [lastTarget, if_neg hname.notHere, if_neg hname.notUp]

/-- A path that can be looked up leads where its last name leads from the directory that the names
before it walk to. -/
theorem approach_eq_ok_iff : d.approach path = .ok t ↔
    (path.contains '\x00' = false ∧ path ≠ "" ∧ path.utf8ByteSize ≤ maxPath) ∧
      ((names path = [] ∧ t = .here (start path)) ∨
        ∃ way n parent, names path = way ++ [n] ∧ d.walk (start path) way = .ok parent ∧
          t = lastTarget parent n (path.endsWith "/")) := by
  unfold approach
  by_cases hzero : path.contains '\x00' = true
  · rw [if_pos hzero]
    exact ⟨nofun, fun h => absurd (hzero.symm.trans h.1.1) (by simp)⟩
  by_cases hempty : path = ""
  · rw [if_neg hzero, if_pos (String.isEmpty_iff.2 hempty)]
    exact ⟨nofun, fun h => absurd hempty h.1.2.1⟩
  by_cases hlong : maxPath < path.utf8ByteSize
  · rw [if_neg hzero, if_neg (mt String.isEmpty_iff.1 hempty), if_pos hlong]
    exact ⟨nofun, fun h => absurd hlong (Nat.not_lt.2 h.1.2.2)⟩
  rw [if_neg hzero, if_neg (mt String.isEmpty_iff.1 hempty), if_neg hlong,
    and_iff_right ⟨by simpa using hzero, hempty, by omega⟩]
  cases hrev : (names path).reverse with
  | nil =>
    rw [List.reverse_eq_nil_iff] at hrev
    constructor
    · intro h
      exact .inl ⟨hrev, (Except.ok.inj h).symm⟩
    · rintro (⟨-, rfl⟩ | ⟨way, n, parent, hnames, -⟩)
      · rfl
      · exact absurd (hrev.symm.trans hnames) (by simp)
  | cons n way =>
    have hnames : names path = way.reverse ++ [n] := by
      rw [← List.reverse_reverse (names path), hrev, List.reverse_cons]
    have hlast : ∀ parent, (if n = "." then (.ok (.here parent) : Except Cause Target) else
        if n = ".." then .ok (.here (above parent))
        else .ok (.child parent n (path.endsWith "/"))) =
          .ok (lastTarget parent n (path.endsWith "/")) := by
      intro parent
      unfold lastTarget
      split
      · rfl
      split <;> rfl
    constructor
    · intro h
      obtain ⟨parent, hw, ht⟩ := bind_eq_ok.1 h
      exact .inr ⟨way.reverse, n, parent, hnames, hw,
        Except.ok.inj (ht.symm.trans (hlast parent))⟩
    · rintro (⟨hnil, -⟩ | ⟨way', n', parent, hnames', hw, rfl⟩)
      · exact absurd (hnames.symm.trans hnil) (by simp)
      · obtain ⟨rfl, hn⟩ := List.append_inj' (hnames.symm.trans hnames') rfl
        obtain rfl : n = n' := by simpa using hn
        exact bind_eq_ok.2 ⟨parent, hw, hlast parent⟩

theorem approach_keep (h : KeepsDirectories d d') (ha : d.approach path = .ok t) :
    d'.approach path = .ok t := by
  obtain ⟨hlookup, hroot | ⟨way, n, parent, hnames, hw, ht⟩⟩ := approach_eq_ok_iff.1 ha
  · exact approach_eq_ok_iff.2 ⟨hlookup, .inl hroot⟩
  · exact approach_eq_ok_iff.2 ⟨hlookup, .inr ⟨way, n, parent, hnames, walk_keep h hw, ht⟩⟩

theorem resolve_eq_ok_iff :
    d.resolve path = .ok t ↔ d.approach path = .ok t ∧ t.checkName = .ok () := by
  unfold resolve
  constructor
  · intro h
    obtain ⟨t', ha, h⟩ := bind_eq_ok.1 h
    obtain ⟨⟨⟩, hcheck, h⟩ := bind_eq_ok.1 h
    obtain rfl := Except.ok.inj h
    exact ⟨ha, hcheck⟩
  · rintro ⟨ha, hcheck⟩
    exact bind_eq_ok.2 ⟨t, ha, bind_eq_ok.2 ⟨(), hcheck, rfl⟩⟩

/-- A path that resolves leads to the same place as long as no directory is lost. -/
theorem resolve_keep (h : KeepsDirectories d d') (hr : d.resolve path = .ok t) :
    d'.resolve path = .ok t := by
  obtain ⟨ha, hcheck⟩ := resolve_eq_ok_iff.1 hr
  exact resolve_eq_ok_iff.2 ⟨approach_keep h ha, hcheck⟩

theorem checkName_child_eq_ok_iff {parent : Location} {slash : Bool} :
    (Target.child parent name slash).checkName = .ok () ↔ name.utf8ByteSize ≤ maxName := by
  unfold Target.checkName
  by_cases hlong : maxName < name.utf8ByteSize
  · simp [hlong]
  · simp [hlong, Nat.le_of_not_lt hlong]

theorem resolve_cases (h : d.resolve path = .ok t) :
    (∃ l, t = .here l ∧ d.walk (start path) (names path) = .ok l) ∨
    ∃ way parent name slash, t = .child parent name slash ∧ names path = way ++ [name] ∧
      IsName name ∧ name.utf8ByteSize ≤ maxName ∧ d.walk (start path) way = .ok parent := by
  obtain ⟨ha, hcheck⟩ := resolve_eq_ok_iff.1 h
  obtain ⟨-, ⟨hnames, rfl⟩ | ⟨way, n, parent, hnames, hw, rfl⟩⟩ := approach_eq_ok_iff.1 ha
  · exact .inl ⟨start path, rfl, by rw [hnames]; rfl⟩
  have hwalk : ∀ l, d.walk parent [n] = .ok l → d.walk (start path) (names path) = .ok l := by
    intro l hl
    rw [hnames, walk_append, hw]
    exact hl
  by_cases hhere : n = "."
  · exact .inl ⟨parent, if_pos hhere, hwalk _ (walk_cons_eq_ok_iff.2 (.inl ⟨hhere, rfl⟩))⟩
  by_cases hup : n = ".."
  · exact .inl ⟨above parent, by rw [lastTarget, if_neg hhere, if_pos hup],
      hwalk _ (walk_cons_eq_ok_iff.2 (.inr (.inl ⟨hup, rfl⟩)))⟩
  have hmem : n ∈ names path := by simp [hnames]
  have hname : IsName n := isName_of_mem_names hmem hhere hup
  rw [lastTarget_of_isName hname] at hcheck ⊢
  exact .inr ⟨way, parent, n, path.endsWith "/", rfl, hnames, hname,
    checkName_child_eq_ok_iff.1 hcheck, hw⟩

/-! ### Directories that paths lead to -/

/-- There is a directory at the location, and the names of the path walk to it. -/
structure DirectoryAt (d : Disk) (dir : String) (D : Location) : Prop where
  walk : d.walk (start dir) (names dir) = .ok D
  directory : d.entryAt D = some .directory

theorem DirectoryAt.keep (hD : DirectoryAt d dir D) (h : KeepsDirectories d d') :
    DirectoryAt d' dir D :=
  ⟨walk_keep h hD.walk, h D hD.directory⟩

theorem directoryAt_empty (d : Disk) : DirectoryAt d "" [] :=
  ⟨rfl, entryAt_of_isOutward rfl⟩

theorem isDirectory_iff : d.isDirectory path = true ↔
    ∃ t, d.resolve path = .ok t ∧ d.entryAt t.location = some .directory := by
  unfold isDirectory
  cases d.resolve path <;> simp

theorem isDirectory_keep (h : KeepsDirectories d d') (hdir : d.isDirectory path = true) :
    d'.isDirectory path = true := by
  obtain ⟨t, hr, he⟩ := isDirectory_iff.1 hdir
  exact isDirectory_iff.2 ⟨t, resolve_keep h hr, h _ he⟩

theorem directoryAt_of_resolve (hr : d.resolve path = .ok t)
    (he : d.entryAt t.location = some .directory) : DirectoryAt d path t.location := by
  refine ⟨?_, he⟩
  rcases resolve_cases hr with ⟨l, rfl, hw⟩ | ⟨way, parent, n, slash, rfl, hsplit, hn, hle, hw⟩
  · exact hw
  · rw [hsplit, walk_append, hw]
    exact walk_cons_eq_ok_iff.2 (.inr (.inr ⟨hn.notHere, hn.notUp, hle, he, rfl⟩))

theorem exists_directoryAt_of_isDirectory (h : d.isDirectory path = true) :
    ∃ D, DirectoryAt d path D := by
  obtain ⟨t, hr, he⟩ := isDirectory_iff.1 h
  exact ⟨t.location, directoryAt_of_resolve hr he⟩

theorem DirectoryAt.join (hD : DirectoryAt d dir D) (hname : IsName name)
    (hle : name.utf8ByteSize ≤ maxName) (he : d.entryAt (D ++ [name]) = some .directory) :
    DirectoryAt d (join dir name) (D ++ [name]) := by
  refine ⟨?_, he⟩
  rw [hname.start_join, hname.names_join, walk_append, hD.walk]
  exact walk_cons_eq_ok_iff.2 (.inr (.inr ⟨hname.notHere, hname.notUp, hle, he, rfl⟩))

/-! ### Names in a directory -/

/-- The path of a name in a directory can be looked up. -/
structure Fits (dir name : String) : Prop where
  noZero : (join dir name).contains '\x00' = false
  path : (join dir name).utf8ByteSize ≤ maxPath
  name : name.utf8ByteSize ≤ maxName

theorem fits_iff : Fits dir name ↔ '\x00' ∉ (join dir name).toList ∧
    (join dir name).utf8ByteSize ≤ maxPath ∧ name.utf8ByteSize ≤ maxName := by
  have hzero : (join dir name).contains '\x00' = false ↔ '\x00' ∉ (join dir name).toList := by
    rw [String.contains_char_eq, decide_eq_false_iff_not]
  exact ⟨fun h => ⟨hzero.1 h.noZero, h.path, h.name⟩, fun h => ⟨hzero.2 h.1, h.2.1, h.2.2⟩⟩

instance (dir name : String) : Decidable (Fits dir name) := decidable_of_iff' _ fits_iff

theorem approach_join_eq_ok_iff (hD : DirectoryAt d dir D) (hname : IsName name) :
    d.approach (join dir name) = .ok t ↔
      ((join dir name).contains '\x00' = false ∧ (join dir name).utf8ByteSize ≤ maxPath) ∧
        t = .child D name false := by
  have hlast := lastTarget_of_isName hname D false
  rw [approach_eq_ok_iff, hname.names_join, hname.start_join, hname.not_endsWith_slash_join]
  constructor
  · rintro ⟨⟨hzero, -, hpath⟩, ⟨hnil, -⟩ | ⟨way, n, parent, hnames, hw, rfl⟩⟩
    · exact absurd hnil (by simp)
    · obtain ⟨rfl, hn⟩ := List.append_inj' hnames rfl
      obtain rfl : name = n := by simpa using hn
      obtain rfl := Except.ok.inj (hD.walk.symm.trans hw)
      exact ⟨⟨hzero, hpath⟩, hlast⟩
  · rintro ⟨⟨hzero, hpath⟩, rfl⟩
    exact ⟨⟨hzero, hname.join_ne_empty dir, hpath⟩,
      .inr ⟨names dir, name, D, rfl, hD.walk, hlast.symm⟩⟩

theorem resolve_join_eq_ok_iff (hD : DirectoryAt d dir D) (hname : IsName name) :
    d.resolve (join dir name) = .ok t ↔ Fits dir name ∧ t = .child D name false := by
  rw [resolve_eq_ok_iff, approach_join_eq_ok_iff hD hname]
  constructor
  · rintro ⟨⟨⟨hzero, hpath⟩, rfl⟩, hcheck⟩
    exact ⟨⟨hzero, hpath, checkName_child_eq_ok_iff.1 hcheck⟩, rfl⟩
  · rintro ⟨⟨hzero, hpath, hle⟩, rfl⟩
    exact ⟨⟨⟨hzero, hpath⟩, rfl⟩, checkName_child_eq_ok_iff.2 hle⟩

/-- A directory of the working directory. -/
theorem directoryAt_name (hname : IsName name) (hfits : Fits "" name)
    (he : d.entryAt [name] = some .directory) :
    DirectoryAt d name [name] ∧ d.isDirectory name = true := by
  have hresolve : d.resolve (join "" name) = .ok (.child [] name false) :=
    (resolve_join_eq_ok_iff (directoryAt_empty d) hname).2 ⟨hfits, rfl⟩
  rw [join_empty] at hresolve
  exact ⟨directoryAt_of_resolve hresolve he, isDirectory_iff.2 ⟨_, hresolve, he⟩⟩

/-! ### Operations -/

theorem makeDirectory_eq_ok_iff : d.makeDirectory path = .ok d' ↔
    ∃ t, d.resolve path = .ok t ∧ d.entryAt t.location = none ∧
      d' = d.put t.location .directory := by
  unfold makeDirectory
  rw [bind_eq_ok]
  refine exists_congr fun t => and_congr_right fun _ => ?_
  cases d.entryAt t.location with
  | none => exact pure_eq_ok.trans (by simp [eq_comm])
  | some e => simp [throw_ne_ok]

theorem makeDirectory_of_isDirectory (h : d.isDirectory path = true) :
    d.makeDirectory path = .error .alreadyExists := by
  obtain ⟨t, hr, he⟩ := isDirectory_iff.1 h
  unfold makeDirectory
  rw [hr]
  simp only [bind, Except.bind, he]
  rfl

theorem writeFile_join_eq_ok_iff {e : Entry} (hD : DirectoryAt d dir D) (hname : IsName name) :
    d.writeFile (join dir name) e = .ok d' ↔
      Fits dir name ∧ d.entryAt (D ++ [name]) ≠ some .directory ∧ d' = d.put (D ++ [name]) e := by
  unfold writeFile
  rw [bind_eq_ok]
  constructor
  · rintro ⟨t, ha, h⟩
    obtain ⟨⟨hzero, hpath⟩, rfl⟩ := (approach_join_eq_ok_iff hD hname).1 ha
    obtain ⟨⟨⟩, hcheck, h⟩ := bind_eq_ok.1 h
    split at h
    · cases h
    · next hne =>
      exact ⟨⟨hzero, hpath, checkName_child_eq_ok_iff.1 hcheck⟩, hne, (Except.ok.inj h).symm⟩
  · rintro ⟨⟨hzero, hpath, hle⟩, hne, rfl⟩
    refine ⟨_, (approach_join_eq_ok_iff hD hname).2 ⟨⟨hzero, hpath⟩, rfl⟩, ?_⟩
    refine bind_eq_ok.2 ⟨(), checkName_child_eq_ok_iff.2 hle, ?_⟩
    rw [if_neg hne]
    rfl

section
variable {src contents : String} {S : Location} (hS : DirectoryAt d src S)
  (hD : DirectoryAt d dir D) (hname : IsName name)
  (he : d.entryAt (S ++ [name]) = some (.text contents))
include hS hD hname he

theorem moveFile_join_of_fits (hsrc : Fits src name) (hdir : Fits dir name) :
    d.moveFile (join src name) (join dir name) =
      if (D ++ [name]).isPrefixOf (S ++ [name]) && D ++ [name] ≠ S ++ [name] then .error .notEmpty
      else if d.entryAt (D ++ [name]) = some .directory then .error .isDirectory
      else .ok ((d.erase (S ++ [name])).put (D ++ [name]) (.text contents)) := by
  unfold moveFile
  rw [(resolve_join_eq_ok_iff hS hname).2 ⟨hsrc, rfl⟩,
    (resolve_join_eq_ok_iff hD hname).2 ⟨hdir, rfl⟩]
  simp only [bind, Except.bind, Target.location, he]
  rfl

/-- A file moves to a directory under the same name if no directory of that name is there, one on
the way to where it was included. -/
theorem moveFile_join_eq_ok_iff :
    d.moveFile (join src name) (join dir name) = .ok d' ↔
      Fits src name ∧ Fits dir name ∧ (D ++ [name] <+: S ++ [name] → D = S) ∧
        d.entryAt (D ++ [name]) ≠ some .directory ∧
        d' = (d.erase (S ++ [name])).put (D ++ [name]) (.text contents) := by
  have hinside : ((D ++ [name]).isPrefixOf (S ++ [name]) && D ++ [name] ≠ S ++ [name]) = true ↔
      ¬ (D ++ [name] <+: S ++ [name] → D = S) := by
    simp [List.isPrefixOf_iff_prefix]
  constructor
  · intro h
    obtain ⟨s, hs, hrest⟩ := bind_eq_ok.1 h
    obtain ⟨t, ht, -⟩ := bind_eq_ok.1 hrest
    obtain ⟨hsrc, rfl⟩ := (resolve_join_eq_ok_iff hS hname).1 hs
    obtain ⟨hdir, rfl⟩ := (resolve_join_eq_ok_iff hD hname).1 ht
    rw [moveFile_join_of_fits hS hD hname he hsrc hdir] at h
    split at h
    · cases h
    next hfree =>
      split at h
      · cases h
      · next hdirectory =>
        exact ⟨hsrc, hdir, Decidable.not_not.1 (mt hinside.2 hfree), hdirectory,
          (Except.ok.inj h).symm⟩
  · rintro ⟨hsrc, hdir, hfree, hdirectory, rfl⟩
    rw [moveFile_join_of_fits hS hD hname he hsrc hdir, if_neg fun h => hinside.1 h hfree,
      if_neg hdirectory]

end

theorem remove_join_eq_ok_iff (hD : DirectoryAt d dir D) (hname : IsName name)
    (he : d.entryAt (D ++ [name]) = some .directory) :
    d.remove (join dir name) = .ok d' ↔ Fits dir name ∧ d' = d.prune (D ++ [name]) := by
  unfold remove
  rw [bind_eq_ok]
  constructor
  · rintro ⟨t, hr, h⟩
    obtain ⟨hfits, rfl⟩ := (resolve_join_eq_ok_iff hD hname).1 hr
    simp only [Target.location, he] at h
    exact ⟨hfits, (Except.ok.inj h).symm⟩
  · rintro ⟨hfits, rfl⟩
    refine ⟨_, (resolve_join_eq_ok_iff hD hname).2 ⟨hfits, rfl⟩, ?_⟩
    simp only [Target.location, he]
    rfl

/-- The text at a path stays as long as the path leads there and the file is there. -/
theorem readText_keep {contents : String}
    (hr : ∀ t, d.resolve path = .ok t → d'.resolve path = .ok t)
    (he : ∀ t, d.resolve path = .ok t → d.entryAt t.location = some (.text contents) →
      d'.entryAt t.location = some (.text contents))
    (h : d.readText path = .ok contents) : d'.readText path = .ok contents := by
  obtain ⟨t, ht, hfile⟩ := bind_eq_ok.1 h
  refine bind_eq_ok.2 ⟨t, hr t ht, ?_⟩
  cases hentry : d.entryAt t.location with
  | none =>
    rw [hentry] at hfile
    cases hfile
  | some e =>
    rw [hentry] at hfile
    cases e with
    | directory => cases hfile
    | binary bytes => rcases t with _ | ⟨_, _, _ | _⟩ <;> cases hfile
    | text s =>
      obtain rfl : s = contents := by rcases t with _ | ⟨_, _, _ | _⟩ <;> cases hfile <;> rfl
      rw [he t ht hentry]
      exact hfile

theorem readText_join {contents : String} (hD : DirectoryAt d dir D) (hname : IsName name)
    (hfits : Fits dir name) (he : d.entryAt (D ++ [name]) = some (.text contents)) :
    d.readText (join dir name) = .ok contents := by
  unfold readText
  refine bind_eq_ok.2 ⟨_, (resolve_join_eq_ok_iff hD hname).2 ⟨hfits, rfl⟩, ?_⟩
  simp only [Target.location, he]
  rfl

end Disk

end VectorFamily
