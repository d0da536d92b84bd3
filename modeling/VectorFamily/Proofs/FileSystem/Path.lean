import VectorFamily.FileSystem.Disk

/-!
# Paths

What a path is read as: where it starts, the names that it goes through, and whether a slash ends
it. A single name behind a path is one more name, and names that are put together from those of a
path are read back.
-/

namespace VectorFamily

namespace FileSystem

/-- The string can name an entry of a directory. -/
structure IsName (name : String) : Prop where
  nonempty : name ≠ ""
  noSlash : '/' ∉ name.toList
  notHere : name ≠ "."
  notUp : name ≠ ".."

instance (name : String) : Decidable (IsName name) :=
  decidable_of_iff (name ≠ "" ∧ '/' ∉ name.toList ∧ name ≠ "." ∧ name ≠ "..")
    ⟨fun ⟨h₁, h₂, h₃, h₄⟩ => ⟨h₁, h₂, h₃, h₄⟩, fun ⟨h₁, h₂, h₃, h₄⟩ => ⟨h₁, h₂, h₃, h₄⟩⟩

theorem startsWith_slash_iff {path : String} :
    path.startsWith "/" = true ↔ path.toList.head? = some '/' := by
  rw [String.startsWith_string_iff]
  exact List.singleton_prefix_iff_head?_eq_some

theorem endsWith_slash_iff {path : String} :
    path.endsWith "/" = true ↔ path.toList.getLast? = some '/' := by
  have hslice : path.endsWith "/" = path.toSlice.endsWith "/" := rfl
  rw [hslice, String.Slice.endsWith_string_iff, String.copy_toSlice]
  exact List.singleton_suffix_iff_getLast?_eq_some

/-! ### The names of a path -/

def nameTexts (t : Text) : List Text := (t.splitOnP (· == '/')).filter (· ≠ [])

theorem names_eq (path : String) : names path = (nameTexts path.toList).map String.ofList := rfl

theorem nameTexts_append_slash (t u : Text) :
    nameTexts (t ++ '/' :: u) = nameTexts t ++ nameTexts u := by
  unfold nameTexts
  rw [List.splitOnP_append_cons t u (by rfl), List.filter_append]

theorem slash_not_mem_of_mem_splitOnP {t u : Text} (h : u ∈ t.splitOnP (· == '/')) : '/' ∉ u := by
  induction t generalizing u with
  | nil =>
    obtain rfl := List.mem_singleton.1 h
    simp
  | cons c t ih =>
    rw [List.splitOnP_cons_eq_if_modifyHead] at h
    by_cases hc : c = '/'
    · rw [if_pos (by simpa using hc)] at h
      rcases List.mem_cons.1 h with rfl | h
      · simp
      · exact ih h
    · rw [if_neg (by simpa using hc)] at h
      obtain ⟨v, vs, hv⟩ := List.exists_cons_of_ne_nil (List.splitOnP_ne_nil (· == '/') t)
      rw [hv] at h ih
      rcases List.mem_cons.1 h with rfl | h
      · have := ih List.mem_cons_self
        simp [this, Ne.symm hc]
      · exact ih (List.mem_cons_of_mem _ h)

theorem nameTexts_of_not_mem {t : Text} (ht : '/' ∉ t) (hne : t ≠ []) : nameTexts t = [t] := by
  have hsingle : t.splitOnP (· == '/') = [t] := by
    refine List.splitOnP_eq_singleton fun c hc => ?_
    have hne : c ≠ '/' := fun he => ht (he ▸ hc)
    simpa using hne
  simp [nameTexts, hsingle, hne]

section
variable {name : String} (hname : IsName name)
include hname

theorem IsName.toList_ne_nil : name.toList ≠ [] := by
  intro h
  exact hname.nonempty (String.toList_eq_nil_iff.1 h)

theorem IsName.nameTexts_toList : nameTexts name.toList = [name.toList] :=
  nameTexts_of_not_mem hname.noSlash hname.toList_ne_nil

theorem IsName.not_startsWith_slash : name.startsWith "/" = false := by
  rw [Bool.eq_false_iff]
  intro h
  exact hname.noSlash (List.mem_of_mem_head? (startsWith_slash_iff.1 h))

/-- A single name is put behind the slash that ends a path, or behind one more slash. -/
theorem IsName.toList_join {dir : String} (hdir : dir ≠ "") : ∃ t,
    (join dir name).toList = t ++ '/' :: name.toList ∧
      (dir.toList = t ∨ dir.toList = t ++ ['/']) := by
  have hempty : dir.isEmpty = false := by
    rw [Bool.eq_false_iff]
    exact fun h => hdir (String.isEmpty_iff.1 h)
  unfold join
  rw [hname.not_startsWith_slash, hempty]
  by_cases hlast : dir.endsWith "/" = true
  · obtain ⟨t, ht⟩ := List.getLast?_eq_some_iff.1 (endsWith_slash_iff.1 hlast)
    exact ⟨t, by simp [hlast, ht], .inr ht⟩
  · exact ⟨dir.toList, by simp [hlast], .inl rfl⟩

omit hname in
theorem join_empty : join "" name = name := by
  simp [join]

theorem IsName.names_join (dir : String) : names (join dir name) = names dir ++ [name] := by
  by_cases hdir : dir = ""
  · subst hdir
    rw [join_empty, names_eq, hname.nameTexts_toList]
    simp [names]
  · obtain ⟨t, hjoin, ht⟩ := hname.toList_join hdir
    have hsame : nameTexts dir.toList = nameTexts t := by
      rcases ht with ht | ht
      · rw [ht]
      · rw [ht, nameTexts_append_slash]
        simp [nameTexts]
    rw [names_eq, names_eq, hjoin, nameTexts_append_slash, hname.nameTexts_toList, hsame]
    simp

theorem IsName.start_join (dir : String) : Disk.start (join dir name) = Disk.start dir := by
  have hiff : (join dir name).startsWith "/" = true ↔ dir.startsWith "/" = true := by
    by_cases hdir : dir = ""
    · subst hdir
      rw [join_empty, hname.not_startsWith_slash]
      decide
    · obtain ⟨t, hjoin, ht⟩ := hname.toList_join hdir
      rw [startsWith_slash_iff, startsWith_slash_iff, hjoin]
      cases t with
      | nil =>
        rcases ht with ht | ht
        · exact absurd (String.toList_eq_nil_iff.1 ht) hdir
        · simp [ht]
      | cons c t => rcases ht with ht | ht <;> simp [ht]
  unfold Disk.start
  rw [Bool.eq_iff_iff.2 hiff]

theorem IsName.toList_join_eq_append (dir : String) :
    ∃ t, (join dir name).toList = t ++ name.toList := by
  by_cases hdir : dir = ""
  · subst hdir
    exact ⟨[], by rw [join_empty]; rfl⟩
  · obtain ⟨t, hjoin, -⟩ := hname.toList_join hdir
    exact ⟨t ++ ['/'], by simp [hjoin]⟩

theorem IsName.not_endsWith_slash_join (dir : String) : (join dir name).endsWith "/" = false := by
  obtain ⟨t, ht⟩ := hname.toList_join_eq_append dir
  have hne := hname.toList_ne_nil
  rw [Bool.eq_false_iff, ne_eq, endsWith_slash_iff, ht, List.getLast?_append,
    List.getLast?_eq_some_getLast hne, Option.some_or]
  intro h
  exact hname.noSlash (Option.some.inj h ▸ List.getLast_mem hne)

theorem IsName.join_ne_empty (dir : String) : join dir name ≠ "" := by
  obtain ⟨t, ht⟩ := hname.toList_join_eq_append dir
  intro h
  rw [h] at ht
  exact hname.toList_ne_nil (List.append_eq_nil_iff.1 ht.symm).2

end

theorem mem_nameTexts {t u : Text} (h : u ∈ nameTexts t) : u ≠ [] ∧ '/' ∉ u := by
  obtain ⟨hmem, hne⟩ := List.mem_filter.1 h
  exact ⟨by simpa using hne, slash_not_mem_of_mem_splitOnP hmem⟩

/-- The names that a path goes through are names, but for those that stay or go up. -/
theorem isName_of_mem_names {path name : String} (h : name ∈ names path) (hhere : name ≠ ".")
    (hup : name ≠ "..") : IsName name := by
  obtain ⟨u, hu, rfl⟩ := List.mem_map.1 h
  obtain ⟨hne, hslash⟩ := mem_nameTexts hu
  exact ⟨fun he => hne (by simpa using congrArg String.toList he), by simpa using hslash, hhere,
    hup⟩

/-! ### Paths made of names -/

theorem nameTexts_intercalate {ts : List Text} (h : ∀ t ∈ ts, t ≠ [] ∧ '/' ∉ t) :
    nameTexts (['/'].intercalate ts) = ts := by
  induction ts with
  | nil => rfl
  | cons t ts ih =>
    obtain ⟨⟨hne, hslash⟩, hts⟩ := List.forall_mem_cons.1 h
    cases ts with
    | nil => rw [List.intercalate_singleton, nameTexts_of_not_mem hslash hne]
    | cons u us =>
      rw [List.intercalate_cons_cons, List.append_assoc, List.singleton_append,
        nameTexts_append_slash, nameTexts_of_not_mem hslash hne, ih hts]
      rfl

section
variable {path : String} {ns : List String} (h : ∀ n ∈ ns, n ∈ names path)
include h

theorem mem_names_texts : ∀ t ∈ ns.map String.toList, t ≠ [] ∧ '/' ∉ t := by
  intro t ht
  obtain ⟨n, hn, rfl⟩ := List.mem_map.1 ht
  obtain ⟨u, hu, rfl⟩ := List.mem_map.1 (h n hn)
  rw [String.toList_ofList]
  exact mem_nameTexts hu

/-- A path that is put together from names of another one goes through them. -/
theorem names_intercalate :
    names ((if path.startsWith "/" then "/" else "") ++ "/".intercalate ns) = ns := by
  have hnames : nameTexts ("/".intercalate ns).toList = ns.map String.toList := by
    rw [String.toList_intercalate]
    exact nameTexts_intercalate (mem_names_texts h)
  have hback : (ns.map String.toList).map String.ofList = ns := by simp
  rw [names_eq, String.toList_append]
  split
  · have hroot := nameTexts_append_slash [] ("/".intercalate ns).toList
    rw [hnames] at hroot
    exact (congrArg (List.map String.ofList) hroot).trans hback
  · exact (congrArg (List.map String.ofList) hnames).trans hback

theorem start_intercalate :
    Disk.start ((if path.startsWith "/" then "/" else "") ++ "/".intercalate ns) =
      Disk.start path := by
  unfold Disk.start
  by_cases hpath : path.startsWith "/" = true
  · rw [if_pos hpath, if_pos hpath, if_pos]
    rw [startsWith_slash_iff, String.toList_append]
    rfl
  · rw [if_neg hpath, if_neg hpath, if_neg]
    rw [startsWith_slash_iff, String.toList_append, String.toList_intercalate]
    cases ns with
    | nil => decide
    | cons n ns =>
      obtain ⟨hne, hslash⟩ := mem_names_texts h n.toList (by simp)
      obtain ⟨c, t, ht⟩ := List.exists_cons_of_ne_nil hne
      intro hhead
      refine hslash (List.mem_of_mem_head? ?_)
      cases ns <;> simpa [ht, List.intercalate_cons_cons] using hhead

end

end FileSystem

end VectorFamily
