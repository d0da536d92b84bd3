import VectorFamily.Output.Set
import VectorFamily.Proofs.Output.Names

/-!
# What digests tell apart

A digest is taken over the names and contents of all files, each with a zero behind it. The zeros
part the bytes again if no name and no contents hold one of their own. Names do not, but contents
may. `digestBytes_eq_iff` says how far the bytes of two sets tell them apart nevertheless, and
`exists_single_of_two_files` that a zero in the contents of one file can stand for all other files.
-/

namespace VectorFamily

/-! ### The bytes of a text -/

def utf8 (s : String) : List UInt8 := s.toUTF8.data.toList

theorem utf8_eq (s : String) : utf8 s = s.toList.flatMap String.utf8EncodeChar := by
  have hbytes : s.toUTF8 = s.toList.utf8Encode := String.utf8Encode_toList.symm
  rw [utf8, hbytes, List.utf8Encode, List.data_toByteArray]

theorem utf8_append (s t : String) : utf8 (s ++ t) = utf8 s ++ utf8 t := by
  simp [utf8_eq]

theorem utf8_inj {s t : String} (h : utf8 s = utf8 t) : s = t :=
  String.toByteArray_inj.1 (ByteArray.ext (Array.toList_inj.1 h))

theorem zero_eq_ofNat_iff {n : Nat} : 0 = UInt8.ofNat n ↔ n % 256 = 0 := by
  rw [← UInt8.toNat_inj, UInt8.toNat_ofNat']
  exact eq_comm

/-- The bytes of other characters than zero are all different from zero. -/
theorem zero_not_mem_utf8EncodeChar {c : Char} (h : c.val.toNat ≠ 0) :
    0 ∉ String.utf8EncodeChar c := by
  rw [String.utf8EncodeChar]
  split_ifs <;> simp only [List.mem_cons, List.not_mem_nil, or_false, zero_eq_ofNat_iff] <;> omega

theorem count_utf8EncodeChar (c : Char) :
    (String.utf8EncodeChar c).count 0 = if c = '\x00' then 1 else 0 := by
  split
  · next h => rw [h]; rfl
  · next h =>
    refine List.count_eq_zero.2 (zero_not_mem_utf8EncodeChar fun hv => h ?_)
    exact Char.val_inj.1 (UInt32.toNat_inj.1 hv)

theorem count_utf8 (s : String) : (utf8 s).count 0 = s.toList.count '\x00' := by
  rw [utf8_eq]
  induction s.toList with
  | nil => rfl
  | cons c t ih =>
    rw [List.flatMap_cons, List.count_append, ih, count_utf8EncodeChar, List.count_cons, Nat.add_comm]
    simp

theorem zero_not_mem_utf8 {s : String} (h : '\x00' ∉ s.toList) : 0 ∉ utf8 s := by
  rw [← List.count_eq_zero, count_utf8]
  exact List.count_eq_zero.2 h

/-! ### The bytes of files -/

/-- The bytes of a list of files: each name and each contents with a zero behind it. -/
def framed (fs : List (String × String)) : List UInt8 :=
  fs.flatMap fun f => utf8 f.1 ++ 0 :: (utf8 f.2 ++ [0])

theorem framed_cons (f : String × String) (fs : List (String × String)) :
    framed (f :: fs) = utf8 f.1 ++ 0 :: (utf8 f.2 ++ 0 :: framed fs) := by
  simp [framed]

/-- No name of a file holds a zero. -/
def NamesPlain (fs : List (String × String)) : Prop := ∀ f ∈ fs, '\x00' ∉ f.1.toList

/-- No contents of a file hold a zero. -/
def ContentsPlain (fs : List (String × String)) : Prop := ∀ f ∈ fs, '\x00' ∉ f.2.toList

instance (fs : List (String × String)) : Decidable (NamesPlain fs) :=
  inferInstanceAs (Decidable (∀ f ∈ fs, '\x00' ∉ f.1.toList))

instance (fs : List (String × String)) : Decidable (ContentsPlain fs) :=
  inferInstanceAs (Decidable (∀ f ∈ fs, '\x00' ∉ f.2.toList))

/-- The zeros in the contents of all files. -/
def zeros (fs : List (String × String)) : Nat := (fs.flatMap (·.2.toList)).count '\x00'

theorem zeros_eq_zero_iff {fs : List (String × String)} : zeros fs = 0 ↔ ContentsPlain fs := by
  simp [zeros, ContentsPlain, List.count_eq_zero]

section
variable {fs gs : List (String × String)}

theorem count_framed (h : NamesPlain fs) : (framed fs).count 0 = 2 * fs.length + zeros fs := by
  induction fs with
  | nil => rfl
  | cons f fs ih =>
    have hname : (utf8 f.1).count 0 = 0 :=
      List.count_eq_zero.2 (zero_not_mem_utf8 (h f List.mem_cons_self))
    have hrest := ih fun g hg => h g (List.mem_cons_of_mem _ hg)
    have hzeros : zeros (f :: fs) = f.2.toList.count '\x00' + zeros fs := by simp [zeros]
    rw [framed_cons, List.count_append, List.count_cons_self, List.count_append,
      List.count_cons_self, hname, count_utf8, hrest, hzeros, List.length_cons]
    omega

/-- Without other zeros, the first one ends the first name and the second one its contents. -/
theorem framed_inj (hf : NamesPlain fs) (hf' : ContentsPlain fs) (hg : NamesPlain gs)
    (hg' : ContentsPlain gs) (h : framed fs = framed gs) : fs = gs := by
  induction fs generalizing gs with
  | nil => cases gs with
    | nil => rfl
    | cons g gs => simp [framed] at h
  | cons f fs ih => cases gs with
    | nil => simp [framed] at h
    | cons g gs =>
      rw [framed_cons, framed_cons] at h
      obtain ⟨hname, h⟩ := eq_of_append_cons (zero_not_mem_utf8 (hf f List.mem_cons_self))
        (zero_not_mem_utf8 (hg g List.mem_cons_self)) h
      obtain ⟨hcontents, h⟩ := eq_of_append_cons (zero_not_mem_utf8 (hf' f List.mem_cons_self))
        (zero_not_mem_utf8 (hg' g List.mem_cons_self)) h
      rw [ih (fun x hx => hf x (List.mem_cons_of_mem _ hx))
        (fun x hx => hf' x (List.mem_cons_of_mem _ hx))
        (fun x hx => hg x (List.mem_cons_of_mem _ hx))
        (fun x hx => hg' x (List.mem_cons_of_mem _ hx)) h,
        Prod.ext (utf8_inj hname) (utf8_inj hcontents)]

/-- If the contents of as few files hold no zeros, then no zero of the others is left for their
contents. -/
theorem contentsPlain_of_framed_eq (hf : NamesPlain fs) (hf' : ContentsPlain fs)
    (hg : NamesPlain gs) (hsize : fs.length ≤ gs.length) (h : framed fs = framed gs) :
    ContentsPlain gs := by
  have hcount := congrArg (List.count 0) h
  rw [count_framed hf, count_framed hg, zeros_eq_zero_iff.2 hf'] at hcount
  exact zeros_eq_zero_iff.1 (by omega)

end

/-! ### Bytes as digits -/

namespace Sha256

theorem loop_toList (bytes : ByteArray) (i : Nat) (r : List UInt8) :
    ByteArray.toList.loop bytes i r = r.reverse ++ bytes.data.toList.drop i := by
  induction i, r using ByteArray.toList.loop.induct bytes with
  | case1 i r hlt ih =>
    have hi : i < bytes.data.toList.length := by simpa using hlt
    have hget : bytes.get! i = bytes.data.toList[i] := by
      simp only [ByteArray.get!, Array.getElem_toList]
      exact getElem!_pos bytes.data i hlt
    rw [ByteArray.toList.loop, if_pos hlt, ih, hget, List.drop_eq_getElem_cons hi]
    simp
  | case2 i r hge =>
    have hi : bytes.data.toList.length ≤ i := by simpa using hge
    rw [ByteArray.toList.loop, if_neg hge, List.drop_eq_nil_of_le hi, List.append_nil]

theorem toList_eq_data (bytes : ByteArray) : bytes.toList = bytes.data.toList := by
  rw [ByteArray.toList, loop_toList]
  rfl

theorem digitChar_inj : ∀ m < 16, ∀ n < 16, Nat.digitChar m = Nat.digitChar n → m = n := by
  decide

theorem toNat_div_lt (b : UInt8) : b.toNat / 16 < 16 := by
  have := b.toNat_lt
  omega

theorem digits_inj {a b : UInt8}
    (hhigh : Nat.digitChar (a.toNat / 16) = Nat.digitChar (b.toNat / 16))
    (hlow : Nat.digitChar (a.toNat % 16) = Nat.digitChar (b.toNat % 16)) : a = b := by
  have hdiv := digitChar_inj _ (toNat_div_lt a) _ (toNat_div_lt b) hhigh
  have hmod := digitChar_inj _ (Nat.mod_lt _ (by omega)) _ (Nat.mod_lt _ (by omega)) hlow
  exact UInt8.toNat_inj.1 (by omega)

theorem digits_of_bytes_inj {bs bs' : List UInt8}
    (h : (bs.flatMap fun b => [Nat.digitChar (b.toNat / 16), Nat.digitChar (b.toNat % 16)]) =
      bs'.flatMap fun b => [Nat.digitChar (b.toNat / 16), Nat.digitChar (b.toNat % 16)]) :
    bs = bs' := by
  induction bs generalizing bs' with
  | nil => cases bs' with
    | nil => rfl
    | cons b bs' => simp at h
  | cons a bs ih => cases bs' with
    | nil => simp at h
    | cons b bs' =>
      simp only [List.flatMap_cons, List.cons_append, List.nil_append, List.cons.injEq] at h
      rw [digits_inj h.1 h.2.1, ih h.2.2]

theorem hex_inj {x y : ByteArray} (h : hex x = hex y) : x = y := by
  have hdigits := String.ofList_injective h
  rw [toList_eq_data, toList_eq_data] at hdigits
  exact ByteArray.ext (Array.toList_inj.1 (digits_of_bytes_inj hdigits))

end Sha256

/-! ### Output sets -/

namespace OutputSet

theorem toList_fileBytes (f : String × String) :
    (fileBytes f).data.toList = utf8 f.1 ++ 0 :: (utf8 f.2 ++ [0]) := by
  simp [fileBytes, utf8]

theorem toList_digestBytes (s : OutputSet) : s.digestBytes.data.toList = framed s.files := by
  have hfold : ∀ (fs : List (String × String)) (out : ByteArray),
      (fs.foldl (fun out f => out ++ fileBytes f) out).data.toList =
        out.data.toList ++ framed fs := by
    intro fs
    induction fs with
    | nil => intro out; simp [framed]
    | cons f fs ih =>
      intro out
      rw [List.foldl_cons, ih, ByteArray.data_append, Array.toList_append, toList_fileBytes,
        framed_cons]
      simp
  exact hfold s.files ByteArray.empty

theorem digestBytes_eq_iff_framed {s t : OutputSet} :
    s.digestBytes = t.digestBytes ↔ framed s.files = framed t.files := by
  rw [← toList_digestBytes, ← toList_digestBytes, Array.toList_inj]
  exact ByteArray.ext_iff

theorem eq_of_files {s t : OutputSet} (h : s.files = t.files) : s = t := by
  cases s
  cases t
  cases h
  rfl

/-- Two sets differ in the bytes of their digests, if the contents of the one hold no zeros, and the
other one has no fewer files or no zeros in its contents either. Their digests differ as well,
unless they are two messages of one SHA-256 hash. -/
theorem digestBytes_eq_iff {s t : OutputSet} (hs : NamesPlain s.files) (ht : NamesPlain t.files)
    (hcontents : ContentsPlain s.files) (hother : s.size ≤ t.size ∨ ContentsPlain t.files) :
    (s.digestBytes = t.digestBytes ↔ s = t) ∧
      (s.digest = t.digest → s = t ∨
        s.digestBytes ≠ t.digestBytes ∧
          Sha256.hash s.digestBytes = Sha256.hash t.digestBytes) := by
  have hbytes : s.digestBytes = t.digestBytes ↔ s = t := by
    refine ⟨fun h => ?_, fun h => by rw [h]⟩
    have hframed := digestBytes_eq_iff_framed.1 h
    have hcontents' : ContentsPlain t.files :=
      hother.elim (fun hsize => contentsPlain_of_framed_eq hs hcontents ht hsize hframed) id
    exact eq_of_files (framed_inj hs hcontents ht hcontents' hframed)
  refine ⟨hbytes, fun h => ?_⟩
  have hhash := Sha256.hex_inj h
  by_cases hst : s.digestBytes = t.digestBytes
  · exact .inl (hbytes.1 hst)
  · exact .inr ⟨hst, hhash⟩

def twoFiles : OutputSet := { files := [("a", "x"), ("b", "y")], sorted := by decide }

def twoFilesChanged : OutputSet := { files := [("a", "x"), ("b", "z")], sorted := by decide }

theorem digestBytes_twoFiles_ne :
    (NamesPlain twoFiles.files ∧ NamesPlain twoFilesChanged.files ∧
      ContentsPlain twoFiles.files ∧ twoFiles.size ≤ twoFilesChanged.size) ∧
      twoFiles.digestBytes ≠ twoFilesChanged.digestBytes := by
  have hgiven : NamesPlain twoFiles.files ∧ NamesPlain twoFilesChanged.files ∧
      ContentsPlain twoFiles.files ∧ twoFiles.size ≤ twoFilesChanged.size := by decide
  refine ⟨hgiven, fun h => ?_⟩
  have hsame := (digestBytes_eq_iff hgiven.1 hgiven.2.1 hgiven.2.2.1 (.inl hgiven.2.2.2)).1.1 h
  exact absurd (congrArg files hsame) (by decide)

/-! ### Zeros in contents -/

/-- A further file behind the contents of another one, as the bytes of the digest have it. -/
def behind (f : String × String) : String := "\x00" ++ f.1 ++ "\x00" ++ f.2

/-- One file that takes the others into its contents. -/
def merged (f : String × String) (rest : List (String × String)) : OutputSet :=
  { files := [(f.1, rest.foldl (fun contents g => contents ++ behind g) f.2)] }

theorem framed_merged (f : String × String) (rest : List (String × String)) :
    framed (merged f rest).files = framed (f :: rest) := by
  obtain ⟨name, contents⟩ := f
  induction rest generalizing contents with
  | nil => rfl
  | cons g rest ih =>
    have hzero : utf8 "\x00" = [0] := by
      rw [utf8_eq]
      rfl
    calc framed (merged (name, contents) (g :: rest)).files
        = framed (merged (name, contents ++ behind g) rest).files := rfl
      _ = framed ((name, contents ++ behind g) :: rest) := ih _
      _ = framed ((name, contents) :: g :: rest) := by
        simp [framed_cons, behind, utf8_append, hzero]

/-- Every set of at least two files shares its bytes with a set of one. -/
theorem exists_single_of_two_files {s : OutputSet} (h : 2 ≤ s.size) :
    ∃ t : OutputSet, t.size = 1 ∧ t.digestBytes = s.digestBytes ∧
      (NamesPlain s.files → NamesPlain t.files) := by
  obtain ⟨f, rest, hfiles⟩ : ∃ f rest, s.files = f :: rest :=
    List.exists_cons_of_length_pos (by unfold size at h; omega)
  refine ⟨merged f rest, rfl, ?_, fun hs => ?_⟩
  · rw [digestBytes_eq_iff_framed, framed_merged, hfiles]
  · intro g hg
    cases List.mem_singleton.1 hg
    exact hs f (hfiles ▸ List.mem_cons_self)

/-- The second of two files in the contents of the first one. -/
def oneFile : OutputSet := { files := [("a", "x\x00b\x00y")] }

theorem digestBytes_oneFile : (NamesPlain oneFile.files ∧ NamesPlain twoFiles.files) ∧
    oneFile.digestBytes = twoFiles.digestBytes ∧ oneFile ≠ twoFiles := by
  refine ⟨by decide, ?_, fun h => absurd (congrArg size h) (by decide)⟩
  have hmerged : oneFile = merged ("a", "x") [("b", "y")] := rfl
  rw [digestBytes_eq_iff_framed, hmerged, framed_merged]
  rfl

end OutputSet

end VectorFamily
