import ImageValidatingWebhook.Server.Docker

/-!
# ImageValidatingWebhook.Server.ImageInfo — reading an image back from `registry/name:tag`

`isImageInWhiteList` matches the whitelist against the image written back from `getImageInfo`
as `registry/name:tag` (`validFormatImage`). `getImageInfo` cuts at the last `/` and the first
`:` after it, so it reads that form back whatever the registry holds.

* `getImageInfo_validFormatImage`: `r/n:t` reads back when `n` and `t` hold no `/` and no `:`,
  every name and tag read is such a piece, and so the form reads back as the image.
* `getImageInfo_pinned`: a pinned image `r/n:t@sha256:d` reads back with the tag `t@sha256`.
* `isImageInWhiteList_validFormatImage`: an image and its form are whitelisted alike.
-/

namespace ImageValidatingWebhook.Server

/-- The image `isImageInWhiteList` matches the whitelist against:
`fmt.Sprintf("%s/%s:%s", imageInfo.registry, imageInfo.name, imageInfo.tag)`. -/
def validFormatImage (imageInfo : ImageInfo) : String :=
  imageInfo.registry ++ "/" ++ imageInfo.name ++ ":" ++ imageInfo.tag

theorem DockerHandler.isImageInWhiteList_eq (h : DockerHandler) (image : String) :
    h.isImageInWhiteList image =
      h.whiteList.byImages.any (Go.contains (validFormatImage (getImageInfo image))) :=
  rfl

/-- A piece of an image that holds neither of the separators `getImageInfo` cuts at. -/
def SeparatorFree (s : String) : Prop :=
  '/' ∉ s.data ∧ ':' ∉ s.data

instance : DecidablePred SeparatorFree := fun _ =>
  inferInstanceAs (Decidable (_ ∧ _))

/-! ## Reading `registry/name:tag` -/

/-- The last `/` of `r/n:t` is the one before `n`, and the rest splits at `:` into `n` and `t`. -/
theorem getImageInfo_append {r n t : String} (hn : SeparatorFree n) (ht : SeparatorFree t) :
    getImageInfo (r ++ "/" ++ n ++ ":" ++ t) = ⟨r, n, t⟩ := by
  have hdata : (r ++ "/" ++ n ++ ":" ++ t).data = r.data ++ '/' :: (n.data ++ ':' :: t.data) := by
    simp
  have hslash : Go.contains (r ++ "/" ++ n ++ ":" ++ t) "/" = true :=
    (Go.contains_iff_mem rfl).2 (by simp [hdata])
  have hlast : Go.lastIndex (r ++ "/" ++ n ++ ":" ++ t) '/' = r.data.length := by
    rw [Go.lastIndex, hdata, Go.lastIndexOf_append_cons (by simp [hn.1, ht.1])]
  have hcolon : Go.contains ⟨n.data ++ ':' :: t.data⟩ ":" = true :=
    (Go.contains_iff_mem rfl).2 (by simp)
  simp only [getImageInfo, hslash, hlast, if_true, Int.toNat_ofNat, hdata, List.take_left,
    List.drop_append, List.drop_succ_cons, List.drop_zero, hcolon, Go.split_append_cons hn.2 ht.2]
  rfl

/-- Splitting at `:` a name `n:t:rest` gives `n` and `t` first. -/
theorem split_append_cons_append_cons {n t rest : List Char} (hn : ':' ∉ n) (ht : ':' ∉ t) :
    Go.split ⟨n ++ ':' :: (t ++ ':' :: rest)⟩ ':' = ⟨n⟩ :: ⟨t⟩ :: Go.split ⟨rest⟩ ':' := by
  have hfree : ∀ {l : List Char}, ':' ∉ l → ∀ x ∈ l, ¬(x == ':') = true := fun hl x hx => by
    simpa using ne_of_mem_of_not_mem hx hl
  simp only [Go.split, List.splitOn]
  rw [List.splitOnP_first _ n (hfree hn) ':' (by simp) _,
    List.splitOnP_first _ t (hfree ht) ':' (by simp) rest]
  rfl

/-- `getImageInfo` keeps the first two pieces of the name split at `:`. -/
theorem getImageInfo_append_colon {r n t rest : String} (hn : SeparatorFree n)
    (ht : SeparatorFree t) (hrest : '/' ∉ rest.data) :
    getImageInfo (r ++ "/" ++ n ++ ":" ++ t ++ ":" ++ rest) = ⟨r, n, t⟩ := by
  have hdata : (r ++ "/" ++ n ++ ":" ++ t ++ ":" ++ rest).data =
      r.data ++ '/' :: (n.data ++ ':' :: (t.data ++ ':' :: rest.data)) := by
    simp
  have hslash : Go.contains (r ++ "/" ++ n ++ ":" ++ t ++ ":" ++ rest) "/" = true :=
    (Go.contains_iff_mem rfl).2 (by simp [hdata])
  have hlast : Go.lastIndex (r ++ "/" ++ n ++ ":" ++ t ++ ":" ++ rest) '/' = r.data.length := by
    rw [Go.lastIndex, hdata, Go.lastIndexOf_append_cons (by simp [hn.1, ht.1, hrest])]
  have hcolon : Go.contains ⟨n.data ++ ':' :: (t.data ++ ':' :: rest.data)⟩ ":" = true :=
    (Go.contains_iff_mem rfl).2 (by simp)
  simp only [getImageInfo, hslash, hlast, if_true, Int.toNat_ofNat, hdata, List.take_left,
    List.drop_append, List.drop_succ_cons, List.drop_zero, hcolon,
    split_append_cons_append_cons hn.2 ht.2]
  rfl

/-- The name `getImageInfo` reads holds no `/`: it follows the last one, or the image has none. -/
theorem not_mem_drop_lastIndex {image : String} (h : '/' ∈ image.data) :
    '/' ∉ image.data.drop ((Go.lastIndex image '/').toNat + 1) := by
  rcases hi : Go.lastIndexOf '/' image.data with _ | i
  · exact absurd (Go.lastIndexOf_eq_none.1 hi) (not_not.2 h)
  · simp only [Go.lastIndex, hi, Int.toNat_ofNat]
    exact Go.not_mem_drop_of_lastIndexOf hi

/-- A piece of a `/`-free string split at `:` holds neither separator. -/
theorem separatorFree_split_getD {s : String} (hs : '/' ∉ s.data) (i : Nat) :
    SeparatorFree ((Go.split s ':').getD i "") :=
  ⟨fun h => hs (Go.mem_split_getD h).1, fun h => (Go.mem_split_getD h).2 rfl⟩

/-- Every name and tag `getImageInfo` returns holds no `/` and no `:`. -/
theorem getImageInfo_separatorFree (image : String) :
    SeparatorFree (getImageInfo image).name ∧ SeparatorFree (getImageInfo image).tag := by
  have hnot : ∀ {s : String} {c : Char}, ¬Go.contains s ⟨[c]⟩ = true → c ∉ s.data :=
    fun hs hc => hs ((Go.contains_iff_mem rfl).2 hc)
  simp only [getImageInfo]
  split_ifs with hslash hcolon hcolon <;> dsimp only
  · have hname := not_mem_drop_lastIndex ((Go.contains_iff_mem rfl).1 hslash)
    exact ⟨separatorFree_split_getD hname 0, separatorFree_split_getD hname 1⟩
  · exact ⟨⟨not_mem_drop_lastIndex ((Go.contains_iff_mem rfl).1 hslash), hnot hcolon⟩, by decide⟩
  · exact ⟨separatorFree_split_getD (hnot hslash) 0, separatorFree_split_getD (hnot hslash) 1⟩
  · exact ⟨⟨hnot hslash, hnot hcolon⟩, by decide⟩

/-- `getImageInfo` reads its own result back from `registry/name:tag`. -/
theorem getImageInfo_validFormatImage_self (image : String) :
    getImageInfo (validFormatImage (getImageInfo image)) = getImageInfo image :=
  getImageInfo_append (getImageInfo_separatorFree image).1 (getImageInfo_separatorFree image).2

/-- `getImageInfo` reads `r/n:t` back for separator-free `n` and `t`, returns only such pieces,
and so reads the form `isImageInWhiteList` matches against back as the image. -/
theorem getImageInfo_validFormatImage :
    (∀ r n t : String, SeparatorFree n → SeparatorFree t →
      getImageInfo (r ++ "/" ++ n ++ ":" ++ t) = ⟨r, n, t⟩) ∧
    (∀ s, SeparatorFree (getImageInfo s).name ∧ SeparatorFree (getImageInfo s).tag) ∧
    ∀ s, getImageInfo (validFormatImage (getImageInfo s)) = getImageInfo s :=
  ⟨fun _ _ _ => getImageInfo_append, getImageInfo_separatorFree, getImageInfo_validFormatImage_self⟩

/-- A registry with a port and two path segments, read back. -/
theorem getImageInfo_validFormatImage_port :
    SeparatorFree "app" ∧ SeparatorFree "v1" ∧
      getImageInfo ("registry.example.com:5000/team" ++ "/" ++ "app" ++ ":" ++ "v1") =
        ⟨"registry.example.com:5000/team", "app", "v1"⟩ :=
  ⟨by decide, by decide, getImageInfo_validFormatImage.1 _ _ _ (by decide) (by decide)⟩

/-! ## A pinned image -/

/-- A pinned image `r/n:t@sha256:digest` reads back with the tag `t@sha256` and no digest. -/
theorem getImageInfo_pinned {r n t digest : String} (hn : SeparatorFree n)
    (ht : SeparatorFree t) (hdigest : '/' ∉ digest.data) :
    getImageInfo (r ++ "/" ++ n ++ ":" ++ t ++ "@sha256:" ++ digest) =
      ⟨r, n, t ++ "@sha256"⟩ := by
  have hpin : SeparatorFree (t ++ "@sha256") := ⟨by simp [ht.1], by simp [ht.2]⟩
  have hsplit : r ++ "/" ++ n ++ ":" ++ t ++ "@sha256:" ++ digest =
      r ++ "/" ++ n ++ ":" ++ (t ++ "@sha256") ++ ":" ++ digest :=
    String.ext (by simp)
  rw [hsplit, getImageInfo_append_colon hn hpin hdigest]

/-- The image `alicePolicyHandler` pins to the digest `bb`, read back. -/
theorem getImageInfo_pinned_bb :
    SeparatorFree "app" ∧ SeparatorFree "v1" ∧ '/' ∉ "bb".data ∧
      getImageInfo ("registry.example.com" ++ "/" ++ "app" ++ ":" ++ "v1" ++ "@sha256:" ++ "bb") =
        ⟨"registry.example.com", "app", "v1" ++ "@sha256"⟩ :=
  ⟨by decide, by decide, by decide, getImageInfo_pinned (by decide) (by decide) (by decide)⟩

/-! ## The whitelist -/

/-- An image and its `registry/name:tag` form are whitelisted alike. -/
theorem isImageInWhiteList_validFormatImage (h : DockerHandler) (image : String) :
    h.isImageInWhiteList (validFormatImage (getImageInfo image)) = h.isImageInWhiteList image := by
  rw [DockerHandler.isImageInWhiteList_eq, DockerHandler.isImageInWhiteList_eq,
    getImageInfo_validFormatImage_self]

end ImageValidatingWebhook.Server
