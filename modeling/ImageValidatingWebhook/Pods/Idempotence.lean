import ImageValidatingWebhook.Pods.Verdict

/-!
# ImageValidatingWebhook.Pods.Idempotence — running the mutation twice

The API server may call a mutating webhook again on the pod it has already mutated. For the
digest pinning of `CheckIsValidAndAddDigest` to be safe under that, a second run on the pod an
accepting first run produced must accept again and change nothing. That needs two things of the
collaborators `src/` does not hold (`Validator.Canonical`): `String()` of a parsed reference with
the signed digest parses back to it, and the whitelist and the trust data of an image depend only
on the host, repository and tag it parses to, not on how the image is written.

* `checkContainer_signed_rerun`: a container pinned by the signature branch is pinned again to
  the same image: its new image names the same host, repository and tag, and carries the signed
  digest, which passes the mismatch check.
* `addDigestWhenImageValid_rerun`: the loop accepts its own accepted output and leaves it as it is.
* `checkIsValidAndAddDigest_idempotent`: the same for the whole pod.
-/

namespace ImageValidatingWebhook.Pods

open Trust

/-- Two references name the same image: host, repository and tag agree; the digest may not. -/
def ImageRef.SameImage (r r' : ImageRef) : Prop :=
  r.host = r'.host ∧ r.name = r'.name ∧ r.tag = r'.tag

/-- What running the validator on its own output needs of its collaborators: `String()` of a
parsed reference whose digest is replaced by the one `GetDigest` gives parses back to it, and the
whitelist and the trust data `FetchSignature` finds depend only on the host, repository and tag
an image parses to. -/
structure Validator.Canonical (h : Validator) : Prop where
  parse_refString : ∀ {s r} (sig : TrustRepo), h.parseImage s = .ok r →
    h.parseImage (h.refString { r with digest := h.getDigest sig r.tag }) =
      .ok { r with digest := h.getDigest sig r.tag }
  whiteListed_congr : ∀ {s s' r r'}, h.parseImage s = .ok r → h.parseImage s' = .ok r' →
    r.SameImage r' → h.isImageWhiteListed s = h.isImageWhiteListed s'
  fetchSignature_congr : ∀ {s s' r r'}, h.parseImage s = .ok r → h.parseImage s' = .ok r' →
    r.SameImage r' → ∀ basicAuth notary,
      h.fetchSignature s basicAuth notary = h.fetchSignature s' basicAuth notary

section Rerun

variable {h : Validator} {ns : String} {ps : List LocalObjectReference}

/-- A reference with its digest replaced names the same image. -/
theorem ImageRef.sameImage_with_digest (r : ImageRef) (d : String) :
    ImageRef.SameImage { r with digest := d } r :=
  ⟨rfl, rfl, rfl⟩

/-- The signature branch pins its own output to the same image: the pinned image parses to the
reference with the signed digest, which is the same image for the whitelist, the policy and the
notary, and whose digest is the one `GetDigest` gives again. -/
theorem checkContainer_signed_rerun (hc : h.Canonical) {c : Container} {image : String}
    (hsigned : h.checkContainer ns ps c = .signed image) :
    h.checkContainer ns ps { c with image } = .signed image := by
  obtain ⟨hwl, ref, basicAuth, policy, sig, href, hauth, hpol, hreg, hsign, hfetch, -, rfl⟩ :=
    checkContainer_eq_signed.1 hsigned
  have hparse := hc.parse_refString sig href
  have hsame := ImageRef.sameImage_with_digest ref (h.getDigest sig ref.tag)
  refine checkContainer_eq_signed.2 ⟨?_, _, basicAuth, policy, sig, hparse, hauth, hpol, hreg,
    hsign, ?_, .inr rfl, rfl⟩
  · rw [← hwl]
    exact hc.whiteListed_congr hparse href hsame
  · rw [← hfetch]
    exact hc.fetchSignature_congr hparse href hsame basicAuth policy.notary

/-- `addDigestWhenImageValid` run on the containers an accepting run left accepts again and
changes nothing: the whitelisted prefix is skipped again, and the deciding container is accepted
as it was or pinned again to the image it already carries. -/
theorem addDigestWhenImageValid_rerun (hc : h.Canonical) (L : List Container)
    (hv : (h.addDigestWhenImageValid ns ps L).1.isValid = true) :
    h.addDigestWhenImageValid ns ps (h.addDigestWhenImageValid ns ps L).2 =
      (.accept, (h.addDigestWhenImageValid ns ps L).2) := by
  induction L with
  | nil => rfl
  | cons c rest ih =>
    cases hd : h.checkContainer ns ps c with
    | whiteListed =>
      rw [addDigestWhenImageValid_cons_whiteListed rest hd] at hv ⊢
      rw [addDigestWhenImageValid_cons_whiteListed _ hd, ih hv]
    | accepted => simp [Validator.addDigestWhenImageValid, hd]
    | signed image =>
      simp [Validator.addDigestWhenImageValid, hd, checkContainer_signed_rerun hc hd]
    | rejected reason => simp [Validator.addDigestWhenImageValid, hd] at hv
    | failed err => simp [Validator.addDigestWhenImageValid, hd] at hv

end Rerun

/-- When the collaborators are canonical, running `CheckIsValidAndAddDigest` on the pod an
accepting run produced accepts again and returns that pod unchanged: pinning images to their
signed digests is idempotent. -/
theorem checkIsValidAndAddDigest_idempotent (h : Validator) (pod : Pod) (hc : h.Canonical)
    (hacc : (h.checkIsValidAndAddDigest pod).1 = .accept) :
    h.checkIsValidAndAddDigest (h.checkIsValidAndAddDigest pod).2 =
      (.accept, (h.checkIsValidAndAddDigest pod).2) := by
  by_cases hns : h.isNamespaceWhiteListed pod.ns
  · simp only [Validator.checkIsValidAndAddDigest, hns, if_true]
  rw [Bool.not_eq_true] at hns
  rw [checkIsValidAndAddDigest_of_not_whiteListed hns] at hacc ⊢
  by_cases hi : (h.addDigestWhenImageValid pod.ns pod.imagePullSecrets pod.initContainers).1.isValid
  · simp only [hi, if_true] at hacc ⊢
    have hcs : (h.addDigestWhenImageValid pod.ns pod.imagePullSecrets pod.containers).1.isValid :=
      by rw [hacc]; rfl
    rw [checkIsValidAndAddDigest_of_not_whiteListed (by exact hns)]
    simp only [addDigestWhenImageValid_rerun hc _ hi, addDigestWhenImageValid_rerun hc _ hcs,
      Verdict.accept_isValid, if_true, hacc]
  · simp only [hi, Bool.false_eq_true, if_false] at hacc
    exact absurd (by rw [hacc]; rfl) hi

/-! ## A canonical validator -/

/-- A field of a reference, written with every character doubled and closed by `/:`. -/
def encodeField (f : List Char) : List Char :=
  f.flatMap (fun c => [c, c]) ++ ['/', ':']

/-- Reads one field written by `encodeField`, with what follows it. -/
def decodeField : List Char → Option (List Char × List Char)
  | c₁ :: c₂ :: rest =>
    if c₁ = c₂ then (decodeField rest).map fun (f, r) => (c₁ :: f, r) else some ([], rest)
  | _ => none

theorem decodeField_encodeField (f rest : List Char) :
    decodeField (encodeField f ++ rest) = some (f, rest) := by
  induction f with
  | nil => rfl
  | cons c f ih =>
    simp only [encodeField, List.flatMap_cons, List.cons_append, List.nil_append,
      List.append_assoc] at ih ⊢
    simp [decodeField, ih]

/-- A reference written as its four fields, each by `encodeField`. -/
def codecRefString (r : ImageRef) : String :=
  ⟨encodeField r.host.data ++ encodeField r.name.data ++ encodeField r.tag.data ++
    encodeField r.digest.data⟩

/-- Reads a reference written by `codecRefString`. -/
def codecParseImage (image : String) : Except GoError ImageRef :=
  match decodeField image.data with
  | none => .error ⟨"invalid reference format"⟩
  | some (host, s) =>
    match decodeField s with
    | none => .error ⟨"invalid reference format"⟩
    | some (name, s) =>
      match decodeField s with
      | none => .error ⟨"invalid reference format"⟩
      | some (tag, s) =>
        match decodeField s with
        | none => .error ⟨"invalid reference format"⟩
        | some (digest, _) => .ok ⟨⟨host⟩, ⟨name⟩, ⟨tag⟩, ⟨digest⟩⟩

theorem codecParseImage_codecRefString (r : ImageRef) :
    codecParseImage (codecRefString r) = .ok r := by
  have h := decodeField_encodeField r.digest.data []
  rw [List.append_nil] at h
  simp only [codecParseImage, codecRefString, List.append_assoc, decodeField_encodeField, h]

/-- The trust data of `codec.example.com/app`: the tag `v1` is released with digest `ab`. -/
def codecTrustRepo : TrustRepo :=
  ⟨"codec.example.com/app", [⟨⟨"v1", "ab"⟩, ["targets"]⟩], [], []⟩

/-- A validator whose references are written by `codecRefString`: no image is whitelisted,
every registry asks for signatures, and the notary has trust data for the repository `app`. -/
def codecValidator : Validator where
  isNamespaceWhiteListed _ := false
  isImageWhiteListed _ := false
  parseImage := codecParseImage
  getSecret _ name := .error ⟨"secrets " ++ name ++ " not found"⟩
  newImagePullSecret _ := .error ⟨"no auths"⟩
  doesMatchPolicy host _ := (true, ⟨host, "https://notary.example.com", true⟩)
  fetchSignature image _ _ :=
    (codecParseImage image).map fun r => if r.name = "app" then some codecTrustRepo else none
  getDigest repo tag := repo.getDigest tag
  refString := codecRefString

theorem codecValidator_canonical : codecValidator.Canonical where
  parse_refString _ _ := codecParseImage_codecRefString _
  whiteListed_congr _ _ _ := rfl
  fetchSignature_congr hs hs' hsame _ _ := by
    simp only [codecValidator] at hs hs'
    simp only [codecValidator, hs, hs', Except.map, hsame.2.1]

/-- A pod whose container is pinned to `v1`'s signed digest on the first run, and which the
second run accepts unchanged. -/
theorem checkIsValidAndAddDigest_idempotent_codec :
    (codecValidator.checkIsValidAndAddDigest
        ⟨"default", [], [⟨codecRefString ⟨"c", "app", "v1", ""⟩⟩], []⟩) =
      (.accept, ⟨"default", [], [⟨codecRefString ⟨"c", "app", "v1", "ab"⟩⟩], []⟩) ∧
    codecValidator.checkIsValidAndAddDigest
        (codecValidator.checkIsValidAndAddDigest
          ⟨"default", [], [⟨codecRefString ⟨"c", "app", "v1", ""⟩⟩], []⟩).2 =
      (.accept, (codecValidator.checkIsValidAndAddDigest
        ⟨"default", [], [⟨codecRefString ⟨"c", "app", "v1", ""⟩⟩], []⟩).2) :=
  have hrun : codecValidator.checkIsValidAndAddDigest
      ⟨"default", [], [⟨codecRefString ⟨"c", "app", "v1", ""⟩⟩], []⟩ =
        (.accept, ⟨"default", [], [⟨codecRefString ⟨"c", "app", "v1", "ab"⟩⟩], []⟩) := by
    decide
  ⟨hrun, checkIsValidAndAddDigest_idempotent codecValidator _ codecValidator_canonical
    (by rw [hrun])⟩

end ImageValidatingWebhook.Pods
