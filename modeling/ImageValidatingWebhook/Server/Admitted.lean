import ImageValidatingWebhook.Server.IsValid

/-!
# ImageValidatingWebhook.Server.Admitted — what the legacy handler has checked when it decides

When either version of `isValid` returns `true`, every container of the pod whose image is not
whitelisted went through `isSignedImage` and came out signed; when it returns `false`, it names
the first one that came out unsigned. For the legacy handler that means
the daemon printed trust data for the image whose first signature passes `hasMatchedSigner`
(there is no signer policy, or the repository's admin key is a target key of a signer a policy
names), and the patch pins the image to the digest `getDigest` reads from that data.

* `pinUntilUnsigned_none`: a fold that finds no unsigned image lets every container through,
  whitelisted and unchanged or pinned to a digest `isSignedImage` gave for it.
* `isSignedImage_eq_signed`: `isSignedImage` says signed only for trust data that passes the
  signer policies, with the digest `getDigest` reads from it.
* `isValid_accept_checked`: both together, for either version of `isValid`.
* `isValid_reject_first_unsigned`: a rejection names the first container that is not
  whitelisted and whose trust data does not pass (`isSignedImage_eq_unsigned`); the containers
  before it went through as for an admitted pod, and the patch leaves it and the rest alone.
-/

namespace ImageValidatingWebhook.Server

/-! ## An accepting fold -/

section Fold

variable {σ : Type} (isImageInWhiteList : String → Bool)
  (isSignedImage : String → σ → Option (Bool × String) × σ)

/-- What an accepting fold leaves of a container: the container itself when its image is
whitelisted, or its image pinned to a digest `isSignedImage`, called on it, gave as signed. -/
def SkippedOrPinned (c c' : Container) : Prop :=
  (isImageInWhiteList c.image = true ∧ c' = c) ∨
    ∃ s digest, (isSignedImage c.image s).1 = some (true, digest) ∧
      c' = ⟨c.image ++ "@sha256:" ++ digest⟩

/-- The fold's result for a list with `c'` in front. -/
theorem eq_of_map_cons_eq_some {r : Option (Option String × List Container)} {c' : Container}
    {u : Option String} {L : List Container}
    (h : r.map (fun (unsigned, cs) => (unsigned, c' :: cs)) = some (u, L)) :
    ∃ L', r = some (u, L') ∧ L = c' :: L' := by
  rcases r with _ | ⟨u, L'⟩
  · cases h
  · simp only [Option.map_some', Option.some.injEq, Prod.mk.injEq] at h
    obtain ⟨rfl, rfl⟩ := h
    exact ⟨L', rfl, rfl⟩

/-- A fold that finds no unsigned image lets every container through. -/
theorem pinUntilUnsigned_none {cs L : List Container} {s : σ}
    (h : (pinUntilUnsigned isImageInWhiteList isSignedImage cs s).1 = some (none, L)) :
    List.Forall₂ (SkippedOrPinned isImageInWhiteList isSignedImage) cs L := by
  induction cs generalizing L s with
  | nil =>
    simp only [pinUntilUnsigned, Option.some.injEq, Prod.mk.injEq, true_and] at h
    exact h ▸ .nil
  | cons c rest ih =>
    simp only [pinUntilUnsigned] at h
    split at h
    case isTrue hw =>
      obtain ⟨L', hr, rfl⟩ := eq_of_map_cons_eq_some h
      exact .cons (.inl ⟨hw, rfl⟩) (ih hr)
    case isFalse =>
      rcases hs : isSignedImage c.image s with ⟨_ | ⟨_ | _, digest⟩, s'⟩ <;>
        simp only [hs] at h
      · cases h
      · simp at h
      · obtain ⟨L', hr, rfl⟩ := eq_of_map_cons_eq_some h
        exact .cons (.inr ⟨s, digest, by rw [hs], rfl⟩) (ih hr)

/-- When the fold both versions compute accepts the pod, every init container and every
container is let through. -/
theorem specIsValid_accept {pod patch : Pod} {name : String} {s : σ}
    (h : (specIsValid isImageInWhiteList isSignedImage pod s).1 = some (true, name, patch)) :
    List.Forall₂ (SkippedOrPinned isImageInWhiteList isSignedImage)
        pod.initContainers patch.initContainers ∧
      List.Forall₂ (SkippedOrPinned isImageInWhiteList isSignedImage)
        pod.containers patch.containers := by
  simp only [specIsValid] at h
  rcases hi : pinUntilUnsigned isImageInWhiteList isSignedImage pod.initContainers s with
    ⟨_ | ⟨_ | image, inits⟩, s'⟩ <;> simp only [hi] at h
  · cases h
  · rcases hc : pinUntilUnsigned isImageInWhiteList isSignedImage pod.containers s' with
      ⟨_ | ⟨_ | image, cs⟩, s''⟩ <;> simp only [hc] at h
    · cases h
    · simp only [Option.some.injEq, Prod.mk.injEq, true_and] at h
      obtain ⟨-, rfl⟩ := h
      exact ⟨pinUntilUnsigned_none _ _ (congrArg Prod.fst hi),
        pinUntilUnsigned_none _ _ (congrArg Prod.fst hc)⟩
    · simp at h
  · simp at h

/-- A fold that stops at an unsigned image stops at the first container whose image is not
whitelisted and which `isSignedImage` calls unsigned; every container before it is let through,
and it and every one after it are left as they are. -/
theorem pinUntilUnsigned_some {cs L : List Container} {s : σ} {image : String}
    (h : (pinUntilUnsigned isImageInWhiteList isSignedImage cs s).1 = some (some image, L)) :
    ∃ pre c post pre', cs = pre ++ c :: post ∧
      List.Forall₂ (SkippedOrPinned isImageInWhiteList isSignedImage) pre pre' ∧
      L = pre' ++ c :: post ∧ image = c.image ∧ isImageInWhiteList c.image = false ∧
      ∃ s' d, (isSignedImage c.image s').1 = some (false, d) := by
  induction cs generalizing L s with
  | nil => simp [pinUntilUnsigned] at h
  | cons c rest ih =>
    simp only [pinUntilUnsigned] at h
    split at h
    case isTrue hw =>
      obtain ⟨L', hr, rfl⟩ := eq_of_map_cons_eq_some h
      obtain ⟨pre, c', post, pre', rfl, hpre, rfl, hrest⟩ := ih hr
      exact ⟨c :: pre, c', post, c :: pre', rfl, .cons (.inl ⟨hw, rfl⟩) hpre, rfl, hrest⟩
    case isFalse hw =>
      rcases hs : isSignedImage c.image s with ⟨_ | ⟨_ | _, digest⟩, s'⟩ <;>
        simp only [hs] at h
      · cases h
      · simp only [Option.some.injEq, Prod.mk.injEq] at h
        obtain ⟨rfl, rfl⟩ := h
        exact ⟨[], c, rest, [], rfl, .nil, rfl, rfl, by simpa using hw, s, digest, by rw [hs]⟩
      · obtain ⟨L', hr, rfl⟩ := eq_of_map_cons_eq_some h
        obtain ⟨pre, c', post, pre', rfl, hpre, rfl, hrest⟩ := ih hr
        exact ⟨c :: pre, c', post, _ :: pre', rfl,
          .cons (.inr ⟨s, digest, by rw [hs], rfl⟩) hpre, rfl, hrest⟩

/-- When the fold both versions compute rejects the pod, it names the first container, of the
init containers and then the containers, that is not whitelisted and is called unsigned: every
container before it is let through, and it and every one after it keep their images. -/
theorem specIsValid_reject {pod patch : Pod} {name : String} {s : σ}
    (h : (specIsValid isImageInWhiteList isSignedImage pod s).1 = some (false, name, patch)) :
    ∃ pre c post pre', pod.initContainers ++ pod.containers = pre ++ c :: post ∧
      List.Forall₂ (SkippedOrPinned isImageInWhiteList isSignedImage) pre pre' ∧
      patch.initContainers ++ patch.containers = pre' ++ c :: post ∧ name = c.image ∧
      isImageInWhiteList c.image = false ∧
      ∃ s' d, (isSignedImage c.image s').1 = some (false, d) := by
  simp only [specIsValid] at h
  rcases hi : pinUntilUnsigned isImageInWhiteList isSignedImage pod.initContainers s with
    ⟨_ | ⟨_ | image, inits⟩, s'⟩ <;> simp only [hi] at h
  · cases h
  · rcases hc : pinUntilUnsigned isImageInWhiteList isSignedImage pod.containers s' with
      ⟨_ | ⟨_ | image, cs⟩, s''⟩ <;> simp only [hc] at h
    · cases h
    · simp at h
    · simp only [Option.some.injEq, Prod.mk.injEq, true_and] at h
      obtain ⟨rfl, rfl⟩ := h
      obtain ⟨pre, c, post, pre', hcs, hpre, rfl, hrest⟩ :=
        pinUntilUnsigned_some _ _ (congrArg Prod.fst hc)
      exact ⟨pod.initContainers ++ pre, c, post, inits ++ pre', by rw [hcs, List.append_assoc],
        List.rel_append (pinUntilUnsigned_none _ _ (congrArg Prod.fst hi)) hpre,
        (List.append_assoc _ _ _).symm, hrest⟩
  · simp only [Option.some.injEq, Prod.mk.injEq, true_and] at h
    obtain ⟨rfl, rfl⟩ := h
    obtain ⟨pre, c, post, pre', hinits, hpre, rfl, hrest⟩ :=
      pinUntilUnsigned_some _ _ (congrArg Prod.fst hi)
    exact ⟨pre, c, post ++ pod.containers, pre', by simp [hinits], hpre, by simp, hrest⟩

end Fold

/-! ## What `isSignedImage` checks -/

namespace DockerHandler

variable (h : DockerHandler)

/-- The signatures `isSignedImage` reads for `image` when the handler has issued `log` before:
the output of the `docker trust inspect` line `makeCommand` makes, run after the commands
`makeCommand` issued, parsed by `getSignatures`. -/
def inspectSignatures (image : String) (log : List Command) : Except GoError (List Signature) :=
  let (command, log) := h.makeCommand (getImageInfo image) log
  h.getSignatures (h.execToDockerDaemon command log).1.1.out

/-- A signature passes the signer policies: there are none, or the admin key of its repository
is a target key of a signer some policy names. -/
def SignerMatches (signature : Signature) : Prop :=
  h.signerPolicies = [] ∨ ∃ policy ∈ h.signerPolicies, ∃ signer ∈ policy.signers,
    signature.repoAdminKey ∈ (h.getSignerKey signer).targets

/-- `hasMatchedSigner` on signatures reads only the first one, and passes it exactly when it
matches the signer policies. -/
theorem hasMatchedSigner_cons (signature : Signature) (rest : List Signature) :
    h.hasMatchedSigner (signature :: rest) = true ↔ h.SignerMatches signature := by
  by_cases hp : h.signerPolicies = [] <;> simp [hasMatchedSigner, SignerMatches, hp]

/-- `isSignedImage` says signed only for trust data the daemon printed whose first signature
passes the signer policies, and then with the digest `getDigest` reads from it. -/
theorem isSignedImage_eq_signed {image : String} {log : List Command} {digest : String}
    (hs : (h.isSignedImage image log).1 = some (true, digest)) :
    ∃ signature rest, h.inspectSignatures image log = .ok (signature :: rest) ∧
      h.SignerMatches signature ∧ getDigest image (signature :: rest) = some digest := by
  simp only [isSignedImage, inspectSignatures] at hs ⊢
  split at hs
  · simp at hs
  split at hs
  · simp at hs
  next signatures hsig =>
    split at hs
    next hmatch =>
      split at hs
      next d hd =>
        cases signatures with
        | nil => simp [getDigest] at hd
        | cons signature rest =>
          obtain rfl : d = digest := by simpa using hs
          exact ⟨signature, rest, hsig, (h.hasMatchedSigner_cons signature rest).1 hmatch, hd⟩
      · simp at hs
    · simp at hs

/-- What an admitting run of the legacy handler leaves of a container: the container itself when
its image is whitelisted, or its image pinned to the digest `getDigest` reads from trust data the
daemon printed for it, after some commands, whose first signature passes the signer policies. -/
def Checked (c c' : Container) : Prop :=
  (h.isImageInWhiteList c.image = true ∧ c' = c) ∨
    ∃ log signature rest digest, h.inspectSignatures c.image log = .ok (signature :: rest) ∧
      h.SignerMatches signature ∧ getDigest c.image (signature :: rest) = some digest ∧
      c' = ⟨c.image ++ "@sha256:" ++ digest⟩

theorem checked_of_skippedOrPinned {c c' : Container}
    (hc : SkippedOrPinned h.isImageInWhiteList h.isSignedImage c c') : h.Checked c c' :=
  hc.imp_right fun ⟨log, digest, hs, hc'⟩ =>
    let ⟨signature, rest, hinspect, hmatch, hd⟩ := h.isSignedImage_eq_signed hs
    ⟨log, signature, rest, digest, hinspect, hmatch, hd, hc'⟩

/-- `isSignedImage` says unsigned only when the trust data the daemon printed for the image does
not parse, lists no signature, or has a first signature that fails the signer policies. -/
theorem isSignedImage_eq_unsigned {image : String} {log : List Command} {d : String}
    (hs : (h.isSignedImage image log).1 = some (false, d)) :
    ∀ signature rest, h.inspectSignatures image log = .ok (signature :: rest) →
      ¬ h.SignerMatches signature := by
  simp only [isSignedImage, inspectSignatures] at hs ⊢
  split at hs
  · simp at hs
  split at hs
  next herr =>
    intro signature rest hsig
    rw [herr] at hsig
    cases hsig
  next signatures hsig =>
    intro signature rest hsig' hmatch
    rw [hsig, Except.ok.injEq] at hsig'
    subst hsig'
    rw [if_pos ((h.hasMatchedSigner_cons signature rest).2 hmatch)] at hs
    split at hs <;> simp at hs

/-- A container the legacy handler rejects: its image is not whitelisted, and the trust data the
daemon printed for it, after some commands, does not parse, lists no signature, or has a first
signature that fails the signer policies. -/
def NotSigned (c : Container) : Prop :=
  h.isImageInWhiteList c.image = false ∧ ∃ log, ∀ signature rest,
    h.inspectSignatures c.image log = .ok (signature :: rest) → ¬ h.SignerMatches signature

end DockerHandler

/-! ## What an admitted pod has been through -/

/-- When either version of `isValid` admits the pod, every init container and every container of
the patch is the pod's container with a whitelisted image, or the pod's image pinned to the digest
of trust data the daemon printed for it whose first signature passes the signer policies. -/
theorem isValid_accept_checked (h : DockerHandler) (log : List Command) {name : String}
    {patch : Pod}
    (hacc : (Split.isValid h.isImageInWhiteList h.isSignedImage h.pod h.pod log).1 =
        some (true, name, patch) ∨
      (Inline.isValid h.isImageInWhiteList h.isSignedImage h.pod h.pod log).1 =
        some (true, name, patch)) :
    List.Forall₂ h.Checked h.pod.initContainers patch.initContainers ∧
      List.Forall₂ h.Checked h.pod.containers patch.containers := by
  rw [split_isValid_eq, inline_isValid_eq, or_self] at hacc
  obtain ⟨hinits, hcs⟩ := specIsValid_accept _ _ hacc
  exact ⟨hinits.imp fun _ _ => h.checked_of_skippedOrPinned,
    hcs.imp fun _ _ => h.checked_of_skippedOrPinned⟩

/-- `signedTwiceHandler` under a signer policy naming `alice`, whose signer key lists `root`, the
admin key of the trust data the daemon prints. -/
def alicePolicyHandler : DockerHandler :=
  { signedTwiceHandler with signerPolicies := [⟨["alice"]⟩], getSignerKey := fun _ => ⟨["root"]⟩ }

/-- Under `alice`'s policy the pod of `alicePolicyHandler` is admitted with its image pinned. -/
theorem isValid_accept_checked_alice :
    (Split.isValid alicePolicyHandler.isImageInWhiteList alicePolicyHandler.isSignedImage
        alicePolicyHandler.pod alicePolicyHandler.pod []).1 =
      some (true, "", ⟨"default", [], [⟨"registry.example.com/app:v1@sha256:bb"⟩], []⟩) ∧
    List.Forall₂ alicePolicyHandler.Checked alicePolicyHandler.pod.initContainers [] ∧
      List.Forall₂ alicePolicyHandler.Checked alicePolicyHandler.pod.containers
        [⟨"registry.example.com/app:v1@sha256:bb"⟩] :=
  have hrun : (Split.isValid alicePolicyHandler.isImageInWhiteList alicePolicyHandler.isSignedImage
      alicePolicyHandler.pod alicePolicyHandler.pod []).1 =
        some (true, "", ⟨"default", [], [⟨"registry.example.com/app:v1@sha256:bb"⟩], []⟩) := by
    decide
  ⟨hrun, isValid_accept_checked alicePolicyHandler [] (.inl hrun)⟩

/-! ## What a rejection names -/

/-- When either version of `isValid` rejects the pod, it names the first container, of the init
containers and then the containers, whose image is not whitelisted and whose trust data the
daemon printed does not pass: every container before it went through as for an admitted pod,
and it and every container after it keep their images in the patch. -/
theorem isValid_reject_first_unsigned (h : DockerHandler) (log : List Command) {name : String}
    {patch : Pod}
    (hrej : (Split.isValid h.isImageInWhiteList h.isSignedImage h.pod h.pod log).1 =
        some (false, name, patch) ∨
      (Inline.isValid h.isImageInWhiteList h.isSignedImage h.pod h.pod log).1 =
        some (false, name, patch)) :
    ∃ pre c post pre', h.pod.initContainers ++ h.pod.containers = pre ++ c :: post ∧
      List.Forall₂ h.Checked pre pre' ∧
      patch.initContainers ++ patch.containers = pre' ++ c :: post ∧
      name = c.image ∧ h.NotSigned c := by
  rw [split_isValid_eq, inline_isValid_eq, or_self] at hrej
  obtain ⟨pre, c, post, pre', hpod, hpre, hpatch, hname, hw, log', _, hs⟩ :=
    specIsValid_reject _ _ hrej
  exact ⟨pre, c, post, pre', hpod, hpre.imp fun _ _ => h.checked_of_skippedOrPinned, hpatch,
    hname, hw, log', h.isSignedImage_eq_unsigned hs⟩

/-- `alicePolicyHandler` with `alice`'s signer key listing `k9` only, not the admin key `root` of
the trust data the daemon prints. -/
def untrustedKeyHandler : DockerHandler :=
  { alicePolicyHandler with getSignerKey := fun _ => ⟨["k9"]⟩ }

/-- Under `untrustedKeyHandler` the pod's only image is rejected by name, and left unpinned. -/
theorem isValid_reject_first_unsigned_k9 :
    (Split.isValid untrustedKeyHandler.isImageInWhiteList untrustedKeyHandler.isSignedImage
        untrustedKeyHandler.pod untrustedKeyHandler.pod []).1 =
      some (false, "registry.example.com/app:v1", untrustedKeyHandler.pod) ∧
    ∃ pre c post pre', untrustedKeyHandler.pod.initContainers ++
        untrustedKeyHandler.pod.containers = pre ++ c :: post ∧
      List.Forall₂ untrustedKeyHandler.Checked pre pre' ∧
      untrustedKeyHandler.pod.initContainers ++ untrustedKeyHandler.pod.containers =
        pre' ++ c :: post ∧
      "registry.example.com/app:v1" = c.image ∧ untrustedKeyHandler.NotSigned c :=
  have hrun : (Split.isValid untrustedKeyHandler.isImageInWhiteList
      untrustedKeyHandler.isSignedImage untrustedKeyHandler.pod untrustedKeyHandler.pod []).1 =
        some (false, "registry.example.com/app:v1", untrustedKeyHandler.pod) := by
    decide
  ⟨hrun, isValid_reject_first_unsigned untrustedKeyHandler [] (.inl hrun)⟩

end ImageValidatingWebhook.Server
