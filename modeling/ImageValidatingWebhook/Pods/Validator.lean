import Mathlib.Data.List.Forall2
import ImageValidatingWebhook.Trust.Metadata

/-!
# ImageValidatingWebhook.Pods.Validator — the admission decision (package `pods`)

`validator.CheckIsValidAndAddDigest` decides whether a pod may run: a pod in a whitelisted
namespace passes, and otherwise `addDigestWhenImageValid` walks the init containers, then the
containers. The loop skips a whitelisted image; for any other image it parses the reference,
finds basic auth among the pod's pull secrets, looks up the registry's security policy and, when
the policy asks for signatures, fetches the image's trust data and pins the container to the
signed digest. Every branch of the loop body that does not `continue` returns.

What the validator consults but `src/` does not hold (the whitelist, `parseImage` and the
reference's `String()`, the secret client and `utils.ImagePullSecret`, the registry policy cache,
`notary.FetchSignature` and `GetDigest`) is a field of `Validator`: a theorem about a `Validator`
holds for every behaviour of them.

The loop body is `checkContainer`, which says what the body does with one container as a
`Decision`; `addDigestWhenImageValid` is the loop.

* `addDigestWhenImageValid_spec`: the loop returns at the first container that is not
  whitelisted, with that container's verdict, leaving every later container as it was.
* `checkContainer_eq_signed`: the signature branch, condition by condition.
-/

namespace ImageValidatingWebhook.Pods

open Trust

/-! ## What the validator consults -/

/-- An image reference as `parseImage` returns it (package `image`, not among the sources), by
the fields `addDigestWhenImageValid` reads and writes. -/
structure ImageRef where
  host : String
  name : String
  tag : String
  digest : String
deriving DecidableEq, Repr

/-- A registry security policy (`RegistrySecurityPolicy` spec of a registry), by the fields the
validator reads. -/
structure RegistrySecurityPolicy where
  registry : String
  notary : String
  signCheck : Bool
deriving DecidableEq, Repr

/-- `utils.ImagePullSecret`, by the one method the validator calls on it. -/
structure ImagePullSecret where
  getHostBasicAuth : String → Except GoError String

/-- `validator`: the whitelist cache, the secret client, the registry policy cache, and the
functions of other packages it calls, each as the function of its arguments it is. -/
structure Validator where
  /-- `WhiteList.IsNamespaceWhiteListed`. -/
  isNamespaceWhiteListed : String → Bool
  /-- `WhiteList.IsImageWhiteListed`. -/
  isImageWhiteListed : String → Bool
  /-- `parseImage`. -/
  parseImage : String → Except GoError ImageRef
  /-- `client.CoreV1().Secrets(namespace).Get(name)`. -/
  getSecret : String → String → Except GoError Secret
  /-- `utils.NewImagePullSecret`. -/
  newImagePullSecret : Secret → Except GoError ImagePullSecret
  /-- `RegistryPolicyCache.doesMatchPolicy(host, namespace)`. -/
  doesMatchPolicy : String → String → Bool × RegistrySecurityPolicy
  /-- `notary.FetchSignature(image, basicAuth, notaryURL)`: `none` when the image has no trust
  data. -/
  fetchSignature : String → String → String → Except GoError (Option TrustRepo)
  /-- `GetDigest(tag)` on the trust data. -/
  getDigest : TrustRepo → String → String
  /-- `String()` of an image reference. -/
  refString : ImageRef → String

/-- The `(bool, string, error)` a check returns. -/
structure Verdict where
  isValid : Bool
  reason : String
  err : Option GoError
deriving DecidableEq, Repr

/-- `(true, "", nil)`. -/
def Verdict.accept : Verdict := ⟨true, "", none⟩

/-- `(false, reason, nil)`. -/
def Verdict.reject (reason : String) : Verdict := ⟨false, reason, none⟩

/-- `(false, "", err)`. -/
def Verdict.fail (err : GoError) : Verdict := ⟨false, "", some err⟩

@[simp] theorem Verdict.accept_isValid : Verdict.accept.isValid = true := rfl

@[simp] theorem Verdict.reject_isValid (reason : String) :
    (Verdict.reject reason).isValid = false := rfl

@[simp] theorem Verdict.fail_isValid (err : GoError) : (Verdict.fail err).isValid = false := rfl

/-! ## Pull secrets -/

/-- `findRegistryServer`. -/
def findRegistryServer (registry : String) : String :=
  if registry = "docker.io" then "https://registry-1.docker.io" else "https://" ++ registry

/-- `getBasicAuthForRegistry`: the basic auth of the first pull secret that has one for the
registry; a secret that cannot be fetched or read ends the loop with an error. -/
def Validator.getBasicAuthForRegistry (h : Validator) (host ns : String) :
    List LocalObjectReference → Except GoError String
  | [] => .ok ""
  | pullSecret :: rest =>
    match h.getSecret ns pullSecret.name with
    | .error err => .error ⟨"couldn't get secret named " ++ pullSecret.name ++ " by " ++ err.msg⟩
    | .ok secret =>
      match h.newImagePullSecret secret with
      | .error err => .error err
      | .ok imagePullSecret =>
        match imagePullSecret.getHostBasicAuth (findRegistryServer host) with
        | .error err => .error err
        | .ok basicAuth =>
          if basicAuth = "" then h.getBasicAuthForRegistry host ns rest else .ok basicAuth

/-! ## The loop -/

/-- What the body of the loop in `addDigestWhenImageValid` does with one container. -/
inductive Decision where
  /-- The image is whitelisted: `continue`. -/
  | whiteListed
  /-- `return true, "", nil` with the container untouched: the policy names no registry, or
  does not ask for signatures. -/
  | accepted
  /-- `return true, "", nil` after setting the container's image to `image`. -/
  | signed (image : String)
  /-- `return false, reason, nil`. -/
  | rejected (reason : String)
  /-- `return false, "", err`. -/
  | failed (err : GoError)
deriving DecidableEq, Repr

/-- The body of the loop in `addDigestWhenImageValid`, for one container of a pod in namespace
`ns` with pull secrets `pullSecrets`. -/
def Validator.checkContainer (h : Validator) (ns : String)
    (pullSecrets : List LocalObjectReference) (container : Container) : Decision :=
  if h.isImageWhiteListed container.image then .whiteListed
  else
    match h.parseImage container.image with
    | .error err => .failed err
    | .ok ref =>
      match h.getBasicAuthForRegistry ref.host ns pullSecrets with
      | .error err => .failed err
      | .ok basicAuth =>
        let (valid, policy) := h.doesMatchPolicy ref.host ns
        if valid && policy.registry == "" then .accepted
        else if valid then
          if !policy.signCheck then .accepted
          else
            match h.fetchSignature container.image basicAuth policy.notary with
            | .error err => .failed err
            | .ok none => .rejected ("Image '" ++ container.image ++ "' is not signed")
            | .ok (some sig) =>
              let digest := h.getDigest sig ref.tag
              if ref.digest != "" && ref.digest != digest then
                .rejected ("Image '" ++ container.image ++
                  "''s digest is different from the signed digest")
              else .signed (h.refString { ref with digest := digest })
        else
          .rejected ("Image '" ++ container.image ++
            "' does not meet registry security policy. Please check the RegistrySecurityPolicy")

/-- `addDigestWhenImageValid`: the verdict, and the containers as the loop leaves them. -/
def Validator.addDigestWhenImageValid (h : Validator) (ns : String)
    (pullSecrets : List LocalObjectReference) : List Container → Verdict × List Container
  | [] => (.accept, [])
  | container :: rest =>
    match h.checkContainer ns pullSecrets container with
    | .whiteListed =>
      let result := h.addDigestWhenImageValid ns pullSecrets rest
      (result.1, container :: result.2)
    | .accepted => (.accept, container :: rest)
    | .signed image => (.accept, { container with image } :: rest)
    | .rejected reason => (.reject reason, container :: rest)
    | .failed err => (.fail err, container :: rest)

/-- Where `CheckIsValidAndAddDigest` stops after checking one list: on an error it returns
`(false, "", err)`, on an invalid verdict `(false, reason, nil)`; a valid verdict goes on. -/
def Verdict.stop (v : Verdict) : Option Verdict :=
  match v.err with
  | some err => some (.fail err)
  | none => if !v.isValid then some (.reject v.reason) else none

/-- `CheckIsValidAndAddDigest`: the verdict, and the pod as the loops leave it (they write
through the pod's own container slices). -/
def Validator.checkIsValidAndAddDigest (h : Validator) (pod : Pod) : Verdict × Pod :=
  if h.isNamespaceWhiteListed pod.ns then (.accept, pod)
  else
    let inits := h.addDigestWhenImageValid pod.ns pod.imagePullSecrets pod.initContainers
    let pod := { pod with initContainers := inits.2 }
    match inits.1.stop with
    | some v => (v, pod)
    | none =>
      let cs := h.addDigestWhenImageValid pod.ns pod.imagePullSecrets pod.containers
      let pod := { pod with containers := cs.2 }
      match cs.1.stop with
      | some v => (v, pod)
      | none => (.accept, pod)

/-! ## What one step of the loop does -/

/-- The verdict the loop returns at a container it does not skip. -/
def Decision.verdict : Decision → Verdict
  | .whiteListed | .accepted | .signed _ => .accept
  | .rejected reason => .reject reason
  | .failed err => .fail err

/-- The container as the loop leaves it when it returns there: only `signed` writes it. -/
def Decision.apply (d : Decision) (c : Container) : Container :=
  match d with
  | .signed image => { c with image }
  | _ => c

section Loop

variable {h : Validator} {ns : String} {ps : List LocalObjectReference}

theorem addDigestWhenImageValid_cons_whiteListed {c : Container} (rest : List Container)
    (hc : h.checkContainer ns ps c = .whiteListed) :
    h.addDigestWhenImageValid ns ps (c :: rest) =
      ((h.addDigestWhenImageValid ns ps rest).1,
        c :: (h.addDigestWhenImageValid ns ps rest).2) := by
  simp [Validator.addDigestWhenImageValid, hc]

theorem addDigestWhenImageValid_cons_of_ne {c : Container} (rest : List Container)
    (hc : h.checkContainer ns ps c ≠ .whiteListed) :
    h.addDigestWhenImageValid ns ps (c :: rest) =
      ((h.checkContainer ns ps c).verdict, (h.checkContainer ns ps c).apply c :: rest) := by
  rw [Validator.addDigestWhenImageValid]
  split <;> simp_all [Decision.verdict, Decision.apply]

/-- `addDigestWhenImageValid` returns at the first container that is not whitelisted, with its
verdict, the containers before it untouched, it as its decision leaves it and every container
after it untouched; over a list of whitelisted images it accepts and touches nothing. -/
theorem addDigestWhenImageValid_spec (L : List Container) :
    ((∀ c ∈ L, h.checkContainer ns ps c = .whiteListed) ∧
        h.addDigestWhenImageValid ns ps L = (.accept, L)) ∨
      ∃ pre c post, L = pre ++ c :: post ∧
        (∀ c' ∈ pre, h.checkContainer ns ps c' = .whiteListed) ∧
        h.checkContainer ns ps c ≠ .whiteListed ∧
        h.addDigestWhenImageValid ns ps L =
          ((h.checkContainer ns ps c).verdict,
            pre ++ (h.checkContainer ns ps c).apply c :: post) := by
  induction L with
  | nil => exact .inl ⟨by simp, rfl⟩
  | cons c rest ih =>
    by_cases hc : h.checkContainer ns ps c = .whiteListed
    · rw [addDigestWhenImageValid_cons_whiteListed rest hc]
      rcases ih with ⟨hall, hrest⟩ | ⟨pre, c', post, rfl, hpre, hc', hrest⟩
      · exact .inl ⟨List.forall_mem_cons.2 ⟨hc, hall⟩, by rw [hrest]⟩
      · exact .inr ⟨c :: pre, c', post, rfl, List.forall_mem_cons.2 ⟨hc, hpre⟩, hc',
          by rw [hrest]; rfl⟩
    · exact .inr ⟨[], c, rest, rfl, by simp, hc, addDigestWhenImageValid_cons_of_ne rest hc⟩

/-- The loop changes no container but by its decision: each container is kept, or its check
took the signature branch and it carries the image that branch computed. -/
theorem addDigestWhenImageValid_rewrites (L : List Container) :
    List.Forall₂ (fun c c' => c' = c ∨ ∃ image, h.checkContainer ns ps c = .signed image ∧
      c' = { c with image }) L (h.addDigestWhenImageValid ns ps L).2 := by
  induction L with
  | nil => exact .nil
  | cons c rest ih =>
    by_cases hc : h.checkContainer ns ps c = .whiteListed
    · rw [addDigestWhenImageValid_cons_whiteListed rest hc]
      exact .cons (.inl rfl) ih
    · rw [addDigestWhenImageValid_cons_of_ne rest hc]
      refine .cons ?_ (List.forall₂_same.2 fun _ _ => .inl rfl)
      cases hd : h.checkContainer ns ps c <;> simp [Decision.apply]

/-- The only valid verdict a loop returns is `(true, "", nil)`. -/
theorem addDigestWhenImageValid_valid {L : List Container}
    (hv : (h.addDigestWhenImageValid ns ps L).1.isValid = true) :
    (h.addDigestWhenImageValid ns ps L).1 = .accept := by
  rcases addDigestWhenImageValid_spec L with ⟨-, hL⟩ | ⟨pre, c, post, -, -, -, hL⟩
  · rw [hL]
  · rw [hL] at hv ⊢
    revert hv
    cases h.checkContainer ns ps c <;> simp [Decision.verdict]

/-- Where `CheckIsValidAndAddDigest` stops on the verdict of a loop: exactly when it is
invalid, and then with that verdict. -/
theorem stop_addDigestWhenImageValid (L : List Container) :
    (h.addDigestWhenImageValid ns ps L).1.stop =
      if (h.addDigestWhenImageValid ns ps L).1.isValid then none
      else some (h.addDigestWhenImageValid ns ps L).1 := by
  rcases addDigestWhenImageValid_spec L with ⟨-, hL⟩ | ⟨pre, c, post, -, -, -, hL⟩ <;>
    rw [hL]
  · rfl
  · cases h.checkContainer ns ps c <;> rfl

/-- `CheckIsValidAndAddDigest` outside a whitelisted namespace: the verdict of the init
containers' loop when it is invalid, and otherwise that of the containers' loop. -/
theorem checkIsValidAndAddDigest_of_not_whiteListed {pod : Pod}
    (hns : h.isNamespaceWhiteListed pod.ns = false) :
    h.checkIsValidAndAddDigest pod =
      let inits := h.addDigestWhenImageValid pod.ns pod.imagePullSecrets pod.initContainers
      if inits.1.isValid then
        let cs := h.addDigestWhenImageValid pod.ns pod.imagePullSecrets pod.containers
        (cs.1, { pod with initContainers := inits.2, containers := cs.2 })
      else (inits.1, { pod with initContainers := inits.2 }) := by
  simp only [Validator.checkIsValidAndAddDigest, hns, Bool.false_eq_true, if_false,
    stop_addDigestWhenImageValid]
  by_cases hi : (h.addDigestWhenImageValid pod.ns pod.imagePullSecrets pod.initContainers).1.isValid
  · by_cases hc : (h.addDigestWhenImageValid pod.ns pod.imagePullSecrets pod.containers).1.isValid
    · simp only [hi, hc, if_true, addDigestWhenImageValid_valid hc, Verdict.accept_isValid]
    · simp [hi, hc]
  · simp [hi]

end Loop

/-! ## The signature branch -/

/-- The container takes the signature branch of the loop body and ends up with `image`: its
image is not whitelisted and parses to `ref`, basic auth is found, a policy matches that names a
registry and asks for signatures, the trust data is fetched, the user gave no digest or the
signed one, and `image` is the reference with the digest `GetDigest` gives for its tag. -/
def Validator.PinnedBySignature (h : Validator) (ns : String) (ps : List LocalObjectReference)
    (c : Container) (image : String) : Prop :=
  h.isImageWhiteListed c.image = false ∧
    ∃ ref basicAuth policy sig,
      h.parseImage c.image = .ok ref ∧
      h.getBasicAuthForRegistry ref.host ns ps = .ok basicAuth ∧
      h.doesMatchPolicy ref.host ns = (true, policy) ∧ policy.registry ≠ "" ∧
      policy.signCheck = true ∧
      h.fetchSignature c.image basicAuth policy.notary = .ok (some sig) ∧
      (ref.digest = "" ∨ ref.digest = h.getDigest sig ref.tag) ∧
      image = h.refString { ref with digest := h.getDigest sig ref.tag }

variable {h : Validator} {ns : String} {ps : List LocalObjectReference}

/-- The loop body pins a container exactly when it takes the signature branch. -/
theorem checkContainer_eq_signed {c : Container} {image : String} :
    h.checkContainer ns ps c = .signed image ↔ h.PinnedBySignature ns ps c image := by
  constructor
  · intro hc
    simp only [Validator.checkContainer] at hc
    split at hc
    · cases hc
    rename_i hwl
    split at hc
    · cases hc
    rename_i ref href
    split at hc
    · cases hc
    rename_i basicAuth hauth
    rcases hpol : h.doesMatchPolicy ref.host ns with ⟨valid, policy⟩
    simp only [hpol] at hc
    cases valid
    · simp at hc
    cases hreg : policy.registry == ""
    rotate_left
    · simp [hreg] at hc
    cases hsign : policy.signCheck
    · simp [hreg, hsign] at hc
    cases hfetch : h.fetchSignature c.image basicAuth policy.notary with
    | error e => simp [hreg, hsign, hfetch] at hc
    | ok sig? =>
      obtain _ | sig := sig?
      · simp [hreg, hsign, hfetch] at hc
      by_cases hd : ref.digest = "" ∨ ref.digest = h.getDigest sig ref.tag
      · have hmis : (ref.digest != "" && ref.digest != h.getDigest sig ref.tag) = false := by
          rcases hd with hd | hd <;> simp [hd]
        simp only [hreg, hsign, hfetch, hmis, Bool.and_false, Bool.false_eq_true, if_false,
          if_true, Bool.not_true, Decision.signed.injEq] at hc
        exact ⟨by simpa using hwl, ref, basicAuth, policy, sig, href, hauth, hpol,
          by simpa using hreg, hsign, hfetch, hd, hc.symm⟩
      · have hmis : (ref.digest != "" && ref.digest != h.getDigest sig ref.tag) = true := by
          simpa [not_or] using hd
        simp [hreg, hsign, hfetch, hmis] at hc
  · rintro ⟨hwl, ref, basicAuth, policy, sig, href, hauth, hpol, hreg, hsign, hfetch, hdigest,
      rfl⟩
    rcases hdigest with hdigest | hdigest <;>
      simp [Validator.checkContainer, hwl, href, hauth, hpol, hreg, hsign, hfetch, hdigest]

end ImageValidatingWebhook.Pods
