import ImageValidatingWebhook.Pods.Validator

/-!
# ImageValidatingWebhook.Pods.PullSecrets — which pull secret `getBasicAuthForRegistry` answers with

`getBasicAuthForRegistry` asks the pod's pull secrets in order for the registry's basic auth;
an empty one goes on to the next secret, and anything else, an error included, ends the loop.

* `getBasicAuthForRegistry_eq_find`: the loop returns the first answer that is not empty.
* `getBasicAuthForRegistry_of_resolved`: when every secret is read without error, that is the
  first non-empty basic auth (`firstUsableBasicAuth`).
* `getBasicAuthForRegistry_missing_secret`: a secret the namespace lacks, before one with
  credentials, makes the pod fail, for an image no policy asks a signature of.
-/

namespace ImageValidatingWebhook.Pods

/-! ## The loop, one pull secret at a time -/

namespace Validator

variable (h : Validator) (host ns : String)

/-- The body of the loop of `getBasicAuthForRegistry` for one pull secret. -/
def pullSecretBasicAuth (pullSecret : LocalObjectReference) : Except GoError String :=
  match h.getSecret ns pullSecret.name with
  | .error err => .error ⟨"couldn't get secret named " ++ pullSecret.name ++ " by " ++ err.msg⟩
  | .ok secret =>
    match h.newImagePullSecret secret with
    | .error err => .error err
    | .ok imagePullSecret => imagePullSecret.getHostBasicAuth (findRegistryServer host)

/-- The loop goes on past an answer exactly when it is the empty basic auth (`continue`). -/
def continuesLoop : Except GoError String → Bool
  | .ok basicAuth => basicAuth == ""
  | .error _ => false

/-- One turn of the loop: an error returns, the empty basic auth goes on, any other returns. -/
theorem getBasicAuthForRegistry_cons (pullSecret : LocalObjectReference)
    (rest : List LocalObjectReference) :
    h.getBasicAuthForRegistry host ns (pullSecret :: rest) =
      match h.pullSecretBasicAuth host ns pullSecret with
      | .error err => .error err
      | .ok basicAuth =>
        if basicAuth = "" then h.getBasicAuthForRegistry host ns rest else .ok basicAuth := by
  rw [getBasicAuthForRegistry, pullSecretBasicAuth]
  rcases h.getSecret ns pullSecret.name with _ | secret
  · rfl
  rcases hn : h.newImagePullSecret secret with _ | imagePullSecret
  · simp only [hn]
  rcases hg : imagePullSecret.getHostBasicAuth (findRegistryServer host) with _ | _ <;>
    simp only [hn, hg]

/-- The loop returns the answer of the first pull secret it does not go past, or `""`. -/
theorem getBasicAuthForRegistry_eq_find (ps : List LocalObjectReference) :
    h.getBasicAuthForRegistry host ns ps =
      ((ps.map (h.pullSecretBasicAuth host ns)).find? (!continuesLoop ·)).getD (.ok "") := by
  induction ps with
  | nil => rfl
  | cons pullSecret rest ih =>
    rw [getBasicAuthForRegistry_cons, List.map_cons, List.find?_cons]
    rcases h.pullSecretBasicAuth host ns pullSecret with _ | basicAuth
    · rfl
    · by_cases hb : basicAuth = ""
      · simp [continuesLoop, hb, ih]
      · simp [continuesLoop, hb, beq_eq_false_iff_ne.2 hb]

end Validator

/-- No image needs a signature; the only secret is `regcred`, with a basic auth for Docker Hub. -/
def publicValidator : Validator where
  isNamespaceWhiteListed _ := false
  isImageWhiteListed _ := false
  parseImage image := .ok ⟨"docker.io", image, "latest", ""⟩
  getSecret ns name :=
    if name = "regcred" then .ok ⟨ns, name, [("auth", "dXNlcjpwYXNz")]⟩
    else .error ⟨"secrets " ++ name ++ " not found"⟩
  newImagePullSecret secret := .ok ⟨fun server =>
    .ok (if server = "https://registry-1.docker.io" then
      ((secret.data.find? (·.1 = "auth")).map Prod.snd).getD "" else "")⟩
  doesMatchPolicy _ _ := (true, ⟨"", "", false⟩)
  fetchSignature _ _ _ := .ok none
  getDigest _ _ := ""
  refString ref := ref.name

/-! ## The lookup the specification describes -/

namespace Validator

variable (h : Validator) (host ns : String)

/-- The lookup as the specification words it: the first non-empty basic auth of a secret that
can be read, skipping the others, and `""` when there is none. -/
def firstUsableBasicAuth (ps : List LocalObjectReference) : String :=
  (ps.findSome? fun pullSecret =>
    match h.pullSecretBasicAuth host ns pullSecret with
    | .ok basicAuth => if basicAuth = "" then none else some basicAuth
    | .error _ => none).getD ""

/-- When every pull secret is read without error, the loop is `firstUsableBasicAuth`. -/
theorem getBasicAuthForRegistry_of_resolved {ps : List LocalObjectReference}
    (hps : ∀ p ∈ ps, ∃ basicAuth, h.pullSecretBasicAuth host ns p = .ok basicAuth) :
    h.getBasicAuthForRegistry host ns ps = .ok (h.firstUsableBasicAuth host ns ps) := by
  induction ps with
  | nil => rfl
  | cons pullSecret rest ih =>
    obtain ⟨basicAuth, hb⟩ := hps pullSecret (List.mem_cons_self _ _)
    have hrest := ih fun p hp => hps p (List.mem_cons_of_mem _ hp)
    rw [getBasicAuthForRegistry_cons, firstUsableBasicAuth, List.findSome?_cons, hb]
    by_cases he : basicAuth = "" <;> simp [he, hrest, firstUsableBasicAuth]

end Validator

/-- `regcred` is read, and the loop returns its basic auth. -/
theorem getBasicAuthForRegistry_of_resolved_regcred :
    (∀ p ∈ [(⟨"regcred"⟩ : LocalObjectReference)], ∃ basicAuth,
        publicValidator.pullSecretBasicAuth "docker.io" "default" p = .ok basicAuth) ∧
      publicValidator.getBasicAuthForRegistry "docker.io" "default" [⟨"regcred"⟩] =
        .ok (publicValidator.firstUsableBasicAuth "docker.io" "default" [⟨"regcred"⟩]) :=
  have hres : ∀ p ∈ [(⟨"regcred"⟩ : LocalObjectReference)], ∃ basicAuth,
      publicValidator.pullSecretBasicAuth "docker.io" "default" p = .ok basicAuth :=
    fun p hp => ⟨"dXNlcjpwYXNz", by rw [List.mem_singleton.1 hp]; rfl⟩
  ⟨hres, Validator.getBasicAuthForRegistry_of_resolved _ _ _ hres⟩

/-- With `missing` before `regcred` the loop errs where `firstUsableBasicAuth` finds `regcred`,
and the pod fails; without `missing` it is admitted. -/
theorem getBasicAuthForRegistry_missing_secret :
    publicValidator.getBasicAuthForRegistry "docker.io" "default" [⟨"missing"⟩, ⟨"regcred"⟩] =
        .error ⟨"couldn't get secret named missing by secrets missing not found"⟩ ∧
      publicValidator.firstUsableBasicAuth "docker.io" "default" [⟨"missing"⟩, ⟨"regcred"⟩] =
        "dXNlcjpwYXNz" ∧
      publicValidator.checkIsValidAndAddDigest
          ⟨"default", [], [⟨"busybox"⟩], [⟨"missing"⟩, ⟨"regcred"⟩]⟩ =
        (.fail ⟨"couldn't get secret named missing by secrets missing not found"⟩,
          ⟨"default", [], [⟨"busybox"⟩], [⟨"missing"⟩, ⟨"regcred"⟩]⟩) ∧
      publicValidator.checkIsValidAndAddDigest ⟨"default", [], [⟨"busybox"⟩], [⟨"regcred"⟩]⟩ =
        (.accept, ⟨"default", [], [⟨"busybox"⟩], [⟨"regcred"⟩]⟩) :=
  ⟨rfl, rfl, rfl, rfl⟩

end ImageValidatingWebhook.Pods
