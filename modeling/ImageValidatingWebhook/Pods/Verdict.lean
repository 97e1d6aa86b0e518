import ImageValidatingWebhook.Pods.Validator

/-!
# ImageValidatingWebhook.Pods.Verdict — what `CheckIsValidAndAddDigest` decides and writes

The spec describes the pod verdict as the logical AND of the container verdicts, short-circuited
left to right over the init containers and then the containers (`Validator.specVerdict`). The
loop of `addDigestWhenImageValid` returns `(true, "", nil)` from inside its body at the first
container it accepts, so the containers after that one in the same list are never checked:

* `checkIsValidAndAddDigest_stops_at_first_accept`: a pod whose first container's registry asks
  for no signatures is admitted although its second container's registry has no policy.
* `checkIsValidAndAddDigest_admits_unsigned_tag`: a container whose repository has trust data but
  no released row for its tag is admitted through the signature branch, pinned to the digest
  `""` that `GetDigest` gives for a tag without a row.
* `checkIsValidAndAddDigest_accept_of_specVerdict`: the other way round, every pod the spec's
  verdict admits is admitted.
* `checkIsValidAndAddDigest_verdict`: the code's verdict exactly: that of the first init
  container whose image is not whitelisted when it rejects or fails, else that of the first such
  container (`Validator.firstVerdict`).
* `checkIsValidAndAddDigest_reject_reason`: every rejection reason is one of the loop's three
  messages, naming an image of the pod.
* `checkIsValidAndAddDigest_frame`: the pod changes only at the positions the run checks
  (`Validator.ChecksAt`: the first container of each list it reaches whose image is not
  whitelisted), where a check that takes the signature branch pins the image and any other keeps
  it; a pod in a whitelisted namespace does not change, and on a rejection or an error the
  container checked last and every container after it keep their images.
-/

namespace ImageValidatingWebhook.Pods

open Trust

/-! ## The verdict the spec describes -/

/-- The logical AND of the container verdicts, short-circuited left to right: the verdict of the
first container whose check rejects or fails, and `(true, "", nil)` when none does. -/
def Validator.andVerdicts (h : Validator) (ns : String) (ps : List LocalObjectReference) :
    List Container → Verdict
  | [] => .accept
  | c :: rest =>
    match h.checkContainer ns ps c with
    | .whiteListed | .accepted | .signed _ => h.andVerdicts ns ps rest
    | .rejected reason => .reject reason
    | .failed err => .fail err

/-- The pod verdict as the spec describes it: `(true, "", nil)` in a whitelisted namespace, and
otherwise the short-circuit AND over the init containers followed by the containers. -/
def Validator.specVerdict (h : Validator) (pod : Pod) : Verdict :=
  if h.isNamespaceWhiteListed pod.ns then .accept
  else h.andVerdicts pod.ns pod.imagePullSecrets (pod.initContainers ++ pod.containers)

/-- A validator for two registries: `mirror.example.com` has a security policy that asks for no
signatures, and `unknown.example.com` has none. -/
def mirrorValidator : Validator where
  isNamespaceWhiteListed _ := false
  isImageWhiteListed _ := false
  parseImage image :=
    if image = "mirror.example.com/app:v1" then .ok ⟨"mirror.example.com", "app", "v1", ""⟩
    else if image = "unknown.example.com/tool:v2" then
      .ok ⟨"unknown.example.com", "tool", "v2", ""⟩
    else .error ⟨"invalid reference format"⟩
  getSecret _ name := .error ⟨"secrets " ++ name ++ " not found"⟩
  newImagePullSecret _ := .error ⟨"no auths"⟩
  doesMatchPolicy host _ :=
    if host = "mirror.example.com" then (true, ⟨"mirror.example.com", "", false⟩)
    else (false, ⟨"", "", false⟩)
  fetchSignature _ _ _ := .ok none
  getDigest repo tag := repo.getDigest tag
  refString ref := ref.host ++ "/" ++ ref.name ++ ":" ++ ref.tag

/-- A pod whose first container comes from `mirror.example.com` and whose second comes from
`unknown.example.com` is admitted: the loop returns at the first container. The spec's verdict
rejects it for the second container's registry. -/
theorem checkIsValidAndAddDigest_stops_at_first_accept :
    (mirrorValidator.checkIsValidAndAddDigest
        ⟨"default", [], [⟨"mirror.example.com/app:v1"⟩, ⟨"unknown.example.com/tool:v2"⟩], []⟩).1 =
      .accept ∧
    mirrorValidator.specVerdict
        ⟨"default", [], [⟨"mirror.example.com/app:v1"⟩, ⟨"unknown.example.com/tool:v2"⟩], []⟩ =
      .reject ("Image 'unknown.example.com/tool:v2' does not meet registry security policy. " ++
        "Please check the RegistrySecurityPolicy") := by
  decide

/-- A validator for `registry.example.com`, whose policy asks for signatures; its notary has trust
data for `registry.example.com/app` with no released row (its tag `v2` is signed only by the
delegation `targets/alice`, which `matchReleasedSignatures` leaves out). -/
def signingValidator : Validator where
  isNamespaceWhiteListed _ := false
  isImageWhiteListed _ := false
  parseImage image :=
    if image = "registry.example.com/app:v2" then .ok ⟨"registry.example.com", "app", "v2", ""⟩
    else .error ⟨"invalid reference format"⟩
  getSecret _ name := .error ⟨"secrets " ++ name ++ " not found"⟩
  newImagePullSecret _ := .error ⟨"no auths"⟩
  doesMatchPolicy _ _ := (true, ⟨"registry.example.com", "https://notary.example.com", true⟩)
  fetchSignature _ _ _ := .ok (some ⟨"registry.example.com/app", [], [], []⟩)
  getDigest repo tag := repo.getDigest tag
  refString ref :=
    ref.host ++ "/" ++ ref.name ++ ":" ++ ref.tag ++
      if ref.digest = "" then "" else "@sha256:" ++ ref.digest

/-- The trust data of a tag signed only by a delegation has no signed-tag row, and the validator
admits the container through the signature branch with the empty digest `GetDigest` finds. -/
theorem checkIsValidAndAddDigest_admits_unsigned_tag :
    MatchReleasedSignatures [⟨"targets/alice", "v2", [0xcd]⟩] [] ∧
    signingValidator.checkContainer "default" [] ⟨"registry.example.com/app:v2"⟩ =
      .signed (signingValidator.refString ⟨"registry.example.com", "app", "v2", ""⟩) ∧
    signingValidator.checkIsValidAndAddDigest ⟨"default", [], [⟨"registry.example.com/app:v2"⟩], []⟩ =
      (.accept, ⟨"default", [], [⟨"registry.example.com/app:v2"⟩], []⟩) := by
  decide

/-! ## Every pod the spec admits is admitted -/

section Admits

variable {h : Validator} {ns : String} {ps : List LocalObjectReference}

/-- The short-circuit AND accepts exactly when every container's own verdict does. -/
theorem andVerdicts_eq_accept {L : List Container} :
    h.andVerdicts ns ps L = .accept ↔
      ∀ c ∈ L, (h.checkContainer ns ps c).verdict = .accept := by
  induction L with
  | nil => simp [Validator.andVerdicts]
  | cons c rest ih =>
    rw [List.forall_mem_cons, Validator.andVerdicts]
    cases h.checkContainer ns ps c
    case rejected reason => simp [Decision.verdict, Verdict.reject, Verdict.accept]
    case failed err => simp [Decision.verdict, Verdict.fail, Verdict.accept]
    all_goals exact ih.trans (and_iff_right rfl).symm

/-- A loop over containers whose own verdicts all accept accepts. -/
theorem addDigestWhenImageValid_accept {L : List Container}
    (hall : ∀ c ∈ L, (h.checkContainer ns ps c).verdict = .accept) :
    (h.addDigestWhenImageValid ns ps L).1 = .accept := by
  rcases addDigestWhenImageValid_spec L with ⟨-, hL⟩ | ⟨pre, c, post, rfl, -, -, hL⟩ <;>
    rw [hL]
  exact hall c (List.mem_append_right pre (List.mem_cons_self c post))

end Admits

/-- `CheckIsValidAndAddDigest` admits every pod the spec's verdict admits: it checks no more than
the spec does, so it can only be more permissive. -/
theorem checkIsValidAndAddDigest_accept_of_specVerdict (h : Validator) (pod : Pod)
    (hspec : h.specVerdict pod = .accept) : (h.checkIsValidAndAddDigest pod).1 = .accept := by
  by_cases hns : h.isNamespaceWhiteListed pod.ns
  · simp [Validator.checkIsValidAndAddDigest, hns]
  rw [Bool.not_eq_true] at hns
  simp only [Validator.specVerdict, hns, Bool.false_eq_true, if_false, andVerdicts_eq_accept,
    List.forall_mem_append] at hspec
  rw [checkIsValidAndAddDigest_of_not_whiteListed hns]
  simp only [addDigestWhenImageValid_accept hspec.1, addDigestWhenImageValid_accept hspec.2,
    Verdict.accept_isValid, if_true]

/-- The pod of `mirrorValidator` whose only container comes from `mirror.example.com` is admitted
by the spec's verdict, and so by the code's. -/
theorem checkIsValidAndAddDigest_accept_of_specVerdict_mirror :
    mirrorValidator.specVerdict ⟨"default", [], [⟨"mirror.example.com/app:v1"⟩], []⟩ = .accept ∧
      (mirrorValidator.checkIsValidAndAddDigest
        ⟨"default", [], [⟨"mirror.example.com/app:v1"⟩], []⟩).1 = .accept :=
  have hspec : mirrorValidator.specVerdict ⟨"default", [], [⟨"mirror.example.com/app:v1"⟩], []⟩ =
      .accept := by decide
  ⟨hspec, checkIsValidAndAddDigest_accept_of_specVerdict mirrorValidator _ hspec⟩

/-! ## The verdict the code computes -/

/-- The verdict `addDigestWhenImageValid` returns for a list: that of the first container whose
image is not whitelisted, and `(true, "", nil)` when there is none. -/
def Validator.firstVerdict (h : Validator) (ns : String) (ps : List LocalObjectReference)
    (L : List Container) : Verdict :=
  match (L.map (h.checkContainer ns ps)).find? (· != .whiteListed) with
  | some d => d.verdict
  | none => .accept

section First

variable {h : Validator} {ns : String} {ps : List LocalObjectReference}

/-- The loop's verdict is that of the first container it does not skip. -/
theorem addDigestWhenImageValid_verdict (L : List Container) :
    (h.addDigestWhenImageValid ns ps L).1 = h.firstVerdict ns ps L := by
  induction L with
  | nil => rfl
  | cons c rest ih =>
    by_cases hc : h.checkContainer ns ps c = .whiteListed
    · rw [addDigestWhenImageValid_cons_whiteListed rest hc, ih]
      simp [Validator.firstVerdict, hc]
    · rw [addDigestWhenImageValid_cons_of_ne rest hc]
      simp [Validator.firstVerdict, hc]

end First

/-- `CheckIsValidAndAddDigest` decides on at most two containers: in a namespace that is not
whitelisted, the first init container whose image is not whitelisted when its check rejects or
fails, and otherwise the first such container of the containers. -/
theorem checkIsValidAndAddDigest_verdict (h : Validator) (pod : Pod) :
    (h.checkIsValidAndAddDigest pod).1 =
      if h.isNamespaceWhiteListed pod.ns then .accept
      else if (h.firstVerdict pod.ns pod.imagePullSecrets pod.initContainers).isValid then
        h.firstVerdict pod.ns pod.imagePullSecrets pod.containers
      else h.firstVerdict pod.ns pod.imagePullSecrets pod.initContainers := by
  by_cases hns : h.isNamespaceWhiteListed pod.ns
  · simp [Validator.checkIsValidAndAddDigest, hns]
  rw [Bool.not_eq_true] at hns
  rw [checkIsValidAndAddDigest_of_not_whiteListed hns]
  simp only [hns, Bool.false_eq_true, if_false, addDigestWhenImageValid_verdict]
  split_ifs <;> rfl

/-! ## What the check changes -/

/-- The position of the first container of `L` whose image is not whitelisted: where the loop of
`addDigestWhenImageValid` returns. -/
def Validator.firstChecked (h : Validator) (L : List Container) : Option Nat :=
  L.findIdx? fun c => !h.isImageWhiteListed c.image

/-- `CheckIsValidAndAddDigest` runs the check of the container at position `k` of the init
containers followed by the containers: the first of each list it reaches whose image is not
whitelisted. -/
def Validator.ChecksAt (h : Validator) (pod : Pod) (k : Nat) : Prop :=
  h.isNamespaceWhiteListed pod.ns = false ∧
    (h.firstChecked pod.initContainers = some k ∨
      (h.firstVerdict pod.ns pod.imagePullSecrets pod.initContainers).isValid = true ∧
        (h.firstChecked pod.containers).map (pod.initContainers.length + ·) = some k)

instance (h : Validator) (pod : Pod) : DecidablePred (h.ChecksAt pod) := fun _ =>
  inferInstanceAs (Decidable (_ ∧ _))

/-- What `CheckIsValidAndAddDigest` may change in `pod` when it returns `result`, by position in
the init containers followed by the containers: only the images the run checks, each that takes
the signature branch set to its pinned image; an invalid verdict is that of a checked container,
which keeps its image with every container after it. -/
structure Validator.Frame (h : Validator) (pod : Pod) (result : Verdict × Pod) : Prop where
  ns : result.2.ns = pod.ns
  imagePullSecrets : result.2.imagePullSecrets = pod.imagePullSecrets
  length_initContainers : result.2.initContainers.length = pod.initContainers.length
  length_containers : result.2.containers.length = pod.containers.length
  kept : ∀ k c, (pod.initContainers ++ pod.containers)[k]? = some c →
    (result.2.initContainers ++ result.2.containers)[k]? = some c ∨
      h.ChecksAt pod k ∧ ∃ image, h.PinnedBySignature pod.ns pod.imagePullSecrets c image ∧
        (result.2.initContainers ++ result.2.containers)[k]? = some { c with image }
  pinned : ∀ k c image, (pod.initContainers ++ pod.containers)[k]? = some c → h.ChecksAt pod k →
    h.PinnedBySignature pod.ns pod.imagePullSecrets c image →
    (result.2.initContainers ++ result.2.containers)[k]? = some { c with image }
  whiteListed : h.isNamespaceWhiteListed pod.ns = true → result.2 = pod
  offending : result.1.isValid = false → ∃ k c, h.ChecksAt pod k ∧
    (pod.initContainers ++ pod.containers)[k]? = some c ∧
    (h.checkContainer pod.ns pod.imagePullSecrets c).verdict = result.1 ∧
    (result.2.initContainers ++ result.2.containers).drop k =
      (pod.initContainers ++ pod.containers).drop k

section Frame

variable {h : Validator} {ns : String} {ps : List LocalObjectReference}

theorem checkContainer_eq_whiteListed {c : Container} :
    h.checkContainer ns ps c = .whiteListed ↔ h.isImageWhiteListed c.image = true := by
  refine ⟨fun hc => ?_, fun hw => by simp [Validator.checkContainer, hw]⟩
  by_contra hw
  simp only [Validator.checkContainer, hw, Bool.false_eq_true, if_false] at hc
  repeat' split at hc
  all_goals cases hc

theorem firstChecked_lt {L : List Container} {k : Nat} (hk : h.firstChecked L = some k) :
    k < L.length :=
  (List.findIdx?_eq_some_iff_getElem.1 hk).1

theorem Decision.apply_of_invalid {d : Decision} (hd : d.verdict.isValid = false) (c : Container) :
    d.apply c = c := by
  cases d <;> simp_all [Decision.verdict, Decision.apply]

/-- The loop leaves every container as it was but the first one whose image is not whitelisted,
which its decision leaves as it says. -/
theorem addDigestWhenImageValid_getElem? (L : List Container) (k : Nat) :
    (h.addDigestWhenImageValid ns ps L).2[k]? = L[k]?.map fun c =>
      if h.firstChecked L = some k then (h.checkContainer ns ps c).apply c else c := by
  induction L generalizing k with
  | nil => rfl
  | cons c rest ih =>
    by_cases hw : h.isImageWhiteListed c.image
    · have hfirst : h.firstChecked (c :: rest) = (h.firstChecked rest).map (· + 1) := by
        simp [Validator.firstChecked, hw]
      rw [addDigestWhenImageValid_cons_whiteListed rest (checkContainer_eq_whiteListed.2 hw)]
      rcases k with _ | k
      · simp [hfirst]
      · simp [hfirst, ih k]
    · have hfirst : h.firstChecked (c :: rest) = some 0 := by simp [Validator.firstChecked, hw]
      rw [addDigestWhenImageValid_cons_of_ne rest (mt checkContainer_eq_whiteListed.1 hw)]
      rcases k with _ | k <;> simp [hfirst]

theorem length_addDigestWhenImageValid (L : List Container) :
    (h.addDigestWhenImageValid ns ps L).2.length = L.length :=
  (addDigestWhenImageValid_rewrites L).length_eq.symm

/-- An invalid verdict of the loop is the verdict of the first container whose image is not
whitelisted; that container and every one after it are untouched. -/
theorem addDigestWhenImageValid_offending {L : List Container}
    (hv : (h.addDigestWhenImageValid ns ps L).1.isValid = false) :
    ∃ k c, h.firstChecked L = some k ∧ L[k]? = some c ∧
      (h.checkContainer ns ps c).verdict = (h.addDigestWhenImageValid ns ps L).1 ∧
      (h.addDigestWhenImageValid ns ps L).2.drop k = L.drop k := by
  rcases addDigestWhenImageValid_spec L with ⟨-, hL⟩ | ⟨pre, c, post, rfl, hpre, hc, hL⟩ <;>
    rw [hL] at hv ⊢
  · cases hv
  · have hfirst : h.firstChecked (pre ++ c :: post) = some pre.length := by
      simp only [Validator.firstChecked, List.findIdx?_append]
      rw [List.findIdx?_eq_none_iff.2 fun c' hc' => by
        simpa using checkContainer_eq_whiteListed.1 (hpre c' hc')]
      simp [mt checkContainer_eq_whiteListed.2 hc]
    refine ⟨pre.length, c, hfirst, by rw [List.getElem?_append_right (Nat.le_refl _),
      Nat.sub_self, List.getElem?_cons_zero], rfl, ?_⟩
    simp [Decision.apply_of_invalid hv]

end Frame

/-- The pod `CheckIsValidAndAddDigest` leaves is the pod with new init containers and containers
of the same lengths, and the pod itself in a whitelisted namespace. -/
theorem checkIsValidAndAddDigest_pod (h : Validator) (pod : Pod) :
    ∃ inits cs,
      (h.checkIsValidAndAddDigest pod).2 =
        { pod with initContainers := inits, containers := cs } ∧
      inits.length = pod.initContainers.length ∧ cs.length = pod.containers.length ∧
      (h.isNamespaceWhiteListed pod.ns = true →
        inits = pod.initContainers ∧ cs = pod.containers) := by
  by_cases hns : h.isNamespaceWhiteListed pod.ns
  · exact ⟨_, _, by simp [Validator.checkIsValidAndAddDigest, hns], rfl, rfl,
      fun _ => ⟨rfl, rfl⟩⟩
  rw [Bool.not_eq_true] at hns
  rw [checkIsValidAndAddDigest_of_not_whiteListed hns]
  by_cases hi : (h.addDigestWhenImageValid pod.ns pod.imagePullSecrets pod.initContainers).1.isValid
  · simp only [hi, if_true]
    exact ⟨_, _, rfl, length_addDigestWhenImageValid _, length_addDigestWhenImageValid _,
      fun hw => absurd hw (by simp [hns])⟩
  · simp only [hi, Bool.false_eq_true, if_false]
    exact ⟨_, _, rfl, length_addDigestWhenImageValid _, rfl, fun hw => absurd hw (by simp [hns])⟩

section ChecksAt

variable {h : Validator} {pod : Pod} {k : Nat}

theorem checksAt_of_lt (hns : h.isNamespaceWhiteListed pod.ns = false)
    (hk : k < pod.initContainers.length) :
    h.ChecksAt pod k ↔ h.firstChecked pod.initContainers = some k := by
  simp only [Validator.ChecksAt, hns, true_and, or_iff_left_iff_imp, Option.map_eq_some']
  rintro ⟨-, j, -, rfl⟩
  omega

theorem checksAt_of_le (hns : h.isNamespaceWhiteListed pod.ns = false)
    (hk : pod.initContainers.length ≤ k) :
    h.ChecksAt pod k ↔
      (h.firstVerdict pod.ns pod.imagePullSecrets pod.initContainers).isValid = true ∧
        h.firstChecked pod.containers = some (k - pod.initContainers.length) := by
  have hinit : h.firstChecked pod.initContainers ≠ some k := fun hf => by
    have := firstChecked_lt hf
    omega
  simp only [Validator.ChecksAt, hns, true_and, hinit, false_or, Option.map_eq_some']
  exact and_congr_right fun _ => ⟨by rintro ⟨j, hj, rfl⟩; simpa using hj,
    fun hj => ⟨_, hj, by omega⟩⟩

end ChecksAt

/-- `CheckIsValidAndAddDigest` leaves every container of the init containers followed by the
containers as it was, but those at the positions it checks, which their decisions leave as they
say. -/
theorem checkIsValidAndAddDigest_getElem? (h : Validator) (pod : Pod) (k : Nat) :
    ((h.checkIsValidAndAddDigest pod).2.initContainers ++
        (h.checkIsValidAndAddDigest pod).2.containers)[k]? =
      (pod.initContainers ++ pod.containers)[k]?.map fun c =>
        if h.ChecksAt pod k then (h.checkContainer pod.ns pod.imagePullSecrets c).apply c else c := by
  by_cases hns : h.isNamespaceWhiteListed pod.ns
  · have hnot : ¬ h.ChecksAt pod k := fun hk => absurd hk.1 (by simp [hns])
    simp [Validator.checkIsValidAndAddDigest, hns, hnot]
  rw [Bool.not_eq_true] at hns
  have hlen := @length_addDigestWhenImageValid h pod.ns pod.imagePullSecrets pod.initContainers
  rw [checkIsValidAndAddDigest_of_not_whiteListed hns]
  by_cases hk : k < pod.initContainers.length
  · -- an init container
    simp only [checksAt_of_lt hns hk]
    by_cases hi : (h.addDigestWhenImageValid pod.ns pod.imagePullSecrets pod.initContainers).1.isValid <;>
      simp only [hi, if_true, Bool.false_eq_true, if_false] <;>
      rw [List.getElem?_append_left (hlen ▸ hk), List.getElem?_append_left hk,
        addDigestWhenImageValid_getElem?]
  · -- a container
    rw [Nat.not_lt] at hk
    simp only [checksAt_of_le hns hk, ← addDigestWhenImageValid_verdict]
    rw [List.getElem?_append_right hk]
    by_cases hi : (h.addDigestWhenImageValid pod.ns pod.imagePullSecrets pod.initContainers).1.isValid
    · simp only [hi, if_true, true_and]
      rw [List.getElem?_append_right (hlen ▸ hk), hlen, addDigestWhenImageValid_getElem?]
    · simp only [hi, Bool.false_eq_true, false_and, if_false, Option.map_id']
      rw [List.getElem?_append_right (hlen ▸ hk), hlen]

/-- An invalid verdict of `CheckIsValidAndAddDigest` is the verdict of a container the run checks:
the first init container whose image is not whitelisted, or, when the init containers pass, the
first such container of the containers; that container and every one after it keep their
images. -/
theorem checkIsValidAndAddDigest_offending (h : Validator) (pod : Pod)
    (hv : (h.checkIsValidAndAddDigest pod).1.isValid = false) :
    ∃ k c, h.ChecksAt pod k ∧ (pod.initContainers ++ pod.containers)[k]? = some c ∧
      (h.checkContainer pod.ns pod.imagePullSecrets c).verdict =
        (h.checkIsValidAndAddDigest pod).1 ∧
      ((h.checkIsValidAndAddDigest pod).2.initContainers ++
          (h.checkIsValidAndAddDigest pod).2.containers).drop k =
        (pod.initContainers ++ pod.containers).drop k := by
  by_cases hns : h.isNamespaceWhiteListed pod.ns
  · simp [Validator.checkIsValidAndAddDigest, hns] at hv
  rw [Bool.not_eq_true] at hns
  rw [checkIsValidAndAddDigest_of_not_whiteListed hns] at hv ⊢
  have hlen := @length_addDigestWhenImageValid h pod.ns pod.imagePullSecrets pod.initContainers
  by_cases hi : (h.addDigestWhenImageValid pod.ns pod.imagePullSecrets pod.initContainers).1.isValid
  · simp only [hi, if_true] at hv ⊢
    obtain ⟨k, c, hk, hc, hverdict, hdrop⟩ := addDigestWhenImageValid_offending hv
    refine ⟨pod.initContainers.length + k, c,
      ⟨hns, .inr ⟨by rwa [← addDigestWhenImageValid_verdict], by simp [hk]⟩⟩, ?_, hverdict, ?_⟩
    · rwa [List.getElem?_append_right (by omega), Nat.add_sub_cancel_left]
    · rw [List.drop_append, ← hlen, List.drop_append, hdrop]
  · simp only [hi, Bool.false_eq_true, if_false]
    obtain ⟨k, c, hk, hc, hverdict, hdrop⟩ :=
      addDigestWhenImageValid_offending (Bool.not_eq_true _ ▸ hi)
    have hk' : k < pod.initContainers.length := firstChecked_lt hk
    refine ⟨k, c, ⟨hns, .inl hk⟩, by rwa [List.getElem?_append_left hk'], hverdict, ?_⟩
    rw [List.drop_append_of_le_length (hlen ▸ hk'.le), List.drop_append_of_le_length hk'.le, hdrop]

/-- `CheckIsValidAndAddDigest` changes nothing in a pod but the images of the containers it checks
whose check takes the signature branch, each set to its reference with the signed digest; a pod
in a whitelisted namespace is unchanged, and on a rejection or an error the container it checked
last and every container after it keep their images. -/
theorem checkIsValidAndAddDigest_frame (h : Validator) (pod : Pod) :
    h.Frame pod (h.checkIsValidAndAddDigest pod) := by
  obtain ⟨inits, cs, hres, hinits, hcs, hwl⟩ := checkIsValidAndAddDigest_pod h pod
  have hat := checkIsValidAndAddDigest_getElem? h pod
  refine ⟨by rw [hres], by rw [hres], by rw [hres]; exact hinits, by rw [hres]; exact hcs,
    fun k c hc => ?_, fun k c image hc hk hpin => ?_, fun hw => ?_,
    checkIsValidAndAddDigest_offending h pod⟩
  · rw [hat, hc, Option.map_some']
    split_ifs with hk
    · rcases hd : h.checkContainer pod.ns pod.imagePullSecrets c with _ | _ | image | _ | _ <;>
        simp only [Decision.apply, true_or]
      exact .inr ⟨hk, image, checkContainer_eq_signed.1 hd, rfl⟩
    · exact .inl rfl
  · rw [hat, hc, Option.map_some', if_pos hk, checkContainer_eq_signed.2 hpin]
    rfl
  · obtain ⟨rfl, rfl⟩ := hwl hw
    exact hres

/-- `signingValidator` with a notary that has released `v2` of `registry.example.com/app` with the
digest `ab`. -/
def pinningValidator : Validator :=
  { signingValidator with
    fetchSignature := fun _ _ _ =>
      .ok (some ⟨"registry.example.com/app", [⟨⟨"v2", "ab"⟩, [releasedRoleName]⟩], [], []⟩) }

/-- The only container of a pod of `pinningValidator` is checked, takes the signature branch, and
is pinned to `ab`. -/
theorem checkIsValidAndAddDigest_frame_pinned :
    pinningValidator.ChecksAt ⟨"default", [], [⟨"registry.example.com/app:v2"⟩], []⟩ 0 ∧
      pinningValidator.PinnedBySignature "default" [] ⟨"registry.example.com/app:v2"⟩
        "registry.example.com/app:v2@sha256:ab" ∧
      ((pinningValidator.checkIsValidAndAddDigest
            ⟨"default", [], [⟨"registry.example.com/app:v2"⟩], []⟩).2.initContainers ++
          (pinningValidator.checkIsValidAndAddDigest
            ⟨"default", [], [⟨"registry.example.com/app:v2"⟩], []⟩).2.containers)[0]? =
        some ⟨"registry.example.com/app:v2@sha256:ab"⟩ :=
  have hk : pinningValidator.ChecksAt ⟨"default", [], [⟨"registry.example.com/app:v2"⟩], []⟩ 0 := by
    decide
  have hpin : pinningValidator.PinnedBySignature "default" [] ⟨"registry.example.com/app:v2"⟩
      "registry.example.com/app:v2@sha256:ab" := checkContainer_eq_signed.1 (by decide)
  ⟨hk, hpin, (checkIsValidAndAddDigest_frame pinningValidator _).pinned 0 _ _ rfl hk hpin⟩

/-! ## What a rejection says -/

section Reasons

variable {h : Validator} {ns : String} {ps : List LocalObjectReference}

theorem Decision.eq_rejected_of_verdict {d : Decision} {reason : String}
    (hd : d.verdict = .reject reason) : d = .rejected reason := by
  cases d <;> simp_all [Decision.verdict, Verdict.reject, Verdict.accept, Verdict.fail]

/-- The loop body rejects a container only with one of its three messages, each naming the
container's image. -/
theorem checkContainer_rejected {c : Container} {reason : String}
    (hc : h.checkContainer ns ps c = .rejected reason) :
    reason = "Image '" ++ c.image ++ "' is not signed" ∨
      reason = "Image '" ++ c.image ++ "''s digest is different from the signed digest" ∨
      reason = "Image '" ++ c.image ++
        "' does not meet registry security policy. Please check the RegistrySecurityPolicy" := by
  simp only [Validator.checkContainer] at hc
  repeat' split at hc
  all_goals cases hc
  · exact .inl rfl
  · exact .inr (.inl rfl)
  · exact .inr (.inr rfl)

end Reasons

/-- Every reason `CheckIsValidAndAddDigest` rejects a pod with is one of the three messages of the
loop, naming an image of the pod. -/
theorem checkIsValidAndAddDigest_reject_reason (h : Validator) (pod : Pod) {reason : String}
    (hrej : (h.checkIsValidAndAddDigest pod).1 = .reject reason) :
    ∃ c ∈ pod.initContainers ++ pod.containers,
      reason = "Image '" ++ c.image ++ "' is not signed" ∨
      reason = "Image '" ++ c.image ++ "''s digest is different from the signed digest" ∨
      reason = "Image '" ++ c.image ++
        "' does not meet registry security policy. Please check the RegistrySecurityPolicy" := by
  obtain ⟨k, c, -, hc, hverdict, -⟩ := checkIsValidAndAddDigest_offending h pod (by rw [hrej]; rfl)
  rw [hrej] at hverdict
  exact ⟨c, List.mem_iff_getElem?.2 ⟨k, hc⟩,
    checkContainer_rejected (Decision.eq_rejected_of_verdict hverdict)⟩

/-- A pod whose only image comes from a registry with no security policy is rejected with the
policy message naming that image. -/
theorem checkIsValidAndAddDigest_reject_reason_unknown :
    (mirrorValidator.checkIsValidAndAddDigest
        ⟨"default", [], [⟨"unknown.example.com/tool:v2"⟩], []⟩).1 =
      .reject ("Image 'unknown.example.com/tool:v2' does not meet registry security policy. " ++
        "Please check the RegistrySecurityPolicy") ∧
    ∃ c ∈ ([] ++ [⟨"unknown.example.com/tool:v2"⟩] : List Container),
      "Image 'unknown.example.com/tool:v2' does not meet registry security policy. " ++
          "Please check the RegistrySecurityPolicy" = "Image '" ++ c.image ++ "' is not signed" ∨
      "Image 'unknown.example.com/tool:v2' does not meet registry security policy. " ++
          "Please check the RegistrySecurityPolicy" =
        "Image '" ++ c.image ++ "''s digest is different from the signed digest" ∨
      "Image 'unknown.example.com/tool:v2' does not meet registry security policy. " ++
          "Please check the RegistrySecurityPolicy" = "Image '" ++ c.image ++
        "' does not meet registry security policy. Please check the RegistrySecurityPolicy" :=
  have hrej : (mirrorValidator.checkIsValidAndAddDigest
      ⟨"default", [], [⟨"unknown.example.com/tool:v2"⟩], []⟩).1 =
        .reject ("Image 'unknown.example.com/tool:v2' does not meet registry security policy. " ++
          "Please check the RegistrySecurityPolicy") := by decide
  ⟨hrej, checkIsValidAndAddDigest_reject_reason mirrorValidator _ hrej⟩

end ImageValidatingWebhook.Pods
