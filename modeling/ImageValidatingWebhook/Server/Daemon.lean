import ImageValidatingWebhook.Server.Admitted

/-!
# ImageValidatingWebhook.Server.Daemon — what the legacy handler asks the daemon

The legacy handler learns about signatures only through the command lines it runs in the
daemon's pod, and each of them may change what a later one sees (a `docker login` does). This
module says which lines a run of `isValid` issues, in order: nothing for a whitelisted image,
and for every other image it checks the `docker login`s `makeCommand` runs for its registry,
with the `ID` and `PASSWD` of a secret named like one of the pod's pull secrets and only when the
registry has a notary of its own, followed by one `docker trust inspect` line for it.

* `makeCommand_logins`: `makeCommand` adds only logins, and its inspect line does not depend on
  the commands issued before.
* `pinUntilUnsigned_calls_none`, `pinUntilUnsigned_calls_some`: the fold calls `isSignedImage`
  once for each image that is not whitelisted, left to right, up to the first one it calls
  unsigned.
* `isValid_daemon_commands`: a run of either version of `isValid` that returns issues, after the
  commands issued before, the logins and the inspect line of each image it checks, in the order
  of the init containers and then the containers: every one of them when it admits the pod, and
  up to the image it names when it rejects.
-/

namespace ImageValidatingWebhook.Server

/-! ## The calls of a fold -/

section Fold

variable {σ : Type} (isImageInWhiteList : String → Bool)
  (isSignedImage : String → σ → Option (Bool × String) × σ)

/-- The calls a run over the containers `cs` makes, from the state `s` to the state `s'`: none for
a whitelisted image, and one `call` (a step from one state to the next) for each other image,
left to right. -/
inductive Calls (call : String → σ → σ → Prop) : List Container → σ → σ → Prop where
  | nil (s : σ) : Calls call [] s s
  | skip {c : Container} {cs : List Container} {s s' : σ} :
      isImageInWhiteList c.image = true → Calls call cs s s' → Calls call (c :: cs) s s'
  | step {c : Container} {cs : List Container} {s s₁ s' : σ} :
      isImageInWhiteList c.image = false → call c.image s s₁ → Calls call cs s₁ s' →
        Calls call (c :: cs) s s'

variable {isImageInWhiteList} {call : String → σ → σ → Prop}

theorem Calls.append {xs ys : List Container} {s s₁ s₂ : σ}
    (hxs : Calls isImageInWhiteList call xs s s₁) (hys : Calls isImageInWhiteList call ys s₁ s₂) :
    Calls isImageInWhiteList call (xs ++ ys) s s₂ := by
  induction hxs with
  | nil => exact hys
  | skip hw _ ih => exact .skip hw (ih hys)
  | step hw hc _ ih => exact .step hw hc (ih hys)

variable (isImageInWhiteList)

/-- A fold that finds no unsigned image calls `isSignedImage` once for every image that is not
whitelisted, left to right. -/
theorem pinUntilUnsigned_calls_none (hcall : ∀ image s, call image s (isSignedImage image s).2)
    {cs L : List Container} {s s' : σ}
    (h : pinUntilUnsigned isImageInWhiteList isSignedImage cs s = (some (none, L), s')) :
    Calls isImageInWhiteList call cs s s' := by
  induction cs generalizing L s with
  | nil =>
    cases h
    exact .nil _
  | cons c rest ih =>
    simp only [pinUntilUnsigned] at h
    by_cases hw : isImageInWhiteList c.image
    · simp only [hw, if_true, Prod.mk.injEq] at h
      obtain ⟨L', hr, -⟩ := eq_of_map_cons_eq_some h.1
      exact .skip hw (ih (Prod.ext hr h.2))
    · rw [Bool.not_eq_true] at hw
      have hc := hcall c.image s
      rcases hs : isSignedImage c.image s with ⟨_ | ⟨_ | _, digest⟩, s₁⟩ <;>
        simp only [hw, hs, Bool.false_eq_true, if_false, Prod.mk.injEq, reduceCtorEq,
          Option.some.injEq, false_and] at h hc
      obtain ⟨L', hr, -⟩ := eq_of_map_cons_eq_some h.1
      exact .step hw hc (ih (Prod.ext hr h.2))

/-- A fold that stops at an unsigned image has called `isSignedImage` once for every image that is
not whitelisted up to that one, left to right, and for none after it. -/
theorem pinUntilUnsigned_calls_some (hcall : ∀ image s, call image s (isSignedImage image s).2)
    {cs L : List Container} {s s' : σ} {image : String}
    (h : pinUntilUnsigned isImageInWhiteList isSignedImage cs s = (some (some image, L), s')) :
    ∃ pre c post, cs = pre ++ c :: post ∧ c.image = image ∧
      Calls isImageInWhiteList call (pre ++ [c]) s s' := by
  induction cs generalizing L s with
  | nil => cases h
  | cons c rest ih =>
    simp only [pinUntilUnsigned] at h
    by_cases hw : isImageInWhiteList c.image
    · simp only [hw, if_true, Prod.mk.injEq] at h
      obtain ⟨L', hr, -⟩ := eq_of_map_cons_eq_some h.1
      obtain ⟨pre, c', post, rfl, himage, hcalls⟩ := ih (Prod.ext hr h.2)
      exact ⟨c :: pre, c', post, rfl, himage, .skip hw hcalls⟩
    · rw [Bool.not_eq_true] at hw
      have hc := hcall c.image s
      rcases hs : isSignedImage c.image s with ⟨_ | ⟨_ | _, digest⟩, s₁⟩ <;>
        simp only [hw, hs, Bool.false_eq_true, if_false, Prod.mk.injEq, reduceCtorEq,
          Option.some.injEq, false_and] at h hc
      · obtain ⟨⟨rfl, -⟩, rfl⟩ := h
        exact ⟨[], c, rest, rfl, rfl, .step hw hc (.nil _)⟩
      · obtain ⟨L', hr, -⟩ := eq_of_map_cons_eq_some h.1
        obtain ⟨pre, c', post, rfl, himage, hcalls⟩ := ih (Prod.ext hr h.2)
        exact ⟨c :: pre, c', post, rfl, himage, .step hw hc hcalls⟩

end Fold

/-! ## One check -/

namespace DockerHandler

variable (h : DockerHandler)

/-- The `docker trust inspect` line `makeCommand` makes for an image. -/
def inspectLine (imageInfo : ImageInfo) : Command :=
  (h.makeCommand imageInfo []).1

/-- `makeCommand` makes the same inspect line whatever was issued before, and adds only
`docker login`s with the credentials of a secret named like one of the pod's pull secrets, and
none unless the registry has a notary of its own. -/
theorem makeCommand_logins (imageInfo : ImageInfo) (log : List Command) :
    (h.makeCommand imageInfo log).1 = h.inspectLine imageInfo ∧
      ∃ logins, (h.makeCommand imageInfo log).2 = log ++ logins ∧
        (∀ cmd ∈ logins, h.IsLoginWith imageInfo.registry h.pod.imagePullSecrets cmd) ∧
        (logins = [] ∨ h.findNotaryServer imageInfo.registry ∉ ["docker.io", "docker-hub"]) := by
  simp only [inspectLine, makeCommand]
  split_ifs with hio hhub
  · exact ⟨rfl, [], (List.append_nil log).symm, by simp, .inl rfl⟩
  · exact ⟨rfl, [], (List.append_nil log).symm, by simp, .inl rfl⟩
  · refine ⟨rfl, ?_⟩
    obtain ⟨logins, hlog, hall⟩ : ∃ logins, (h.loginToRegistry imageInfo.registry log).2 =
        log ++ logins ∧ ∀ cmd ∈ logins,
          h.IsLoginWith imageInfo.registry h.pod.imagePullSecrets cmd := by
      unfold loginToRegistry
      split_ifs
      · exact ⟨[], (List.append_nil log).symm, by simp⟩
      · exact h.loginLoop_commands _ _ log
    exact ⟨logins, hlog, hall, .inr (by simp [hio, hhub])⟩

/-- What the handler issues to check `image`: the logins `makeCommand` runs, each with the
credentials of a secret named like one of the pod's pull secrets and only when the registry has
a notary of its own, then the `docker trust inspect` line for the image. -/
def ChecksImage (image : String) (log log' : List Command) : Prop :=
  ∃ logins, log' = log ++ logins ++ [h.inspectLine (getImageInfo image)] ∧
    (∀ cmd ∈ logins, h.IsLoginWith (getImageInfo image).registry h.pod.imagePullSecrets cmd) ∧
    (logins = [] ∨ h.findNotaryServer (getImageInfo image).registry ∉ ["docker.io", "docker-hub"])

/-- Every call of `isSignedImage` issues what `ChecksImage` allows. -/
theorem checksImage_isSignedImage (image : String) (log : List Command) :
    h.ChecksImage image log (h.isSignedImage image log).2 := by
  obtain ⟨hline, logins, hlog, hall, hnotary⟩ := h.makeCommand_logins (getImageInfo image) log
  exact ⟨logins, by rw [isSignedImage_log, hlog, hline], hall, hnotary⟩

end DockerHandler

/-! ## A run of `isValid` -/

/-- A run of either version of `isValid` that returns issues, after the commands issued before,
the logins and the inspect line of each image it checks, and nothing for a whitelisted image: it
checks every image of the init containers and then the containers when it admits the pod, and
those up to the image it names when it rejects. -/
theorem isValid_daemon_commands (h : DockerHandler) (log : List Command) {valid : Bool}
    {name : String} {patch : Pod} {log' : List Command}
    (hrun : Split.isValid h.isImageInWhiteList h.isSignedImage h.pod h.pod log =
        (some (valid, name, patch), log') ∨
      Inline.isValid h.isImageInWhiteList h.isSignedImage h.pod h.pod log =
        (some (valid, name, patch), log')) :
    ∃ checked rest, h.pod.initContainers ++ h.pod.containers = checked ++ rest ∧
      Calls h.isImageInWhiteList h.ChecksImage checked log log' ∧
      (valid = true → rest = []) ∧
      (valid = false → ∃ pre c, checked = pre ++ [c] ∧ name = c.image) := by
  rw [split_isValid_eq, inline_isValid_eq, or_self, specIsValid] at hrun
  have hcall := h.checksImage_isSignedImage
  rcases hi : pinUntilUnsigned h.isImageInWhiteList h.isSignedImage h.pod.initContainers log with
    ⟨_ | ⟨_ | image, inits⟩, log₁⟩ <;> simp only [hi] at hrun
  · cases hrun
  · -- every init container passed: the containers decide
    have hinits := pinUntilUnsigned_calls_none _ _ hcall hi
    rcases hc : pinUntilUnsigned h.isImageInWhiteList h.isSignedImage h.pod.containers log₁ with
      ⟨_ | ⟨_ | image, cs⟩, log₂⟩ <;>
      simp only [hc, Prod.mk.injEq, Option.some.injEq, reduceCtorEq, false_and] at hrun
    · obtain ⟨⟨rfl, rfl, -⟩, rfl⟩ := hrun
      exact ⟨_, [], (List.append_nil _).symm,
        hinits.append (pinUntilUnsigned_calls_none _ _ hcall hc), fun _ => rfl, nofun⟩
    · obtain ⟨⟨rfl, rfl, -⟩, rfl⟩ := hrun
      obtain ⟨pre, c, post, hsplit, rfl, hcalls⟩ := pinUntilUnsigned_calls_some _ _ hcall hc
      exact ⟨h.pod.initContainers ++ (pre ++ [c]), post, by simp [hsplit],
        hinits.append hcalls, nofun, fun _ => ⟨h.pod.initContainers ++ pre, c, by simp, rfl⟩⟩
  · -- an init container is unsigned: the containers are not looked at
    simp only [Prod.mk.injEq, Option.some.injEq] at hrun
    obtain ⟨⟨rfl, rfl, -⟩, rfl⟩ := hrun
    obtain ⟨pre, c, post, hsplit, rfl, hcalls⟩ := pinUntilUnsigned_calls_some _ _ hcall hi
    exact ⟨pre ++ [c], post ++ h.pod.containers, by simp [hsplit], hcalls, nofun,
      fun _ => ⟨pre, c, rfl, rfl⟩⟩

/-- `tenantHandler`'s pod is rejected after one login with `regcred`'s credentials, since its
registry has a notary of its own, and one inspect line for its only image. -/
theorem isValid_daemon_commands_tenant :
    Split.isValid tenantHandler.isImageInWhiteList tenantHandler.isSignedImage tenantHandler.pod
        tenantHandler.pod [] =
      (some (false, "private.example.com/app:v1", tenantHandler.pod),
        [.login "private.example.com" "alice" "s3cret",
          .inspect "https://notary.private.example.com" "private.example.com" "app" "v1"]) ∧
    ∃ checked rest, tenantHandler.pod.initContainers ++ tenantHandler.pod.containers =
        checked ++ rest ∧
      Calls tenantHandler.isImageInWhiteList tenantHandler.ChecksImage checked []
        [.login "private.example.com" "alice" "s3cret",
          .inspect "https://notary.private.example.com" "private.example.com" "app" "v1"] ∧
      (false = true → rest = []) ∧
      (false = false → ∃ pre c, checked = pre ++ [c] ∧ "private.example.com/app:v1" = c.image) :=
  have hrun : Split.isValid tenantHandler.isImageInWhiteList tenantHandler.isSignedImage
      tenantHandler.pod tenantHandler.pod [] =
        (some (false, "private.example.com/app:v1", tenantHandler.pod),
          [.login "private.example.com" "alice" "s3cret",
            .inspect "https://notary.private.example.com" "private.example.com" "app" "v1"]) := by
    decide
  ⟨hrun, isValid_daemon_commands tenantHandler [] (.inl hrun)⟩

end ImageValidatingWebhook.Server
