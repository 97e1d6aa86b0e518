import ImageValidatingWebhook.Server.Docker

/-!
# ImageValidatingWebhook.Server.IsValid — the two versions of `DockerHandler.isValid`

The sources keep two versions of the legacy handler. In one (`Split`), `isValid` calls
`addDigestWhenImageValid(true)` for the init containers and, when they pass,
`addDigestWhenImageValid(false)` for the containers. In the other (`Inline`), `isValid` runs the
two loops itself, sharing one `isValid` flag, the second loop breaking at once when the flag is
already false. Both walk the pod's containers, skip whitelisted images, call `isSignedImage` on
the others, write the signed digest into the patch, and stop at the first image that is not
signed.

The loops are written over any whitelist test and any `isSignedImage` that threads a state `σ`
(for the handler, the commands issued; a panic is `none`), so what is proved of them holds for
every outcome `isSignedImage` may have, whatever it depends on. `pinUntilUnsigned` is the fold
the two versions are meant to compute, by recursion on the containers with no indices or flags.

* `digestLoop_eq`: the indexed loop with its `isValid` flag computes `pinUntilUnsigned`.
* `isValid_split_inline_agree`: both versions compute the fold over the init containers, then
  the containers.
* `isValid_invariant`: a property of the state that every call of `isSignedImage` on one of the
  pod's images keeps holds after `isValid`.
-/

namespace ImageValidatingWebhook.Server

section Loops

variable {σ : Type} (isImageInWhiteList : String → Bool)
  (isSignedImage : String → σ → Option (Bool × String) × σ)

/-- The body of `for i, container := range containers` in both versions: a whitelisted image
is skipped; otherwise `isValid = isValid && validation`, and the loop breaks with the image as
`name` when that is false, or writes `image@sha256:digest` into `patch[i]` and goes on. -/
def digestLoop (i : Nat) : List Container → Bool → String → List Container → σ →
    Option (Bool × String × List Container) × σ
  | [], isValid, name, patch, s => (some (isValid, name, patch), s)
  | container :: rest, isValid, name, patch, s =>
    if !isImageInWhiteList container.image then
      match isSignedImage container.image s with
      | (none, s) => (none, s)
      | (some (validation, digest), s) =>
        let isValid := isValid && validation
        if !isValid then (some (isValid, container.image, patch), s)
        else
          digestLoop (i + 1) rest isValid name
            (patch.set i ⟨container.image ++ "@sha256:" ++ digest⟩) s
    else digestLoop (i + 1) rest isValid name patch s

/-- The loop over the containers in the inline `isValid`: as `digestLoop`, but each iteration
first breaks when `isValid` is already false. -/
def guardedDigestLoop (i : Nat) : List Container → Bool → String → List Container → σ →
    Option (Bool × String × List Container) × σ
  | [], isValid, name, patch, s => (some (isValid, name, patch), s)
  | container :: rest, isValid, name, patch, s =>
    if !isValid then (some (isValid, name, patch), s)
    else if !isImageInWhiteList container.image then
      match isSignedImage container.image s with
      | (none, s) => (none, s)
      | (some (validation, digest), s) =>
        let isValid := isValid && validation
        if !isValid then (some (isValid, container.image, patch), s)
        else
          guardedDigestLoop (i + 1) rest isValid name
            (patch.set i ⟨container.image ++ "@sha256:" ++ digest⟩) s
    else guardedDigestLoop (i + 1) rest isValid name patch s

/-- `addDigestWhenImageValid(isInitContainer)` of the split version: the loop over the pod's
init containers or containers, writing the same list of the patch. -/
def Split.addDigestWhenImageValid (isInitContainer : Bool) (pod patch : Pod) (s : σ) :
    Option (Bool × String × Pod) × σ :=
  let containers := if isInitContainer then pod.initContainers else pod.containers
  let target := if isInitContainer then patch.initContainers else patch.containers
  match digestLoop isImageInWhiteList isSignedImage 0 containers true "" target s with
  | (none, s) => (none, s)
  | (some (isValid, name, target), s) =>
    (some (isValid, name,
      if isInitContainer then { patch with initContainers := target }
      else { patch with containers := target }), s)

/-- `isValid` of the split version. -/
def Split.isValid (pod patch : Pod) (s : σ) : Option (Bool × String × Pod) × σ :=
  match Split.addDigestWhenImageValid isImageInWhiteList isSignedImage true pod patch s with
  | (none, s) => (none, s)
  | (some (isValid, name, patch), s) =>
    if isValid then Split.addDigestWhenImageValid isImageInWhiteList isSignedImage false pod patch s
    else (some (isValid, name, patch), s)

/-- `isValid` of the inline version. -/
def Inline.isValid (pod patch : Pod) (s : σ) : Option (Bool × String × Pod) × σ :=
  match digestLoop isImageInWhiteList isSignedImage 0 pod.initContainers true ""
      patch.initContainers s with
  | (none, s) => (none, s)
  | (some (isValid, name, initContainers), s) =>
    let patch := { patch with initContainers }
    match guardedDigestLoop isImageInWhiteList isSignedImage 0 pod.containers isValid name
        patch.containers s with
    | (none, s) => (none, s)
    | (some (isValid, name, containers), s) => (some (isValid, name, { patch with containers }), s)

/-! ## The fold both versions compute -/

/-- Left to right over the containers: skip a whitelisted image, call `isSignedImage` on any
other, pin a signed one to `image@sha256:digest`, and stop at the first one that is not signed
with its image, leaving it and the rest as they are. -/
def pinUntilUnsigned : List Container → σ → Option (Option String × List Container) × σ
  | [], s => (some (none, []), s)
  | container :: rest, s =>
    if isImageInWhiteList container.image then
      let r := pinUntilUnsigned rest s
      (r.1.map fun (unsigned, cs) => (unsigned, container :: cs), r.2)
    else
      match isSignedImage container.image s with
      | (none, s) => (none, s)
      | (some (false, _), s) => (some (some container.image, container :: rest), s)
      | (some (true, digest), s) =>
        let r := pinUntilUnsigned rest s
        (r.1.map fun (unsigned, cs) =>
          (unsigned, ⟨container.image ++ "@sha256:" ++ digest⟩ :: cs), r.2)

/-- What `isValid` computes, as one fold: `addDigestWhenImageValid` over the init containers,
then, when no init container is unsigned, over the containers; `(false, image)` for the first
image `isSignedImage` calls unsigned, `(true, "")` when there is none, and the patch with the
containers checked before it pinned. -/
def specIsValid (pod : Pod) (s : σ) : Option (Bool × String × Pod) × σ :=
  match pinUntilUnsigned isImageInWhiteList isSignedImage pod.initContainers s with
  | (none, s) => (none, s)
  | (some (some image, initContainers), s) => (some (false, image, { pod with initContainers }), s)
  | (some (none, initContainers), s) =>
    match pinUntilUnsigned isImageInWhiteList isSignedImage pod.containers s with
    | (none, s) => (none, s)
    | (some (some image, containers), s) =>
      (some (false, image, { pod with initContainers, containers }), s)
    | (some (none, containers), s) => (some (true, "", { pod with initContainers, containers }), s)

/-! ## The loops compute the fold -/

theorem set_length_append {α : Type} (pre rest : List α) (c x : α) :
    (pre ++ c :: rest).set pre.length x = pre ++ [x] ++ rest := by
  simp [List.set_append_right]

/-- The loop started at index `pre.length` over the containers `cs` of a patch `pre ++ cs`
leaves the patch `pre` followed by the fold's list, with `(true, "")` when no image is unsigned
and `(false, image)` for the first that is. -/
theorem digestLoop_eq (pre cs : List Container) (s : σ) :
    digestLoop isImageInWhiteList isSignedImage pre.length cs true "" (pre ++ cs) s =
      ((pinUntilUnsigned isImageInWhiteList isSignedImage cs s).1.map
          fun (unsigned, L) => (unsigned.isNone, unsigned.getD "", pre ++ L),
        (pinUntilUnsigned isImageInWhiteList isSignedImage cs s).2) := by
  induction cs generalizing pre s with
  | nil => simp [digestLoop, pinUntilUnsigned]
  | cons c rest ih =>
    by_cases hw : isImageInWhiteList c.image
    · have hrest := ih (pre ++ [c]) s
      simp only [List.length_append, List.length_singleton, List.append_assoc,
        List.singleton_append] at hrest
      simp [digestLoop, pinUntilUnsigned, hw, hrest, Function.comp_def]
    · rcases hs : isSignedImage c.image s with ⟨_ | ⟨_ | _, digest⟩, s'⟩
      · simp [digestLoop, pinUntilUnsigned, hw, hs]
      · simp [digestLoop, pinUntilUnsigned, hw, hs]
      · have hrest := ih (pre ++ [⟨c.image ++ "@sha256:" ++ digest⟩]) s'
        simp only [List.length_append, List.length_singleton, List.append_assoc,
          List.singleton_append] at hrest
        simp [digestLoop, pinUntilUnsigned, hw, hs, set_length_append, hrest, Function.comp_def]

theorem digestLoop_zero (cs : List Container) (s : σ) :
    digestLoop isImageInWhiteList isSignedImage 0 cs true "" cs s =
      ((pinUntilUnsigned isImageInWhiteList isSignedImage cs s).1.map
          fun (unsigned, L) => (unsigned.isNone, unsigned.getD "", L),
        (pinUntilUnsigned isImageInWhiteList isSignedImage cs s).2) := by
  simpa using digestLoop_eq isImageInWhiteList isSignedImage [] cs s

/-- While `isValid` is true the guard of the inline loop never fires. -/
theorem guardedDigestLoop_true (i : Nat) (cs : List Container) (name : String)
    (patch : List Container) (s : σ) :
    guardedDigestLoop isImageInWhiteList isSignedImage i cs true name patch s =
      digestLoop isImageInWhiteList isSignedImage i cs true name patch s := by
  induction cs generalizing i patch s with
  | nil => rfl
  | cons c rest ih =>
    simp only [guardedDigestLoop, digestLoop, Bool.not_true, Bool.false_eq_true, if_false]
    split
    · split
      · rfl
      · split <;> simp_all
    · exact ih _ _ _

/-- Once `isValid` is false the inline loop breaks before its first container. -/
theorem guardedDigestLoop_false (i : Nat) (cs : List Container) (name : String)
    (patch : List Container) (s : σ) :
    guardedDigestLoop isImageInWhiteList isSignedImage i cs false name patch s =
      (some (false, name, patch), s) := by
  cases cs <;> rfl

/-! ## Both versions compute the fold -/

/-- The split version, from `patch := pod.DeepCopy()`, computes the fold. -/
theorem split_isValid_eq (pod : Pod) (s : σ) :
    Split.isValid isImageInWhiteList isSignedImage pod pod s =
      specIsValid isImageInWhiteList isSignedImage pod s := by
  simp only [Split.isValid, Split.addDigestWhenImageValid, if_true, Bool.false_eq_true, if_false,
    digestLoop_zero, specIsValid]
  rcases pinUntilUnsigned isImageInWhiteList isSignedImage pod.initContainers s with
    ⟨_ | ⟨_ | image, initContainers⟩, s⟩
  · rfl
  · simp only [Option.map_some', Option.isNone_none, if_true, digestLoop_zero]
    rcases pinUntilUnsigned isImageInWhiteList isSignedImage pod.containers s with
      ⟨_ | ⟨_ | image, containers⟩, s⟩ <;> rfl
  · rfl

/-- The inline version, from `patch := pod.DeepCopy()`, computes the fold. -/
theorem inline_isValid_eq (pod : Pod) (s : σ) :
    Inline.isValid isImageInWhiteList isSignedImage pod pod s =
      specIsValid isImageInWhiteList isSignedImage pod s := by
  simp only [Inline.isValid, digestLoop_zero, specIsValid]
  rcases pinUntilUnsigned isImageInWhiteList isSignedImage pod.initContainers s with
    ⟨_ | ⟨_ | image, initContainers⟩, s⟩
  · rfl
  · simp only [Option.map_some', Option.isNone_none, Option.getD_none, guardedDigestLoop_true,
      digestLoop_zero]
    rcases pinUntilUnsigned isImageInWhiteList isSignedImage pod.containers s with
      ⟨_ | ⟨_ | image, containers⟩, s⟩ <;> rfl
  · simp only [Option.map_some', Option.isNone_some, Option.getD_some, guardedDigestLoop_false]

/-- The two versions of `isValid`, started as `newDockerHandler` starts them (the patch a copy of
the pod), compute the same fold over the init containers and then the containers: the same
calls of `isSignedImage`, the same verdict and name, and the same patch. -/
theorem isValid_split_inline_agree (pod : Pod) (s : σ) :
    Split.isValid isImageInWhiteList isSignedImage pod pod s =
        specIsValid isImageInWhiteList isSignedImage pod s ∧
      Inline.isValid isImageInWhiteList isSignedImage pod pod s =
        specIsValid isImageInWhiteList isSignedImage pod s :=
  ⟨split_isValid_eq isImageInWhiteList isSignedImage pod s,
    inline_isValid_eq isImageInWhiteList isSignedImage pod s⟩

/-! ## What a run keeps -/

section Invariant

variable {P : σ → Prop}

theorem pinUntilUnsigned_invariant {cs : List Container}
    (hstep : ∀ c ∈ cs, ∀ s, P s → P (isSignedImage c.image s).2) {s : σ} (hs : P s) :
    P (pinUntilUnsigned isImageInWhiteList isSignedImage cs s).2 := by
  induction cs generalizing s with
  | nil => exact hs
  | cons c rest ih =>
    have hrest := @ih (fun c' hc' => hstep c' (List.mem_cons_of_mem c hc'))
    have hc := hstep c (List.mem_cons_self c rest) s hs
    simp only [pinUntilUnsigned]
    split
    · exact hrest hs
    · rcases hsig : isSignedImage c.image s with ⟨_ | ⟨_ | _, _⟩, s'⟩ <;> rw [hsig] at hc
      · exact hc
      · exact hc
      · exact hrest hc

/-- A property of the state that every call of `isSignedImage` on one of the pod's images keeps
holds after either version of `isValid`. -/
theorem isValid_invariant {pod : Pod} {s : σ}
    (hstep : ∀ c ∈ pod.initContainers ++ pod.containers, ∀ s, P s →
      P (isSignedImage c.image s).2)
    (hs : P s) :
    P (Split.isValid isImageInWhiteList isSignedImage pod pod s).2 ∧
      P (Inline.isValid isImageInWhiteList isSignedImage pod pod s).2 := by
  rw [split_isValid_eq, inline_isValid_eq, and_self, specIsValid]
  have hinit := pinUntilUnsigned_invariant isImageInWhiteList isSignedImage
    (fun c hc => hstep c (List.mem_append_left _ hc)) hs
  rcases hp : pinUntilUnsigned isImageInWhiteList isSignedImage pod.initContainers s with
    ⟨_ | ⟨_ | image, initContainers⟩, s'⟩ <;> rw [hp] at hinit
  · exact hinit
  · have hcs := pinUntilUnsigned_invariant isImageInWhiteList isSignedImage
      (fun c hc => hstep c (List.mem_append_right _ hc)) hinit
    dsimp only
    rcases hq : pinUntilUnsigned isImageInWhiteList isSignedImage pod.containers s' with
      ⟨_ | ⟨_ | image, containers⟩, s''⟩ <;> rw [hq] at hcs <;> exact hcs
  · exact hinit

end Invariant

end Loops

end ImageValidatingWebhook.Server
