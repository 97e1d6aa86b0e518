import ImageValidatingWebhook.Basic

/-!
# ImageValidatingWebhook.Server.Docker — the legacy `DockerHandler`

The legacy `DockerHandler` runs `docker trust inspect` in a docker-in-docker pod, logging in to
the registry first with the pod's pull secrets. The cluster and the daemon are fields of
`DockerHandler`; the daemon answers a command line given the lines it has run before, and the
handler threads the `Command`s it has issued. A `log.Panicf` or an index out of range is `none`.

* `loginToRegistry_reads_other_namespace`: a pull secret the pod's namespace lacks is read from
  another namespace.
* `isSignedImage_last_matching_row`: the digest is that of the last row for the tag.
* `loginLoop_commands`: the login loop only logs in with credentials of the pod's pull secrets.
* `isSignedImage_log`: `isSignedImage` issues `makeCommand`'s commands and its inspect line.
-/

namespace ImageValidatingWebhook.Server

/-! ## Images -/

/-- `ImageInfo`. -/
structure ImageInfo where
  registry : String
  name : String
  tag : String
deriving DecidableEq, Repr

/-- `getImageInfo`; a name holding a `:` splits in at least two pieces, so `temp[1]` is in
range. -/
def getImageInfo (image : String) : ImageInfo :=
  let (host, name) :=
    if Go.contains image "/" then
      let idx := (Go.lastIndex image '/').toNat
      ((⟨image.data.take idx⟩ : String), (⟨image.data.drop (idx + 1)⟩ : String))
    else ("docker.io", image)
  let (name, tag) :=
    if Go.contains name ":" then
      let temp := Go.split name ':'
      (temp.getD 0 "", temp.getD 1 "")
    else (name, "latest")
  ⟨host, name, tag⟩

example : getImageInfo "registry.example.com:5000/team/app:v1" =
    ⟨"registry.example.com:5000/team", "app", "v1"⟩ := by decide

example : getImageInfo "busybox" = ⟨"docker.io", "busybox", "latest"⟩ := by decide

/-- `WhiteList`: the images and namespaces the handler lets through unchecked. -/
structure WhiteList where
  byImages : List String
  byNamespaces : List String
deriving DecidableEq, Repr

/-- `regv1.Registry`, by the status fields `findNotaryServer` reads. -/
structure Registry where
  serverURL : String
  notaryURL : String
deriving DecidableEq, Repr

/-- `whv1.SignerPolicy`, by the signer names of its spec. -/
structure SignerPolicy where
  signers : List String
deriving DecidableEq, Repr

/-- `regv1.SignerKey`, by the IDs of its target keys. -/
structure SignerKey where
  targets : List String
deriving DecidableEq, Repr

/-- A row of `SignedTags` in what `docker trust inspect` prints. -/
structure SignedTagRow where
  signedTag : String
  digest : String
deriving DecidableEq, Repr

/-- `Signature` (not among the sources), by its `SignedTags` and `getRepoAdminKey`. -/
structure Signature where
  signedTags : List SignedTagRow
  repoAdminKey : String
deriving DecidableEq, Repr

/-- `ExecResult`, by its `OutBuffer`: what the command printed on standard output. -/
structure ExecResult where
  out : String
deriving DecidableEq, Repr

/-! ## Commands -/

/-- A command line the handler runs: its `fmt.Sprintf` format and arguments. -/
inductive Command where
  /-- `unset DOCKER_CONTENT_TRUST_SERVER; docker trust inspect %s:%s`. -/
  | inspectDockerIo (name tag : String)
  /-- `unset DOCKER_CONTENT_TRUST_SERVER; docker trust inspect %s/%s:%s`. -/
  | inspectDockerHub (registry name tag : String)
  /-- `export DOCKER_CONTENT_TRUST_SERVER=%s; docker trust inspect %s/%s:%s`. -/
  | inspect (notaryServer registry name tag : String)
  /-- `docker login %s -u %s -p %s`. -/
  | login (registry id pw : String)
deriving DecidableEq, Repr

/-- The command line `fmt.Sprintf` writes. -/
def Command.render : Command → String
  | .inspectDockerIo name tag =>
    "unset DOCKER_CONTENT_TRUST_SERVER; docker trust inspect " ++ name ++ ":" ++ tag
  | .inspectDockerHub registry name tag =>
    "unset DOCKER_CONTENT_TRUST_SERVER; docker trust inspect " ++ registry ++ "/" ++ name ++ ":" ++
      tag
  | .inspect notaryServer registry name tag =>
    "export DOCKER_CONTENT_TRUST_SERVER=" ++ notaryServer ++ "; docker trust inspect " ++
      registry ++ "/" ++ name ++ ":" ++ tag
  | .login registry id pw => "docker login " ++ registry ++ " -u " ++ id ++ " -p " ++ pw

/-! ## The handler -/

/-- `DockerHandler`, with the cluster and the daemon; `isValid` threads its `patch`. -/
structure DockerHandler where
  whiteList : WhiteList
  pod : Pod
  signerPolicies : List SignerPolicy
  /-- `client.CoreV1().Secrets("").List`: the secrets of every namespace. -/
  listSecrets : Except GoError (List Secret)
  /-- `getRegistries().Items` (none when the list call fails). -/
  registries : List Registry
  /-- The signer key `GET signerkeys/<name>` fills in (empty when the call fails). -/
  getSignerKey : String → SignerKey
  /-- `k8s.ExecCmd` in the daemon's pod, given the command lines run before. -/
  execCmd : List String → String → ExecResult × Option GoError
  /-- `getSignatures` (not among the sources): the output of `docker trust inspect`, parsed. -/
  getSignatures : String → Except GoError (List Signature)

namespace DockerHandler

variable (h : DockerHandler)

/-- `execToDockerDaemon`: runs the command line and adds the command to those issued. -/
def execToDockerDaemon (command : Command) (log : List Command) :
    (ExecResult × Option GoError) × List Command :=
  (h.execCmd (log.map Command.render) command.render, log ++ [command])

/-- `getSecret`: the first secret named `secretName` among the secrets of every namespace. -/
def getSecret (secretName : String) : Except GoError Secret :=
  match h.listSecrets with
  | .error err => .error err
  | .ok allSecrets =>
    match allSecrets.find? (fun secret => secret.name = secretName) with
    | some secret => .ok secret
    | none => .error ⟨"There's no secret named " ++ secretName⟩

/-- The loop of `loginToRegistry` over the pod's pull secrets. -/
def loginLoop (registry : String) :
    List LocalObjectReference → List Command → Option GoError × List Command
  | [], log => (some ⟨"There's no pullSecret to login to registry named " ++ registry⟩, log)
  | pullSecret :: rest, log =>
    match h.getSecret pullSecret.name with
    | .error _ => (some ⟨"There's no pullSecret to login to registry named " ++ registry⟩, log)
    | .ok secret =>
      match GoMap.lookup "ID" secret.data, GoMap.lookup "PASSWD" secret.data with
      | some id, some pw =>
        let ((result, err), log) := h.execToDockerDaemon (.login registry id pw) log
        if err.isSome then loginLoop registry rest log
        else if Go.contains result.out "Login Succeeded" then (none, log)
        else loginLoop registry rest log
      | _, _ => loginLoop registry rest log

/-- `loginToRegistry`. -/
def loginToRegistry (registry : String) (log : List Command) : Option GoError × List Command :=
  if h.pod.imagePullSecrets.length ≤ 0 then (some ⟨"There's any pullSecret"⟩, log)
  else h.loginLoop registry h.pod.imagePullSecrets log

/-- `findNotaryServer`. -/
def findNotaryServer (registry : String) : String :=
  if registry = "docker.io" then "docker.io"
  else
    match h.registries.find? (fun reg => "https://" ++ registry = reg.serverURL) with
    | none => "docker-hub"
    | some targetReg => targetReg.notaryURL

/-- `makeCommand`; a failed login is only logged. -/
def makeCommand (imageInfo : ImageInfo) (log : List Command) : Command × List Command :=
  let notaryServer := h.findNotaryServer imageInfo.registry
  if notaryServer = "docker.io" then (.inspectDockerIo imageInfo.name imageInfo.tag, log)
  else if notaryServer = "docker-hub" then
    (.inspectDockerHub imageInfo.registry imageInfo.name imageInfo.tag, log)
  else
    let (_, log) := h.loginToRegistry imageInfo.registry log
    (.inspect notaryServer imageInfo.registry imageInfo.name imageInfo.tag, log)

/-- `hasMatchedSigner`. -/
def hasMatchedSigner (signatures : List Signature) : Bool :=
  if h.signerPolicies.length = 0 then signatures.length ≠ 0
  else
    match signatures with
    | [] => false
    | signature :: _ =>
      let key := signature.repoAdminKey
      h.signerPolicies.any fun signerPolicy =>
        signerPolicy.signers.any fun signerName =>
          (h.getSignerKey signerName).targets.any (· = key)

/-- `isImageInWhiteList`. -/
def isImageInWhiteList (image : String) : Bool :=
  let imageInfo := getImageInfo image
  let validFormatImage := imageInfo.registry ++ "/" ++ imageInfo.name ++ ":" ++ imageInfo.tag
  h.whiteList.byImages.any fun whiteListImage => Go.contains validFormatImage whiteListImage

/-- `isNamespaceInWhiteList`. -/
def isNamespaceInWhiteList : Bool :=
  h.whiteList.byNamespaces.any fun whiteListNamespace => h.pod.ns = whiteListNamespace

end DockerHandler

/-! ## Signatures -/

/-- `getDigest`; `none` where `signatures[0]` panics. -/
def getDigest (image : String) : List Signature → Option String
  | [] => none
  | signature :: _ =>
    some (signature.signedTags.foldl
      (fun digest signedTag =>
        if signedTag.signedTag = (getImageInfo image).tag then signedTag.digest else digest) "")

/-- The loop of `getDigest` ends with the digest of the last row for the tag. -/
theorem foldl_signedTag_digest (tag : String) (rows : List SignedTagRow) (d : String) :
    rows.foldl
        (fun digest signedTag => if signedTag.signedTag = tag then signedTag.digest else digest) d =
      ((rows.filter (·.signedTag = tag)).getLast?.map SignedTagRow.digest).getD d := by
  induction rows generalizing d with
  | nil => rfl
  | cons row rows ih =>
    rw [List.foldl_cons, ih]
    by_cases hr : row.signedTag = tag
    · simp only [hr, if_true, List.filter_cons, decide_True, List.getLast?_cons]
      cases (rows.filter (·.signedTag = tag)).getLast? <;> rfl
    · simp [hr, List.filter_cons]

/-- `getDigest` gives the digest of the last row for the tag, or `""`. -/
theorem getDigest_cons (image : String) (signature : Signature) (rest : List Signature) :
    getDigest image (signature :: rest) =
      some (((signature.signedTags.filter (·.signedTag = (getImageInfo image).tag)).getLast?.map
        SignedTagRow.digest).getD "") :=
  congrArg some (foldl_signedTag_digest _ _ "")

namespace DockerHandler

variable (h : DockerHandler)

/-- `isSignedImage`; an empty output panics. -/
def isSignedImage (image : String) (log : List Command) : Option (Bool × String) × List Command :=
  let (command, log) := h.makeCommand (getImageInfo image) log
  let ((result, _), log) := h.execToDockerDaemon command log
  if result.out.utf8ByteSize ≤ 0 then (none, log)
  else
    match h.getSignatures result.out with
    | .error _ => (some (false, ""), log)
    | .ok signatures =>
      if h.hasMatchedSigner signatures then
        match getDigest image signatures with
        | some digest => (some (true, digest), log)
        | none => (none, log)
      else (some (false, ""), log)

/-- `isSignedImage` issues what `makeCommand` issued, then the line it made. -/
theorem isSignedImage_log (image : String) (log : List Command) :
    (h.isSignedImage image log).2 =
      (h.makeCommand (getImageInfo image) log).2 ++
        [(h.makeCommand (getImageInfo image) log).1] := by
  simp only [isSignedImage, execToDockerDaemon]
  repeat' split
  all_goals rfl

end DockerHandler

/-- No signer policy, no registries, and `v1` signed twice, to `aa` and then to `bb`. -/
def signedTwiceHandler : DockerHandler where
  whiteList := ⟨[], []⟩
  pod := ⟨"default", [], [⟨"registry.example.com/app:v1"⟩], []⟩
  signerPolicies := []
  listSecrets := .ok []
  registries := []
  getSignerKey _ := ⟨[]⟩
  execCmd _ _ := (⟨"[{...}]"⟩, none)
  getSignatures _ := .ok [⟨[⟨"v1", "aa"⟩, ⟨"v1", "bb"⟩], "root"⟩]

/-- The digest is the last row's, `bb`; with no signer policy a tag with no row gets `""`. -/
theorem isSignedImage_last_matching_row :
    ([⟨"v1", "aa"⟩, ⟨"v1", "bb"⟩] : List SignedTagRow).find? (·.signedTag = "v1") =
      some ⟨"v1", "aa"⟩ ∧
    (signedTwiceHandler.isSignedImage "registry.example.com/app:v1" []).1 = some (true, "bb") ∧
    ({ signedTwiceHandler with getSignatures := fun _ => .ok [⟨[], "root"⟩] }.isSignedImage
      "registry.example.com/app:v1" []).1 = some (true, "") := by
  decide

/-! ## Where the credentials come from -/

namespace DockerHandler

variable (h : DockerHandler)

/-- `getSecret` returns the first secret with the name among the secrets of every namespace. -/
theorem getSecret_eq_ok {name : String} {secret : Secret} :
    h.getSecret name = .ok secret ↔
      ∃ secrets, h.listSecrets = .ok secrets ∧
        secrets.find? (·.name = name) = some secret := by
  unfold getSecret
  rcases h.listSecrets with err | secrets
  · simp
  · dsimp only
    split
    next found hfound => simp [hfound]
    next hnone => simp [hnone]

/-- A secret `getSecret` returns is the cluster's, of any namespace, with the name. -/
theorem getSecret_mem {name : String} {secret : Secret} (hs : h.getSecret name = .ok secret) :
    ∃ secrets, h.listSecrets = .ok secrets ∧ secret ∈ secrets ∧ secret.name = name := by
  obtain ⟨secrets, hlist, hfind⟩ := h.getSecret_eq_ok.1 hs
  exact ⟨secrets, hlist, List.mem_of_find?_eq_some hfind, by simpa using List.find?_some hfind⟩

/-- `cmd` logs in to `registry` with the secret `getSecret` finds for one of `ps`. -/
def IsLoginWith (registry : String) (ps : List LocalObjectReference) (cmd : Command) : Prop :=
  ∃ p ∈ ps, ∃ secret id pw, h.getSecret p.name = .ok secret ∧
    GoMap.lookup "ID" secret.data = some id ∧ GoMap.lookup "PASSWD" secret.data = some pw ∧
    cmd = .login registry id pw

/-- The login loop only adds logins with credentials of secrets `getSecret` finds for `ps`. -/
theorem loginLoop_commands (registry : String) (ps : List LocalObjectReference)
    (log : List Command) :
    ∃ new, (h.loginLoop registry ps log).2 = log ++ new ∧
      ∀ cmd ∈ new, h.IsLoginWith registry ps cmd := by
  induction ps generalizing log with
  | nil => exact ⟨[], by simp [loginLoop], by simp⟩
  | cons p rest ih =>
    -- the loop goes on over `rest` after adding logins with the credentials of `p`'s secret
    have hcont : ∀ pre, (∀ cmd ∈ pre, h.IsLoginWith registry (p :: rest) cmd) →
        ∃ new, (h.loginLoop registry rest (log ++ pre)).2 = log ++ new ∧
          ∀ cmd ∈ new, h.IsLoginWith registry (p :: rest) cmd := fun pre hpre =>
      let ⟨new, hnew, hall⟩ := ih (log ++ pre)
      ⟨pre ++ new, by rw [hnew, List.append_assoc], List.forall_mem_append.2 ⟨hpre,
        fun cmd hc => let ⟨q, hq, hrest⟩ := hall cmd hc; ⟨q, List.mem_cons_of_mem p hq, hrest⟩⟩⟩
    have hskip := hcont [] (by simp)
    rw [List.append_nil] at hskip
    simp only [loginLoop]
    rcases hs : h.getSecret p.name with _ | secret
    · exact ⟨[], by simp, by simp⟩
    dsimp only
    rcases hid : GoMap.lookup "ID" secret.data with _ | id <;>
      rcases hpw : GoMap.lookup "PASSWD" secret.data with _ | pw
    · exact hskip
    · exact hskip
    · exact hskip
    have hlogin :
        ∀ cmd ∈ [Command.login registry id pw], h.IsLoginWith registry (p :: rest) cmd := by
      simp only [List.mem_singleton, forall_eq]
      exact ⟨p, List.mem_cons_self p rest, secret, id, pw, hs, hid, hpw, rfl⟩
    simp only [execToDockerDaemon]
    split
    · exact hcont _ hlogin
    · split
      · exact ⟨_, rfl, hlogin⟩
      · exact hcont _ hlogin

/-- `loginToRegistry` logs in with the first secret of any namespace named as a pull secret. -/
theorem loginToRegistry_credentials (registry : String) (log : List Command) :
    ∃ new, (h.loginToRegistry registry log).2 = log ++ new ∧
      ∀ cmd ∈ new, ∃ p ∈ h.pod.imagePullSecrets, ∃ secrets secret id pw,
        h.listSecrets = .ok secrets ∧ secrets.find? (·.name = p.name) = some secret ∧
        GoMap.lookup "ID" secret.data = some id ∧ GoMap.lookup "PASSWD" secret.data = some pw ∧
        cmd = .login registry id pw := by
  unfold loginToRegistry
  split_ifs
  · exact ⟨[], by simp, by simp⟩
  obtain ⟨new, hnew, hall⟩ := h.loginLoop_commands registry h.pod.imagePullSecrets log
  refine ⟨new, hnew, fun cmd hc => ?_⟩
  obtain ⟨p, hp, secret, id, pw, hs, hid, hpw, rfl⟩ := hall cmd hc
  obtain ⟨secrets, hlist, hfind⟩ := h.getSecret_eq_ok.1 hs
  exact ⟨p, hp, secrets, secret, id, pw, hlist, hfind, hid, hpw, rfl⟩

end DockerHandler

/-- Only `tenant-b` has `regcred`; the pod in `default` names it. -/
def tenantHandler : DockerHandler where
  whiteList := ⟨[], []⟩
  pod := ⟨"default", [], [⟨"private.example.com/app:v1"⟩], [⟨"regcred"⟩]⟩
  signerPolicies := []
  listSecrets := .ok [⟨"tenant-b", "regcred", [("ID", "alice"), ("PASSWD", "s3cret")]⟩]
  registries := [⟨"https://private.example.com", "https://notary.private.example.com"⟩]
  getSignerKey _ := ⟨[]⟩
  execCmd _ _ := (⟨"Login Succeeded"⟩, none)
  getSignatures _ := .ok []

/-- Clusters agreeing on `default`'s secrets issue different logins: `tenant-b`'s counts. -/
theorem loginToRegistry_reads_other_namespace :
    [(⟨"tenant-b", "regcred", [("ID", "alice"), ("PASSWD", "s3cret")]⟩ : Secret)].filter
        (·.ns = "default") = [] ∧
    tenantHandler.loginToRegistry "private.example.com" [] =
      (none, [.login "private.example.com" "alice" "s3cret"]) ∧
    { tenantHandler with listSecrets := .ok [] }.loginToRegistry "private.example.com" [] =
      (some ⟨"There's no pullSecret to login to registry named private.example.com"⟩, []) := by
  decide

end ImageValidatingWebhook.Server
