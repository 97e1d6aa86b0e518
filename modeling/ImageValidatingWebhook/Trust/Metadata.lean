import Mathlib.Data.List.Chain
import ImageValidatingWebhook.Trust.NaturalOrder

/-!
# ImageValidatingWebhook.Trust.Metadata — signed tags from notary metadata (package `trust`)

`notaryRepo.GetSignedMetadata` turns the target metadata a notary server returns for a tag
into a `trustRepo`: `matchReleasedSignatures` keeps the targets signed into `targets` or
`targets/releases` (two passes over the list through a Go map keyed by tag and digest, then a
`sort.Slice` by `NaturalLess` on the tag), a loop names `Repo Admin` as the signer of the rows
no delegated role signed, and the delegation and administrative roles become signer lists.

Ranging over a Go map and `sort.Slice` both leave an order open, so `GetSignedMetadata` and
`matchReleasedSignatures` are relations between their input and each result a run can give.

* `getSignedMetadata_signedTags`: the signed tags of a successful run hold one row per released
  (tag, digest) key and no other, each row's signers are the delegated roles that signed its key
  in list order (or `Repo Admin`), and the rows are in `NaturalLess` order.
* `getSignedMetadata_ok_iff`: a run returns a trust summary exactly when the two notary calls
  succeed: every `sort.Slice` it makes has a result, by strict weak orders.
  `getSignedMetadata_error_iff` names the error of a failed run.
* `matchReleasedSignatures_runs_differ`: two runs can put the rows of one tag with two released
  digests in different orders, so the first row for that tag differs between them.
* `matchReleasedSignatures_runs_agree`: two runs give the same rows up to order, the same first
  row for every tag with one released digest, and the same list when no tag has two.

`GetDigest`, the lookup the webhook makes on the result, is not among the sources: `getDigest`
follows the spec (the first row for the tag).
-/

namespace ImageValidatingWebhook.Trust

/-! ## Roles and targets -/

/-- `data.CanonicalRootRole`. -/
def canonicalRootRole : String := "root"

/-- `data.CanonicalTargetsRole`. -/
def canonicalTargetsRole : String := "targets"

/-- `data.CanonicalSnapshotRole`. -/
def canonicalSnapshotRole : String := "snapshot"

/-- `data.CanonicalTimestampRole`. -/
def canonicalTimestampRole : String := "timestamp"

/-- `ReleasesRole`: `path.Join("targets", "releases")`. -/
def releasesRole : String := "targets/releases"

/-- `releasedRoleName`: the signer shown for the targets role and its releases delegation. -/
def releasedRoleName : String := "Repo Admin"

/-- `isReleasedTarget`: the role is `targets` or `targets/releases`. -/
def isReleasedTarget (role : String) : Bool :=
  role == canonicalTargetsRole || role == releasesRole

/-- `notaryRoleToSigner`: a delegated role's name without its `targets/` prefix. -/
def notaryRoleToSigner (tufRole : String) : String :=
  if isReleasedTarget tufRole then releasedRoleName else Go.trimPrefix tufRole "targets/"

theorem notaryRoleToSigner_of_not_released {role : String} (h : isReleasedTarget role = false) :
    notaryRoleToSigner role = Go.trimPrefix role "targets/" := by
  simp [notaryRoleToSigner, h]

/-- `hex.EncodeToString`: two lowercase hex digits a byte. -/
def hexEncode (bs : List UInt8) : String :=
  ⟨bs.flatMap fun b => [Nat.digitChar (b.toNat / 16), Nat.digitChar (b.toNat % 16)]⟩

/-- `client.TargetSignedStruct`, by what `matchReleasedSignatures` reads: the name of the role
that signed (`Role.Name`), the target's name and its SHA-256 hash (`Hashes[notary.SHA256]`). -/
structure TargetSignedStruct where
  role : String
  name : String
  sha256 : List UInt8
deriving DecidableEq, Repr

/-- `trustTagKey`: a signed tag and its hex-encoded hash. -/
structure TrustTagKey where
  signedTag : String
  digest : String
deriving DecidableEq, Repr

/-- `trustTagRow`: a key and the signers of it. -/
structure TrustTagRow extends TrustTagKey where
  signers : List String
deriving DecidableEq, Repr

/-- `trustKey`. -/
structure TrustKey where
  id : String
deriving DecidableEq, Repr

/-- `trustSigner`: a signer and its keys. -/
structure TrustSigner where
  name : String
  keys : List TrustKey
deriving DecidableEq, Repr

/-- `trustRepo`: what `GetSignedMetadata` returns. -/
structure TrustRepo where
  name : String
  signedTags : List TrustTagRow
  signers : List TrustSigner
  administrativeKeys : List TrustSigner
deriving DecidableEq, Repr

/-- The key `matchReleasedSignatures` files a target under. -/
def TargetSignedStruct.key (tgt : TargetSignedStruct) : TrustTagKey :=
  ⟨tgt.name, hexEncode tgt.sha256⟩

/-! ## matchReleasedSignatures -/

/-- One step of the first pass: the key of a target signed into `targets` or
`targets/releases` gets an empty signer list. -/
def markReleased (rows : GoMap TrustTagKey (List String)) (tgt : TargetSignedStruct) :
    GoMap TrustTagKey (List String) :=
  if isReleasedTarget tgt.role then rows.set tgt.key [] else rows

/-- One step of the second pass: a delegated role that signed a released key is added to the
signers of that key. -/
def addSigner (rows : GoMap TrustTagKey (List String)) (tgt : TargetSignedStruct) :
    GoMap TrustTagKey (List String) :=
  match rows.get? tgt.key with
  | some signers =>
    if !isReleasedTarget tgt.role then rows.set tgt.key (signers ++ [notaryRoleToSigner tgt.role])
    else rows
  | none => rows

/-- `releasedTargetRows` after both passes of `matchReleasedSignatures`. -/
def releasedTargetRows (allTargets : List TargetSignedStruct) : GoMap TrustTagKey (List String) :=
  allTargets.foldl addSigner (allTargets.foldl markReleased GoMap.empty)

/-- The row an entry of the map becomes. -/
def TrustTagRow.ofEntry (e : TrustTagKey × List String) : TrustTagRow :=
  { e.1 with signers := e.2 }

/-- The order of the final `sort.Slice`: `NaturalLess` on the signed tag. -/
def tagLess (a b : TrustTagRow) : Bool := naturalLess a.signedTag b.signedTag

/-- `matchReleasedSignatures(allTargets)` can return `rows`: the rows of the map's entries, in
the order the range over the map visits them, sorted by `sort.Slice`. Since the visit order is
any order and the sort returns a sorted permutation of whatever it is given, the results are
the sorted permutations of the entries' rows. -/
def MatchReleasedSignatures (allTargets : List TargetSignedStruct) (rows : List TrustTagRow) :
    Prop :=
  SortSlice tagLess ((releasedTargetRows allTargets).entries.map TrustTagRow.ofEntry) rows

instance (allTargets : List TargetSignedStruct) (rows : List TrustTagRow) :
    Decidable (MatchReleasedSignatures allTargets rows) :=
  inferInstanceAs (Decidable (SortSlice _ _ _))

/-! ## GetSignedMetadata -/

/-- One iteration of the loop below: a row no delegated role signed gets `Repo Admin`. -/
def withRepoAdmin (sig : TrustTagRow) : TrustTagRow :=
  if sig.signers = [] then { sig with signers := sig.signers ++ [releasedRoleName] } else sig

/-- The loop of `GetSignedMetadata` that names `Repo Admin` as the signer of every row no
delegated role signed. -/
def attributeRepoAdmin (rows : List TrustTagRow) : List TrustTagRow :=
  rows.map withRepoAdmin

@[simp] theorem withRepoAdmin_toTrustTagKey (sig : TrustTagRow) :
    (withRepoAdmin sig).toTrustTagKey = sig.toTrustTagKey := by
  unfold withRepoAdmin; split <;> rfl

@[simp] theorem withRepoAdmin_signers (sig : TrustTagRow) :
    (withRepoAdmin sig).signers = if sig.signers = [] then [releasedRoleName] else sig.signers := by
  unfold withRepoAdmin; split <;> simp_all

/-- A TUF role with its key IDs (`data.Role`, and the role of a `RoleWithSignatures`). -/
structure Role where
  name : String
  keyIDs : List String
deriving DecidableEq, Repr

/-- `getDelegationRoleToKeyMap`: the key IDs of each delegated signer; a later role of the
same signer name replaces an earlier one. -/
def getDelegationRoleToKeyMap (rawDelegationRoles : List Role) : GoMap String (List String) :=
  rawDelegationRoles.foldl (fun signerRoleToKeyIDs delRole =>
    if delRole.name ∈ [releasesRole, canonicalRootRole, canonicalSnapshotRole,
        canonicalTargetsRole, canonicalTimestampRole] then signerRoleToKeyIDs
    else signerRoleToKeyIDs.set (notaryRoleToSigner delRole.name) delRole.keyIDs) GoMap.empty

/-- The signer an entry of the delegation map becomes. -/
def TrustSigner.ofEntry (e : String × List String) : TrustSigner :=
  ⟨e.1, e.2.map TrustKey.mk⟩

/-- The administrative signers, in the order of the roles: the root role's keys as `Root`, the
targets role's as `Repository`. -/
def adminSigners (adminRolesWithSigs : List Role) : List TrustSigner :=
  adminRolesWithSigs.filterMap fun adminRole =>
    if adminRole.name = canonicalRootRole then some ⟨"Root", adminRole.keyIDs.map TrustKey.mk⟩
    else if adminRole.name = canonicalTargetsRole then
      some ⟨"Repository", adminRole.keyIDs.map TrustKey.mk⟩
    else none

/-- The order of the two `sort.Slice` calls on signers: names in decreasing order. -/
def nameGreater (a b : TrustSigner) : Bool := lexLess b.name.data a.name.data

/-- The notary client's repository, by the calls `GetSignedMetadata` makes on it.
`GetDelegationRoles` is taken with whatever roles it returns: its error is only logged. -/
structure Repository where
  getAllTargetMetadataByName : String → Except GoError (List TargetSignedStruct)
  listRoles : Except GoError (List Role)
  getDelegationRoles : List Role
  gun : String

/-- `notaryRepo`, by the fields `GetSignedMetadata` reads. -/
structure NotaryRepo where
  notaryServerURL : String
  repo : Repository

/-- `n.GetSignedMetadata(tag)` can return `result`. -/
def GetSignedMetadata (n : NotaryRepo) (tag : String) (result : Except GoError TrustRepo) :
    Prop :=
  match n.repo.getAllTargetMetadataByName tag with
  | .error err => result = .error err
  | .ok allSignedTargets =>
    match n.repo.listRoles with
    | .error _ => result = .error ⟨"No signers for " ++ n.notaryServerURL⟩
    | .ok adminRolesWithSigs =>
      ∃ signatureRows signerList adminList,
        MatchReleasedSignatures allSignedTargets signatureRows ∧
        SortSlice nameGreater
          ((getDelegationRoleToKeyMap n.repo.getDelegationRoles).entries.map TrustSigner.ofEntry)
          signerList ∧
        SortSlice nameGreater (adminSigners adminRolesWithSigs) adminList ∧
        result = .ok ⟨n.repo.gun, attributeRepoAdmin signatureRows, signerList, adminList⟩

/-- The first row for `tag`. -/
def firstRowFor (rows : List TrustTagRow) (tag : String) : Option TrustTagRow :=
  rows.find? fun row => row.signedTag = tag

/-- Modelled from the spec: `GetDigest(tag)` on the trust data `notary.FetchSignature` returns
(package `notary`, not among the sources) is the digest of the first signed-tag row for `tag`,
and `""` when there is none. -/
def TrustRepo.getDigest (repo : TrustRepo) (tag : String) : String :=
  match firstRowFor repo.signedTags tag with
  | some row => row.digest
  | none => ""

/-! ## The two passes -/

/-- The signers the second pass adds to the key `k` from the targets `L`, in list order. -/
def signersFrom (L : List TargetSignedStruct) (k : TrustTagKey) : List String :=
  (L.filter fun t => t.key = k ∧ isReleasedTarget t.role = false).map
    fun t => notaryRoleToSigner t.role

theorem signersFrom_cons (t : TargetSignedStruct) (L : List TargetSignedStruct) (k : TrustTagKey) :
    signersFrom (t :: L) k = signersFrom [t] k ++ signersFrom L k := by
  by_cases h : t.key = k ∧ isReleasedTarget t.role = false <;>
    simp [signersFrom, List.filter_cons, h]

theorem get?_markReleased (m : GoMap TrustTagKey (List String)) (tgt : TargetSignedStruct)
    (k : TrustTagKey) :
    (markReleased m tgt).get? k =
      if isReleasedTarget tgt.role ∧ tgt.key = k then some [] else m.get? k := by
  by_cases hr : isReleasedTarget tgt.role
  · by_cases hk : tgt.key = k
    · simp [markReleased, hr, hk]
    · simp [markReleased, hr, hk, Ne.symm hk]
  · simp [markReleased, hr]

/-- After the first pass, a key holds an empty signer list when a released target has it. -/
theorem get?_foldl_markReleased (L : List TargetSignedStruct)
    (m : GoMap TrustTagKey (List String)) (k : TrustTagKey) :
    (L.foldl markReleased m).get? k =
      if ∃ t ∈ L, isReleasedTarget t.role ∧ t.key = k then some [] else m.get? k := by
  induction L generalizing m with
  | nil => simp
  | cons t L ih =>
    rw [List.foldl_cons, ih, get?_markReleased]
    simp only [List.mem_cons, exists_eq_or_imp]
    by_cases h₁ : isReleasedTarget t.role ∧ t.key = k <;>
      by_cases h₂ : ∃ t ∈ L, isReleasedTarget t.role ∧ t.key = k <;>
      simp only [h₁, h₂, if_true, if_false, true_or, or_true, or_false]

theorem get?_addSigner (m : GoMap TrustTagKey (List String)) (tgt : TargetSignedStruct)
    (k : TrustTagKey) :
    (addSigner m tgt).get? k = (m.get? k).map (· ++ signersFrom [tgt] k) := by
  by_cases hk : tgt.key = k
  · subst hk
    unfold addSigner
    cases hm : m.get? tgt.key with
    | none => simp [hm]
    | some signers =>
      by_cases hr : isReleasedTarget tgt.role <;> simp [hr, hm, signersFrom]
  · have hs : signersFrom [tgt] k = [] := by simp [signersFrom, hk]
    unfold addSigner
    split
    · split <;> simp [hs, Ne.symm hk]
    · simp [hs]

/-- After the second pass, each key holds its first-pass value followed by its delegated
signers in list order. -/
theorem get?_foldl_addSigner (L : List TargetSignedStruct) (m : GoMap TrustTagKey (List String))
    (k : TrustTagKey) :
    (L.foldl addSigner m).get? k = (m.get? k).map (· ++ signersFrom L k) := by
  induction L generalizing m with
  | nil => simp [signersFrom]
  | cons t L ih =>
    rw [List.foldl_cons, ih, get?_addSigner, Option.map_map, signersFrom_cons t L]
    congr 1
    funext s
    simp

/-- The second pass only assigns to keys the map holds. -/
theorem keys_foldl_addSigner (L : List TargetSignedStruct) (m : GoMap TrustTagKey (List String)) :
    (L.foldl addSigner m).keys = m.keys := by
  induction L generalizing m with
  | nil => rfl
  | cons t L ih =>
    rw [List.foldl_cons, ih]
    unfold addSigner
    split
    · rename_i signers hm
      split
      · exact GoMap.keys_set_of_mem ((GoMap.get?_isSome _ _).1 (by simp [hm])) _
      · rfl
    · rfl

/-- The keys of `releasedTargetRows` are the keys of the released targets. -/
theorem mem_keys_releasedTargetRows (L : List TargetSignedStruct) (k : TrustTagKey) :
    k ∈ (releasedTargetRows L).keys ↔ ∃ t ∈ L, isReleasedTarget t.role ∧ t.key = k := by
  rw [releasedTargetRows, keys_foldl_addSigner, ← GoMap.get?_isSome, get?_foldl_markReleased]
  split <;> simp_all

/-- Each entry of `releasedTargetRows` holds the delegated signers of its key. -/
theorem releasedTargetRows_signers (L : List TargetSignedStruct) {e : TrustTagKey × List String}
    (he : e ∈ (releasedTargetRows L).entries) : e.2 = signersFrom L e.1 := by
  have hk : ∃ t ∈ L, isReleasedTarget t.role ∧ t.key = e.1 :=
    (mem_keys_releasedTargetRows L e.1).1 (List.mem_map_of_mem Prod.fst he)
  have h := GoMap.get?_of_mem he
  rw [releasedTargetRows, get?_foldl_addSigner, get?_foldl_markReleased, if_pos hk] at h
  simpa using h.symm

/-! ## The rows of a run -/

@[simp] theorem ofEntry_toTrustTagKey (e : TrustTagKey × List String) :
    (TrustTagRow.ofEntry e).toTrustTagKey = e.1 := rfl

variable {L : List TargetSignedStruct} {rows : List TrustTagRow}

theorem MatchReleasedSignatures.map_key (h : MatchReleasedSignatures L rows) :
    (rows.map TrustTagRow.toTrustTagKey).Perm (releasedTargetRows L).keys := by
  simpa [List.map_map, Function.comp_def, GoMap.keys] using h.1.map TrustTagRow.toTrustTagKey

theorem MatchReleasedSignatures.keys_nodup (h : MatchReleasedSignatures L rows) :
    (rows.map TrustTagRow.toTrustTagKey).Nodup :=
  h.map_key.nodup_iff.2 (releasedTargetRows L).nodup

theorem MatchReleasedSignatures.mem_keys (h : MatchReleasedSignatures L rows) (k : TrustTagKey) :
    k ∈ rows.map TrustTagRow.toTrustTagKey ↔
      ∃ t ∈ L, isReleasedTarget t.role ∧ t.key = k :=
  h.map_key.mem_iff.trans (mem_keys_releasedTargetRows L k)

theorem MatchReleasedSignatures.signers (h : MatchReleasedSignatures L rows) {row : TrustTagRow}
    (hrow : row ∈ rows) : row.signers = signersFrom L row.toTrustTagKey := by
  obtain ⟨e, he, rfl⟩ := List.mem_map.1 (h.1.subset hrow)
  exact releasedTargetRows_signers L he

/-! ## The signed tags of a successful run -/

/-- The signers the rows of `k` are expected to show: the delegated roles of `L` that signed `k`,
in list order, each without its `targets/` prefix. -/
def delegatedSigners (L : List TargetSignedStruct) (k : TrustTagKey) : List String :=
  (L.filter fun t => t.key = k ∧ isReleasedTarget t.role = false).map
    fun t => Go.trimPrefix t.role "targets/"

theorem signersFrom_eq_delegatedSigners (L : List TargetSignedStruct) (k : TrustTagKey) :
    signersFrom L k = delegatedSigners L k := by
  refine List.map_congr_left fun t ht => notaryRoleToSigner_of_not_released ?_
  have h := (List.mem_filter.1 ht).2
  simp only [decide_eq_true_eq] at h
  exact h.2

/-- The signed tags `rows` of a repository are what the target metadata `L` of its tag says
they are. -/
structure SignedTagsOf (L : List TargetSignedStruct) (rows : List TrustTagRow) : Prop where
  /-- No (tag, digest) key has two rows. -/
  keys_nodup : (rows.map TrustTagRow.toTrustTagKey).Nodup
  /-- The keys are those of the targets signed into `targets` or `targets/releases`. -/
  mem_keys : ∀ k, k ∈ rows.map TrustTagRow.toTrustTagKey ↔
    ∃ t ∈ L, isReleasedTarget t.role ∧ t.key = k
  /-- A row's signers are the delegated roles that signed its key, or `Repo Admin`. -/
  signers : ∀ row ∈ rows, row.signers =
    if delegatedSigners L row.toTrustTagKey = [] then [releasedRoleName]
    else delegatedSigners L row.toTrustTagKey
  /-- Consecutive rows are in `NaturalLess` order of their tags. -/
  sorted : rows.Chain' fun a b => naturalLess b.signedTag a.signedTag = false

theorem map_key_attributeRepoAdmin (rows : List TrustTagRow) :
    (attributeRepoAdmin rows).map TrustTagRow.toTrustTagKey =
      rows.map TrustTagRow.toTrustTagKey := by
  simp only [attributeRepoAdmin, List.map_map]
  exact List.map_congr_left fun row _ => withRepoAdmin_toTrustTagKey row

theorem MatchReleasedSignatures.signedTagsOf (h : MatchReleasedSignatures L rows) :
    SignedTagsOf L (attributeRepoAdmin rows) where
  keys_nodup := (map_key_attributeRepoAdmin rows).symm ▸ h.keys_nodup
  mem_keys k := (map_key_attributeRepoAdmin rows).symm ▸ h.mem_keys k
  signers row hrow := by
    obtain ⟨row₀, hrow₀, rfl⟩ := List.mem_map.1 hrow
    rw [withRepoAdmin_signers, withRepoAdmin_toTrustTagKey, ← signersFrom_eq_delegatedSigners,
      ← h.signers hrow₀]
  sorted := List.chain'_map_of_chain' withRepoAdmin (fun a b hab => by simpa using hab) h.2.chain'

/-- `GetSignedMetadata`, when it succeeds, returns as signed tags one row per (tag, digest) key
of a target signed into `targets` or `targets/releases` and no other, each listing, in the order
of the metadata, the delegated roles that also signed that key (or `Repo Admin` when none did),
in `NaturalLess` order of their tags. -/
theorem getSignedMetadata_signedTags {n : NotaryRepo} {tag : String} {repo : TrustRepo}
    (hL : n.repo.getAllTargetMetadataByName tag = .ok L)
    (h : GetSignedMetadata n tag (.ok repo)) :
    SignedTagsOf L repo.signedTags := by
  simp only [GetSignedMetadata, hL] at h
  split at h
  · cases h
  · obtain ⟨rows, _, _, hrows, -, -, hrepo⟩ := h
    cases hrepo
    exact hrows.signedTagsOf

/-- `GetSignedMetadata` for a tag `v1` signed into `targets` and by the delegation
`targets/alice` to the same digest: the one row names `alice`. -/
theorem getSignedMetadata_signedTags_alice :
    let n : NotaryRepo := ⟨"https://notary.example.com",
      ⟨fun _ => .ok [⟨"targets", "v1", [0xab]⟩, ⟨"targets/alice", "v1", [0xab]⟩], .ok [], [],
        "registry.example.com/app"⟩⟩
    let repo : TrustRepo := ⟨"registry.example.com/app", [⟨⟨"v1", "ab"⟩, ["alice"]⟩], [], []⟩
    n.repo.getAllTargetMetadataByName "v1" =
        .ok [⟨"targets", "v1", [0xab]⟩, ⟨"targets/alice", "v1", [0xab]⟩] ∧
      GetSignedMetadata n "v1" (.ok repo) ∧
      SignedTagsOf [⟨"targets", "v1", [0xab]⟩, ⟨"targets/alice", "v1", [0xab]⟩] repo.signedTags :=
  have h : GetSignedMetadata ⟨"https://notary.example.com",
      ⟨fun _ => .ok [⟨"targets", "v1", [0xab]⟩, ⟨"targets/alice", "v1", [0xab]⟩], .ok [], [],
        "registry.example.com/app"⟩⟩ "v1"
      (.ok ⟨"registry.example.com/app", [⟨⟨"v1", "ab"⟩, ["alice"]⟩], [], []⟩) :=
    ⟨[⟨⟨"v1", "ab"⟩, ["alice"]⟩], [], [], by decide, by decide, by decide, rfl⟩
  ⟨rfl, h, getSignedMetadata_signedTags rfl h⟩

/-! ## When it succeeds -/

/-- `sort.Slice` by `tagLess` has a result on every list of rows. -/
theorem SortSlice.exists_tagLess (rows : List TrustTagRow) :
    ∃ rows', SortSlice tagLess rows rows' :=
  SortSlice.exists tagLess (fun a => naturalLess_irrefl a.signedTag) naturalLess_trans
    (fun h₁ h₂ => @not_less_trans_of_trichotomous String naturalLess naturalLess_trans
      naturalLess_trichotomous _ _ _ h₁ h₂) rows

/-- `sort.Slice` by `nameGreater` has a result on every list of signers. -/
theorem SortSlice.exists_nameGreater (signers : List TrustSigner) :
    ∃ signers', SortSlice nameGreater signers signers' :=
  SortSlice.exists nameGreater (fun a => lexLess_irrefl a.name.data)
    (fun h₁ h₂ => lexLess_trans h₂ h₁)
    (fun h₁ h₂ => @not_less_trans_of_trichotomous (List Char) lexLess lexLess_trans
      lexLess_trichotomous _ _ _ h₂ h₁) signers

/-- `GetSignedMetadata` returns a trust summary exactly when the two notary calls it makes
succeed: whatever order the ranges over Go maps take, each `sort.Slice` has a result, since
`NaturalLess` on tags and `>` on signer names are strict weak orders. -/
theorem getSignedMetadata_ok_iff (n : NotaryRepo) (tag : String) :
    (∃ repo, GetSignedMetadata n tag (.ok repo)) ↔
      (∃ L, n.repo.getAllTargetMetadataByName tag = .ok L) ∧
        ∃ roles, n.repo.listRoles = .ok roles := by
  constructor
  · rintro ⟨repo, h⟩
    unfold GetSignedMetadata at h
    split at h
    next => cases h
    next L hL =>
      split at h
      next => cases h
      next roles hroles => exact ⟨⟨L, hL⟩, roles, hroles⟩
  · rintro ⟨⟨L, hL⟩, roles, hroles⟩
    obtain ⟨rows, hrows⟩ :=
      SortSlice.exists_tagLess ((releasedTargetRows L).entries.map TrustTagRow.ofEntry)
    obtain ⟨signerList, hsigners⟩ := SortSlice.exists_nameGreater
      ((getDelegationRoleToKeyMap n.repo.getDelegationRoles).entries.map TrustSigner.ofEntry)
    obtain ⟨adminList, hadmins⟩ := SortSlice.exists_nameGreater (adminSigners roles)
    refine ⟨⟨n.repo.gun, attributeRepoAdmin rows, signerList, adminList⟩, ?_⟩
    simp only [GetSignedMetadata, hL, hroles]
    exact ⟨rows, signerList, adminList, hrows, hsigners, hadmins, rfl⟩

/-- A run of `GetSignedMetadata` fails only when one of the two notary calls does: with the error
of `GetAllTargetMetadataByName`, or, when `ListRoles` fails, with `No signers for` and the notary
server's URL in place of the error `ListRoles` returned. -/
theorem getSignedMetadata_error_iff (n : NotaryRepo) (tag : String) (err : GoError) :
    GetSignedMetadata n tag (.error err) ↔
      n.repo.getAllTargetMetadataByName tag = .error err ∨
        (∃ L, n.repo.getAllTargetMetadataByName tag = .ok L) ∧ (∃ e, n.repo.listRoles = .error e) ∧
          err = ⟨"No signers for " ++ n.notaryServerURL⟩ := by
  unfold GetSignedMetadata
  rcases n.repo.getAllTargetMetadataByName tag with e | L
  · simp [eq_comm]
  · rcases n.repo.listRoles with e | roles <;> simp

/-! ## Two runs -/

/-- In a permutation of a list with at most one element satisfying `p`, `find?` finds the
same element. -/
theorem find?_eq_of_perm {α : Type} {l₁ l₂ : List α} {p : α → Bool} (hp : l₁.Perm l₂)
    (hu : ∀ a ∈ l₁, ∀ b ∈ l₁, p a → p b → a = b) : l₁.find? p = l₂.find? p := by
  cases h₁ : l₁.find? p with
  | none =>
    rw [eq_comm, List.find?_eq_none]
    exact fun x hx => List.find?_eq_none.1 h₁ x (hp.symm.subset hx)
  | some a =>
    have ha := List.mem_of_find?_eq_some h₁
    cases h₂ : l₂.find? p with
    | none => exact absurd (List.find?_some h₁) (List.find?_eq_none.1 h₂ a (hp.subset ha))
    | some b =>
      rw [hu a ha b (hp.symm.subset (List.mem_of_find?_eq_some h₂)) (List.find?_some h₁)
        (List.find?_some h₂)]

/-- The released targets of `L` named `tag` carry a single digest. -/
def OneReleasedDigest (L : List TargetSignedStruct) (tag : String) : Prop :=
  ∀ t ∈ L, ∀ t' ∈ L, isReleasedTarget t.role → isReleasedTarget t'.role →
    t.name = tag → t'.name = tag → t.key = t'.key

instance (L : List TargetSignedStruct) (tag : String) : Decidable (OneReleasedDigest L tag) :=
  inferInstanceAs (Decidable (∀ t ∈ L, ∀ t' ∈ L, _))

/-- Two rows of a run with one tag are the same row when that tag has one released digest. -/
theorem MatchReleasedSignatures.eq_of_signedTag (h : MatchReleasedSignatures L rows)
    {a b : TrustTagRow} (ha : a ∈ rows) (hb : b ∈ rows) (hab : a.signedTag = b.signedTag)
    (hone : OneReleasedDigest L a.signedTag) : a = b := by
  obtain ⟨t, ht, hrt, hta⟩ := (h.mem_keys a.toTrustTagKey).1 (List.mem_map_of_mem _ ha)
  obtain ⟨t', ht', hrt', htb⟩ := (h.mem_keys b.toTrustTagKey).1 (List.mem_map_of_mem _ hb)
  have hkey : a.toTrustTagKey = b.toTrustTagKey := by
    rw [← hta, ← htb]
    exact hone t ht t' ht' hrt hrt' (congrArg TrustTagKey.signedTag hta)
      (hab ▸ congrArg TrustTagKey.signedTag htb)
  exact List.inj_on_of_nodup_map h.keys_nodup ha hb hkey

/-- A run of `matchReleasedSignatures` on `[(targets, v1, aa), (targets/releases, v1, bb)]`
can list the row of digest `aa` first or the row of `bb` first: both orders are sorted, and a
two-entry Go map is ranged over in either order (the two-element `sort.Slice` keeps the order it
is given). So the first row for `v1` is not the same in every run. -/
theorem matchReleasedSignatures_runs_differ :
    ¬ ∀ (L : List TargetSignedStruct) (rows₁ rows₂ : List TrustTagRow) (tag : String),
      MatchReleasedSignatures L rows₁ → MatchReleasedSignatures L rows₂ →
        firstRowFor rows₁ tag = firstRowFor rows₂ tag := fun h =>
  absurd (h [⟨"targets", "v1", [0xaa]⟩, ⟨"targets/releases", "v1", [0xbb]⟩]
    [⟨⟨"v1", "aa"⟩, []⟩, ⟨⟨"v1", "bb"⟩, []⟩] [⟨⟨"v1", "bb"⟩, []⟩, ⟨⟨"v1", "aa"⟩, []⟩] "v1"
    (by decide) (by decide)) (by decide)

/-- Any two runs of `matchReleasedSignatures` on `L` return the same rows up to order; they
agree on the first row for every tag whose released targets carry one digest, and when every
tag is so, they return the same list. -/
theorem matchReleasedSignatures_runs_agree {rows₁ rows₂ : List TrustTagRow}
    (h₁ : MatchReleasedSignatures L rows₁) (h₂ : MatchReleasedSignatures L rows₂) :
    rows₁.Perm rows₂ ∧
      (∀ tag, OneReleasedDigest L tag → firstRowFor rows₁ tag = firstRowFor rows₂ tag) ∧
      ((∀ tag, OneReleasedDigest L tag) → rows₁ = rows₂) := by
  have hperm : rows₁.Perm rows₂ := h₁.1.trans h₂.1.symm
  refine ⟨hperm, fun tag hone => find?_eq_of_perm hperm ?_, fun hone => ?_⟩
  · intro a ha b hb hpa hpb
    simp only [decide_eq_true_eq] at hpa hpb
    exact h₁.eq_of_signedTag ha hb (hpa.trans hpb.symm) (hpa ▸ hone)
  · refine SortSlice.eq (fun a ha b hb hab hba => ?_) h₁ h₂
    exact h₁.eq_of_signedTag (h₁.1.symm.subset ha) (h₁.1.symm.subset hb)
      (naturalLess_trichotomous hab hba) (hone _)

/-- Two runs that order the two released digests of `v1` differently list the same rows, and give
the same first row for `v2`, whose one released digest is `cc`. -/
theorem matchReleasedSignatures_runs_agree_v1 :
    MatchReleasedSignatures [⟨"targets", "v1", [0xaa]⟩, ⟨"targets/releases", "v1", [0xbb]⟩,
        ⟨"targets", "v2", [0xcc]⟩] [⟨⟨"v1", "aa"⟩, []⟩, ⟨⟨"v1", "bb"⟩, []⟩, ⟨⟨"v2", "cc"⟩, []⟩] ∧
      MatchReleasedSignatures [⟨"targets", "v1", [0xaa]⟩, ⟨"targets/releases", "v1", [0xbb]⟩,
        ⟨"targets", "v2", [0xcc]⟩] [⟨⟨"v1", "bb"⟩, []⟩, ⟨⟨"v1", "aa"⟩, []⟩, ⟨⟨"v2", "cc"⟩, []⟩] ∧
      OneReleasedDigest [⟨"targets", "v1", [0xaa]⟩, ⟨"targets/releases", "v1", [0xbb]⟩,
        ⟨"targets", "v2", [0xcc]⟩] "v2" ∧
      [(⟨⟨"v1", "aa"⟩, []⟩ : TrustTagRow), ⟨⟨"v1", "bb"⟩, []⟩, ⟨⟨"v2", "cc"⟩, []⟩].Perm
        [⟨⟨"v1", "bb"⟩, []⟩, ⟨⟨"v1", "aa"⟩, []⟩, ⟨⟨"v2", "cc"⟩, []⟩] ∧
      firstRowFor [⟨⟨"v1", "aa"⟩, []⟩, ⟨⟨"v1", "bb"⟩, []⟩, ⟨⟨"v2", "cc"⟩, []⟩] "v2" =
        firstRowFor [⟨⟨"v1", "bb"⟩, []⟩, ⟨⟨"v1", "aa"⟩, []⟩, ⟨⟨"v2", "cc"⟩, []⟩] "v2" :=
  have h₁ : MatchReleasedSignatures [⟨"targets", "v1", [0xaa]⟩, ⟨"targets/releases", "v1", [0xbb]⟩,
      ⟨"targets", "v2", [0xcc]⟩] [⟨⟨"v1", "aa"⟩, []⟩, ⟨⟨"v1", "bb"⟩, []⟩, ⟨⟨"v2", "cc"⟩, []⟩] := by
    decide
  have h₂ : MatchReleasedSignatures [⟨"targets", "v1", [0xaa]⟩, ⟨"targets/releases", "v1", [0xbb]⟩,
      ⟨"targets", "v2", [0xcc]⟩] [⟨⟨"v1", "bb"⟩, []⟩, ⟨⟨"v1", "aa"⟩, []⟩, ⟨⟨"v2", "cc"⟩, []⟩] := by
    decide
  have hone : OneReleasedDigest [⟨"targets", "v1", [0xaa]⟩, ⟨"targets/releases", "v1", [0xbb]⟩,
      ⟨"targets", "v2", [0xcc]⟩] "v2" := by
    decide
  ⟨h₁, h₂, hone, (matchReleasedSignatures_runs_agree h₁ h₂).1,
    (matchReleasedSignatures_runs_agree h₁ h₂).2.1 "v2" hone⟩

end ImageValidatingWebhook.Trust
