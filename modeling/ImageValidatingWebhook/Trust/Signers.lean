import ImageValidatingWebhook.Trust.Metadata

/-!
# ImageValidatingWebhook.Trust.Signers — the `Signers` and `AdministrativeKeys` of a trust summary

`GetSignedMetadata` lists as `Signers` the delegation roles of the repository: it maps each
signer name to its key IDs in a Go map (`getDelegationRoleToKeyMap`, skipping `targets/releases`
and the canonical roles), ranges over the map, and sorts by `sort.Slice` in decreasing order of
name. Unlike the signed tags, whose sort can leave rows of one tag in either order, this list
leaves nothing open: the names are the keys of a map, so no two compare equal. The
`AdministrativeKeys` are the root and targets roles of `ListRoles`, named `Root` and `Repository`
and sorted the same way.

* `get?_getDelegationRoleToKeyMap`: the map gives a signer name the key IDs of the last
  delegation role of that name.
* `getSignedMetadata_signers`: every run returns the same `Signers`, one per signer name of the
  delegation roles, in strictly decreasing order of name, each with the key IDs of the last
  delegation role of that name.
* `getSignedMetadata_administrativeKeys`: every run lists the `Root` signers of the root roles
  before the `Repository` signers of the targets roles, and so, with one role of each, the same
  list whatever order `ListRoles` gives.
-/

namespace ImageValidatingWebhook.Trust

/-- `role` is a delegation role `getDelegationRoleToKeyMap` keeps under the signer `name`: it is
not `targets/releases` or a canonical role, and `notaryRoleToSigner` gives it the name `name`. -/
def IsSignerRole (name : String) (role : Role) : Prop :=
  role.name ∉ [releasesRole, canonicalRootRole, canonicalSnapshotRole, canonicalTargetsRole,
    canonicalTimestampRole] ∧ notaryRoleToSigner role.name = name

instance (name : String) : DecidablePred (IsSignerRole name) := fun _ =>
  inferInstanceAs (Decidable (_ ∧ _))

/-! ## The delegation map -/

/-- Each role overwrites the entry of its signer name, so the last role of a name wins. -/
theorem get?_getDelegationRoleToKeyMap (roles : List Role) (name : String) :
    (getDelegationRoleToKeyMap roles).get? name =
      (roles.filter (IsSignerRole name ·)).getLast?.map Role.keyIDs := by
  induction roles using List.reverseRecOn with
  | nil => rfl
  | append_singleton roles role ih =>
    unfold getDelegationRoleToKeyMap at ih ⊢
    rw [List.foldl_append, List.foldl_cons, List.foldl_nil, List.filter_append,
      List.getLast?_append]
    split
    next hres =>
      have hnot : ¬ IsSignerRole name role := fun h => h.1 hres
      simp only [List.filter_cons, List.filter_nil, hnot, decide_False, Bool.false_eq_true,
        if_false, List.getLast?_nil, Option.none_or]
      exact ih
    next hres =>
      rw [GoMap.get?_set]
      by_cases hname : notaryRoleToSigner role.name = name
      · have hsigner : IsSignerRole name role := ⟨hres, hname⟩
        simp only [List.filter_cons, List.filter_nil, hsigner, decide_True, if_true,
          List.getLast?_singleton, hname]
        rfl
      · have hnot : ¬ IsSignerRole name role := fun h => hname h.2
        simp only [List.filter_cons, List.filter_nil, hnot, decide_False, Bool.false_eq_true,
          if_false, List.getLast?_nil, Option.none_or, Ne.symm hname]
        exact ih

theorem mem_keys_getDelegationRoleToKeyMap (roles : List Role) (name : String) :
    name ∈ (getDelegationRoleToKeyMap roles).keys ↔ ∃ role ∈ roles, IsSignerRole name role := by
  simp only [← GoMap.get?_isSome, get?_getDelegationRoleToKeyMap, Option.isSome_map',
    List.getLast?_isSome, ne_eq, List.filter_eq_nil_iff, decide_eq_true_eq, not_forall,
    not_not, exists_prop]

/-! ## The signers of a run -/

section Run

variable {n : NotaryRepo} {tag : String} {repo : TrustRepo}

/-- The signers of a run are a `sort.Slice` of the delegation map's entries. -/
theorem GetSignedMetadata.signers (h : GetSignedMetadata n tag (.ok repo)) :
    SortSlice nameGreater
      ((getDelegationRoleToKeyMap n.repo.getDelegationRoles).entries.map TrustSigner.ofEntry)
      repo.signers := by
  unfold GetSignedMetadata at h
  split at h
  · cases h
  · split at h
    · cases h
    · obtain ⟨_, _, _, -, hsigners, -, hrepo⟩ := h
      cases hrepo
      exact hsigners

/-- The names of the signers the map's entries become are its keys. -/
theorem map_name_ofEntry (m : GoMap String (List String)) :
    (m.entries.map TrustSigner.ofEntry).map TrustSigner.name = m.keys := by
  simp [GoMap.keys, TrustSigner.ofEntry, Function.comp_def]

/-- Two signers of the delegation map that `nameGreater` orders neither way are the same. -/
theorem eq_of_nameGreater {m : GoMap String (List String)} {a b : TrustSigner}
    (ha : a ∈ m.entries.map TrustSigner.ofEntry) (hb : b ∈ m.entries.map TrustSigner.ofEntry)
    (hab : nameGreater a b = false) (hba : nameGreater b a = false) : a = b := by
  have hnodup := m.nodup
  rw [← GoMap.keys, ← map_name_ofEntry] at hnodup
  exact List.inj_on_of_nodup_map hnodup ha hb (String.ext (lexLess_trichotomous hba hab))

end Run

/-- Every run of `GetSignedMetadata` returns the same `Signers`: one signer per signer name of the
delegation roles, in strictly decreasing order of name, each with the key IDs of the last
delegation role of that name. -/
theorem getSignedMetadata_signers {n : NotaryRepo} {tag : String} {repo₁ repo₂ : TrustRepo}
    (h₁ : GetSignedMetadata n tag (.ok repo₁)) (h₂ : GetSignedMetadata n tag (.ok repo₂)) :
    repo₁.signers = repo₂.signers ∧
      repo₁.signers.Sorted (fun a b => lexLess b.name.data a.name.data) ∧
      (∀ name, name ∈ repo₁.signers.map TrustSigner.name ↔
        ∃ role ∈ n.repo.getDelegationRoles, IsSignerRole name role) ∧
      ∀ signer ∈ repo₁.signers, ∃ role,
        (n.repo.getDelegationRoles.filter (IsSignerRole signer.name ·)).getLast? = some role ∧
          signer.keys = role.keyIDs.map TrustKey.mk := by
  have hs := h₁.signers
  have hnames : (repo₁.signers.map TrustSigner.name).Perm
      (getDelegationRoleToKeyMap n.repo.getDelegationRoles).keys :=
    (hs.1.map _).trans (by rw [map_name_ofEntry])
  refine ⟨SortSlice.eq (fun a ha b hb => eq_of_nameGreater ha hb) hs h₂.signers, ?_,
    fun name => hnames.mem_iff.trans (mem_keys_getDelegationRoleToKeyMap _ name), ?_⟩
  · have hdistinct := hnames.nodup_iff.2 (getDelegationRoleToKeyMap _).nodup
    rw [List.Nodup, List.pairwise_map] at hdistinct
    refine (hs.2.and hdistinct).imp fun {a b} ⟨hle, hne⟩ => ?_
    cases hlt : lexLess b.name.data a.name.data
    · exact absurd (String.ext (lexLess_trichotomous hle hlt)) hne
    · rfl
  · intro signer hsigner
    obtain ⟨e, he, rfl⟩ := List.mem_map.1 (hs.1.subset hsigner)
    have hget := GoMap.get?_of_mem he
    rw [get?_getDelegationRoleToKeyMap, Option.map_eq_some'] at hget
    obtain ⟨role, hrole, hkeys⟩ := hget
    exact ⟨role, hrole, by rw [hkeys]; rfl⟩

/-- A repository with delegations `targets/alice` (keys `k1`, then again with `k3`) and
`targets/bob` (`k2`), and the role `targets/releases`: its `Signers` are `bob`, then `alice` with
the key of her last role. -/
theorem getSignedMetadata_signers_alice_bob :
    let n : NotaryRepo := ⟨"https://notary.example.com", ⟨fun _ => .ok [], .ok [],
      [⟨"targets/alice", ["k1"]⟩, ⟨"targets/bob", ["k2"]⟩, ⟨"targets/alice", ["k3"]⟩,
        ⟨"targets/releases", ["k4"]⟩], "registry.example.com/app"⟩⟩
    let repo : TrustRepo :=
      ⟨"registry.example.com/app", [], [⟨"bob", [⟨"k2"⟩]⟩, ⟨"alice", [⟨"k3"⟩]⟩], []⟩
    GetSignedMetadata n "v1" (.ok repo) ∧
      repo.signers.Sorted (fun a b => lexLess b.name.data a.name.data) :=
  have h : GetSignedMetadata ⟨"https://notary.example.com", ⟨fun _ => .ok [], .ok [],
      [⟨"targets/alice", ["k1"]⟩, ⟨"targets/bob", ["k2"]⟩, ⟨"targets/alice", ["k3"]⟩,
        ⟨"targets/releases", ["k4"]⟩], "registry.example.com/app"⟩⟩ "v1"
      (.ok ⟨"registry.example.com/app", [], [⟨"bob", [⟨"k2"⟩]⟩, ⟨"alice", [⟨"k3"⟩]⟩], []⟩) :=
    ⟨[], [⟨"bob", [⟨"k2"⟩]⟩, ⟨"alice", [⟨"k3"⟩]⟩], [], by decide, by decide, by decide, rfl⟩
  ⟨h, (getSignedMetadata_signers h h).2.1⟩

/-! ## The administrative keys of a run -/

/-- The `Root` signers a run lists: one per root role `ListRoles` returns, with its key IDs. -/
def rootSigners (roles : List Role) : List TrustSigner :=
  (roles.filter (·.name = canonicalRootRole)).map fun role => ⟨"Root", role.keyIDs.map TrustKey.mk⟩

/-- The `Repository` signers a run lists: one per targets role, with its key IDs. -/
def repositorySigners (roles : List Role) : List TrustSigner :=
  (roles.filter (·.name = canonicalTargetsRole)).map fun role =>
    ⟨"Repository", role.keyIDs.map TrustKey.mk⟩

/-- A signer named `Root`. -/
def isRootSigner (signer : TrustSigner) : Bool := signer.name = "Root"

@[simp] theorem isRootSigner_root (keys : List TrustKey) : isRootSigner ⟨"Root", keys⟩ = true :=
  rfl

@[simp] theorem isRootSigner_repository (keys : List TrustKey) :
    isRootSigner ⟨"Repository", keys⟩ = false :=
  rfl

/-- `adminSigners` keeps the root and targets roles, in order, and names them `Root` and
`Repository`. -/
theorem filter_isRootSigner_adminSigners (roles : List Role) :
    (adminSigners roles).filter isRootSigner = rootSigners roles ∧
      (adminSigners roles).filter (!isRootSigner ·) = repositorySigners roles := by
  induction roles with
  | nil => exact ⟨rfl, rfl⟩
  | cons role roles ih =>
    simp only [adminSigners, rootSigners, repositorySigners] at ih ⊢
    have hdiff : canonicalRootRole ≠ canonicalTargetsRole := by decide
    by_cases hroot : role.name = canonicalRootRole
    · simp [List.filterMap_cons, List.filter_cons, hroot, hdiff, ih]
    by_cases htargets : role.name = canonicalTargetsRole
    · simp [List.filterMap_cons, List.filter_cons, hroot, htargets, hdiff.symm, ih]
    · simp [List.filterMap_cons, List.filter_cons, hroot, htargets, ih]

theorem name_of_mem_adminSigners {roles : List Role} {signer : TrustSigner}
    (h : signer ∈ adminSigners roles) : signer.name = "Root" ∨ signer.name = "Repository" := by
  obtain ⟨role, -, hrole⟩ := List.mem_filterMap.1 h
  split_ifs at hrole <;> cases hrole
  · exact .inl rfl
  · exact .inr rfl

/-- Sorted in decreasing order of name, a list of `Root` and `Repository` signers has its `Root`
signers first: `Repository` is less than `Root` byte by byte. -/
theorem eq_filter_isRootSigner_append {L : List TrustSigner}
    (hnames : ∀ signer ∈ L, signer.name = "Root" ∨ signer.name = "Repository")
    (hsorted : L.Sorted fun a b => nameGreater b a = false) :
    L = L.filter isRootSigner ++ L.filter (!isRootSigner ·) := by
  induction L with
  | nil => rfl
  | cons x rest ih =>
    rw [List.sorted_cons] at hsorted
    rcases hnames x (List.mem_cons_self _ _) with hx | hx
    · have hroot : isRootSigner x = true := by simp [isRootSigner, hx]
      simp only [List.filter_cons, hroot, if_true, Bool.not_true, Bool.false_eq_true, if_false,
        List.cons_append]
      exact congrArg (x :: ·) (ih (fun s hs => hnames s (List.mem_cons_of_mem _ hs)) hsorted.2)
    · -- a `Repository` signer comes after every `Root` signer
      have hnone : ∀ s ∈ x :: rest, isRootSigner s = false := by
        refine List.forall_mem_cons.2 ⟨by simp [isRootSigner, hx], fun s hs => ?_⟩
        have hle := hsorted.1 s hs
        rcases hnames s (List.mem_cons_of_mem _ hs) with h | h
        · rw [nameGreater, hx, h] at hle
          exact absurd hle (by decide)
        · simp [isRootSigner, h]
      rw [List.filter_eq_nil_iff.2 fun s hs => by simp [hnone s hs],
        List.filter_eq_self.2 fun s hs => by simp [hnone s hs], List.nil_append]

section Run

variable {n : NotaryRepo} {tag : String} {repo : TrustRepo} {roles : List Role}

/-- The administrative keys of a run are a `sort.Slice` of `adminSigners`. -/
theorem GetSignedMetadata.administrativeKeys (hroles : n.repo.listRoles = .ok roles)
    (h : GetSignedMetadata n tag (.ok repo)) :
    SortSlice nameGreater (adminSigners roles) repo.administrativeKeys := by
  unfold GetSignedMetadata at h
  split at h
  · cases h
  · split at h
    · cases h
    · next hok =>
      obtain ⟨_, _, _, -, -, hadmins, hrepo⟩ := h
      cases hrepo
      cases hroles.symm.trans hok
      exact hadmins

end Run

/-- A permutation of a list of at most one element is that list. -/
theorem eq_of_perm_of_length_le_one {α : Type} {l l' : List α} (h : l.Perm l')
    (hl : l'.length ≤ 1) : l = l' := by
  rcases l' with _ | ⟨a, _ | ⟨b, l'⟩⟩
  · exact List.perm_nil.1 h
  · exact List.perm_singleton.1 h
  · simp at hl

/-- Every run of `GetSignedMetadata` lists as `AdministrativeKeys` a `Root` signer with the key
IDs of each root role `ListRoles` returns, followed by a `Repository` signer with those of each
targets role: the sort in decreasing order of name puts `Root` first whatever order `ListRoles`
gives. It leaves open only the order among roles of one name, so with at most one root role and
one targets role every run returns the same list. -/
theorem getSignedMetadata_administrativeKeys {n : NotaryRepo} {tag : String} {repo : TrustRepo}
    {roles : List Role} (hroles : n.repo.listRoles = .ok roles)
    (h : GetSignedMetadata n tag (.ok repo)) :
    ∃ root repository, repo.administrativeKeys = root ++ repository ∧
      root.Perm (rootSigners roles) ∧ repository.Perm (repositorySigners roles) ∧
      ((roles.filter (·.name = canonicalRootRole)).length ≤ 1 →
        (roles.filter (·.name = canonicalTargetsRole)).length ≤ 1 →
        repo.administrativeKeys = rootSigners roles ++ repositorySigners roles) := by
  have hs := h.administrativeKeys hroles
  have hsplit := eq_filter_isRootSigner_append
    (fun _ hsigner => name_of_mem_adminSigners (hs.1.subset hsigner)) hs.2
  obtain ⟨hroot, hrepository⟩ := filter_isRootSigner_adminSigners roles
  have hr := hs.1.filter isRootSigner
  have hp := hs.1.filter (!isRootSigner ·)
  rw [hroot] at hr
  rw [hrepository] at hp
  refine ⟨_, _, hsplit, hr, hp, fun hone₁ hone₂ => ?_⟩
  rw [hsplit, eq_of_perm_of_length_le_one hr (by simpa [rootSigners] using hone₁),
    eq_of_perm_of_length_le_one hp (by simpa [repositorySigners] using hone₂)]

/-- `ListRoles` gives the targets role before the root role, and the run lists `Root` first. -/
theorem getSignedMetadata_administrativeKeys_root_first :
    let n : NotaryRepo := ⟨"https://notary.example.com", ⟨fun _ => .ok [],
      .ok [⟨"targets", ["t1"]⟩, ⟨"snapshot", ["s1"]⟩, ⟨"root", ["r1"]⟩], [],
      "registry.example.com/app"⟩⟩
    let repo : TrustRepo :=
      ⟨"registry.example.com/app", [], [], [⟨"Root", [⟨"r1"⟩]⟩, ⟨"Repository", [⟨"t1"⟩]⟩]⟩
    GetSignedMetadata n "v1" (.ok repo) ∧
      repo.administrativeKeys =
        rootSigners [⟨"targets", ["t1"]⟩, ⟨"snapshot", ["s1"]⟩, ⟨"root", ["r1"]⟩] ++
          repositorySigners [⟨"targets", ["t1"]⟩, ⟨"snapshot", ["s1"]⟩, ⟨"root", ["r1"]⟩] := by
  intro n repo
  have h : GetSignedMetadata n "v1" (.ok repo) :=
    ⟨[], [], _, by decide, by decide, by decide, rfl⟩
  obtain ⟨_, _, -, -, -, hone⟩ := getSignedMetadata_administrativeKeys rfl h
  exact ⟨h, hone (by decide) (by decide)⟩

end ImageValidatingWebhook.Trust
