import Mathlib.Data.List.Infix
import Mathlib.Data.List.Sort

/-!
# ImageValidatingWebhook.Basic — the Go library and the Kubernetes shapes

What the webhook's Go code takes from its language and from the Kubernetes API, at the level
of detail the code uses it:

* `GoError`: an `error` value, by the text `Error()` gives;
* `Go.contains`, `Go.trimPrefix`, `Go.lastIndex` and `Go.split` (`strings.Contains`,
  `strings.TrimPrefix`, `strings.LastIndex`, `strings.Split`), on the characters of a string:
  the separators the code looks for are ASCII, so cutting a valid UTF-8 string at a byte index
  the code finds is cutting its characters there; a string with one separator splits into the
  pieces around it (`Go.split_append_cons`), and no piece holds one (`Go.mem_splitOn`);
* `GoMap`: a Go map as the entries it holds, keys without repeats (`GoMap.nodup`), in the order
  their keys were first set; ranging over it visits the entries in an order Go leaves open, so
  no definition reads that order;
* `SortSlice`: what `sort.Slice` promises (a permutation with no element after one it is less
  than), which is all a caller may rely on: the sort is not stable; for a strict weak order it
  has a result (`SortSlice.exists`), the only one when no two elements compare neither way
  (`SortSlice.eq`);
* the shapes of `corev1.Pod`, `Container`, `LocalObjectReference` and `Secret`, by the fields
  the webhook reads or writes.
-/

namespace ImageValidatingWebhook

/-- A Go `error`, by the text its `Error()` method returns. -/
structure GoError where
  msg : String
deriving DecidableEq, Repr

namespace Go

/-- `strings.Contains(s, substr)`. -/
def contains (s substr : String) : Bool :=
  decide (substr.data <:+: s.data)

/-- A one-character separator is contained exactly when it occurs. -/
theorem contains_iff_mem {s sep : String} {c : Char} (hsep : sep.data = [c]) :
    contains s sep = true ↔ c ∈ s.data := by
  rw [contains, hsep, decide_eq_true_iff]
  refine ⟨fun h => h.subset (List.mem_singleton_self c), fun h => ?_⟩
  obtain ⟨xs, ys, hs⟩ := List.append_of_mem h
  exact ⟨xs, ys, by simp [hs]⟩

/-- `strings.TrimPrefix(s, p)`: `s` without the leading `p`, or `s` when it does not start
with `p`. -/
def trimPrefix (s p : String) : String :=
  if p.data <+: s.data then ⟨s.data.drop p.data.length⟩ else s

/-- The index of the last `c` among the characters `cs`. -/
def lastIndexOf (c : Char) : List Char → Option Nat
  | [] => none
  | x :: xs =>
    match lastIndexOf c xs with
    | some i => some (i + 1)
    | none => if x = c then some 0 else none

/-- `lastIndexOf` finds nothing exactly when there is no `c`. -/
theorem lastIndexOf_eq_none {c : Char} {cs : List Char} : lastIndexOf c cs = none ↔ c ∉ cs := by
  induction cs with
  | nil => simp [lastIndexOf]
  | cons x xs ih =>
    rw [lastIndexOf]
    split
    next i h =>
      simp [h] at ih
      simp [ih]
    next h =>
      simp [h] at ih
      split_ifs with hx
      · simp [hx]
      · simp [ih, Ne.symm hx]

/-- The index of a `c` with no `c` after it. -/
theorem lastIndexOf_append_cons {c : Char} {ys : List Char} (hys : c ∉ ys) :
    ∀ xs, lastIndexOf c (xs ++ c :: ys) = some xs.length
  | [] => by simp [lastIndexOf, lastIndexOf_eq_none.2 hys]
  | x :: xs => by simp [lastIndexOf, lastIndexOf_append_cons hys xs]

/-- No `c` comes after the index `lastIndexOf` gives. -/
theorem not_mem_drop_of_lastIndexOf {c : Char} :
    ∀ {cs : List Char} {i : Nat}, lastIndexOf c cs = some i → c ∉ cs.drop (i + 1)
  | [], _, h => by cases h
  | x :: xs, i, h => by
    simp only [lastIndexOf] at h
    split at h
    next j hj =>
      cases h
      exact (not_mem_drop_of_lastIndexOf hj : c ∉ xs.drop (j + 1))
    next hj =>
      split at h
      · cases h
        exact lastIndexOf_eq_none.1 hj
      · cases h

/-- `strings.LastIndex(s, sep)` for a one-character `sep`: the index of its last occurrence in
`s`, or `-1`. -/
def lastIndex (s : String) (sep : Char) : Int :=
  match lastIndexOf sep s.data with
  | some i => i
  | none => -1

/-- `strings.Split(s, sep)` for a one-character `sep`: the pieces of `s` between the
separators, one more than there are separators. -/
def split (s : String) (sep : Char) : List String :=
  (s.data.splitOn sep).map String.mk

/-- Every character of a piece `strings.Split` returns is a character of the string split, and
not the separator. -/
theorem mem_splitOn {sep x : Char} {p : List Char} :
    ∀ {cs : List Char}, p ∈ cs.splitOn sep → x ∈ p → x ∈ cs ∧ x ≠ sep
  | [], hp, hx => by simp_all
  | a :: cs, hp, hx => by
    have ih : ∀ {q}, q ∈ cs.splitOnP (· == sep) → x ∈ q → x ∈ a :: cs ∧ x ≠ sep := fun hq hx =>
      (mem_splitOn hq hx).imp_left (List.mem_cons_of_mem a)
    simp only [List.splitOn, List.splitOnP_cons] at hp
    split_ifs at hp with hsep
    · rcases List.mem_cons.1 hp with rfl | hp
      · cases hx
      · exact ih hp hx
    · obtain ⟨q, qs, hL⟩ := List.exists_cons_of_ne_nil (List.splitOnP_ne_nil (· == sep) cs)
      rw [hL, List.modifyHead_cons] at hp
      rcases List.mem_cons.1 hp with rfl | hp
      · rcases List.mem_cons.1 hx with rfl | hx
        · exact ⟨List.mem_cons_self _ _, by simpa using hsep⟩
        · exact ih (hL ▸ List.mem_cons_self _ _) hx
      · exact ih (hL ▸ List.mem_cons_of_mem _ hp) hx

/-- The same for the piece `strings.Split` puts at an index, `""` when there is none. -/
theorem mem_split_getD {s : String} {sep c : Char} {i : Nat}
    (hc : c ∈ ((split s sep).getD i "").data) : c ∈ s.data ∧ c ≠ sep := by
  rw [List.getD_eq_getElem?_getD] at hc
  rcases hp : (split s sep)[i]? with _ | p
  · simp [hp] at hc
  · obtain ⟨q, hq, rfl⟩ := List.mem_map.1 (List.mem_iff_getElem?.2 ⟨i, hp⟩)
    rw [hp, Option.getD_some] at hc
    exact mem_splitOn hq hc

/-- A string with one separator splits into the pieces before and after it. -/
theorem split_append_cons {n t : List Char} {c : Char} (hn : c ∉ n) (ht : c ∉ t) :
    split ⟨n ++ c :: t⟩ c = [⟨n⟩, ⟨t⟩] := by
  have hfree : ∀ {l : List Char}, c ∉ l → ∀ x ∈ l, ¬(x == c) = true := fun hl x hx => by
    simpa using ne_of_mem_of_not_mem hx hl
  simp only [split, List.splitOn]
  rw [List.splitOnP_first _ n (hfree hn) c (by simp) t, List.splitOnP_eq_single _ t (hfree ht)]
  rfl

end Go

/-! ## Go maps -/

/-- A Go map: its entries in the order their keys were first set, each key once. -/
structure GoMap (κ ν : Type) where
  entries : List (κ × ν)
  nodup : (entries.map Prod.fst).Nodup

namespace GoMap

variable {κ ν : Type} [DecidableEq κ]

/-- The empty map literal. -/
def empty : GoMap κ ν := ⟨[], List.nodup_nil⟩

/-- The keys of the map. -/
def keys (m : GoMap κ ν) : List κ := m.entries.map Prod.fst

/-- The value of `k` among the entries `es`, from the first entry with that key. -/
def lookup (k : κ) : List (κ × ν) → Option ν
  | [] => none
  | e :: es => if e.1 = k then some e.2 else lookup k es

/-- The lookup `v, ok := m[k]`, as `some v` or `none`. -/
def get? (m : GoMap κ ν) (k : κ) : Option ν := lookup k m.entries

/-- The entries after `m[k] = v`: the entry of `k` gets the value `v` where it stands, or a new
entry for `k` comes last. -/
def setEntry (k : κ) (v : ν) : List (κ × ν) → List (κ × ν)
  | [] => [(k, v)]
  | e :: es => if e.1 = k then (k, v) :: es else e :: setEntry k v es

theorem map_fst_setEntry (k : κ) (v : ν) (es : List (κ × ν)) :
    (setEntry k v es).map Prod.fst =
      if k ∈ es.map Prod.fst then es.map Prod.fst else es.map Prod.fst ++ [k] := by
  induction es with
  | nil => rfl
  | cons e es ih =>
    by_cases h : e.1 = k
    · simp [setEntry, h]
    · by_cases hk : k ∈ es.map Prod.fst <;> simp_all [setEntry, Ne.symm h]

theorem lookup_setEntry (k k' : κ) (v : ν) (es : List (κ × ν)) :
    lookup k' (setEntry k v es) = if k' = k then some v else lookup k' es := by
  induction es with
  | nil =>
    by_cases h : k' = k
    · simp [setEntry, lookup, h]
    · simp [setEntry, lookup, h, Ne.symm h]
  | cons e es ih =>
    by_cases h : e.1 = k
    · by_cases h' : k' = k
      · simp [setEntry, lookup, h, h']
      · simp [setEntry, lookup, h, h', Ne.symm h']
    · by_cases h' : e.1 = k'
      · have hk : k' ≠ k := h' ▸ h
        simp [setEntry, lookup, h, h', hk]
      · simp [setEntry, lookup, h, h', ih]

/-- What a lookup finds is an entry of the map. -/
theorem mem_of_lookup {k : κ} {v : ν} :
    ∀ {es : List (κ × ν)}, lookup k es = some v → (k, v) ∈ es
  | [], h => by cases h
  | (k', v') :: es, h => by
    unfold lookup at h
    split at h
    · rename_i hk
      cases h
      cases hk
      exact List.mem_cons_self _ _
    · exact List.mem_cons_of_mem _ (mem_of_lookup h)

theorem lookup_isSome (k : κ) (es : List (κ × ν)) :
    (lookup k es).isSome ↔ k ∈ es.map Prod.fst := by
  induction es with
  | nil => simp [lookup]
  | cons e es ih =>
    by_cases h : e.1 = k
    · simp [lookup, h]
    · simp [lookup, h, ih, Ne.symm h]

/-- The assignment `m[k] = v`. -/
def set (m : GoMap κ ν) (k : κ) (v : ν) : GoMap κ ν :=
  ⟨setEntry k v m.entries, by
    rw [map_fst_setEntry]
    split
    · exact m.nodup
    · exact m.nodup.append (List.nodup_singleton k) (List.disjoint_singleton.2 ‹_›)⟩

omit [DecidableEq κ] in
@[simp] theorem keys_empty : (empty : GoMap κ ν).keys = [] := rfl

@[simp] theorem get?_empty (k : κ) : (empty : GoMap κ ν).get? k = none := rfl

@[simp] theorem mem_keys_set (m : GoMap κ ν) (k k' : κ) (v : ν) :
    k' ∈ (m.set k v).keys ↔ k' ∈ m.keys ∨ k' = k := by
  simp only [keys, set, map_fst_setEntry]
  split <;> simp_all

@[simp] theorem get?_set (m : GoMap κ ν) (k k' : κ) (v : ν) :
    (m.set k v).get? k' = if k' = k then some v else m.get? k' :=
  lookup_setEntry k k' v m.entries

theorem get?_isSome (m : GoMap κ ν) (k : κ) : (m.get? k).isSome ↔ k ∈ m.keys :=
  lookup_isSome k m.entries

/-- Assigning to a key the map holds leaves its keys as they were. -/
theorem keys_set_of_mem {m : GoMap κ ν} {k : κ} (hk : k ∈ m.keys) (v : ν) :
    (m.set k v).keys = m.keys := by
  simp only [keys, set, map_fst_setEntry]
  exact if_pos hk

theorem lookup_of_mem {es : List (κ × ν)} (hnd : (es.map Prod.fst).Nodup) {e : κ × ν}
    (he : e ∈ es) : lookup e.1 es = some e.2 := by
  induction es with
  | nil => cases he
  | cons a es ih =>
    rw [List.map_cons, List.nodup_cons] at hnd
    rcases List.mem_cons.1 he with rfl | he
    · simp [lookup]
    · have hne : a.1 ≠ e.1 := fun h => hnd.1 (h ▸ List.mem_map_of_mem Prod.fst he)
      simp [lookup, hne, ih hnd.2 he]

/-- An entry of the map is what looking up its key finds. -/
theorem get?_of_mem {m : GoMap κ ν} {e : κ × ν} (he : e ∈ m.entries) :
    m.get? e.1 = some e.2 :=
  lookup_of_mem m.nodup he

end GoMap

/-! ## sort.Slice -/

/-- What `sort.Slice` promises for a `less` that is a strict weak order: the result `ys` is a
permutation of the input `xs` in which no element comes after one it is `less` than. Which of
two elements that compare neither way comes first is left open, and so is it here. -/
def SortSlice {α : Type} (less : α → α → Bool) (xs ys : List α) : Prop :=
  ys.Perm xs ∧ ys.Sorted fun a b => less b a = false

instance {α : Type} [DecidableEq α] (less : α → α → Bool) (xs ys : List α) :
    Decidable (SortSlice less xs ys) :=
  inferInstanceAs (Decidable (_ ∧ _))

/-- For a strict weak order (irreflexive and transitive, and elements that compare neither way
with a third compare neither way with each other) `sort.Slice` has a result: the insertion sort
by it. -/
theorem SortSlice.exists {α : Type} (less : α → α → Bool) (hirrefl : ∀ a, less a a = false)
    (htrans : ∀ {a b c}, less a b → less b c → less a c)
    (hntrans : ∀ {a b c}, less b a = false → less c b = false → less c a = false) (xs : List α) :
    ∃ ys, SortSlice less xs ys := by
  have : IsTotal α fun a b => less b a = false := ⟨fun a b => by
    cases h : less a b
    · exact .inr rfl
    · exact .inl (Bool.eq_false_iff.2 fun h' => by simpa [hirrefl] using htrans h h')⟩
  have : IsTrans α fun a b => less b a = false := ⟨fun _ _ _ h₁ h₂ => hntrans h₁ h₂⟩
  exact ⟨_, List.perm_insertionSort _ xs, List.sorted_insertionSort _ xs⟩

/-- Two results of `sort.Slice` on one list are equal when no two different elements of the list
compare neither way. -/
theorem SortSlice.eq {α : Type} {less : α → α → Bool} {xs ys₁ ys₂ : List α}
    (hanti : ∀ a ∈ xs, ∀ b ∈ xs, less a b = false → less b a = false → a = b)
    (h₁ : SortSlice less xs ys₁) (h₂ : SortSlice less xs ys₂) : ys₁ = ys₂ :=
  List.Perm.eq_of_sorted (fun a b ha hb hab hba =>
      hanti a (h₁.1.subset ha) b (h₂.1.subset hb) hba hab) h₁.2 h₂.2 (h₁.1.trans h₂.1.symm)

/-- A transitive `less` under which elements that compare neither way are equal: its negation
is transitive. -/
theorem not_less_trans_of_trichotomous {α : Type} {less : α → α → Bool}
    (htrans : ∀ {a b c}, less a b → less b c → less a c)
    (htri : ∀ {a b}, less a b = false → less b a = false → a = b) {a b c : α}
    (h₁ : less b a = false) (h₂ : less c b = false) : less c a = false := by
  cases hbc : less b c
  · obtain rfl := htri hbc h₂
    exact h₁
  · cases hca : less c a
    · rfl
    · rw [htrans hbc hca] at h₁
      cases h₁

/-! ## Kubernetes objects -/

/-- `corev1.Container`, by the one field the webhook reads and writes. -/
structure Container where
  image : String
deriving DecidableEq, Repr

/-- `corev1.LocalObjectReference`: a pull secret the pod names, in its own namespace. -/
structure LocalObjectReference where
  name : String
deriving DecidableEq, Repr

/-- `corev1.Pod`, by the fields the webhook reads: `ObjectMeta.Namespace` (`ns`, since
`namespace` is a keyword) and the spec's containers and pull secrets. -/
structure Pod where
  ns : String
  initContainers : List Container
  containers : List Container
  imagePullSecrets : List LocalObjectReference
deriving DecidableEq, Repr

/-- `corev1.Secret`: where it lives and its `Data`, each value's bytes read as a string. -/
structure Secret where
  ns : String
  name : String
  data : List (String × String)
deriving DecidableEq, Repr

end ImageValidatingWebhook
