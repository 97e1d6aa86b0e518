import Mathlib.Data.Char
import ImageValidatingWebhook.Basic

/-!
# ImageValidatingWebhook.Trust.NaturalOrder — `sortorder.NaturalLess`

`matchReleasedSignatures` sorts its rows with `sortorder.NaturalLess` on the signed tag. That
comparison walks both strings together: two non-digit bytes compare as bytes, a digit sorts
before a non-digit, and two runs of digits compare as numbers (fewer significant digits first,
then the digits themselves, then fewer leading zeros). When one string runs out with all else
equal, the shorter one is first. The model cuts each string into those pieces (`chunks`) and
compares the piece lists, which is the walk the loop makes; comparing characters instead of
UTF-8 bytes gives the same answer, since UTF-8 keeps the order of code points.

* `naturalLess_trichotomous`: two different strings are ordered one way or the other, so a
  sort by this comparison leaves no choice among rows with distinct tags.
* `naturalLess_irrefl`, `naturalLess_trans`: with trichotomy, `NaturalLess` is a strict total
  order, through `chunksLess_cons_cons`: the comparison of piece lists is the lexicographic
  order of `Chunk.less`.
-/

namespace ImageValidatingWebhook.Trust

/-- A piece of a string as `NaturalLess` walks it: a maximal run of digits, or one other
character. -/
inductive Chunk where
  | digits (ds : List Char)
  | other (c : Char)
deriving DecidableEq, Repr

/-- The pieces of a string, left to right. -/
def chunks : List Char → List Chunk
  | [] => []
  | c :: cs =>
    if c.isDigit then
      match chunks cs with
      | .digits ds :: rest => .digits (c :: ds) :: rest
      | rest => .digits [c] :: rest
    else .other c :: chunks cs

/-- The characters a piece stands for. -/
def Chunk.chars : Chunk → List Char
  | .digits ds => ds
  | .other c => [c]

/-- Putting the pieces back together gives the string: no two strings have the same pieces. -/
theorem flatten_chunks (s : List Char) : ((chunks s).map Chunk.chars).flatten = s := by
  induction s with
  | nil => rfl
  | cons c cs ih =>
    by_cases hc : c.isDigit
    · simp only [chunks, hc, if_true]
      split <;> simp_all [Chunk.chars]
    · simp [chunks, hc, Chunk.chars, ih]

theorem chunks_injective {s t : List Char} (h : chunks s = chunks t) : s = t := by
  rw [← flatten_chunks s, h, flatten_chunks]

/-- Go's `<` on two strings: the first character where they differ decides, and a string that
runs out first is less. -/
def lexLess : List Char → List Char → Bool
  | [], [] => false
  | [], _ :: _ => true
  | _ :: _, [] => false
  | a :: as, b :: bs => if a = b then lexLess as bs else decide (a < b)

/-- How `NaturalLess` orders two digit runs: fewer significant digits first, then the digits
(as a string: equal lengths make that the numeric order), then fewer leading zeros. -/
def digitsLess (a b : List Char) : Bool :=
  let na := a.dropWhile (· = '0')
  let nb := b.dropWhile (· = '0')
  if na.length ≠ nb.length then na.length < nb.length
  else if na ≠ nb then lexLess na nb
  else (a.takeWhile (· = '0')).length < (b.takeWhile (· = '0')).length

/-- `NaturalLess` on the pieces: it stops at the first pair of pieces that differ. -/
def chunksLess : List Chunk → List Chunk → Bool
  | [], [] => false
  | [], _ :: _ => true
  | _ :: _, [] => false
  | .digits a :: as, .digits b :: bs => if a = b then chunksLess as bs else digitsLess a b
  | .digits _ :: _, .other _ :: _ => true
  | .other _ :: _, .digits _ :: _ => false
  | .other a :: as, .other b :: bs => if a = b then chunksLess as bs else decide (a < b)

/-- `sortorder.NaturalLess(s, t)`. -/
def naturalLess (s t : String) : Bool := chunksLess (chunks s.data) (chunks t.data)

example : naturalLess "v2" "v10" = true := by decide

example : naturalLess "1.9" "1.10" = true ∧ naturalLess "latest" "v1" = true := by decide

/-- How `NaturalLess` orders two pieces that differ: digit runs by `digitsLess`, a digit run
before any other character, and two other characters as characters. -/
def Chunk.less : Chunk → Chunk → Bool
  | .digits a, .digits b => digitsLess a b
  | .digits _, .other _ => true
  | .other _, .digits _ => false
  | .other a, .other b => decide (a < b)

/-- `chunksLess` is the lexicographic order the order of pieces gives. -/
theorem chunksLess_cons_cons (a b : Chunk) (as bs : List Chunk) :
    chunksLess (a :: as) (b :: bs) = if a = b then chunksLess as bs else a.less b := by
  cases a <;> cases b <;> simp [chunksLess, Chunk.less]

/-! ## Two different strings are ordered -/

/-- A run of digits is its leading zeros followed by the rest. -/
theorem takeWhile_zero (ds : List Char) :
    ds.takeWhile (· = '0') = List.replicate (ds.takeWhile (· = '0')).length '0' :=
  List.eq_replicate_iff.2 ⟨rfl, fun c hc => by simpa using List.mem_takeWhile_imp hc⟩

theorem eq_of_zeros_eq {a b : List Char}
    (hz : (a.takeWhile (· = '0')).length = (b.takeWhile (· = '0')).length)
    (hn : a.dropWhile (· = '0') = b.dropWhile (· = '0')) : a = b := by
  rw [← List.takeWhile_append_dropWhile (fun c => decide (c = '0')) a,
    ← List.takeWhile_append_dropWhile (fun c => decide (c = '0')) b,
    takeWhile_zero a, takeWhile_zero b, hz, hn]

theorem lexLess_trichotomous : ∀ {a b : List Char}, lexLess a b = false →
    lexLess b a = false → a = b
  | [], [], _, _ => rfl
  | [], _ :: _, h₁, _ => by simp [lexLess] at h₁
  | _ :: _, [], _, h₂ => by simp [lexLess] at h₂
  | x :: xs, y :: ys, h₁, h₂ => by
    by_cases hxy : x = y
    · subst hxy
      simp only [lexLess, if_true] at h₁ h₂
      rw [lexLess_trichotomous h₁ h₂]
    · simp only [lexLess, hxy, Ne.symm hxy, if_false, decide_eq_false_iff_not, not_lt] at h₁ h₂
      exact absurd (le_antisymm h₂ h₁) hxy

theorem digitsLess_trichotomous {a b : List Char} (h₁ : digitsLess a b = false)
    (h₂ : digitsLess b a = false) : a = b := by
  simp only [digitsLess, ne_eq, ite_not] at h₁ h₂
  by_cases hl : (a.dropWhile (· = '0')).length = (b.dropWhile (· = '0')).length
  · simp only [hl, if_true] at h₁ h₂
    by_cases hn : a.dropWhile (· = '0') = b.dropWhile (· = '0')
    · simp only [hn, if_true, decide_eq_false_iff_not, not_lt] at h₁ h₂
      exact eq_of_zeros_eq (by omega) hn
    · simp only [hn, if_false, Ne.symm hn] at h₁ h₂
      exact absurd (lexLess_trichotomous h₁ h₂) hn
  · simp only [hl, Ne.symm hl, if_false, decide_eq_false_iff_not, not_lt] at h₁ h₂
    omega

theorem Chunk.less_trichotomous : ∀ {a b : Chunk}, a.less b = false → b.less a = false → a = b
  | .digits _, .digits _, h₁, h₂ => congrArg _ (digitsLess_trichotomous h₁ h₂)
  | .digits _, .other _, h₁, _ => by simp [Chunk.less] at h₁
  | .other _, .digits _, _, h₂ => by simp [Chunk.less] at h₂
  | .other _, .other _, h₁, h₂ => by
    simp only [Chunk.less, decide_eq_false_iff_not, not_lt] at h₁ h₂
    exact congrArg _ (le_antisymm h₂ h₁)

/-- `chunksLess` is trichotomous: lists of pieces that neither precedes are equal. -/
theorem chunksLess_trichotomous : ∀ {as bs : List Chunk}, chunksLess as bs = false →
    chunksLess bs as = false → as = bs
  | [], [], _, _ => rfl
  | [], _ :: _, h₁, _ => by simp [chunksLess] at h₁
  | _ :: _, [], _, h₂ => by simp [chunksLess] at h₂
  | a :: as, b :: bs, h₁, h₂ => by
    rw [chunksLess_cons_cons] at h₁ h₂
    by_cases hab : a = b
    · subst hab
      simp only [if_true] at h₁ h₂
      rw [chunksLess_trichotomous h₁ h₂]
    · simp only [hab, Ne.symm hab, if_false] at h₁ h₂
      exact absurd (Chunk.less_trichotomous h₁ h₂) hab

/-- Two strings that `naturalLess` orders neither way are equal. -/
theorem naturalLess_trichotomous {s t : String} (h₁ : naturalLess s t = false)
    (h₂ : naturalLess t s = false) : s = t :=
  String.ext (chunks_injective (chunksLess_trichotomous h₁ h₂))

/-! ## A strict total order -/

theorem lexLess_irrefl : ∀ a : List Char, lexLess a a = false
  | [] => rfl
  | _ :: as => by simp [lexLess, lexLess_irrefl as]

theorem lexLess_trans : ∀ {a b c : List Char}, lexLess a b → lexLess b c → lexLess a c
  | [], [], _, h₁, _ => by simp [lexLess] at h₁
  | [], _ :: _, [], _, h₂ => by simp [lexLess] at h₂
  | [], _ :: _, _ :: _, _, _ => rfl
  | _ :: _, [], _, h₁, _ => by simp [lexLess] at h₁
  | _ :: _, _ :: _, [], _, h₂ => by simp [lexLess] at h₂
  | x :: xs, y :: ys, z :: zs, h₁, h₂ => by
    by_cases hxy : x = y
    · subst hxy
      by_cases hxz : x = z
      · subst hxz
        simp only [lexLess, if_true] at h₁ h₂ ⊢
        exact lexLess_trans h₁ h₂
      · simpa [lexLess, hxz] using h₂
    · have hlt : x < y := by simpa [lexLess, hxy] using h₁
      by_cases hyz : y = z
      · subst hyz
        simpa [lexLess, hxy] using hlt
      · have hlt' : y < z := by simpa [lexLess, hyz] using h₂
        simp [lexLess, ne_of_lt (lt_trans hlt hlt'), lt_trans hlt hlt']

/-- `digitsLess` orders by the number of significant digits, then by those digits, then by the
number of leading zeros. -/
theorem digitsLess_iff {a b : List Char} :
    digitsLess a b ↔
      (a.dropWhile (· = '0')).length < (b.dropWhile (· = '0')).length ∨
      ((a.dropWhile (· = '0')).length = (b.dropWhile (· = '0')).length ∧
        lexLess (a.dropWhile (· = '0')) (b.dropWhile (· = '0'))) ∨
      (a.dropWhile (· = '0') = b.dropWhile (· = '0') ∧
        (a.takeWhile (· = '0')).length < (b.takeWhile (· = '0')).length) := by
  simp only [digitsLess]
  split_ifs with hl hn
  · have hn : a.dropWhile (· = '0') ≠ b.dropWhile (· = '0') := fun h => hl (congrArg _ h)
    simp [hl, hn]
  · push_neg at hl
    simp [hl, hn]
  · push_neg at hn
    simp [hn, lexLess_irrefl]

theorem digitsLess_irrefl (a : List Char) : digitsLess a a = false := by
  simp [digitsLess]

theorem digitsLess_trans {a b c : List Char} (h₁ : digitsLess a b) (h₂ : digitsLess b c) :
    digitsLess a c := by
  rw [digitsLess_iff] at h₁ h₂ ⊢
  rcases h₁ with h₁ | ⟨hl₁, h₁⟩ | ⟨hn₁, h₁⟩ <;> rcases h₂ with h₂ | ⟨hl₂, h₂⟩ | ⟨hn₂, h₂⟩
  · exact .inl (by omega)
  · exact .inl (by omega)
  · exact .inl (hn₂ ▸ h₁)
  · exact .inl (by omega)
  · exact .inr (.inl ⟨hl₁.trans hl₂, lexLess_trans h₁ h₂⟩)
  · exact .inr (.inl ⟨hn₂ ▸ hl₁, hn₂ ▸ h₁⟩)
  · exact .inl (hn₁ ▸ h₂)
  · exact .inr (.inl ⟨hn₁ ▸ hl₂, hn₁ ▸ h₂⟩)
  · exact .inr (.inr ⟨hn₁.trans hn₂, by omega⟩)

theorem Chunk.less_irrefl (a : Chunk) : a.less a = false := by
  cases a <;> simp [Chunk.less, digitsLess_irrefl]

theorem Chunk.less_trans : ∀ {a b c : Chunk}, a.less b → b.less c → a.less c
  | .digits _, .digits _, .digits _, h₁, h₂ => digitsLess_trans h₁ h₂
  | .digits _, _, .other _, _, _ => rfl
  | .digits _, .other _, .digits _, _, h₂ => by simp [Chunk.less] at h₂
  | .other _, .digits _, _, h₁, _ => by simp [Chunk.less] at h₁
  | .other _, .other _, .digits _, _, h₂ => by simp [Chunk.less] at h₂
  | .other _, .other _, .other _, h₁, h₂ => by
    simp only [Chunk.less, decide_eq_true_eq] at h₁ h₂ ⊢
    exact lt_trans h₁ h₂

theorem chunksLess_irrefl : ∀ as : List Chunk, chunksLess as as = false
  | [] => rfl
  | a :: as => by rw [chunksLess_cons_cons, if_pos rfl, chunksLess_irrefl as]

theorem chunksLess_trans : ∀ {as bs cs : List Chunk}, chunksLess as bs → chunksLess bs cs →
    chunksLess as cs
  | [], [], _, h₁, _ => by simp [chunksLess] at h₁
  | [], _ :: _, [], _, h₂ => by simp [chunksLess] at h₂
  | [], _ :: _, _ :: _, _, _ => rfl
  | _ :: _, [], _, h₁, _ => by simp [chunksLess] at h₁
  | _ :: _, _ :: _, [], _, h₂ => by simp [chunksLess] at h₂
  | a :: as, b :: bs, c :: cs, h₁, h₂ => by
    rw [chunksLess_cons_cons] at h₁ h₂ ⊢
    by_cases hab : a = b
    · subst hab
      by_cases hac : a = c
      · subst hac
        simp only [if_true] at h₁ h₂ ⊢
        exact chunksLess_trans h₁ h₂
      · simpa [hac] using h₂
    · have hlt : a.less b := by simpa [hab] using h₁
      by_cases hbc : b = c
      · subst hbc
        simpa [hab] using hlt
      · have hlt' : b.less c := by simpa [hbc] using h₂
        have hac : a ≠ c := by
          rintro rfl
          exact absurd (Chunk.less_trans hlt hlt') (by simp [Chunk.less_irrefl])
        simpa [hac] using Chunk.less_trans hlt hlt'

theorem naturalLess_irrefl (s : String) : naturalLess s s = false :=
  chunksLess_irrefl _

theorem naturalLess_trans {s t u : String} (h₁ : naturalLess s t) (h₂ : naturalLess t u) :
    naturalLess s u :=
  chunksLess_trans h₁ h₂

end ImageValidatingWebhook.Trust
