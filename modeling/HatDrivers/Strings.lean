import HatDrivers.Basic

namespace HatDrivers

open HatDrivers.Lib

/-!
# Strings

The built-in operations on ASCII strings that names and numbers are taken apart with: `s.split(c)`
is `List.splitOn`, `int(s)` is `parseInt`, and `str(n)` is `formatInt`, which `int` reads.
-/

/-- `s.split(c, 1)`, if there is a separator. -/
def splitOnce (s : List Char) (c : Char) : Option (List Char × List Char) :=
  match s.span (· ≠ c) with
  | (first, _ :: rest) => some (first, rest)
  | (_, []) => none

/-- `(s[:pos], s[pos+1:])` for `pos = s.rfind(c)`, if it is not negative. -/
def splitLast (s : List Char) (c : Char) : Option (List Char × List Char) :=
  (splitOnce s.reverse c).map fun parts => (parts.2.reverse, parts.1.reverse)

theorem splitOnce_append {s : List Char} {c : Char} (h : c ∉ s) (t : List Char) :
    splitOnce (s ++ c :: t) c = some (s, t) := by
  have hspan : (s ++ c :: t).span (· ≠ c) = (s, c :: t) := by
    rw [List.span_eq_takeWhile_dropWhile, List.takeWhile_append_of_pos, List.dropWhile_append_of_pos]
    · simp
    · intro x hx
      exact decide_eq_true fun heq => h (heq ▸ hx)
    · intro x hx
      exact decide_eq_true fun heq => h (heq ▸ hx)
  rw [splitOnce, hspan]

theorem splitOnce_eq_some {s first rest : List Char} {c : Char}
    (h : splitOnce s c = some (first, rest)) : s = first ++ c :: rest := by
  have hspan : s.takeWhile (· ≠ c) ++ s.dropWhile (· ≠ c) = s := List.takeWhile_append_dropWhile
  rw [splitOnce, List.span_eq_takeWhile_dropWhile] at h
  cases hdrop : s.dropWhile (· ≠ c) with
  | nil =>
    rw [hdrop] at h
    cases h
  | cons x xs =>
    have hne : s.dropWhile (· ≠ c) ≠ [] := by
      rw [hdrop]
      exact List.cons_ne_nil x xs
    have hnot := List.head_dropWhile_not (· ≠ c) hne
    simp only [hdrop, List.head_cons, decide_eq_false_iff_not, ne_eq, not_not] at hnot
    rw [hdrop] at h hspan
    obtain ⟨rfl, rfl⟩ := Prod.mk.inj (Option.some.inj h)
    rw [hnot] at hspan
    exact hspan.symm

theorem splitLast_append {s t : List Char} {c : Char} (h : c ∉ t) :
    splitLast (s ++ c :: t) c = some (s, t) := by
  have hreverse : (s ++ c :: t).reverse = t.reverse ++ c :: s.reverse := by simp
  rw [splitLast, hreverse, splitOnce_append (by simpa using h)]
  simp

theorem splitLast_eq_some {s first rest : List Char} {c : Char}
    (h : splitLast s c = some (first, rest)) : s = first ++ c :: rest := by
  obtain ⟨⟨xs, ys⟩, hsplit, heq⟩ := Option.map_eq_some_iff.mp h
  obtain ⟨rfl, rfl⟩ := Prod.mk.inj heq
  have hreverse := congrArg List.reverse (splitOnce_eq_some hsplit)
  simpa using hreverse

/-! ### Integers -/

/-- Whitespace around an integer. -/
def isSpace (c : Char) : Bool := c = ' ' ∨ 0x09 ≤ c.toNat ∧ c.toNat ≤ 0x0d

/-- Digits, with single underscores between them. -/
def parseDigits (s : List Char) : Except Exn ℕ :=
  if (s.splitOn '_').all fun part => part ≠ [] ∧ part.all Char.isDigit then
    .ok (Nat.ofDigitChars 10 (s.filter (· ≠ '_')) 0)
  else .error (.valueError "invalid literal for int() with base 10")

/-- `int(s)`. -/
def parseInt (s : List Char) : Except Exn ℤ :=
  match ((s.dropWhile isSpace).reverse.dropWhile isSpace).reverse with
  | '-' :: digits => do return -(← parseDigits digits : ℕ)
  | '+' :: digits => do return (← parseDigits digits : ℕ)
  | digits => do return (← parseDigits digits : ℕ)

/-- `str(n)`. -/
def formatInt (n : ℤ) : List Char :=
  if n < 0 then '-' :: Nat.toDigits 10 n.natAbs else Nat.toDigits 10 n.natAbs

theorem isDigit_of_mem_formatInt {n : ℤ} {c : Char} (h : c ∈ formatInt n) :
    c = '-' ∨ c.isDigit := by
  have hdigits : ∀ c ∈ Nat.toDigits 10 n.natAbs, c.isDigit := by
    intro c hc
    exact Nat.isDigit_of_mem_toDigits (by omega) (by omega) hc
  unfold formatInt at h
  split at h
  · rcases List.mem_cons.mp h with rfl | hc
    · exact .inl rfl
    · exact .inr (hdigits c hc)
  · exact .inr (hdigits c h)

theorem parseDigits_toDigits (n : ℕ) : parseDigits (Nat.toDigits 10 n) = .ok n := by
  have hdigit : ∀ c ∈ Nat.toDigits 10 n, c.isDigit := by
    intro c hc
    exact Nat.isDigit_of_mem_toDigits (by omega) (by omega) hc
  have hnot : '_' ∉ Nat.toDigits 10 n := by
    intro hmem
    have hcontra := hdigit '_' hmem
    revert hcontra
    decide
  have hfilter : (Nat.toDigits 10 n).filter (· ≠ '_') = Nat.toDigits 10 n := by
    rw [List.filter_eq_self]
    intro c hc
    exact decide_eq_true fun heq => hnot (heq ▸ hc)
  have hne : Nat.toDigits 10 n ≠ [] := by
    have hpos : 0 < (Nat.toDigits 10 n).length := Nat.length_toDigits_pos
    exact List.ne_nil_of_length_pos hpos
  rw [parseDigits, List.splitOn_eq_singleton hnot, hfilter, Nat.ofDigitChars_ten_toDigits, if_pos]
  simpa [hne] using hdigit

theorem isSpace_eq_false {c : Char} (h : c = '-' ∨ c.isDigit) : isSpace c = false := by
  rcases h with rfl | hdigit
  · decide
  · have hge : 48 ≤ c.toNat := by
      simp only [Char.isDigit, Bool.and_eq_true, decide_eq_true_eq] at hdigit
      exact hdigit.1
    have hne : c ≠ ' ' := by
      rintro rfl
      revert hge
      decide
    simp only [isSpace, hne, false_or, decide_eq_false_iff_not, not_and, not_le]
    intro _
    omega

theorem dropWhile_eq_self {s : List Char} {p : Char → Bool} (h : ∀ c ∈ s, p c = false) :
    s.dropWhile p = s := by
  cases s with
  | nil => rfl
  | cons c s => rw [List.dropWhile_cons_of_neg (by rw [h c List.mem_cons_self]; decide)]

theorem parseInt_formatInt (n : ℤ) : parseInt (formatInt n) = .ok n := by
  have hspace : ∀ c ∈ formatInt n, isSpace c = false := fun c hc =>
    isSpace_eq_false (isDigit_of_mem_formatInt hc)
  have hstrip : (((formatInt n).dropWhile isSpace).reverse.dropWhile isSpace).reverse =
      formatInt n := by
    rw [dropWhile_eq_self hspace, dropWhile_eq_self (by simpa using hspace), List.reverse_reverse]
  have hdigits := parseDigits_toDigits n.natAbs
  rw [parseInt, hstrip, formatInt]
  by_cases hneg : n < 0
  · rw [if_pos hneg]
    have hvalue : -((n.natAbs : ℕ) : ℤ) = n := by omega
    simp only [hdigits, ok_bind, pure_eq_ok, hvalue]
  · rw [if_neg hneg]
    have hvalue : ((n.natAbs : ℕ) : ℤ) = n := by omega
    -- the first character is a digit, and none of the signs
    cases hcs : Nat.toDigits 10 n.natAbs with
    | nil =>
      have hpos : 0 < (Nat.toDigits 10 n.natAbs).length := Nat.length_toDigits_pos
      rw [hcs] at hpos
      cases hpos
    | cons c cs =>
      have hdigit : c.isDigit := Nat.isDigit_of_mem_toDigits (b := 10) (n := n.natAbs)
        (by omega) (by omega) (by rw [hcs]; exact List.mem_cons_self)
      have hminus : c ≠ '-' := by
        rintro rfl
        revert hdigit
        decide
      have hplus : c ≠ '+' := by
        rintro rfl
        revert hdigit
        decide
      rw [hcs] at hdigits
      split
      · next heq => exact absurd (List.cons.inj heq).1 hminus
      · next heq => exact absurd (List.cons.inj heq).1 hplus
      · simp only [hdigits, ok_bind, pure_eq_ok, hvalue]

end HatDrivers
