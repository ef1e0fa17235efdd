import NodeRelief.Text.Blank
import NodeRelief.Text.Digit
import Mathlib.Algebra.Group.Nat.Defs
import Mathlib.Data.List.TakeWhile

/-! # Texts of digits

A row of ASCII digits spells a number, below the power of ten that it has places for. Digits are no
blanks, so they stay when blanks are taken off the ends of a text. -/

namespace NodeRelief.Text

/-! ## Digits -/

theorem toNat_of_isAsciiDigit {c : Char} (h : isAsciiDigit c = true) :
    48 ≤ c.toNat ∧ c.toNat ≤ 57 := by
  simpa [isAsciiDigit, Char.le_def, UInt32.le_iff_toNat_le] using h

theorem digitValue?_of_isAsciiDigit {c : Char} (h : isAsciiDigit c = true) :
    digitValue? c = some (c.toNat - 48) := by
  have bounds := toNat_of_isAsciiDigit h
  have found : zeros.find? (fun z => z ≤ c.toNat && c.toNat < z + 10) = some 48 := by
    refine List.find?_cons_of_pos ?_
    simp only [Bool.and_eq_true, decide_eq_true_eq]
    omega
  rw [digitValue?, found]
  rfl

theorem isDigit_of_isAsciiDigit {c : Char} (h : isAsciiDigit c = true) : isDigit c = true := by
  rw [isDigit, digitValue?_of_isAsciiDigit h]
  rfl

theorem toLower_of_isAsciiDigit {c : Char} (h : isAsciiDigit c = true) : c.toLower = c := by
  have bounds := toNat_of_isAsciiDigit h
  refine dif_neg ?_
  rintro ⟨least, -⟩
  have : 65 ≤ c.toNat := by simpa [UInt32.le_iff_toNat_le] using least
  omega

theorem isBlank_of_isAsciiDigit {c : Char} (h : isAsciiDigit c = true) : isBlank c = false := by
  have bounds := toNat_of_isAsciiDigit h
  simp only [isBlank, isWhiteSpace, Bool.or_eq_false_iff, Bool.and_eq_false_iff, beq_eq_false_iff_ne,
    decide_eq_false_iff_not]
  omega

theorem ne_of_isAsciiDigit {c x : Char} (h : isAsciiDigit c = true) (hx : isAsciiDigit x = false) :
    c ≠ x := by
  rintro rfl
  rw [h] at hx
  cases hx

/-! ## Numerals -/

/-- The characters are the decimal digits of the number, at so many places. -/
structure Spells (width : Nat) (s : List Char) (n : Nat) : Prop where
  length : s.length = width
  digits : ∀ c ∈ s, isAsciiDigit c = true
  value : Nat.ofDigitChars 10 s 0 = n

/-- A number below a power of ten has a numeral of that many places, zeros in front. -/
theorem spells_paddedNumeral {width n : Nat} (hw : 0 < width) (h : n < 10 ^ width) :
    Spells width (paddedNumeral width n).toList n := by
  have short : (Nat.toDigits 10 n).length ≤ width :=
    (Nat.length_toDigits_le_iff (by decide) hw).mpr h
  simp only [paddedNumeral]
  rw [String.toList_ofList]
  refine ⟨?_, ?_, ?_⟩
  · rw [List.length_append, List.length_replicate]
    omega
  · intro c hc
    rcases List.mem_append.mp hc with hc | hc
    · rw [List.eq_of_mem_replicate hc]
      rfl
    · exact Nat.isDigit_of_mem_toDigits (by decide) (by decide) hc
  · rw [Nat.ofDigitChars_append, Nat.ofDigitChars_replicate_zero, Nat.mul_zero,
      Nat.ofDigitChars_toDigits (by decide) (by decide)]

theorem mapM_asciiDigit? {s : List Char} (h : ∀ c ∈ s, isAsciiDigit c = true) :
    s.mapM asciiDigit? = some (s.map fun c => c.toNat - 48) := by
  induction s with
  | nil => rfl
  | cons c s ih =>
      rw [List.mapM_cons, ih fun c hc => h c (by simp [hc]), asciiDigit?, if_pos (h c (by simp))]
      rfl

theorem ofDigitChars_cons_zero (c : Char) (s : List Char) :
    Nat.ofDigitChars 10 (c :: s) 0 = 10 ^ s.length * (c.toNat - 48) + Nat.ofDigitChars 10 s 0 := by
  rw [Nat.ofDigitChars_cons, Nat.ofDigitChars_eq_ofDigitChars_zero, Nat.mul_zero, Nat.zero_add]
  rfl

theorem ofDigitChars_lt {s : List Char} (h : ∀ c ∈ s, isAsciiDigit c = true) :
    Nat.ofDigitChars 10 s 0 < 10 ^ s.length := by
  induction s with
  | nil => simp
  | cons c s ih =>
      have digit := toNat_of_isAsciiDigit (h c (by simp))
      have rest := ih fun a ha => h a (by simp [ha])
      have top : 10 ^ s.length * (c.toNat - 48) ≤ 10 ^ s.length * 9 :=
        Nat.mul_le_mul_left _ (by omega)
      rw [ofDigitChars_cons_zero, List.length_cons, Nat.pow_succ]
      omega

/-! ## Blanks -/

/-- Blanks around a text are taken off, and nothing else. -/
theorem strip_padded {p : Char → Bool} {before core after : List Char}
    (hbefore : ∀ c ∈ before, p c = true) (hcore : ∀ c ∈ core, p c = false)
    (hafter : ∀ c ∈ after, p c = true) : strip p (before ++ core ++ after) = core := by
  have kept {s : List Char} (h : ∀ c ∈ s, p c = false) : s.dropWhile p = s := by
    cases s with
    | nil => rfl
    | cons c s => simp [h c (by simp)]
  have emptied : after.reverse.dropWhile p = [] :=
    List.dropWhile_eq_nil_iff.mpr fun c hc => hafter c (List.mem_reverse.mp hc)
  simp only [strip]
  rw [List.append_assoc, List.dropWhile_append_of_pos hbefore]
  cases core with
  | nil =>
      rw [List.nil_append, List.dropWhile_eq_nil_iff.mpr hafter]
      rfl
  | cons c core =>
      have first : (c :: core ++ after).dropWhile p = c :: core ++ after := by
        simp [hcore c (by simp)]
      rw [first, List.reverse_append, List.dropWhile_append_of_pos
        fun c hc => hafter c (List.mem_reverse.mp hc),
        kept fun a ha => hcore a (List.mem_reverse.mp ha), List.reverse_reverse]

end NodeRelief.Text
