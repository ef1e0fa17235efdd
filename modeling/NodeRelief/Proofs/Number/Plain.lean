import NodeRelief.Proofs.Number.Rounding
import NodeRelief.Proofs.Text.Digit
import Mathlib.Data.List.Basic

/-! # Plain numbers

A plain number is written as a sign or none, and digits with at most one point among them. What is read
is the decimal of these digits, unless it runs on too far below its leading place. -/

namespace NodeRelief

open Text

namespace Decimal

theorem fold_of_isAsciiDigit {c : Char} (h : isAsciiDigit c = true) : fold [c] = [c] := by
  have digit : c ≠ '_' := ne_of_isAsciiDigit h (by decide)
  have bounds := toNat_of_isAsciiDigit h
  have same : 48 + (c.toNat - 48) = c.toNat := by omega
  simp [fold, digit, digitValue?_of_isAsciiDigit h, same]

/-- A text of characters that stand for themselves stands for itself. -/
theorem fold_eq_self {s : List Char} (h : ∀ c ∈ s, fold [c] = [c]) : fold s = s := by
  induction s with
  | nil => rfl
  | cons c s ih =>
      obtain ⟨head, tail⟩ := List.forall_mem_cons.mp h
      calc fold (c :: s) = fold [c] ++ fold s := List.filterMap_append (l := [c])
        _ = c :: s := by rw [head, ih tail, List.singleton_append]

end Decimal

namespace Numeral

inductive Sign where
  | none
  | plus
  | minus
deriving DecidableEq, Repr

namespace Sign

def symbol : Sign → List Char
  | .none => []
  | .plus => ['+']
  | .minus => ['-']

def isMinus : Sign → Bool
  | .minus => true
  | _ => false

/-- A magnitude with its sign. -/
def apply (s : Sign) (x : ℚ) : ℚ := if s.isMinus then -x else x

variable {s : Sign} {x y : ℚ}

theorem apply_zero : s.apply 0 = 0 := by
  simp [apply]

theorem apply_mul : s.apply x * y = s.apply (x * y) := by
  cases h : s.isMinus <;> simp [apply, h]

theorem fits_apply : Decimal.Fits (s.apply x) ↔ Decimal.Fits x := by
  cases h : s.isMinus <;> simp [apply, h, Decimal.fits_neg]

theorem value_finite {c : ℕ} {e : ℤ} :
    (Decimal.finite s.isMinus c e).value = s.apply (Decimal.magnitude c e) := by
  cases h : s.isMinus <;> simp [apply, h, Decimal.value]

end Sign

/-- A plain number; `fraction` is what stands behind the point, if there is one. -/
structure Plain where
  sign : Sign
  whole : List Char
  fraction : Option (List Char)
  ascii : ∀ c ∈ whole ++ fraction.getD [], isAsciiDigit c = true
  nonempty : whole ++ fraction.getD [] ≠ []

namespace Plain

variable (p : Plain)

/-- The digits with the point among them. -/
def body : List Char := p.whole ++ (p.fraction.map ('.' :: ·)).getD []

def text : List Char := p.sign.symbol ++ p.body

def places : ℕ := (p.fraction.getD []).length

/-- The digits as a whole number. -/
def coefficient : ℕ := Nat.ofDigitChars 10 (p.whole ++ p.fraction.getD []) 0

def value : ℚ := p.sign.apply (p.coefficient / 10 ^ p.places)

theorem value_eq : p.value = p.sign.apply (Decimal.magnitude p.coefficient (-p.places)) := by
  rw [value, Decimal.magnitude, zpow_neg, zpow_natCast, div_eq_mul_inv]

/-! ## Characters -/

theorem forall_mem_body {P : Char → Prop} (digit : ∀ c, isAsciiDigit c = true → P c) (point : P '.') :
    ∀ c ∈ p.body, P c := by
  intro c hc
  rw [body] at hc
  rcases List.mem_append.mp hc with hc | hc
  · exact digit c (p.ascii c (List.mem_append_left _ hc))
  · cases hf : p.fraction with
    | none => simp [hf] at hc
    | some f =>
        simp only [hf, Option.map_some, Option.getD_some, List.mem_cons] at hc
        rcases hc with rfl | hc
        · exact point
        · exact digit c (p.ascii c (List.mem_append_right _ (by simpa [hf] using hc)))

theorem forall_mem_text {P : Char → Prop} (digit : ∀ c, isAsciiDigit c = true → P c) (point : P '.')
    (plus : P '+') (minus : P '-') : ∀ c ∈ p.text, P c := by
  intro c hc
  rw [text] at hc
  rcases List.mem_append.mp hc with hc | hc
  · cases hs : p.sign <;> simp only [hs, Sign.symbol, List.mem_singleton, List.not_mem_nil] at hc
    · exact hc ▸ plus
    · exact hc ▸ minus
  · exact p.forall_mem_body digit point c hc

theorem body_ne_nil : p.body ≠ [] := by
  have nonempty := p.nonempty
  rw [body]
  cases hf : p.fraction with
  | none => simpa [hf] using nonempty
  | some f => simp

/-! ## Reading -/

theorem digits?_digits : digits? (p.whole ++ p.fraction.getD []) = some p.coefficient := by
  rw [digits?, if_neg (by simpa using p.nonempty), mapM_asciiDigit? p.ascii, coefficient]
  simp [ofPlaces, Nat.ofDigitChars_eq_foldl, List.foldl_map]

theorem pointed?_body : pointed? p.body = some (p.coefficient, p.places) := by
  have whole : ∀ c ∈ p.whole, (c != '.') = true := fun c hc =>
    bne_iff_ne.mpr (ne_of_isAsciiDigit (p.ascii c (List.mem_append_left _ hc)) (by decide))
  have parts : p.body.takeWhile (· != '.') = p.whole ∧
      (p.body.dropWhile (· != '.')).drop 1 = p.fraction.getD [] := by
    rw [body, List.takeWhile_append_of_pos whole, List.dropWhile_append_of_pos whole]
    cases p.fraction <;> simp
  simp only [pointed?, parts, p.digits?_digits]
  rfl

theorem scientific?_body : scientific? p.body = some (p.coefficient, -(p.places : ℤ)) := by
  have unmarked : ∀ c ∈ p.body, (!(c == 'e' || c == 'E')) = true := by
    refine p.forall_mem_body (fun c hc => ?_) (by decide)
    have small : c ≠ 'e' := ne_of_isAsciiDigit hc (by decide)
    have large : c ≠ 'E' := ne_of_isAsciiDigit hc (by decide)
    simp [small, large]
  simp only [scientific?]
  rw [List.takeWhile_eq_self_iff.mpr unmarked, List.dropWhile_eq_nil_iff.mpr unmarked, p.pointed?_body]
  simp

theorem splitSign_text : splitSign p.text = (p.sign.isMinus, p.body) := by
  rw [text]
  cases hs : p.sign with
  | plus => rfl
  | minus => rfl
  | none =>
      obtain ⟨c, rest, hbody⟩ := List.exists_cons_of_ne_nil p.body_ne_nil
      obtain ⟨minus, plus⟩ : c ≠ '-' ∧ c ≠ '+' := by
        refine p.forall_mem_body (P := fun c => c ≠ '-' ∧ c ≠ '+') (fun c hc => ?_) (by decide) c
          (hbody ▸ List.mem_cons_self)
        exact ⟨ne_of_isAsciiDigit hc (by decide), ne_of_isAsciiDigit hc (by decide)⟩
      rw [hbody, Sign.symbol, List.nil_append, splitSign]
      · rfl
      · rintro rest' ⟨⟩
        exact minus rfl
      · rintro rest' ⟨⟩
        exact plus rfl

/-- No characters of a plain number are blanks, and each of them stands for itself. -/
theorem fold_strip_text : Decimal.fold (strip isBlank p.text) = p.text := by
  have unblank := p.forall_mem_text (P := fun c => isBlank c = false) (fun c => isBlank_of_isAsciiDigit)
    (by decide) (by decide) (by decide)
  have stripped : strip isBlank ([] ++ p.text ++ []) = p.text := strip_padded (by simp) unblank (by simp)
  rw [List.nil_append, List.append_nil] at stripped
  rw [stripped]
  exact Decimal.fold_eq_self (p.forall_mem_text (P := fun c => Decimal.fold [c] = [c])
    (fun c => Decimal.fold_of_isAsciiDigit) (by decide) (by decide) (by decide))

end Plain

end Numeral

namespace Decimal

open Numeral

variable (p : Plain)

/-- What begins with a digit or with the point names no infinity and no NaN. -/
theorem special?_body (negative : Bool) : special? negative (p.body.map Char.toLower) = none := by
  obtain ⟨c, rest, hbody⟩ := List.exists_cons_of_ne_nil p.body_ne_nil
  obtain ⟨i, n, s⟩ : c.toLower ≠ 'i' ∧ c.toLower ≠ 'n' ∧ c.toLower ≠ 's' := by
    refine p.forall_mem_body (P := fun c => c.toLower ≠ 'i' ∧ c.toLower ≠ 'n' ∧ c.toLower ≠ 's')
      (fun c hc => ?_) (by decide) c (hbody ▸ List.mem_cons_self)
    rw [toLower_of_isAsciiDigit hc]
    exact ⟨ne_of_isAsciiDigit hc (by decide), ne_of_isAsciiDigit hc (by decide),
      ne_of_isAsciiDigit hc (by decide)⟩
  rw [hbody, List.map_cons, special?]
  simp [Ne.symm n, Ne.symm s, i]

theorem ofText?_plain : ofText? p.text =
    if readable p.coefficient (-p.places) then some (.finite p.sign.isMinus p.coefficient (-p.places))
    else none := by
  rw [ofText?, p.fold_strip_text, p.splitSign_text]
  simp only [special?_body, finite?, p.scientific?_body]

end Decimal

end NodeRelief
