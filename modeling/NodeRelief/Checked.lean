/-!
# Checked values

A value, or everything that is wrong with it. Where `Except` stops at the first error, putting two
checked values together keeps the complaints about both, in order.
-/

namespace NodeRelief

abbrev Checked (ε α : Type) := Except (List ε) α

namespace Checked

variable {ε α β : Type}

/-- Both values, or the complaints about both. -/
def both : Checked ε α → Checked ε β → Checked ε (α × β)
  | .ok a, .ok b => .ok (a, b)
  | .ok _, .error e => .error e
  | .error e, .ok _ => .error e
  | .error e, .error e' => .error (e ++ e')

theorem both_eq_ok_iff {x : Checked ε α} {y : Checked ε β} {a : α} {b : β} :
    both x y = .ok (a, b) ↔ x = .ok a ∧ y = .ok b := by
  cases x <;> cases y <;> simp [both]

end Checked

end NodeRelief
