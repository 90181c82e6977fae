/-!
# Counters

A counter has 64 bits, and starts over at zero. Up to then it says how often it has been advanced
(`Counter.val_advance_of_lt`).
-/

namespace Portcullis

/-- A counter of 64 bits. -/
abbrev Counter := Fin UInt64.size

namespace Counter

/-- A new counter. -/
def zero : Counter :=
  ⟨0, by decide⟩

/-- Advances the counter by `n`. -/
def advance (c : Counter) (n : Nat) : Counter :=
  Fin.ofNat UInt64.size (c.val + n)

@[simp] theorem val_zero : zero.val = 0 := rfl

@[simp] theorem val_advance (c : Counter) (n : Nat) : (c.advance n).val = (c.val + n) % UInt64.size := rfl

@[simp] theorem advance_zero (c : Counter) : c.advance 0 = c :=
  Fin.ext (Nat.mod_eq_of_lt c.isLt)

@[simp] theorem advance_advance (c : Counter) (m n : Nat) : (c.advance m).advance n = c.advance (m + n) := by
  apply Fin.ext
  rw [val_advance, val_advance, val_advance, Nat.mod_add_mod, Nat.add_assoc]

theorem val_advance_of_lt {c : Counter} {n : Nat} (h : c.val + n < UInt64.size) : (c.advance n).val = c.val + n :=
  Nat.mod_eq_of_lt h

end Counter

end Portcullis
