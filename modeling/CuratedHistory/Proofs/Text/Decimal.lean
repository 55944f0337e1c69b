import Mathlib
import CuratedHistory.Text.Decimal
import CuratedHistory.Proofs.Text.Splitting

namespace CuratedHistory.Decimal

/-! Decimal digits, and the numbers that they are read back as. -/

variable {n k width : Nat} {number other : Int} {text rest following : Text}

theorem isDigit_of_mem {c : Char} (member : c ∈ digits n) : c.isDigit = true := by
  have small : ∀ k < 10, (digit k).isDigit = true := by decide
  fun_induction digits n with
  | case1 n less =>
      rw [List.mem_singleton.mp member]
      exact small n less
  | case2 n large ih =>
      rcases List.mem_append.mp member with leading | last
      · exact ih leading
      · rw [List.mem_singleton.mp last]
        exact small (n % 10) (by omega)

theorem digits_ne_nil (n : Nat) : digits n ≠ [] := by
  rw [digits]
  split <;> simp

theorem value_digits (n : Nat) : value (digits n) = n := by
  have code : ∀ k < 10, (digit k).toNat - 48 = k := by decide
  fun_induction digits n with
  | case1 n less =>
      rw [value, List.foldl_cons, List.foldl_nil, code n less, Nat.mul_zero, Nat.zero_add]
  | case2 n large ih =>
      have leading : (digits (n / 10)).foldl (fun total c => 10 * total + (c.toNat - 48)) 0 = n / 10 := ih
      rw [value, List.foldl_append, leading, List.foldl_cons, List.foldl_nil, code (n % 10) (by omega)]
      omega

theorem digits_injective : Function.Injective digits :=
  Function.LeftInverse.injective value_digits

theorem foldl_value (total : Nat) (text : Text) :
    text.foldl (fun total c => 10 * total + (c.toNat - 48)) total = total * 10 ^ text.length + value text := by
  induction text generalizing total with
  | nil => simp [value]
  | cons c rest ih =>
      rw [value, List.foldl_cons, List.foldl_cons, ih, ih, List.length_cons, pow_succ]
      ring

theorem value_append (text rest : Text) : value (text ++ rest) = value text * 10 ^ rest.length + value rest := by
  rw [value, List.foldl_append, foldl_value]
  rfl

theorem value_cons (c : Char) (rest : Text) :
    value (c :: rest) = (c.toNat - 48) * 10 ^ rest.length + value rest := by
  rw [value, List.foldl_cons, foldl_value, Nat.mul_zero, Nat.zero_add]

theorem value_zeros (count : Nat) : value (List.replicate count '0') = 0 := by
  induction count with
  | zero => rfl
  | succ count ih => rwa [List.replicate_succ, value, List.foldl_cons]

theorem value_padded (width n : Nat) : value (padded width n) = n := by
  rw [padded, value_append, value_zeros, value_digits, Nat.zero_mul, Nat.zero_add]

theorem value_lt (each : ∀ c ∈ text, c.isDigit = true) : value text < 10 ^ text.length := by
  induction text with
  | nil => decide
  | cons c rest ih =>
      rw [List.forall_mem_cons] at each
      have digit : c.toNat - 48 ≤ 9 := by
        have code := each.1
        simp only [Char.isDigit, Bool.and_eq_true, decide_eq_true_eq, UInt32.le_iff_toNat_le] at code
        exact Nat.sub_le_of_le_add code.2
      have further := ih each.2
      calc value (c :: rest) = (c.toNat - 48) * 10 ^ rest.length + value rest := value_cons c rest
        _ < (c.toNat - 48) * 10 ^ rest.length + 10 ^ rest.length := Nat.add_lt_add_left further _
        _ = (c.toNat - 48 + 1) * 10 ^ rest.length := by ring
        _ ≤ 10 * 10 ^ rest.length := Nat.mul_le_mul_right _ (Nat.succ_le_succ digit)
        _ = 10 ^ (c :: rest).length := by rw [List.length_cons, pow_succ, Nat.mul_comm]

theorem length_digits_le (less : n < 10 ^ (width + 1)) : (digits n).length ≤ width + 1 := by
  induction width generalizing n with
  | zero =>
      rw [digits, if_pos (by omega)]
      exact Nat.le_refl 1
  | succ width ih =>
      rw [digits]
      split
      · simp
      · rw [List.length_append, List.length_singleton]
        exact Nat.succ_le_succ (ih (by rw [pow_succ] at less; omega))

theorem length_padded (less : n < 10 ^ (width + 1)) : (padded (width + 1) n).length = width + 1 := by
  have short := length_digits_le less
  rw [padded, List.length_append, List.length_replicate]
  omega

/-- A run of digits that writes a number, with zeros in front or without. -/
structure Writes (n : Nat) (text : Text) : Prop where
  nonempty : text ≠ []
  digits : ∀ c ∈ text, c.isDigit = true
  value : value text = n

theorem writes_padded (width n : Nat) : Writes n (padded width n) where
  nonempty := List.append_ne_nil_of_right_ne_nil _ (digits_ne_nil n)
  digits := by
    intro c member
    rcases List.mem_append.mp member with zero | digit
    · rw [List.eq_of_mem_replicate zero]
      rfl
    · exact isDigit_of_mem digit
  value := value_padded width n

theorem Writes.lt (writes : Writes n text) : n < 10 ^ text.length :=
  writes.value ▸ value_lt writes.digits

/-- No digit stands at the beginning of the text, so that it does not go on a number. -/
def Ends (rest : Text) : Prop :=
  ∀ c ∈ rest.head?, c.isDigit = false

theorem takeWhile_digits (each : ∀ c ∈ text, c.isDigit = true) (ends : Ends rest) :
    (text ++ rest).takeWhile Char.isDigit = text := by
  rw [List.takeWhile_append_of_pos each]
  cases rest with
  | nil => simp
  | cons c rest => simp [ends c rfl]

theorem digits_append_injective (ends : Ends rest) (endsToo : Ends following)
    (same : digits n ++ rest = digits k ++ following) : n = k ∧ rest = following := by
  have cut {n : Nat} {rest : Text} (ends : Ends rest) :
      Text.splitAtFirst (fun c => !c.isDigit) (digits n ++ rest) = (digits n, rest) :=
    Text.splitAtFirst_append (fun c member => by simp [isDigit_of_mem member])
      (fun c first => by simp [ends c first])
  have pieces : (digits n, rest) = (digits k, following) := by
    rw [← cut ends, same, cut endsToo]
  exact ⟨digits_injective (congrArg Prod.fst pieces), congrArg Prod.snd pieces⟩

theorem minus_notMem_digits (n : Nat) : '-' ∉ digits n :=
  fun member => absurd (isDigit_of_mem member) (by decide)

theorem signed_append_injective (ends : Ends rest) (endsToo : Ends following)
    (same : signed number ++ rest = signed other ++ following) : number = other ∧ rest = following := by
  have noSign {n : Nat} {rest tail : Text} : digits n ++ rest ≠ '-' :: tail := by
    intro same
    obtain ⟨first, others, written⟩ := List.exists_cons_of_ne_nil (digits_ne_nil n)
    rw [written, List.cons_append, List.cons.injEq] at same
    exact minus_notMem_digits n (written ▸ same.1 ▸ List.mem_cons_self)
  cases number with
  | ofNat n =>
      cases other with
      | ofNat k =>
          obtain ⟨rfl, rest⟩ := digits_append_injective ends endsToo same
          exact ⟨rfl, rest⟩
      | negSucc k => exact absurd same noSign
  | negSucc n =>
      cases other with
      | ofNat k => exact absurd same.symm noSign
      | negSucc k =>
          obtain ⟨numbers, rest⟩ := digits_append_injective ends endsToo (List.cons.inj same).2
          rw [Nat.add_right_cancel numbers]
          exact ⟨rfl, rest⟩

end CuratedHistory.Decimal
