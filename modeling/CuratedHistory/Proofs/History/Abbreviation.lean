import CuratedHistory.History.Commit
import CuratedHistory.Proofs.Repository.Hashes

namespace CuratedHistory

/-! Hexadecimal hashes can always be abbreviated: each of their characters takes one
byte, so that the cut after seven bytes falls between two of them. -/

/-- Nothing but hexadecimal digits. -/
def Text.Hexadecimal (text : Text) : Prop :=
  ∀ c ∈ text, isHexDigit c = true

namespace Text.Hexadecimal

variable {hash : Text} {c : Char} {count : Nat}

theorem of_isFullHash (full : isFullHash hash = true) : hash.Hexadecimal := by
  rw [isFullHash, Bool.and_eq_true] at full
  exact List.all_eq_true.mp full.2

theorem notMem (hex : hash.Hexadecimal) (other : isHexDigit c = false) : c ∉ hash := by
  intro member
  rw [hex c member] at other
  contradiction

theorem take (hex : hash.Hexadecimal) (count : Nat) : Text.Hexadecimal (hash.take count) :=
  fun c member => hex c (List.mem_of_mem_take member)

theorem takeBytes_eq (hex : hash.Hexadecimal) (enough : count ≤ hash.length) :
    shortHash?.takeBytes count hash = some (hash.take count) := by
  induction hash generalizing count with
  | nil =>
      have nothing : count = 0 := by simpa using enough
      rw [nothing, shortHash?.takeBytes, List.take_zero]
  | cons c rest ih =>
      cases count with
      | zero => rw [shortHash?.takeBytes, List.take_zero]
      | succ count =>
          have oneByte : c.utf8Size = 1 := utf8Size_of_isHexDigit (hex c (by simp))
          have others : Text.Hexadecimal rest := fun d member => hex d (by simp [member])
          have further := ih others (Nat.le_of_succ_le_succ enough)
          rw [shortHash?.takeBytes, oneByte, if_pos (by omega), Nat.add_sub_cancel, further]
          rfl

end Text.Hexadecimal

/-- The abbreviation of a hexadecimal hash is its first seven digits. -/
theorem shortHash?_of_hexadecimal {hash : Text} (hex : hash.Hexadecimal) :
    shortHash? hash = some (hash.take 7) := by
  rw [shortHash?, byteLength_of_hex hex]
  split
  · rename_i short
    rw [List.take_of_length_le short]
  · rename_i long
    exact hex.takeBytes_eq (by omega)

end CuratedHistory
