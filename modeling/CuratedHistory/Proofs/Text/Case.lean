import CuratedHistory.Text.Basic

namespace CuratedHistory

/-! What a character is does not change with its case, which only the letters of ASCII have. -/

theorem toLower_eq_of_code {c : Char} (noLetter : 128 ≤ c.toNat) : c.toLower = c := by
  refine dif_neg ?_
  rintro ⟨_, upper⟩
  have code : c.toNat ≤ 90 := upper
  omega

/-- What does not change with the case of the ASCII characters never does. -/
theorem apply_toLower {α : Type} {property : Char → α}
    (small : ∀ code < 128, property (Char.ofNat code).toLower = property (Char.ofNat code)) (c : Char) :
    property c.toLower = property c := by
  by_cases ascii : c.toNat < 128
  · have same := small c.toNat ascii
    rwa [Char.ofNat_toNat] at same
  · rw [toLower_eq_of_code (Nat.le_of_not_lt ascii)]

theorem isBlank_toLower (c : Char) : isBlank c.toLower = isBlank c :=
  apply_toLower (by decide) c

theorem isHexDigit_toLower (c : Char) : isHexDigit c.toLower = isHexDigit c :=
  apply_toLower (by decide) c

theorem utf8Size_toLower (c : Char) : c.toLower.utf8Size = c.utf8Size :=
  apply_toLower (by decide) c

namespace Text

theorem byteLength_lower (text : Text) : byteLength (lower text) = byteLength text := by
  induction text with
  | nil => rfl
  | cons c rest ih =>
      change c.toLower.utf8Size + byteLength (lower rest) = byteLength (c :: rest)
      rw [utf8Size_toLower, ih, byteLength]

theorem all_lower {test : Char → Bool} (same : ∀ c, test c.toLower = test c) (text : Text) :
    (lower text).all test = text.all test := by
  rw [lower, List.all_map]
  congr 1
  exact funext same

end Text

end CuratedHistory
