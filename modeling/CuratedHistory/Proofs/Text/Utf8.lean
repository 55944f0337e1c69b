import Mathlib
import CuratedHistory.Text.Utf8

namespace CuratedHistory.Utf8

/-! Line feeds in bytes that are read leniently. No character of more than one byte takes in a
byte of ASCII, and no such character is a line feed. -/

variable {lead byte : UInt8} {bytes rest front : Bytes}

theorem isContinuation_ascii (ascii : byte < 0x80) : isContinuation byte = false := by
  have bound := UInt8.lt_iff_toNat_lt.mp ascii
  simp only [isContinuation, Bool.and_eq_false_iff, decide_eq_false_iff_not, UInt8.le_iff_toNat_le]
  left
  exact Nat.not_le.mpr bound

theorem isContinuation_of_admitsSecond (admits : admitsSecond lead byte = true) : isContinuation byte = true := by
  have within {least greatest : UInt8} (above : 0x80 ≤ least) (below : greatest ≤ 0xBF)
      (inside : (decide (least ≤ byte) && decide (byte ≤ greatest)) = true) : isContinuation byte = true := by
    simp only [Bool.and_eq_true, decide_eq_true_eq] at inside
    simp only [isContinuation, Bool.and_eq_true, decide_eq_true_eq]
    exact ⟨UInt8.le_trans above inside.1, UInt8.le_trans inside.2 below⟩
  unfold admitsSecond at admits
  split_ifs at admits
  · exact within (by decide) (by decide) admits
  · exact within (by decide) (by decide) admits
  · exact within (by decide) (by decide) admits
  · exact within (by decide) (by decide) admits
  · exact admits

theorem admitsSecond_ascii (ascii : byte < 0x80) : admitsSecond lead byte = false := by
  rw [Bool.eq_false_iff]
  intro admits
  have continues := isContinuation_of_admitsSecond admits
  rw [isContinuation_ascii ascii] at continues
  contradiction

/-- A piece ends where ASCII begins. -/
theorem piece_append (ascii : byte < 0x80) (lead : UInt8) (front rest : Bytes) :
    piece lead (front ++ byte :: rest) = ((piece lead front).1, (piece lead front).2 ++ byte :: rest) := by
  have noContinuation := isContinuation_ascii ascii
  have noSecond : admitsSecond lead byte = false := admitsSecond_ascii ascii
  -- A character that is cut short before the byte stays cut short, and one that is whole is whole.
  unfold piece
  split_ifs
  · rfl
  · cases front with
    | nil => simp [noContinuation]
    | cons second front =>
        simp only [List.cons_append]
        split_ifs <;> rfl
  · rcases front with _ | ⟨second, _ | ⟨third, front⟩⟩
    · simp [noSecond]
    · simp only [List.cons_append, List.nil_append, noContinuation]
      split_ifs <;> simp_all
    · simp only [List.cons_append]
      split_ifs <;> rfl
  · rcases front with _ | ⟨second, _ | ⟨third, _ | ⟨fourth, front⟩⟩⟩
    · simp [noSecond]
    · simp only [List.cons_append, List.nil_append, noContinuation]
      split_ifs <;> simp_all
    · simp only [List.cons_append, List.nil_append, noContinuation]
      split_ifs <;> simp_all
    · simp only [List.cons_append]
      split_ifs <;> rfl
  · rfl

theorem decodePieces_append (ascii : byte < 0x80) (front rest : Bytes) :
    decodePieces (front ++ byte :: rest) = decodePieces front ++ decodePieces (byte :: rest) := by
  induction front using decodePieces.induct with
  | case1 => rw [List.nil_append, decodePieces.eq_1, List.nil_append]
  | case2 lead front ih =>
      rw [List.cons_append, decodePieces.eq_2, piece_append ascii, ih, decodePieces.eq_2 lead front,
        List.cons_append]

theorem decodeLenient_concat_lineFeed (front : Bytes) :
    decodeLenient (front ++ [lineFeed]) = decodeLenient front ++ ['\n'] := by
  have feed : decodePieces [lineFeed] = [some '\n'] := by
    rw [decodePieces.eq_2, show piece lineFeed [] = (some '\n', []) by decide, decodePieces.eq_1]
  rw [decodeLenient, decodePieces_append (by decide), feed, List.map_append]
  rfl

theorem ofNat_ne_newline {code : Nat} (large : 128 ≤ code) : Char.ofNat code ≠ '\n' := by
  intro same
  have number := congrArg Char.toNat same
  rw [Char.toNat_ofNat, show '\n'.toNat = 10 from rfl] at number
  split_ifs at number
  omega

/-- What a piece can be. -/
inductive Cut (lead : UInt8) (rest : Bytes) : Option Char × Bytes → Prop where
  | broken {tail : Bytes} (ends : tail <:+ rest) : Cut lead rest (none, tail)
  | ascii (small : lead < 0x80) : Cut lead rest (some (Char.ofNat lead.toNat), rest)
  | wide {code : Nat} {tail : Bytes} (large : 128 ≤ code) (ends : tail <:+ rest) :
      Cut lead rest (some (Char.ofNat code), tail)

/-- Overlong forms are kept out, so that three bytes are a character beyond ASCII. -/
theorem three_large {second : UInt8} (third : UInt8) (three : 0xE0 ≤ lead)
    (admits : admitsSecond lead second = true) :
    128 ≤ (lead.toNat - 0xE0) * 4096 + low second * 64 + low third := by
  have bound : 0xE0 ≤ lead.toNat := UInt8.le_iff_toNat_le.mp three
  by_cases least : lead = 0xE0
  · simp only [admitsSecond, if_pos least, Bool.and_eq_true, decide_eq_true_eq, UInt8.le_iff_toNat_le,
      UInt8.reduceToNat] at admits
    rw [low]
    omega
  · have above : lead.toNat ≠ 0xE0 := fun same => least (UInt8.toNat_inj.mp same)
    omega

/-- The same for four bytes. -/
theorem four_large {second : UInt8} (third fourth : UInt8) (four : 0xF0 ≤ lead)
    (admits : admitsSecond lead second = true) :
    128 ≤ (lead.toNat - 0xF0) * 262144 + low second * 4096 + low third * 64 + low fourth := by
  have bound : 0xF0 ≤ lead.toNat := UInt8.le_iff_toNat_le.mp four
  by_cases least : lead = 0xF0
  · subst least
    have second := Bool.and_eq_true_iff.mp admits
    simp only [decide_eq_true_eq, UInt8.le_iff_toNat_le, UInt8.reduceToNat] at second
    rw [low]
    omega
  · have above : lead.toNat ≠ 0xF0 := fun same => least (UInt8.toNat_inj.mp same)
    omega

theorem piece_cut (lead : UInt8) (rest : Bytes) : Cut lead rest (piece lead rest) := by
  unfold piece
  split_ifs with small two three four
  · exact .ascii small
  · cases rest with
    | nil => exact .broken (List.suffix_refl _)
    | cons second rest =>
        have large : 128 ≤ (lead.toNat - 0xC0) * 64 + low second := by
          have bound : 0xC2 ≤ lead.toNat := UInt8.le_iff_toNat_le.mp two.1
          omega
        dsimp only
        split_ifs
        · exact .wide large (List.suffix_cons _ _)
        · exact .broken (List.suffix_refl _)
  · rcases rest with _ | ⟨second, _ | ⟨third, rest⟩⟩
    · exact .broken (List.suffix_refl _)
    · dsimp only
      split_ifs
      · exact .broken (List.suffix_cons _ _)
      · exact .broken (List.suffix_refl _)
    · dsimp only
      split_ifs with admits continues
      · exact .wide (three_large third three.1 admits) ((List.suffix_cons _ _).trans (List.suffix_cons _ _))
      · exact .broken (List.suffix_cons _ _)
      · exact .broken (List.suffix_refl _)
  · rcases rest with _ | ⟨second, _ | ⟨third, _ | ⟨fourth, rest⟩⟩⟩
    · exact .broken (List.suffix_refl _)
    · dsimp only
      split_ifs
      · exact .broken (List.suffix_cons _ _)
      · exact .broken (List.suffix_refl _)
    · dsimp only
      split_ifs
      · exact .broken ((List.suffix_cons _ _).trans (List.suffix_cons _ _))
      · exact .broken (List.suffix_cons _ _)
      · exact .broken (List.suffix_refl _)
    · dsimp only
      split_ifs with admits
      · exact .wide (four_large third fourth four.1 admits)
          (((List.suffix_cons _ _).trans (List.suffix_cons _ _)).trans (List.suffix_cons _ _))
      · exact .broken ((List.suffix_cons _ _).trans (List.suffix_cons _ _))
      · exact .broken (List.suffix_cons _ _)
      · exact .broken (List.suffix_refl _)
  · exact .broken (List.suffix_refl _)

/-- Only the byte of a line feed is read as one. -/
theorem Cut.ne_newline {found : Option Char × Bytes} (cut : Cut lead rest found) (other : lead ≠ lineFeed) :
    found.1.getD '\uFFFD' ≠ '\n' := by
  cases cut with
  | broken _ =>
      rw [Option.getD_none]
      decide
  | ascii _ =>
      intro same
      have number := congrArg Char.toNat same
      rw [Option.getD_some, Char.toNat_ofNat, show '\n'.toNat = 10 from rfl] at number
      split_ifs at number
      exact other (UInt8.toNat_inj.mp number)
  | wide large _ => exact ofNat_ne_newline large

theorem Cut.suffix {found : Option Char × Bytes} (cut : Cut lead rest found) : found.2 <:+ rest := by
  cases cut with
  | broken ends => exact ends
  | ascii _ => exact List.suffix_refl _
  | wide _ ends => exact ends

theorem newline_notMem_decodeLenient (unbroken : lineFeed ∉ bytes) : '\n' ∉ decodeLenient bytes := by
  unfold decodeLenient
  induction bytes using decodePieces.induct with
  | case1 => simp [decodePieces]
  | case2 lead rest ih =>
      rw [List.mem_cons, not_or] at unbroken
      have cut := piece_cut lead rest
      rw [decodePieces, List.map_cons, List.mem_cons, not_or]
      exact ⟨(cut.ne_newline (Ne.symm unbroken.1)).symm, ih fun inside => unbroken.2 (cut.suffix.subset inside)⟩

end CuratedHistory.Utf8
