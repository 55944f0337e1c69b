import Mathlib
import CuratedHistory.Proofs.Text.Splitting
import CuratedHistory.Proofs.Text.Trimming

namespace CuratedHistory.Text

/-! Texts that are written as lines, and the lines that are read back from them. -/

variable {c : Char} {line text rest : Text} {texts following : List Text}

/-- The text without a carriage return at its end, which is all that is left of it as a
line once a line feed stands after it. -/
def withoutReturn (text : Text) : Text :=
  if text.getLast? = some '\r' then text.dropLast else text

theorem withoutReturn_singleton (noReturn : c ≠ '\r') : withoutReturn [c] = [c] :=
  if_neg (by simpa using noReturn)

theorem withoutReturn_cons_cons (c d : Char) (rest : Text) :
    withoutReturn (c :: d :: rest) = c :: withoutReturn (d :: rest) := by
  unfold withoutReturn
  rw [List.getLast?_cons_cons, List.dropLast_cons_cons]
  split <;> rfl

theorem trim_withoutReturn (text : Text) : trim (withoutReturn text) = trim text := by
  unfold withoutReturn
  split
  · rename_i isReturn
    obtain ⟨before, rfl⟩ := List.getLast?_eq_some_iff.mp isReturn
    rw [List.dropLast_concat, trim_append_blank]
    exact List.forall_mem_singleton.mpr rfl
  · rfl

theorem withoutReturn_isPrefix (text : Text) : withoutReturn text <+: text := by
  unfold withoutReturn
  split_ifs
  · exact List.dropLast_prefix text
  · exact List.prefix_refl text

/-- A beginning that is no carriage return itself is still there when one is taken away. -/
theorem isPrefix_withoutReturn {first : Text} (noReturn : '\r' ∉ first)
    (start : first <+: text) : first <+: withoutReturn text := by
  unfold withoutReturn
  split_ifs with isReturn
  · obtain ⟨rest, rfl⟩ := start
    cases rest using List.reverseRecOn with
    | nil =>
        rw [List.append_nil] at isReturn
        exact absurd (List.mem_of_getLast? isReturn) noReturn
    | append_singleton rest c =>
        rw [← List.append_assoc, List.dropLast_concat]
        exact List.prefix_append first rest
  · exact start

theorem lines_cons (noFeed : c ≠ '\n') (noReturn : c = '\r' → text.head? ≠ some '\n')
    (found : lines text = line :: following) :
    lines (c :: text) = (c :: line) :: following := by
  rw [lines]
  · simp only [found]
  · exact noFeed
  · rintro _ isReturn rfl
    exact noReturn isReturn rfl

/-- A character that breaks no line stands in front of the first line. -/
theorem lines_solid_cons (noFeed : c ≠ '\n') (noReturn : c ≠ '\r') (rest : Text) :
    lines (c :: rest) = (c :: (lines rest).headD []) :: (lines rest).tail := by
  rw [lines]
  · cases lines rest <;> rfl
  · exact noFeed
  · exact fun _ isReturn _ => noReturn isReturn

theorem lines_append_newline (unbroken : '\n' ∉ line) (rest : Text) :
    lines (line ++ '\n' :: rest) = withoutReturn line :: lines rest := by
  induction line with
  | nil => rfl
  | cons c line ih =>
      simp only [List.mem_cons, not_or] at unbroken
      have noFeed : c ≠ '\n' := fun feed => unbroken.1 feed.symm
      cases line with
      | nil =>
          by_cases isReturn : c = '\r'
          · subst isReturn
            rfl
          · rw [withoutReturn_singleton isReturn]
            exact lines_cons noFeed (fun same => absurd same isReturn) rfl
      | cons d line =>
          rw [withoutReturn_cons_cons]
          refine lines_cons noFeed ?_ (ih unbroken.2)
          rintro - feed
          exact unbroken.2 (by simp_all)

theorem newline_notMem_of_mem_lines (text : Text) : ∀ line ∈ lines text, '\n' ∉ line := by
  fun_induction lines text with
  | case1 => simp
  | case2 rest ih => simpa using ih
  | case3 rest ih => simpa using ih
  | case4 c rest noFeed noReturn found ih =>
      simpa using fun feed => noFeed feed.symm
  | case5 c rest noFeed noReturn line following found ih =>
      rw [found, List.forall_mem_cons] at ih
      rw [List.forall_mem_cons, List.mem_cons, not_or]
      exact ⟨⟨fun feed => noFeed feed.symm, ih.1⟩, ih.2⟩

/-- Lines that are written one after another are read back, less a carriage return each. -/
theorem lines_unlines_append (unbroken : ∀ line ∈ texts, '\n' ∉ line) (rest : Text) :
    lines (unlines texts ++ rest) = texts.map withoutReturn ++ lines rest := by
  induction texts with
  | nil => rfl
  | cons line texts ih =>
      rw [List.forall_mem_cons] at unbroken
      have written : unlines (line :: texts) ++ rest = line ++ '\n' :: (unlines texts ++ rest) := by
        simp [unlines]
      rw [written, lines_append_newline unbroken.1, ih unbroken.2]
      rfl

theorem lines_unlines (unbroken : ∀ line ∈ texts, '\n' ∉ line) :
    lines (unlines texts) = texts.map withoutReturn := by
  have read := lines_unlines_append unbroken []
  rwa [List.append_nil, lines, List.append_nil] at read

theorem lines_of_unbroken (unbroken : '\n' ∉ line) : lines line = if line = [] then [] else [line] := by
  induction line with
  | nil => rfl
  | cons c rest ih =>
      rw [List.mem_cons, not_or] at unbroken
      have noFeed : c ≠ '\n' := fun feed => unbroken.1 feed.symm
      have noReturn : c = '\r' → rest.head? ≠ some '\n' :=
        fun _ feed => unbroken.2 (List.mem_of_head? feed)
      rw [if_neg (List.cons_ne_nil c rest)]
      cases rest with
      | nil => rw [lines] <;> simp_all [lines]
      | cons d rest => exact lines_cons noFeed noReturn (by rw [ih unbroken.2, if_neg (List.cons_ne_nil d rest)])

theorem join_newline_concat (texts : List Text) (line : Text) :
    join ['\n'] (texts ++ [line]) = unlines texts ++ line := by
  induction texts with
  | nil => rfl
  | cons text rest ih =>
      obtain ⟨next, more, same⟩ := List.exists_cons_of_ne_nil (List.concat_ne_nil line rest)
      rw [List.cons_append, same, join, ← same, ih]
      · simp [unlines]
      · simp

theorem mem_of_mem_withoutReturn (member : c ∈ withoutReturn text) : c ∈ text := by
  unfold withoutReturn at member
  split at member
  · exact List.mem_of_mem_dropLast member
  · exact member

theorem length_withoutReturn_le (text : Text) : (withoutReturn text).length ≤ text.length := by
  unfold withoutReturn
  split
  · rw [List.length_dropLast]
    exact Nat.sub_le _ _
  · exact Nat.le_refl _

theorem length_withoutReturn_lt (isReturn : text.getLast? = some '\r') :
    (withoutReturn text).length < text.length := by
  obtain ⟨before, rfl⟩ := List.getLast?_eq_some_iff.mp isReturn
  rw [withoutReturn, if_pos isReturn, List.dropLast_concat, List.length_append, List.length_singleton]
  exact Nat.lt_succ_self _

theorem length_iterate_withoutReturn_le (count : Nat) (text : Text) :
    (withoutReturn^[count] text).length ≤ text.length := by
  induction count generalizing text with
  | zero => exact Nat.le_refl _
  | succ count ih => exact (ih (withoutReturn text)).trans (length_withoutReturn_le text)

/-- A text stays as it is, however often, only if there is nothing to take away. -/
theorem iterate_withoutReturn_eq_self_iff (count : Nat) :
    withoutReturn^[count + 1] text = text ↔ text.getLast? ≠ some '\r' := by
  constructor
  · intro same isReturn
    have shorter := length_withoutReturn_lt isReturn
    have further := length_iterate_withoutReturn_le count (withoutReturn text)
    rw [← Function.iterate_succ_apply, same] at further
    omega
  · intro noReturn
    have fixed : withoutReturn text = text := if_neg noReturn
    exact Function.iterate_fixed fixed (count + 1)

/-- Lines without line feeds are told apart by what is written of them. -/
theorem unlines_injective {others : List Text} (unbroken : ∀ line ∈ texts, '\n' ∉ line)
    (unbrokenToo : ∀ line ∈ others, '\n' ∉ line) (same : unlines texts = unlines others) :
    texts = others := by
  induction texts generalizing others with
  | nil => cases others <;> simp_all [unlines]
  | cons line rest ih =>
      cases others with
      | nil => simp [unlines] at same
      | cons other more =>
          rw [List.forall_mem_cons] at unbroken unbrokenToo
          have shown : line ++ '\n' :: unlines rest = other ++ '\n' :: unlines more := by
            simpa [unlines] using same
          obtain rfl := eq_of_append_stop unbroken.1 unbrokenToo.1 shown
          rw [List.append_cancel_left_eq, List.cons.injEq] at shown
          rw [ih unbroken.2 unbrokenToo.2 shown.2]

end CuratedHistory.Text
