import CuratedHistory.Proofs.Plan.Directive
import CuratedHistory.Proofs.Text.Splitting

namespace CuratedHistory

/-! What stands on a line that reads as a directive, and how a line reads that is put
together from a keyword, blanks, a hash and what may follow a hash. -/

theorem toNat_of_isHexDigit {c : Char} (hex : isHexDigit c = true) :
    (48 ≤ c.toNat ∧ c.toNat ≤ 57) ∨ (65 ≤ c.toNat ∧ c.toNat ≤ 70) ∨
      (97 ≤ c.toNat ∧ c.toNat ≤ 102) := by
  simp only [isHexDigit, Char.isDigit, Bool.or_eq_true, Bool.and_eq_true, decide_eq_true_eq,
    Char.le_def, UInt32.le_iff_toNat_le] at hex
  rcases hex with (digit | small) | capital
  · exact .inl digit
  · exact .inr (.inr small)
  · exact .inr (.inl capital)

theorem utf8Size_of_isHexDigit {c : Char} (hex : isHexDigit c = true) : c.utf8Size = 1 := by
  have code := toNat_of_isHexDigit hex
  rw [Char.utf8Size_eq_one_iff, UInt32.le_iff_toNat_le]
  change c.toNat ≤ 127
  omega

theorem byteLength_of_hex {text : Text} (hex : ∀ c ∈ text, isHexDigit c = true) :
    Text.byteLength text = text.length := by
  induction text with
  | nil => rfl
  | cons c rest ih =>
      rw [List.forall_mem_cons] at hex
      rw [Text.byteLength, utf8Size_of_isHexDigit hex.1, ih hex.2, List.length_cons, Nat.add_comm]

namespace Directive

variable {directive : Directive} {raw other line keyword gap written tail : Text} {c : Char}
  {action : Action}

theorem endsHash_of_isHexDigit (hex : isHexDigit c = true) : endsHash c = false := by
  have code := toNat_of_isHexDigit hex
  have notPercent : c ≠ '%' := by
    rintro rfl
    revert code
    decide
  have notSign : c ≠ '#' := by
    rintro rfl
    revert code
    decide
  have notBlank : isBlank c = false := by
    simp only [isBlank, Bool.or_eq_false_iff, Bool.and_eq_false_iff, decide_eq_false_iff_not,
      beq_eq_false_iff_ne]
    omega
  simp [endsHash, notPercent, notSign, notBlank]

theorem isHexDigit_of_isHash (isHash : isHash written = true) : ∀ c ∈ written, isHexDigit c = true := by
  rw [Directive.isHash, Bool.and_eq_true] at isHash
  exact List.all_eq_true.mp isHash.2

theorem ne_nil_of_isHash (isHash : isHash written = true) : written ≠ [] := by
  rintro rfl
  exact absurd isHash (by decide)

theorem isBlank_of_isHash (isHash : isHash written = true) : ∀ c ∈ written, isBlank c = false := by
  intro c member
  have inside := endsHash_of_isHexDigit (isHexDigit_of_isHash isHash c member)
  simp only [endsHash, Bool.or_eq_false_iff] at inside
  exact inside.1.1

theorem trimmed_of_isHash (isHash : isHash written = true) : written.Trimmed where
  nonempty := ne_nil_of_isHash isHash
  first := fun c isFirst => isBlank_of_isHash isHash c (List.mem_of_head? isFirst)
  last := fun c isLast => isBlank_of_isHash isHash c (List.mem_of_getLast? isLast)

theorem newline_notMem_of_isHash (isHash : isHash written = true) : '\n' ∉ written := by
  intro member
  exact absurd (isHexDigit_of_isHash isHash _ member) (by decide)

theorem ofLine_of_trim_eq (same : Text.trim raw = Text.trim other) : ofLine raw = ofLine other := by
  unfold ofLine
  rw [same]

theorem ofLine_comment (comment : (Text.trim raw).head? = some '#') : ofLine raw = .ok none := by
  obtain ⟨rest, shape⟩ := List.head?_eq_some_iff.mp comment
  simp only [ofLine, shape]

theorem ofLine_of_trimmed (trimmed : line.Trimmed) (noComment : line.head? ≠ some '#') :
    ofLine line = (ofTrimmed line).map some := by
  cases line with
  | nil => exact absurd rfl trimmed.nonempty
  | cons c rest =>
      rw [ofLine, trimmed.trim_eq]
      split
      · contradiction
      · simp_all
      · simp_all

/-- A directive with the pieces of a line that it is read from. -/
structure WrittenAs (directive : Directive) (line keyword gap written tail : Text) : Prop where
  whole : line = keyword ++ gap ++ written ++ tail
  action : Action.named? keyword = some directive.action
  isHash : isHash written = true
  hash : directive.hash = Text.lower written
  tail : readTail (Text.trim tail) = .ok (directive.label, directive.message)

theorem readAction_eq_ok_iff : readAction keyword = .ok action ↔ Action.named? keyword = some action := by
  unfold readAction
  cases Action.named? keyword <;> simp

theorem readHash_eq_ok {rest : Text} (read : readHash rest = .ok (written, tail)) :
    rest = written ++ tail ∧ isHash written = true := by
  cases rest with
  | nil => contradiction
  | cons c rest =>
      simp only [readHash] at read
      split at read
      · contradiction
      · split at read
        · rename_i full
          cases read
          exact ⟨(Text.splitAtFirst_join endsHash (c :: rest)).symm, full⟩
        · contradiction

theorem exists_writtenAs (read : ofTrimmed line = .ok directive) :
    ∃ keyword gap written tail, directive.WrittenAs line keyword gap written tail := by
  simp only [ofTrimmed, bind_eq_ok_iff, readAction_eq_ok_iff] at read
  obtain ⟨action, named, ⟨written, tail⟩, hashed, parts, ends, same⟩ := read
  cases same
  obtain ⟨after, full⟩ := readHash_eq_ok hashed
  obtain ⟨gap, _, rest⟩ := Text.exists_blank_append_trimStart (Text.splitAtFirst isBlank line).2
  rw [after] at rest
  refine ⟨_, gap, written, tail, ⟨?_, named, full, rfl, ends⟩⟩
  rw [List.append_assoc, List.append_assoc, ← rest, Text.splitAtFirst_join]

theorem ofLine_cases (raw : Text) :
    ofLine raw = .ok none ∨ ofLine raw = (ofTrimmed (Text.trim raw)).map some := by
  unfold ofLine
  split
  · exact .inl rfl
  · exact .inl rfl
  · rename_i shape
    rw [shape]
    exact .inr rfl

theorem ofTrimmed_of_ofLine (read : ofLine raw = .ok (some directive)) :
    ofTrimmed (Text.trim raw) = .ok directive := by
  rcases ofLine_cases raw with skipped | whole
  · rw [skipped] at read
    cases read
  · rw [whole] at read
    cases found : ofTrimmed (Text.trim raw) with
    | error cause => simp [found, Except.map] at read
    | ok parsed => simpa [found, Except.map] using read

theorem ofTrimmed_of_ofLine_error {cause : Refusal} (unread : ofLine raw = .error cause) :
    ofTrimmed (Text.trim raw) = .error cause := by
  rcases ofLine_cases raw with skipped | whole
  · rw [skipped] at unread
    cases unread
  · rw [whole] at unread
    cases found : ofTrimmed (Text.trim raw) with
    | error other => simpa [found, Except.map] using unread
    | ok parsed => simp [found, Except.map] at unread

namespace WrittenAs

theorem written_isInfix (parts : directive.WrittenAs line keyword gap written tail) : written <:+: line :=
  ⟨keyword ++ gap, tail, parts.whole.symm⟩

theorem percent_mem (parts : directive.WrittenAs line keyword gap written tail)
    (labelled : directive.label ≠ none) : '%' ∈ line := by
  have read := parts.tail
  have inside : Text.trim tail ⊆ tail := (Text.trim_isInfix tail).sublist.subset
  unfold readTail at read
  split at read
  · simp_all
  -- Only the second of the four shapes of a tail has a label.
  · rename_i rest shape
    rw [parts.whole]
    exact List.mem_append_right _ (inside (by simp [shape]))
  · simp_all
  · contradiction

end WrittenAs

/-- A line that is put together from such pieces reads as the directive. -/
theorem ofTrimmed_append {label message : Option Text} (named : Action.named? keyword = some action)
    (unbroken : ∀ c ∈ keyword, isBlank c = false) (apart : gap ≠ [])
    (blank : ∀ c ∈ gap, isBlank c = true) (full : isHash written = true)
    (stops : ∀ c ∈ tail.head?, endsHash c = true)
    (read : readTail (Text.trim tail) = .ok (label, message)) :
    ofTrimmed (keyword ++ (gap ++ (written ++ tail))) =
      .ok { action, hash := Text.lower written, label, message } := by
  have digits := isHexDigit_of_isHash full
  obtain ⟨first, others, shape⟩ := List.exists_cons_of_ne_nil (ne_nil_of_isHash full)
  have firstEnds : endsHash first = false := endsHash_of_isHexDigit (digits first (by simp [shape]))
  have notBlank : isBlank first = false ∧ first ≠ '%' ∧ first ≠ '#' := by
    simpa [endsHash, and_assoc] using firstEnds
  have atGap : Text.splitAtFirst isBlank (keyword ++ (gap ++ (written ++ tail))) =
      (keyword, gap ++ (written ++ tail)) := by
    apply Text.splitAtFirst_append unbroken
    intro c isFirst
    rw [List.head?_append_of_ne_nil _ apart] at isFirst
    exact blank c (List.mem_of_head? isFirst)
  have afterGap : Text.trimStart (gap ++ (written ++ tail)) = written ++ tail := by
    rw [Text.trimStart, List.dropWhile_append_of_pos blank]
    exact Text.trimStart_eq_self (by simp [shape, notBlank.1])
  have atTail : Text.splitAtFirst endsHash (written ++ tail) = (written, tail) :=
    Text.splitAtFirst_append (fun c member => endsHash_of_isHexDigit (digits c member)) stops
  have hashed : readHash (written ++ tail) = .ok (written, tail) := by
    rw [shape, List.cons_append] at atTail ⊢
    simp only [readHash, atTail, notBlank.2.1, notBlank.2.2, or_self, if_false]
    rw [← shape, if_pos full]
  simp only [ofTrimmed, atGap, afterGap, bind_eq_ok_iff, readAction_eq_ok_iff]
  exact ⟨action, named, (written, tail), hashed, (label, message), read, rfl⟩

end Directive

end CuratedHistory
