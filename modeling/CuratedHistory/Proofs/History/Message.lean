import CuratedHistory.History.Commit
import CuratedHistory.Proofs.Text.Lines

namespace CuratedHistory

/-! The message of a commit, cut into its subject and its body. Both cut it at the same line feed,
and only blanks are lost between them. -/

namespace Text

variable {text : Text}

/-- The characters that can be seen, in order. -/
def visible (text : Text) : Text :=
  text.filter fun c => !isBlank c

theorem visible_append (text rest : Text) : visible (text ++ rest) = visible text ++ visible rest :=
  List.filter_append text rest

theorem visible_eq_nil_iff : visible text = [] ↔ ∀ c ∈ text, isBlank c = true := by
  simp only [visible, List.filter_eq_nil_iff, Bool.not_eq_true', Bool.not_eq_false]

theorem visible_trimStart (text : Text) : visible (trimStart text) = visible text := by
  obtain ⟨start, blank, whole⟩ := exists_blank_append_trimStart text
  conv_rhs => rw [whole, visible_append, visible_eq_nil_iff.mpr blank, List.nil_append]

theorem visible_reverse (text : Text) : visible text.reverse = (visible text).reverse :=
  List.filter_reverse

theorem visible_trim (text : Text) : visible (trim text) = visible text := by
  have atEnd (text : Text) : visible (trimEnd text) = visible text := by
    rw [trimEnd, visible_reverse, ← trimStart, visible_trimStart, visible_reverse, List.reverse_reverse]
  rw [trim, atEnd, visible_trimStart]

theorem visible_withoutReturn (text : Text) : visible (withoutReturn text) = visible text := by
  rw [← visible_trim, trim_withoutReturn, visible_trim]

/-- No blank stands at either end of what is trimmed. -/
theorem trim_ends (text : Text) :
    (∀ c ∈ (trim text).head?, isBlank c = false) ∧ ∀ c ∈ (trim text).getLast?, isBlank c = false := by
  by_cases nothing : trim text = []
  · simp [nothing]
  · exact ⟨(trim_trimmed nothing).first, (trim_trimmed nothing).last⟩

end Text

namespace Commit

variable {commit : Commit}

/-- How a message is cut: it has one line and no body, or a line feed divides the two. -/
inductive Cut (commit : Commit) : Prop where
  | alone (unbroken : '\n' ∉ commit.message) (isSubject : commit.subject = commit.message)
      (noBody : commit.body = [])
  | divided {line rest : Text} (split : commit.message = line ++ '\n' :: rest) (unbroken : '\n' ∉ line)
      (isSubject : commit.subject = Text.withoutReturn line) (isBody : commit.body = Text.trim rest)

theorem cut (commit : Commit) : commit.Cut := by
  by_cases broken : '\n' ∈ commit.message
  · obtain ⟨line, rest, split, unbroken⟩ := List.eq_append_cons_of_mem broken
    refine .divided split unbroken ?_ ?_
    · rw [subject, split, Text.lines_append_newline unbroken]
      rfl
    · rw [body, split, List.dropWhile_append_of_pos (Text.forall_ne_of_notMem unbroken)]
      rfl
  · refine .alone broken ?_ ?_
    · rw [subject, Text.lines_of_unbroken broken]
      split
      · rename_i nothing
        rw [nothing]
        rfl
      · rfl
    · rw [body, List.dropWhile_eq_nil_iff.mpr (Text.forall_ne_of_notMem broken)]

theorem newline_notMem_subject (commit : Commit) : '\n' ∉ commit.subject := by
  unfold subject
  cases first : (Text.lines commit.message).head? with
  | none => simp
  | some line => exact Text.newline_notMem_of_mem_lines _ line (List.mem_of_head? first)

theorem subject_isPrefix (commit : Commit) : commit.subject <+: commit.message := by
  cases commit.cut with
  | alone _ isSubject _ => exact isSubject ▸ List.prefix_rfl
  | divided split _ isSubject _ =>
      rw [isSubject, split]
      exact (Text.withoutReturn_isPrefix _).trans (List.prefix_append _ _)

theorem body_ends (commit : Commit) : (∀ c ∈ commit.body.head?, isBlank c = false) ∧
    ∀ c ∈ commit.body.getLast?, isBlank c = false := by
  cases commit.cut with
  | alone _ _ noBody => simp [noBody]
  | divided _ _ _ isBody => exact isBody ▸ Text.trim_ends _

theorem visible_subject_append_body (commit : Commit) :
    Text.visible commit.subject ++ Text.visible commit.body = Text.visible commit.message := by
  cases commit.cut with
  | alone _ isSubject noBody =>
      have nothing : Text.visible [] = [] := rfl
      rw [isSubject, noBody, nothing, List.append_nil]
  | @divided line rest split _ isSubject isBody =>
      have feed : Text.visible ('\n' :: rest) = Text.visible rest := rfl
      rw [isSubject, isBody, split, Text.visible_withoutReturn, Text.visible_trim, Text.visible_append, feed]

end Commit

end CuratedHistory
