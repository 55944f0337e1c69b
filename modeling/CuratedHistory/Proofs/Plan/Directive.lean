import CuratedHistory.Plan.Directive
import CuratedHistory.Proofs.Text.Trimming

namespace CuratedHistory

/-! What a directive says about its record, and the shape of its texts. -/

theorem bind_eq_ok_iff {α β ε : Type} {first : Except ε α} {next : α → Except ε β} {result : β} :
    (first >>= next) = .ok result ↔ ∃ value, first = .ok value ∧ next value = .ok result := by
  cases first with
  | error cause => simp [bind, Except.bind]
  | ok value => simp [bind, Except.bind]

namespace Directive

variable {directive : Directive} {line raw tail : Text} {label message : Option Text}

/-- The label, unless it is blank. -/
def ownLabel? (directive : Directive) : Option Text :=
  directive.label.filter (· ≠ [])

theorem ownLabel?_eq_some_iff {text : Text} :
    directive.ownLabel? = some text ↔ directive.label = some text ∧ text ≠ [] := by
  simp [ownLabel?, Option.filter_eq_some_iff]

theorem readTail_trimmed (read : readTail tail = .ok (label, message)) :
    (∀ text, label = some text → text ≠ [] → text.Trimmed) ∧
      ∀ text, message = some text → text.Trimmed := by
  unfold readTail at read
  split at read
  · cases read
    simp
  · cases read
    refine ⟨?_, ?_⟩
    · rintro text same something
      cases same
      exact Text.trim_trimmed something
    · intro text kept
      obtain ⟨rest, _, found⟩ := Option.bind_eq_some_iff.mp kept
      exact Text.nonBlank?_trimmed found
  · cases read
    exact ⟨by simp, fun text found => Text.nonBlank?_trimmed found⟩
  · contradiction

theorem ofTrimmed_readTail (read : ofTrimmed line = .ok directive) :
    ∃ tail, readTail tail = .ok (directive.label, directive.message) := by
  simp only [ofTrimmed, bind_eq_ok_iff] at read
  obtain ⟨_, _, _, _, parts, found, same⟩ := read
  cases same
  exact ⟨_, found⟩

theorem ofLine_readTail (read : ofLine raw = .ok (some directive)) :
    ∃ tail, readTail tail = .ok (directive.label, directive.message) := by
  unfold ofLine at read
  split at read
  · cases read
  · cases read
  · rename_i c rest _ _
    cases found : ofTrimmed (c :: rest) with
    | error cause => simp [found, Except.map] at read
    | ok parsed =>
        simp only [found, Except.map, Except.ok.injEq, Option.some.injEq] at read
        subst parsed
        exact ofTrimmed_readTail found

theorem ownLabel?_trimmed {text : Text} (read : ofLine raw = .ok (some directive))
    (own : directive.ownLabel? = some text) : text.Trimmed := by
  obtain ⟨tail, parts⟩ := ofLine_readTail read
  obtain ⟨same, something⟩ := ownLabel?_eq_some_iff.mp own
  exact (readTail_trimmed parts).1 text same something

theorem message_trimmed {text : Text} (read : ofLine raw = .ok (some directive))
    (written : directive.message = some text) : text.Trimmed := by
  obtain ⟨tail, parts⟩ := ofLine_readTail read
  exact (readTail_trimmed parts).2 text written

end Directive

end CuratedHistory
