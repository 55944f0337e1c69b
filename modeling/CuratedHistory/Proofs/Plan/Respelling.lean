import CuratedHistory.Proofs.Plan.Grammar

namespace CuratedHistory

/-! Other spellings of a line: blanks at its ends and in its gap, names of the same action, the
case of its first word and of its hash. They read alike. -/

namespace Text

variable {ends : Char → Bool} {front word other rest : Text}

theorem FirstWord.trimEnd (first : FirstWord ends word rest) : FirstWord ends word (Text.trimEnd rest) where
  nonempty := first.nonempty
  inside := first.inside
  stops := by
    by_cases something : Text.trimEnd rest = []
    · simp [something]
    · rw [trimEnd_head something]
      exact first.stops

theorem trim_append_word (indent : ∀ c ∈ front, isBlank c = true) (nonempty : word ≠ [])
    (solid : ∀ c ∈ word, isBlank c = false) (rest : Text) :
    trim (front ++ (word ++ rest)) = word ++ trimEnd rest := by
  have start : ∀ c ∈ (word ++ rest).head?, isBlank c = false := by
    rw [List.head?_append_of_ne_nil _ nonempty]
    exact fun c isFirst => solid c (List.mem_of_head? isFirst)
  rw [trim_blank_append indent, trim, trimStart_eq_self start, trimEnd_solid_append solid]

/-- Where a word ends does not depend on its case. -/
theorem FirstWord.of_lower_eq (kept : ∀ c, ends c.toLower = ends c)
    (first : FirstWord ends word rest) (same : lower other = lower word) : FirstWord ends other rest where
  nonempty := by
    rintro rfl
    exact first.nonempty (List.map_eq_nil_iff.mp same.symm)
  inside := by
    have keptToo : ∀ c : Char, (!ends c.toLower) = !ends c := fun c => by rw [kept]
    have inWord : (word.all fun c => !ends c) = true := by simpa using first.inside
    rw [← all_lower keptToo, ← same, all_lower keptToo] at inWord
    simpa using inWord
  stops := first.stops

theorem head?_lower_eq_sign_iff (word : Text) : (lower word).head? = some '#' ↔ word.head? = some '#' := by
  have kept : ∀ c : Char, (c.toLower == '#') = (c == '#') :=
    @apply_toLower _ (fun c => c == '#') (by decide)
  cases word with
  | nil => simp [lower]
  | cons c rest =>
      have same := kept c
      rw [Bool.eq_iff_iff, beq_iff_eq, beq_iff_eq] at same
      simpa [lower] using same

end Text

/-- The two causes are of one kind, whatever texts they quote. -/
def Refusal.SameKind (cause other : Refusal) : Prop :=
  cause.ctorIdx = other.ctorIdx

/-- Two readings that are one, or both refused for causes of one kind. -/
inductive ReadAlike {α : Type} : Except Refusal α → Except Refusal α → Prop where
  | read (value : α) : ReadAlike (.ok value) (.ok value)
  | unread {cause other : Refusal} (kind : cause.SameKind other) : ReadAlike (.error cause) (.error other)

namespace ReadAlike

variable {α β : Type} {one other another : Except Refusal α}

theorem refl (one : Except Refusal α) : ReadAlike one one := by
  cases one with
  | ok value => exact .read value
  | error cause => exact .unread rfl

theorem of_eq (same : one = other) : ReadAlike one other :=
  same ▸ refl one

theorem symm (alike : ReadAlike one other) : ReadAlike other one := by
  cases alike with
  | read value => exact .read value
  | unread kind => exact .unread kind.symm

theorem trans (alike : ReadAlike one other) (further : ReadAlike other another) :
    ReadAlike one another := by
  cases alike with
  | read value => exact further
  | unread kind =>
      cases further with
      | unread kindToo => exact .unread (kind.trans kindToo)

theorem bind {next nextToo : α → Except Refusal β} (alike : ReadAlike one other)
    (further : ∀ value, ReadAlike (next value) (nextToo value)) :
    ReadAlike (one >>= next) (other >>= nextToo) := by
  cases alike with
  | read value => exact further value
  | unread kind => exact .unread kind

theorem map (write : α → β) (alike : ReadAlike one other) :
    ReadAlike (one.map write) (other.map write) := by
  cases alike with
  | read value => exact .read (write value)
  | unread kind => exact .unread kind

end ReadAlike

namespace Directive

variable {front word other gap wider hash rest line : Text} {action : Action}

/-- A change to a line that leaves what it says: the line on the right is the one on the left
with something put in, or put for something else. -/
inductive Respelled : Text → Text → Prop where
  /-- Blanks at the ends. -/
  | padded {front line back : Text} (indent : ∀ c ∈ front, isBlank c = true)
      (blank : ∀ c ∈ back, isBlank c = true) : Respelled line (front ++ (line ++ back))
  /-- Another gap behind the first word. -/
  | spaced {front word gap wider rest : Text} (indent : ∀ c ∈ front, isBlank c = true)
      (first : Text.FirstWord isBlank word gap) (apart : Gap gap) (apartToo : Gap wider) :
      Respelled (front ++ (word ++ (gap ++ rest))) (front ++ (word ++ (wider ++ rest)))
  /-- Another name of the same action. -/
  | renamed {action : Action} {front word other rest : Text} (indent : ∀ c ∈ front, isBlank c = true)
      (named : action.NamedBy word) (namedToo : action.NamedBy other)
      (stops : ∀ c ∈ rest.head?, isBlank c = true) :
      Respelled (front ++ (word ++ rest)) (front ++ (other ++ rest))
  /-- Another case of the first word, whether it names an action or not. -/
  | recased {front word other rest : Text} (indent : ∀ c ∈ front, isBlank c = true)
      (first : Text.FirstWord isBlank word rest) (same : Text.lower other = Text.lower word) :
      Respelled (front ++ (word ++ rest)) (front ++ (other ++ rest))
  /-- Another case of what stands where a hash should. -/
  | rehashed {front word gap hash other rest : Text} (indent : ∀ c ∈ front, isBlank c = true)
      (first : Text.FirstWord isBlank word gap) (apart : Gap gap)
      (token : Text.FirstWord endsHash hash rest) (same : Text.lower other = Text.lower hash) :
      Respelled (front ++ (word ++ (gap ++ (hash ++ rest)))) (front ++ (word ++ (gap ++ (other ++ rest))))

/-- A line is read by its first word and by what stands behind it. -/
theorem ofLine_firstWord (indent : ∀ c ∈ front, isBlank c = true)
    (first : Text.FirstWord isBlank word rest) :
    ofLine (front ++ (word ++ rest)) =
      if word.head? = some '#' then .ok none
      else (readAction word >>= fun action => ofRest action (Text.trim rest)).map some := by
  have trimmed := Text.trim_append_word indent first.nonempty first.inside rest
  have start : (Text.trim (front ++ (word ++ rest))).head? = word.head? := by
    rw [trimmed, List.head?_append_of_ne_nil _ first.nonempty]
  split
  · rename_i comment
    exact ofLine_comment (start.trans comment)
  · rename_i noComment
    have something : Text.trim (front ++ (word ++ rest)) ≠ [] := by
      rw [trimmed]
      exact List.append_ne_nil_of_left_ne_nil first.nonempty _
    rw [ofLine_spoken something (start ▸ noComment), trimmed, ofTrimmed_eq first.trimEnd,
      Text.trimStart_trimEnd]

/-- Lines read alike whose first words do, and what stands behind them. -/
theorem ofLine_alike {restToo : Text} (indent : ∀ c ∈ front, isBlank c = true)
    (first : Text.FirstWord isBlank word rest) (firstToo : Text.FirstWord isBlank other restToo)
    (comment : word.head? = some '#' ↔ other.head? = some '#')
    (actions : ReadAlike (readAction word) (readAction other))
    (rests : ∀ action, ReadAlike (ofRest action (Text.trim rest)) (ofRest action (Text.trim restToo))) :
    ReadAlike (ofLine (front ++ (word ++ rest))) (ofLine (front ++ (other ++ restToo))) := by
  rw [ofLine_firstWord indent first, ofLine_firstWord indent firstToo]
  by_cases sign : word.head? = some '#'
  · rw [if_pos sign, if_pos (comment.mp sign)]
    exact .refl _
  · rw [if_neg sign, if_neg (mt comment.mpr sign)]
    exact (actions.bind rests).map some

/-! Words in another case -/

theorem endsHash_toLower (c : Char) : endsHash c.toLower = endsHash c :=
  apply_toLower (by decide) c

theorem readAction_alike (same : Text.lower other = Text.lower word) :
    ReadAlike (readAction word) (readAction other) := by
  have named : Action.named? other = Action.named? word := by rw [Action.named?, same, Action.named?]
  unfold readAction
  rw [named]
  cases Action.named? word with
  | some action => exact .read action
  | none => exact .unread rfl

theorem isHash_of_lower_eq (same : Text.lower other = Text.lower hash) : isHash other = isHash hash := by
  have length : Text.byteLength other = Text.byteLength hash := by
    rw [← Text.byteLength_lower, same, Text.byteLength_lower]
  have digits : other.all isHexDigit = hash.all isHexDigit := by
    rw [← Text.all_lower isHexDigit_toLower, same, Text.all_lower isHexDigit_toLower]
  rw [isHash, length, digits, isHash]

theorem ofRest_alike (action : Action) (token : Text.FirstWord endsHash hash rest)
    (same : Text.lower other = Text.lower hash) :
    ReadAlike (ofRest action (hash ++ rest)) (ofRest action (other ++ rest)) := by
  have tokenToo := token.of_lower_eq endsHash_toLower same
  rw [ofRest, ofRest, readHash_eq token, readHash_eq tokenToo, isHash_of_lower_eq same]
  split
  · simp only [Bind.bind, Except.bind, same]
    exact .refl _
  · exact .unread rfl

theorem firstWord_gap (first : Text.FirstWord isBlank word gap) (apart : Gap wider) (rest : Text) :
    Text.FirstWord isBlank word (wider ++ rest) :=
  ⟨first.nonempty, first.inside, apart.stops rest⟩

theorem readAlike_of_respelled (changed : Respelled line other) :
    ReadAlike (ofLine line) (ofLine other) := by
  cases changed with
  | padded indent blank =>
      refine .of_eq (ofLine_of_trim_eq ?_)
      rw [Text.trim_blank_append indent, Text.trim_append_blank blank]
  | spaced indent first apart apartToo =>
      refine ofLine_alike indent (firstWord_gap first apart _) (firstWord_gap first apartToo _) Iff.rfl
        (.refl _) fun action => .of_eq ?_
      rw [Text.trim_blank_append apart.blank, Text.trim_blank_append apartToo.blank]
  | renamed indent named namedToo stops =>
      refine ofLine_alike indent (named.firstWord stops) (namedToo.firstWord stops)
        (iff_of_false named.head?_ne namedToo.head?_ne) (.of_eq ?_) fun _ => .refl _
      rw [readAction_eq_ok_iff.mpr (Action.named?_eq_some_iff.mpr named),
        readAction_eq_ok_iff.mpr (Action.named?_eq_some_iff.mpr namedToo)]
  | recased indent first same =>
      refine ofLine_alike indent first (first.of_lower_eq isBlank_toLower same) ?_
        (readAction_alike same) fun _ => .refl _
      rw [← Text.head?_lower_eq_sign_iff, ← same, Text.head?_lower_eq_sign_iff]
  | rehashed indent first apart token same =>
      have tokenToo := token.of_lower_eq endsHash_toLower same
      refine ofLine_alike indent (firstWord_gap first apart _) (firstWord_gap first apart _) Iff.rfl
        (.refl _) fun action => ?_
      rw [Text.trim_append_word apart.blank token.nonempty fun c member => isBlank_of_endsHash (token.inside c member),
        Text.trim_append_word apart.blank tokenToo.nonempty
          fun c member => isBlank_of_endsHash (tokenToo.inside c member)]
      exact ofRest_alike action token.trimEnd same

end Directive

end CuratedHistory
