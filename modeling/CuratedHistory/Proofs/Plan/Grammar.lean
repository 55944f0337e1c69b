import CuratedHistory.Proofs.Plan.Label
import CuratedHistory.Proofs.Plan.Reading
import CuratedHistory.Proofs.Text.Case

namespace CuratedHistory

/-! The grammar of a plan line, told without the functions that read one, and that they
read it so: which lines say nothing, which are directives and which ones, and what is
wrong with the others. -/

/-- The word stands for the action: its keyword or its letter, in any case of the letters. -/
def Action.NamedBy (action : Action) (word : Text) : Prop :=
  Text.lower word = action.keyword ∨ Text.lower word = action.letter

namespace Action

variable {action : Action} {word : Text}

instance (action : Action) (word : Text) : Decidable (action.NamedBy word) :=
  inferInstanceAs (Decidable (_ ∨ _))

theorem named?_eq_some_iff : named? word = some action ↔ action.NamedBy word := by
  constructor
  · intro named
    have matched := List.find?_some named
    rwa [Bool.or_eq_true, beq_iff_eq, beq_iff_eq] at matched
  · rintro (whole | short)
    · rw [named?, whole]
      cases action <;> decide
    · rw [named?, short]
      cases action <;> decide

theorem named?_eq_none_iff : named? word = none ↔ ∀ action : Action, ¬ action.NamedBy word := by
  simp only [← named?_eq_some_iff, Option.eq_none_iff_forall_ne_some, ne_eq]

theorem namedBy_keyword (action : Action) : action.NamedBy action.keyword := by
  cases action <;> decide

theorem NamedBy.nonempty (named : action.NamedBy word) : word ≠ [] := by
  rintro rfl
  cases action <;> exact absurd named (by decide)

/-- No name has a blank or a hash sign in it. -/
theorem NamedBy.solid (named : action.NamedBy word) : ∀ c ∈ word, isBlank c = false ∧ c ≠ '#' := by
  have plain : ∀ action : Action, (action.keyword.all fun c => !isBlank c && c != '#') = true ∧
      (action.letter.all fun c => !isBlank c && c != '#') = true := by
    intro action
    cases action <;> decide
  have kept : ∀ c : Char, (!isBlank c.toLower && c.toLower != '#') = (!isBlank c && c != '#') :=
    @apply_toLower _ (fun c => !isBlank c && c != '#') (by decide)
  have lowered : ((Text.lower word).all fun c => !isBlank c && c != '#') = true := by
    rcases named with whole | short
    · rw [whole]
      exact (plain action).1
    · rw [short]
      exact (plain action).2
  rw [Text.all_lower kept, List.all_eq_true] at lowered
  simpa using lowered

theorem NamedBy.firstWord {rest : Text} (named : action.NamedBy word)
    (stops : ∀ c ∈ rest.head?, isBlank c = true) : Text.FirstWord isBlank word rest :=
  ⟨named.nonempty, fun c member => (named.solid c member).1, stops⟩

theorem NamedBy.head?_ne (named : action.NamedBy word) : word.head? ≠ some '#' :=
  fun sign => (named.solid '#' (List.mem_of_head? sign)).2 rfl

end Action

namespace Directive

variable {line raw keyword gap written rest tail : Text} {label message : Option Text}
  {action : Action} {directive : Directive} {cause : Refusal}

/-- Seven to forty hexadecimal digits and nothing else. -/
structure HashDigits (word : Text) : Prop where
  atLeast : 7 ≤ word.length
  atMost : word.length ≤ 40
  digits : ∀ c ∈ word, isHexDigit c = true

/-- One blank character or more and nothing else. -/
structure Gap (gap : Text) : Prop where
  nonempty : gap ≠ []
  blank : ∀ c ∈ gap, isBlank c = true

theorem Gap.stops (apart : Gap gap) (rest : Text) : ∀ c ∈ (gap ++ rest).head?, isBlank c = true := by
  rw [List.head?_append_of_ne_nil _ apart.nonempty]
  exact fun c isFirst => apart.blank c (List.mem_of_head? isFirst)

/-- What may stand behind a hash, without the blanks at its ends, and the label and the message
that it gives. -/
inductive TailGives : Text → Option Text → Option Text → Prop where
  | nothing : TailGives [] none none
  | message (rest : Text) : TailGives ('#' :: rest) none (Text.nonBlank? rest)
  | label {rest label : Text} {behind : Option Text} (labels : Labels rest label behind) :
      TailGives ('%' :: rest) (some (Text.trim label)) (behind.bind Text.nonBlank?)

/-- A directive on a line without blanks at its ends: a keyword, a gap, a hash and its tail. -/
inductive OnLine : Text → Directive → Prop where
  | intro {action : Action} {keyword gap written tail : Text} {label message : Option Text}
      (named : action.NamedBy keyword) (apart : Gap gap) (hash : HashDigits written)
      (stops : ∀ c ∈ tail.head?, endsHash c = true) (gives : TailGives (Text.trim tail) label message) :
      OnLine (keyword ++ (gap ++ (written ++ tail)))
        { action, hash := Text.lower written, label, message }

/-- The first part of a line that is wrong, as it is written, where all parts to its left are right. -/
inductive FirstFault : Text → Refusal → Prop where
  | unknownAction {keyword rest : Text} (word : Text.FirstWord isBlank keyword rest)
      (unknown : ∀ action : Action, ¬ action.NamedBy keyword) :
      FirstFault (keyword ++ rest) (.unknownAction keyword)
  | nothingBehind {action : Action} {keyword : Text} (named : action.NamedBy keyword) :
      FirstFault keyword .missingHash
  | missingHash {action : Action} {keyword gap rest : Text} (named : action.NamedBy keyword)
      (apart : Gap gap) (sign : rest.head? = some '%' ∨ rest.head? = some '#') :
      FirstFault (keyword ++ (gap ++ rest)) .missingHash
  | invalidHash {action : Action} {keyword gap written tail : Text} (named : action.NamedBy keyword)
      (apart : Gap gap) (word : Text.FirstWord endsHash written tail) (invalid : ¬ HashDigits written) :
      FirstFault (keyword ++ (gap ++ (written ++ tail))) (.invalidHash written)
  | unexpectedText {action : Action} {keyword gap written tail : Text}
      (named : action.NamedBy keyword) (apart : Gap gap) (hash : HashDigits written)
      (stops : ∀ c ∈ tail.head?, endsHash c = true) (something : Text.trim tail ≠ [])
      (unmarked : (Text.trim tail).head? ≠ some '%' ∧ (Text.trim tail).head? ≠ some '#') :
      FirstFault (keyword ++ (gap ++ (written ++ tail))) (.unexpectedText (Text.trim tail))

theorem isHash_iff : isHash written = true ↔ HashDigits written := by
  rw [isHash, Bool.and_eq_true, Bool.and_eq_true, decide_eq_true_eq, decide_eq_true_eq, List.all_eq_true]
  constructor
  · rintro ⟨⟨atLeast, atMost⟩, digits⟩
    rw [byteLength_of_hex digits] at atLeast atMost
    exact ⟨atLeast, atMost, digits⟩
  · rintro ⟨atLeast, atMost, digits⟩
    rw [byteLength_of_hex digits]
    exact ⟨⟨atLeast, atMost⟩, digits⟩

theorem HashDigits.firstWord (hash : HashDigits written) (stops : ∀ c ∈ tail.head?, endsHash c = true) :
    Text.FirstWord endsHash written tail where
  nonempty := ne_nil_of_isHash (isHash_iff.mpr hash)
  inside := fun c member => endsHash_of_isHexDigit (hash.digits c member)
  stops := stops

/-! How the reader takes a line apart -/

/-- The directive of an action, from what stands behind its keyword and the gap. -/
def ofRest (action : Action) (rest : Text) : Except Refusal Directive := do
  let (hash, tail) ← readHash rest
  let (label, message) ← readTail (Text.trim tail)
  return { action, hash := Text.lower hash, label, message }

theorem ofTrimmed_eq (word : Text.FirstWord isBlank keyword rest) :
    ofTrimmed (keyword ++ rest) = readAction keyword >>= fun action => ofRest action (Text.trimStart rest) := by
  rw [ofTrimmed, word.splitAtFirst_eq]
  rfl

theorem readHash_eq (word : Text.FirstWord endsHash written tail) :
    readHash (written ++ tail) =
      if isHash written then .ok (written, tail) else .error (.invalidHash written) := by
  obtain ⟨c, others, rfl⟩ := List.exists_cons_of_ne_nil word.nonempty
  have inside := word.inside c List.mem_cons_self
  have noSign : ¬ (c = '%' ∨ c = '#') := by
    rintro (rfl | rfl) <;> exact absurd inside (by decide)
  have parts := word.splitAtFirst_eq
  rw [List.cons_append] at parts ⊢
  simp only [readHash, if_neg noSign, parts]

theorem readTail_eq_ok (gives : TailGives tail label message) : readTail tail = .ok (label, message) := by
  cases gives with
  | nothing => rfl
  | message rest => rfl
  | label labels => rw [readTail, splitLabel_eq_iff.mpr labels]

theorem readTail_unmarked (something : tail ≠ [])
    (unmarked : tail.head? ≠ some '%' ∧ tail.head? ≠ some '#') :
    readTail tail = .error (.unexpectedText tail) := by
  unfold readTail
  split
  · contradiction
  · exact absurd rfl unmarked.1
  · exact absurd rfl unmarked.2
  · rfl

theorem exists_tailGives (marked : tail = [] ∨ tail.head? = some '%' ∨ tail.head? = some '#') :
    ∃ label message, TailGives tail label message := by
  rcases marked with rfl | percent | sign
  · exact ⟨_, _, .nothing⟩
  · obtain ⟨rest, rfl⟩ := List.head?_eq_some_iff.mp percent
    exact ⟨_, _, .label (labels_splitLabel rest)⟩
  · obtain ⟨rest, rfl⟩ := List.head?_eq_some_iff.mp sign
    exact ⟨_, _, .message rest⟩

/-- Behind the name of an action and a gap, the rest is read for that action. -/
theorem ofTrimmed_named (named : action.NamedBy keyword) (apart : Gap gap)
    (first : ∀ c ∈ rest.head?, isBlank c = false) :
    ofTrimmed (keyword ++ (gap ++ rest)) = ofRest action rest := by
  have behindGap : Text.trimStart (gap ++ rest) = rest := by
    rw [Text.trimStart, List.dropWhile_append_of_pos apart.blank]
    exact Text.trimStart_eq_self first
  rw [ofTrimmed_eq (named.firstWord (apart.stops rest)),
    readAction_eq_ok_iff.mpr (Action.named?_eq_some_iff.mpr named), behindGap]
  rfl

theorem isBlank_of_endsHash {c : Char} (inside : endsHash c = false) : isBlank c = false := by
  simp only [endsHash, Bool.or_eq_false_iff] at inside
  exact inside.1.1

theorem ofTrimmed_hash (named : action.NamedBy keyword) (apart : Gap gap)
    (word : Text.FirstWord endsHash written tail) :
    ofTrimmed (keyword ++ (gap ++ (written ++ tail))) = ofRest action (written ++ tail) := by
  refine ofTrimmed_named named apart ?_
  rw [List.head?_append_of_ne_nil _ word.nonempty]
  exact fun c isFirst => isBlank_of_endsHash (word.inside c (List.mem_of_head? isFirst))

theorem ofTrimmed_of_onLine (on : OnLine line directive) : ofTrimmed line = .ok directive := by
  cases on with
  | intro named apart hash stops gives =>
      rw [ofTrimmed_hash named apart (hash.firstWord stops), ofRest, readHash_eq (hash.firstWord stops),
        if_pos (isHash_iff.mpr hash)]
      simp only [bind, Except.bind, readTail_eq_ok gives]
      rfl

theorem ofTrimmed_of_firstFault (fault : FirstFault line cause) : ofTrimmed line = .error cause := by
  cases fault with
  | unknownAction word unknown =>
      rw [ofTrimmed_eq word, readAction, Action.named?_eq_none_iff.mpr unknown]
      rfl
  | nothingBehind named =>
      have word : Text.FirstWord isBlank line [] := named.firstWord (by simp)
      have split := ofTrimmed_eq word
      rw [readAction_eq_ok_iff.mpr (Action.named?_eq_some_iff.mpr named), List.append_nil] at split
      exact split
  | missingHash named apart sign =>
      rename_i rest
      obtain ⟨c, following, rfl, isSign⟩ : ∃ c following, rest = c :: following ∧ (c = '%' ∨ c = '#') := by
        rcases sign with percent | hash
        · obtain ⟨following, rfl⟩ := List.head?_eq_some_iff.mp percent
          exact ⟨_, following, rfl, .inl rfl⟩
        · obtain ⟨following, rfl⟩ := List.head?_eq_some_iff.mp hash
          exact ⟨_, following, rfl, .inr rfl⟩
      have solid : isBlank c = false := by rcases isSign with rfl | rfl <;> decide
      rw [ofTrimmed_named named apart (by simpa using solid), ofRest, readHash, if_pos isSign]
      rfl
  | invalidHash named apart word invalid =>
      rw [ofTrimmed_hash named apart word, ofRest, readHash_eq word, if_neg (by rwa [isHash_iff])]
      rfl
  | unexpectedText named apart hash stops something unmarked =>
      rw [ofTrimmed_hash named apart (hash.firstWord stops), ofRest, readHash_eq (hash.firstWord stops),
        if_pos (isHash_iff.mpr hash)]
      simp only [bind, Except.bind, readTail_unmarked something unmarked]

/-- Behind a keyword there is nothing, or there is a gap and something behind that. -/
theorem exists_gap (trimmed : (keyword ++ rest).Trimmed) (something : rest ≠ [])
    (stops : ∀ c ∈ rest.head?, isBlank c = true) :
    ∃ gap body, rest = gap ++ body ∧ Gap gap ∧ body ≠ [] ∧ ∀ c ∈ body.head?, isBlank c = false := by
  obtain ⟨gap, blank, split⟩ := Text.exists_blank_append_trimStart rest
  have first := Text.trimStart_head rest
  obtain ⟨c, following, rfl⟩ := List.exists_cons_of_ne_nil something
  refine ⟨gap, _, split, ⟨?_, blank⟩, ?_, first⟩
  · rintro rfl
    rw [List.nil_append] at split
    rw [← split] at first
    exact absurd (first c rfl) (by simp [stops c rfl])
  · intro nothing
    rw [nothing, List.append_nil] at split
    have allBlank : ∀ d ∈ c :: following, isBlank d = true := by rwa [split]
    have isLast := List.getLast?_eq_some_getLast something
    have solid := trimmed.last _ (by rwa [List.getLast?_append_of_ne_nil _ something])
    exact absurd solid (by simp [allBlank _ (List.getLast_mem something)])

/-- What stands behind a gap makes the line a directive or is wrong. -/
theorem onLine_or_firstFault_behind {body : Text} (named : action.NamedBy keyword) (apart : Gap gap)
    (something : body ≠ []) (first : ∀ c ∈ body.head?, isBlank c = false) :
    (∃ directive, OnLine (keyword ++ (gap ++ body)) directive) ∨
      ∃ cause, FirstFault (keyword ++ (gap ++ body)) cause := by
  by_cases sign : body.head? = some '%' ∨ body.head? = some '#'
  · exact .inr ⟨_, .missingHash named apart sign⟩
  · have inWord : ∀ c ∈ body.head?, endsHash c = false := by
      intro c isFirst
      rw [Option.mem_def] at isFirst
      rw [isFirst, Option.some.injEq, Option.some.injEq, not_or] at sign
      simp [endsHash, first c isFirst, sign]
    obtain ⟨written, tail, rfl, word⟩ := Text.exists_firstWord something inWord
    by_cases hash : HashDigits written
    · by_cases marked : Text.trim tail = [] ∨ (Text.trim tail).head? = some '%' ∨
        (Text.trim tail).head? = some '#'
      · obtain ⟨label, message, gives⟩ := exists_tailGives marked
        exact .inl ⟨_, .intro named apart hash word.stops gives⟩
      · rw [not_or, not_or] at marked
        exact .inr ⟨_, .unexpectedText named apart hash word.stops marked.1 marked.2⟩
    · exact .inr ⟨_, .invalidHash named apart word hash⟩

theorem onLine_or_firstFault (trimmed : line.Trimmed) :
    (∃ directive, OnLine line directive) ∨ ∃ cause, FirstFault line cause := by
  obtain ⟨keyword, rest, rfl, word⟩ := Text.exists_firstWord trimmed.nonempty trimmed.first
  by_cases known : ∃ action : Action, action.NamedBy keyword
  · obtain ⟨action, named⟩ := known
    by_cases something : rest = []
    · rw [something, List.append_nil]
      exact .inr ⟨_, .nothingBehind named⟩
    · obtain ⟨gap, body, rfl, apart, more, first⟩ := exists_gap trimmed something word.stops
      exact onLine_or_firstFault_behind named apart more first
  · exact .inr ⟨_, .unknownAction word (not_exists.mp known)⟩

theorem ofTrimmed_eq_ok_iff (trimmed : line.Trimmed) :
    ofTrimmed line = .ok directive ↔ OnLine line directive := by
  refine ⟨fun read => ?_, ofTrimmed_of_onLine⟩
  rcases onLine_or_firstFault trimmed with ⟨found, on⟩ | ⟨cause, fault⟩
  · rw [ofTrimmed_of_onLine on] at read
    rwa [← Except.ok.inj read]
  · rw [ofTrimmed_of_firstFault fault] at read
    contradiction

theorem ofTrimmed_eq_error_iff (trimmed : line.Trimmed) :
    ofTrimmed line = .error cause ↔ FirstFault line cause := by
  refine ⟨fun unread => ?_, ofTrimmed_of_firstFault⟩
  rcases onLine_or_firstFault trimmed with ⟨found, on⟩ | ⟨first, fault⟩
  · rw [ofTrimmed_of_onLine on] at unread
    contradiction
  · rw [ofTrimmed_of_firstFault fault] at unread
    rwa [← Except.error.inj unread]

theorem OnLine.ne_silent (on : OnLine line directive) : line ≠ [] ∧ line.head? ≠ some '#' := by
  cases on with
  | intro named apart hash stops gives =>
      refine ⟨List.append_ne_nil_of_left_ne_nil named.nonempty _, ?_⟩
      rw [List.head?_append_of_ne_nil _ named.nonempty]
      exact named.head?_ne

theorem FirstFault.nonempty (fault : FirstFault line cause) : line ≠ [] := by
  cases fault with
  | unknownAction word unknown => exact List.append_ne_nil_of_left_ne_nil word.nonempty _
  | nothingBehind named => exact named.nonempty
  | missingHash named | invalidHash named | unexpectedText named =>
      exact List.append_ne_nil_of_left_ne_nil named.nonempty _

theorem ofLine_silent (silent : Text.trim raw = [] ∨ (Text.trim raw).head? = some '#') :
    ofLine raw = .ok none := by
  rcases silent with nothing | comment
  · rw [ofLine, nothing]
  · exact ofLine_comment comment

theorem ofLine_spoken (something : Text.trim raw ≠ []) (noComment : (Text.trim raw).head? ≠ some '#') :
    ofLine raw = (ofTrimmed (Text.trim raw)).map some := by
  have trimmed := Text.trim_trimmed something
  rw [← ofLine_of_trimmed trimmed noComment]
  exact ofLine_of_trim_eq trimmed.trim_eq.symm

/-- A line without its blanks at both ends says nothing if it is empty or a comment. It is a
directive exactly if it consists of the name of an action, a gap, a hash and a tail, and then
that one. Any other line is refused for its first part that is wrong. -/
theorem ofLine_reads_grammar (raw : Text) :
    (ofLine raw = .ok none ↔ Text.trim raw = [] ∨ (Text.trim raw).head? = some '#') ∧
      (∀ directive, ofLine raw = .ok (some directive) ↔ OnLine (Text.trim raw) directive) ∧
      ∀ cause, ofLine raw = .error cause ↔
        (Text.trim raw).head? ≠ some '#' ∧ FirstFault (Text.trim raw) cause := by
  by_cases silent : Text.trim raw = [] ∨ (Text.trim raw).head? = some '#'
  · rw [ofLine_silent silent]
    refine ⟨by simp [silent], ?_, ?_⟩
    · intro directive
      refine ⟨by simp, fun on => ?_⟩
      rcases silent with nothing | comment
      · exact absurd nothing on.ne_silent.1
      · exact absurd comment on.ne_silent.2
    · intro cause
      refine ⟨by simp, ?_⟩
      rintro ⟨noComment, fault⟩
      exact absurd (silent.resolve_right noComment) fault.nonempty
  · rw [not_or] at silent
    have trimmed := Text.trim_trimmed silent.1
    rw [ofLine_spoken silent.1 silent.2]
    refine ⟨?_, ?_, ?_⟩
    · cases ofTrimmed (Text.trim raw) <;> simp [Except.map, silent]
    · intro directive
      rw [← ofTrimmed_eq_ok_iff trimmed]
      cases ofTrimmed (Text.trim raw) <;> simp [Except.map]
    · intro cause
      rw [← ofTrimmed_eq_error_iff trimmed, and_iff_right silent.2]
      cases ofTrimmed (Text.trim raw) <;> simp [Except.map]

end Directive

end CuratedHistory
