import CuratedHistory.Proofs.Plan.Grammar

namespace CuratedHistory.Directive

/-! A directive written down on a line, from which it is read back: each has one such line,
and whatever line a directive is read from, it has that one too. -/

variable {c : Char} {text body raw line : Text} {label message : Option Text}
  {directive : Directive}

/-- What is written behind the hash. -/
def tailSpelling (label message : Option Text) : Text :=
  (match label with
    | none => []
    | some label => ' ' :: '%' :: escape label) ++
  match message with
    | none => []
    | some message => ' ' :: '#' :: ' ' :: message

/-- The keyword and the hash, the label behind a percent sign with its hash signs escaped, and
the message behind a hash sign. -/
def spelling (directive : Directive) : Text :=
  directive.action.keyword ++ ([' '] ++ (directive.hash ++ tailSpelling directive.label directive.message))

/-- A label or a message that can be written down, with no blank at its ends. A label may be
empty, a message may not. -/
structure Writable (directive : Directive) : Prop where
  hash : HashDigits directive.hash
  small : Text.lower directive.hash = directive.hash
  label : ∀ label, directive.label = some label → label = [] ∨ label.Trimmed
  message : ∀ message, directive.message = some message → message.Trimmed

/-! Escaped labels -/

theorem escape_cons (c : Char) (label : Text) :
    escape (c :: label) = (if c = '#' then ['\\', '#'] else [c]) ++ escape label :=
  List.flatMap_cons

theorem escape_concat (label : Text) (noSign : c ≠ '#') : escape (label ++ [c]) = escape label ++ [c] := by
  simp [escape, noSign]

theorem head?_escape (label : Text) : (escape label).head? ≠ some '#' := by
  cases label with
  | nil => simp [escape]
  | cons c label => by_cases sign : c = '#' <;> simp [escape_cons, sign]

theorem getLast?_escape (label : Text) : (escape label).getLast? = label.getLast? := by
  rcases List.eq_nil_or_concat label with rfl | ⟨before, last, rfl⟩
  · rfl
  · by_cases sign : last = '#' <;> simp [escape, sign]

/-- A backslash is put in front of signs only, so that no other one comes to stand there. -/
theorem signsEscaped_escape (label : Text) : SignsEscaped (escape label) := by
  induction label with
  | nil => exact signsEscaped_nil
  | cons c label ih =>
      rw [escape_cons]
      split
      · exact signsEscaped_pair.mpr ih
      · rename_i noSign
        exact (signsEscaped_cons noSign fun _ => head?_escape label).mpr ih

theorem unescape_escape (label : Text) : unescape (escape label) = label := by
  induction label with
  | nil => rfl
  | cons c label ih =>
      rw [escape_cons]
      split
      · rename_i sign
        simp [unescape, ih, sign]
      · rw [List.singleton_append, unescape_cons fun _ => head?_escape label, ih]

theorem escape_trimmed (trimmed : text.Trimmed) : (escape text).Trimmed := by
  obtain ⟨c, rest, rfl⟩ := List.exists_cons_of_ne_nil trimmed.nonempty
  have solid := trimmed.first c rfl
  constructor
  case nonempty => by_cases sign : c = '#' <;> simp [escape_cons, sign]
  case first => by_cases sign : c = '#' <;> simp_all [escape_cons, isBlank]
  case last =>
    rw [getLast?_escape]
    exact trimmed.last

/-! The tail of a line -/

theorem nonBlank?_behind_blank (trimmed : text.Trimmed) : Text.nonBlank? (' ' :: text) = some text := by
  have behind : Text.nonBlank? ([' '] ++ text) = Text.nonBlank? text :=
    Text.nonBlank?_blank_append (by simp [isBlank])
  exact behind.trans trimmed.nonBlank?_eq

theorem trim_eq_self (trimmed : text = [] ∨ text.Trimmed) : Text.trim text = text := by
  rcases trimmed with rfl | trimmed
  · rfl
  · exact trimmed.trim_eq

theorem percent_trimmed (trimmed : text = [] ∨ text.Trimmed) : Text.Trimmed (['%'] ++ text) := by
  have percent : isBlank '%' = false := by decide
  rcases trimmed with rfl | ends
  · exact ⟨List.cons_ne_nil _ _, by simpa using percent, by simpa using percent⟩
  · exact ends.append (List.cons_ne_nil _ _) (by simpa using percent)

theorem tailGives_message (ends : text.Trimmed) : TailGives ('#' :: ' ' :: text) none (some text) := by
  have gives := TailGives.message (' ' :: text)
  rwa [nonBlank?_behind_blank ends] at gives

theorem tailGives_label (trimmed : text = [] ∨ text.Trimmed) :
    TailGives ('%' :: escape text) (some text) none := by
  have gives := TailGives.label (.whole (signsEscaped_escape text))
  rwa [unescape_escape, trim_eq_self trimmed] at gives

/-- The blank in front of the sign belongs to the label, as long as that is not trimmed. It keeps
a backslash at the end of the label apart from the sign. -/
theorem tailGives_both (trimmed : text = [] ∨ text.Trimmed) (ends : body.Trimmed) :
    TailGives ('%' :: (escape text ++ ' ' :: '#' :: ' ' :: body)) (some text) (some body) := by
  have bare : (escape (text ++ [' '])).getLast? ≠ some '\\' := by
    rw [getLast?_escape, List.getLast?_concat]
    decide
  have labels : Labels (escape (text ++ [' ']) ++ '#' :: ' ' :: body) _ _ :=
    .ended (signsEscaped_escape _) bare
  have gives := TailGives.label labels
  rw [unescape_escape, Text.trim_append_blank (by simp [isBlank]), trim_eq_self trimmed, Option.bind_some,
    nonBlank?_behind_blank ends] at gives
  simpa [escape_concat] using gives

/-- A tail that is written behind a blank, and gives its label and message back. -/
theorem exists_body (labelled : ∀ text, label = some text → text = [] ∨ text.Trimmed)
    (trimmed : ∀ text, message = some text → text.Trimmed) :
    (tailSpelling label message = [] ∧ TailGives [] label message) ∨
      ∃ body : Text, tailSpelling label message = ' ' :: body ∧ body.Trimmed ∧
        TailGives body label message := by
  have sign : isBlank '#' = false := by decide
  have percent : isBlank '%' = false := by decide
  match label, message with
  | none, none => exact .inl ⟨rfl, .nothing⟩
  | none, some message =>
      have ends := trimmed message rfl
      have whole : Text.Trimmed (['#', ' '] ++ message) :=
        ends.append (List.cons_ne_nil _ _) (by simpa using sign)
      exact .inr ⟨_, rfl, whole, tailGives_message ends⟩
  | some label, none =>
      have inside : escape label = [] ∨ (escape label).Trimmed :=
        (labelled label rfl).imp (fun empty => by rw [empty]; rfl) escape_trimmed
      exact .inr ⟨_, by simp [tailSpelling], percent_trimmed inside, tailGives_label (labelled label rfl)⟩
  | some label, some message =>
      have ends := trimmed message rfl
      have whole : Text.Trimmed (('%' :: escape label ++ [' ', '#', ' ']) ++ message) :=
        ends.append (by simp) (by simpa using percent)
      exact .inr ⟨_, by simp [tailSpelling], by simpa using whole, tailGives_both (labelled label rfl) ends⟩

namespace Writable

theorem onLine (writable : directive.Writable) : OnLine directive.spelling directive := by
  have apart : Gap [' '] := ⟨List.cons_ne_nil _ _, by simp [isBlank]⟩
  have stops : ∀ c ∈ (tailSpelling directive.label directive.message).head?, endsHash c = true := by
    rcases exists_body writable.label writable.message with ⟨bare, _⟩ | ⟨body, shape, _⟩
    · simp [bare]
    · simp [shape, endsHash, isBlank]
  have gives : TailGives (Text.trim (tailSpelling directive.label directive.message))
      directive.label directive.message := by
    rcases exists_body writable.label writable.message with ⟨bare, empty⟩ | ⟨body, shape, ends, gives⟩
    · rwa [bare]
    · have cut : Text.trim ([' '] ++ body) = Text.trim body := Text.trim_blank_append (by simp [isBlank])
      rw [List.singleton_append, ends.trim_eq] at cut
      rwa [shape, cut]
  have on := OnLine.intro directive.action.namedBy_keyword apart writable.hash stops gives
  rwa [writable.small] at on

theorem trimmed (writable : directive.Writable) : directive.spelling.Trimmed := by
  have start := directive.action.namedBy_keyword.nonempty
  have solid : ∀ c ∈ directive.action.keyword.head?, isBlank c = false := fun c isFirst =>
    (directive.action.namedBy_keyword.solid c (List.mem_of_head? isFirst)).1
  rw [spelling, ← List.append_assoc]
  have front : ∀ c ∈ (directive.action.keyword ++ [' ']).head?, isBlank c = false := by
    rwa [List.head?_append_of_ne_nil _ start]
  rcases exists_body writable.label writable.message with ⟨bare, _⟩ | ⟨body, shape, ends, _⟩
  · rw [bare, List.append_nil]
    exact (trimmed_of_isHash (isHash_iff.mpr writable.hash)).append
      (List.append_ne_nil_of_left_ne_nil start _) front
  · have split : directive.action.keyword ++ [' '] ++ (directive.hash ++ ' ' :: body) =
        directive.action.keyword ++ [' '] ++ (directive.hash ++ [' ']) ++ body := by simp
    rw [shape, split]
    refine ends.append (by simp [start]) ?_
    rwa [List.append_assoc, List.head?_append_of_ne_nil _ start]

theorem ofLine_spelling (writable : directive.Writable) :
    ofLine directive.spelling = .ok (some directive) := by
  have on := writable.onLine
  rw [ofLine_of_trimmed writable.trimmed on.ne_silent.2, ofTrimmed_of_onLine on]
  rfl

end Writable

theorem OnLine.writable (on : OnLine line directive) : directive.Writable := by
  cases on with
  | intro named apart hash stops gives =>
      constructor
      case hash =>
        refine ⟨by simpa [Text.lower] using hash.atLeast, by simpa [Text.lower] using hash.atMost, ?_⟩
        exact List.forall_mem_map.mpr fun c member => by rw [isHexDigit_toLower, hash.digits c member]
      case small => exact Text.lower_lower _
      case label =>
        exact fun text same => or_iff_not_imp_left.mpr ((readTail_trimmed (readTail_eq_ok gives)).1 text same)
      case message => exact (readTail_trimmed (readTail_eq_ok gives)).2

theorem trimmed_of_ofLine (read : ofLine raw = .ok (some directive)) : (Text.trim raw).Trimmed := by
  apply Text.trim_trimmed
  intro nothing
  rw [ofLine_silent (.inl nothing)] at read
  cases read

/-- A directive that can be written down is read back from its spelling. The directives that
are read from any lines at all are those that can be written down. -/
theorem spelling_reads_back :
    (∀ directive : Directive, directive.Writable → ofLine directive.spelling = .ok (some directive)) ∧
      ∀ raw directive, ofLine raw = .ok (some directive) →
        directive.Writable ∧ ofLine directive.spelling = .ok (some directive) := by
  refine ⟨fun directive writable => writable.ofLine_spelling, ?_⟩
  intro raw directive read
  have on := (ofTrimmed_eq_ok_iff (trimmed_of_ofLine read)).mp (ofTrimmed_of_ofLine read)
  have writable := on.writable
  exact ⟨writable, writable.ofLine_spelling⟩

/-- A label with signs and backslashes at its ends and side by side. -/
def entangledDirective : Directive where
  action := .bundle
  hash := "abcdef0".toList
  label := some "\\#%##\\".toList
  message := some "# \\#".toList

theorem entangledDirective_reads_back :
    entangledDirective.Writable ∧
      entangledDirective.spelling = "bundle abcdef0 %\\\\#%\\#\\#\\ # # \\#".toList ∧
      ofLine entangledDirective.spelling = .ok (some entangledDirective) ∧
      ofLine "\tB ABCDEF0%\\\\#%\\#\\#\\\r## \\#\r".toList = .ok (some entangledDirective) := by
  have read : ofLine "\tB ABCDEF0%\\\\#%\\#\\#\\\r## \\#\r".toList = .ok (some entangledDirective) := by
    decide +kernel
  obtain ⟨writable, _⟩ := spelling_reads_back.2 _ _ read
  exact ⟨writable, by decide +kernel, spelling_reads_back.1 _ writable, read⟩

end CuratedHistory.Directive
