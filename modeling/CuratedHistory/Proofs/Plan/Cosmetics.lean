import CuratedHistory.Proofs.Plan.Comments
import CuratedHistory.Proofs.Plan.Simulation

namespace CuratedHistory

/-! Changes to a plan that leave what it says: blank lines and comments, line ends, blanks, the
case of words and hashes, and other names of actions. They do not change what it means. -/

variable {text other front back line : Text} {error : PlanError}

/-- A change at one place of a plan. -/
inductive Retouched : Text → Text → Prop where
  /-- A silent line in front of a line, or at the end behind a line feed. -/
  | inserted {before line after : Text} (atStart : ∀ c ∈ before.getLast?, c = '\n')
      (unbroken : '\n' ∉ line) (silent : Silent line) :
      Retouched (before ++ after) (before ++ (line ++ '\n' :: after))
  /-- A silent line behind the last one. -/
  | appended {text line : Text} (unbroken : '\n' ∉ line) (silent : Silent line) :
      Retouched text (text ++ '\n' :: line)
  /-- A carriage return in front of a line feed. -/
  | returned (before after : Text) : Retouched (before ++ '\n' :: after) (before ++ '\r' :: '\n' :: after)
  /-- Another spelling of a line. -/
  | respelled {before line other after : Text} (atStart : ∀ c ∈ before.getLast?, c = '\n')
      (atEnd : ∀ c ∈ after.head?, c = '\n') (unbroken : '\n' ∉ line) (unbrokenToo : '\n' ∉ other)
      (same : Directive.Respelled line other) :
      Retouched (before ++ (line ++ after)) (before ++ (other ++ after))

/-! What the lines of a text say, put together at line feeds -/

theorem said_of_unbroken (unbroken : '\n' ∉ line) : said line = readings [line] := by
  rw [said, Text.lines_of_unbroken unbroken]
  split
  · rename_i blank
    rw [blank]
    rfl
  · rfl

theorem said_line (unbroken : '\n' ∉ line) (rest : Text) :
    said (line ++ '\n' :: rest) = readings [line] ++ said rest := by
  have worn := readings_map (fun raw => Directive.ofLine_of_trim_eq (Text.trim_withoutReturn raw)) [line]
  rw [said, Text.lines_append_newline unbroken, ← List.singleton_append, readings_append, said, ← worn,
    List.map_singleton]

/-- A line feed anywhere parts what is said in front of it from what is said behind it. -/
theorem said_append (front back : Text) : said (front ++ '\n' :: back) = said front ++ said back := by
  -- The first line of the front goes first, and what is left of the front is shorter.
  induction length : front.length using Nat.strong_induction_on generalizing front with
  | _ count ih =>
      by_cases broken : '\n' ∈ front
      · obtain ⟨line, rest, rfl, unbroken⟩ := List.eq_append_cons_of_mem broken
        have shorter : rest.length < count := by
          rw [← length, List.length_append, List.length_cons]
          omega
        rw [List.append_assoc, List.cons_append, said_line unbroken, said_line unbroken, ih _ shorter rest rfl,
          List.append_assoc]
      · rw [said_line broken, said_of_unbroken broken]

/-- A text that ends in a line feed, or is empty, comes first in what is said. -/
theorem said_of_atStart (atStart : ∀ c ∈ front.getLast?, c = '\n') (back : Text) :
    said (front ++ back) = said front ++ said back := by
  rcases List.eq_nil_or_concat front with rfl | ⟨lines, last, rfl⟩
  · rfl
  · have feed : last = '\n' := atStart last (by simp)
    have alone := said_append lines []
    rw [feed, List.concat_eq_append, alone, List.append_assoc, List.singleton_append, said_append]
    simp [said, Text.lines, readings]

theorem said_of_atEnd (atEnd : ∀ c ∈ back.head?, c = '\n') (unbroken : '\n' ∉ line) :
    said (line ++ back) = readings [line] ++ said back.tail := by
  cases back with
  | nil =>
      rw [List.append_nil, said_of_unbroken unbroken]
      exact (List.append_nil _).symm
  | cons c rest =>
      rw [atEnd c rfl, said_line unbroken]
      rfl

/-- The last line of a text, which is empty behind a line feed. -/
theorem exists_lastLine (text : Text) :
    ∃ front line, text = front ++ line ∧ (∀ c ∈ front.getLast?, c = '\n') ∧ '\n' ∉ line := by
  by_cases broken : '\n' ∈ text.reverse
  · obtain ⟨line, front, split, unbroken⟩ := List.eq_append_cons_of_mem broken
    refine ⟨front.reverse ++ ['\n'], line.reverse, ?_, by simp, by simpa using unbroken⟩
    rw [← List.reverse_reverse text, split]
    simp
  · exact ⟨[], text, rfl, by simp, by simpa using broken⟩

theorem said_append_return (text : Text) : said (text ++ ['\r']) = said text := by
  obtain ⟨front, line, rfl, atStart, unbroken⟩ := exists_lastLine text
  have unbrokenToo : '\n' ∉ line ++ ['\r'] := by simp [unbroken]
  have alike : Directive.ofLine (line ++ ['\r']) = Directive.ofLine line :=
    Directive.ofLine_of_trim_eq (Text.trim_append_blank (by simp [isBlank]))
  rw [List.append_assoc, said_of_atStart atStart, said_of_atStart atStart, said_of_unbroken unbrokenToo,
    said_of_unbroken unbroken, readings, List.filterMap_cons, alike]
  rfl

/-! Texts whose lines read alike -/

namespace LinesAlike

theorem of_eq (same : said text = said other) : LinesAlike text other := by
  rw [LinesAlike, same]
  exact List.forall₂_same.mpr fun reading _ => .refl reading

theorem symm (alike : LinesAlike text other) : LinesAlike other text :=
  List.Forall₂.flip (alike.imp fun _ _ => ReadAlike.symm)

theorem trans {another : Text} (alike : LinesAlike text other) (further : LinesAlike other another) :
    LinesAlike text another := by
  have chained {one two three : List (Except Refusal Directive)} (first : List.Forall₂ ReadAlike one two)
      (second : List.Forall₂ ReadAlike two three) : List.Forall₂ ReadAlike one three := by
    induction first generalizing three with
    | nil => exact second
    | cons here _ ih =>
        cases second with
        | cons hereToo rest => exact .cons (here.trans hereToo) (ih rest)
  exact chained alike further

end LinesAlike

theorem readings_of_silent (silent : Silent line) : readings [line] = [] :=
  readings_cons_skipped (ofLine_eq_none_iff.mpr silent)

theorem readings_alike (alike : ReadAlike (Directive.ofLine line) (Directive.ofLine other)) :
    List.Forall₂ ReadAlike (readings [line]) (readings [other]) := by
  simp only [readings, List.filterMap_cons, List.filterMap_nil]
  generalize Directive.ofLine line = reading at alike ⊢
  generalize Directive.ofLine other = readingToo at alike ⊢
  cases alike with
  | read value => cases value with
    | none => exact .nil
    | some directive => exact .cons (.read directive) .nil
  | unread kind => exact .cons (.unread kind) .nil

theorem linesAlike_of_retouched (changed : Retouched text other) : LinesAlike text other := by
  cases changed with
  | inserted atStart unbroken silent =>
      refine .of_eq ?_
      rw [said_of_atStart atStart, said_of_atStart atStart, said_line unbroken, readings_of_silent silent,
        List.nil_append]
  | appended unbroken silent =>
      refine .of_eq ?_
      rw [said_append, said_of_unbroken unbroken, readings_of_silent silent, List.append_nil]
  | returned before after =>
      refine .of_eq ?_
      have cut := said_append (before ++ ['\r']) after
      rw [said_append_return, List.append_assoc, List.singleton_append] at cut
      rw [said_append, cut]
  | respelled atStart atEnd unbroken unbrokenToo same =>
      have here := readings_alike (Directive.readAlike_of_respelled same)
      rw [LinesAlike, said_of_atStart atStart, said_of_atStart atStart, said_of_atEnd atEnd unbroken,
        said_of_atEnd atEnd unbrokenToo]
      have unchanged (readings : List (Except Refusal Directive)) :
          List.Forall₂ ReadAlike readings readings := List.forall₂_same.mpr fun _ _ => .refl _
      exact List.rel_append (unchanged _) (List.rel_append here (unchanged _))

theorem linesAlike_of_eqvGen (changed : Relation.EqvGen Retouched text other) : LinesAlike text other := by
  induction changed with
  | rel _ _ once => exact linesAlike_of_retouched once
  | refl _ => exact .of_eq rfl
  | symm _ _ _ ih => exact ih.symm
  | trans _ _ _ _ _ first second => exact first.trans second

/-! Comments on errors -/

theorem said_stripErrorComments (text : Text) : said (stripErrorComments text) = said text := by
  rw [said, stripErrorComments_eq, Text.lines_unlines (newline_notMem_planLines text), planLines,
    readings_annotated, said]

theorem said_withErrorComments (oneLine : error.OneLine) (text : Text) :
    said (withErrorComments text error) = said text := by
  have silent : ∀ comment ∈ errorComments error, Directive.ofLine comment = .ok none :=
    fun comment member => ofLine_of_isErrorComment (isErrorComment_errorComments error comment member)
  have nothing : readings (errorComments error) = [] :=
    List.filterMap_eq_nil_iff.mpr fun comment member => by rw [silent comment member]
  rw [said, lines_annotated oneLine, readings_append, planLines, readings_annotated,
    readings_map fun raw => Directive.ofLine_of_trim_eq (Text.trim_withoutReturn raw), nothing,
    List.append_nil, said]

/-- Over every range, plans that come from each other by changes of these kinds mean the same,
however many there are: they are accepted alike, with the same records but for the numbers of
their lines, or refused alike, at the same directive and for causes of one kind. So do a plan
with comments on an error in it and the plan without them. -/
theorem cosmetics_keep_meaning (range : PlanRange) (resolver : Resolver) :
    (∀ text other, Relation.EqvGen Retouched text other → SameMeaning range resolver text other) ∧
      ∀ text error, error.OneLine →
        SameMeaning range resolver text (stripErrorComments text) ∧
          SameMeaning range resolver text (withErrorComments text error) ∧
          SameMeaning range resolver (stripErrorComments text) (withErrorComments text error) := by
  refine ⟨fun text other changed => (linesAlike_of_eqvGen changed).sameMeaning range resolver, ?_⟩
  intro text error oneLine
  have stripped := said_stripErrorComments text
  have annotated := said_withErrorComments oneLine text
  refine ⟨?_, ?_, ?_⟩
  · exact (LinesAlike.of_eq stripped.symm).sameMeaning range resolver
  · exact (LinesAlike.of_eq annotated.symm).sameMeaning range resolver
  · exact (LinesAlike.of_eq (stripped.trans annotated.symm)).sameMeaning range resolver

def plainPlan : Text :=
  "bundle aaaaaaa %One\nbundle bbbbbbb".toList

/-- The plan with a comment in front, its first line in another spelling and with another end. -/
def dressedPlan : Text :=
  "# note\nB\t AAAAAAA %One\r\nbundle bbbbbbb".toList

theorem dressedPlan_retouched : Relation.EqvGen Retouched plainPlan dressedPlan := by
  have rewritten {line other : Text} (unbroken : '\n' ∉ line) (unbrokenToo : '\n' ∉ other)
      (same : Directive.Respelled line other) :
      Relation.EqvGen Retouched (line ++ "\nbundle bbbbbbb".toList) (other ++ "\nbundle bbbbbbb".toList) :=
    .rel _ _ (@Retouched.respelled [] line other _ (by simp) (by simp) unbroken unbrokenToo same)
  have gap : Directive.Gap [' '] := ⟨by simp, by simp [isBlank]⟩
  have wider : Directive.Gap ['\t', ' '] := ⟨by simp, by simp [isBlank]⟩
  have word {rest : Text} (apart : Directive.Gap rest) : Text.FirstWord isBlank ['B'] rest :=
    ⟨by simp, by simp [isBlank], fun c isFirst => apart.blank c (List.mem_of_head? isFirst)⟩
  have token : Text.FirstWord Directive.endsHash "aaaaaaa".toList " %One".toList :=
    ⟨by simp, by simp [Directive.endsHash, isBlank], by simp [Directive.endsHash, isBlank]⟩
  have renamed := @Directive.Respelled.renamed .bundle [] "bundle".toList ['B'] " aaaaaaa %One".toList
    (by simp) (by decide +kernel) (by decide +kernel) (by simp [isBlank])
  have spaced := @Directive.Respelled.spaced [] ['B'] [' '] ['\t', ' '] "aaaaaaa %One".toList (by simp)
    (word gap) gap wider
  have rehashed := @Directive.Respelled.rehashed [] ['B'] ['\t', ' '] "aaaaaaa".toList "AAAAAAA".toList
    " %One".toList (by simp) (word wider) wider token (by decide +kernel)
  have one : Relation.EqvGen Retouched "bundle aaaaaaa %One\nbundle bbbbbbb".toList
      "B aaaaaaa %One\nbundle bbbbbbb".toList := by
    simpa using rewritten (by simp) (by simp) renamed
  have two : Relation.EqvGen Retouched "B aaaaaaa %One\nbundle bbbbbbb".toList
      "B\t aaaaaaa %One\nbundle bbbbbbb".toList := by
    simpa using rewritten (by simp) (by simp) spaced
  have three : Relation.EqvGen Retouched "B\t aaaaaaa %One\nbundle bbbbbbb".toList
      "B\t AAAAAAA %One\nbundle bbbbbbb".toList := by
    simpa using rewritten (by simp) (by simp) rehashed
  have four : Retouched "B\t AAAAAAA %One\nbundle bbbbbbb".toList
      "B\t AAAAAAA %One\r\nbundle bbbbbbb".toList := by
    simpa using Retouched.returned "B\t AAAAAAA %One".toList "bundle bbbbbbb".toList
  have five : Retouched "B\t AAAAAAA %One\r\nbundle bbbbbbb".toList
      "# note\nB\t AAAAAAA %One\r\nbundle bbbbbbb".toList := by
    simpa using @Retouched.inserted [] "# note".toList
      "B\t AAAAAAA %One\r\nbundle bbbbbbb".toList (by simp) (by simp) (by decide +kernel)
  exact .trans _ _ _ (.trans _ _ _ one two) (.trans _ _ _ three (.trans _ _ _ (.rel _ _ four) (.rel _ _ five)))

theorem cosmetics_keep_dressedPlan :
    Relation.EqvGen Retouched plainPlan dressedPlan ∧
      SameMeaning bundleRange bundleRange.resolver plainPlan dressedPlan ∧
      (parsePlan bundleRange bundleRange.resolver plainPlan).map (List.map Record.line) = .ok [1, 2] ∧
      (parsePlan bundleRange bundleRange.resolver dressedPlan).map (List.map Record.line) = .ok [2, 3] ∧
      continuedError.OneLine ∧
      SameMeaning bundleRange bundleRange.resolver continuedPlan
        (withErrorComments continuedPlan continuedError) := by
  have oneLine : continuedError.OneLine := List.forall_mem_singleton.mpr (Text.notMem_literal (by decide))
  obtain ⟨changed, commented⟩ := cosmetics_keep_meaning bundleRange bundleRange.resolver
  exact ⟨dressedPlan_retouched, changed _ _ dressedPlan_retouched, by decide +kernel, by decide +kernel,
    oneLine, (commented continuedPlan continuedError oneLine).2.1⟩

end CuratedHistory
