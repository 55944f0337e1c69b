import CuratedHistory.Proofs.Plan.ParserState

namespace CuratedHistory

/-! Which plans are accepted, and with which records, in terms of all their
directives at once, and what one more directive at the end changes. -/

/-- An entry of a list with one more at its end is the last one, or stands before it. -/
theorem concat_eq_append_cons_iff {α : Type} {list before after : List α} {last entry : α} :
    list ++ [last] = before ++ entry :: after ↔
      (after = [] ∧ before = list ∧ entry = last) ∨
        ∃ inner, after = inner ++ [last] ∧ list = before ++ entry :: inner := by
  constructor
  · intro split
    rcases List.eq_nil_or_concat after with rfl | ⟨inner, final, rfl⟩
    · obtain ⟨same, lastSame⟩ := List.append_inj' split rfl
      exact .inl ⟨rfl, same.symm, (List.singleton_inj.mp lastSame).symm⟩
    · have regrouped : list ++ [last] = (before ++ entry :: inner) ++ [final] := by
        simpa using split
      obtain ⟨same, lastSame⟩ := List.append_inj' regrouped rfl
      exact .inr ⟨inner, by rw [List.singleton_inj.mp lastSame, List.concat_eq_append], same⟩
  · rintro (⟨rfl, rfl, rfl⟩ | ⟨inner, rfl, rfl⟩)
    · rfl
    · simp

namespace Directive

variable {resolver : Resolver} {range : PlanRange} {directive : Directive}
  {directives : List Directive} {label : Text}

def position? (range : PlanRange) (resolver : Resolver) (directive : Directive) : Option Nat :=
  (directive.commit? resolver).bind range.position?

/-- The first directive names a commit before that of the second one. -/
def Before (range : PlanRange) (resolver : Resolver) (earlier later : Directive) : Prop :=
  ∃ first second, earlier.position? range resolver = some first ∧
    later.position? range resolver = some second ∧ first < second

/-- The label that is in effect after some directives: the last label with something in
it, if only bundles follow the bundle that it stands on. -/
def LabelInEffect (directives : List Directive) (label : Text) : Prop :=
  ∃ (before : List Directive) (opener : Directive) (continuation : List Directive),
    directives = before ++ opener :: continuation ∧
      opener.action = .bundle ∧ opener.label = some label ∧ label ≠ [] ∧
      ∀ directive ∈ continuation, directive.action = .bundle ∧
        (directive.label = none ∨ directive.label = some [])

theorem ownLabel?_eq_none_iff :
    directive.ownLabel? = none ↔ directive.label = none ∨ directive.label = some [] := by
  unfold ownLabel?
  cases directive.label with
  | none => simp
  | some text => simp [Option.filter_eq_none_iff]

theorem labelInEffect_nil : ¬ LabelInEffect [] label := by
  rintro ⟨before, opener, continuation, split, _⟩
  simp at split

theorem labelInEffect_concat :
    LabelInEffect (directives ++ [directive]) label ↔
      directive.action = .bundle ∧ (directive.ownLabel? = some label ∨
        directive.ownLabel? = none ∧ LabelInEffect directives label) := by
  constructor
  · rintro ⟨before, opener, continuation, split, bundled, labelled, something, continues⟩
    rcases concat_eq_append_cons_iff.mp split with ⟨rfl, rfl, rfl⟩ | ⟨inner, rfl, earlier⟩
    · exact ⟨bundled, .inl (ownLabel?_eq_some_iff.mpr ⟨labelled, something⟩)⟩
    · have last := continues directive (by simp)
      exact ⟨last.1, .inr ⟨ownLabel?_eq_none_iff.mpr last.2, before, opener, inner, earlier,
        bundled, labelled, something, fun next member => continues next (by simp [member])⟩⟩
  · rintro ⟨bundled, own | ⟨blank, before, opener, continuation, split, opens, labelled,
      something, continues⟩⟩
    · obtain ⟨labelled, something⟩ := ownLabel?_eq_some_iff.mp own
      exact ⟨directives, directive, [], rfl, bundled, labelled, something, by simp⟩
    · refine ⟨before, opener, continuation ++ [directive], by simp [split], opens, labelled,
        something, ?_⟩
      rw [List.forall_mem_append, List.forall_mem_singleton]
      exact ⟨continues, bundled, ownLabel?_eq_none_iff.mp blank⟩

end Directive

variable {range : PlanRange} {resolver : Resolver} {directives : List Directive}
  {directive : Directive}

/-- What the directives of an accepted plan satisfy together. -/
structure Acceptable (range : PlanRange) (resolver : Resolver) (directives : List Directive) :
    Prop where
  selected : ∀ directive ∈ directives, ∃ full, resolver directive.hash = .ok full ∧
    Text.lower full ∈ range.members
  increasing : directives.Pairwise (Directive.Before range resolver)
  unlabelled : ∀ directive ∈ directives,
    directive.action = .pick ∨ directive.action = .squash → directive.label = none
  opened : ∀ (before : List Directive) (directive : Directive) (after : List Directive),
    directives = before ++ directive :: after → directive.action = .bundle →
      (∀ previous ∈ before.getLast?, previous.action ≠ .bundle) →
        ∃ label, directive.label = some label ∧ label ≠ []

/-- What one more directive has to satisfy after the others. -/
structure Extends (range : PlanRange) (resolver : Resolver) (directives : List Directive)
    (directive : Directive) : Prop where
  selected : ∃ full, resolver directive.hash = .ok full ∧ Text.lower full ∈ range.members
  increasing : ∀ earlier ∈ directives, earlier.Before range resolver directive
  unlabelled : directive.action = .pick ∨ directive.action = .squash → directive.label = none
  opened : directive.action = .bundle →
    (∀ previous ∈ directives.getLast?, previous.action ≠ .bundle) →
      ∃ label, directive.label = some label ∧ label ≠ []

namespace Acceptable

theorem nil : Acceptable range resolver [] where
  selected := by simp
  increasing := .nil
  unlabelled := by simp
  opened := by simp

theorem concat (acceptable : Acceptable range resolver directives)
    (extended : Extends range resolver directives directive) :
    Acceptable range resolver (directives ++ [directive]) where
  selected := by
    rw [List.forall_mem_append, List.forall_mem_singleton]
    exact ⟨acceptable.selected, extended.selected⟩
  increasing := by
    refine List.pairwise_append.mpr ⟨acceptable.increasing, List.pairwise_singleton _ _, ?_⟩
    intro earlier member later last
    rw [List.mem_singleton.mp last]
    exact extended.increasing earlier member
  unlabelled := by
    rw [List.forall_mem_append, List.forall_mem_singleton]
    exact ⟨acceptable.unlabelled, extended.unlabelled⟩
  opened := by
    intro before candidate after split
    rcases concat_eq_append_cons_iff.mp split with ⟨rfl, rfl, rfl⟩ | ⟨inner, rfl, earlier⟩
    · exact extended.opened
    · exact acceptable.opened before candidate inner earlier

theorem init {more : List Directive} (acceptable : Acceptable range resolver (directives ++ more)) :
    Acceptable range resolver directives where
  selected := fun candidate member => acceptable.selected candidate (List.mem_append_left _ member)
  increasing := (List.pairwise_append.mp acceptable.increasing).1
  unlabelled := fun candidate member =>
    acceptable.unlabelled candidate (List.mem_append_left _ member)
  opened := by
    intro before candidate after split
    exact acceptable.opened before candidate (after ++ more) (by simp [split])

theorem last (acceptable : Acceptable range resolver (directives ++ [directive])) :
    Extends range resolver directives directive where
  selected := acceptable.selected directive (by simp)
  increasing := fun earlier member =>
    (List.pairwise_append.mp acceptable.increasing).2.2 earlier member directive (by simp)
  unlabelled := acceptable.unlabelled directive (by simp)
  opened := acceptable.opened directives directive [] rfl

end Acceptable

/-- The directives on lines that are numbered from the given one. -/
def directivesFrom (line : Nat) (raws : List Text) : List (Nat × Directive) :=
  (raws.zipIdx line).filterMap fun (raw, number) =>
    match Directive.ofLine raw with
    | .ok (some directive) => some (number, directive)
    | _ => none

/-- The directives of a plan, each with the number of its line. -/
def planDirectives (text : Text) : List (Nat × Directive) :=
  directivesFrom 1 (Text.lines text)

/-- The record of a directive, given all directives up to it. -/
structure Record.Describes (resolver : Resolver) (upTo : List Directive) (line : Nat)
    (directive : Directive) (record : Record) : Prop where
  line : record.line = line
  action : record.action = directive.action
  message : record.message = directive.message
  commit : directive.commit? resolver = some record.commit
  reason : ∀ reason, record.reason = some reason ↔
    directive.action = .drop ∧ directive.label = some reason ∧ reason ≠ []
  bundled : record.sectionLabel ≠ none ↔ directive.action = .bundle
  sectionLabel : ∀ label, record.sectionLabel = some label ↔ Directive.LabelInEffect upTo label

/-- Each directive has its record, in the same place. -/
structure RecordsOf (resolver : Resolver) (numbered : List (Nat × Directive))
    (records : List Record) : Prop where
  length : records.length = numbered.length
  describes : ∀ (index line : Nat) (directive : Directive) (record : Record),
    numbered[index]? = some (line, directive) → records[index]? = some record →
      record.Describes resolver ((numbered.take (index + 1)).map Prod.snd) line directive

namespace RecordsOf

variable {numbered : List (Nat × Directive)} {records : List Record} {line : Nat}
  {record : Record}

theorem nil : RecordsOf resolver [] [] where
  length := rfl
  describes := by simp

theorem concat (matched : RecordsOf resolver numbered records)
    (described : record.Describes resolver (numbered.map Prod.snd ++ [directive]) line directive) :
    RecordsOf resolver (numbered ++ [(line, directive)]) (records ++ [record]) where
  length := by simp [matched.length]
  describes := by
    intro index otherLine other candidate isNumbered isRecord
    by_cases inside : index < numbered.length
    · rw [List.getElem?_append_left inside] at isNumbered
      rw [List.getElem?_append_left (by rwa [matched.length])] at isRecord
      rw [List.take_append_of_le_length (by omega)]
      exact matched.describes index otherLine other candidate isNumbered isRecord
    · have bound := (List.getElem?_eq_some_iff.mp isNumbered).1
      have atEnd : index = numbered.length := by
        rw [List.length_append, List.length_singleton] at bound
        omega
      subst index
      rw [List.getElem?_concat_length, Option.some.injEq, Prod.mk.injEq] at isNumbered
      rw [← matched.length, List.getElem?_concat_length, Option.some.injEq] at isRecord
      obtain ⟨rfl, rfl⟩ := isNumbered
      subst isRecord
      rw [List.take_of_length_le (by simp)]
      simpa using described

theorem getLast? (matched : RecordsOf resolver numbered records)
    (isLast : records.getLast? = some record) :
    ∃ line directive, numbered.getLast? = some (line, directive) ∧
      record.Describes resolver (numbered.map Prod.snd) line directive := by
  rw [List.getLast?_eq_getElem?, matched.length] at isLast
  have bound : numbered.length - 1 < numbered.length := by
    have := (List.getElem?_eq_some_iff.mp isLast).1
    rwa [matched.length] at this
  obtain ⟨⟨line, directive⟩, isNumbered⟩ :
      ∃ entry, numbered[numbered.length - 1]? = some entry :=
    ⟨_, List.getElem?_eq_getElem bound⟩
  have described := matched.describes _ line directive record isNumbered isLast
  rw [List.take_of_length_le (by omega)] at described
  exact ⟨line, directive, by rw [List.getLast?_eq_getElem?, isNumbered], described⟩

theorem eq_nil_of_getLast? (matched : RecordsOf resolver numbered records)
    (noLast : records.getLast? = none) : numbered = [] := by
  have length := matched.length
  rw [List.getLast?_eq_none_iff.mp noLast] at length
  exact List.eq_nil_of_length_eq_zero length.symm

theorem exists_record (matched : RecordsOf resolver numbered records)
    (member : directive ∈ numbered.map Prod.snd) :
    ∃ record ∈ records, directive.commit? resolver = some record.commit := by
  obtain ⟨⟨line, found⟩, inside, rfl⟩ := List.mem_map.mp member
  obtain ⟨index, isNumbered⟩ := List.mem_iff_getElem?.mp inside
  have bound := (List.getElem?_eq_some_iff.mp isNumbered).1
  rw [← matched.length] at bound
  have described := matched.describes index line found _ isNumbered (List.getElem?_eq_getElem bound)
  exact ⟨_, List.getElem_mem bound, described.commit⟩

theorem exists_directive (matched : RecordsOf resolver numbered records)
    (member : record ∈ records) :
    ∃ directive ∈ numbered.map Prod.snd, directive.commit? resolver = some record.commit := by
  obtain ⟨index, isRecord⟩ := List.mem_iff_getElem?.mp member
  have bound := (List.getElem?_eq_some_iff.mp isRecord).1
  rw [matched.length] at bound
  have described := matched.describes index _ _ record (List.getElem?_eq_getElem bound) isRecord
  exact ⟨_, List.mem_map_of_mem (List.getElem_mem bound), described.commit⟩

end RecordsOf

end CuratedHistory
