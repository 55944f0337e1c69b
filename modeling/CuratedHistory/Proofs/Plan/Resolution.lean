import CuratedHistory.Proofs.Plan.Refusal
import CuratedHistory.Proofs.Plan.Run

namespace CuratedHistory

/-! One plan under two resolvers, of which one knows more commits than the other. The runs
stay together until the one that knows more refuses a line. -/

section Lookup

variable {candidates : List Text} {start full : Text}

theorem mem_beginning {other : Text} :
    other ∈ candidates.filter (start.isPrefixOf ·) ↔ other ∈ candidates ∧ start <+: other := by
  rw [List.mem_filter, List.isPrefixOf_iff_prefix]

/-- A text is found when it alone of all candidates starts as asked for. -/
theorem resolveAmong_eq_ok_iff (distinct : candidates.Nodup) :
    resolveAmong candidates start = .ok full ↔
      full ∈ candidates ∧ start <+: full ∧ ∀ other ∈ candidates, start <+: other → other = full := by
  have only : candidates.filter (start.isPrefixOf ·) = [full] ↔
      full ∈ candidates ∧ start <+: full ∧ ∀ other ∈ candidates, start <+: other → other = full := by
    rw [← List.perm_singleton, List.perm_ext_iff_of_nodup (distinct.filter _) (List.nodup_singleton full)]
    simp only [mem_beginning, List.mem_singleton]
    constructor
    · intro same
      obtain ⟨member, begins⟩ := (same full).mpr rfl
      exact ⟨member, begins, fun other inside starts => (same other).mp ⟨inside, starts⟩⟩
    · rintro ⟨member, begins, alone⟩ other
      constructor
      · exact fun inside => alone other inside.1 inside.2
      · rintro rfl
        exact ⟨member, begins⟩
  rw [← only, resolveAmong]
  cases candidates.filter (start.isPrefixOf ·) with
  | nil => simp
  | cons first rest => cases rest <;> simp

/-- Only what no candidate starts with is not found. -/
theorem resolveAmong_eq_notFound_iff :
    resolveAmong candidates start = .error .notFound ↔ ∀ other ∈ candidates, ¬ start <+: other := by
  have none : candidates.filter (start.isPrefixOf ·) = [] ↔ ∀ other ∈ candidates, ¬ start <+: other := by
    simp only [List.filter_eq_nil_iff, List.isPrefixOf_iff_prefix]
  rw [← none, resolveAmong]
  cases candidates.filter (start.isPrefixOf ·) with
  | nil => simp
  | cons first rest => cases rest <;> simp

theorem resolveAmong_eq_ambiguous_iff (distinct : candidates.Nodup) :
    resolveAmong candidates start = .error .ambiguous ↔
      ∃ one ∈ candidates, ∃ other ∈ candidates, one ≠ other ∧ start <+: one ∧ start <+: other := by
  have several : (∃ one ∈ candidates.filter (start.isPrefixOf ·),
      ∃ other ∈ candidates.filter (start.isPrefixOf ·), one ≠ other) ↔
        ∃ one ∈ candidates, ∃ other ∈ candidates, one ≠ other ∧ start <+: one ∧ start <+: other := by
    simp only [mem_beginning]
    constructor
    · rintro ⟨one, ⟨member, begins⟩, other, ⟨memberToo, beginsToo⟩, differs⟩
      exact ⟨one, member, other, memberToo, differs, begins, beginsToo⟩
    · rintro ⟨one, member, other, memberToo, differs, begins, beginsToo⟩
      exact ⟨one, ⟨member, begins⟩, other, ⟨memberToo, beginsToo⟩, differs⟩
  have apart := distinct.filter (start.isPrefixOf ·)
  rw [← several, resolveAmong]
  generalize candidates.filter (start.isPrefixOf ·) = matching at apart ⊢
  match matching with
  | [] => simp
  | [one] => simp
  | one :: other :: rest =>
      have differs : one ≠ other := by
        rintro rfl
        simp at apart
      exact iff_of_true rfl ⟨one, by simp, other, by simp, differs⟩

/-- With more of a text to go by, what was found is found again or is not there at all. -/
theorem resolveAmong_longer (distinct : candidates.Nodup) {longer : Text} (further : start <+: longer)
    (found : resolveAmong candidates start = .ok full) :
    resolveAmong candidates longer = .ok full ∨ resolveAmong candidates longer = .error .notFound := by
  obtain ⟨member, _, alone⟩ := (resolveAmong_eq_ok_iff distinct).mp found
  by_cases begins : longer <+: full
  · refine .inl ((resolveAmong_eq_ok_iff distinct).mpr ⟨member, begins, ?_⟩)
    exact fun other memberToo starts => alone other memberToo (further.trans starts)
  · refine .inr (resolveAmong_eq_notFound_iff.mpr ?_)
    intro other memberToo starts
    rw [alone other memberToo (further.trans starts)] at starts
    exact begins starts

theorem resolveAmong_longer_notFound {longer : Text} (further : start <+: longer)
    (unknown : resolveAmong candidates start = .error .notFound) :
    resolveAmong candidates longer = .error .notFound := by
  rw [resolveAmong_eq_notFound_iff] at unknown ⊢
  exact fun other member starts => unknown other member (further.trans starts)

end Lookup

/-- The first resolver knows more than the second one, beside the same range: what it finds
in the range the second one finds too, and what only the second one finds is ambiguous. -/
structure KnowsMore (range : PlanRange) (wide narrow : Resolver) : Prop where
  found : ∀ hash full, wide hash = .ok full → Text.lower full ∈ range.members → narrow hash = .ok full
  doubted : ∀ hash full, narrow hash = .ok full → wide hash = .ok full ∨ wide hash = .error .ambiguous

/-- What a plan comes to under the resolver that knows more, and under the other one. -/
inductive SideBySide : Except PlanError (List Record) → Except PlanError (List Record) → Prop where
  | accepted {records : List Record} : SideBySide (.ok records) (.ok records)
  | doubted {error : PlanError} {hash : Text} {records : List Record}
      (ambiguous : error.cause = .ambiguousCommit hash) : SideBySide (.error error) (.ok records)
  | refused {error other : PlanError} (noLater : error.line ≤ other.line) :
      SideBySide (.error error) (.error other)

namespace SideBySide

variable {error other : PlanError} {records : List Record} {result : Except PlanError (List Record)}

theorem eq_ok (together : SideBySide (.ok records) result) : result = .ok records := by
  cases together
  rfl

theorem ambiguous (together : SideBySide (.error error) (.ok records)) :
    ∃ hash, error.cause = .ambiguousCommit hash := by
  cases together with
  | doubted ambiguous => exact ⟨_, ambiguous⟩

theorem line_le (together : SideBySide (.error error) (.error other)) : error.line ≤ other.line := by
  cases together with
  | refused noLater => exact noLater

end SideBySide

namespace PlanParser

variable {range : PlanRange} {wide narrow : Resolver} {parser : PlanParser} {line position : Nat}
  {directive : Directive} {record : Record} {raw : Text} {raws : List Text} {error : PlanError}

def withResolver (parser : PlanParser) (resolver : Resolver) : PlanParser :=
  { parser with resolver := resolver }

/-- The resolver plays a part in the commit of a record only. -/
theorem Accepted.withResolver {resolver : Resolver}
    (accepted : parser.Accepted line directive position record)
    (named : directive.commit? resolver = some record.commit) :
    (parser.withResolver resolver).Accepted line directive position record :=
  { accepted with commit := named }

theorem Accepted.under_narrow (more : KnowsMore range wide narrow) (inRange : parser.range = range)
    (accepted : (parser.withResolver wide).Accepted line directive position record) :
    (parser.withResolver narrow).Accepted line directive position record := by
  obtain ⟨full, found, same⟩ := Directive.commit?_eq_some_iff.mp accepted.commit
  have member : Text.lower full ∈ range.members := by
    rw [same, ← inRange]
    exact PlanRange.mem_of_position? accepted.place
  have named : directive.commit? narrow = some record.commit :=
    Directive.commit?_eq_some_iff.mpr ⟨full, more.found _ _ found member, same⟩
  exact accepted.withResolver named

/-- What only the parser that knows less accepts is ambiguous to the other one. -/
theorem accept_under_wide (more : KnowsMore range wide narrow)
    (accepted : (parser.withResolver narrow).Accepted line directive position record) :
    (parser.withResolver wide).Accepted line directive position record ∨
      (parser.withResolver wide).accept line directive = .error (.ambiguousCommit directive.hash) := by
  obtain ⟨full, found, same⟩ := Directive.commit?_eq_some_iff.mp accepted.commit
  rcases more.doubted _ _ found with known | ambiguous
  · exact .inl (accepted.withResolver (Directive.commit?_eq_some_iff.mpr ⟨full, known, same⟩))
  · have unresolved : (parser.withResolver wide).resolveHash directive.hash =
        .error (.ambiguousCommit directive.hash) := by
      simp only [resolveHash, PlanParser.withResolver, ambiguous]
    exact .inr (by rw [accept, unresolved]; rfl)

theorem line_le_of_processLines (failed : parser.processLines line raws = .error error) :
    line ≤ error.line := by
  obtain ⟨before, raw, after, records, _, _, stops⟩ := exists_refused_of_processLines failed
  rw [(processLine_eq_error stops).1]
  exact Nat.le_add_right line before.length

/-- Two runs over the same lines go on together as long as both accept a line. -/
theorem sideBySide_of_knowsMore (more : KnowsMore range wide narrow) (inRange : parser.range = range)
    (line : Nat) (raws : List Text) :
    SideBySide ((parser.withResolver wide).processLines line raws)
      ((parser.withResolver narrow).processLines line raws) := by
  induction raws generalizing parser line with
  | nil => exact .accepted
  | cons raw rest ih =>
      cases read : Directive.ofLine raw with
      | error cause =>
          simp only [processLines, processLine, read]
          exact .refused (Nat.le_refl line)
      | ok found =>
          cases found with
          | none =>
              simp only [processLines, processLine, read]
              exact ih inRange (line + 1)
          | some directive =>
              cases judged : (parser.withResolver wide).accept line directive with
              | ok placed =>
                  have here := Accepted.under_narrow more inRange (accept_eq_ok_iff.mp judged)
                  simp only [processLines, processLine, read, judged, accept_eq_ok_iff.mpr here]
                  have sameRange : (parser.push placed.1 placed.2).range = range := inRange
                  exact ih sameRange (line + 1)
              | error cause =>
                  cases judgedToo : (parser.withResolver narrow).accept line directive with
                  | error other =>
                      simp only [processLines, processLine, read, judged, judgedToo]
                      exact .refused (Nat.le_refl line)
                  | ok placed =>
                      -- Only the parser that knows less goes on, and all of its lines come later.
                      have doubted : cause = .ambiguousCommit directive.hash := by
                        rcases accept_under_wide more (accept_eq_ok_iff.mp judgedToo) with known | ambiguous
                        · rw [accept_eq_ok_iff.mpr known] at judged
                          contradiction
                        · rw [judged] at ambiguous
                          exact Except.error.inj ambiguous
                      simp only [processLines, processLine, read, judged, judgedToo]
                      cases later : ((parser.withResolver narrow).push placed.1 placed.2).processLines
                          (line + 1) rest with
                      | ok records => exact .doubted doubted
                      | error other =>
                          have after := line_le_of_processLines later
                          exact .refused (Nat.le_of_succ_le after)

end PlanParser

namespace PlanRange

variable {hashes known : List Text}

/-- A range is one of the lists that know all of its hashes. -/
theorem knowsMore_resolver
    (covered : ∀ hash ∈ hashes, Text.lower hash ∈ known.map Text.lower) :
    KnowsMore (ofHashes hashes) (ofHashes known).resolver (ofHashes hashes).resolver := by
  have inside : ∀ hash ∈ (ofHashes hashes).members, hash ∈ (ofHashes known).members := by
    intro hash member
    obtain ⟨original, among, rfl⟩ := List.mem_map.mp (mem_distinct.mp member)
    exact mem_distinct.mpr (covered original among)
  have small : ∀ hash ∈ (ofHashes known).members, Text.lower hash = hash := by
    intro hash member
    obtain ⟨original, _, rfl⟩ := List.mem_map.mp (mem_distinct.mp member)
    exact Text.lower_lower original
  constructor
  case found =>
    intro start full resolved member
    obtain ⟨isKnown, begins, alone⟩ := (resolveAmong_eq_ok_iff (nodup_distinct _)).mp resolved
    rw [small full isKnown] at member
    exact (resolveAmong_eq_ok_iff (nodup_distinct _)).mpr
      ⟨member, begins, fun other among starts => alone other (inside other among) starts⟩
  case doubted =>
    intro start full resolved
    obtain ⟨member, begins, _⟩ := (resolveAmong_eq_ok_iff (nodup_distinct _)).mp resolved
    cases lookup : (ofHashes known).resolver start with
    | ok other =>
        obtain ⟨_, _, alone⟩ := (resolveAmong_eq_ok_iff (nodup_distinct _)).mp lookup
        exact .inl (by rw [alone full (inside full member) begins])
    | error cause =>
        cases cause with
        | notFound => exact absurd begins (resolveAmong_eq_notFound_iff.mp lookup full (inside full member))
        | ambiguous => exact .inr rfl

end PlanRange

/-- A plan that is accepted with abbreviations resolved among more hashes than those of the
range is accepted with the range alone, with the same records. If only the range accepts
it, an abbreviation is ambiguous among the others; if both refuse it, the range gets at
least as far. -/
theorem parsePlan_among_more {hashes known : List Text}
    (covered : ∀ hash ∈ hashes, Text.lower hash ∈ known.map Text.lower) (text : Text) :
    (∀ records, parsePlan (.ofHashes hashes) (PlanRange.ofHashes known).resolver text = .ok records →
      parsePlan (.ofHashes hashes) (PlanRange.ofHashes hashes).resolver text = .ok records) ∧
    (∀ records error,
      parsePlan (.ofHashes hashes) (PlanRange.ofHashes hashes).resolver text = .ok records →
      parsePlan (.ofHashes hashes) (PlanRange.ofHashes known).resolver text = .error error →
        ∃ hash, error.cause = .ambiguousCommit hash) ∧
    ∀ error other,
      parsePlan (.ofHashes hashes) (PlanRange.ofHashes known).resolver text = .error error →
      parsePlan (.ofHashes hashes) (PlanRange.ofHashes hashes).resolver text = .error other →
        error.line ≤ other.line := by
  have more := PlanRange.knowsMore_resolver covered
  have started : (PlanParser.start (.ofHashes hashes) (PlanRange.ofHashes known).resolver).range =
      .ofHashes hashes := rfl
  have together : SideBySide
      (parsePlan (.ofHashes hashes) (PlanRange.ofHashes known).resolver text)
      (parsePlan (.ofHashes hashes) (PlanRange.ofHashes hashes).resolver text) :=
    PlanParser.sideBySide_of_knowsMore more started 1 (Text.lines text)
  refine ⟨?_, ?_, ?_⟩
  · intro records accepted
    rw [accepted] at together
    exact together.eq_ok
  · intro records error accepted refused
    rw [accepted, refused] at together
    exact together.ambiguous
  · intro error other refused refusedToo
    rw [refused, refusedToo] at together
    exact together.line_le

/-- Two hashes of a range in capitals, and another commit whose hash differs from the second
of them in its last digit. -/
def cappedHashes : List Text :=
  ['B', 'A'].map (List.replicate 40)

def twinHashes : List Text :=
  [List.replicate 39 'a' ++ ['b'], List.replicate 40 'a', List.replicate 40 'b']

def twinError : PlanError where
  line := 2
  text := "drop aaaaaaa".toList
  cause := .ambiguousCommit "aaaaaaa".toList

theorem parsePlan_among_twins :
    (∀ hash ∈ cappedHashes, Text.lower hash ∈ twinHashes.map Text.lower) ∧
      parsePlan (.ofHashes cappedHashes) (PlanRange.ofHashes twinHashes).resolver "pick bbbbbbb".toList =
        .ok [plainRecord 1 .pick 'b'] ∧
      parsePlan (.ofHashes cappedHashes) (PlanRange.ofHashes cappedHashes).resolver "pick bbbbbbb".toList =
        .ok [plainRecord 1 .pick 'b'] ∧
      parsePlan (.ofHashes cappedHashes) (PlanRange.ofHashes cappedHashes).resolver
        "pick bbbbbbb\ndrop aaaaaaa".toList = .ok [plainRecord 1 .pick 'b', plainRecord 2 .drop 'a'] ∧
      parsePlan (.ofHashes cappedHashes) (PlanRange.ofHashes twinHashes).resolver
        "pick bbbbbbb\ndrop aaaaaaa".toList = .error twinError ∧
      ∃ hash, twinError.cause = .ambiguousCommit hash := by
  have covered : ∀ hash ∈ cappedHashes, Text.lower hash ∈ twinHashes.map Text.lower := by decide +kernel
  have known : parsePlan (.ofHashes cappedHashes) (PlanRange.ofHashes twinHashes).resolver
      "pick bbbbbbb".toList = .ok [plainRecord 1 .pick 'b'] := by
    decide +kernel
  have accepted : parsePlan (.ofHashes cappedHashes) (PlanRange.ofHashes cappedHashes).resolver
      "pick bbbbbbb\ndrop aaaaaaa".toList = .ok [plainRecord 1 .pick 'b', plainRecord 2 .drop 'a'] := by
    decide +kernel
  have refused : parsePlan (.ofHashes cappedHashes) (PlanRange.ofHashes twinHashes).resolver
      "pick bbbbbbb\ndrop aaaaaaa".toList = .error twinError := by
    decide +kernel
  exact ⟨covered, known, (parsePlan_among_more covered _).1 _ known, accepted, refused,
    (parsePlan_among_more covered _).2.1 _ _ accepted refused⟩

end CuratedHistory
