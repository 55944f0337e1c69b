import CuratedHistory.Proofs.Report.Tags

namespace CuratedHistory

/-! Escaping, which no text gets around. What is escaped can be told from the result, and the
results are just the texts without markup in which every ampersand begins an entity. -/

variable {html text front back : Text} {c : Char}

/-- The characters that are escaped, each with its entity. -/
def charEntities : List (Char × String) :=
  [('&', "&amp;"), ('<', "&lt;"), ('>', "&gt;"), ('"', "&quot;"), ('\'', "&#39;")]

def escapedChars : List Char :=
  ['&', '<', '>', '"', '\'']

def IsCharEntity (piece : Text) : Prop :=
  ∃ pair ∈ charEntities, piece = pair.2.toList

/-- Text that can stand in an element or in the value of an attribute. -/
structure Escaped (html : Text) : Prop where
  noMarkup : ∀ c ∈ ['<', '>', '"', '\''], c ∉ html
  entities : EachBegins '&' IsCharEntity html

/-- The text that was escaped. -/
def unescapeHtml : Text → Text
  | '&' :: 'a' :: 'm' :: 'p' :: ';' :: rest => '&' :: unescapeHtml rest
  | '&' :: 'l' :: 't' :: ';' :: rest => '<' :: unescapeHtml rest
  | '&' :: 'g' :: 't' :: ';' :: rest => '>' :: unescapeHtml rest
  | '&' :: 'q' :: 'u' :: 'o' :: 't' :: ';' :: rest => '"' :: unescapeHtml rest
  | '&' :: '#' :: '3' :: '9' :: ';' :: rest => '\'' :: unescapeHtml rest
  | c :: rest => c :: unescapeHtml rest
  | [] => []

/-! One character -/

theorem escapeHtmlChar_cases (c : Char) :
    (∃ entity, (c, entity) ∈ charEntities ∧ escapeHtmlChar c = entity.toList) ∨
      (c ∉ escapedChars ∧ escapeHtmlChar c = [c]) := by
  unfold escapeHtmlChar
  split_ifs with isAmpersand isLess isGreater isQuote isApostrophe
  · exact .inl ⟨_, by simp [charEntities, isAmpersand], rfl⟩
  · exact .inl ⟨_, by simp [charEntities, isLess], rfl⟩
  · exact .inl ⟨_, by simp [charEntities, isGreater], rfl⟩
  · exact .inl ⟨_, by simp [charEntities, isQuote], rfl⟩
  · exact .inl ⟨_, by simp [charEntities, isApostrophe], rfl⟩
  · exact .inr ⟨by simp [escapedChars, isAmpersand, isLess, isGreater, isQuote, isApostrophe], rfl⟩

theorem escapeHtmlChar_of_plain (plain : c ∉ escapedChars) : escapeHtmlChar c = [c] := by
  rcases escapeHtmlChar_cases c with ⟨entity, member, _⟩ | ⟨_, same⟩
  · have escaped : ∀ pair ∈ charEntities, pair.1 ∈ escapedChars := by decide
    exact absurd (escaped _ member) plain
  · exact same

theorem escapeHtmlChar_entity {entity : String} (member : (c, entity) ∈ charEntities) :
    escapeHtmlChar c = entity.toList := by
  simp only [charEntities, List.mem_cons, Prod.mk.injEq, List.mem_nil_iff, or_false] at member
  rcases member with ⟨rfl, rfl⟩ | ⟨rfl, rfl⟩ | ⟨rfl, rfl⟩ | ⟨rfl, rfl⟩ | ⟨rfl, rfl⟩ <;> rfl

theorem escapeHtmlChar_ne_nil (c : Char) : escapeHtmlChar c ≠ [] := by
  rcases escapeHtmlChar_cases c with ⟨entity, member, same⟩ | ⟨_, same⟩
  · have something : ∀ pair ∈ charEntities, pair.2.toList ≠ [] := by decide
    exact same ▸ something _ member
  · exact same ▸ List.cons_ne_nil c []

theorem unescapeHtml_entity {entity : String} (member : (c, entity) ∈ charEntities) (rest : Text) :
    unescapeHtml (entity.toList ++ rest) = c :: unescapeHtml rest := by
  simp only [charEntities, List.mem_cons, Prod.mk.injEq, List.mem_nil_iff, or_false] at member
  rcases member with ⟨rfl, rfl⟩ | ⟨rfl, rfl⟩ | ⟨rfl, rfl⟩ | ⟨rfl, rfl⟩ | ⟨rfl, rfl⟩ <;> rfl

theorem unescapeHtml_escapeHtmlChar (c : Char) (rest : Text) :
    unescapeHtml (escapeHtmlChar c ++ rest) = c :: unescapeHtml rest := by
  rcases escapeHtmlChar_cases c with ⟨entity, member, same⟩ | ⟨plain, same⟩
  · rw [same, unescapeHtml_entity member]
  · have other : c ≠ '&' := List.ne_of_not_mem_cons plain
    rw [same, List.singleton_append, unescapeHtml]
    all_goals exact fun _ isAmpersand _ => other isAmpersand

theorem escaped_escapeHtmlChar (c : Char) : Escaped (escapeHtmlChar c) := by
  rcases escapeHtmlChar_cases c with ⟨entity, member, same⟩ | ⟨plain, same⟩
  · have shape : ∀ pair ∈ charEntities, ['<', '>', '"', '\''].all (· ∉ pair.2.toList) = true ∧
        pair.2.toList.head? = some '&' ∧ '&' ∉ pair.2.toList.tail := by
      decide
    obtain ⟨noMarkup, first, noOther⟩ := shape _ member
    rw [List.all_eq_true] at noMarkup
    obtain ⟨inner, spelled⟩ := List.head?_eq_some_iff.mp first
    have isEntity : IsCharEntity entity.toList := ⟨_, member, rfl⟩
    rw [same]
    refine ⟨fun c isMarkup => of_decide_eq_true (noMarkup c isMarkup), ?_⟩
    rw [spelled] at noOther isEntity ⊢
    exact .piece isEntity noOther
  · rw [same]
    refine ⟨fun d isMarkup member => ?_, .of_notMem fun member => ?_⟩
    · rw [List.mem_singleton] at member
      exact plain (List.mem_cons_of_mem _ (member ▸ isMarkup))
    · exact plain (List.mem_singleton.mp member ▸ List.mem_cons_self)

/-! Texts -/

theorem escapeHtml_cons (c : Char) (text : Text) : escapeHtml (c :: text) = escapeHtmlChar c ++ escapeHtml text :=
  List.flatMap_cons

theorem escapeHtml_append (text more : Text) :
    escapeHtml (text ++ more) = escapeHtml text ++ escapeHtml more :=
  List.flatMap_append

theorem escapeHtml_of_plain (plain : ∀ c ∈ text, c ∉ escapedChars) :
    escapeHtml text = text := by
  induction text with
  | nil => rfl
  | cons c rest ih =>
      rw [List.forall_mem_cons] at plain
      rw [escapeHtml_cons, escapeHtmlChar_of_plain plain.1, ih plain.2, List.singleton_append]

theorem unescapeHtml_escapeHtml_append (text rest : Text) :
    unescapeHtml (escapeHtml text ++ rest) = text ++ unescapeHtml rest := by
  induction text with
  | nil => rfl
  | cons c text ih => rw [escapeHtml_cons, List.append_assoc, unescapeHtml_escapeHtmlChar, ih, List.cons_append]

theorem unescapeHtml_escapeHtml (text : Text) : unescapeHtml (escapeHtml text) = text := by
  have read := unescapeHtml_escapeHtml_append text []
  rwa [List.append_nil, unescapeHtml, List.append_nil] at read

theorem escapeHtml_injective : Function.Injective escapeHtml :=
  Function.LeftInverse.injective unescapeHtml_escapeHtml

namespace Escaped

theorem append (one : Escaped front) (another : Escaped back) : Escaped (front ++ back) where
  noMarkup c isMarkup member :=
    (List.mem_append.mp member).elim (one.noMarkup c isMarkup) (another.noMarkup c isMarkup)
  entities := one.entities.append another.entities

theorem of_text (text : Text) : Escaped (escapeHtml text) := by
  induction text with
  | nil => exact ⟨fun _ _ => List.not_mem_nil, .of_notMem List.not_mem_nil⟩
  | cons c rest ih => exact (escaped_escapeHtmlChar c).append ih

theorem behind (escaped : Escaped (front ++ back)) : Escaped back where
  noMarkup c isMarkup member := escaped.noMarkup c isMarkup (List.mem_append_right front member)
  entities before after split :=
    escaped.entities (front ++ before) after (by rw [split, List.append_assoc])

/-- An ampersand begins an entity, and other characters stand for themselves. -/
theorem exists_char {d : Char} {following : Text} (escaped : Escaped (d :: following)) :
    ∃ c rest, d :: following = escapeHtmlChar c ++ rest ∧ Escaped rest := by
  by_cases isAmpersand : d = '&'
  · subst isAmpersand
    obtain ⟨_, ⟨⟨c, entity⟩, member, rfl⟩, rest, whole⟩ := escaped.entities [] following rfl
    rw [← whole] at escaped ⊢
    exact ⟨c, rest, by rw [escapeHtmlChar_entity member], escaped.behind⟩
  · have plain : d ∉ escapedChars := by
      rw [escapedChars, List.mem_cons, not_or]
      exact ⟨isAmpersand, fun isMarkup => escaped.noMarkup d isMarkup List.mem_cons_self⟩
    have whole : d :: following = escapeHtmlChar d ++ following := by
      rw [escapeHtmlChar_of_plain plain, List.singleton_append]
    exact ⟨d, following, whole, @behind [d] following escaped⟩

theorem exists_text : ∀ {html : Text}, Escaped html → ∃ text, escapeHtml text = html
  | [], _ => ⟨[], rfl⟩
  | d :: following, escaped => by
      obtain ⟨c, rest, whole, further⟩ := escaped.exists_char
      have shorter : rest.length ≤ following.length := by
        have lengths := congrArg List.length whole
        have something := List.length_pos_iff.mpr (escapeHtmlChar_ne_nil c)
        rw [List.length_append, List.length_cons] at lengths
        omega
      obtain ⟨text, same⟩ := further.exists_text
      exact ⟨c :: text, by rw [escapeHtml_cons, same, whole]⟩
termination_by html => html.length

end Escaped

/-! Breaks of lines -/

theorem mem_escapeHtmlChar {d : Char} (isBreak : c ∈ ['\n', '\r']) (inside : c ∈ escapeHtmlChar d) :
    d = c := by
  rcases escapeHtmlChar_cases d with ⟨entity, member, same⟩ | ⟨_, same⟩
  · have noBreak : ∀ pair ∈ charEntities, ['\n', '\r'].all (· ∉ pair.2.toList) = true := by decide
    have absent := List.all_eq_true.mp (noBreak _ member) c isBreak
    rw [same] at inside
    exact absurd inside (of_decide_eq_true absent)
  · rw [same, List.mem_singleton] at inside
    exact inside.symm

theorem escapeHtmlChar_break (isBreak : c ∈ ['\n', '\r']) : escapeHtmlChar c = [c] := by
  simp only [List.mem_cons, List.mem_nil_iff, or_false] at isBreak
  rcases isBreak with rfl | rfl <;> rfl

/-- A line of the result ends just where a line of the text ends. -/
theorem escapeHtml_eq_append_iff (isBreak : c ∈ ['\n', '\r']) : escapeHtml text = front ++ c :: back ↔
    ∃ before after, text = before ++ c :: after ∧ escapeHtml before = front ∧ escapeHtml after = back := by
  constructor
  · intro split
    induction text generalizing front with
    | nil => simp [escapeHtml] at split
    | cons d rest ih =>
        rw [escapeHtml_cons] at split
        -- The break stands behind the first character, or in its escaped form and then is that character.
        rcases List.append_eq_append_iff.mp split with ⟨more, rfl, later⟩ | ⟨more, first, later⟩
        · obtain ⟨before, after, rfl, rfl, rfl⟩ := ih later
          exact ⟨d :: before, after, rfl, escapeHtml_cons d before, rfl⟩
        · cases more with
          | nil =>
              obtain ⟨before, after, rfl, nothing, rfl⟩ := @ih [] later.symm
              rw [List.append_nil] at first
              exact ⟨d :: before, after, rfl, by rw [escapeHtml_cons, nothing, first, List.append_nil], rfl⟩
          | cons e more =>
              obtain ⟨rfl, rfl⟩ := List.cons.inj later
              have inside : c ∈ escapeHtmlChar d := first ▸ List.mem_append_right front List.mem_cons_self
              rw [mem_escapeHtmlChar isBreak inside, escapeHtmlChar_break isBreak] at first
              rcases List.append_eq_singleton_iff.mp first.symm with ⟨rfl, alone⟩ | ⟨_, none⟩
              · obtain ⟨_, rfl⟩ := List.cons.inj alone
                exact ⟨[], rest, by rw [mem_escapeHtmlChar isBreak inside, List.nil_append], rfl, rfl⟩
              · contradiction
  · rintro ⟨before, after, rfl, rfl, rfl⟩
    rw [escapeHtml_append, escapeHtml_cons, escapeHtmlChar_break isBreak, List.singleton_append]

/-- Nothing of a text gets out of its escaped form as markup, and nothing of it is lost there, also if
it looks as if it had been escaped before. -/
theorem escapeHtml_exact :
    (∀ text, Escaped (escapeHtml text)) ∧
      (∀ c ∈ ['\n', '\r'], ∀ text front back, escapeHtml text = front ++ c :: back ↔
        ∃ before after, text = before ++ c :: after ∧ escapeHtml before = front ∧ escapeHtml after = back) ∧
      (∀ text more, escapeHtml (text ++ more) = escapeHtml text ++ escapeHtml more) ∧
      (∀ text, unescapeHtml (escapeHtml text) = text) ∧ Function.Injective escapeHtml ∧
      ∀ html, Escaped html → escapeHtml (unescapeHtml html) = html := by
  refine ⟨Escaped.of_text, fun c isBreak text front back => escapeHtml_eq_append_iff isBreak,
    escapeHtml_append, unescapeHtml_escapeHtml, escapeHtml_injective, ?_⟩
  intro html escaped
  obtain ⟨text, rfl⟩ := escaped.exists_text
  rw [unescapeHtml_escapeHtml]

/-- An entity that is escaped once more. -/
theorem escapeHtml_exact_entity :
    Escaped "&amp;lt;".toList ∧ unescapeHtml "&amp;lt;".toList = "&lt;".toList ∧
      escapeHtml "&lt;".toList = "&amp;lt;".toList := by
  have twice : escapeHtml "&lt;".toList = "&amp;lt;".toList := by decide
  obtain ⟨escaped, _, _, same, _⟩ := escapeHtml_exact
  have isEscaped := escaped "&lt;".toList
  have isSame := same "&lt;".toList
  rw [twice] at isEscaped isSame
  exact ⟨isEscaped, isSame, twice⟩

end CuratedHistory
