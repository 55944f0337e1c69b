import CuratedHistory.Proofs.Report.Headers

namespace CuratedHistory

/-! Well-formed HTML as a matter of its text alone. A reader that knows nothing of how the
text was made finds the tags and entities of the program in it and no other ones, and each
element is closed inside the one that it was opened in. -/

/-- The elements that have an end tag. -/
@[simp] def elementNames : List String :=
  ["a", "article", "body", "code", "div", "h1", "h2", "h3", "head", "header", "html", "li", "main",
    "nav", "ol", "p", "pre", "section", "span", "style", "title"]

/-- The start tags that are always the same, without their angles. -/
@[simp] def fixedTags : List String :=
  ["!DOCTYPE html", "html lang=\"en\"", "head", "meta charset=\"utf-8\"", "title", "style", "body",
    "header", "nav class=\"toc\"", "main", "h1", "h2", "h2 class=\"run-header\"", "h3", "ol",
    "ol class=\"squashed\"", "li", "article class=\"bundle-member\"", "div class=\"notices\"",
    "div class=\"commit-header\"", "div class=\"bundle-begin\"", "div class=\"bundle-end\"",
    "p class=\"range\"", "p class=\"meta\"", "p class=\"stat\"", "p class=\"plan-note\"",
    "p class=\"section-label\"", "p class=\"notice\"", "p class=\"notice failure\"",
    "p class=\"notice dropped\"", "p class=\"notice scope\"", "code", "code class=\"sha\"",
    "pre class=\"message\"", "pre class=\"diff\"", "span class=\"diff-meta\"",
    "span class=\"diff-hunk\"", "span class=\"diff-add\"", "span class=\"diff-del\"",
    "span class=\"diff-ctx\""]

/-- The classes of the section that a block becomes. -/
@[simp] def sectionClasses : List String :=
  ["block single", "block dropped", "block squash-run", "block bundle-run"]

/-- The inside of a tag of the program. Only the numbers of blocks and the hexadecimal hashes
of commits make a difference between two reports. -/
inductive OwnTag : Text → Prop where
  | fixed {tag : String} (listed : tag ∈ fixedTags) : OwnTag tag.toList
  | close {name : String} (listed : name ∈ elementNames) : OwnTag ('/' :: name.toList)
  | block {kind : String} (listed : kind ∈ sectionClasses) (number : Nat) :
      OwnTag ("section class=\"".toList ++ kind.toList ++ "\" id=\"block-".toList ++
        Decimal.digits number ++ ['"'])
  | link (number : Nat) : OwnTag ("a href=\"#block-".toList ++ Decimal.digits number ++ ['"'])
  | commit {hash : Text} (hex : hash.Hexadecimal) : OwnTag ("code title=\"".toList ++ hash ++ ['"'])
  | span {first last : Text} (hex : first.Hexadecimal) (hexLast : last.Hexadecimal) :
      OwnTag ("code title=\"".toList ++ first ++ "..".toList ++ last ++ ['"'])

/-- The tag with the given inside. -/
def tagOf (inside : Text) : Text :=
  '<' :: (inside ++ ['>'])

def IsTag (piece : Text) : Prop :=
  ∃ inside, OwnTag inside ∧ piece = tagOf inside

def ownEntities : List String :=
  ["&amp;", "&lt;", "&gt;", "&quot;", "&#39;", "&middot;"]

def IsEntity (piece : Text) : Prop :=
  ∃ entity ∈ ownEntities, piece = entity.toList

/-- Wherever the character stands in the text, one of the given pieces stands. -/
def EachBegins (c : Char) (pieces : Text → Prop) (text : Text) : Prop :=
  ∀ before after, text = before ++ c :: after → ∃ piece, pieces piece ∧ piece <+: c :: after

/-- What stands behind each left angle, as far as the next right one. -/
def tagsIn : Text → List Text
  | [] => []
  | c :: rest => if c = '<' then rest.takeWhile (· ≠ '>') :: tagsIn rest else tagsIn rest

/-- The element that a start tag belongs to. -/
def elementName (tag : Text) : Text :=
  tag.takeWhile (· ≠ ' ')

/-- The elements that are open after a tag, the innermost first. There are none if the tag
closes another element than the innermost one. -/
def openAfter (elements : List Text) : Text → Option (List Text)
  | '!' :: _ => some elements
  | '/' :: name =>
      match elements with
      | innermost :: outer => if innermost = name then some outer else none
      | [] => none
  | tag => if elementName tag = "meta".toList then some elements else some (elementName tag :: elements)

/-- HTML with no other tags and entities than those of the program, whose elements are
properly nested and all closed. -/
structure WellFormed (html : Text) : Prop where
  tags : EachBegins '<' IsTag html
  nested : (tagsIn html).foldlM openAfter [] = some []
  entities : EachBegins '&' IsEntity html

namespace EachBegins

variable {c : Char} {pieces : Text → Prop} {text following inner : Text}

theorem of_notMem (absent : c ∉ text) : EachBegins c pieces text := by
  rintro before after rfl
  exact absurd (List.mem_append_right before List.mem_cons_self) absent

theorem piece (isPiece : pieces (c :: inner)) (absent : c ∉ inner) :
    EachBegins c pieces (c :: inner) := by
  intro before after split
  cases before with
  | nil => exact ⟨c :: inner, isPiece, by rw [split, List.nil_append]⟩
  | cons d before =>
      rw [List.cons_append, List.cons.injEq] at split
      rw [split.2] at absent
      exact absurd (List.mem_append_right before List.mem_cons_self) absent

theorem append (one : EachBegins c pieces text) (another : EachBegins c pieces following) :
    EachBegins c pieces (text ++ following) := by
  intro before after split
  rcases List.append_eq_append_iff.mp split with ⟨rest, rfl, inSecond⟩ | ⟨rest, inFirst, tail⟩
  · exact another rest after inSecond
  · cases rest with
    | nil => exact another [] after tail.symm
    | cons d rest =>
        rw [List.cons_append, List.cons.injEq] at tail
        obtain ⟨rfl, rfl⟩ := tail
        obtain ⟨piece, isPiece, start⟩ := one before rest inFirst
        exact ⟨piece, isPiece, start.trans ⟨following, rfl⟩⟩

theorem tail {d : Char} (whole : EachBegins c pieces (d :: text)) : EachBegins c pieces text := by
  rintro before after rfl
  exact whole (d :: before) after rfl

end EachBegins

/-- The text takes no part in a tag or an entity. -/
structure Bare (text : Text) : Prop where
  angles : NoAngle text
  ampersand : '&' ∉ text

instance (text : Text) : Decidable (Bare text) :=
  decidable_of_iff (NoAngle text ∧ '&' ∉ text)
    ⟨fun both => ⟨both.1, both.2⟩, fun bare => ⟨bare.angles, bare.ampersand⟩⟩

namespace Bare

variable {text following : Text}

theorem append (one : Bare text) (another : Bare following) : Bare (text ++ following) := by
  refine ⟨one.angles.append another.angles, ?_⟩
  rw [List.mem_append, not_or]
  exact ⟨one.ampersand, another.ampersand⟩

/-- A literal is looked at as the characters that it is made of, which saves reading it. -/
theorem literal {characters : Text} (bare : Bare characters) :
    Bare (String.ofList characters).toList := by
  rwa [String.toList_ofList]

theorem digits (n : Nat) : Bare (Decimal.digits n) :=
  ⟨digits_noAngle n, fun member => absurd (Decimal.isDigit_of_mem member) (by decide)⟩

theorem hexadecimal {hash : Text} (hex : hash.Hexadecimal) : Bare hash :=
  ⟨Block.hexadecimal_noAngle hex, hex.notMem (by decide)⟩

end Bare

/-- No tag holds another one, or an entity. -/
theorem OwnTag.bare {inside : Text} (own : OwnTag inside) : Bare inside := by
  have quote : Bare ['"'] := by decide
  have title : Bare "code title=\"".toList := by decide
  cases own with
  | fixed listed =>
      have all : ∀ tag ∈ fixedTags, Bare tag.toList := by
        simp only [fixedTags, List.forall_mem_cons, List.mem_nil_iff, false_implies, implies_true,
          and_true]
        and_intros
        all_goals exact .literal (by decide)
      exact all _ listed
  | close listed =>
      have all : ∀ name ∈ elementNames, Bare ('/' :: name.toList) := by decide +kernel
      exact all _ listed
  | block listed number =>
      have all : ∀ kind ∈ sectionClasses, Bare kind.toList := by decide +kernel
      have start : Bare "section class=\"".toList := by decide
      have anchor : Bare "\" id=\"block-".toList := by decide
      exact (((start.append (all _ listed)).append anchor).append (.digits number)).append quote
  | link number =>
      have start : Bare "a href=\"#block-".toList := by decide
      exact (start.append (.digits number)).append quote
  | commit hex => exact (title.append (.hexadecimal hex)).append quote
  | span hex hexLast =>
      have dots : Bare "..".toList := by decide
      exact (((title.append (.hexadecimal hex)).append dots).append (.hexadecimal hexLast)).append quote

/-! How tags nest -/

theorem elementNames_plain : ∀ name ∈ elementNames, name.toList.head? ≠ some '!' ∧
    name.toList.head? ≠ some '/' ∧ name.toList ≠ [] ∧ ' ' ∉ name.toList ∧ name.toList ≠ "meta".toList := by
  decide +kernel

theorem elementName_start {name : Text} (noBlank : ' ' ∉ name) (attributes : List (Text × Text)) :
    elementName (name ++ Html.renderAttributes attributes) = name := by
  cases attributes with
  | nil =>
      rw [Html.renderAttributes, List.flatMap_nil, List.append_nil, elementName,
        List.takeWhile_eq_self_iff]
      exact Text.forall_ne_of_notMem noBlank
  | cons pair rest => exact Text.takeWhile_ne_append noBlank _

theorem openAfter_start {name : String} (listed : name ∈ elementNames) (attributes : List (Text × Text))
    (elements : List Text) :
    openAfter elements (name.toList ++ Html.renderAttributes attributes) =
      some (name.toList :: elements) := by
  obtain ⟨noBang, noSlash, something, noBlank, notMeta⟩ := elementNames_plain name listed
  have whole := elementName_start noBlank attributes
  obtain ⟨c, letters, spelled⟩ := List.exists_cons_of_ne_nil something
  rw [spelled] at noBang noSlash notMeta whole ⊢
  rw [List.head?_cons, ne_eq, Option.some.injEq] at noBang noSlash
  unfold openAfter
  split
  · rename_i same
    exact absurd (List.cons.inj same).1 noBang
  · rename_i same
    exact absurd (List.cons.inj same).1 noSlash
  · simp only [whole, if_neg notMeta]

theorem openAfter_close (name : Text) (elements : List Text) :
    openAfter (name :: elements) ('/' :: name) = some elements :=
  if_pos rfl

/-- What is open around a text makes no difference to the tags in it. -/
theorem openAfter_append {elements after : List Text} {tag : Text}
    (opened : openAfter elements tag = some after) (outer : List Text) :
    openAfter (elements ++ outer) tag = some (after ++ outer) := by
  unfold openAfter at opened ⊢
  split at opened
  · rw [Option.some.injEq] at opened
    rw [opened]
  · cases elements with
    | nil => contradiction
    | cons innermost rest =>
        simp only [List.cons_append] at opened ⊢
        split at opened
        · rename_i same
          rw [Option.some.injEq] at opened
          rw [if_pos same, opened]
        · contradiction
  · split at opened
    all_goals
      rename_i isMeta
      rw [Option.some.injEq] at opened
      simp only [isMeta, ↓reduceIte, ← opened, List.cons_append]

theorem foldlM_openAfter_append {tags : List Text} {elements after : List Text}
    (opened : tags.foldlM openAfter elements = some after) (outer : List Text) :
    tags.foldlM openAfter (elements ++ outer) = some (after ++ outer) := by
  induction tags generalizing elements with
  | nil =>
      cases opened
      rfl
  | cons tag rest ih =>
      rw [List.foldlM_cons, Option.bind_eq_bind, Option.bind_eq_some_iff] at opened
      obtain ⟨between, first, others⟩ := opened
      rw [List.foldlM_cons, openAfter_append first outer]
      exact ih others

/-! Texts that are tags, and texts put together -/

theorem tagsIn_append {one : Text} (tags : EachBegins '<' IsTag one) (another : Text) :
    tagsIn (one ++ another) = tagsIn one ++ tagsIn another := by
  induction one with
  | nil => rfl
  | cons c rest ih =>
      have further := ih tags.tail
      rw [List.cons_append, tagsIn, tagsIn, further]
      split
      · rename_i isAngle
        subst isAngle
        -- The tag ends inside the first text, so what is read of it does not reach the second one.
        obtain ⟨_, ⟨inside, own, rfl⟩, later, whole⟩ := tags [] rest rfl
        have noEnd : '>' ∉ inside := own.bare.angles.2
        rw [tagOf, List.cons_append, List.cons.injEq, List.append_assoc] at whole
        rw [← whole.2, List.append_assoc, List.singleton_append, List.cons_append,
          Text.takeWhile_ne_append noEnd, Text.takeWhile_ne_append noEnd, List.cons_append]
      · rfl

theorem tagsIn_of_notMem {text : Text} (absent : '<' ∉ text) : tagsIn text = [] := by
  induction text with
  | nil => rfl
  | cons c rest ih =>
      rw [List.mem_cons, not_or] at absent
      rw [tagsIn, if_neg (Ne.symm absent.1), ih absent.2]

namespace WellFormed

variable {text following inside : Text} {name : String} {attributes : List (Text × Text)}

theorem of_bare (bare : Bare text) : WellFormed text where
  tags := .of_notMem bare.angles.1
  nested := by rw [tagsIn_of_notMem bare.angles.1]; rfl
  entities := .of_notMem bare.ampersand

theorem append (one : WellFormed text) (another : WellFormed following) :
    WellFormed (text ++ following) where
  tags := one.tags.append another.tags
  nested := by
    rw [tagsIn_append one.tags, List.foldlM_append, one.nested]
    exact another.nested
  entities := one.entities.append another.entities

theorem tag (own : OwnTag inside) : EachBegins '<' IsTag (tagOf inside) ∧
    tagsIn (tagOf inside) = [inside] ∧ EachBegins '&' IsEntity (tagOf inside) := by
  have bare := own.bare
  have noTag : '<' ∉ inside ++ ['>'] := by simp [bare.angles.1]
  have noEntity : '&' ∉ tagOf inside := by simp [tagOf, bare.ampersand]
  refine ⟨.piece ⟨inside, own, rfl⟩ noTag, ?_, .of_notMem noEntity⟩
  rw [tagOf, tagsIn, if_pos rfl, tagsIn_of_notMem noTag, Text.takeWhile_ne_append bare.angles.2]

/-- A tag that opens nothing. -/
theorem lone (own : OwnTag inside) (alone : openAfter [] inside = some []) :
    WellFormed (tagOf inside) where
  tags := (tag own).1
  nested := by rw [(tag own).2.1, List.foldlM_cons, alone]; rfl
  entities := (tag own).2.2

theorem element (listed : name ∈ elementNames)
    (own : OwnTag (name.toList ++ Html.renderAttributes attributes)) (inner : WellFormed text) :
    WellFormed (Html.openTag name.toList attributes ++ text ++ Html.closeTag name.toList) := by
  obtain ⟨startTag, starts, startBare⟩ := tag own
  obtain ⟨stopTag, stops, stopBare⟩ := tag (.close listed)
  have written : Html.openTag name.toList attributes ++ text ++ Html.closeTag name.toList =
      tagOf (name.toList ++ Html.renderAttributes attributes) ++ text ++ tagOf ('/' :: name.toList) := rfl
  have opened : [name.toList ++ Html.renderAttributes attributes].foldlM openAfter [] =
      some [name.toList] := by
    rw [List.foldlM_cons, openAfter_start listed]
    rfl
  have between : (tagsIn text).foldlM openAfter [name.toList] = some [name.toList] :=
    foldlM_openAfter_append inner.nested [name.toList]
  have closed : ['/' :: name.toList].foldlM openAfter [name.toList] = some [] := by
    rw [List.foldlM_cons, openAfter_close]
    rfl
  rw [written]
  constructor
  case tags => exact (startTag.append inner.tags).append stopTag
  case nested =>
    -- The element stays open while the tags inside it come and go, so its end tag finds it innermost.
    rw [tagsIn_append (startTag.append inner.tags), tagsIn_append startTag, starts, stops]
    simp only [List.foldlM_append, opened, between, closed, Option.bind_eq_bind, Option.bind_some]
  case entities => exact (startBare.append inner.entities).append stopBare

theorem entity {name : String} (listed : name ∈ ownEntities) : WellFormed name.toList := by
  have shape : ∀ entity ∈ ownEntities,
      '<' ∉ entity.toList ∧ entity.toList.head? = some '&' ∧ '&' ∉ entity.toList.tail := by
    decide
  obtain ⟨noTag, first, noOther⟩ := shape name listed
  obtain ⟨inner, spelled⟩ := List.head?_eq_some_iff.mp first
  have isEntity : IsEntity name.toList := ⟨name, listed, rfl⟩
  rw [spelled] at noTag noOther isEntity ⊢
  refine ⟨.of_notMem noTag, ?_, .piece isEntity noOther⟩
  rw [tagsIn_of_notMem noTag]
  rfl

theorem escapedChar (c : Char) : WellFormed (escapeHtmlChar c) := by
  unfold escapeHtmlChar
  split_ifs with isAmpersand isLess isGreater
  case neg =>
    refine .of_bare ⟨⟨?_, ?_⟩, ?_⟩ <;> rw [List.mem_singleton]
    exacts [Ne.symm isLess, Ne.symm isGreater, Ne.symm isAmpersand]
  all_goals exact .entity (by decide)

/-- Text that is escaped is no tag, whatever it says, and its entities are those of the program. -/
theorem escaped (text : Text) : WellFormed (escapeHtml text) := by
  induction text with
  | nil => exact .of_bare (by decide)
  | cons c rest ih => exact (escapedChar c).append ih

end WellFormed

end CuratedHistory
