import Mathlib
import CuratedHistory.Proofs.Plan.Resolution

namespace CuratedHistory

/-! A range with a table of the places of its members, built up side by side as hashes come in.
The list and the table stay inverse to each other, and they are those of the range. -/

/-- The members in order, and where each of them stands. -/
structure Index where
  members : List Text
  places : Std.HashMap Text Nat

namespace Index

variable {index : Index} {hash : Text}

/-- One more hash, in lower case, unless the table has it. -/
def add (index : Index) (hash : Text) : Index :=
  if index.places.contains (Text.lower hash) then index
  else {
    members := index.members ++ [Text.lower hash]
    places := index.places.insert (Text.lower hash) index.members.length }

def ofHashes (hashes : List Text) : Index :=
  hashes.foldl add { members := [], places := ∅ }

/-- What the table says of a text is where it stands in the list. -/
def Inverse (index : Index) : Prop :=
  ∀ (text : Text) (place : Nat), index.places[text]? = some place ↔ index.members[place]? = some text

theorem Inverse.contains_iff (inverse : index.Inverse) (text : Text) :
    index.places.contains text = true ↔ text ∈ index.members := by
  rw [Std.HashMap.contains_eq_isSome_getElem?, Option.isSome_iff_exists, List.mem_iff_getElem?]
  exact exists_congr fun place => inverse text place

theorem add_of_member (inverse : index.Inverse) (known : Text.lower hash ∈ index.members) :
    index.add hash = index :=
  if_pos ((inverse.contains_iff _).mpr known)

theorem add_of_new (inverse : index.Inverse) (unknown : Text.lower hash ∉ index.members) :
    index.add hash = {
      members := index.members ++ [Text.lower hash]
      places := index.places.insert (Text.lower hash) index.members.length } :=
  if_neg (mt (inverse.contains_iff _).mp unknown)

theorem getElem?_concat_eq_some_iff {items : List Text} {last item : Text} {place : Nat} :
    (items ++ [last])[place]? = some item ↔
      items[place]? = some item ∨ items.length = place ∧ last = item := by
  rcases Nat.lt_trichotomy place items.length with inside | rfl | beyond
  · simp [List.getElem?_append_left inside, inside.ne']
  · simp
  · simp [List.getElem?_eq_none, beyond.le, Nat.succ_le_of_lt beyond, beyond.ne]

theorem Inverse.add (inverse : index.Inverse) (hash : Text) : (index.add hash).Inverse := by
  by_cases known : Text.lower hash ∈ index.members
  · rwa [add_of_member inverse known]
  · intro text place
    rw [add_of_new inverse known, getElem?_concat_eq_some_iff, ← inverse text place,
      Std.HashMap.getElem?_insert]
    -- The new text gets the next place, and no other text has that.
    by_cases new : Text.lower hash = text
    · have absent : index.places[text]? ≠ some place := fun found =>
        known (new ▸ List.mem_of_getElem? ((inverse text place).mp found))
      simp [new, absent]
    · simp [new]

theorem ofHashes_inverse (hashes : List Text) : (ofHashes hashes).Inverse := by
  induction hashes using List.reverseRecOn with
  | nil =>
      intro text place
      simp [ofHashes]
  | append_singleton earlier hash ih =>
      rw [ofHashes, List.foldl_concat]
      exact ih.add hash

theorem members_ofHashes (hashes : List Text) :
    (ofHashes hashes).members = (PlanRange.ofHashes hashes).members := by
  induction hashes using List.reverseRecOn with
  | nil => rfl
  | append_singleton earlier hash ih =>
      have inverse := ofHashes_inverse earlier
      have seen : Text.lower hash ∈ (ofHashes earlier).members ↔ Text.lower hash ∈ earlier.map Text.lower := by
        rw [ih]
        exact PlanRange.mem_distinct
      rw [PlanRange.ofHashes, List.map_append, List.map_singleton, PlanRange.distinct_concat, ofHashes,
        List.foldl_concat]
      by_cases known : Text.lower hash ∈ earlier.map Text.lower
      · rw [if_pos known]
        exact (congrArg members (add_of_member inverse (seen.mpr known))).trans ih
      · rw [if_neg known]
        exact (congrArg members (add_of_new inverse (mt seen.mp known))).trans (congrArg (· ++ _) ih)

end Index

namespace PlanRange

/-- The range has the hashes in lower case, each once and in the order in which they come for
the first time, and its functions look them up. The table that is built beside the list has the
same places. -/
structure Indexes (range : PlanRange) (hashes : List Text) : Prop where
  distinct : range.members.Nodup
  member_iff : ∀ text, text ∈ range.members ↔ text ∈ hashes.map Text.lower
  ordered : range.members.Pairwise fun earlier later =>
    (hashes.map Text.lower).idxOf earlier < (hashes.map Text.lower).idxOf later
  position_iff : ∀ text place, range.position? text = some place ↔ range.get? place = some text
  contains_eq : ∀ text, range.contains text = (range.position? text).isSome
  length_eq : range.length = (hashes.map Text.lower).toFinset.card
  members_eq : range.members = (Index.ofHashes hashes).members
  places_eq : ∀ text, range.position? text = (Index.ofHashes hashes).places[text]?

theorem ofHashes_indexes (hashes : List Text) : (ofHashes hashes).Indexes hashes := by
  have distinct : (ofHashes hashes).members.Nodup := nodup_distinct _
  have built := Index.members_ofHashes hashes
  constructor
  case distinct => exact distinct
  case member_iff => exact fun text => mem_distinct
  case ordered => exact pairwise_idxOf_distinct _
  case position_iff => exact fun text place => position?_eq_some_iff distinct
  case contains_eq => exact contains_eq_isSome _
  case length_eq =>
    have same : (ofHashes hashes).members.toFinset = (hashes.map Text.lower).toFinset := by
      ext text
      rw [List.mem_toFinset, List.mem_toFinset]
      exact mem_distinct
    rw [← same, List.toFinset_card_of_nodup distinct, length]
  case members_eq => exact built.symm
  case places_eq =>
    intro text
    refine Option.ext fun place => ?_
    rw [position?_eq_some_iff distinct, Index.ofHashes_inverse, built, get?]

/-- A beginning is resolved to the only member that has it. What is longer than a beginning
that was resolved, or that no member has, never has two members. -/
structure ResolvesExactly (range : PlanRange) : Prop where
  ok_iff : ∀ start full, range.resolver start = .ok full ↔
    full ∈ range.members ∧ start <+: full ∧ ∀ other ∈ range.members, start <+: other → other = full
  ambiguous_iff : ∀ start, range.resolver start = .error .ambiguous ↔
    ∃ one ∈ range.members, ∃ other ∈ range.members, one ≠ other ∧ start <+: one ∧ start <+: other
  notFound_iff : ∀ start, range.resolver start = .error .notFound ↔
    ∀ other ∈ range.members, ¬ start <+: other
  longer_ok : ∀ start longer full, start <+: longer → range.resolver start = .ok full →
    range.resolver longer = .ok full ∨ range.resolver longer = .error .notFound
  longer_notFound : ∀ start longer, start <+: longer → range.resolver start = .error .notFound →
    range.resolver longer = .error .notFound

theorem resolvesExactly {range : PlanRange} (distinct : range.members.Nodup) : range.ResolvesExactly where
  ok_iff _ _ := resolveAmong_eq_ok_iff distinct
  ambiguous_iff _ := resolveAmong_eq_ambiguous_iff distinct
  notFound_iff _ := resolveAmong_eq_notFound_iff
  longer_ok _ _ _ := resolveAmong_longer distinct
  longer_notFound _ _ := resolveAmong_longer_notFound

end PlanRange

end CuratedHistory
