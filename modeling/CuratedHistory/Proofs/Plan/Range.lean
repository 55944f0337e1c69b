import Mathlib.Data.List.Nodup
import CuratedHistory.Plan.Range

namespace CuratedHistory.PlanRange

/-! Positions along a range: every member has one, and no two have the same. -/

variable {range : PlanRange} {hash other : Text} {position index : Nat} {hashes : List Text}

theorem get?_of_position? (found : range.position? hash = some position) :
    range.get? position = some hash := by
  obtain ⟨bound, same, _⟩ := List.findIdx?_eq_some_iff_getElem.mp found
  rw [get?, List.getElem?_eq_getElem bound, beq_iff_eq.mp same]

theorem position?_injective (first : range.position? hash = some position)
    (second : range.position? other = some position) : hash = other := by
  have same := (get?_of_position? first).symm.trans (get?_of_position? second)
  exact Option.some.inj same

theorem mem_iff_position? : hash ∈ range.members ↔ ∃ position, range.position? hash = some position := by
  rw [← Option.isSome_iff_exists, position?, List.findIdx?_isSome, List.any_eq_true]
  constructor
  · intro member
    exact ⟨hash, member, beq_self_eq_true hash⟩
  · rintro ⟨candidate, member, same⟩
    rwa [← beq_iff_eq.mp same]

theorem mem_of_position? (found : range.position? hash = some position) : hash ∈ range.members :=
  mem_iff_position?.mpr ⟨position, found⟩

theorem mem_distinct : hash ∈ PlanRange.distinct hashes ↔ hash ∈ hashes := by
  induction hashes with
  | nil => exact Iff.rfl
  | cons first rest ih =>
      by_cases same : hash = first
      · simp [PlanRange.distinct, same]
      · simp [PlanRange.distinct, same, ih]

theorem nodup_distinct (hashes : List Text) : (PlanRange.distinct hashes).Nodup := by
  induction hashes with
  | nil => exact .nil
  | cons hash rest ih =>
      rw [PlanRange.distinct, List.nodup_cons]
      exact ⟨by simp, ih.filter _⟩

theorem distinct_of_nodup (distinct : hashes.Nodup) : PlanRange.distinct hashes = hashes := by
  induction hashes with
  | nil => rfl
  | cons hash rest ih =>
      rw [List.nodup_cons] at distinct
      have others : ∀ other ∈ rest, decide (other ≠ hash) = true := by
        intro other member
        rw [decide_eq_true_eq]
        rintro rfl
        exact distinct.1 member
      rw [PlanRange.distinct, ih distinct.2, List.filter_eq_self.mpr others]

theorem members_ofHashes (distinct : hashes.Nodup)
    (small : ∀ hash ∈ hashes, Text.lower hash = hash) : (ofHashes hashes).members = hashes := by
  have same : hashes.map Text.lower = hashes := by
    conv_rhs => rw [← List.map_id hashes]
    exact List.map_congr_left small
  rw [ofHashes, same, distinct_of_nodup distinct]

theorem position?_getElem (distinct : range.members.Nodup)
    (bound : index < range.members.length) : range.position? range.members[index] = some index := by
  refine List.findIdx?_eq_some_iff_getElem.mpr ⟨bound, beq_self_eq_true _, ?_⟩
  intro other less same
  have equal := (distinct.getElem_inj_iff).mp (beq_iff_eq.mp same)
  omega

theorem position?_eq_some_iff (distinct : range.members.Nodup) :
    range.position? hash = some position ↔ range.get? position = some hash := by
  refine ⟨get?_of_position?, fun found => ?_⟩
  obtain ⟨bound, rfl⟩ := List.getElem?_eq_some_iff.mp found
  exact position?_getElem distinct bound

theorem contains_eq_isSome (range : PlanRange) (hash : Text) :
    range.contains hash = (range.position? hash).isSome := by
  rw [Bool.eq_iff_iff, Option.isSome_iff_exists, ← mem_iff_position?, contains, List.contains_iff_mem]

/-- Only the first time that a text comes does it count. -/
theorem distinct_concat (texts : List Text) (text : Text) :
    PlanRange.distinct (texts ++ [text]) =
      if text ∈ texts then PlanRange.distinct texts else PlanRange.distinct texts ++ [text] := by
  induction texts with
  | nil => rfl
  | cons first rest ih =>
      rw [List.cons_append, PlanRange.distinct, ih, PlanRange.distinct]
      by_cases same : text = first
      · subst same
        by_cases again : text ∈ rest <;> simp [again]
      · by_cases again : text ∈ rest <;> simp [same, again]

/-- The texts that are kept stand in the order in which they come for the first time. -/
theorem pairwise_idxOf_distinct (texts : List Text) :
    (PlanRange.distinct texts).Pairwise fun earlier later => texts.idxOf earlier < texts.idxOf later := by
  induction texts with
  | nil => exact .nil
  | cons first rest ih =>
      rw [PlanRange.distinct, List.pairwise_cons]
      constructor
      · intro later member
        have other : later ≠ first := by simpa using (List.mem_filter.mp member).2
        rw [List.idxOf_cons_self, List.idxOf_cons_ne _ other.symm]
        exact Nat.succ_pos _
      · refine (ih.filter _).imp_of_mem ?_
        intro earlier later member memberToo before
        have apart : earlier ≠ first := by simpa using (List.mem_filter.mp member).2
        have apartToo : later ≠ first := by simpa using (List.mem_filter.mp memberToo).2
        rw [List.idxOf_cons_ne _ apart.symm, List.idxOf_cons_ne _ apartToo.symm]
        exact Nat.succ_lt_succ before

/-- The first hash stands before the second one. -/
def Precedes (range : PlanRange) (earlier later : Text) : Prop :=
  ∃ first second, range.position? earlier = some first ∧
    range.position? later = some second ∧ first < second

theorem Precedes.asymm (precedes : range.Precedes hash other) : ¬ range.Precedes other hash := by
  rintro ⟨later, earlier, isLater, isEarlier, less⟩
  obtain ⟨first, second, isFirst, isSecond, before⟩ := precedes
  rw [isFirst, Option.some.injEq] at isEarlier
  rw [isSecond, Option.some.injEq] at isLater
  omega

theorem nodup_of_precedes (ordered : hashes.Pairwise range.Precedes) : hashes.Nodup := by
  refine ordered.imp ?_
  rintro hash _ precedes rfl
  exact precedes.asymm precedes

theorem members_precede (distinct : range.members.Nodup) : range.members.Pairwise range.Precedes := by
  rw [List.pairwise_iff_getElem]
  intro first second firstBound secondBound less
  exact ⟨first, second, position?_getElem distinct firstBound, position?_getElem distinct secondBound, less⟩

/-- In the order of the range there is only one way to name all of its members. -/
theorem eq_members_of_precedes (distinct : range.members.Nodup)
    (ordered : hashes.Pairwise range.Precedes) (all : ∀ hash, hash ∈ hashes ↔ hash ∈ range.members) :
    hashes = range.members := by
  have same : hashes.Perm range.members :=
    (List.perm_ext_iff_of_nodup (nodup_of_precedes ordered) distinct).mpr all
  refine same.eq_of_pairwise ?_ ordered (members_precede distinct)
  intro one another _ _ before after
  exact absurd after before.asymm

end CuratedHistory.PlanRange
