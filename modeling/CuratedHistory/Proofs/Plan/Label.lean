import CuratedHistory.Plan.Directive

namespace CuratedHistory.Directive

/-! Hash signs in labels. A sign that stands directly behind a backslash belongs to the
label, any other one ends it, and a backslash in front of anything else is just that. -/

variable {c : Char} {rest written tail label : Text} {behind : Option Text}

/-- Every hash sign of the text stands directly behind a backslash. -/
def SignsEscaped (text : Text) : Prop :=
  ∀ before after, text = before ++ '#' :: after → before.getLast? = some '\\'

/-- The text with a hash sign in place of each backslash and hash sign together. -/
def unescape : Text → Text
  | [] => []
  | '\\' :: '#' :: rest => '#' :: unescape rest
  | c :: rest => c :: unescape rest

/-- The label with a backslash in front of each hash sign. -/
def escape (label : Text) : Text :=
  label.flatMap fun c => if c = '#' then ['\\', '#'] else [c]

/-- The label that a text begins with, and what stands behind the hash sign that ends it: the
first one that does not stand directly behind a backslash. -/
inductive Labels : Text → Text → Option Text → Prop where
  | whole {rest : Text} (escaped : SignsEscaped rest) : Labels rest (unescape rest) none
  | ended {written behind : Text} (escaped : SignsEscaped written)
      (bare : written.getLast? ≠ some '\\') :
      Labels (written ++ '#' :: behind) (unescape written) (some behind)

theorem unescape_cons (apart : c = '\\' → rest.head? ≠ some '#') :
    unescape (c :: rest) = c :: unescape rest := by
  rw [unescape]
  rintro following rfl rfl
  exact apart rfl rfl

theorem splitLabel_cons (noSign : c ≠ '#') (apart : c = '\\' → rest.head? ≠ some '#') :
    splitLabel (c :: rest) = (c :: (splitLabel rest).1, (splitLabel rest).2) := by
  rw [splitLabel]
  · rintro following rfl rfl
    exact apart rfl rfl
  · exact noSign

theorem signsEscaped_nil : SignsEscaped [] := by
  intro before after split
  simp at split

theorem not_signsEscaped_sign (rest : Text) : ¬ SignsEscaped ('#' :: rest) :=
  fun escaped => absurd (escaped [] rest rfl) (by simp)

theorem signsEscaped_pair : SignsEscaped ('\\' :: '#' :: rest) ↔ SignsEscaped rest := by
  constructor
  · rintro escaped before after rfl
    have last := escaped ('\\' :: '#' :: before) after rfl
    cases before with
    | nil => simp at last
    | cons c before => simpa using last
  · intro escaped before after split
    match before with
    | [] => simp at split
    | [c] =>
        rw [List.singleton_append, List.cons.injEq] at split
        rw [List.getLast?_singleton, split.1]
    | c :: d :: before =>
        simp only [List.cons_append, List.cons.injEq] at split
        have last := escaped before after split.2.2
        simp [List.getLast?_cons, last]

theorem signsEscaped_cons (noSign : c ≠ '#') (apart : c = '\\' → rest.head? ≠ some '#') :
    SignsEscaped (c :: rest) ↔ SignsEscaped rest := by
  constructor
  · rintro escaped before after rfl
    have last := escaped (c :: before) after rfl
    cases before with
    | nil => exact absurd rfl (apart (by simpa using last))
    | cons d before => simpa using last
  · intro escaped before after split
    cases before with
    | nil => exact absurd (List.cons.inj split).1 noSign
    | cons d before =>
        have last := escaped before after (List.cons.inj split).2
        simp [List.getLast?_cons, last]

/-- Signs behind backslashes are passed over, and the rest is read as if it stood alone. -/
theorem splitLabel_append (escaped : SignsEscaped written)
    (apart : written.getLast? = some '\\' → tail.head? ≠ some '#') :
    splitLabel (written ++ tail) =
      (unescape written ++ (splitLabel tail).1, (splitLabel tail).2) := by
  fun_induction unescape written with
  | case1 => rfl
  | case2 rest ih =>
      have inner : rest.getLast? = some '\\' → tail.head? ≠ some '#' :=
        fun last => apart (by simp [List.getLast?_cons, last])
      simp [splitLabel, ih (signsEscaped_pair.mp escaped) inner]
  | case3 c rest single ih =>
      have noSign : c ≠ '#' := by
        rintro rfl
        exact not_signsEscaped_sign rest escaped
      have here : c = '\\' → rest.head? ≠ some '#' := by
        rintro rfl first
        obtain ⟨following, rfl⟩ := List.head?_eq_some_iff.mp first
        exact single following rfl rfl
      have further : c = '\\' → (rest ++ tail).head? ≠ some '#' := by
        intro backslash
        cases rest with
        | nil => exact apart (by simp [backslash])
        | cons d rest => exact here backslash
      have inner : rest.getLast? = some '\\' → tail.head? ≠ some '#' :=
        fun last => apart (by simp [List.getLast?_cons, last])
      rw [List.cons_append, splitLabel_cons noSign further,
        ih ((signsEscaped_cons noSign here).mp escaped) inner]
      rfl

theorem Labels.pair (labels : Labels rest label behind) :
    Labels ('\\' :: '#' :: rest) ('#' :: label) behind := by
  cases labels with
  | whole escaped => exact .whole (signsEscaped_pair.mpr escaped)
  | ended escaped bare =>
      rename_i written behind
      have stillBare : ('\\' :: '#' :: written).getLast? ≠ some '\\' := by
        cases written with
        | nil => decide
        | cons c written => simpa using bare
      exact .ended (signsEscaped_pair.mpr escaped) stillBare

theorem Labels.cons (noSign : c ≠ '#') (apart : c = '\\' → rest.head? ≠ some '#')
    (labels : Labels rest label behind) : Labels (c :: rest) (c :: label) behind := by
  cases labels with
  | whole escaped =>
      rw [← unescape_cons apart]
      exact .whole ((signsEscaped_cons noSign apart).mpr escaped)
  | ended escaped bare =>
      rename_i written behind
      have here : c = '\\' → written.head? ≠ some '#' := by
        intro backslash first
        obtain ⟨following, rfl⟩ := List.head?_eq_some_iff.mp first
        exact apart backslash rfl
      have stillBare : (c :: written).getLast? ≠ some '\\' := by
        cases written with
        | nil => exact fun last => apart (by simpa using last) rfl
        | cons d written => simpa using bare
      rw [← unescape_cons here]
      exact .ended ((signsEscaped_cons noSign here).mpr escaped) stillBare

theorem labels_splitLabel (rest : Text) : Labels rest (splitLabel rest).1 (splitLabel rest).2 := by
  fun_induction splitLabel rest with
  | case1 => exact .whole signsEscaped_nil
  | case2 rest ih => exact ih.pair
  | case3 rest => exact .ended signsEscaped_nil (by simp)
  | case4 c rest single noSign ih =>
      refine ih.cons noSign ?_
      rintro rfl first
      obtain ⟨following, rfl⟩ := List.head?_eq_some_iff.mp first
      exact single following rfl rfl

/-- A text has one label, the one that is split off. -/
theorem splitLabel_eq_iff : splitLabel rest = (label, behind) ↔ Labels rest label behind := by
  constructor
  · intro split
    have labels := labels_splitLabel rest
    rwa [split] at labels
  · intro labels
    cases labels with
    | whole escaped =>
        have split := @splitLabel_append rest [] escaped (by simp)
        simpa [splitLabel] using split
    | ended escaped bare =>
        rw [splitLabel_append escaped (fun last => absurd last bare)]
        simp [splitLabel]

end CuratedHistory.Directive
