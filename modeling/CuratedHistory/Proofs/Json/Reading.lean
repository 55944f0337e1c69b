import CuratedHistory.Json.Basic
import CuratedHistory.Proofs.Traversal

namespace CuratedHistory.Json

/-! Fields that are read back from an object, and what becomes of a value that is read and
written again. -/

variable {members given : List (Text × Json)} {name tag text : Text} {names : List Text}
  {value old json between new inner : Json} {values : List (Option Json)} {news items : List Json}
  {field : Option Json} {count : Nat} {label : Option Text}

theorem ne_of_fresh (fresh : name ∉ members.map Prod.fst) : ∀ member ∈ members, member.1 ≠ name :=
  fun _ inside same => fresh (same ▸ List.mem_map_of_mem inside)

theorem filter_of_fresh (fresh : name ∉ members.map Prod.fst) : members.filter (·.1 == name) = [] := by
  rw [List.filter_eq_nil_iff]
  exact fun member inside same => ne_of_fresh fresh member inside (beq_iff_eq.mp same)

theorem member?_of_mem (distinct : (members.map Prod.fst).Nodup) (member : (name, value) ∈ members) :
    member? members name = some (some value) := by
  have alone : members.filter (·.1 == name) = [(name, value)] := by
    induction members with
    | nil => contradiction
    | cons first rest ih =>
        rw [List.map_cons, List.nodup_cons] at distinct
        rcases List.mem_cons.mp member with rfl | later
        · simp [filter_of_fresh distinct.1]
        · have other : first.1 ≠ name := (ne_of_fresh distinct.1 _ later).symm
          simp [other, ih distinct.2 later]
  rw [member?, alone]

theorem fields?_object (distinct : (members.map Prod.fst).Nodup) :
    fields? (members.map Prod.fst) (.object members) = some (members.map fun member => some member.2) := by
  rw [fields?, List.mapM_map]
  exact mapM_eq_some_map fun member inside => member?_of_mem distinct inside

/-- An object of fields in the order of their names reads as the same fields by position. -/
theorem fields?_zip (distinct : names.Nodup) (sameLength : items.length = names.length) :
    fields? names (.object (names.zip items)) = some (items.map some) := by
  have namesOf : (names.zip items).map Prod.fst = names := List.map_fst_zip sameLength.ge
  have valuesOf : (names.zip items).map (fun member => some member.2) = items.map some := by
    nth_rewrite 2 [← List.map_snd_zip sameLength.le]
    rw [List.map_map]
    rfl
  have fields := @fields?_object (names.zip items) (by rwa [namesOf])
  rwa [namesOf, valuesOf] at fields

theorem tagged?_object (fresh : name ∉ members.map Prod.fst) :
    tagged? name (.object ((name, .string tag) :: members)) = some (tag, .object members) := by
  have alone : member? ((name, .string tag) :: members) name = some (some (.string tag)) := by
    simp [member?, filter_of_fresh fresh]
  have kept : ((name, .string tag) :: members).filter (·.1 != name) = members := by
    have others : members.filter (·.1 != name) = members :=
      List.filter_eq_self.mpr fun member inside => bne_iff_ne.mpr (ne_of_fresh fresh member inside)
    simpa using others
  simp only [tagged?, alone, kept]

theorem mem_iff_of_member? (found : member? given name = some (some value)) :
    (name, old) ∈ given ↔ old = value := by
  have inFilter : (name, old) ∈ given.filter (·.1 == name) ↔ (name, old) ∈ given := by
    simp [List.mem_filter]
  unfold member? at found
  split at found
  · simp at found
  · rename_i only alone
    rw [Option.some.injEq, Option.some.injEq] at found
    subst found
    have isNamed : only ∈ given.filter (·.1 == name) := alone ▸ List.mem_singleton_self only
    have name : only.1 = name := beq_iff_eq.mp (List.mem_filter.mp isNamed).2
    rw [← inFilter, alone, List.mem_singleton, ← name, Prod.ext_iff]
    exact and_iff_right rfl
  · contradiction

theorem notMem_of_member? (absent : member? given name = some none) (old : Json) :
    (name, old) ∉ given := by
  intro member
  have inFilter : (name, old) ∈ given.filter (·.1 == name) :=
    List.mem_filter.mpr ⟨member, beq_self_eq_true name⟩
  unfold member? at absent
  split at absent
  · rename_i none
    rw [none] at inFilter
    contradiction
  · simp at absent
  · contradiction

theorem member?_filter {other : Text} (different : other ≠ name) :
    member? (given.filter (·.1 != name)) other = member? given other := by
  have same : (given.filter (·.1 != name)).filter (·.1 == other) = given.filter (·.1 == other) := by
    rw [List.filter_filter]
    refine List.filter_congr fun member _ => ?_
    by_cases isOther : member.1 = other
    · simp [isOther, different]
    · simp [isOther]
  rw [member?, member?, same]

/-- The tag is read as a field beside the other fields. -/
theorem fields?_of_tagged? (fresh : name ∉ names) (isTagged : tagged? name json = some (tag, inner))
    (read : fields? names inner = some values) :
    fields? (name :: names) json = some (some (.string tag) :: values) := by
  unfold tagged? at isTagged
  split at isTagged
  · rename_i given
    split at isTagged
    · rename_i found
      obtain ⟨rfl, rfl⟩ := Prod.mk.inj (Option.some.inj isTagged)
      have others : names.mapM (member? given) = some values := by
        rw [← read, fields?]
        refine mapM_congr fun other member => (member?_filter ?_).symm
        rintro rfl
        exact fresh member
      rw [fields?, List.mapM_cons, found, others]
      rfl
    · contradiction
  · obtain ⟨rfl, rfl⟩ := Prod.mk.inj (Option.some.inj isTagged)
    rw [fields?] at read ⊢
    split at read
    · rename_i sameLength
      rw [← Option.some.inj read, if_pos (by rw [List.length_cons, List.length_cons, sameLength]),
        List.map_cons]
    · contradiction
  · contradiction

/-! Values that are read and written again -/

/-- What reading and writing does to a value: the members of an object that are asked for stay,
rewritten, or become null if they are missing, and the others go. Nothing else changes, but
for other ways to spell the same. -/
inductive Rewritten (respelled : Json → Json → Prop) : Json → Json → Prop where
  | same (json : Json) : Rewritten respelled json json
  | items {items news : List Json} (each : List.Forall₂ (Rewritten respelled) items news) :
      Rewritten respelled (.array items) (.array news)
  | members {given members : List (Text × Json)}
      (kept : ∀ name value, (name, value) ∈ members → ∀ old, (name, old) ∈ given →
        Rewritten respelled old value)
      (filled : ∀ name value, (name, value) ∈ members → (∀ old, (name, old) ∉ given) → value = .null) :
      Rewritten respelled (.object given) (.object members)
  | respelled {json between new : Json} (first : respelled json between)
      (rest : Rewritten respelled between new) : Rewritten respelled json new

/-- Another spelling of a value: a word of an enumeration as an object, with null or with an
empty object, and a structure as an array, with its fields by position. -/
inductive Respelled : Json → Json → Prop where
  | word (word : Text) : Respelled (.object [(word, .null)]) (.string word)
  | emptyWord (word : Text) : Respelled (.object [(word, .object [])]) (.string word)
  | positional {names : List Text} {values : List Json} (sameLength : values.length = names.length) :
      Respelled (.array values) (.object (names.zip values))

/-- What becomes of a field that may be missing. -/
inductive Becomes : Option Json → Json → Prop where
  | given {old value : Json} (rewritten : Rewritten Respelled old value) : Becomes (some old) value
  | missing : Becomes none .null

/-- Each name that is asked for comes with what its own field becomes. -/
theorem forall_mem_zip (found : List.Forall₂ (fun name value => member? given name = some value) names values)
    (each : List.Forall₂ Becomes values news) :
    ∀ name value, (name, value) ∈ names.zip news →
      ∃ old, member? given name = some old ∧ Becomes old value := by
  induction found generalizing news with
  | nil => simp
  | @cons name value names values here _ ih =>
      cases each with
      | @cons _ new _ news becomes others =>
          intro other last member
          rw [List.zip_cons_cons, List.mem_cons, Prod.mk.injEq] at member
          rcases member with ⟨rfl, rfl⟩ | later
          · exact ⟨value, here, becomes⟩
          · exact ih others other last later

theorem Rewritten.of_members (found : names.mapM (member? given) = some values)
    (each : List.Forall₂ Becomes values news) :
    Rewritten Respelled (.object given) (.object (names.zip news)) := by
  have from_ := forall_mem_zip (forall₂_of_mapM found) each
  refine .members ?_ ?_
  · intro name value member old isGiven
    obtain ⟨field, here, becomes⟩ := from_ name value member
    cases becomes with
    | given rewritten => rwa [(mem_iff_of_member? here).mp isGiven]
    | missing => exact absurd isGiven (notMem_of_member? here old)
  · intro name value member absent
    obtain ⟨field, here, becomes⟩ := from_ name value member
    cases becomes with
    | given rewritten => exact absurd ((mem_iff_of_member? here).mpr rfl) (absent _)
    | missing => rfl

theorem Rewritten.of_fields? (distinct : names.Nodup) (read : fields? names json = some values)
    (each : List.Forall₂ Becomes values news) :
    Rewritten Respelled json (.object (names.zip news)) := by
  unfold fields? at read
  split at read
  · exact .of_members read each
  · rename_i items
    split at read
    · rename_i sameLength
      have named : names.mapM (member? (names.zip items)) = some (items.map some) :=
        fields?_zip distinct sameLength
      rw [← Option.some.inj read] at each
      exact .respelled (.positional sameLength) (.of_members named each)
    · contradiction
  · contradiction

/-! Values of one kind -/

theorem required?_eq_some {α : Type} {decode : Json → Option α} {value : α}
    (read : required? decode field = some value) : ∃ json, field = some json ∧ decode json = some value := by
  unfold required? at read
  split at read
  · exact ⟨_, rfl, read⟩
  · contradiction

theorem text?_eq_some (read : text? json = some text) : json = .string text := by
  unfold text? at read
  split at read
  · rw [Option.some.inj read]
  · contradiction

theorem required?_text_eq_some (read : required? text? field = some text) : field = some (.string text) := by
  obtain ⟨_, rfl, isText⟩ := required?_eq_some read
  rw [text?_eq_some isText]

theorem count?_ofNat (small : count < countLimit) : count? (.ofNat count) = some count :=
  if_pos small

theorem nullable?_ofOption (label : Option Text) : nullable? text? (some (ofOption label)) = some label := by
  cases label <;> rfl

theorem becomes_of_count? (read : required? count? field = some count) :
    Becomes field (.ofNat count) ∧ count < countLimit := by
  unfold required? count? at read
  split at read
  · split at read
    · split at read
      · rename_i small
        rw [← Option.some.inj read]
        exact ⟨.given (.same _), small⟩
      · contradiction
    · contradiction
  · contradiction

theorem becomes_of_text? (read : required? text? field = some text) : Becomes field (.string text) := by
  rw [required?_text_eq_some read]
  exact .given (.same _)

theorem becomes_of_nullable? (read : nullable? text? field = some label) :
    Becomes field (ofOption label) := by
  unfold nullable? at read
  split at read
  · rw [← Option.some.inj read]
    exact .given (.same _)
  · rw [Option.map_eq_some_iff] at read
    obtain ⟨text, isText, rfl⟩ := read
    exact becomes_of_text? isText
  · rw [← Option.some.inj read]
    exact .missing

theorem list?_eq_some {α : Type} {decode : Json → Option α} {values : List α}
    (read : list? decode json = some values) :
    ∃ items, json = .array items ∧ items.mapM decode = some values := by
  unfold list? at read
  split at read
  · exact ⟨_, rfl, read⟩
  · contradiction

theorem rewritten_of_list? {α : Type} {decode : Json → Option α} {encode : α → Json} {values : List α}
    (each : ∀ item value, decode item = some value → Rewritten Respelled item (encode value))
    (read : list? decode json = some values) : Rewritten Respelled json (.array (values.map encode)) := by
  obtain ⟨items, rfl, found⟩ := list?_eq_some read
  refine .items ?_
  rw [List.forall₂_map_right_iff]
  exact (forall₂_of_mapM found).imp each

theorem list?_array {α : Type} {decode : Json → Option α} {encode : α → Json} {values : List α}
    (each : ∀ value ∈ values, decode (encode value) = some value) :
    list? decode (.array (values.map encode)) = some values := by
  have found : values.mapM (decode ∘ encode) = some (values.map id) := mapM_eq_some_map each
  rw [list?, List.mapM_map, found, List.map_id]

theorem texts?_eq_some {texts : List Text} (read : list? text? json = some texts) :
    json = .array (texts.map .string) := by
  obtain ⟨items, rfl, found⟩ := list?_eq_some read
  have same : items = texts.map .string := by
    rw [← List.forall₂_eq_eq_eq, List.forall₂_map_right_iff]
    exact (forall₂_of_mapM found).imp fun _ _ => text?_eq_some
  rw [same]

theorem texts?_array (texts : List Text) : list? text? (.array (texts.map .string)) = some texts :=
  list?_array fun _ _ => rfl

end CuratedHistory.Json
