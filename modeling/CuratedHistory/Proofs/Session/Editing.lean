import CuratedHistory.Session.Editing

namespace CuratedHistory

/-! Editing a plan as a machine that waits for one session after another. It goes on as
long as sessions end well, plans are refused and sessions are left; the session at which
it does not go on decides what comes of it all. -/

/-- The session with this number ends well and leaves a text of the buffer. -/
def Editor.Leaves (editor : Editor) (number : Nat) (buffer text : Text) : Prop :=
  (editor.session number (Utf8.encode buffer)).status = 0 ∧
    ∃ bytes, (editor.session number (Utf8.encode buffer)).left = some bytes ∧
      Utf8.decode? bytes = some text

/-- The session with this number ends badly, or leaves no text. -/
inductive Editor.Fails (editor : Editor) (number : Nat) (buffer : Text) : EditError → Prop where
  | status (bad : (editor.session number (Utf8.encode buffer)).status ≠ 0) :
      Fails editor number buffer
        (.editorFailed editor.command (editor.session number (Utf8.encode buffer)).status)
  | gone (well : (editor.session number (Utf8.encode buffer)).status = 0)
      (gone : (editor.session number (Utf8.encode buffer)).left = none) :
      Fails editor number buffer (.buffer .notFound)
  | noText {bytes : Bytes} (well : (editor.session number (Utf8.encode buffer)).status = 0)
      (left : (editor.session number (Utf8.encode buffer)).left = some bytes)
      (noText : Utf8.decode? bytes = none) : Fails editor number buffer (.buffer .notText)

section Machine

variable {α : Type} {editor : Editor} {parse : Text → Except PlanError α} {initial : Text}
  {sessions number count last : Nat} {buffer other final text : Text} {failure : EditError}
  {result : Except EditError α}

/-- So many sessions have been refused, and the next one is shown this buffer. -/
inductive Awaits (editor : Editor) (parse : Text → Except PlanError α) (initial : Text) :
    Nat → Text → Prop where
  | start : Awaits editor parse initial 0 initial
  | again {count : Nat} {buffer text : Text} {error : PlanError}
      (earlier : Awaits editor parse initial count buffer) (leaves : editor.Leaves count buffer text)
      (refused : parse text = .error error) :
      Awaits editor parse initial (count + 1) (withErrorComments text error)

/-- The session with this number is the last one, with what comes of it. -/
inductive Ends (editor : Editor) (parse : Text → Except PlanError α) (sessions number : Nat)
    (buffer : Text) : Except EditError α → Prop where
  | accepted {text : Text} {value : α} (leaves : editor.Leaves number buffer text)
      (accepted : parse text = .ok value) : Ends editor parse sessions number buffer (.ok value)
  | rejected {text : Text} {error : PlanError} (leaves : editor.Leaves number buffer text)
      (refused : parse text = .error error) (noMore : number + 1 = sessions) :
      Ends editor parse sessions number buffer (.error (.rejected sessions error))
  | failed {failure : EditError} (fails : editor.Fails number buffer failure) :
      Ends editor parse sessions number buffer (.error failure)

theorem Editor.Leaves.unique (one : editor.Leaves number buffer text)
    (another : editor.Leaves number buffer other) : text = other := by
  obtain ⟨_, bytes, left, decoded⟩ := one
  obtain ⟨_, bytes', left', decoded'⟩ := another
  rw [left, Option.some.injEq] at left'
  subst left'
  exact Option.some.inj (decoded.symm.trans decoded')

theorem Editor.Leaves.eq_iff (leaves : editor.Leaves number buffer text) :
    text = other ↔ editor.Leaves number buffer other :=
  ⟨fun same => same ▸ leaves, leaves.unique⟩

theorem Editor.Leaves.getElem?_singleton (leaves : editor.Leaves number buffer text) (index : Nat)
    (other : Text) :
    [text][index]? = some other ↔ index = 0 ∧ editor.Leaves number buffer other := by
  cases index with
  | zero => simp [leaves.eq_iff]
  | succ index => simp

theorem Editor.Fails.not_leaves (fails : editor.Fails number buffer failure) :
    ¬ editor.Leaves number buffer text := by
  rintro ⟨well, bytes, left, decoded⟩
  cases fails with
  | status bad => exact bad well
  | gone _ gone => simp [gone] at left
  | noText _ others noText => simp_all

theorem Editor.Fails.unique {failure' : EditError} (one : editor.Fails number buffer failure)
    (another : editor.Fails number buffer failure') : failure = failure' := by
  cases one <;> cases another <;> simp_all

theorem text_eq_ok_iff :
    (editor.session number (Utf8.encode buffer)).text editor.command = .ok text ↔
      editor.Leaves number buffer text := by
  unfold EditorExit.text Editor.Leaves
  by_cases well : (editor.session number (Utf8.encode buffer)).status = 0
  · cases left : (editor.session number (Utf8.encode buffer)).left with
    | none => simp [well]
    | some bytes => cases decoded : Utf8.decode? bytes <;> simp [well, decoded]
  · simp [well]

theorem fails_of_text_eq_error
    (failed : (editor.session number (Utf8.encode buffer)).text editor.command = .error failure) :
    editor.Fails number buffer failure := by
  unfold EditorExit.text at failed
  by_cases well : (editor.session number (Utf8.encode buffer)).status = 0
  · cases left : (editor.session number (Utf8.encode buffer)).left with
    | none =>
        simp only [well, left, ne_eq, not_true_eq_false, if_false, Except.error.injEq] at failed
        subst failed
        exact .gone well left
    | some bytes =>
        cases decoded : Utf8.decode? bytes with
        | none =>
            simp only [well, left, decoded, ne_eq, not_true_eq_false, if_false,
              Except.error.injEq] at failed
            subst failed
            exact .noText well left decoded
        | some text => simp [well, left, decoded] at failed
  · simp only [well, ne_eq, not_false_eq_true, if_true, Except.error.injEq] at failed
    subst failed
    exact .status well

namespace Awaits

theorem unique (one : Awaits editor parse initial count buffer)
    (another : Awaits editor parse initial count other) : buffer = other := by
  induction one generalizing other with
  | start =>
      cases another
      rfl
  | again earlier leaves refused ih =>
      cases another with
      | again earlier' leaves' refused' =>
          obtain rfl := ih earlier'
          obtain rfl := leaves.unique leaves'
          rw [refused] at refused'
          cases refused'
          rfl

theorem refused_before (awaits : Awaits editor parse initial count buffer) (before : number < count) :
    ∃ buffer text error, Awaits editor parse initial number buffer ∧
      editor.Leaves number buffer text ∧ parse text = .error error := by
  induction awaits with
  | start => contradiction
  | again earlier leaves refused ih =>
      rcases Nat.lt_succ_iff_lt_or_eq.mp before with less | rfl
      · exact ih less
      · exact ⟨_, _, _, earlier, leaves, refused⟩

end Awaits

namespace Ends

/-- No session is waited for after the last one. -/
theorem le_of_awaits (ends : Ends editor parse sessions last final result)
    (reached : Awaits editor parse initial last final) (within : count < sessions)
    (awaits : Awaits editor parse initial count buffer) : count ≤ last := by
  refine Nat.le_of_not_lt fun beyond => ?_
  obtain ⟨shown, text, error, atLast, leaves, refused⟩ := awaits.refused_before beyond
  obtain rfl := reached.unique atLast
  cases ends with
  | accepted leaves' accepted =>
      obtain rfl := leaves.unique leaves'
      simp [refused] at accepted
  | rejected _ _ noMore => omega
  | failed fails => exact fails.not_leaves leaves

theorem unique {result' : Except EditError α} (one : Ends editor parse sessions last final result)
    (another : Ends editor parse sessions last final result') : result = result' := by
  cases one with
  | accepted leaves accepted =>
      cases another with
      | accepted leaves' accepted' =>
          obtain rfl := leaves.unique leaves'
          exact congrArg _ (Except.ok.inj (accepted.symm.trans accepted'))
      | rejected leaves' refused _ =>
          obtain rfl := leaves.unique leaves'
          simp [accepted] at refused
      | failed fails => exact absurd leaves fails.not_leaves
  | rejected leaves refused _ =>
      cases another with
      | accepted leaves' accepted =>
          obtain rfl := leaves.unique leaves'
          simp [accepted] at refused
      | rejected leaves' refused' _ =>
          obtain rfl := leaves.unique leaves'
          rw [Except.error.inj (refused.symm.trans refused')]
      | failed fails => exact absurd leaves fails.not_leaves
  | failed fails =>
      cases another with
      | accepted leaves _ => exact absurd leaves fails.not_leaves
      | rejected leaves _ _ => exact absurd leaves fails.not_leaves
      | failed fails' => rw [fails.unique fails']

theorem ok_iff {value : α} : Ends editor parse sessions number buffer (.ok value) ↔
    ∃ text, editor.Leaves number buffer text ∧ parse text = .ok value := by
  constructor
  · rintro ⟨leaves, accepted⟩
    exact ⟨_, leaves, accepted⟩
  · rintro ⟨text, leaves, accepted⟩
    exact .accepted leaves accepted

theorem rejected_iff {attempts : Nat} {error : PlanError} :
    Ends editor parse sessions number buffer (.error (.rejected attempts error)) ↔
      attempts = sessions ∧ number + 1 = sessions ∧
        ∃ text, editor.Leaves number buffer text ∧ parse text = .error error := by
  constructor
  · intro ends
    cases ends with
    | rejected leaves refused noMore => exact ⟨rfl, noMore, _, leaves, refused⟩
    | failed fails => cases fails
  · rintro ⟨rfl, noMore, text, leaves, refused⟩
    exact .rejected leaves refused noMore

theorem editorFailed_iff {command : Text} {status : Nat} :
    Ends editor parse sessions number buffer (.error (.editorFailed command status)) ↔
      command = editor.command ∧ status ≠ 0 ∧
        (editor.session number (Utf8.encode buffer)).status = status := by
  constructor
  · intro ends
    cases ends with
    | failed fails =>
        cases fails with
        | status bad => exact ⟨rfl, bad, rfl⟩
  · rintro ⟨rfl, bad, rfl⟩
    exact .failed (.status bad)

theorem unreadable_iff {cause : FileError} :
    Ends editor parse sessions number buffer (.error (.buffer cause)) ↔
      (editor.session number (Utf8.encode buffer)).status = 0 ∧
        (((editor.session number (Utf8.encode buffer)).left = none ∧ cause = .notFound) ∨
          ∃ bytes, (editor.session number (Utf8.encode buffer)).left = some bytes ∧
            Utf8.decode? bytes = none ∧ cause = .notText) := by
  constructor
  · intro ends
    cases ends with
    | failed fails =>
        cases fails with
        | gone well gone => exact ⟨well, .inl ⟨gone, rfl⟩⟩
        | noText well left noText => exact ⟨well, .inr ⟨_, left, noText, rfl⟩⟩
  · rintro ⟨well, ⟨gone, rfl⟩ | ⟨bytes, left, noText, rfl⟩⟩
    · exact .failed (.gone well gone)
    · exact .failed (.noText well left noText)

end Ends

/-- The buffers shown and the texts parsed in the sessions from a numbered one to another. -/
structure Traced (editor : Editor) (parse : Text → Except PlanError α) (initial : Text)
    (number last : Nat) (edited : Edited α) : Prop where
  shown : ∀ index bytes, edited.shown[index]? = some bytes ↔
    number + index ≤ last ∧ ∃ buffer, Awaits editor parse initial (number + index) buffer ∧
      bytes = Utf8.encode buffer
  parsed : ∀ index text, edited.parsed[index]? = some text ↔
    number + index ≤ last ∧ ∃ buffer, Awaits editor parse initial (number + index) buffer ∧
      editor.Leaves (number + index) buffer text

theorem Awaits.exists_iff (awaits : Awaits editor parse initial count buffer) {holds : Text → Prop} :
    (∃ other, Awaits editor parse initial count other ∧ holds other) ↔ holds buffer := by
  constructor
  · rintro ⟨other, awaited, held⟩
    rwa [awaits.unique awaited]
  · exact fun held => ⟨buffer, awaits, held⟩

namespace Traced

variable {edited next : Edited α}

theorem single (awaits : Awaits editor parse initial number buffer)
    (shown : edited.shown = [Utf8.encode buffer])
    (parsed : ∀ index text, edited.parsed[index]? = some text ↔
      index = 0 ∧ editor.Leaves number buffer text) :
    Traced editor parse initial number number edited where
  shown := by
    intro index bytes
    rw [shown]
    cases index with
    | zero =>
        rw [Nat.add_zero, awaits.exists_iff]
        simp [eq_comm]
    | succ index =>
        have beyond : ¬ number + (index + 1) ≤ number := by omega
        simp [beyond]
  parsed := by
    intro index text
    rw [parsed]
    cases index with
    | zero =>
        rw [Nat.add_zero, awaits.exists_iff]
        simp
    | succ index =>
        have beyond : ¬ number + (index + 1) ≤ number := by omega
        simp [beyond]

theorem cons (traced : Traced editor parse initial (number + 1) last next)
    (awaits : Awaits editor parse initial number buffer) (leaves : editor.Leaves number buffer text)
    (before : number ≤ last) :
    Traced editor parse initial number last
      { next with shown := Utf8.encode buffer :: next.shown, parsed := text :: next.parsed } where
  shown := by
    intro index bytes
    cases index with
    | zero =>
        rw [Nat.add_zero, awaits.exists_iff]
        simp [before, eq_comm]
    | succ index =>
        rw [← Nat.add_assoc, Nat.add_right_comm]
        exact traced.shown index bytes
  parsed := by
    intro index other
    cases index with
    | zero =>
        rw [Nat.add_zero, awaits.exists_iff]
        simp [before, leaves.eq_iff]
    | succ index =>
        rw [← Nat.add_assoc, Nat.add_right_comm]
        exact traced.parsed index other

end Traced

theorem editFrom_ends {more : Nat} (awaits : Awaits editor parse initial number buffer)
    (left : number + more + 1 = sessions) :
    ∃ last final, number ≤ last ∧ last < sessions ∧ Awaits editor parse initial last final ∧
      Ends editor parse sessions last final (editFrom editor parse sessions more number buffer).result ∧
      Traced editor parse initial number last (editFrom editor parse sessions more number buffer) := by
  -- A session at which the loop ends is the last one. After any other one the next is
  -- waited for, and the buffers and texts of the rest of the loop stand behind its own.
  fun_induction editFrom editor parse sessions more number buffer with
  | case1 more number buffer shown failure found =>
      have fails := fails_of_text_eq_error found
      refine ⟨number, buffer, Nat.le_refl _, by omega, awaits, .failed fails,
        .single awaits rfl fun index text => ?_⟩
      simp [fails.not_leaves]
  | case2 more number buffer shown text found value accepted =>
      have leaves := text_eq_ok_iff.mp found
      exact ⟨number, buffer, Nat.le_refl _, by omega, awaits, .accepted leaves accepted,
        .single awaits rfl (leaves.getElem?_singleton)⟩
  | case3 number buffer shown text found error refused =>
      have leaves := text_eq_ok_iff.mp found
      exact ⟨number, buffer, Nat.le_refl _, by omega, awaits, .rejected leaves refused (by omega),
        .single awaits rfl (leaves.getElem?_singleton)⟩
  | case4 number buffer shown text found error refused more next ih =>
      have leaves := text_eq_ok_iff.mp found
      obtain ⟨last, final, after, within, reached, ends, traced⟩ :=
        ih (.again awaits leaves refused) (by omega)
      have before := Nat.le_of_succ_le after
      exact ⟨last, final, before, within, reached, ends, traced.cons awaits leaves before⟩

theorem editPlan_ends (editor : Editor) (attempts : Nat) (parse : Text → Except PlanError α)
    (initial : Text) :
    ∃ last final, last < max attempts 1 ∧ Awaits editor parse initial last final ∧
      Ends editor parse (max attempts 1) last final (editPlan editor attempts parse initial).result ∧
      Traced editor parse initial 0 last (editPlan editor attempts parse initial) := by
  obtain ⟨last, final, _, within, reached, ends, traced⟩ :=
    editFrom_ends (.start : Awaits editor parse initial 0 initial)
      (show 0 + (max attempts 1 - 1) + 1 = max attempts 1 by omega)
  exact ⟨last, final, within, reached, ends, traced⟩

theorem editPlan_result_iff {attempts : Nat} :
    (editPlan editor attempts parse initial).result = result ↔
      ∃ number buffer, number < max attempts 1 ∧ Awaits editor parse initial number buffer ∧
        Ends editor parse (max attempts 1) number buffer result := by
  obtain ⟨last, final, within, reached, ends, _⟩ :=
    editPlan_ends editor attempts parse initial
  constructor
  · rintro rfl
    exact ⟨last, final, within, reached, ends⟩
  · rintro ⟨number, buffer, inside, awaits, endsThere⟩
    -- Two sessions that both end the loop are one, since neither is refused.
    have atMost := ends.le_of_awaits reached inside awaits
    have atLeast := endsThere.le_of_awaits awaits within reached
    obtain rfl : number = last := Nat.le_antisymm atMost atLeast
    obtain rfl := awaits.unique reached
    exact ends.unique endsThere

theorem held_iff {holds : Text → Prop} (within : last < sessions)
    (reached : Awaits editor parse initial last final)
    (ends : Ends editor parse sessions last final result) :
    (number ≤ last ∧ ∃ buffer, Awaits editor parse initial number buffer ∧ holds buffer) ↔
      number < sessions ∧ ∃ buffer, Awaits editor parse initial number buffer ∧ holds buffer := by
  constructor
  · rintro ⟨held, some⟩
    exact ⟨by omega, some⟩
  · rintro ⟨inside, buffer, awaits, holding⟩
    exact ⟨ends.le_of_awaits reached inside awaits, buffer, awaits, holding⟩

end Machine

/-- What editing in at most so many sessions shows, parses and comes to. -/
structure Edited.Follows {α : Type} (editor : Editor) (parse : Text → Except PlanError α)
    (initial : Text) (sessions : Nat) (edited : Edited α) : Prop where
  bounded : edited.shown.length ≤ sessions
  /-- The sessions held are those that are waited for, each with the buffer for it. -/
  shown : ∀ number bytes, edited.shown[number]? = some bytes ↔
    number < sessions ∧ ∃ buffer, Awaits editor parse initial number buffer ∧
      bytes = Utf8.encode buffer
  /-- Each session that leaves a text has it parsed once. -/
  parsed : ∀ number text, edited.parsed[number]? = some text ↔
    number < sessions ∧ ∃ buffer, Awaits editor parse initial number buffer ∧
      editor.Leaves number buffer text
  accepted : ∀ value, edited.result = .ok value ↔
    ∃ number buffer, number < sessions ∧ Awaits editor parse initial number buffer ∧
      ∃ text, editor.Leaves number buffer text ∧ parse text = .ok value
  rejected : ∀ attempts error, edited.result = .error (.rejected attempts error) ↔
    attempts = sessions ∧ ∃ number buffer, number + 1 = sessions ∧
      Awaits editor parse initial number buffer ∧
      ∃ text, editor.Leaves number buffer text ∧ parse text = .error error
  editorFailed : ∀ command status, edited.result = .error (.editorFailed command status) ↔
    ∃ number buffer, number < sessions ∧ Awaits editor parse initial number buffer ∧
      command = editor.command ∧ status ≠ 0 ∧
      (editor.session number (Utf8.encode buffer)).status = status
  unreadable : ∀ cause, edited.result = .error (.buffer cause) ↔
    ∃ number buffer, number < sessions ∧ Awaits editor parse initial number buffer ∧
      (editor.session number (Utf8.encode buffer)).status = 0 ∧
      (((editor.session number (Utf8.encode buffer)).left = none ∧ cause = .notFound) ∨
        ∃ bytes, (editor.session number (Utf8.encode buffer)).left = some bytes ∧
          Utf8.decode? bytes = none ∧ cause = .notText)

/-- Editing holds the sessions of the machine, at least one and at most as many as were
asked for, and comes to what the last of them decides. -/
theorem editPlan_follows {α : Type} (editor : Editor) (attempts : Nat)
    (parse : Text → Except PlanError α) (initial : Text) :
    (editPlan editor attempts parse initial).Follows editor parse initial (max attempts 1) := by
  obtain ⟨last, final, within, reached, ends, traced⟩ :=
    editPlan_ends editor attempts parse initial
  have shown : ∀ number bytes,
      (editPlan editor attempts parse initial).shown[number]? = some bytes ↔
        number < max attempts 1 ∧ ∃ buffer, Awaits editor parse initial number buffer ∧
          bytes = Utf8.encode buffer := by
    intro number bytes
    rw [traced.shown, Nat.zero_add, held_iff within reached ends]
  refine ⟨?_, shown, ?_, ?_, ?_, ?_, ?_⟩
  · rw [← List.getElem?_eq_none_iff, Option.eq_none_iff_forall_not_mem]
    intro bytes present
    exact Nat.lt_irrefl _ ((shown _ _).mp present).1
  · intro number text
    rw [traced.parsed, Nat.zero_add, held_iff within reached ends]
  · intro value
    simp only [editPlan_result_iff, Ends.ok_iff]
  · intro asked error
    simp only [editPlan_result_iff, Ends.rejected_iff]
    constructor
    · rintro ⟨number, buffer, _, awaits, rfl, noMore, refused⟩
      exact ⟨rfl, number, buffer, noMore, awaits, refused⟩
    · rintro ⟨rfl, number, buffer, noMore, awaits, refused⟩
      exact ⟨number, buffer, by omega, awaits, rfl, noMore, refused⟩
  · intro command status
    simp only [editPlan_result_iff, Ends.editorFailed_iff]
  · intro cause
    simp only [editPlan_result_iff, Ends.unreadable_iff]

end CuratedHistory
