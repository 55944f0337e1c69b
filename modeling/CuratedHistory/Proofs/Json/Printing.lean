import CuratedHistory.Json.Printer
import CuratedHistory.Proofs.Text.Decimal

namespace CuratedHistory.Json

/-! Printed JSON says which value was printed, whatever is printed behind it. Numbers that are
kept as they are written are left out, as they may be any text. -/

variable {level : Nat} {c d : Char} {text other rest following : Text} {json : Json}

/-! Quoted texts -/

def hexValue (c : Char) : Nat :=
  if c.toNat < 58 then c.toNat - 48 else c.toNat - 87

/-- The character that stands at the beginning of a quoted text, and what follows. -/
def unescape : Text → Option (Char × Text)
  | '\\' :: '"' :: rest => some ('"', rest)
  | '\\' :: '\\' :: rest => some ('\\', rest)
  | '\\' :: 'n' :: rest => some ('\n', rest)
  | '\\' :: 'r' :: rest => some ('\r', rest)
  | '\\' :: 't' :: rest => some ('\t', rest)
  | '\\' :: 'b' :: rest => some ('\x08', rest)
  | '\\' :: 'f' :: rest => some ('\x0c', rest)
  | '\\' :: 'u' :: '0' :: '0' :: high :: low :: rest =>
      some (Char.ofNat (16 * hexValue high + hexValue low), rest)
  | c :: rest => some (c, rest)
  | [] => none

theorem unescape_escape (c : Char) (rest : Text) : unescape (escape c ++ rest) = some (c, rest) := by
  by_cases quote : c = '"'
  · subst quote; rfl
  by_cases backslash : c = '\\'
  · subst backslash; rfl
  by_cases feed : c = '\n'
  · subst feed; rfl
  by_cases carriage : c = '\r'
  · subst carriage; rfl
  by_cases tab : c = '\t'
  · subst tab; rfl
  by_cases back : c = '\x08'
  · subst back; rfl
  by_cases page : c = '\x0c'
  · subst page; rfl
  by_cases control : c.toNat < 32
  · have written : ∀ n < 32, 16 * hexValue (hexDigit (n / 16)) + hexValue (hexDigit (n % 16)) = n := by
      decide
    have escaped : escape c = ['\\', 'u', '0', '0', hexDigit (c.toNat / 16), hexDigit (c.toNat % 16)] := by
      simp [escape, quote, backslash, feed, carriage, tab, back, page, control]
    rw [escaped]
    exact congrArg (fun code => some (code, rest))
      ((congrArg Char.ofNat (written c.toNat control)).trans (Char.ofNat_toNat c))
  · have plain : escape c = [c] := by
      simp [escape, quote, backslash, feed, carriage, tab, back, page, control]
    rw [plain, List.singleton_append, unescape]
    all_goals simp [backslash]

theorem escape_ne_quote (c : Char) (tail : Text) : escape c ++ tail ≠ '"' :: rest := by
  intro same
  have read := unescape_escape c tail
  have quote : unescape ('"' :: rest) = some ('"', rest) := rfl
  rw [same, quote, Option.some.injEq, Prod.mk.injEq] at read
  rw [← read.1] at same
  exact absurd (List.cons.inj same).1 (by decide)

theorem escapes_append_injective
    (same : text.flatMap escape ++ '"' :: rest = other.flatMap escape ++ '"' :: following) :
    text = other ∧ rest = following := by
  induction text generalizing other with
  | nil =>
      cases other with
      | nil => exact ⟨rfl, (List.cons.inj same).2⟩
      | cons d other =>
          rw [List.flatMap_cons, List.append_assoc] at same
          exact absurd same.symm (escape_ne_quote d _)
  | cons c text ih =>
      rw [List.flatMap_cons, List.append_assoc] at same
      cases other with
      | nil => exact absurd same (escape_ne_quote c _)
      | cons d other =>
          rw [List.flatMap_cons, List.append_assoc] at same
          have read := congrArg unescape same
          rw [unescape_escape, unescape_escape, Option.some.injEq, Prod.mk.injEq] at read
          obtain ⟨rfl, tails⟩ := read
          obtain ⟨rfl, rests⟩ := ih tails
          exact ⟨rfl, rests⟩

theorem quoted_append_injective (same : quoted text ++ rest = quoted other ++ following) :
    text = other ∧ rest = following := by
  refine escapes_append_injective (List.cons.inj (?_ : '"' :: _ = '"' :: _)).2
  simpa [quoted] using same

/-! Values -/

/-- No number in the value is kept as it is written. -/
inductive Exact : Json → Prop where
  | null : Exact .null
  | boolean (value : Bool) : Exact (.boolean value)
  | number (value : Int) : Exact (.number value)
  | string (value : Text) : Exact (.string value)
  | array {items : List Json} (inner : ∀ item ∈ items, Exact item) : Exact (.array items)
  | object {members : List (Text × Json)} (inner : ∀ member ∈ members, Exact member.2) :
      Exact (.object members)

/-- The characters that a value of one kind begins with are taken as one. -/
def sort (c : Char) : Char :=
  if c = 'f' then 't' else if c = '-' ∨ c.isDigit then '0' else c

def sortOf : Json → Char
  | .null => 'n'
  | .boolean _ => 't'
  | .number _ => '0'
  | .fraction _ => '.'
  | .string _ => '"'
  | .array _ => '['
  | .object _ => '\x7b'

theorem exists_pretty_cons (level : Nat) (exact : json.Exact) :
    ∃ c tail, pretty level json = c :: tail ∧ sort c = sortOf json := by
  cases exact with
  | null => exact ⟨_, _, rfl, (by decide : sort 'n' = 'n')⟩
  | boolean value =>
      cases value with
      | false => exact ⟨_, _, rfl, (by decide : sort 'f' = 't')⟩
      | true => exact ⟨_, _, rfl, (by decide : sort 't' = 't')⟩
  | number value =>
      cases value with
      | ofNat n =>
          obtain ⟨c, tail, written⟩ := List.exists_cons_of_ne_nil (Decimal.digits_ne_nil n)
          have digit : c.isDigit = true := Decimal.isDigit_of_mem (written ▸ List.mem_cons_self)
          have other : c ≠ 'f' := by
            rintro rfl
            exact absurd digit (by decide)
          exact ⟨c, tail, by rw [pretty, Decimal.signed, written], by simp [sort, other, digit, sortOf]⟩
      | negSucc n => exact ⟨_, _, rfl, (by decide : sort '-' = '0')⟩
  | string value => exact ⟨_, _, rfl, (by decide : sort '"' = '"')⟩
  | @array items _ => cases items <;> exact ⟨_, _, rfl, (by decide : sort '[' = '[')⟩
  | @object members _ => cases members <;> exact ⟨_, _, rfl, (by decide : sort '\x7b' = '\x7b')⟩

theorem sortOf_eq {one another : Json} (exact : one.Exact) (exactToo : another.Exact)
    (same : pretty level one ++ rest = pretty level another ++ following) :
    sortOf one = sortOf another := by
  obtain ⟨c, tail, written, isSort⟩ := exists_pretty_cons level exact
  obtain ⟨d, tailToo, writtenToo, isSortToo⟩ := exists_pretty_cons level exactToo
  rw [written, writtenToo, List.cons_append, List.cons_append] at same
  rw [← isSort, ← isSortToo, (List.cons.inj same).1]

theorem ends_newLine (level : Nat) (rest : Text) : Decimal.Ends (newLine level ++ rest) := by
  rintro c ⟨rfl⟩
  decide

theorem ends_comma (rest : Text) : Decimal.Ends (',' :: rest) := by
  rintro c ⟨rfl⟩
  decide

/-- Behind an item stands the next one, or the end of the list. -/
theorem ends_prettyItems (level close : Nat) (items : List Json) (rest : Text) :
    Decimal.Ends (prettyItems level items ++ (newLine close ++ rest)) := by
  cases items with
  | nil => exact ends_newLine close rest
  | cons item items => exact ends_comma _

theorem ends_prettyMembers (level close : Nat) (members : List (Text × Json)) (rest : Text) :
    Decimal.Ends (prettyMembers level members ++ (newLine close ++ rest)) := by
  cases members with
  | nil => exact ends_newLine close rest
  | cons member members => exact ends_comma _

theorem exact_items {items : List Json} (exact : (array items).Exact) : ∀ item ∈ items, item.Exact := by
  cases exact with
  | array inner => exact inner

theorem exact_members {members : List (Text × Json)} (exact : (object members).Exact) :
    ∀ member ∈ members, member.2.Exact := by
  cases exact with
  | object inner => exact inner

theorem pretty_array_append (level : Nat) (item : Json) (items : List Json) (rest : Text) :
    pretty level (.array (item :: items)) ++ rest =
      ('[' :: newLine (level + 1)) ++
        (pretty (level + 1) item ++ (prettyItems (level + 1) items ++ (newLine level ++ ']' :: rest))) := by
  simp [pretty]

theorem prettyItems_cons_append (level : Nat) (item : Json) (items : List Json) (rest : Text) :
    prettyItems level (item :: items) ++ rest =
      (',' :: newLine level) ++ (pretty level item ++ (prettyItems level items ++ rest)) := by
  simp [prettyItems]

theorem pretty_object_append (level : Nat) (member : Text × Json) (members : List (Text × Json))
    (rest : Text) :
    pretty level (.object (member :: members)) ++ rest =
      ('\x7b' :: newLine (level + 1)) ++ (prettyMember (level + 1) member ++
        (prettyMembers (level + 1) members ++ (newLine level ++ '\x7d' :: rest))) := by
  simp [pretty]

theorem prettyMembers_cons_append (level : Nat) (member : Text × Json) (members : List (Text × Json))
    (rest : Text) :
    prettyMembers level (member :: members) ++ rest =
      (',' :: newLine level) ++ (prettyMember level member ++ (prettyMembers level members ++ rest)) := by
  simp [prettyMembers]

theorem prettyMember_append (level : Nat) (name : Text) (value : Json) (rest : Text) :
    prettyMember level (name, value) ++ rest = quoted name ++ (": ".toList ++ (pretty level value ++ rest)) := by
  simp [prettyMember]

mutual

/-- A value is cut off the front of a text in one way only, if no digit stands behind it. -/
theorem pretty_append_injective (level : Nat) (rest following : Text) : ∀ json other : Json,
    json.Exact → other.Exact → Decimal.Ends rest → Decimal.Ends following →
      pretty level json ++ rest = pretty level other ++ following → json = other ∧ rest = following
  | .null, other, exact, exactToo, _, _, same => by
      have sorts := sortOf_eq exact exactToo same
      cases other with
      | null => exact ⟨rfl, List.append_cancel_left same⟩
      | _ => simp [sortOf] at sorts
  | .boolean value, other, exact, exactToo, _, _, same => by
      have sorts := sortOf_eq exact exactToo same
      cases other with
      | boolean another =>
          cases value <;> cases another <;> simp [pretty] at same ⊢ <;> exact same
      | _ => simp [sortOf] at sorts
  | .number value, other, exact, exactToo, ends, endsToo, same => by
      have sorts := sortOf_eq exact exactToo same
      cases other with
      | number another =>
          rw [pretty, pretty] at same
          obtain ⟨rfl, rests⟩ := Decimal.signed_append_injective ends endsToo same
          exact ⟨rfl, rests⟩
      | _ => simp [sortOf] at sorts
  | .fraction _, _, exact, _, _, _, _ => by cases exact
  | .string value, other, exact, exactToo, _, _, same => by
      have sorts := sortOf_eq exact exactToo same
      cases other with
      | string another =>
          rw [pretty, pretty] at same
          obtain ⟨rfl, rests⟩ := quoted_append_injective same
          exact ⟨rfl, rests⟩
      | _ => simp [sortOf] at sorts
  | .array items, other, exact, exactToo, _, _, same => by
      have sorts := sortOf_eq exact exactToo same
      cases other with
      | array others =>
          match items, others with
          | [], [] => exact ⟨rfl, List.append_cancel_left same⟩
          | [], _ :: _ => simp [pretty, newLine] at same
          | _ :: _, [] => simp [pretty, newLine] at same
          | item :: items, other :: others =>
              have inner := List.forall_mem_cons.mp (exact_items exact)
              have innerToo := List.forall_mem_cons.mp (exact_items exactToo)
              rw [pretty_array_append, pretty_array_append] at same
              obtain ⟨rfl, tails⟩ := pretty_append_injective (level + 1) _ _ item other inner.1 innerToo.1
                (ends_prettyItems _ _ _ _) (ends_prettyItems _ _ _ _) (List.append_cancel_left same)
              obtain ⟨rfl, rests⟩ := prettyItems_append_injective (level + 1) level _ _ items others
                inner.2 innerToo.2 tails
              exact ⟨rfl, (List.cons.inj rests).2⟩
      | _ => simp [sortOf] at sorts
  | .object members, other, exact, exactToo, _, _, same => by
      have sorts := sortOf_eq exact exactToo same
      cases other with
      | object others =>
          match members, others with
          | [], [] => exact ⟨rfl, List.append_cancel_left same⟩
          | [], _ :: _ => simp [pretty, newLine] at same
          | _ :: _, [] => simp [pretty, newLine] at same
          | member :: members, other :: others =>
              have inner := List.forall_mem_cons.mp (exact_members exact)
              have innerToo := List.forall_mem_cons.mp (exact_members exactToo)
              rw [pretty_object_append, pretty_object_append] at same
              obtain ⟨rfl, tails⟩ := prettyMember_append_injective (level + 1) _ _ member other
                inner.1 innerToo.1 (ends_prettyMembers _ _ _ _) (ends_prettyMembers _ _ _ _)
                (List.append_cancel_left same)
              obtain ⟨rfl, rests⟩ := prettyMembers_append_injective (level + 1) level _ _ members others
                inner.2 innerToo.2 tails
              exact ⟨rfl, (List.cons.inj rests).2⟩
      | _ => simp [sortOf] at sorts
termination_by structural json => json

theorem prettyItems_append_injective (level close : Nat) (rest following : Text) :
    ∀ items others : List Json, (∀ item ∈ items, item.Exact) → (∀ item ∈ others, item.Exact) →
      prettyItems level items ++ (newLine close ++ rest) =
        prettyItems level others ++ (newLine close ++ following) → items = others ∧ rest = following
  | [], [], _, _, same => ⟨rfl, List.append_cancel_left same⟩
  | [], _ :: _, _, _, same => by simp [prettyItems, newLine] at same
  | _ :: _, [], _, _, same => by simp [prettyItems, newLine] at same
  | item :: items, other :: others, exact, exactToo, same => by
      rw [List.forall_mem_cons] at exact exactToo
      rw [prettyItems_cons_append, prettyItems_cons_append] at same
      obtain ⟨rfl, tails⟩ := pretty_append_injective level _ _ item other exact.1 exactToo.1
        (ends_prettyItems _ _ _ _) (ends_prettyItems _ _ _ _) (List.append_cancel_left same)
      obtain ⟨rfl, rests⟩ := prettyItems_append_injective level close _ _ items others
        exact.2 exactToo.2 tails
      exact ⟨rfl, rests⟩
termination_by structural items => items

theorem prettyMember_append_injective (level : Nat) (rest following : Text) :
    ∀ member other : Text × Json, member.2.Exact → other.2.Exact →
      Decimal.Ends rest → Decimal.Ends following →
      prettyMember level member ++ rest = prettyMember level other ++ following →
        member = other ∧ rest = following
  | (_, value), (_, another), exact, exactToo, ends, endsToo, same => by
      rw [prettyMember_append, prettyMember_append] at same
      obtain ⟨rfl, tails⟩ := quoted_append_injective same
      obtain ⟨rfl, rests⟩ := pretty_append_injective level _ _ value another exact exactToo
        ends endsToo (List.append_cancel_left tails)
      exact ⟨rfl, rests⟩
termination_by structural member => member

theorem prettyMembers_append_injective (level close : Nat) (rest following : Text) :
    ∀ members others : List (Text × Json), (∀ member ∈ members, member.2.Exact) →
      (∀ member ∈ others, member.2.Exact) →
      prettyMembers level members ++ (newLine close ++ rest) =
        prettyMembers level others ++ (newLine close ++ following) →
          members = others ∧ rest = following
  | [], [], _, _, same => ⟨rfl, List.append_cancel_left same⟩
  | [], _ :: _, _, _, same => by simp [prettyMembers, newLine] at same
  | _ :: _, [], _, _, same => by simp [prettyMembers, newLine] at same
  | member :: members, other :: others, exact, exactToo, same => by
      rw [List.forall_mem_cons] at exact exactToo
      rw [prettyMembers_cons_append, prettyMembers_cons_append] at same
      obtain ⟨rfl, tails⟩ := prettyMember_append_injective level _ _ member other exact.1 exactToo.1
        (ends_prettyMembers _ _ _ _) (ends_prettyMembers _ _ _ _) (List.append_cancel_left same)
      obtain ⟨rfl, rests⟩ := prettyMembers_append_injective level close _ _ members others
        exact.2 exactToo.2 tails
      exact ⟨rfl, rests⟩
termination_by structural members => members

end

end CuratedHistory.Json
