import CuratedHistory.Text.Decimal
import CuratedHistory.Plan.Range
import CuratedHistory.Repository.Basic
import CuratedHistory.Repository.Error
import CuratedHistory.Repository.MessageSearch

namespace CuratedHistory

/-! Expressions that name commits: a start, and steps that lead on from it. Most
starts are names. A name is a hash, a reference or the start of a hash, in this
order. Plan lines may use hashes only. -/

/-- A step from the object that an expression has reached. -/
inductive RevisionStep where
  /-- The parent with a number counted from one, or the commit itself for zero. -/
  | parent (number : Nat)
  /-- The commit that many first parents back. -/
  | firstParents (count : Nat)
  /-- The object that a tag stands for. -/
  | untagged
  | commit
  | tag
  /-- The latest commit, from here back, whose message matches. -/
  | latestMatch (pattern : Text)
  /-- No commit can come of this. -/
  | refused
  deriving DecidableEq, Repr

/-- Where an expression starts. -/
inductive RevisionStart where
  | name (name : Text)
  /-- What a reference stood for at a time, or after a number of changes. -/
  | entry (name selector : Text)
  /-- The latest commit of all references whose message matches. -/
  | latestMatch (pattern : Text)
  | refused
  deriving DecidableEq, Repr

structure Revision where
  start : RevisionStart
  steps : List RevisionStep
  deriving DecidableEq, Repr

namespace Revision

/-- The number at the start of a text, one if no digit is there, and the rest. -/
def countAt (text : Text) : Nat × Text :=
  let digits := text.takeWhile Char.isDigit
  (if digits = [] then 1 else Decimal.value digits, text.drop digits.length)

def stepOfWord (word : Text) : RevisionStep :=
  if word = [] then .untagged
  else if word = "commit".toList then .commit
  else if word = "tag".toList then .tag
  else
    match word with
    | '/' :: pattern => .latestMatch pattern
    | _ => .refused

/-- Reads the steps after a name. Nothing that follows a refused step matters. -/
def stepsOf (text : Text) : List RevisionStep :=
  match text with
  | [] => []
  | '^' :: '\x7b' :: rest =>
      if rest.contains '\x7d' then
        stepOfWord (rest.takeWhile (· ≠ '\x7d')) ::
          stepsOf ((rest.dropWhile (· ≠ '\x7d')).drop 1)
      else [.refused]
  | '^' :: rest => .parent (countAt rest).1 :: stepsOf (countAt rest).2
  | '~' :: rest => .firstParents (countAt rest).1 :: stepsOf (countAt rest).2
  | _ :: _ => [.refused]
termination_by text.length
decreasing_by
  · have le := (List.dropWhile_sublist (l := rest) (· ≠ '\x7d')).length_le
    simp only [List.length_drop, List.length_cons]
    omega
  all_goals
    simp only [countAt, List.length_drop, List.length_cons]
    omega

/-- The name at the start of a text, up to a mark, and the rest. -/
def nameAt : Text → Text × Text
  | [] => ([], [])
  | '@' :: '\x7b' :: rest => ([], '@' :: '\x7b' :: rest)
  | c :: rest =>
      if c = '^' ∨ c = '~' ∨ c = ':' then ([], c :: rest)
      else (c :: (nameAt rest).1, (nameAt rest).2)

def ofText (text : Text) : Revision :=
  match nameAt text with
  | (name, '@' :: '\x7b' :: rest) =>
      if rest.contains '\x7d' then
        { start := .entry name (rest.takeWhile (· ≠ '\x7d'))
          steps := stepsOf ((rest.dropWhile (· ≠ '\x7d')).drop 1) }
      else { start := .refused, steps := [] }
  | ([], ':' :: '/' :: pattern) => { start := .latestMatch pattern, steps := [] }
  | ([], _) => { start := .refused, steps := [] }
  | (name, rest) => { start := .name name, steps := stepsOf rest }

end Revision

namespace Repository

/-- What a name leads to. -/
inductive Object where
  | commit (hash : Text)
  /-- A tag object that stands for a commit. -/
  | tag (target : Text)
  | content
  deriving DecidableEq, Repr

def hashLength : Nat := 40

/-- The fewest digits that can stand for a hash. -/
def fewestDigits : Nat := 4

def isHex (text : Text) : Bool :=
  text ≠ [] && text.all isHexDigit

def exactObject? (repository : Repository) (hash : Text) : Option Object :=
  if repository.hashes.contains hash then some (.commit hash)
  else if repository.contentHashes.contains hash then some .content
  else none

def exactHash? (repository : Repository) (text : Text) : Option Object :=
  if isHex text ∧ text.length = hashLength then repository.exactObject? (Text.lower text)
  else none

/-- The object whose hash starts with the given digits. -/
def objectByStart (repository : Repository) (digits : Text) : Except LookupError Object :=
  if digits.length < fewestDigits then .error .ambiguous
  else
    match resolveAmong (PlanRange.distinct (repository.hashes ++ repository.contentHashes))
        (Text.lower digits) with
    | .error error => .error error
    | .ok hash => ((repository.exactObject? hash).map .ok).getD (.error .notFound)

/-- The names in full that a shorter name may stand for, in the order of search. -/
def fullNames (name : Text) : List Text :=
  ["", "refs/", "refs/tags/", "refs/heads/", "refs/remotes/"].map (·.toList ++ name) ++
    ["refs/remotes/".toList ++ name ++ "/HEAD".toList]

def reference? (repository : Repository) (name : Text) : Option Object :=
  (repository.references.find? (·.name == name)).map fun reference =>
    if reference.annotated then .tag reference.target else .commit reference.target

def headName : Text := "HEAD".toList

/-- The object of the head, if there is one yet. A head is never a tag. -/
def headObject? (repository : Repository) : Option Object :=
  match repository.head with
  | none => none
  | some (.commit hash) => some (.commit hash)
  | some (.reference name) =>
      (repository.references.find? (·.name == name)).map fun reference =>
        .commit reference.target

def objectAt? (repository : Repository) (full : Text) : Option Object :=
  if full = headName then repository.headObject? else repository.reference? full

def objectByName? (repository : Repository) (name : Text) : Option Object :=
  (fullNames name).findSome? repository.objectAt?

def startsHash (piece : Text) : Bool :=
  piece.head? = some 'g'

/-- The digits at the end of a name that describes a commit: another name, a
count, and a hash with a letter in front of it, with dashes between them. -/
def describedHash? (name : Text) : Option Text :=
  match (Text.pieces '-' name).reverse with
  | ('g' :: digits) :: count :: earlier =>
      if isHex digits ∧ (Decimal.read? count).isSome ∧ earlier ≠ [] ∧ earlier ≠ [[]] ∧
          !earlier.dropLast.any startsHash then
        some digits
      else none
  | _ => none

/-- Whether a piece of a name can stand between the separators of a reference. -/
def isReferencePiece (piece : Text) : Bool :=
  piece ≠ [] && piece.head? ≠ some '.' &&
    piece.all (fun c => ' ' < c && !("~^:\\?[*".toList.contains c)) &&
    (piece.zip piece.tail).all (fun (first, second) =>
      !(first = '.' && second = '.') && !(first = '@' && second = '\x7b')) &&
    !(".lock".toList.isSuffixOf piece)

def isReferenceName (name : Text) : Bool :=
  (Text.pieces '/' name).all isReferencePiece

def objectByHex (repository : Repository) (digits : Text) : Except LookupError Object :=
  if isHex digits ∧ digits.length ≤ hashLength then repository.objectByStart digits
  else .error .notFound

def object (repository : Repository) (name : Text) : Except LookupError Object :=
  let shown := if name = ['@'] then headName else name
  match (repository.exactHash? name).or (repository.objectByName? shown) with
  | some object => .ok object
  | none =>
      if isHex name then repository.objectByHex name
      else
        match (if isReferenceName name then describedHash? name else none) with
        | some digits => repository.objectByHex digits
        | none => .error .notFound

def selectedNumber? (selector : Text) : Option Int :=
  let unsigned (text : Text) : Option Nat :=
    let digits := text.takeWhile Char.isDigit
    if digits = [] then none else some (Decimal.value digits)
  match selector.dropWhile fun c => c == ' ' || ('\t' ≤ c && c ≤ '\r') with
  | '-' :: rest => (unsigned rest).map fun n => -(n : Int)
  | '+' :: rest => (unsigned rest).map fun n => (n : Int)
  | rest => (unsigned rest).map fun n => (n : Int)

/-- The words for times at which a branch had the value that it has. -/
def timeWords : List Text :=
  ["now", "yesterday", "noon", "midnight", "tea", "never"].map String.toList

def isRecorded (name : Text) : Bool :=
  name = headName || "refs/heads/".toList.isPrefixOf name ||
    "refs/remotes/".toList.isPrefixOf name

/-- What a reference stood for, as far as it is known: references have one value. -/
def entry? (repository : Repository) (name selector : Text) : Option Object := do
  let full ← (if name = [] ∨ name = ['@'] then [headName] else fullNames name).find? fun full =>
    (repository.objectAt? full).isSome
  match selectedNumber? selector with
  | some number =>
      if number = 0 ∧ selector.head? ≠ some '-' then repository.objectAt? full else none
  | none =>
      if timeWords.contains (Text.lower selector) ∧ isRecorded full then
        repository.objectAt? full
      else none

def commitOf? (repository : Repository) : Object → Option StoredCommit
  | .commit hash => repository.find? hash
  | .tag target => repository.find? target
  | .content => none

def firstParentsBack? (repository : Repository) : Nat → StoredCommit → Option StoredCommit
  | 0, commit => some commit
  | count + 1, commit => do
      let parent ← commit.parents.head?
      repository.firstParentsBack? count (← repository.find? parent)

def parent? (repository : Repository) (number : Nat) (commit : StoredCommit) :
    Option StoredCommit :=
  match number with
  | 0 => some commit
  | index + 1 => do repository.find? (← commit.parents[index]?)

def step? (repository : Repository) (object : Object) : RevisionStep → Option Object
  | .parent number => do
      let commit ← repository.parent? number (← repository.commitOf? object)
      return .commit commit.hash
  | .firstParents count => do
      let commit ← repository.firstParentsBack? count (← repository.commitOf? object)
      return .commit commit.hash
  | .untagged =>
      match object with
      | .tag target => some (.commit target)
      | _ => some object
  | .commit => do return .commit (← repository.commitOf? object).hash
  | .tag =>
      match object with
      | .tag _ => some object
      | _ => none
  | .latestMatch pattern => do
      let commit ← repository.commitOf? object
      return .commit (← repository.latestMatch? [commit.hash] pattern).hash
  | .refused => none

def startObject (repository : Repository) : RevisionStart → Except LookupError Object
  | .name name => repository.object name
  | .entry name selector => ((repository.entry? name selector).map .ok).getD (.error .notFound)
  | .latestMatch pattern =>
      match repository.latestMatch? repository.namedCommits pattern with
      | some commit => .ok (.commit commit.hash)
      | none => .error .notFound
  | .refused => .error .notFound

def revision (repository : Repository) (text : Text) : Except RepositoryError StoredCommit :=
  let expression := Revision.ofText text
  if '\x00' ∈ text then .error (.invalidReference text)
  else
    match repository.startObject expression.start with
    | .error .ambiguous => .error (.ambiguousReference text)
    | .error .notFound => .error (.invalidReference text)
    | .ok object =>
        match (expression.steps.foldlM repository.step? object).bind repository.commitOf? with
        | some commit => .ok commit
        | none => .error (.invalidReference text)

/-- The commit that a hash, or the start of one, names. References play no part. -/
def resolve (repository : Repository) (text : Text) : Except RepositoryError Text :=
  let found :=
    if Text.byteLength text = hashLength then
      match repository.exactHash? text with
      | some object => .ok object
      | none => .error .notFound
    else repository.objectByHex text
  match found with
  | .ok (.commit hash) => .ok hash
  | .error .ambiguous => .error (.ambiguousReference text)
  | _ => .error (.invalidReference text)

def resolver (repository : Repository) : Resolver := fun hash =>
  match repository.resolve hash with
  | .ok hash => .ok hash
  | .error (.ambiguousReference _) => .error .ambiguous
  | .error _ => .error .notFound

end Repository

end CuratedHistory
