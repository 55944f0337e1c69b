import CuratedHistory.Repository.Basic
import CuratedHistory.Text.RegexReader

namespace CuratedHistory

/-! The latest commit whose message matches an expression. Commits are collected from
some of them on along their parents, and are then taken latest first; among commits
of one time a heap decides, whose order depends on nothing but the collection. -/

/-- A heap of commits, in which no commit is earlier than the ones below it. -/
abbrev CommitHeap := Array StoredCommit

namespace CommitHeap

def isEarlier (heap : CommitHeap) (first second : Nat) : Bool :=
  match heap[first]?, heap[second]? with
  | some one, some other => one.time < other.time
  | _, _ => false

def raise (heap : CommitHeap) (place : Nat) : CommitHeap :=
  if _h : 0 < place then
    let above := (place - 1) / 2
    if heap.isEarlier above place then CommitHeap.raise (heap.swapIfInBounds above place) above
    else heap
  else heap
termination_by place
decreasing_by omega

/-- Moves a commit down past the later ones below it. The fuel is the height. -/
def lower : Nat → CommitHeap → Nat → CommitHeap
  | 0, heap, _ => heap
  | fuel + 1, heap, place =>
      let left := 2 * place + 1
      let below := if heap.isEarlier left (left + 1) then left + 1 else left
      if heap.isEarlier place below then
        lower fuel (heap.swapIfInBounds place below) below
      else heap

def insert (heap : CommitHeap) (commit : StoredCommit) : CommitHeap :=
  CommitHeap.raise (heap.push commit) heap.size

/-- The heap without its top. -/
def withoutTop (heap : CommitHeap) : CommitHeap :=
  lower heap.size (heap.swapIfInBounds 0 (heap.size - 1)).pop 0

/-- The commits in the order in which they are taken, at most so many. -/
def drain : Nat → CommitHeap → List StoredCommit
  | 0, _ => []
  | count + 1, heap =>
      match heap[0]? with
      | none => []
      | some commit => commit :: drain count heap.withoutTop

end CommitHeap

namespace Repository

/-- Puts a commit before the first earlier one. -/
def insertByTime (commit : StoredCommit) : List StoredCommit → List StoredCommit
  | [] => [commit]
  | first :: rest =>
      if first.time < commit.time then commit :: first :: rest
      else first :: insertByTime commit rest

/-- The commits that are reached from pending ones, given those that have been seen.
The fuel is the number of commits. -/
def collect (repository : Repository) :
    Nat → List Text → List StoredCommit → List StoredCommit
  | 0, _, _ => []
  | _, _, [] => []
  | fuel + 1, seen, commit :: pending =>
      let fresh := (commit.parents.filter fun hash => !seen.contains hash).eraseDups
      commit :: repository.collect fuel (fresh ++ seen)
        ((fresh.filterMap repository.find?).foldl (fun pending parent =>
          insertByTime parent pending) pending)

/-- The commits that are reached from some of them, latest first. -/
def latestFirst (repository : Repository) (starts : List Text) : List StoredCommit :=
  let starts := starts.eraseDups
  let collected := repository.collect repository.commits.length starts
    (starts.filterMap repository.find?)
  CommitHeap.drain collected.length (collected.foldl CommitHeap.insert #[])

/-- The commits that references name, the last name first. -/
def namedCommits (repository : Repository) : List Text :=
  let under := repository.references.filter fun reference =>
    "refs/".toList.isPrefixOf reference.name
  ((under.mergeSort fun one other => Text.atMost one.name other.name).map
    Reference.target).reverse

/-- The latest commit, among those that are reached, whose message matches. An empty
expression matches none. -/
def latestMatch? (repository : Repository) (starts : List Text) (pattern : Text) :
    Option StoredCommit :=
  if pattern = [] then none
  else
    (Regex.ofText? .plain pattern).bind fun regex =>
      (repository.latestFirst starts).find? fun commit =>
        regex.matchesSomewhere
          (StoredCommit.beforeZero (commit.message.dropWhile (· = lineFeed)))

end Repository

end CuratedHistory
