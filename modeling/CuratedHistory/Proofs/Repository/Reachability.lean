import Mathlib.Logic.Relation
import CuratedHistory.Repository.Ancestry

namespace CuratedHistory

/-! The walk over all parents finds exactly the commits that chains of parents lead to.
A commit that has been taken out of the domain is not visited again. What it leads to is
not lost, since it was put on the list of pending commits at that moment. -/

section Reached

variable {α : Type} [DecidableEq α] {next : α → List α}

theorem reached_sound {domain pending : List α} {node : α}
    (found : node ∈ reached next domain pending) :
    node ∈ domain ∧
      ∃ start ∈ pending, Relation.ReflTransGen (fun earlier later => later ∈ next earlier) start node := by
  fun_induction reached next domain pending with
  | case1 => contradiction
  | case2 domain first pending member ih =>
      rcases List.mem_cons.1 found with rfl | rest
      · exact ⟨member, node, by simp, .refl⟩
      · obtain ⟨remains, start, begins, leads⟩ := ih rest
        refine ⟨List.mem_of_mem_erase remains, ?_⟩
        rcases List.mem_append.1 begins with follows | waits
        · exact ⟨first, by simp, .head follows leads⟩
        · exact ⟨start, by simp [waits], leads⟩
  | case3 domain first pending absent ih =>
      obtain ⟨inside, start, waits, leads⟩ := ih found
      exact ⟨inside, start, by simp [waits], leads⟩

theorem reached_of_pending {domain pending : List α} {node : α}
    (inside : node ∈ domain) (waits : node ∈ pending) : node ∈ reached next domain pending := by
  fun_induction reached next domain pending with
  | case1 => contradiction
  | case2 domain first pending member ih =>
      by_cases same : node = first
      · simp [same]
      · have remains : node ∈ domain.erase first := (List.mem_erase_of_ne same).2 inside
        have later : node ∈ pending := List.mem_of_ne_of_mem same waits
        exact List.mem_cons_of_mem first (ih remains (List.mem_append_right _ later))
  | case3 domain first pending absent ih =>
      have same : node ≠ first := fun same => absent (same ▸ inside)
      exact ih inside (List.mem_of_ne_of_mem same waits)

theorem reached_next {domain pending : List α} {node later : α}
    (found : node ∈ reached next domain pending) (follows : later ∈ next node)
    (inside : later ∈ domain) : later ∈ reached next domain pending := by
  fun_induction reached next domain pending with
  | case1 => contradiction
  | case2 domain first pending member ih =>
      by_cases same : later = first
      · simp [same]
      · have remains : later ∈ domain.erase first := (List.mem_erase_of_ne same).2 inside
        apply List.mem_cons_of_mem
        rcases List.mem_cons.1 found with rfl | rest
        -- What follows the node that is taken now waits from here on.
        · exact reached_of_pending remains (List.mem_append_left _ follows)
        · exact ih rest remains
  | case3 domain first pending absent ih => exact ih found inside

/-- If only nodes of the domain lead on, then no chain leaves the domain and comes back,
and the walk from a node finds all that it leads to within the domain. -/
theorem mem_reached_iff {domain : List α} {start node : α}
    (leading : ∀ earlier later, later ∈ next earlier → earlier ∈ domain) :
    node ∈ reached next domain [start] ↔
      node ∈ domain ∧ Relation.ReflTransGen (fun earlier later => later ∈ next earlier) start node := by
  constructor
  · intro found
    obtain ⟨inside, origin, begins, leads⟩ := reached_sound found
    rw [List.mem_singleton] at begins
    subst begins
    exact ⟨inside, leads⟩
  · rintro ⟨inside, leads⟩
    induction leads with
    | refl => exact reached_of_pending inside (by simp)
    | tail _ follows ih => exact reached_next (ih (leading _ _ follows)) follows inside

end Reached

namespace Repository

/-- The one commit has the other among its parents. Both are given by hash. -/
def HasParent (repository : Repository) (child parent : Text) : Prop :=
  parent ∈ repository.parents child

/-- Any number of parents back, none included, the one commit leads to the other. -/
def Reaches (repository : Repository) : Text → Text → Prop :=
  Relation.ReflTransGen repository.HasParent

/-- No commit is among its own ancestors. -/
def Acyclic (repository : Repository) : Prop :=
  ∀ hash, ¬ Relation.TransGen repository.HasParent hash hash

variable {repository : Repository} {hash tip : Text} {commit : StoredCommit}

theorem find?_hash (found : repository.find? hash = some commit) : commit.hash = hash := by
  have same := List.find?_some found
  simpa only [beq_iff_eq] using same

theorem hash_mem_of_find? (found : repository.find? hash = some commit) :
    hash ∈ repository.hashes := by
  have same := find?_hash found
  subst same
  exact List.mem_map_of_mem (List.mem_of_find?_eq_some found)

theorem parents_of_find? (found : repository.find? hash = some commit) :
    repository.parents hash = commit.parents := by
  simp only [parents, found]

theorem HasParent.stored {child parent : Text} (edge : repository.HasParent child parent) :
    ∃ commit, repository.find? child = some commit ∧ parent ∈ commit.parents := by
  cases found : repository.find? child with
  | none => simp [HasParent, parents, found] at edge
  | some commit => exact ⟨commit, rfl, parents_of_find? found ▸ edge⟩

theorem isReachable_iff :
    repository.isReachable hash tip = true ↔ hash ∈ repository.hashes ∧ repository.Reaches tip hash := by
  rw [isReachable, List.contains_iff_mem, ancestry]
  apply mem_reached_iff
  intro child parent edge
  obtain ⟨commit, found, _⟩ := HasParent.stored (show repository.HasParent child parent from edge)
  exact hash_mem_of_find? found

/-- A number for each hash that is smaller for parents than for children, such as a
place in an order of creation, leaves no room for cycles. -/
theorem acyclic_of_rank (rank : Text → Nat)
    (falls : ∀ commit ∈ repository.commits, ∀ parent ∈ commit.parents, rank parent < rank commit.hash) :
    repository.Acyclic := by
  have edgeFalls : ∀ child parent, repository.HasParent child parent → rank parent < rank child := by
    intro child parent edge
    obtain ⟨commit, found, member⟩ := edge.stored
    rw [← find?_hash found]
    exact falls commit (List.mem_of_find?_eq_some found) parent member
  intro hash cycle
  have strictlyFalls : ∀ later, Relation.TransGen repository.HasParent hash later →
      rank later < rank hash := by
    intro later chain
    induction chain with
    | single edge => exact edgeFalls _ _ edge
    | tail _ edge ih => exact Nat.lt_trans (edgeFalls _ _ edge) ih
  exact Nat.lt_irrefl _ (strictlyFalls hash cycle)

end Repository

end CuratedHistory
