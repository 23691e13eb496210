/-!
The flow of a survey as a directed graph: the order in which its nodes can come, and what can be
reached from where.
-/

namespace Questionnaire

/-- Links may be repeated, and may lead from a node to itself. -/
structure Flow where
  keys : List String
  links : List (String × String)

namespace Flow

def targets (f : Flow) (v : String) : List String := (f.links.filter (·.1 == v)).map Prod.snd

def inDegree (f : Flow) (v : String) : Nat := (f.links.filter (·.2 == v)).length

def reversed (f : Flow) : Flow := ⟨f.keys, f.links.map Prod.swap⟩

/-- Takes one link off each of these nodes, and gives those that lose their last. -/
def release : List String → (String → Nat) → List String × (String → Nat)
  | [], degree => ([], degree)
  | t :: ts, degree =>
    let left (v : String) := if v = t then degree v - 1 else degree v
    let (ready, rest) := release ts left
    (if left t = 0 then t :: ready else ready, rest)

/-- Takes nodes off the front of a queue, which gets those whose last predecessor that was. -/
def drain (f : Flow) : Nat → List String → (String → Nat) → List String
  | 0, _, _ => []
  | _, [], _ => []
  | fuel + 1, v :: queue, degree =>
    let (ready, degree) := release (f.targets v) degree
    v :: drain f fuel (queue ++ ready) degree

/-- The nodes, each after all that lead to it. Those on a cycle, or behind one, are left out. -/
def order (f : Flow) : List String :=
  drain f f.keys.length (f.keys.filter fun v => f.inDegree v == 0) f.inDegree

/-- The links out of nodes not yet visited. -/
def unused (f : Flow) (visited : List String) : List (String × String) :=
  f.links.filter fun l => !visited.contains l.1

theorem length_filter_split {α : Type} (p q : α → Bool) (xs : List α) :
    (xs.filter fun x => p x && q x).length + (xs.filter fun x => p x && !q x).length
      = (xs.filter p).length := by
  induction xs with
  | nil => rfl
  | cons x xs ih =>
    cases hp : p x <;> cases hq : q x <;> simp [hp, hq] at * <;> omega

/-- Visiting a node moves its links from the unused ones to the stack. -/
theorem length_unused_cons (f : Flow) {v : String} {visited : List String}
    (h : visited.contains v = false) :
    (f.unused (v :: visited)).length + (f.targets v).length = (f.unused visited).length := by
  have hs := length_filter_split (fun l : String × String => !visited.contains l.1)
    (fun l => !(l.1 == v)) f.links
  have h1 : f.unused (v :: visited)
      = f.links.filter fun l => !visited.contains l.1 && !(l.1 == v) := by
    apply List.filter_congr
    intro l _
    simp only [List.contains_cons, Bool.not_or]
    rw [Bool.and_comm]
  have h2 : (f.links.filter fun l => l.1 == v)
      = f.links.filter fun l => !visited.contains l.1 && !!(l.1 == v) := by
    apply List.filter_congr
    intro l _
    by_cases hl : l.1 = v
    · subst hl
      rw [h]
      simp
    · simp [hl]
  rw [h1, targets, List.length_map, h2, unused]
  exact hs

/-- Visits what can be reached from a stack of nodes. -/
def visit (f : Flow) (visited : List String) : List String → List String
  | [] => visited
  | v :: stack =>
    if visited.contains v then visit f visited stack
    else visit f (v :: visited) (f.targets v ++ stack)
termination_by stack => (f.unused visited).length + stack.length
decreasing_by
  · simp
  · rename_i h
    have := length_unused_cons f (Bool.eq_false_iff.mpr h)
    simp only [List.length_append, List.length_cons]
    omega

/-- The nodes that can be reached from the seeds, these included. -/
def reached (f : Flow) (seeds : List String) : List String := visit f [] seeds

end Flow
end Questionnaire
