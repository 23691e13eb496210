import Questionnaire.Json.Value
import Questionnaire.Schema.Fault
/-!
Results of checking a document against a shape: a value, or every fault found, in the order in which
the parts were looked at.
-/

namespace Questionnaire

abbrev Checked (α : Type) := Except (List Fault) α

namespace Checked

variable {α β γ : Type}

def fault (defect : Defect) : Checked α := .error [⟨[], defect⟩]

/-- Both parts are looked at, whether or not the first has faults. -/
def both (f : α → β → γ) : Checked α → Checked β → Checked γ
  | .ok a, .ok b => .ok (f a b)
  | .ok _, .error e => .error e
  | .error e, .ok _ => .error e
  | .error e, .error e' => .error (e ++ e')

/-- The same result for a part found one step inside. -/
def within (step : Step) : Checked α → Checked α
  | .ok a => .ok a
  | .error fs => .error (fs.map fun f => { f with path := step :: f.path })

/-- Checks each item of a list; the first stands at index `i`. -/
def each (read : Json → Checked α) : (i : Nat) → List Json → Checked (List α)
  | _, [] => .ok []
  | i, x :: xs => both List.cons ((read x).within (.index i)) (each read (i + 1) xs)

theorem both_ok {f : α → β → γ} {a : Checked α} {b : Checked β} {c : γ} :
    both f a b = .ok c ↔ ∃ x y, a = .ok x ∧ b = .ok y ∧ f x y = c := by
  cases a <;> cases b <;> simp [both]

theorem map_ok {f : α → β} {a : Checked α} {b : β} :
    a.map f = .ok b ↔ ∃ x, a = .ok x ∧ f x = b := by
  cases a <;> simp [Except.map]

@[simp] theorem within_ok {s : Step} {a : Checked α} {x : α} :
    within s a = .ok x ↔ a = .ok x := by
  cases a <;> simp [within]

end Checked
end Questionnaire
