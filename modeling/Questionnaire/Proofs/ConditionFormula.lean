import Mathlib.Data.List.Perm.Basic
import Questionnaire.Proofs.ConditionFaults

namespace Questionnaire

namespace Item

mutual
/-- What is true of rules, and of groups if of their items, is true of every item. -/
theorem induct {P : Item → Prop} (rule : ∀ r, P (.rule r))
    (group : ∀ id c xs, (∀ x ∈ xs, P x) → P (.group id c xs)) (i : Item) : P i := by
  match i with
  | .rule r => exact rule r
  | .group id c xs => exact group id c xs (induct_all rule group xs)

theorem induct_all {P : Item → Prop} (rule : ∀ r, P (.rule r))
    (group : ∀ id c xs, (∀ x ∈ xs, P x) → P (.group id c xs)) (xs : List Item) :
    ∀ x ∈ xs, P x := by
  match xs with
  | [] => simp
  | x :: xs =>
    exact List.forall_mem_cons.mpr ⟨induct rule group x, induct_all rule group xs⟩
end

end Item

/-- What the connective says of some items: that they all have a property, or that one does. -/
def Connective.Joins (P : Item → Prop) (xs : List Item) : Connective → Prop
  | .and => ∀ x ∈ xs, P x
  | .or => ∃ x ∈ xs, P x

theorem Connective.joins_congr {c : Connective} {P Q : Item → Prop} {xs : List Item}
    (h : ∀ x ∈ xs, (P x ↔ Q x)) : c.Joins P xs ↔ c.Joins Q xs := by
  cases c with
  | and => exact forall₂_congr h
  | or => exact exists_congr fun x => and_congr_right (h x)

theorem Connective.joins_replace {c : Connective} {P : Item → Prop} {x y : Item}
    {before after : List Item} (h : P x ↔ P y) :
    c.Joins P (before ++ x :: after) ↔ c.Joins P (before ++ y :: after) := by
  cases c with
  | and => simp only [Joins, List.forall_mem_append, List.forall_mem_cons, h]
  | or => simp [Joins, or_and_right, exists_or, h]

theorem Connective.joins_perm {c : Connective} {P : Item → Prop} {xs ys : List Item}
    (h : xs.Perm ys) : c.Joins P xs ↔ c.Joins P ys := by
  cases c <;> simp only [Joins, h.mem_iff]

namespace Item

/-- The formula that an item is: all items of a group joined with "and", or some item of one joined
with "or". -/
inductive Holds (P : Rule → Prop) : Item → Prop
  | rule {r} : P r → Holds P (.rule r)
  | all {id xs} : (∀ x ∈ xs, Holds P x) → Holds P (.group id .and xs)
  | any {id x xs} : x ∈ xs → Holds P x → Holds P (.group id .or xs)

/-- The items of some groups, at whatever depth, come in another order. -/
inductive Reordered : Item → Item → Prop
  | refl (i) : Reordered i i
  | here {id c xs ys} : xs.Perm ys → Reordered (.group id c xs) (.group id c ys)
  | inside {id c x y} (before after) : Reordered x y →
      Reordered (.group id c (before ++ x :: after)) (.group id c (before ++ y :: after))
  | trans {i j k} : Reordered i j → Reordered j k → Reordered i k

variable {P : Rule → Prop} {id : Option String} {xs : List Item}

theorem holds_rule {r : Rule} : Holds P (.rule r) ↔ P r :=
  ⟨fun h => by cases h with | rule h => exact h, .rule⟩

theorem holds_group {c : Connective} :
    Holds P (.group id c xs) ↔ c.Joins (Holds P) xs := by
  cases c with
  | and => exact ⟨fun h => by cases h with | all h => exact h, .all⟩
  | or =>
    exact ⟨fun h => by cases h with | any hx h => exact ⟨_, hx, h⟩, fun ⟨_, hx, h⟩ => .any hx h⟩

end Item

namespace Evaluator

variable {ev : Evaluator} {responses : Json}

/-- Items have values together if each has one. -/
theorem items_ok {xs : List Item} : (∃ bs, ev.items responses xs = .ok bs) ↔
    ∀ x ∈ xs, ∃ b, ev.item responses x = .ok b := by
  induction xs with
  | nil => simp [items]
  | cons x xs ih =>
    rw [items, List.forall_mem_cons, ← ih]
    cases ev.item responses x <;> cases ev.items responses xs <;>
      simp [bind, Except.bind, pure, Except.pure]

theorem items_values {xs : List Item} {bs : List Bool} (h : ev.items responses xs = .ok bs) :
    xs.map (ev.item responses) = bs.map .ok := by
  induction xs generalizing bs with
  | nil =>
    rw [items] at h
    cases h
    rfl
  | cons x xs ih =>
    rw [items] at h
    cases hx : ev.item responses x with
    | error o => simp [hx, bind, Except.bind] at h
    | ok b =>
      cases hxs : ev.items responses xs with
      | error o => simp [hx, hxs, bind, Except.bind] at h
      | ok bs' =>
        obtain rfl : b :: bs' = bs := by
          simpa [hx, hxs, bind, Except.bind, pure, Except.pure] using h
        rw [List.map_cons, List.map_cons, hx, ih hxs]

theorem join_iff {c : Connective} {f : Item → Except Offence Bool} {xs : List Item}
    {bs : List Bool} (values : xs.map f = bs.map .ok) :
    join c bs = true ↔ c.Joins (fun x => f x = .ok true) xs := by
  cases c with
  | and =>
    have alike : (∀ y ∈ xs.map f, y = .ok true) ↔ ∀ b ∈ bs, b = true := by
      rw [values, List.forall_mem_map]
      simp
    rw [List.forall_mem_map] at alike
    simp [join, Connective.Joins, alike]
  | or =>
    have alike : (.ok true ∈ xs.map f) ↔ true ∈ bs := by
      rw [values]
      simp
    rw [List.mem_map] at alike
    simp [join, Connective.Joins, alike]

/-- A group has a value if it is not empty and all its items have values; what these are decides,
not in which order they come. -/
theorem group_ok {id : Option String} {c : Connective} {xs : List Item} {b : Bool} :
    ev.item responses (.group id c xs) = .ok b ↔
      xs ≠ [] ∧ (∀ x ∈ xs, ∃ v, ev.item responses x = .ok v) ∧
        (b = true ↔ c.Joins (fun x => ev.item responses x = .ok true) xs) := by
  match xs with
  | [] => simp [item]
  | x :: xs =>
    rw [item, ← items_ok]
    cases values : ev.items responses (x :: xs) with
    | error o => simp [Except.map]
    | ok bs =>
      rw [← join_iff (items_values values)]
      cases b <;> simp [Except.map]

/-- The value of an item is that of the formula over the values of its rules. -/
theorem item_holds (i : Item) : ∀ b, ev.item responses i = .ok b →
    (b = true ↔ i.Holds fun r => ev.rule responses r = .ok true) := by
  induction i using Item.induct with
  | rule r =>
    intro b value
    rw [item, mapError_ok] at value
    rw [Item.holds_rule, value, Except.ok.injEq]
  | group id c xs ih =>
    intro b value
    obtain ⟨-, valued, joined⟩ := group_ok.mp value
    rw [joined, Item.holds_group]
    refine Connective.joins_congr fun x hx => ?_
    obtain ⟨v, hv⟩ := valued x hx
    rw [← ih x hx v hv, hv, Except.ok.injEq]

/-- In which order the items of its groups come changes nothing about the value of an item. -/
theorem reordered_value {i j : Item} (h : i.Reordered j) :
    ∀ b, ev.item responses i = .ok b ↔ ev.item responses j = .ok b := by
  induction h with
  | refl => exact fun _ => .rfl
  | here perm =>
    intro b
    rw [group_ok, group_ok, Connective.joins_perm perm]
    simp only [perm.mem_iff, ne_eq, ← List.length_eq_zero_iff, perm.length_eq]
  | inside _ _ _ ih =>
    intro b
    rw [group_ok, group_ok, Connective.joins_replace (ih true)]
    simp only [ne_eq, List.append_eq_nil_iff, List.forall_mem_append, List.forall_mem_cons, ih,
      reduceCtorEq]
  | trans _ _ ih₁ ih₂ => exact fun b => (ih₁ b).trans (ih₂ b)

/-- A condition's value is that of the formula that it is. There is one unless a group in it is
empty or a rule fails, be the result decided without them or not; the first of these, depth first,
is told. In which order the items of groups come matters only to which is the first. -/
theorem evaluated_by_formula (ev : Evaluator) (responses : Json) (g : Group) :
    ((∃ b, ev.evaluate responses g = .ok b) ↔
      (∀ h ∈ g.groups, h.items ≠ []) ∧ ∀ r ∈ g.rules, ∃ b, ev.rule responses r = .ok b) ∧
    (∀ b, ev.evaluate responses g = .ok b →
      (b = true ↔ g.toItem.Holds fun r => ev.rule responses r = .ok true)) ∧
    (∀ x, ev.evaluate responses g = .error x ↔ ev.Blames responses g x) ∧
    ∀ h : Group, g.toItem.Reordered h.toItem →
      ∀ b, ev.evaluate responses g = .ok b ↔ ev.evaluate responses h = .ok b := by
  have whole (g : Group) (b : Bool) :
      ev.evaluate responses g = .ok b ↔ ev.item responses g.toItem = .ok b := mapError_ok
  refine ⟨evaluate_ok_iff, fun b value => ?_, fun x => evaluate_error, fun h moved b => ?_⟩
  · exact item_holds g.toItem b ((whole g b).mp value)
  · rw [whole, whole, reordered_value moved]

/-- A plan that suits, or else seats and a start to come. -/
def sale (rest : List Item) : Group :=
  let plan : Rule := ⟨none, "plan", none, "equals", .str "team", .static⟩
  ⟨some "sale", .or, [.rule plan, .group (some "else") .and rest]⟩

def sold : Json := .obj [("plan", .str "team"), ("seats", .int 3)]

theorem evaluated_by_formula_sale :
    let seats : Item := .rule ⟨none, "seats", none, "is_set", .null, .static⟩
    let start : Item := .rule ⟨none, "start", none, "is_set", .null, .static⟩
    let ev : Evaluator := ⟨[], "", ""⟩
    ev.evaluate sold (sale []) = .error (.emptyGroup (some "else")) ∧
    (sale [seats, start]).toItem.Reordered (sale [start, seats]).toItem ∧
    ev.evaluate sold (sale [seats, start]) = .ok true ∧
    ev.evaluate sold (sale [start, seats]) = .ok true := by
  intro seats start ev
  have split : (sale []).toItem.parts =
    [(sale []).toItem, .rule ⟨none, "plan", none, "equals", .str "team", .static⟩] ++
      .group (some "else") .and [] :: [] := rfl
  have blamed := (evaluated_by_formula ev sold (sale [])).2.2.1 (.emptyGroup (some "else"))
  have moved : (sale [seats, start]).toItem.Reordered (sale [start, seats]).toItem :=
    .inside [_] [] (.here (.swap ..))
  have value : ev.evaluate sold (sale [seats, start]) = .ok true := by decide +kernel
  have kept := (evaluated_by_formula ev sold (sale [seats, start])).2.2.2 _ moved
  exact ⟨blamed.mpr (.empty split (by decide +kernel)), moved, value, (kept true).mp value⟩

end Evaluator
end Questionnaire
