import Mathlib.Data.List.Pairwise
import Questionnaire.Json.Ordered
import Questionnaire.Proofs.ShapeLaws
import Questionnaire.Schema.Part

namespace Questionnaire
open Ordered

deriving instance DecidableEq for Spelling

theorem Json.isNull_iff {j : Json} : j.isNull = true ↔ j = .null := by
  cases j <;> simp [Json.isNull]

namespace Spelling

/-- The value that counts. -/
def find? (s : Spelling) (es : Entries) : Option Json := es.lookup (s.used es)

theorem find?_plain (name : String) (es : Entries) :
    (plain name).find? es = es.lookup name := by
  rw [find?, used, plain, ite_self]

/-- Null stands under the first spelling, which is then the one that counts, and something else
under the second. -/
def hides (s : Spelling) (es : Entries) : Bool :=
  s.main != s.other && es.lookup s.main == some .null
    && es.any fun e => e.1 == s.other && !e.2.isNull

/-- Neither spelling of the one field is a spelling of the other. -/
def Apart (s t : Spelling) : Prop :=
  s.main ≠ t.main ∧ s.main ≠ t.other ∧ s.other ≠ t.main ∧ s.other ≠ t.other

instance (s t : Spelling) : Decidable (s.Apart t) := inferInstanceAs (Decidable (_ ∧ _))

theorem hides_iff {s : Spelling} {es : Entries} : s.hides es = true ↔
    s.main ≠ s.other ∧ es.lookup s.main = some .null ∧ ∃ v, (s.other, v) ∈ es ∧ v ≠ .null := by
  simp [hides, ← Json.isNull_iff, and_assoc]

theorem plain_shown (name : String) (es : Entries) : (plain name).hides es = false := by
  simp [hides, plain]

theorem used_eq (s : Spelling) (es : Entries) : s.used es = s.main ∨ s.used es = s.other :=
  ite_eq_or_eq _ _ _

instance : Std.Symm Apart where
  symm _ _ := fun ⟨mains, mixed, mixed', others⟩ =>
    ⟨mains.symm, mixed'.symm, mixed.symm, others.symm⟩

theorem used_main {s : Spelling} {es : Entries} (h : s.main ∈ keys es) : s.used es = s.main :=
  if_pos (mem_keys.mp h)

theorem used_other {s : Spelling} {es : Entries} (h : s.main ∉ keys es) : s.used es = s.other :=
  if_neg fun found => h (mem_keys.mpr found)

end Spelling

theorem Entries.Finite.lookup {es : Entries} (h : es.Finite) {k : String} {v : Json}
    (hv : es.lookup k = some v) : v.Finite := Entries.finite_iff.mp h _ (mem_of_lookup hv)

theorem Entries.Finite.filter {es : Entries} (h : es.Finite) (keep : String × Json → Bool) :
    Entries.Finite (es.filter keep) :=
  Entries.finite_iff.mpr fun e he => Entries.finite_iff.mp h e (List.mem_filter.mp he).1

theorem Entries.Finite.written {es : Entries} (h : es.Finite) :
    Entries.written es = es.filter fun e => !e.2.isNull := h.filter _

theorem Entries.Finite.written_written {es : Entries} (h : es.Finite) :
    Entries.written (Entries.written es) = Entries.written es := by
  rw [h.written, (h.filter _).written, List.filter_filter]
  simp

namespace Part

variable {α β : Type} {p : Part α} {names : List Spelling} {r : α → α}

/-- A part that is made of the fields with these names. Reading what was written of a value that was
read gives the restored value, and of that the same is written; null is what is not written. -/
structure Restores (p : Part α) (names : List Spelling) (r : α → α) : Prop where
  apart : names.Pairwise Spelling.Apart
  used : ∀ es, p.used es = names.map (·.used es)
  keys : ∀ {es a}, p.read es = .ok a → ∀ k ∈ keys (p.write a), ∃ s ∈ names, s.main = k
  back : ∀ {es a}, es.Finite → p.read es = .ok a →
    ∀ {es'}, (∀ s ∈ names, s.find? es' = (p.write a).lookup s.main) → p.read es' = .ok (r a)
  again : ∀ {es a}, es.Finite → p.read es = .ok a → p.write (r a) = p.write a
  absent : ∀ {es a}, p.read es = .ok a → ∀ s ∈ names, ∀ v, s.find? es = some v →
    ((p.write a).lookup s.main = none ↔ v = .null)

/-- A part without fields. -/
theorem Restores.empty {a : α} (used : ∀ es, p.used es = []) (read : ∀ es, p.read es = .ok a)
    (write : p.write a = []) (restored : r a = a) : p.Restores [] r where
  apart := .nil
  used := used
  keys {es b} h := by
    obtain rfl := Except.ok.inj ((read es).symm.trans h)
    simp [write, Ordered.keys]
  back {es b} _ h es' _ := by
    obtain rfl := Except.ok.inj ((read es).symm.trans h)
    rw [read, restored]
  again {es b} _ h := by
    obtain rfl := Except.ok.inj ((read es).symm.trans h)
    rw [restored]
  absent _ s hs := absurd hs List.not_mem_nil

section Field

variable {s : Spelling} {shape : Shape α} {absent : Checked α}

theorem fieldOr_read (es : Entries) : (fieldOr s shape absent).read es =
    match s.find? es with
    | some v => (shape.read v).within (.key (s.used es))
    | none => absent := rfl

theorem fieldOr_write (a : α) : (fieldOr s shape absent).write a =
    if shape.isAbsent a then [] else [(s.main, shape.write a)] := rfl

theorem lookup_fieldOr (a : α) : ((fieldOr s shape absent).write a).lookup s.main =
    if shape.isAbsent a then none else some (shape.write a) := by
  rw [fieldOr_write]
  split <;> simp

/-- A value that is read where the field is missing can also be read from the field, and what is not
written is read where the field is missing. -/
theorem Restores.fieldOr (law : shape.Restores r) (readable : ∀ a, absent = .ok a → shape.Reads a)
    (unwritten : ∀ a, shape.isAbsent a = true → absent = .ok (r a)) :
    (Part.fieldOr s shape absent).Restores [s] r := by
  have reads {es : Entries} {a : α} (hes : es.Finite)
      (h : (Part.fieldOr s shape absent).read es = .ok a) : shape.Reads a := by
    rw [fieldOr_read] at h
    split at h
    · rename_i v hv
      exact ⟨v, hes.lookup hv, Checked.within_ok.mp h⟩
    · exact readable a h
  constructor
  case apart => exact List.pairwise_singleton _ _
  case used => exact fun _ => rfl
  case keys =>
    intro es a _ k hk
    refine ⟨s, List.mem_singleton_self s, ?_⟩
    rw [fieldOr_write] at hk
    split at hk
    · cases hk
    · exact (List.mem_singleton.mp hk).symm
  case back =>
    intro es a hes h es' same
    have found := same s (List.mem_singleton_self s)
    rw [lookup_fieldOr] at found
    rw [fieldOr_read, found]
    cases gone : shape.isAbsent a with
    | true => exact unwritten a gone
    | false => exact Checked.within_ok.mpr (law.back (reads hes h))
  case again =>
    intro es a hes h
    simp only [fieldOr_write, law.kept (reads hes h), law.again (reads hes h)]
  case absent =>
    intro es a h t ht v hv
    obtain rfl := List.mem_singleton.mp ht
    rw [fieldOr_read, hv] at h
    rw [lookup_fieldOr, ← law.absent (Checked.within_ok.mp h)]
    cases shape.isAbsent a <;> simp

theorem Restores.field (s : Spelling) {default : α} (law : shape.Restores r)
    (readable : shape.Reads default) (unwritten : ∀ a, shape.isAbsent a = true → r a = default) :
    (Part.field s shape default).Restores [s] r :=
  .fieldOr law (fun _ h => Except.ok.inj h ▸ readable) (fun a h => by rw [unwritten a h])

/-- A field that is always written. -/
theorem Restores.given (s : Spelling) (default : α) (law : shape.Restores r)
    (present : ∀ a, shape.isAbsent a = false) (readable : shape.Reads default) :
    (Part.field s shape default).Restores [s] r := by
  refine .field s law readable fun a h => ?_
  rw [present] at h
  cases h

/-- A field whose absence means no value. -/
theorem Restores.optional (s : Spelling) (law : shape.Restores r)
    (present : ∀ a, shape.isAbsent a = false) :
    (Part.field s shape.optional none).Restores [s] (Option.map r) := by
  refine .field s (Shape.optional_restores law present) ⟨.null, rfl, rfl⟩ fun a h => ?_
  rw [Option.isNone_iff_eq_none.mp h, Option.map_none]

theorem Restores.any (s : Spelling) : (Part.field s .any .null).Restores [s] id :=
  .field s Shape.any_restores ⟨.null, rfl, rfl⟩ fun _ h => Json.isNull_iff.mp h

theorem Restores.required (s : Spelling) (law : shape.Restores r)
    (present : ∀ a, shape.isAbsent a = false) :
    (Part.required s shape).Restores [s] r := by
  refine .fieldOr law (fun _ h => by cases h) fun a h => ?_
  rw [present] at h
  cases h

end Field

theorem both_used {q : Part β} (es : Entries) : (p.both q).used es = p.used es ++ q.used es := rfl

theorem both_write {q : Part β} (x : α × β) :
    (p.both q).write x = p.write x.1 ++ q.write x.2 := rfl

/-- Two parts without a common spelling. -/
theorem Restores.both {q : Part β} {names' : List Spelling} {r' : β → β} (hp : p.Restores names r)
    (hq : q.Restores names' r') (apart : ∀ s ∈ names, ∀ t ∈ names', s.Apart t) :
    (p.both q).Restores (names ++ names') (Prod.map r r') := by
  have first {es : Entries} {b : β} (h : q.read es = .ok b) {s : Spelling} (hs : s ∈ names) :
      (q.write b).lookup s.main = none := by
    refine lookup_eq_none.mpr fun hk => ?_
    obtain ⟨t, ht, same⟩ := hq.keys h s.main hk
    exact (apart s hs t ht).1 same.symm
  have second {es : Entries} {a : α} (h : p.read es = .ok a) {s : Spelling} (hs : s ∈ names') :
      (p.write a).lookup s.main = none := by
    refine lookup_eq_none.mpr fun hk => ?_
    obtain ⟨t, ht, same⟩ := hp.keys h s.main hk
    exact (apart t ht s hs).1 same
  constructor
  case apart => exact List.pairwise_append.mpr ⟨hp.apart, hq.apart, apart⟩
  case used =>
    intro es
    rw [both_used, hp.used, hq.used, List.map_append]
  case keys =>
    intro es x h k hk
    obtain ⟨a, b, ha, hb, rfl⟩ := Checked.both_ok.mp h
    rw [both_write] at hk
    rcases mem_keys_append.mp hk with hk | hk
    · obtain ⟨s, hs, same⟩ := hp.keys ha k hk
      exact ⟨s, List.mem_append_left _ hs, same⟩
    · obtain ⟨s, hs, same⟩ := hq.keys hb k hk
      exact ⟨s, List.mem_append_right _ hs, same⟩
  case back =>
    intro es x hes h es' same
    obtain ⟨a, b, ha, hb, rfl⟩ := Checked.both_ok.mp h
    refine Checked.both_ok.mpr ⟨r a, r' b, hp.back hes ha fun s hs => ?_,
      hq.back hes hb fun s hs => ?_, rfl⟩
    · rw [same s (List.mem_append_left _ hs), both_write, List.lookup_append, first hb hs,
        Option.or_none]
    · rw [same s (List.mem_append_right _ hs), both_write, List.lookup_append, second ha hs,
        Option.none_or]
  case again =>
    intro es x hes h
    obtain ⟨a, b, ha, hb, rfl⟩ := Checked.both_ok.mp h
    simp only [both_write, Prod.map, hp.again hes ha, hq.again hes hb]
  case absent =>
    intro es x h s hs v hv
    obtain ⟨a, b, ha, hb, rfl⟩ := Checked.both_ok.mp h
    rw [both_write, List.lookup_append]
    rcases List.mem_append.mp hs with hs | hs
    · rw [first hb hs, Option.or_none, hp.absent ha s hs v hv]
    · rw [second ha hs, Option.none_or, hq.absent hb s hs v hv]

theorem Restores.of_eq {r' : α → α} (law : p.Restores names r) (same : ∀ a, r' a = r a) :
    p.Restores names r' := (funext same : r' = r) ▸ law

/-- The same part seen as another type. -/
theorem Restores.view {q : Part β} {r' : β → β} (law : p.Restores names r) (build : α → β)
    (used : ∀ es, q.used es = p.used es) (read : ∀ es, q.read es = (p.read es).map build)
    (write : ∀ a, q.write (build a) = p.write a) (restored : ∀ a, r' (build a) = build (r a)) :
    q.Restores names r' where
  apart := law.apart
  used es := (used es).trans (law.used es)
  keys {es b} h := by
    rw [read] at h
    obtain ⟨a, ha, rfl⟩ := Checked.map_ok.mp h
    rw [write]
    exact law.keys ha
  back {es b} hes h es' same := by
    rw [read] at h
    obtain ⟨a, ha, rfl⟩ := Checked.map_ok.mp h
    rw [write] at same
    rw [read, restored]
    exact Checked.map_ok.mpr ⟨r a, law.back hes ha same, rfl⟩
  again {es b} hes h := by
    rw [read] at h
    obtain ⟨a, ha, rfl⟩ := Checked.map_ok.mp h
    rw [restored, write, write, law.again hes ha]
  absent {es b} h := by
    rw [read] at h
    obtain ⟨a, ha, rfl⟩ := Checked.map_ok.mp h
    rw [write]
    exact law.absent ha

/-- What is written of the entries that the part does not take up. -/
def beside (p : Part α) (es : Entries) : Entries := Entries.written (p.others es)

theorem mem_beside {es : Entries} (hes : es.Finite) {e : String × Json} :
    e ∈ p.beside es ↔ e ∈ es ∧ e.1 ∉ p.used es ∧ e.2 ≠ .null := by
  have finite : Entries.Finite (p.others es) := hes.filter _
  rw [beside, finite.written, List.mem_filter, others, List.mem_filter]
  simp [← Json.isNull_iff, and_assoc]

theorem mem_keys_beside {es : Entries} (hes : es.Finite) {k : String} :
    k ∈ Ordered.keys (p.beside es) ↔ k ∉ p.used es ∧ ∃ v, (k, v) ∈ es ∧ v ≠ .null := by
  have members : k ∈ Ordered.keys (p.beside es) ↔ ∃ v, (k, v) ∈ p.beside es := by
    simp [Ordered.keys]
  simp only [members, mem_beside hes]
  constructor
  · rintro ⟨v, hv, unused, given⟩
    exact ⟨unused, v, hv, given⟩
  · rintro ⟨unused, v, hv, given⟩
    exact ⟨v, hv, unused, given⟩

namespace Restores

variable {es : Entries} {a : α} (law : p.Restores names r)
include law

/-- What was written is read also among other entries, unless these are the ones that count. -/
theorem read_among (hes : es.Finite) (h : p.read es = .ok a) (before after : Entries)
    (clear : ∀ s ∈ names, s.used (before ++ p.write a ++ after) ∉ Ordered.keys before ∧
      s.used (before ++ p.write a ++ after) ∉ Ordered.keys after) :
    p.read (before ++ p.write a ++ after) = .ok (r a) := by
  refine law.back hes h fun s hs => ?_
  obtain ⟨hb, ha⟩ := clear s hs
  rw [Spelling.find?, List.lookup_append, List.lookup_append, lookup_eq_none.mpr hb,
    lookup_eq_none.mpr ha, Option.none_or, Option.or_none]
  by_cases main : s.main ∈ Ordered.keys (before ++ p.write a ++ after)
  · rw [Spelling.used_main main]
  · have unwritten : (p.write a).lookup s.main = none := lookup_eq_none.mpr fun hk =>
      main (mem_keys_append.mpr (.inl (mem_keys_append.mpr (.inr hk))))
    rw [Spelling.used_other main, unwritten]
    by_cases plain : s.main = s.other
    · rw [← plain, unwritten]
    · refine lookup_eq_none.mpr fun hk => ?_
      obtain ⟨t, ht, same⟩ := law.keys h s.other hk
      have hne : s ≠ t := by
        rintro rfl
        exact plain same
      exact (law.apart.forall hs ht hne).2.2.1 same.symm

/-- So it is where these are of other names. -/
theorem read_inside (hes : es.Finite) (h : p.read es = .ok a) (before after : Entries)
    (others : ∀ s ∈ names, ∀ k ∈ Ordered.keys before ++ Ordered.keys after,
      s.main ≠ k ∧ s.other ≠ k) : p.read (before ++ p.write a ++ after) = .ok (r a) := by
  have unused {s : Spelling} (hs : s ∈ names) {k : String}
      (hk : k ∈ Ordered.keys before ++ Ordered.keys after) {es : Entries} : s.used es ≠ k := by
    obtain ⟨main, other⟩ := others s hs k hk
    rcases Spelling.used_eq s es with used | used
    · rwa [used]
    · rwa [used]
  refine law.read_among hes h before after fun s hs => ⟨fun hk => ?_, fun hk => ?_⟩
  · exact unused hs (List.mem_append_left _ hk) rfl
  · exact unused hs (List.mem_append_right _ hk) rfl

/-- The first spelling of a field is never one of the other entries. -/
theorem main_not_beside (hes : es.Finite) {s : Spelling} (hs : s ∈ names) :
    s.main ∉ Ordered.keys (p.beside es) := by
  intro hk
  obtain ⟨unused, v, hv, -⟩ := (mem_keys_beside hes).mp hk
  have found : s.main ∈ Ordered.keys es := List.mem_map.mpr ⟨_, hv, rfl⟩
  refine unused ?_
  rw [law.used]
  exact List.mem_map.mpr ⟨s, hs, Spelling.used_main found⟩

/-- The second is one where the first counts. -/
theorem other_not_used {s : Spelling} (hs : s ∈ names) (found : s.main ∈ Ordered.keys es)
    (mixed : s.main ≠ s.other) : s.other ∉ p.used es := by
  rw [law.used]
  intro taken
  obtain ⟨t, ht, same⟩ := List.mem_map.mp taken
  by_cases hst : s = t
  · subst hst
    exact mixed ((Spelling.used_main found).symm.trans same)
  · obtain ⟨-, -, main, other⟩ := law.apart.forall hs ht hst
    rcases Spelling.used_eq t es with h | h
    · exact main (same.symm.trans h)
    · exact other (same.symm.trans h)

/-- On reading what was written, the second spelling of a field counts, and not what was written of
the field, where the field hides something. -/
theorem counts_beside (hes : es.Finite) (h : p.read es = .ok a) {s : Spelling} (hs : s ∈ names) :
    s.used (p.write a ++ p.beside es) ∈ Ordered.keys (p.beside es) ↔ s.hides es = true := by
  have main : s.main ∉ Ordered.keys (p.beside es) := law.main_not_beside hes hs
  have written : s.main ∈ Ordered.keys (p.write a ++ p.beside es) ↔
      (p.write a).lookup s.main ≠ none := by
    rw [mem_keys_append, ne_eq, lookup_eq_none, not_not]
    exact or_iff_left main
  rw [Spelling.hides_iff]
  constructor
  · intro hk
    have missing : s.main ∉ Ordered.keys (p.write a ++ p.beside es) := by
      intro found
      rw [Spelling.used_main found] at hk
      exact main hk
    rw [Spelling.used_other missing] at hk
    obtain ⟨unused, v, hv, given⟩ := (mem_keys_beside hes).mp hk
    have found : s.main ∈ Ordered.keys es := by
      by_contra gone
      refine unused ?_
      rw [law.used]
      exact List.mem_map.mpr ⟨s, hs, Spelling.used_other gone⟩
    obtain ⟨w, hw⟩ := Option.isSome_iff_exists.mp (mem_keys.mp found)
    have counts : s.find? es = some w := by rw [Spelling.find?, Spelling.used_main found, hw]
    have null : w = .null :=
      (law.absent h s hs w counts).mp (not_not.mp fun found => missing (written.mpr found))
    exact ⟨fun same => main (same ▸ hk), null ▸ hw, v, hv, given⟩
  · rintro ⟨mixed, null, v, hv, given⟩
    have found : s.main ∈ Ordered.keys es := mem_keys.mpr (by rw [null]; rfl)
    have counts : s.find? es = some .null := by
      rw [Spelling.find?, Spelling.used_main found, null]
    have missing : s.main ∉ Ordered.keys (p.write a ++ p.beside es) := fun found =>
      written.mp found ((law.absent h s hs .null counts).mpr rfl)
    rw [Spelling.used_other missing]
    exact (mem_keys_beside hes).mpr ⟨law.other_not_used hs found mixed, v, hv, given⟩

/-- Where no field hides anything, what was written reads as the restored value with the same
entries beside it. -/
theorem read_stored (hes : es.Finite) (h : p.read es = .ok a)
    (shown : ∀ s ∈ names, s.hides es = false) :
    p.read (p.write a ++ p.beside es) = .ok (r a) ∧
      p.others (p.write a ++ p.beside es) = p.beside es := by
  have clear {s : Spelling} (hs : s ∈ names) :
      s.used (p.write a ++ p.beside es) ∉ Ordered.keys (p.beside es) := by
    rw [law.counts_beside hes h hs, shown s hs]
    exact Bool.false_ne_true
  constructor
  · exact law.read_among hes h [] _ fun s hs => ⟨List.not_mem_nil, clear hs⟩
  · rw [others, List.filter_append]
    have own : (p.write a).filter (fun e => !(p.used (p.write a ++ p.beside es)).contains e.1)
        = [] := by
      refine List.filter_eq_nil_iff.mpr fun e he => ?_
      have hk : e.1 ∈ Ordered.keys (p.write a) := List.mem_map_of_mem he
      obtain ⟨s, hs, same⟩ := law.keys h e.1 hk
      have found : s.main ∈ Ordered.keys (p.write a ++ p.beside es) := by
        exact mem_keys_append.mpr (.inl (same ▸ hk))
      have taken : e.1 ∈ p.used (p.write a ++ p.beside es) := by
        rw [law.used, ← same]
        exact List.mem_map.mpr ⟨s, hs, Spelling.used_main found⟩
      simpa using taken
    have rest : (p.beside es).filter (fun e => !(p.used (p.write a ++ p.beside es)).contains e.1)
        = p.beside es := by
      refine List.filter_eq_self.mpr fun e he => ?_
      have left : e.1 ∉ p.used (p.write a ++ p.beside es) := by
        rw [law.used]
        intro taken
        obtain ⟨s, hs, same⟩ := List.mem_map.mp taken
        exact clear hs (same ▸ List.mem_map_of_mem he)
      simpa using left
    rw [own, rest, List.nil_append]

/-- Where a field hides something, other entries are written of whatever is read next. -/
theorem written_differs (hes : es.Finite) (h : p.read es = .ok a) {s : Spelling} (hs : s ∈ names)
    (hidden : s.hides es = true) {b : α} (hb : p.read (p.write a ++ p.beside es) = .ok b)
    (more : Entries) : p.write b ++ more ≠ p.write a ++ p.beside es := by
  have next := (law.counts_beside hes h hs).mpr hidden
  have missing : s.main ∉ Ordered.keys (p.write a ++ p.beside es) := by
    intro found
    rw [Spelling.used_main found] at next
    exact law.main_not_beside hes hs next
  rw [Spelling.used_other missing] at next
  have unwritten : (p.write a).lookup s.other = none := by
    refine lookup_eq_none.mpr fun hk => ?_
    obtain ⟨t, ht, same⟩ := law.keys h s.other hk
    have hne : s ≠ t := by
      rintro rfl
      exact (Spelling.hides_iff.mp hidden).1 same
    exact (law.apart.forall hs ht hne).2.2.1 same.symm
  obtain ⟨v, hv⟩ := Option.isSome_iff_exists.mp (mem_keys.mp next)
  have given : v ≠ .null := ((mem_beside hes).mp (mem_of_lookup hv)).2.2
  have counts : s.find? (p.write a ++ p.beside es) = some v := by
    rw [Spelling.find?, Spelling.used_other missing, List.lookup_append, unwritten,
      hv, Option.none_or]
  intro same
  rw [← same] at missing
  refine given ((law.absent hb s hs v counts).mp (lookup_eq_none.mpr fun hk => ?_))
  exact missing (mem_keys_append.mpr (.inl hk))

end Restores
end Part
end Questionnaire
