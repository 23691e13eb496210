/-!
Maps as lists of entries that keep the order of first insertion. Writing to a key that is present
replaces its value in place.
-/

namespace Questionnaire.Ordered

variable {α : Type}

def put (key : String) (value : α) : List (String × α) → List (String × α)
  | [] => [(key, value)]
  | (k, v) :: rest => if k = key then (key, value) :: rest else (k, v) :: put key value rest

/-- Changes the value at a key; nothing happens where there is none. -/
def modify (key : String) (f : α → α) : List (String × α) → List (String × α)
  | [] => []
  | (k, v) :: rest => if k = key then (k, f v) :: rest else (k, v) :: modify key f rest

def keys (es : List (String × α)) : List String := es.map Prod.fst

def hasKey (es : List (String × α)) (key : String) : Bool := (es.lookup key).isSome

/-- Keeps the last value of each key, in the order in which the keys first come. -/
def ofList (es : List (String × α)) : List (String × α) :=
  es.foldl (fun acc e => put e.1 e.2 acc) []

theorem lookup_entry (l k : String) (v : α) (es : List (String × α)) :
    ((l, v) :: es).lookup k = if k = l then some v else es.lookup k := by
  by_cases h : k = l
  · subst h
    simp
  · rw [List.lookup_cons, beq_eq_false_iff_ne.2 h, if_neg h]

theorem mem_of_lookup {k : String} {v : α} {es : List (String × α)} (h : es.lookup k = some v) :
    (k, v) ∈ es := by
  obtain ⟨before, after, rfl, -⟩ := List.lookup_eq_some_iff.mp h
  simp

theorem mem_keys {k : String} {es : List (String × α)} :
    k ∈ keys es ↔ (es.lookup k).isSome = true := by
  simp [keys, List.lookup_isSome_iff]

theorem lookup_eq_none {k : String} {es : List (String × α)} :
    es.lookup k = none ↔ k ∉ keys es := by
  rw [mem_keys, Option.not_isSome_iff_eq_none]

@[simp] theorem mem_keys_append {k : String} {es es' : List (String × α)} :
    k ∈ keys (es ++ es') ↔ k ∈ keys es ∨ k ∈ keys es' := by
  rw [keys, List.map_append, List.mem_append, keys, keys]

/-- Where keys stand once, every entry is found. -/
theorem lookup_of_mem {es : List (String × α)} (h : (keys es).Nodup) {e : String × α}
    (he : e ∈ es) : es.lookup e.1 = some e.2 := by
  induction es with
  | nil => cases he
  | cons e' es ih =>
    obtain ⟨new, rest⟩ := List.nodup_cons.mp h
    rw [lookup_entry]
    rcases List.mem_cons.mp he with rfl | he
    · exact if_pos rfl
    · rw [if_neg, ih rest he]
      exact fun same => new (same ▸ List.mem_map_of_mem he)

theorem lookup_put (key k : String) (value : α) (es : List (String × α)) :
    (put key value es).lookup k = if k = key then some value else es.lookup k := by
  induction es with
  | nil => exact lookup_entry key k value []
  | cons e rest ih =>
    obtain ⟨l, v⟩ := e
    by_cases hl : l = key
    · subst hl
      by_cases h : k = l <;> simp only [put, lookup_entry, h, ↓reduceIte]
    · by_cases h : k = l
      · subst h
        simp only [put, hl, lookup_entry, ↓reduceIte]
      · simp only [put, hl, lookup_entry, h, ih, ↓reduceIte]

theorem lookup_modify (key k : String) (f : α → α) (es : List (String × α)) :
    (modify key f es).lookup k = if k = key then (es.lookup k).map f else es.lookup k := by
  induction es with
  | nil => simp [modify]
  | cons e rest ih =>
    obtain ⟨l, v⟩ := e
    by_cases hl : l = key
    · subst hl
      by_cases h : k = l <;> simp only [modify, lookup_entry, h, ↓reduceIte, Option.map_some]
    · by_cases h : k = l
      · subst h
        simp only [modify, hl, lookup_entry, ↓reduceIte]
      · simp only [modify, hl, lookup_entry, h, ih, ↓reduceIte]

@[simp] theorem keys_modify (key : String) (f : α → α) (es : List (String × α)) :
    keys (modify key f es) = keys es := by
  induction es with
  | nil => rfl
  | cons e rest ih =>
    by_cases h : e.1 = key
    · simp [modify, keys, h]
    · simpa [modify, keys, h] using ih

/-- A key that is present keeps its place, a new one comes last. -/
theorem keys_put (key : String) (value : α) (es : List (String × α)) :
    keys (put key value es) = if key ∈ keys es then keys es else keys es ++ [key] := by
  induction es with
  | nil => rfl
  | cons e rest ih =>
    by_cases h : e.1 = key
    · simp [put, keys, h]
    · have h' : key ≠ e.1 := fun same => h same.symm
      simp only [keys] at ih
      by_cases hk : key ∈ rest.map Prod.fst
      · simp only [put, h, keys, ↓reduceIte, List.map_cons, List.mem_cons, hk, or_true, ih]
      · simp only [put, h, keys, ↓reduceIte, List.map_cons, List.mem_cons, hk, h', or_self, ih,
          List.cons_append]

end Questionnaire.Ordered
