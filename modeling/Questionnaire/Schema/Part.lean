import Questionnaire.Schema.Shape
/-!
Parts of an object: one field, or several read together. A field may be spelled in two ways; the
first spelling that is present is the one that counts. What is absent is not written.
-/

namespace Questionnaire

/-- The two spellings of a field; the first is the one written. -/
structure Spelling where
  main : String
  other : String

def Spelling.plain (name : String) : Spelling := ⟨name, name⟩

/-- The spelling that counts in these entries. -/
def Spelling.used (s : Spelling) (es : Entries) : String :=
  if (es.lookup s.main).isSome then s.main else s.other

structure Part (α : Type) where
  /-- The keys of these entries that the part takes up. -/
  used : Entries → List String
  read : Entries → Checked α
  write : α → Entries

namespace Part

variable {α β : Type}

/-- A field that may be missing; then `absent` is the result. -/
def fieldOr (names : Spelling) (shape : Shape α) (absent : Checked α) : Part α where
  used es := [names.used es]
  read es :=
    let key := names.used es
    match es.lookup key with
    | some v => (shape.read v).within (.key key)
    | none => absent
  write a := if shape.isAbsent a then [] else [(names.main, shape.write a)]

def field (names : Spelling) (shape : Shape α) (default : α) : Part α :=
  fieldOr names shape (.ok default)

/-- A field that must be present. -/
def required (names : Spelling) (shape : Shape α) : Part α :=
  fieldOr names shape ((Checked.fault .missing).within (.key names.main))

def both (a : Part α) (b : Part β) : Part (α × β) where
  used es := a.used es ++ b.used es
  read es := Checked.both Prod.mk (a.read es) (b.read es)
  write x := a.write x.1 ++ b.write x.2

/-- The same part seen as another type. -/
def as (a : Part α) (build : α → β) (parts : β → α) : Part β where
  used := a.used
  read es := (a.read es).map build
  write b := a.write (parts b)

/-- The entries that the part does not take up. -/
def others (a : Part α) (es : Entries) : Entries := es.filter fun e => !(a.used es).contains e.1

end Part

/-- What is written of entries of whatever content: those with null are left out. -/
def Entries.written (es : Entries) : Entries :=
  Json.finiteEntries (es.filter fun e => !e.2.isNull)

end Questionnaire
