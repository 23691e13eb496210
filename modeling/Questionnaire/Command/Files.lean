import Questionnaire.Text.Quoted
/-!
The files that commands read and write: texts by name, in folders that names with slashes imply. A
name is followed part by part, from the root or from the working folder.
-/

namespace Questionnaire

/-- Texts by name; a name is its parts joined by slashes. -/
abbrev Files := List (String × String)

/-- What can be wrong with a name. -/
inductive NameFault where
  | missing
  | notFolder
  | isFolder
  | tooLong
  /-- A zero character is in it, which no name can hold. -/
  | zeroCharacter
deriving DecidableEq, Repr

structure FileError where
  fault : NameFault
  name : String
deriving DecidableEq, Repr

def FileError.message (e : FileError) : String :=
  match e.fault with
  | .missing => s!"[Errno 2] No such file or directory: {Text.quoted e.name}"
  | .notFolder => s!"[Errno 20] Not a directory: {Text.quoted e.name}"
  | .isFolder => s!"[Errno 21] Is a directory: {Text.quoted e.name}"
  | .tooLong => s!"[Errno 36] File name too long: {Text.quoted e.name}"
  | .zeroCharacter => "embedded null byte"

namespace Files

/-- A place that a name leads to: the way there from the root or from the working folder, its last
part first. A way that leaves the working folder has double points where it goes up. -/
structure Place where
  fromRoot : Bool
  way : List String := []
deriving DecidableEq, Repr

namespace Place

/-- The place one part on; a double point leads up, though not above the root. -/
def step (p : Place) (part : String) : Place :=
  if part = ".." then
    match p.way with
    | [] => if p.fromRoot then p else ⟨false, [".."]⟩
    | last :: before => if last = ".." then ⟨p.fromRoot, ".." :: p.way⟩ else ⟨p.fromRoot, before⟩
  else ⟨p.fromRoot, part :: p.way⟩

def name (p : Place) : String :=
  let joined := "/".intercalate p.way.reverse
  if p.fromRoot then "/" ++ joined else if joined.isEmpty then "." else joined

/-- Every place on the way along these parts. -/
def along (p : Place) : List String → List Place
  | [] => []
  | part :: rest => p.step part :: along (p.step part) rest

end Place

/-- The parts of a name between slashes, without those that say nothing. -/
def parts (name : String) : List String :=
  ((name.toList.splitOn '/').map String.ofList).filter fun p => !p.isEmpty && p != "."

/-- The slashes in front of a name: none, two if there are just two, else one. -/
def rootMark (name : String) : String :=
  match (name.toList.takeWhile (· == '/')).length with
  | 0 => ""
  | 2 => "//"
  | _ => "/"

/-- A name without needless parts; a single point for the folder itself. -/
def plainName (name : String) : String :=
  let plain := rootMark name ++ "/".intercalate (parts name)
  if plain.isEmpty then "." else plain

/-- Where a name starts from. -/
def start (name : String) : Place := ⟨!(rootMark name).isEmpty, []⟩

def isFolder (files : Files) (p : Place) : Bool :=
  p.way.all (· == "..") || files.any fun f => f.1.startsWith (p.name ++ "/")

def text? (files : Files) (p : Place) : Option String := files.lookup p.name

/-- The most bytes that a part of a name can have. -/
def partLimit : Nat := 255

/-- The most bytes that a name can have. -/
def nameLimit : Nat := 4095

/-- Follows parts of a name from a folder. All but the last must lead to folders. -/
def follow (files : Files) (p : Place) : List String → Except NameFault Place
  | [] => .ok p
  | part :: rest =>
    let next := p.step part
    if partLimit < part.utf8ByteSize then .error .tooLong
    else if rest.isEmpty then .ok next
    else if files.isFolder next then follow files next rest
    else if (files.text? next).isSome then .error .notFolder
    else .error .missing

/-- The place of a name. -/
def locate (files : Files) (name : String) : Except NameFault Place :=
  if name.toList.contains '\x00' then .error .zeroCharacter
  else if nameLimit < name.utf8ByteSize then .error .tooLong
  else files.follow (start name) (parts name)

/-- Line ends are read as one character, however they are written. -/
def unifyBreaks : List Char → List Char
  | '\r' :: '\n' :: cs => '\n' :: unifyBreaks cs
  | '\r' :: cs => '\n' :: unifyBreaks cs
  | c :: cs => c :: unifyBreaks cs
  | [] => []

/-- The text of a file. -/
def textAt (files : Files) (name : String) : Except NameFault String := do
  let place ← files.locate name
  match files.text? place with
  | some text => return String.ofList (unifyBreaks text.toList)
  | none => .error (if files.isFolder place then .isFolder else .missing)

/-- The place where a file of this name can be written. -/
def writable (files : Files) (name : String) : Except NameFault Place := do
  let place ← files.locate name
  if files.isFolder place then .error .isFolder else return place

/-- An operation on the plain form of a name, which is the form that its faults tell. -/
def named {α : Type} (op : String → Except NameFault α) (name : String) : Except FileError α :=
  (op (plainName name)).mapError fun fault => ⟨fault, plainName name⟩

def read (files : Files) : String → Except FileError String := named files.textAt

/-- The plain name under which a file can be written. -/
def target (files : Files) (name : String) : Except FileError String :=
  (named files.writable name).map Place.name

end Files
end Questionnaire
