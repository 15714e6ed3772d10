import Falsify.Error

/-! # File trees

Folders and text files, addressed by the names on the way from the root, and the operations that appending to a
file is made of: the folders on the way to it are made, it is opened, and it is written to.  An access to a
place can be refused for a reason of its own, as when a permission is missing or the disk is full, so every one
of the operations can fail at every place.

* `read?_insert`: what is read after an entry was set.
* `read?_makeFolders`: making folders leaves every file as it was, also when it fails. -/

namespace Falsify

/-- What stands at a place of a file tree. -/
inductive FileEntry where
  | folder
  | file (content : String)
  deriving DecidableEq, Inhabited

/-- The names on the way from the root to a place. -/
abbrev Place := List String

/-- What can be wanted of a place. -/
inductive Access where
  /-- To go through the folder there. -/
  | enter
  /-- To make a folder there. -/
  | make
  /-- To open a file there so that it can be appended to, and to make it when it is missing. -/
  | append
  /-- To write to the file there. -/
  | write
  deriving DecidableEq, Inhabited

/-- Folders and files by their places.  The root is a folder that is always there. -/
structure FileTree where
  entry? : Place → Option FileEntry
  /-- Why an access to a place is refused, whatever stands there. -/
  refusal? : Access → Place → Option FileFault := fun _ _ => none

namespace FileTree

/-- The tree without files. -/
def empty : FileTree := { entry? := fun _ => none }

instance : Inhabited FileTree := ⟨empty⟩

/-- The tree with another entry at a place. -/
def insert (t : FileTree) (p : Place) (e : FileEntry) : FileTree :=
  { t with entry? := fun q => if q = p then some e else t.entry? q }

/-- The content of the file at a place, if there is one. -/
def read? (t : FileTree) (p : Place) : Option String :=
  match t.entry? p with
  | some (.file content) => some content
  | _ => none

/-- What is read from the place of a new file, and from every other place. -/
theorem read?_insert (t : FileTree) (p q : Place) (content : String) :
    (t.insert p (.file content)).read? q = if q = p then some content else t.read? q := by
  unfold read? insert
  by_cases h : q = p <;> simp [h]

/-- What comes of an access to a place, unless it is refused. -/
def unlessRefused {α : Type} (t : FileTree) (access : Access) (p : Place) (a : α) : Except FileFault α :=
  match t.refusal? access p with
  | some fault => .error fault
  | none => .ok a

/-! ## Folders -/

/-- Comes to the folder at a place, and makes it when it is missing; `last` says whether no other folder is
    wanted inside it.  Answers the tree with the folder. -/
def comeTo (t : FileTree) (p : Place) (last : Bool) : Except FileFault FileTree :=
  match t.entry? p with
  | some .folder => .ok t
  -- A file in the place of the last folder is in the way; one before it cannot be entered.
  | some (.file _) => .error (if last then .alreadyExists else .notADirectory)
  | none => t.unlessRefused .make p (t.insert p .folder)

/-- Makes the folders with the given names, each inside the one before, from a place on.  Answers the place
    that the names lead to, and the tree: what has been made stays, also when the next folder cannot be. -/
def makeFolders (t : FileTree) (here : Place) : List String → Except FileFault Place × FileTree
  | [] => (.ok here, t)
  | name :: names =>
    if name = ".." then makeFolders t here.dropLast names
    else
      match t.comeTo (here ++ [name]) names.isEmpty with
      | .error fault => (.error fault, t)
      | .ok t => makeFolders t (here ++ [name]) names

/-- Coming to a folder leaves every file as it was. -/
theorem read?_comeTo {t u : FileTree} {p : Place} {last : Bool} (h : t.comeTo p last = .ok u)
    (q : Place) : u.read? q = t.read? q := by
  unfold comeTo unlessRefused at h
  split at h
  · cases h
    rfl
  · cases h
  · rename_i hnone
    split at h
    · cases h
    · -- There was nothing in the place of the new folder, so no file is lost.
      cases h
      unfold read? insert
      by_cases hq : q = p
      · simp [hq, hnone]
      · simp [hq]

/-- Making folders leaves every file as it was, however far it comes. -/
theorem read?_makeFolders (t : FileTree) (here : Place) (names : List String) (p : Place) :
    (t.makeFolders here names).2.read? p = t.read? p := by
  induction names generalizing t here with
  | nil => rfl
  | cons name names ih =>
    unfold makeFolders
    split
    · exact ih t _
    · split
      · rfl
      · rename_i u hfolder
        exact (ih u _).trans (read?_comeTo hfolder p)

/-! ## Paths -/

/-- The folders that a path leads through and the name of the file in the last of them; a path that ends
    like that of a folder has no such name. -/
def splitPath (path : String) : List String × Option String :=
  let names := path.splitOn "/"
  let named := names.filter fun name => name ≠ "" ∧ name ≠ "."
  let last := names.getLastD ""
  (named.dropLast, if last = "" ∨ last = "." ∨ last = ".." then none else some last)

/-- The folders that are gone into on the way to what a path names.  A path that ends in dots names a folder by
    going into it. -/
def foldersOf (path : String) : List String :=
  let names := (path.splitOn "/").filter (· ≠ "")
  let named := names.filter (· ≠ ".")
  if names.getLastD "" = "." ∨ names.getLastD "" = ".." then named else named.dropLast

/-- The place that names lead to from a place on, where two dots lead back. -/
def walk (here : Place) (names : List String) : Place :=
  names.foldl (fun here name => if name = ".." then here.dropLast else here ++ [name]) here

/-- The place of a path. -/
def place (path : String) : Place :=
  walk [] ((splitPath path).1 ++ (splitPath path).2.toList)

/-- Whether a name has a character that no name may have. -/
def hasNul (name : String) : Bool := name.contains '\x00'

/-! ## Operations -/

/-- Makes the folders on the way to the file at a path where they are missing. -/
def makeParents (t : FileTree) (path : String) : Except FileFault Unit × FileTree :=
  if (splitPath path).1.any hasNul then (.error .invalidPath, t)
  else
    let made := t.makeFolders [] (splitPath path).1
    (made.1.map fun _ => (), made.2)

/-- Goes from a place on through the folders with the given names, all of which must be there. -/
def follow (t : FileTree) (here : Place) : List String → Except FileFault Unit
  | [] => .ok ()
  | name :: names =>
    if name = ".." then follow t here.dropLast names
    else
      match t.entry? (here ++ [name]) with
      | some .folder =>
        match t.refusal? .enter (here ++ [name]) with
        | some fault => .error fault
        | none => follow t (here ++ [name]) names
      | some (.file _) => .error .notADirectory
      | none => .error .notFound

/-- Opens the file at a path for appending, and makes it when it is missing.  Answers the tree with the file. -/
def openFile (t : FileTree) (path : String) : Except FileFault FileTree :=
  if hasNul path then .error .invalidPath
  else if path = "" then .error .notFound
  else
    match t.follow [] (foldersOf path), (splitPath path).2 with
    | .error fault, _ => .error fault
    | .ok (), none => .error .isADirectory
    | .ok (), some _ =>
      match t.entry? (place path) with
      | some .folder => .error .isADirectory
      | some (.file _) => t.unlessRefused .append (place path) t
      | none => t.unlessRefused .append (place path) (t.insert (place path) (.file ""))

/-- Writes to the end of the file at a path, which has been opened.  Answers the tree with the longer file. -/
def write (t : FileTree) (path text : String) : Except FileFault FileTree :=
  t.unlessRefused .write (place path)
    (t.insert (place path) (.file ((t.read? (place path)).getD "" ++ text)))

/-- Appends to the file at a path, making it and the folders on the way to it when they are missing. -/
def append (t : FileTree) (path content : String) : Except FileFault Unit × FileTree :=
  match t.makeParents path with
  | (.error fault, t) => (.error fault, t)
  | (.ok (), t) =>
    match t.openFile path with
    | .error fault => (.error fault, t)
    | .ok t =>
      match t.write path content with
      | .error fault => (.error fault, t)
      | .ok t => (.ok (), t)

/-- The tree with a folder at a path, and with the folders on the way to it. -/
def withFolder (t : FileTree) (path : String) : FileTree :=
  (t.makeFolders [] (splitPath (path ++ "/x")).1).2

end FileTree

end Falsify
