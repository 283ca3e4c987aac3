import FluentKotlin.Store.Basic

/-! # File trees

A store that is a value: the directories and files below one root, by the way to them. Above every
entry there are directories, and the root is one.
-/

namespace FluentKotlin

inductive FileEntry where
  | directory
  | file (text : String)
  deriving DecidableEq, Repr, Inhabited

def FileEntry.kind : FileEntry → EntryKind
  | directory => .directory
  | file _ => .file

structure FileTree where
  entries : List (String × FileEntry) := []
  deriving DecidableEq, Repr, Inhabited

namespace FileTree

/-- The names on the way from the root, one after the other. -/
def way (names : List String) : String := String.intercalate "/" names

def get? (t : FileTree) (names : List String) : Option FileEntry :=
  if names.isEmpty then some .directory else t.entries.lookup (way names)

def isDirectory (t : FileTree) (names : List String) : Bool := t.get? names == some .directory

/-- Where names lead to from a place, if every place on the way is a directory. -/
def walk (t : FileTree) : List String → List String → Option (List String)
  | here, [] => some here
  | here, name :: names =>
    if t.isDirectory here then
      walk t (if name = ".." then here.dropLast else here ++ [name]) names
    else none

/-- What stands at a path, seen from the root. -/
def at? (t : FileTree) (path : Path) : Option FileEntry :=
  (t.walk [] path.names).bind t.get?

/-- Is a name reached on the way that no directory can hold? -/
def reachesTooLong (t : FileTree) (path : Path) : Bool :=
  let before := path.names.takeWhile fun name => !EntryName.isTooLong name
  before.length < path.names.length && (t.walk [] before).any t.isDirectory

/-- What kind of entry stands at a path. A path that leads nowhere is one where nothing stands. -/
def kindAt (t : FileTree) (path : Path) : Except StoreError (Option EntryKind) :=
  if path.fault?.isSome then .ok none
  else if path.isTooLong || t.reachesTooLong path then .error (.tooLong path)
  else .ok ((t.at? path).map FileEntry.kind)

def put (names : List String) (entry : FileEntry) (t : FileTree) : FileTree :=
  ⟨(way names, entry) :: t.entries.filter (·.1 != way names)⟩

theorem lookup_filter_ne {way other : String} (h : other ≠ way) (es : List (String × FileEntry)) :
    (es.filter (·.1 != way)).lookup other = es.lookup other := by
  induction es with
  | nil => rfl
  | cons e es ih =>
    obtain ⟨k, x⟩ := e
    by_cases he : k = way
    · subst he
      simp [List.lookup_cons, ih, beq_false_of_ne h]
    · simp [List.lookup_cons, he, ih]

theorem get?_put (names : List String) (entry : FileEntry) (t : FileTree) {other : List String}
    (ho : other ≠ []) :
    (t.put names entry).get? other =
      if way other = way names then some entry else t.get? other := by
  by_cases hw : way other = way names
  · simp [get?, put, ho, hw]
  · simp [get?, put, ho, hw, List.lookup_cons, beq_false_of_ne hw, lookup_filter_ne hw]

def isInside (directory : List String) (way : String) : Bool :=
  directory.isEmpty || Text.startsWith (FileTree.way directory ++ "/") way

def hasInside (t : FileTree) (directory : List String) : Bool :=
  t.entries.any fun e => isInside directory e.1

/-- Make the directories on the way from a place, unless a file stands there. -/
def makeDirectories (t : FileTree) : List String → List String → Except StoreError FileTree
  | _, [] => .ok t
  | here, name :: names =>
    let next := here ++ [name]
    match t.get? next with
    | some .directory => makeDirectories t next names
    | some (.file _) =>
      .error (if names.isEmpty then .occupied ⟨"/", next⟩ else .notDirectory ⟨"/", next⟩)
    | none =>
      if EntryName.isTooLong name then .error (.tooLong ⟨"/", next⟩)
      else makeDirectories (t.put next .directory) next names

/-- The path, if an operation can be asked for at it. -/
def checked (path : Path) : Except StoreError Path :=
  match path.fault? with
  | some fault => .error (.badName fault)
  | none => if path.isTooLong then .error (.tooLong path) else .ok path

def makeDirectory (t : FileTree) (path : Path) : Except StoreError FileTree := do
  t.makeDirectories [] (← checked path).names

def writeFile (t : FileTree) (path : Path) (text : String) : Except StoreError FileTree := do
  let names := (← checked path).names
  if names.any EntryName.isTooLong then throw (.tooLong path)
  else if t.isDirectory names then throw (.isDirectory path)
  else if Text.holdsHalf text then throw (.noBytes text)
  else return t.put names (.file text)

def readFile (t : FileTree) (path : Path) : Except StoreError String :=
  match t.at? path with
  | some (.file text) => .ok text
  | some .directory => .error (.isDirectory path)
  | none => .error (.missing path)

end FileTree

/-- Computations on a file tree. -/
abbrev Filing := StateT FileTree (Except StoreError)

namespace Filing

def resolve (directory path : Path) : Except StoreError Path :=
  match path.names.findSome? EntryName.fault? with
  | some fault => .error (.badName fault)
  | none => .ok (directory.resolve path)

/-- The path with the names by which its entries are shown. -/
def shown (path : Path) : Path :=
  if path.fault?.isNone then { path with names := path.names.map EntryName.shown } else path

end Filing

instance : FileStore Filing where
  resolve directory path := do Filing.resolve directory path
  kind? path := do (← get).kindAt (Filing.shown path)
  read path := do (← get).readFile (Filing.shown path)
  isEmpty path := do return !(← get).hasInside (Filing.shown path).names
  makeDirectory path := do set (← (← get).makeDirectory (Filing.shown path))
  write path text := do set (← (← get).writeFile (Filing.shown path) text)

end FluentKotlin
