import FluentKotlin.Store.Name

/-! # File stores

What a command needs of the place where its files are: to find a place by its path, to ask what
stands there, to read and to write a file, and to make a directory with all directories above it. A
text that holds half of a character has no bytes, so no file can have it.
-/

namespace FluentKotlin

inductive EntryKind where
  | directory
  | file
  deriving DecidableEq, Repr, Inhabited

/-- Why a store refuses an operation. -/
inductive StoreError where
  /-- There is nothing at the path. -/
  | missing (path : Path)
  /-- A file is needed, and a directory stands there. -/
  | isDirectory (path : Path)
  /-- A directory is needed above, and a file stands there. -/
  | notDirectory (path : Path)
  /-- A directory is to be made where a file stands. -/
  | occupied (path : Path)
  /-- The path or a name in it has too many bytes. -/
  | tooLong (path : Path)
  | badName (fault : NameFault)
  /-- The text of a file holds halves of characters. -/
  | noBytes (text : String)
  deriving DecidableEq, Repr, Inhabited

class FileStore (m : Type → Type) where
  /-- The place of a path seen from a directory. -/
  resolve (directory path : Path) : m Path
  kind? (path : Path) : m (Option EntryKind)
  read (path : Path) : m String
  isEmpty (path : Path) : m Bool
  makeDirectory (path : Path) : m Unit
  write (path : Path) (text : String) : m Unit

end FluentKotlin
