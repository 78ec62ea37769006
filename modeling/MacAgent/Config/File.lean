import MacAgent.Text.Blank

/-! # Files

A path leads through directories to a file. The names along it are followed one after the other, and
the first that leads nowhere decides why there is nothing to read. -/

namespace MacAgent

/-- Why a path gives no text. -/
inductive FileFault where
  | missing
  /-- A name is followed by others, but is no directory's. -/
  | notDirectory
  | isDirectory
  /-- The path, or a name in it, is longer than the system allows. -/
  | nameTooLong
  /-- The bytes of the file are no UTF-8. -/
  | notText
deriving DecidableEq, Repr

def FileFault.message : FileFault → String
  | missing => "No such file or directory (os error 2)"
  | notDirectory => "Not a directory (os error 20)"
  | isDirectory => "Is a directory (os error 21)"
  | nameTooLong => "File name too long (os error 36)"
  | notText => "stream did not contain valid UTF-8"

abbrev FileContent := Except FileFault (List UInt8)

def FileContent.text (content : FileContent) : Except FileFault String := do
  match String.fromUTF8? (ByteArray.mk (← content).toArray) with
  | some text => return text
  | none => throw .notText

/-- A file with its bytes, or a directory with its entries. -/
inductive FileTree where
  | file (content : List UInt8)
  | directory (entries : List (String × FileTree))
deriving Inhabited

namespace FileTree

def pathLimit : Nat := 4095

def nameLimit : Nat := 255

/-- The names along a path, between slashes. -/
def names (path : String) : List String :=
  (Text.splitAtEach (· = '/') path.toList).map String.ofList

/-- Follows names. The directories above, from the nearest on, are those to which two dots lead; the
root is above itself. One dot, like no name at all, leads to where it stands. -/
def walk (above : List FileTree) (here : FileTree) : List String → Except FileFault FileTree
  | [] => .ok here
  | name :: rest =>
    match here with
    | file _ => .error .notDirectory
    | directory entries =>
      if name = "" ∨ name = "." then walk above here rest
      else if name = ".." then walk above.tail (above.headD here) rest
      else if nameLimit < name.utf8ByteSize then .error .nameTooLong
      else
        match entries.lookup name with
        | some tree => walk (here :: above) tree rest
        | none => .error .missing

/-- The tree at a path. A path that begins with a slash is followed from the root, any other one
from the directory of the names in `home`. -/
def find (root : FileTree) (home : List String) (path : String) : Except FileFault FileTree :=
  if path.isEmpty then .error .missing
  else if pathLimit < path.utf8ByteSize then .error .nameTooLong
  else if path.toList.head? = some '/' then walk [] root (names path)
  else walk [] root (home ++ names path)

/-- The bytes of the file at a path. -/
def read (root : FileTree) (home : List String) (path : String) : FileContent := do
  match ← find root home path with
  | file content => return content
  | directory _ => throw .isDirectory

end FileTree

end MacAgent
