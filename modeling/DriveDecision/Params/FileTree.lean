/-!
# Params/FileTree — files by path

Directories within directories, and what reading a path finds there: the bytes of a file, or the
reason there are none.
-/

namespace DriveDecision

/-- A file or a directory. -/
inductive FileTree where
  | file (bytes : ByteArray)
  | directory (entries : List (String × FileTree))

/-- Why a path cannot be read. -/
inductive ReadFault where
  | notFound
  | notADirectory
  | isADirectory
  | nameTooLong
  /-- The path holds a zero byte. -/
  | zeroByte
  | notText
  deriving DecidableEq, Repr

def ReadFault.message : ReadFault → String
  | notFound => "No such file or directory (os error 2)"
  | notADirectory => "Not a directory (os error 20)"
  | isADirectory => "Is a directory (os error 21)"
  | nameTooLong => "File name too long (os error 36)"
  | zeroByte => "file name contained an unexpected NUL byte"
  | notText => "stream did not contain valid UTF-8"

namespace FileTree

/-- What one component of a path leads to; a dot stays where it is. -/
def child (tree : FileTree) (name : String) : Except ReadFault FileTree :=
  match tree with
  | file _ => .error .notADirectory
  | directory entries =>
    if name = "" ∨ name = "." then .ok tree
    else if 255 < name.utf8ByteSize then .error .nameTooLong
    else match entries.lookup name with
      | some found => .ok found
      | none => .error .notFound

/-- **The bytes at a path.**  Two dots lead back to where the last component was looked up. -/
def walk (above : List FileTree) (tree : FileTree) : List String → Except ReadFault ByteArray
  | [] =>
    match tree with
    | file bytes => .ok bytes
    | directory _ => .error .isADirectory
  | ".." :: names =>
    match tree, above with
    | file _, _ => .error .notADirectory
    | directory _, [] => walk [] tree names
    | directory _, parent :: above => walk above parent names
  | name :: names => do
    let found ← tree.child name
    if name = "" ∨ name = "." then walk above tree names else walk (tree :: above) found names

/-- Read a path from the root on. -/
def read (tree : FileTree) (path : String) : Except ReadFault ByteArray :=
  if path.toList.contains '\x00' then .error .zeroByte
  else if path = "" then .error .notFound
  else if 4096 ≤ path.utf8ByteSize then .error .nameTooLong
  else tree.walk [] (path.splitOn "/")

end FileTree

end DriveDecision
