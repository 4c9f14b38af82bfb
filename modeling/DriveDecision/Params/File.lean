import DriveDecision.Params.FileTree
import DriveDecision.Params.Parameters

/-!
# Params/File — parameters from a file

What goes wrong is told with the path: first what was being done, then why it failed.
-/

namespace DriveDecision

/-- Why a parameter file gives no parameters. -/
inductive LoadError where
  | unreadable (path : String) (fault : ReadFault)
  | refused (path : String) (cause : ParameterError)
  deriving Repr

def LoadError.message? : LoadError → Option String
  | unreadable path fault => some s!"reading parameter file {path}: {fault.message}"
  | refused path cause => cause.message?.map fun text => s!"parsing {path}: {text}"

namespace Parameters

/-- The parameters in the bytes at a path. -/
def ofBytes (path : String) (bytes : ByteArray) : Except LoadError Parameters :=
  match String.fromUTF8? bytes with
  | none => .error (.unreadable path .notText)
  | some text => (ofText text).mapError (.refused path)

/-- **Load the parameters at a path.** -/
def load (tree : FileTree) (path : String) : Except LoadError Parameters :=
  match tree.read path with
  | .error fault => .error (.unreadable path fault)
  | .ok bytes => ofBytes path bytes

end Parameters

end DriveDecision
