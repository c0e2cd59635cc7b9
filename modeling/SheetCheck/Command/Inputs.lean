import SheetCheck.Command.Files

/-!
# The files of a run

A path that leads to a directory stands for all files with the extension `json` at any depth
below it, in the order of their names, compared step by step.  Every other path stands for
itself, whether it can be read or not.  A directory that cannot be listed, at or below a path,
leaves it open which files are meant.
-/

namespace SheetCheck.Command

namespace Entry

mutual

/-- All files at or below an entry, each with the steps that lead to it from `here`, the last step
first. -/
def files (here : List String) : Entry → List (List String × Except ReadFault ByteArray)
  | file content => [(here, content)]
  | directory entries => filesIn here entries
  | closed _ => []

/-- All files at or below entries. -/
def filesIn (here : List String) :
    List (String × Entry) → List (List String × Except ReadFault ByteArray)
  | [] => []
  | (name, e) :: es => files (name :: here) e ++ filesIn here es

end

mutual

/-- All directories at or below an entry that cannot be listed, each with the steps that lead to it
from `here`, the last step first. -/
def closedParts (here : List String) : Entry → List (List String × ReadFault)
  | file _ => []
  | directory entries => closedPartsIn here entries
  | closed fault => [(here, fault)]

/-- All directories at or below entries that cannot be listed. -/
def closedPartsIn (here : List String) : List (String × Entry) → List (List String × ReadFault)
  | [] => []
  | (name, e) :: es => closedParts (name :: here) e ++ closedPartsIn here es

end

end Entry

/-- Whether a file name consists of a stem that is not empty and the extension `json`. -/
def isTreeName (name : String) : Bool :=
  let (extension, rest) := name.toList.reverse.span (· ≠ '.')
  extension.reverse == "json".toList && 2 ≤ rest.length

/-- Whether a list does not come behind another in the order of a dictionary, in which `lt` compares
the items. -/
def lexLe (lt : α → α → Bool) : List α → List α → Bool
  | [], _ => true
  | _ :: _, [] => false
  | a :: as, b :: bs => lt a b || (!lt b a && lexLe lt as bs)

/-- Whether a name comes before another: by their code points, which is also the order of their
bytes. -/
def nameLt (a b : String) : Bool :=
  !lexLe (fun c d => c.toNat < d.toNat) b.toList a.toList

/-- Whether some steps do not come behind others: step by step. -/
def stepsLe (a b : List String) : Bool :=
  lexLe nameLt a b

/-- The files below an entry that hold trees, in the order of their steps. -/
def treeFiles (e : Entry) : List (List String × Except ReadFault ByteArray) :=
  let named := (e.files []).filter fun (here, _) => here.head?.any isTreeName
  (named.map fun (here, content) => (here.reverse, content)).mergeSort fun a b => stepsLe a.1 b.1

/-- A path, and steps that lead further. -/
def joinPath (path : String) (steps : List String) : String :=
  steps.foldl Entry.joinStep path

/-- A file to check: the path under which it is reported, and its content. -/
structure Source where
  path : String
  content : Except ReadFault ByteArray

/-- Why the files that a path stands for cannot be told. -/
structure WalkFault where
  path : String
  /-- The directory that cannot be listed. -/
  place : String
  reason : ReadFault
deriving DecidableEq, Repr

/-- The words for such a fault. -/
def WalkFault.message (f : WalkFault) : String :=
  s!"failed to walk '{f.path}': IO error for operation on {f.place}: {f.reason.message}"

/-- The files that a path stands for. -/
def sourcesOf (lookup : Lookup) (path : String) : Except WalkFault (List Source) :=
  match lookup path with
  | .error fault => .ok [⟨path, .error fault⟩]
  | .ok (.file content) => .ok [⟨path, content⟩]
  | .ok e =>
    match e.closedParts [] with
    | (here, reason) :: _ => .error ⟨path, joinPath path here.reverse, reason⟩
    | [] => .ok ((treeFiles e).map fun (steps, content) => ⟨joinPath path steps, content⟩)

/-- The files that some paths stand for, one path after the other. -/
def sources (lookup : Lookup) : List String → Except WalkFault (List Source)
  | [] => .ok []
  | path :: paths => do
    let found ← sourcesOf lookup path
    let others ← sources lookup paths
    .ok (found ++ others)

end SheetCheck.Command
