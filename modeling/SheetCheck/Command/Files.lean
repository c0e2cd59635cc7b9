/-!
# Files and directories

A tree of named files, and how a path is followed in it.  A path leads from one directory to the
next; an empty step or a dot stays, and two dots lead back.  A path has a greatest length, so that
how deep one can look below a directory depends on the path that leads there.
-/

namespace SheetCheck.Command

/-- Why a file cannot be read. -/
inductive ReadFault where
  | notFound
  | notDirectory
  | nameTooLong
  | notText
  /-- Any other reason, in the words of the system. -/
  | other (reason : String)
deriving DecidableEq, Repr

namespace ReadFault

/-- The words for a reason. -/
def message : ReadFault → String
  | notFound => "No such file or directory (os error 2)"
  | notDirectory => "Not a directory (os error 20)"
  | nameTooLong => "File name too long (os error 36)"
  | notText => "stream did not contain valid UTF-8"
  | other reason => reason

end ReadFault

/-- A file or a directory. -/
inductive Entry where
  /-- A file: its content, or why that cannot be read. -/
  | file (content : Except ReadFault ByteArray)
  | directory (entries : List (String × Entry))
  /-- A directory whose entries cannot be listed. -/
  | closed (fault : ReadFault)

/-- What stands under a path, or why nothing can be found there. -/
abbrev Lookup := String → Except ReadFault Entry

namespace Entry

/-- An empty directory. -/
def empty : Entry := .directory []

/-- The most bytes that a name may have. -/
def maxName : Nat := 255

/-- The most bytes that a path may have. -/
def maxPath : Nat := 4095

/-- Follows the steps of a path from `here`, which `above` leads to, the nearest first. -/
def follow (above : List Entry) (here : Entry) : List String → Except ReadFault Entry
  | [] => .ok here
  | step :: steps =>
    match here with
    | file _ => .error .notDirectory
    | closed fault => .error fault
    | directory entries =>
      if step = "" ∨ step = "." then follow above here steps
      else if step = ".." then
        match above with
        | [] => .error .notFound
        | parent :: above => follow above parent steps
      else if maxName < step.utf8ByteSize then .error .nameTooLong
      else
        match entries.lookup step with
        | none => .error .notFound
        | some entry => follow (here :: above) entry steps

/-- The steps of a path. -/
def steps (path : String) : List String :=
  path.splitOn "/"

/-- The path to an entry of the directory that `path` leads to. -/
def joinStep (path step : String) : String :=
  if path.endsWith "/" then path ++ step else path ++ "/" ++ step

mutual

/-- An entry as it is seen at `path`: where a path is too long, there is nothing to read. -/
def seenAt (path : String) : Entry → Entry
  | file content => file (if maxPath < path.utf8ByteSize then .error .nameTooLong else content)
  | directory entries =>
    if maxPath < path.utf8ByteSize then closed .nameTooLong
    else directory (seenBelow path entries)
  | closed fault => closed fault

/-- The entries of a directory as they are seen when `path` leads to it. -/
def seenBelow (path : String) : List (String × Entry) → List (String × Entry)
  | [] => []
  | (name, e) :: es => (name, seenAt (joinStep path name) e) :: seenBelow path es

end

/-- What stands under a relative path; nothing is known outside the directory. -/
def find (top : Entry) : Lookup := fun path =>
  if maxPath < path.utf8ByteSize then .error .nameTooLong
  else if path = "" ∨ path.startsWith "/" then .error .notFound
  else (follow [] top (steps path)).map (seenAt path)

/-- The entries with `entry` under `name`, in place of one that was there. -/
def replace (name : String) (entry : Entry) : List (String × Entry) → List (String × Entry)
  | [] => [(name, entry)]
  | (other, e) :: es =>
    if other = name then (name, entry) :: es else (other, e) :: replace name entry es

/-- The entries of a directory, as far as they are known. -/
def entries : Entry → List (String × Entry)
  | directory es => es
  | file _ | closed _ => []

/-- The tree with the entry at the end of some steps changed; the directories that lead there are
made where they are missing. -/
def change (f : Entry → Entry) : List String → Entry → Entry
  | [], top => f top
  | step :: steps, top =>
    if step = "" ∨ step = "." then change f steps top
    else
      let inner := (top.entries.lookup step).getD empty
      directory (replace step (change f steps inner) top.entries)

/-- The tree with `entry` at the end of some steps. -/
def put (entry : Entry) : List String → Entry → Entry := change fun _ => entry

/-- The tree with a directory at the end of some steps; one that is there keeps its entries. -/
def putDirectory : List String → Entry → Entry := change fun e => directory e.entries

end Entry

end SheetCheck.Command
