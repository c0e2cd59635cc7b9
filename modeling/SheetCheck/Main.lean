import SheetCheck.Command.Run

/-!
# The program

Reads the files that the arguments name, runs the check and writes what it answers.
-/

namespace SheetCheck.Main

open SheetCheck.Command

/-- The reason for an error of the system. -/
def readFault : IO.Error → ReadFault
  | .noFileOrDirectory .. => .notFound
  | .inappropriateType .. => .notDirectory
  | .invalidArgument _ _ "name too long" => .nameTooLong
  | e => .other (toString e)

/-- Whether a path leads to a directory. -/
def isDirectory (path : String) : IO Bool := do
  ((← IO.currentDir) / path).isDir

/-- Reads a file. -/
def readFile (path : String) : IO Entry := do
  try return .file (.ok (← IO.FS.readBinFile path))
  catch e => return .file (.error (readFault e))

/-- Reads the directories and the files with trees below a directory. -/
partial def readDirectory (path : String) : IO Entry := do
  try
    let found ← ((← IO.currentDir) / path).readDir
    let read ← found.toList.mapM fun e => do
      let inner := Entry.joinStep path e.fileName
      if ← isDirectory inner then return [(e.fileName, ← readDirectory inner)]
      else if isTreeName e.fileName then return [(e.fileName, ← readFile inner)]
      else return []
    return .directory read.flatten
  catch e => return .closed (readFault e)

/-- What stands under a path. -/
def read (path : String) : IO Entry := do
  if ← isDirectory path then readDirectory path else readFile path

/-- A plain report: the code, the message, the marked part of the source and the advice. -/
def rendering : Rendering := fun d =>
  let code := match d.code with
    | some code => code ++ "\n\n"
    | none => ""
  let excerpt := match d.source, d.label with
    | some t, some l =>
      let marked := t.text.toUTF8.extract l.span.offset (l.span.offset + l.span.length)
      s!"   --> {t.name}\n    | " ++ (String.fromUTF8? marked).getD "" ++ "\n"
    | _, _ => ""
  let help := match d.help with
    | some help => s!"  help: {help}\n"
    | none => ""
  code ++ s!"  x {d.message}\n" ++ excerpt ++ help

/-- Whether the terminal shows colours. -/
def coloured : IO Bool := do
  let term ← IO.getEnv "TERM"
  let refused ← IO.getEnv "NO_COLOR"
  return term.any (· ≠ "dumb") && refused.isNone

/-- Runs the program with some arguments and answers its exit code. -/
def program (args : List String) : IO UInt32 := do
  let paths := match Options.ofArguments args with
    | .ok options => options.paths
    | .error _ => []
  let found ← paths.mapM fun path => do return (path, ← read path)
  let lookup : Lookup := fun path =>
    match found.lookup path with
    | some e => .ok e
    | none => .error .notFound
  let result := run rendering lookup (← coloured) args
  IO.print result.output.out
  IO.eprint result.output.err
  return UInt32.ofNat result.code

end SheetCheck.Main

/-- The program. -/
def main (args : List String) : IO UInt32 :=
  SheetCheck.Main.program args
