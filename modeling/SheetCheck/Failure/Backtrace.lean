import SheetCheck.Failure.Basic

/-!
# The trace of a failure

The message, and below it one line for each frame.  The further lines of a message are aligned
under its first one, so that none of them can be taken for a frame.
-/

namespace SheetCheck

/-- A line as text, or nothing when it is not known. -/
def Frame.lineText (f : Frame) : String :=
  match f.line with
  | some line => toString line
  | none => ""

namespace Failure

/-- What stands before the message. -/
def heading : String := "Syntax error: "

/-- A message with its further lines indented by the width of the heading. -/
def aligned (message : List Char) : List Char :=
  message.flatMap fun c => if c = '\n' then '\n' :: List.replicate 14 ' ' else [c]

/-- The line for a frame; `verb` is what leads to the place. -/
def frameLine (default verb : String) (f : Frame) : String :=
  let file := f.filename.getD default
  s!"\n        {verb} line {f.lineText} of {file}"

/-- The trace, in which frames without a file are said to lie in the file `default`. -/
def backtrace (e : Failure) (default : String) : String :=
  heading ++ String.ofList (aligned e.message.toList) ++ frameLine default "on" e.origin ++
    String.join (e.imports.map (frameLine default "from"))

end Failure

end SheetCheck
