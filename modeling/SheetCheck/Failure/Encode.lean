import SheetCheck.Failure.Basic
import SheetCheck.Json.Printer

/-!
# Failures as JSON
-/

namespace SheetCheck

/-- A line that may be missing, as JSON. -/
def lineToJson : Option UInt64 → Json.Value :=
  .ofOption fun line => .ofNat line.toNat

/-- A frame as JSON. -/
def Frame.toJson (f : Frame) : Json.Value :=
  .object [("filename", .ofString? f.filename), ("line", lineToJson f.line)]

/-- The frames of a trace as JSON. -/
def Frame.listToJson (fs : List Frame) : Json.Value :=
  .array (fs.map Frame.toJson)

/-- A failure as JSON: its message, its rule and its frames. -/
def Failure.toJson (e : Failure) : Json.Value :=
  .object [("message", .string e.message), ("rule", .ofString? e.rule),
    ("frames", Frame.listToJson e.frames)]

end SheetCheck
