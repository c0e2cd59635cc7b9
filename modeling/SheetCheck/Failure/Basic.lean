/-!
# Failures

A failure starts out at a place that is not known yet, its innermost frame.  On the way out of
the tree missing fields of the frames are filled in, and every import adds a frame outside the
others.  The first document on the way lends its source.
-/

namespace SheetCheck

/-- A place in the trace of a failure. -/
structure Frame where
  filename : Option String
  line : Option UInt64
deriving DecidableEq, Repr

namespace Frame

/-- A place of which nothing is known. -/
def unknown : Frame := ⟨none, none⟩

/-- The frame with its missing fields taken from another. -/
def or (f g : Frame) : Frame := ⟨f.filename.or g.filename, f.line.or g.line⟩

/-- What is left of `g` for the frames further in: a field that `f` has goes no further. -/
def blocks (f g : Frame) : Frame :=
  ⟨if f.filename.isSome then none else g.filename, if f.line.isSome then none else g.line⟩

/-- Fills missing fields of frames from `g`, the outermost frame (the last) first.  Answers what is
left of `g` for a frame before them, too. -/
def fillAll (g : Frame) : List Frame → List Frame × Frame
  | [] => ([], g)
  | f :: fs =>
    let (fs, g) := fillAll g fs
    (f.or g :: fs, f.blocks g)

end Frame

/-- The source text of a document, and its file. -/
structure Template where
  filename : Option String
  text : String
deriving DecidableEq, Repr

/-- A violation of the nesting rules on its way out of a tree. -/
structure Failure where
  message : String
  rule : Option String
  /-- The place of the violation. -/
  origin : Frame
  /-- The imports around it, the outermost last. -/
  imports : List Frame
  template : Option Template
deriving DecidableEq, Repr

namespace Failure

/-- A failure at an unknown place. -/
def new (message : String) : Failure := ⟨message, none, .unknown, [], none⟩

/-- The frames from the innermost to the outermost. -/
def frames (e : Failure) : List Frame := e.origin :: e.imports

/-- Records the rule. -/
def withRule (e : Failure) (rule : String) : Failure := { e with rule := some rule }

/-- Fills missing fields of the frames, from the outermost inwards, up to the first frame that has
the field. -/
def fill (e : Failure) (g : Frame) : Failure :=
  let (imports, g) := Frame.fillAll g e.imports
  { e with origin := e.origin.or g, imports }

/-- Adds a frame outside the others. -/
def addFrame (e : Failure) (f : Frame) : Failure := { e with imports := e.imports ++ [f] }

/-- Attaches the source of a document, unless one is attached. -/
def attach (e : Failure) (t : Template) : Failure := { e with template := e.template.or (some t) }

end Failure

end SheetCheck
