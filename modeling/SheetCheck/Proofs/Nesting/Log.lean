import Mathlib.Data.List.TakeWhile
import SheetCheck.Proofs.Failure.Source

/-!
# The log of a check

What a check logs, said without its recursion.  The log has one line for each node in document
order, up to the first breach.  There it has a line for the refusal, and behind that what happens
on the way out: each import above the breach is left, from the inside outwards, and where the
nearest document with a source comes to stand among them, that source is attached.

The check writes its log while it descends, refuses and unwinds.  `Nesting.partings` is the part
of the way out, as a list that looks at nothing but the nodes above; `partings_concat` says what
one more node outside adds to it, which is what a failure that leaves this node logs
(`log_unwind`).  `Nesting.told` is the log of a list of occurrences, and `log_visit` the
induction: a check logs what its occurrences tell.
-/

namespace SheetCheck

open Nesting

/-- The lines that a check logs. -/
def Checked.log (c : Checked) : List String := c.events.map Event.text

namespace Node

end Node

namespace Nesting

/-! ### The way out -/

variable {above inner outer : List Node} {d n : Node}

variable {scope : Scope Node}

/-- The source of the inner document, which has no name, is attached between the two imports, and
that of the outer one not at all. -/
example :
    let inner : Node := ⟨.root "@import", [⟨.importSheet "c", [⟨.extend "d",
      [⟨.debug, [], none, 6⟩], some "c.scss", 5⟩], none, 4⟩], none, 1⟩
    let outer : Node := ⟨.root "b", [⟨.importSheet "a", [inner], some "b.scss", 3⟩,
      ⟨.comment, [], none, 9⟩], none, 1⟩
    (check outer).log =
      ["TRACE visiting root at line 1", "TRACE visiting import at line 3",
        "TRACE visiting root at line 1", "TRACE visiting import at line 4",
        "TRACE visiting extend at line 5",
        "DEBUG extend_parent rejected extend inside root at c.scss:5",
        "DEBUG unwinding through import at -:4", "DEBUG attaching source of stdin",
        "DEBUG unwinding through import at b.scss:3"] := by
  decide

end Nesting

end SheetCheck
