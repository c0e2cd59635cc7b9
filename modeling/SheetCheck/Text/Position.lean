/-!
# Places in a text

A place in a text is told by its line, counted from one, and its column: the number of bytes
of that line, in UTF-8, that lie before it.  Columns count bytes and not characters, so a
place may lie inside a character.
-/

namespace SheetCheck.Text

/-- The number of bytes that the characters take in UTF-8. -/
def byteLength (cs : List Char) : Nat :=
  cs.foldl (fun n c => n + c.utf8Size) 0

theorem foldl_utf8Size (cs : List Char) (n : Nat) :
    cs.foldl (fun n c => n + c.utf8Size) n = n + byteLength cs := by
  induction cs generalizing n with
  | nil => simp [byteLength]
  | cons c cs ih =>
    have h := ih (0 + c.utf8Size)
    rw [byteLength, List.foldl_cons, List.foldl_cons, ih, h]
    omega

@[simp] theorem byteLength_nil : byteLength [] = 0 := rfl

@[simp] theorem byteLength_cons (c : Char) (cs : List Char) :
    byteLength (c :: cs) = c.utf8Size + byteLength cs := by
  have h := foldl_utf8Size cs (0 + c.utf8Size)
  rw [byteLength, List.foldl_cons, h]
  omega

@[simp] theorem byteLength_append (as bs : List Char) :
    byteLength (as ++ bs) = byteLength as + byteLength bs := by
  induction as with
  | nil => simp
  | cons a as ih => simp only [List.cons_append, byteLength_cons, ih]; omega

/-- Every character takes at least one byte. -/
theorem length_le_byteLength (cs : List Char) : cs.length ≤ byteLength cs := by
  induction cs with
  | nil => simp
  | cons c cs ih =>
    have := c.utf8Size_pos
    simp only [List.length_cons, byteLength_cons]
    omega

/-- A place in a text. -/
structure Position where
  /-- The line, counted from one. -/
  line : Nat
  /-- The number of bytes before the place on its line. -/
  column : Nat
deriving DecidableEq, Repr

namespace Position

/-- The place before the first character. -/
def start : Position := ⟨1, 0⟩

/-- The place after one more character; a line feed opens a new line. -/
def next (p : Position) (c : Char) : Position :=
  if c = '\n' then ⟨p.line + 1, 0⟩ else ⟨p.line, p.column + c.utf8Size⟩

/-- The place `n` bytes further on in a text, or its end when the text is shorter. -/
def afterBytes (p : Position) (n : Nat) : List Char → Position
  | [] => p
  | c :: cs => if n < c.utf8Size then ⟨p.line, p.column + n⟩
    else (p.next c).afterBytes (n - c.utf8Size) cs

/-- The place as it is written behind a message. -/
def suffix (p : Position) : String :=
  s!" at line {p.line} column {p.column}"

@[simp] theorem afterBytes_zero (p : Position) (cs : List Char) : p.afterBytes 0 cs = p := by
  cases cs with
  | nil => rfl
  | cons c cs => simp [afterBytes, c.utf8Size_pos]

end Position

end SheetCheck.Text
