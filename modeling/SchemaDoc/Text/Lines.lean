/-
SchemaDoc.Text.Lines — cutting a text into lines.

Two notions of line end meet here. A text is cut after every Unicode line
break, CR LF counting as one; but only LF, CR LF and CR are terminators apart
from the body of a line, so a line cut at any other break keeps the break as
its last character.

`flatten_lines` says that cutting loses nothing.
-/

namespace SchemaDoc.Text

/-- The characters after which a text is cut into lines. -/
def isBreak (c : Char) : Bool :=
  let n := c.toNat
  (10 ≤ n && n ≤ 13) || (28 ≤ n && n ≤ 30) || n == 0x85 || n == 0x2028 || n == 0x2029

/-- The lines of a text, each with its line break. -/
def lines : List Char → List (List Char)
  | [] => []
  | '\r' :: '\n' :: rest => ['\r', '\n'] :: lines rest
  | c :: rest =>
    if isBreak c then [c] :: lines rest
    else match lines rest with
      | [] => [[c]]
      | line :: more => (c :: line) :: more

/-- A line cut into its body and its terminator: LF, CR LF, CR or nothing. -/
structure Line where
  body : List Char
  ending : List Char
  deriving DecidableEq

/-- The terminator is the longest of LF, CR LF and CR that ends the line. -/
def Line.ofList (line : List Char) : Line :=
  match line.reverse with
  | '\n' :: '\r' :: rest => ⟨rest.reverse, ['\r', '\n']⟩
  | '\n' :: rest => ⟨rest.reverse, ['\n']⟩
  | '\r' :: rest => ⟨rest.reverse, ['\r']⟩
  | _ => ⟨line, []⟩

/-- The line as it stood in the text. -/
def Line.toList (l : Line) : List Char := l.body ++ l.ending

/-- Every CR LF and every lone CR read as one LF. -/
def unifyNewlines : List Char → List Char
  | [] => []
  | '\r' :: '\n' :: rest => '\n' :: unifyNewlines rest
  | c :: rest => (if c = '\r' then '\n' else c) :: unifyNewlines rest

theorem flatten_lines (s : List Char) : (lines s).flatten = s := by
  fun_induction lines s with
  | case1 => rfl
  | case2 rest ih => simp [ih]
  | case3 c rest _ h ih => simp [ih]
  | case4 c rest _ h heq ih => simpa [heq] using ih
  | case5 c rest _ h line more heq ih => simpa [heq] using ih

theorem Line.toList_ofList (line : List Char) : (Line.ofList line).toList = line := by
  unfold Line.ofList Line.toList
  split
  · next rest h => rw [← line.reverse_reverse, h]; simp
  · next rest h => rw [← line.reverse_reverse, h]; simp
  · next rest h => rw [← line.reverse_reverse, h]; simp
  · exact List.append_nil line

end SchemaDoc.Text
