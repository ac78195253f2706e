/-!
# Lines with their ends

A text cut behind every line break, the breaks kept. More characters break a line here than in a
`LineTable`: besides the line feed and the carriage return, the vertical tab, the form feed, three
information separators, and the line ends of the character standard. `\r\n` is one break. A text
that ends in a break has no line behind it.
-/

namespace ExpectFile.Text

/-- The characters that end a line. -/
def isLineBreak (c : Char) : Bool :=
  let n := c.toNat
  (0x0a ≤ n && n ≤ 0x0d) || (0x1c ≤ n && n ≤ 0x1e) || n == 0x85 || n == 0x2028 || n == 0x2029

/-- The lines of a text, each with the break that ends it. -/
def lines : List Char → List (List Char)
  | [] => []
  | '\r' :: '\n' :: rest => ['\r', '\n'] :: lines rest
  | c :: rest =>
    if isLineBreak c then [c] :: lines rest
    else match lines rest with
      | [] => [[c]]
      | line :: others => (c :: line) :: others

/-- Nothing is lost by cutting a text into lines. -/
theorem flatten_lines (text : List Char) : (lines text).flatten = text := by
  fun_induction lines text with
  | case1 => rfl
  | case2 rest ih => simp [ih]
  | case3 c rest _ _ ih => simp [ih]
  | case4 c rest _ _ h ih => rw [h] at ih; simpa using ih
  | case5 c rest _ _ line others h ih => rw [h] at ih; simpa using ih

end ExpectFile.Text
