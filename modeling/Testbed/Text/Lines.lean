/-!
# Lines of a text

A line ends at a line feed, which a carriage return may precede. A carriage return anywhere else
belongs to the line.

## Main definitions

* `Text.firstLine` — the text up to the first line end

## Main results

* `Text.newline_notMem_firstLineChars` — it has no line feed
-/

namespace Testbed.Text

/-- The characters up to the first line end. -/
def firstLineChars : List Char → List Char
  | [] => []
  | '\n' :: _ => []
  | '\r' :: '\n' :: _ => []
  | c :: rest => c :: firstLineChars rest

/-- The text up to the first line end. -/
def firstLine (text : String) : String :=
  String.ofList (firstLineChars text.toList)

theorem newline_notMem_firstLineChars (chars : List Char) : '\n' ∉ firstLineChars chars := by
  fun_induction firstLineChars chars with
  | case1 => simp
  | case2 => simp
  | case3 => simp
  | case4 c rest h _ ih =>
    have : c ≠ '\n' := fun e => h e
    simp [ih, Ne.symm this]

end Testbed.Text
