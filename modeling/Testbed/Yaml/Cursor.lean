/-!
# A place in a YAML text

The lexer reads a text character by character and knows the line and the column it is at, and how
many bytes it has passed. Five characters end a line; a carriage return and a line feed in a row
are one end. All ends but the separators of lines and paragraphs read as a line feed.

## Main definitions

* `Yaml.Cursor` — a place, with what is left of the text
* `Yaml.Cursor.advance`, `Yaml.Cursor.takeBreak` — one character, one line end
* `Yaml.isAllowed` — the characters that a text may hold
-/

namespace Testbed.Yaml

/-! ### Characters -/

/-- Whether a text may hold a character: no control characters but a few blanks. -/
def isAllowed (c : Char) : Bool :=
  let n := c.toNat
  n = 0x09 || n = 0x0A || n = 0x0D || (0x20 ≤ n && n ≤ 0x7E) || n = 0x85 ||
    (0xA0 ≤ n && n ≤ 0xD7FF) || (0xE000 ≤ n && n ≤ 0xFFFD) || 0x10000 ≤ n

/-- A space or a tab. -/
def isBlank (c : Char) : Bool :=
  c = ' ' || c = '\t'

/-- A character that ends a line. -/
def isBreak (c : Char) : Bool :=
  c = '\r' || c = '\n' || c = '\u0085' || c = '\u2028' || c = '\u2029'

/-- A letter, a digit, an underscore or a hyphen. -/
def isWordChar (c : Char) : Bool :=
  ('0' ≤ c && c ≤ '9') || ('A' ≤ c && c ≤ 'Z') || ('a' ≤ c && c ≤ 'z') || c = '_' || c = '-'

/-! ### Places -/

/-- A place in a text, and the text from there on. -/
structure Cursor where
  rest : List Char
  /-- How many characters the whole text has: more steps no reader takes. -/
  size : Nat := rest.length
  /-- How many bytes the text before it takes. -/
  offset : Nat := 0
  line : Nat := 0
  column : Nat := 0

namespace Cursor

/-- The character so many places ahead. -/
def peek? (c : Cursor) (ahead : Nat) : Option Char :=
  c.rest[ahead]?

/-- Whether a character stands so many places ahead. -/
def sees (c : Cursor) (ahead : Nat) (char : Char) : Bool :=
  c.peek? ahead == some char

/-- Whether nothing is left. -/
def atEnd (c : Cursor) : Bool :=
  c.rest.isEmpty

/-- Whether a space or a tab comes next. -/
def atBlank (c : Cursor) : Bool :=
  (c.peek? 0).any isBlank

/-- Whether a line ends here. -/
def atBreak (c : Cursor) : Bool :=
  (c.peek? 0).any isBreak

/-- Whether a blank, a line end or the end of the text stands so many places ahead. -/
def clearAt (c : Cursor) (ahead : Nat) : Bool :=
  (c.peek? ahead).all fun char => isBlank char || isBreak char

/-- One character on, on the same line. -/
def advance (c : Cursor) : Cursor :=
  match c.rest with
  | [] => c
  | char :: rest => { c with rest, offset := c.offset + char.utf8Size, column := c.column + 1 }

/-- So many characters on, on the same line. -/
def advanceBy (c : Cursor) : Nat → Cursor
  | 0 => c
  | n + 1 => c.advance.advanceBy n

/-- The line end that comes next, as it reads, and the start of the next line. -/
def takeBreak (c : Cursor) : List Char × Cursor :=
  match c.rest with
  | '\r' :: '\n' :: rest =>
    (['\n'], { c with rest, offset := c.offset + 2, line := c.line + 1, column := 0 })
  | char :: rest =>
    if isBreak char then
      (if char = '\u2028' ∨ char = '\u2029' then [char] else ['\n'],
        { c with rest, offset := c.offset + char.utf8Size, line := c.line + 1, column := 0 })
    else ([], c)
  | [] => ([], c)

/-- The characters of a class that come next, and the place after them. -/
def takeWhile (p : Char → Bool) (c : Cursor) : List Char × Cursor :=
  let taken := c.rest.takeWhile p
  (taken, c.advanceBy taken.length)

/-- The place after the characters of a class. -/
def skipWhile (p : Char → Bool) (c : Cursor) : Cursor :=
  (c.takeWhile p).2

/-- The place at the end of the line. -/
def skipLine (c : Cursor) : Cursor :=
  c.skipWhile fun char => !isBreak char

/-- Whether three hyphens or three points stand alone at the start of a line. -/
def atDocumentMark (c : Cursor) : Bool :=
  c.column = 0 && ("---".toList.isPrefixOf c.rest || "...".toList.isPrefixOf c.rest) &&
    c.clearAt 3

end Cursor

end Testbed.Yaml
