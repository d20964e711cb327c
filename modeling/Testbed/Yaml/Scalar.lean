import Testbed.Text.Hex
import Testbed.Yaml.Cursor

/-!
# Scalars of YAML

A scalar is written plainly, between quotes, or as a block of lines. Plain and quoted scalars are
words with gaps between them: a gap on one line stands for itself, a single line end for a space,
and of several line ends the first is dropped. In a block each line stands for itself, or, if the
block is folded, lines that start at the same column are joined as in a gap; what becomes of the
line ends at its end is up to the block's header.

## Main definitions

* `Yaml.ScalarStyle`, `Yaml.Scalar` — how a scalar is written, and its text
* `Yaml.Scalar.readPlain?`, `Yaml.Scalar.readQuoted?`, `Yaml.Scalar.readBlock?`
-/

namespace Testbed.Yaml

/-- How a scalar is written. -/
inductive ScalarStyle where
  | plain
  | singleQuoted
  | doubleQuoted
  | literal
  | folded
  deriving DecidableEq, Repr

/-- A scalar. -/
structure Scalar where
  text : String
  style : ScalarStyle
  deriving DecidableEq, Repr

namespace Scalar

/-! ### Gaps between words -/

/-- Blanks and line ends between two words. -/
structure Gap where
  blanks : List Char := []
  /-- The line ends, as they read. -/
  breaks : List (List Char) := []
  /-- The first line end was escaped and stands for nothing. -/
  escaped : Bool := false

/-- Whether a gap goes on to another line. -/
def Gap.breaksLine (gap : Gap) : Bool :=
  gap.escaped || !gap.breaks.isEmpty

/-- What a gap stands for. -/
def Gap.text (gap : Gap) : List Char :=
  if gap.escaped then gap.breaks.flatten
  else
    match gap.breaks with
    | [] => gap.blanks
    | ['\n'] :: [] => [' ']
    | ['\n'] :: later => later.flatten
    | breaks => breaks.flatten

/-- The blanks and line ends that come next. Blanks count only before the first line end; after
it, a tab before the column `margin` is refused. -/
def takeGap? (margin : Nat) : Nat → Gap → Cursor → Option (Gap × Cursor)
  | 0, _, _ => none
  | fuel + 1, gap, c =>
    if c.atBlank then
      if gap.breaksLine then
        if c.column < margin && c.sees 0 '\t' then none else takeGap? margin fuel gap c.advance
      else
        takeGap? margin fuel { gap with blanks := gap.blanks ++ c.rest.take 1 } c.advance
    else if c.atBreak then
      let (read, c) := c.takeBreak
      takeGap? margin fuel { gap with blanks := [], breaks := gap.breaks ++ [read] } c
    else some (gap, c)

/-! ### Plain scalars -/

/-- A character that has a meaning of its own inside brackets. -/
def isFlowMark (c : Char) : Bool :=
  c = ',' || c = '[' || c = ']' || c = '\x7b' || c = '\x7d'

/-- The characters up to a blank, a line end, or a mark that ends a plain scalar. -/
def takeWord? (inFlow : Bool) : Nat → List Char → Cursor → Option (List Char × Cursor)
  | 0, _, _ => none
  | fuel + 1, done, c =>
    match c.rest with
    | [] => some (done.reverse, c)
    | char :: _ =>
      if isBlank char || isBreak char then some (done.reverse, c)
      else if inFlow && char = ':' &&
          (c.peek? 1).any (fun next => isFlowMark next || next = '?') then none
      else if (char = ':' && c.clearAt 1) || (inFlow && isFlowMark char) then
        some (done.reverse, c)
      else takeWord? inFlow fuel (char :: done) c.advance

/-- Words and gaps of a plain scalar from one word on, after the text so far in reverse and the gap
before the word. The result is the whole text, whether a line end came last, and the place. -/
def plainFrom? (inFlow : Bool) (margin : Nat) :
    Nat → List Char → Gap → Cursor → Option (List Char × Bool × Cursor)
  | 0, _, _, _ => none
  | fuel + 1, done, gap, c =>
    if c.atDocumentMark || c.sees 0 '#' then some (done.reverse, gap.breaksLine, c)
    else
      match takeWord? inFlow (c.size + 1) [] c with
      | none => none
      | some (word, c) =>
        let (done, gap) :=
          if word.isEmpty then (done, gap)
          else (word.reverseAux (gap.text.reverseAux done), {})
        if !(c.atBlank || c.atBreak) then some (done.reverse, gap.breaksLine, c)
        else
          match takeGap? margin (c.size + 1) gap c with
          | none => none
          | some (gap, c) =>
            if !inFlow && c.column < margin then some (done.reverse, gap.breaksLine, c)
            else plainFrom? inFlow margin fuel done gap c

/-- A plain scalar, whether a line end follows it, and the place after both. In a block it goes on
as long as lines start at column `margin` or later. -/
def readPlain? (inFlow : Bool) (margin : Nat) (c : Cursor) : Option (Scalar × Bool × Cursor) :=
  (plainFrom? inFlow margin (c.size + 1) [] {} c).map fun (text, ended, c) =>
    (⟨String.ofList text, .plain⟩, ended, c)

/-! ### Quoted scalars -/

/-- The character that a letter after a backslash stands for. -/
def escape? : Char → Option Char
  | '0' => some '\x00'
  | 'a' => some '\x07'
  | 'b' => some '\x08'
  | 't' => some '\t'
  | '\t' => some '\t'
  | 'n' => some '\n'
  | 'v' => some '\x0b'
  | 'f' => some '\x0c'
  | 'r' => some '\r'
  | 'e' => some '\x1b'
  | ' ' => some ' '
  | '"' => some '"'
  | '/' => some '/'
  | '\\' => some '\\'
  | 'N' => some '\u0085'
  | '_' => some '\u00a0'
  | 'L' => some '\u2028'
  | 'P' => some '\u2029'
  | _ => none

/-- How many digits follow a letter after a backslash. -/
def codeLength? : Char → Option Nat
  | 'x' => some 2
  | 'u' => some 4
  | 'U' => some 8
  | _ => none

/-- The character of a number, if there is one. -/
def charOfCode? (code : Nat) : Option Char :=
  if (0xD800 ≤ code ∧ code ≤ 0xDFFF) ∨ 0x10FFFF < code then none else some (Char.ofNat code)

/-- The character that is escaped after a backslash, and the place after it. -/
def readEscape? (c : Cursor) : Option (Char × Cursor) :=
  match c.peek? 0 with
  | none => none
  | some letter =>
    match codeLength? letter with
    | none => (escape? letter).map fun char => (char, c.advance)
    | some count =>
      let digits := (c.rest.drop 1).take count
      if digits.length < count then none
      else
        match digits.mapM Hex.value? with
        | none => none
        | some values =>
          (charOfCode? (values.foldl (fun code value => code * 16 + value) 0)).map fun char =>
            (char, c.advanceBy (1 + count))

/-- The characters of a quoted scalar up to a blank, a line end, or the closing quote; and whether
they end with an escaped line end. -/
def takeQuotedWord? (double : Bool) :
    Nat → List Char → Cursor → Option (List Char × Bool × Cursor)
  | 0, _, _ => none
  | fuel + 1, done, c =>
    match c.rest with
    | [] => some (done.reverse, false, c)
    | char :: rest =>
      if isBlank char || isBreak char then some (done.reverse, false, c)
      else if !double && char = '\'' then
        if rest.head? = some '\'' then takeQuotedWord? double fuel ('\'' :: done) (c.advanceBy 2)
        else some (done.reverse, false, c)
      else if double && char = '"' then some (done.reverse, false, c)
      else if double && char = '\\' then
        if rest.head?.any isBreak then some (done.reverse, true, c.advance.takeBreak.2)
        else
          match readEscape? c.advance with
          | none => none
          | some (escaped, c) => takeQuotedWord? double fuel (escaped :: done) c
      else takeQuotedWord? double fuel (char :: done) c.advance

/-- The text up to the closing quote, after the text so far in reverse, and the place after the
quote. -/
def quotedFrom? (double : Bool) : Nat → List Char → Cursor → Option (List Char × Cursor)
  | 0, _, _ => none
  | fuel + 1, done, c =>
    if c.atDocumentMark || c.atEnd then none
    else
      match takeQuotedWord? double (c.size + 1) [] c with
      | none => none
      | some (word, escaped, c) =>
        let done := word.reverseAux done
        if !escaped && c.sees 0 (if double then '"' else '\'') then some (done.reverse, c.advance)
        else
          match takeGap? 0 (c.size + 1) { escaped } c with
          | none => none
          | some (gap, c) => quotedFrom? double fuel (gap.text.reverseAux done) c

/-- A quoted scalar from its opening quote on, and the place after it. -/
def readQuoted? (double : Bool) (c : Cursor) : Option (Scalar × Cursor) :=
  (quotedFrom? double (c.size + 1) [] c.advance).map fun (text, c) =>
    (⟨String.ofList text, if double then .doubleQuoted else .singleQuoted⟩, c)

/-! ### Blocks -/

/-- What becomes of the line ends after the last line of a block. -/
inductive Chomping where
  /-- All of them are dropped. -/
  | strip
  /-- The first is kept. -/
  | clip
  /-- All of them are kept. -/
  | keep
  deriving DecidableEq

/-- A sign of a block's header. -/
def chomping? (c : Cursor) : Option Chomping :=
  if c.sees 0 '+' then some .keep else if c.sees 0 '-' then some .strip else none

/-- A digit of a block's header: how far its lines are indented. Zero is refused. -/
def increment? (c : Cursor) : Option (Option Nat) :=
  match c.peek? 0 with
  | some char =>
    if '1' ≤ char ∧ char ≤ '9' then some (some (char.toNat - 48))
    else if char = '0' then none
    else some none
  | none => some none

/-- The sign and the digit of a block's header, in either order. -/
def readHeader? (c : Cursor) : Option (Chomping × Option Nat × Cursor) :=
  match chomping? c with
  | some chomping =>
    match increment? c.advance with
    | none => none
    | some none => some (chomping, none, c.advance)
    | some increment => some (chomping, increment, c.advance.advance)
  | none =>
    match increment? c with
    | none => none
    | some none => some (.clip, none, c)
    | some increment =>
      match chomping? c.advance with
      | some chomping => some (chomping, increment, c.advance.advance)
      | none => some (.clip, increment, c.advance)

/-- Blank lines, and the blanks before the next line. While the column of the block is not known
yet, all blanks are passed over and the widest line decides; a tab among them is refused. -/
def takeBlankLines? (indent : Option Nat) :
    Nat → Nat → List (List Char) → Cursor → Option (Nat × List (List Char) × Cursor)
  | 0, _, _, _ => none
  | fuel + 1, widest, breaks, c =>
    let missing := (indent.map (· - c.column)).getD c.size
    let spaces := (c.rest.take missing).takeWhile (· = ' ')
    let c := c.advanceBy spaces.length
    let widest := max widest c.column
    if indent.all (c.column < ·) && c.sees 0 '\t' then none
    else if c.atBreak then
      let (read, c) := c.takeBreak
      takeBlankLines? indent fuel widest (breaks ++ [read]) c
    else some (widest, breaks, c)

/-- A block while it is read. -/
structure Block where
  /-- The text in reverse. -/
  text : List Char := []
  /-- The end of the last line. -/
  lastBreak : List Char := []
  /-- The ends of the blank lines after it. -/
  blankLines : List (List Char) := []
  /-- The last line started with a blank. -/
  startedBlank : Bool := false

/-- Adds what stands between the last line of a block and the next one. In a folded block two
lines that start with no blank are joined by a space. -/
def Block.join (folded : Bool) (block : Block) (startsBlank : Bool) : Block :=
  let between :=
    if folded && block.lastBreak = ['\n'] && !block.startedBlank && !startsBlank then
      if block.blankLines.flatten.isEmpty then [' '] else block.blankLines.flatten
    else block.lastBreak ++ block.blankLines.flatten
  { block with text := between.reverseAux block.text, lastBreak := [], blankLines := [] }

/-- The lines of a block that start at its column. -/
def blockLines? (folded : Bool) (indent : Nat) : Nat → Block → Cursor → Option (Block × Cursor)
  | 0, _, _ => none
  | fuel + 1, block, c =>
    if c.column ≠ indent || c.atEnd then some (block, c)
    else
      let startsBlank := c.atBlank
      let block := block.join folded startsBlank
      let (line, c) := c.takeWhile fun char => !isBreak char
      let (read, c) := c.takeBreak
      match takeBlankLines? (some indent) (c.size + 1) 0 [] c with
      | none => none
      | some (_, breaks, c) =>
        blockLines? folded indent fuel
          { text := line.reverseAux block.text, lastBreak := read, blankLines := breaks
            startedBlank := startsBlank } c

/-- The column of a block whose header gives none: that of its widest line before the first line
with text, but to the right of what the block belongs to, and not the first column. -/
def foundIndent (parent : Int) (widest : Nat) : Nat :=
  max (max widest (parent + 1).toNat) 1

/-- A block from its mark on, and the place after it; `parent` is the column of what the block
belongs to, or `-1`. -/
def readBlock? (folded : Bool) (parent : Int) (c : Cursor) : Option (Scalar × Cursor) :=
  match readHeader? c.advance with
  | none => none
  | some (chomping, increment, c) =>
    let c := c.skipWhile isBlank
    let c := if c.sees 0 '#' then c.skipLine else c
    if !(c.atEnd || c.atBreak) then none
    else
      let c := c.takeBreak.2
      let given := increment.map fun n => (max parent 0).toNat + n
      match takeBlankLines? given (c.size + 1) 0 [] c with
      | none => none
      | some (widest, breaks, c) =>
        let indent := given.getD (foundIndent parent widest)
        match blockLines? folded indent (c.size + 1) { blankLines := breaks } c with
        | none => none
        | some (block, c) =>
          let kept := if chomping = .strip then [] else block.lastBreak
          let blank := if chomping = .keep then block.blankLines.flatten else []
          some
            (⟨String.ofList (block.text.reverse ++ kept ++ blank),
              if folded then .folded else .literal⟩, c)

end Scalar

end Testbed.Yaml
