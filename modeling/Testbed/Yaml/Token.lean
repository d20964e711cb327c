import Testbed.Yaml.Scalar

/-!
# Tokens of YAML

The nesting of a block shows in the columns at which its lines start, so the lexer keeps the
columns of the open blocks, and closes those that a line leaves. A key is known for what it is
only when the colon after it comes. Until then the place at which the token of the key would
stand is kept; it is given up at the end of the line or after 1024 bytes, and must not be given up
where nothing but a key can stand. A mark of byte order may start any line; it is no token, but
takes a column.

## Main definitions

* `Yaml.Address` — what a tag names, in bytes
* `Yaml.Token` — the tokens
* `Yaml.Lexer` — the state of the lexer
* `Yaml.Lexer.step?` — the next tokens
* `Yaml.tokens?` — the tokens of a text
-/

namespace Testbed.Yaml

/-- What a tag names, in bytes. None of them is zero: a zero byte ends an address. -/
abbrev Address := List UInt8

/-- The address that a text in ASCII writes. -/
def Address.ofText (text : String) : Address :=
  text.toList.map fun c => c.toNat.toUInt8

/-- A token. -/
inductive Token where
  | version (major minor : Nat)
  /-- What the handle of a tag stands for. -/
  | tagHandle (handle : String) (lead : Address)
  | documentStart
  | documentEnd
  | blockSequenceStart
  | blockMappingStart
  | blockEnd
  | flowSequenceStart
  | flowSequenceEnd
  | flowMappingStart
  | flowMappingEnd
  | blockEntry
  | flowEntry
  | key
  | value
  | alias (name : String)
  | anchor (name : String)
  | tag (handle : String) (suffix : Address)
  | scalar (value : Scalar)
  deriving DecidableEq, Repr

/-- The place of what may turn out to be a key. -/
structure KeyPlace where
  /-- How many tokens stand before it. -/
  token : Nat
  offset : Nat
  line : Nat
  column : Nat
  /-- Nothing but a key can stand here. -/
  required : Bool

/-- The state of the lexer. -/
structure Lexer where
  cursor : Cursor
  tokens : Array Token := #[]
  /-- The column of the innermost open block, or `-1`. -/
  indent : Int := -1
  /-- The columns of the blocks around it. -/
  outer : List Int := []
  keyAllowed : Bool := true
  /-- What may turn out to be a key inside each open bracket, the innermost first, and outside
  of brackets. -/
  keys : List (Option KeyPlace) := [none]

namespace Lexer

/-- Whether brackets are open. -/
def inFlow (lexer : Lexer) : Bool :=
  1 < lexer.keys.length

/-- Adds a token. -/
def push (lexer : Lexer) (token : Token) : Lexer :=
  { lexer with tokens := lexer.tokens.push token }

/-- Adds a token before those from a place on. -/
def insertAt (lexer : Lexer) (place : Nat) (token : Token) : Lexer :=
  { lexer with
    tokens := ((lexer.tokens.extract 0 place).push token) ++
      lexer.tokens.extract place lexer.tokens.size }

/-- Goes so many characters on. -/
def skip (lexer : Lexer) (count : Nat) : Lexer :=
  { lexer with cursor := lexer.cursor.advanceBy count }

/-! ### Blocks -/

/-- Closes the blocks whose column is right of a column. -/
def unroll (column : Int) (lexer : Lexer) : Lexer :=
  if lexer.inFlow then lexer else go lexer.outer lexer
where
  /-- Closes the innermost blocks, down to one that stays open. -/
  go : List Int → Lexer → Lexer
    | [], lexer => lexer
    | column' :: outer, lexer =>
      if column < lexer.indent then
        go outer { lexer.push .blockEnd with indent := column', outer }
      else lexer

/-- Opens a block at a column right of that of the innermost one. -/
def roll (column : Nat) (place : Option Nat) (start : Token) (lexer : Lexer) : Lexer :=
  if lexer.inFlow || (column : Int) ≤ lexer.indent then lexer
  else
    let opened := match place with
      | some place => lexer.insertAt place start
      | none => lexer.push start
    { opened with indent := column, outer := lexer.indent :: lexer.outer }

/-! ### Keys -/

/-- Gives up what may have been a key at the place where a new one may come. -/
def dropKey? (lexer : Lexer) : Option Lexer :=
  match lexer.keys with
  | some place :: keys =>
    if place.required then none else some { lexer with keys := none :: keys }
  | _ => some lexer

/-- Keeps the place of what comes next if it may turn out to be a key. -/
def saveKey? (lexer : Lexer) : Option Lexer :=
  if !lexer.keyAllowed then some lexer
  else
    lexer.dropKey?.map fun lexer =>
      let c := lexer.cursor
      let place : KeyPlace :=
        { token := lexer.tokens.size
          offset := c.offset
          line := c.line
          column := c.column
          required := !lexer.inFlow && lexer.indent = (c.column : Int) }
      { lexer with keys := some place :: lexer.keys.tail }

/-- Gives up what is too far behind to be a key. -/
def dropStaleKeys? (lexer : Lexer) : Option Lexer :=
  let c := lexer.cursor
  let stale (place : KeyPlace) : Bool := place.line < c.line || place.offset + 1024 < c.offset
  if lexer.keys.any fun key => key.any fun place => stale place && place.required then none
  else
    some { lexer with keys := lexer.keys.map fun key => key.filter fun place => !stale place }

/-! ### Blanks -/

/-- Passes over blanks, comments and line ends, and over a mark of byte order at the start of a
line. A tab counts as a blank only where no key can stand. -/
def skipBlanks : Nat → Lexer → Lexer
  | 0, lexer => lexer
  | fuel + 1, lexer =>
    let tabs := lexer.inFlow || !lexer.keyAllowed
    let c := if lexer.cursor.column = 0 && lexer.cursor.sees 0 '\ufeff'
      then lexer.cursor.advance else lexer.cursor
    let c := c.skipWhile fun char => char = ' ' || (tabs && char = '\t')
    let c := if c.sees 0 '#' then c.skipLine else c
    if c.atBreak then
      skipBlanks fuel
        { lexer with cursor := c.takeBreak.2, keyAllowed := lexer.keyAllowed || !lexer.inFlow }
    else { lexer with cursor := c }

/-! ### Directives -/

/-- A number of at most nine digits. -/
def readNumber? (c : Cursor) : Option (Nat × Cursor) :=
  let (digits, c) := c.takeWhile Char.isDigit
  if digits.isEmpty || 9 < digits.length then none
  else some (digits.foldl (fun n char => n * 10 + (char.toNat - 48)) 0, c)

/-- The handle of a tag: marks with letters between them. -/
def readHandle? (directive : Bool) (c : Cursor) : Option (String × Cursor) :=
  if !c.sees 0 '!' then none
  else
    let (word, c) := c.advance.takeWhile isWordChar
    if c.sees 0 '!' then some ("!" ++ String.ofList word ++ "!", c.advance)
    else if directive && !word.isEmpty then none
    else some ("!" ++ String.ofList word, c)

/-- A character that may stand in the address of a tag. -/
def isAddressChar (verbatim : Bool) (c : Char) : Bool :=
  isWordChar c || ";/?:@&=+$.!~*'()%".toList.contains c ||
    (verbatim && (c = ',' || c = '[' || c = ']'))

/-- The number of bytes that belong together if the first is this one. -/
def encodedLength? (byte : UInt8) : Option Nat :=
  if byte < 0x80 then some 1
  else if 0xC0 ≤ byte ∧ byte < 0xE0 then some 2
  else if 0xE0 ≤ byte ∧ byte < 0xF0 then some 3
  else if 0xF0 ≤ byte ∧ byte < 0xF8 then some 4
  else none

/-- A byte written as a percent sign and two digits. -/
def readByte? (chars : List Char) : Option (UInt8 × List Char) :=
  match chars with
  | '%' :: a :: b :: rest =>
    match Hex.value? a, Hex.value? b with
    | some a, some b => some ((a * 16 + b).toUInt8, rest)
    | _, _ => none
  | _ => none

/-- So many bytes that go on with what an earlier byte started. -/
def readBytes? : Nat → List Char → Option (Address × List Char)
  | 0, chars => some ([], chars)
  | n + 1, chars =>
    match readByte? chars with
    | none => none
    | some (byte, rest) =>
      if byte / 64 ≠ 2 then none
      else (readBytes? n rest).map fun (bytes, rest) => (byte :: bytes, rest)

/-- The bytes of an address, of which some are written as such. Bytes that are written belong
together as those of one character do, but need not be those of a character. -/
def decodeAddress? : Nat → List Char → Option Address
  | 0, _ => none
  | fuel + 1, chars =>
    match chars with
    | [] => some []
    | '%' :: _ =>
      match readByte? chars with
      | none => none
      | some (first, rest) =>
        match encodedLength? first with
        | none => none
        | some count =>
          match readBytes? (count - 1) rest with
          | none => none
          | some (bytes, rest) =>
            (decodeAddress? fuel rest).map fun later => first :: bytes ++ later
    | c :: rest => (decodeAddress? fuel rest).map fun later => c.toNat.toUInt8 :: later

/-- The address that starts with the word `before` and goes on here, up to its first zero byte.
Without such a word, something must stand here. -/
def readAddress? (verbatim : Bool) (before : Option String) (c : Cursor) :
    Option (Address × Cursor) :=
  let (chars, c) := c.takeWhile (isAddressChar verbatim)
  if chars.isEmpty && before.isNone then none
  else
    (decodeAddress? (chars.length + 1) chars).map fun bytes =>
      ((Address.ofText (before.getD "") ++ bytes).takeWhile (· ≠ 0), c)

/-- The values of a directive. -/
def readDirective? (name : String) (c : Cursor) : Option (Token × Cursor) :=
  let c := c.skipWhile isBlank
  if name = "YAML" then
    match readNumber? c with
    | none => none
    | some (major, c) =>
      if !c.sees 0 '.' then none
      else (readNumber? c.advance).map fun (minor, c) => (.version major minor, c)
  else if name = "TAG" then
    match readHandle? true c with
    | none => none
    | some (handle, c) =>
      if !c.atBlank then none
      else
        match readAddress? true none (c.skipWhile isBlank) with
        | none => none
        | some (lead, c) => if c.clearAt 0 then some (.tagHandle handle lead, c) else none
  else none

/-- A directive, which ends with its line. -/
def directive? (lexer : Lexer) : Option Lexer :=
  match (unroll (-1) lexer).dropKey? with
  | none => none
  | some lexer =>
    let (name, c) := lexer.cursor.advance.takeWhile isWordChar
    if name.isEmpty || !c.clearAt 0 then none
    else
      match readDirective? (String.ofList name) c with
      | none => none
      | some (token, c) =>
        let c := c.skipWhile isBlank
        let c := if c.sees 0 '#' then c.skipLine else c
        if c.atEnd || c.atBreak then
          some { lexer.push token with cursor := c.takeBreak.2, keyAllowed := false }
        else none

/-! ### Single tokens -/

/-- The mark between documents. -/
def documentMark? (token : Token) (lexer : Lexer) : Option Lexer :=
  (unroll (-1) lexer).dropKey?.map fun lexer =>
    { (lexer.push token).skip 3 with keyAllowed := false }

/-- An opening bracket, which may start a key. -/
def openFlow? (token : Token) (lexer : Lexer) : Option Lexer :=
  lexer.saveKey?.map fun lexer =>
    { (lexer.push token).skip 1 with keys := none :: lexer.keys, keyAllowed := true }

/-- A closing bracket. -/
def closeFlow? (token : Token) (lexer : Lexer) : Option Lexer :=
  lexer.dropKey?.map fun lexer =>
    { (lexer.push token).skip 1 with
      keys := if lexer.inFlow then lexer.keys.tail else lexer.keys
      keyAllowed := false }

/-- A comma between brackets. -/
def flowEntry? (lexer : Lexer) : Option Lexer :=
  lexer.dropKey?.map fun lexer => { (lexer.push .flowEntry).skip 1 with keyAllowed := true }

/-- A mark that stands in a block at a place where a key may stand, and opens the block. -/
def blockMark? (start token : Token) (keyAfter : Bool) (lexer : Lexer) : Option Lexer :=
  if !lexer.inFlow && !lexer.keyAllowed then none
  else
    (roll lexer.cursor.column none start lexer).dropKey?.map fun lexer =>
      { (lexer.push token).skip 1 with keyAllowed := keyAfter }

/-- A colon: after what may be a key, which now is one, or by itself. -/
def value? (lexer : Lexer) : Option Lexer :=
  match lexer.keys with
  | some place :: keys =>
    let keyed := roll place.column (some place.token) .blockMappingStart
      (lexer.insertAt place.token .key)
    some { (keyed.push .value).skip 1 with keys := none :: keys, keyAllowed := false }
  | _ =>
    if !lexer.inFlow && !lexer.keyAllowed then none
    else
      let lexer := roll lexer.cursor.column none .blockMappingStart lexer
      some { (lexer.push .value).skip 1 with keyAllowed := !lexer.inFlow }

/-- The name of an anchor or of an alias. -/
def name? (make : String → Token) (lexer : Lexer) : Option Lexer :=
  match lexer.saveKey? with
  | none => none
  | some lexer =>
    let (name, c) := lexer.cursor.advance.takeWhile isWordChar
    let ended := c.clearAt 0 || (c.peek? 0).any fun char => "?:,]\x7d%@`".toList.contains char
    if name.isEmpty || !ended then none
    else some { lexer.push (make (String.ofList name)) with cursor := c, keyAllowed := false }

/-- The two parts of a tag. A mark by itself, or before an empty address, is a tag of its own. -/
def readTag? (c : Cursor) : Option (Token × Cursor) :=
  if c.sees 1 '<' then
    match readAddress? true none (c.advanceBy 2) with
    | none => none
    | some (suffix, c) => if c.sees 0 '>' then some (.tag "" suffix, c.advance) else none
  else
    match readHandle? false c with
    | none => none
    | some (handle, c) =>
      if 1 < handle.length && handle.endsWith '!' then
        (readAddress? false none c).map fun (suffix, c) => (.tag handle suffix, c)
      else
        let word := String.ofList (handle.toList.drop 1)
        (readAddress? false (some word) c).map fun (suffix, c) =>
          (if suffix.isEmpty then .tag "" (.ofText "!") else .tag "!" suffix, c)

/-- A tag. -/
def tag? (lexer : Lexer) : Option Lexer :=
  match lexer.saveKey? with
  | none => none
  | some lexer =>
    match readTag? lexer.cursor with
    | none => none
    | some (token, c) =>
      if c.clearAt 0 || (lexer.inFlow && c.sees 0 ',') then
        some { lexer.push token with cursor := c, keyAllowed := false }
      else none

/-! ### Scalars -/

/-- A block, after which a key may stand. -/
def blockScalar? (folded : Bool) (lexer : Lexer) : Option Lexer :=
  match lexer.dropKey? with
  | none => none
  | some lexer =>
    (Scalar.readBlock? folded lexer.indent lexer.cursor).map fun (scalar, c) =>
      { lexer.push (.scalar scalar) with cursor := c, keyAllowed := true }

/-- A quoted scalar, which may be a key. -/
def quotedScalar? (double : Bool) (lexer : Lexer) : Option Lexer :=
  match lexer.saveKey? with
  | none => none
  | some lexer =>
    (Scalar.readQuoted? double lexer.cursor).map fun (scalar, c) =>
      { lexer.push (.scalar scalar) with cursor := c, keyAllowed := false }

/-- A plain scalar, which may be a key. -/
def plainScalar? (lexer : Lexer) : Option Lexer :=
  match lexer.saveKey? with
  | none => none
  | some lexer =>
    (Scalar.readPlain? lexer.inFlow (lexer.indent + 1).toNat lexer.cursor).map
      fun (scalar, ended, c) =>
        { lexer.push (.scalar scalar) with cursor := c, keyAllowed := ended }

/-! ### The next tokens -/

/-- Whether a plain scalar can start here. -/
def startsPlain (lexer : Lexer) (char : Char) : Bool :=
  let c := lexer.cursor
  if char = '-' then !((c.peek? 1).any isBlank)
  else if char = '?' || char = ':' then !lexer.inFlow && !c.clearAt 1
  else !("-?:,[]\x7b\x7d#&*!|>'\"%@`".toList.contains char) && !isBlank char && !isBreak char

/-- The tokens that start with the next character. -/
def token? (lexer : Lexer) (char : Char) : Option Lexer :=
  let c := lexer.cursor
  if c.column = 0 && char = '%' then lexer.directive?
  else if c.atDocumentMark then
    lexer.documentMark? (if char = '-' then .documentStart else .documentEnd)
  else if char = '[' then lexer.openFlow? .flowSequenceStart
  else if char = '\x7b' then lexer.openFlow? .flowMappingStart
  else if char = ']' then lexer.closeFlow? .flowSequenceEnd
  else if char = '\x7d' then lexer.closeFlow? .flowMappingEnd
  else if char = ',' then lexer.flowEntry?
  else if char = '-' && c.clearAt 1 then
    lexer.blockMark? .blockSequenceStart .blockEntry true
  else if char = '?' && (lexer.inFlow || c.clearAt 1) then
    lexer.blockMark? .blockMappingStart .key (!lexer.inFlow)
  else if char = ':' && (lexer.inFlow || c.clearAt 1) then lexer.value?
  else if char = '*' then lexer.name? .alias
  else if char = '&' then lexer.name? .anchor
  else if char = '!' then lexer.tag?
  else if char = '|' && !lexer.inFlow then lexer.blockScalar? false
  else if char = '>' && !lexer.inFlow then lexer.blockScalar? true
  else if char = '\'' then lexer.quotedScalar? false
  else if char = '"' then lexer.quotedScalar? true
  else if lexer.startsPlain char then lexer.plainScalar?
  else none

/-- The end of the text, where all blocks are closed. -/
def finish? (lexer : Lexer) : Option (Array Token) :=
  (unroll (-1) lexer).dropKey?.map Lexer.tokens

/-- All tokens from here on. -/
def run? : Nat → Lexer → Option (Array Token)
  | 0, _ => none
  | fuel + 1, lexer =>
    match (skipBlanks (lexer.cursor.size + 1) lexer).dropStaleKeys? with
    | none => none
    | some lexer =>
      let lexer := unroll lexer.cursor.column lexer
      match lexer.cursor.peek? 0 with
      | none => lexer.finish?
      | some char =>
        match lexer.token? char with
        | none => none
        | some lexer => run? fuel lexer

end Lexer

/-- The tokens of a text, unless it holds a character that it may not hold, or something that is
no token. -/
def tokens? (text : String) : Option (List Token) :=
  if !text.toList.all isAllowed then none
  else
    (Lexer.run? (text.toList.length + 2) { cursor := { rest := text.toList } }).map Array.toList

end Testbed.Yaml
