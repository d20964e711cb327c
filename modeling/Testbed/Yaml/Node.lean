import Testbed.Yaml.Token

/-!
# Documents of YAML

A document is a tree of scalars, sequences and mappings. An alias stands for the node under an
anchor. Anchors are numbered by how many names are known when they come; a name that comes again
is no new name, so its node shares a number with the next new one. Of the nodes with one number
the one that starts last counts, even if it stands inside another.

## Main definitions

* `Yaml.Node` — the tree, and `Yaml.Document` — the tree with its anchors
* `Yaml.readNode?` — a node from tokens
* `Yaml.document?` — the document that a text is, `none` inside for a text without one
-/

namespace Testbed.Yaml

/-- A node of a document. -/
inductive Node where
  | scalar (tag : Option Address) (value : Scalar)
  | sequence (items : List Node)
  | mapping (entries : List (Node × Node))
  | alias (anchor : Nat)
  deriving Inhabited

namespace Node

/-- A node that is not written at all. -/
def empty : Node :=
  .scalar none ⟨"", .plain⟩

end Node

/-- What is read so far, apart from nodes. -/
structure Reading where
  tokens : List Token
  /-- What the handles of tags stand for. -/
  handles : List (String × Address) := []
  /-- The numbers of the anchors, each name once. -/
  anchors : List (String × Nat) := []
  /-- The nodes under the numbers; what ended last comes first. -/
  targets : List (Nat × Node) := []

/-- A document: its tree, and the nodes under anchors. -/
structure Document where
  root : Node
  targets : List (Nat × Node)

/-- The node that an alias stands for; any other node stands for itself. -/
def Document.resolve (document : Document) (node : Node) : Node :=
  match node with
  | .alias anchor => (document.targets.lookup anchor).getD .empty
  | node => node

namespace Reading

/-- Whether the next token is one of these. -/
def sees (r : Reading) (tokens : List Token) : Bool :=
  r.tokens.head?.any tokens.contains

/-- What is left after the next token. -/
def skip (r : Reading) : Reading :=
  { r with tokens := r.tokens.tail }

/-! ### Properties -/

/-- An anchor and a tag, in either order. -/
def properties? (r : Reading) : Option (Option String × Option Token × Reading) :=
  match r.tokens with
  | .anchor name :: .tag handle suffix :: rest =>
    some (some name, some (.tag handle suffix), { r with tokens := rest })
  | .tag handle suffix :: .anchor name :: rest =>
    some (some name, some (.tag handle suffix), { r with tokens := rest })
  | .anchor name :: rest => some (some name, none, { r with tokens := rest })
  | .tag handle suffix :: rest =>
    some (none, some (.tag handle suffix), { r with tokens := rest })
  | _ => none

/-- The full form of a tag, unless its handle stands for nothing. -/
def resolveTag? (r : Reading) : Option Token → Option (Option Address)
  | some (.tag handle suffix) =>
    if handle.isEmpty then some (some suffix)
    else (r.handles.lookup handle).map fun lead => some (lead ++ suffix)
  | _ => some none

/-- Numbers an anchor. -/
def number (r : Reading) (anchor : Option String) : Option Nat × Reading :=
  match anchor with
  | none => (none, r)
  | some name =>
    let id := r.anchors.length
    let known := r.anchors.any fun entry => entry.1 == name
    let anchors :=
      if known then r.anchors.map fun entry => if entry.1 == name then (name, id) else entry
      else r.anchors ++ [(name, id)]
    (some id, { r with anchors })

/-- Notes the node under an anchor, unless a node inside it has taken its number; `noted` nodes
had been noted when it started. -/
def record (r : Reading) (noted : Nat) (id : Option Nat) (node : Node) : Reading :=
  match id with
  | none => r
  | some id =>
    let inside := r.targets.take (r.targets.length - noted)
    if inside.any fun target => target.1 == id then r
    else { r with targets := (id, node) :: r.targets }

end Reading

/-! ### Nodes -/

/-- A node and what is left. -/
abbrev Read := Option (Node × Reading)

/-- Nodes and what is left. -/
abbrev ReadItems := Option (List Node × Reading)

/-- Pairs of nodes and what is left. -/
abbrev ReadEntries := Option (List (Node × Node) × Reading)

mutual

/-- A node. Outside of brackets it may be a block, and after a key a sequence may stand at the
column of the key. -/
def readNode? (inBlock indentless : Bool) : Nat → Reading → Read
  | 0, _ => none
  | fuel + 1, r =>
    match r.tokens with
    | .alias name :: rest =>
      (r.anchors.lookup name).map fun id => (.alias id, { r with tokens := rest })
    | _ =>
      let (anchor, tag, hasProperties, r) :=
        match r.properties? with
        | some (anchor, tag, r) => (anchor, tag, true, r)
        | none => (none, none, false, r)
      match r.resolveTag? tag with
      | none => none
      | some tag =>
        let noted := r.targets.length
        let (id, r) := r.number anchor
        let asSequence (read : ReadItems) : Read :=
          read.map fun (items, r) => (.sequence items, r)
        let asMapping (read : ReadEntries) : Read :=
          read.map fun (entries, r) => (.mapping entries, r)
        let content : Option Read :=
          match r.tokens with
          | .scalar value :: _ => some (some (.scalar tag value, r.skip))
          | .flowSequenceStart :: _ => some (asSequence (readFlowItems? true fuel r.skip))
          | .flowMappingStart :: _ => some (asMapping (readFlowEntries? true fuel r.skip))
          | .blockEntry :: _ =>
            if indentless then some (asSequence (readIndentless? fuel r)) else none
          | .blockSequenceStart :: _ =>
            if inBlock then some (asSequence (readBlockItems? fuel r.skip)) else none
          | .blockMappingStart :: _ =>
            if inBlock then some (asMapping (readBlockEntries? fuel r.skip)) else none
          | _ => none
        let read : Read :=
          match content with
          | some read => read
          | none => if hasProperties then some (.scalar tag ⟨"", .plain⟩, r) else none
        read.map fun (node, r) => (node, r.record noted id node)

/-- A node, unless one of these tokens comes next; then it is not written at all. -/
def readUnless? (ends : List Token) (inBlock indentless : Bool) : Nat → Reading → Read
  | 0, _ => none
  | fuel + 1, r =>
    if r.sees ends then some (.empty, r) else readNode? inBlock indentless fuel r

/-- The entries of a sequence at the column of its key. -/
def readIndentless? : Nat → Reading → ReadItems
  | 0, _ => none
  | fuel + 1, r =>
    if !r.sees [.blockEntry] then some ([], r)
    else
      match readUnless? [.blockEntry, .key, .value, .blockEnd] true false fuel r.skip with
      | none => none
      | some (item, r) => (readIndentless? fuel r).map fun (items, r) => (item :: items, r)

/-- The entries of a block sequence. -/
def readBlockItems? : Nat → Reading → ReadItems
  | 0, _ => none
  | fuel + 1, r =>
    if r.sees [.blockEnd] then some ([], r.skip)
    else if !r.sees [.blockEntry] then none
    else
      match readUnless? [.blockEntry, .blockEnd] true false fuel r.skip with
      | none => none
      | some (item, r) => (readBlockItems? fuel r).map fun (items, r) => (item :: items, r)

/-- The entries of a block mapping. -/
def readBlockEntries? : Nat → Reading → ReadEntries
  | 0, _ => none
  | fuel + 1, r =>
    if r.sees [.blockEnd] then some ([], r.skip)
    else
      let ends : List Token := [.key, .value, .blockEnd]
      let key : Read :=
        if r.sees [.key] then readUnless? ends true true fuel r.skip
        else none
      match key with
      | none => none
      | some (key, r) =>
        let value : Read :=
          if r.sees [.value] then readUnless? ends true true fuel r.skip else some (.empty, r)
        match value with
        | none => none
        | some (value, r) =>
          (readBlockEntries? fuel r).map fun (entries, r) => ((key, value) :: entries, r)

/-- The items of a sequence in brackets; `first` if none has been read. -/
def readFlowItems? (first : Bool) : Nat → Reading → ReadItems
  | 0, _ => none
  | fuel + 1, r =>
    if r.sees [.flowSequenceEnd] then some ([], r.skip)
    else if !first && !r.sees [.flowEntry] then none
    else
      let r := if first then r else r.skip
      if r.sees [.flowSequenceEnd] then some ([], r.skip)
      else
        let item :=
          if r.sees [.key] then readSinglePair? fuel r.skip else readNode? false false fuel r
        match item with
        | none => none
        | some (item, r) =>
          (readFlowItems? false fuel r).map fun (items, r) => (item :: items, r)

/-- A pair that stands among the items of a sequence in brackets, after its key token. Where the
key is not written, the token after it is passed over. -/
def readSinglePair? : Nat → Reading → Read
  | 0, _ => none
  | fuel + 1, r =>
    let key :=
      if r.sees [.value, .flowEntry, .flowSequenceEnd] then some (Node.empty, r.skip)
      else readNode? false false fuel r
    match key with
    | none => none
    | some (key, r) =>
      let value :=
        if r.sees [.value] then
          readUnless? [.flowEntry, .flowSequenceEnd] false false fuel r.skip
        else some (.empty, r)
      value.map fun (value, r) => (.mapping [(key, value)], r)

/-- The entries of a mapping in braces; `first` if none has been read. -/
def readFlowEntries? (first : Bool) : Nat → Reading → ReadEntries
  | 0, _ => none
  | fuel + 1, r =>
    if r.sees [.flowMappingEnd] then some ([], r.skip)
    else if !first && !r.sees [.flowEntry] then none
    else
      let r := if first then r else r.skip
      if r.sees [.flowMappingEnd] then some ([], r.skip)
      else
        let entry : Option ((Node × Node) × Reading) :=
          if r.sees [.key] then
            match readUnless? [.value, .flowEntry, .flowMappingEnd] false false fuel r.skip with
            | none => none
            | some (key, r) =>
              let value : Read :=
                if r.sees [.value] then
                  readUnless? [.flowEntry, .flowMappingEnd] false false fuel r.skip
                else some (.empty, r)
              value.map fun (value, r) => ((key, value), r)
          else (readNode? false false fuel r).map fun (key, r) => ((key, .empty), r)
        match entry with
        | none => none
        | some (entry, r) =>
          (readFlowEntries? false fuel r).map fun (entries, r) => (entry :: entries, r)

end

/-! ### Documents -/

/-- The directives before a document. Each handle is given once, and so is the version, which
is one that is known. -/
def readDirectives? : Nat → Bool → List (String × Address) → List Token →
    Option (List (String × Address) × List Token)
  | 0, _, _, _ => none
  | fuel + 1, versioned, handles, tokens =>
    match tokens with
    | .version major minor :: rest =>
      if versioned || major ≠ 1 || (minor ≠ 1 && minor ≠ 2) then none
      else readDirectives? fuel true handles rest
    | .tagHandle handle lead :: rest =>
      if handles.any fun entry => entry.1 == handle then none
      else readDirectives? fuel versioned (handles ++ [(handle, lead)]) rest
    | tokens => some (handles, tokens)

/-- The handles that stand for something of their own accord. -/
def defaultHandles : List (String × Address) :=
  [("!", .ofText "!"), ("!!", .ofText "tag:yaml.org,2002:")]

/-- Whether nothing but ends of documents is left. -/
def onlyEnds (tokens : List Token) : Bool :=
  tokens.all (· == .documentEnd)

/-- The document that tokens are, if they are at most one. -/
def documentOf? (tokens : List Token) : Option (Option Document) :=
  if tokens.isEmpty then some none
  else
    match readDirectives? (tokens.length + 1) false [] tokens with
    | none => none
    | some (handles, rest) =>
      let directed := rest.length < tokens.length
      let marked := rest.head? = some .documentStart
      if directed && !marked then none
      else
        let r : Reading :=
          { tokens := if marked then rest.tail else rest
            handles := handles ++ defaultHandles }
        let absent := marked && (r.tokens.isEmpty || r.sees [.documentEnd])
        let read :=
          if absent then some (.empty, r)
          else readNode? true false (8 * r.tokens.length + 8) r
        match read with
        | none => none
        | some (root, r) =>
          if onlyEnds r.tokens then some (some ⟨root, r.targets⟩) else none

/-- The document that a text is: an error outside for a text that is none or more than one, and
nothing inside for a text without a document. -/
def document? (text : String) : Option (Option Document) :=
  (tokens? text).bind documentOf?

end Testbed.Yaml
