import DriveDecision.Yaml.Layout

/-!
# Yaml/Document — the document of a text

A text holds one document.  Its nodes are built from the tokens of `Yaml/Layout`; a node with an
anchor can be referred to from anywhere behind the anchor, even from within.
-/

namespace DriveDecision.Yaml

/-- A document: its node, and the nodes with an anchor, each under its number. -/
structure Document where
  root : Node
  anchored : List (Nat × Node) := []

/-- The node that a node stands for. -/
def Document.resolve (d : Document) : Node → Option Node
  | .reference number => d.anchored.lookup number
  | node => some node

/-! ## Reading tokens -/

/-- What is left of the tokens, and what is known of names. -/
structure Outline where
  tokens : List Token
  /-- The handles of tags, with the starts they stand for. -/
  handles : List (String × String) := []
  /-- The names of anchors, with their numbers. -/
  numbers : List (String × Nat) := []
  /-- The nodes with an anchor in the order of their anchors, each with its number. -/
  anchored : List (Nat × Node) := []

abbrev Builder (β : Type) := StateT Outline Option β

/-- The next token. -/
def upcoming : Builder (Option Token) := return (← get).tokens.head?

def dropToken : Builder Unit := modify fun s => { s with tokens := s.tokens.tail }

/-- Past a token, if it is the next one. -/
def skipToken (token : Token) : Builder Bool := do
  let isNext := (← upcoming) == some token
  if isNext then dropToken
  return isNext

/-! ## Anchors and tags -/

/-- The name of the anchor that comes next, if one does. -/
def anchorName? : Builder (Option String) := do
  match ← upcoming with
  | some (.anchor name) =>
    dropToken
    return some name
  | _ => return none

/-- The tag that comes next, if one does, in full. -/
def fullTag? : Builder (Option String) := do
  match ← upcoming with
  | some (.tag handle suffix) =>
    dropToken
    if handle.isEmpty then return some suffix
    let handles := (← get).handles ++ [("!", "!"), ("!!", standardTags)]
    let some start := handles.lookup handle | failure
    return some (start ++ suffix)
  | _ => return none

/-- A place for the node behind an anchor.  Its number is how many names there were before; where a
name was given again, an anchor can take the number over from another. -/
def reserve (name : String) : Builder Nat := do
  let s ← get
  let number := s.numbers.length
  set { s with
    numbers := (name, number) :: s.numbers.filter (·.1 != name)
    anchored := s.anchored ++ [(number, Node.empty)] }
  return s.anchored.length

/-- The node for a reserved place. -/
def fill (node : Node) (place : Nat) : Builder Unit := modify fun s =>
  { s with anchored := s.anchored.modify place fun (number, _) => (number, node) }

/-- The number of a name. -/
def numberOf (name : String) : Builder Nat := do
  let some number := (← get).numbers.lookup name | failure
  return number

/-! ## Nodes -/

mutual

/-- A node.  Where `isEntry` is set, the items of a list may come without a block of their own. -/
def node (isEntry : Bool) : Nat → Builder Node
  | 0 => failure
  | fuel + 1 => do
    if let some (.reference name) ← upcoming then
      dropToken
      return .reference (← numberOf name)
    let before ← anchorName?
    let tag ← fullTag?
    let anchor ← if before.isSome then pure before else anchorName?
    let place ← anchor.mapM reserve
    let read ← match ← upcoming with
      | some (.scalar text style) => do
        dropToken
        pure (.scalar text style tag)
      | some .openSequence => .sequence <$> (do dropToken; flowItems true fuel)
      | some .openMapping => .mapping <$> (do dropToken; flowEntries true fuel)
      | some .blockSequence => .sequence <$> (do dropToken; blockItems fuel)
      | some .blockMapping => .mapping <$> (do dropToken; blockEntries fuel)
      | next =>
        if isEntry && next == some .dash then .sequence <$> looseItems fuel
        else do
          guard (anchor.isSome || tag.isSome)
          pure (.scalar "" .plain tag)
    place.forM (fill read)
    return read

/-- A node, or nothing if one of some tokens comes. -/
def nodeUnless (ends : List Token) (isEntry : Bool) : Nat → Builder Node
  | 0 => failure
  | fuel + 1 => do
    if (← upcoming).any (ends.contains ·) then return .empty else node isEntry fuel

/-- The items of a list up to the closing bracket.  An entry among them is a mapping of its own. -/
def flowItems (isFirst : Bool) : Nat → Builder (List Node)
  | 0 => failure
  | fuel + 1 => do
    unless isFirst || (← upcoming) == some .closeSequence do guard (← skipToken .comma)
    if ← skipToken .closeSequence then return []
    let item ← if ← skipToken .key then do
        let key ← flowKey fuel
        pure (.mapping [(key, ← flowValue .closeSequence fuel)])
      else node false fuel
    return item :: (← flowItems false fuel)

/-- A key among the items of a list; the token that stands where it is missing is left out. -/
def flowKey : Nat → Builder Node
  | 0 => failure
  | fuel + 1 => do
    if (← upcoming).any ([.value, .comma, .closeSequence].contains ·) then
      dropToken
      return .empty
    else node false fuel

/-- The value behind a key, in brackets that `close`. -/
def flowValue (close : Token) : Nat → Builder Node
  | 0 => failure
  | fuel + 1 => do
    if ← skipToken .value then nodeUnless [.comma, close] false fuel else return .empty

/-- The entries of a mapping up to the closing brace. -/
def flowEntries (isFirst : Bool) : Nat → Builder (List (Node × Node))
  | 0 => failure
  | fuel + 1 => do
    unless isFirst || (← upcoming) == some .closeMapping do guard (← skipToken .comma)
    if ← skipToken .closeMapping then return []
    let entry ← if ← skipToken .key then do
        let key ← nodeUnless [.value, .comma, .closeMapping] false fuel
        pure (key, ← flowValue .closeMapping fuel)
      else do pure (← node false fuel, .empty)
    return entry :: (← flowEntries false fuel)

/-- The items of a list up to the end of its block. -/
def blockItems : Nat → Builder (List Node)
  | 0 => failure
  | fuel + 1 => do
    if ← skipToken .blockEnd then return []
    guard (← skipToken .dash)
    let item ← nodeUnless [.dash, .blockEnd] false fuel
    return item :: (← blockItems fuel)

/-- The items of a list without a block of its own. -/
def looseItems : Nat → Builder (List Node)
  | 0 => failure
  | fuel + 1 => do
    if !(← skipToken .dash) then return []
    let item ← nodeUnless [.dash, .key, .value, .blockEnd] false fuel
    return item :: (← looseItems fuel)

/-- The entries of a mapping up to the end of its block. -/
def blockEntries : Nat → Builder (List (Node × Node))
  | 0 => failure
  | fuel + 1 => do
    if ← skipToken .blockEnd then return []
    guard (← skipToken .key)
    let ends := [.key, .value, .blockEnd]
    let key ← nodeUnless ends true fuel
    let value ← if ← skipToken .value then nodeUnless ends true fuel else pure .empty
    return (key, value) :: (← blockEntries fuel)

end

/-! ## Documents -/

/-- The directives before a document: at most one version, and each handle once. -/
def directives (hasVersion : Bool) : Nat → Builder Unit
  | 0 => failure
  | fuel + 1 => do
    match ← upcoming with
    | some .version =>
      guard (!hasVersion)
      dropToken
      directives true fuel
    | some (.handle name start) =>
      dropToken
      let s ← get
      guard ((s.handles.lookup name).isNone)
      set { s with handles := (name, start) :: s.handles }
      directives hasVersion fuel
    | _ => return

/-- At a token that stands before or behind documents. -/
def atDocumentEdge : Builder Bool := do
  match ← upcoming with
  | none | some .version | some (.handle ..) => return true
  | next => return next == some .documentStart || next == some .documentEnd

/-- The node of a document.  Only in a text without tokens, or between the marks of a document, it
may be missing. -/
def root (fuel : Nat) : Builder Node := do
  let isMarked ← atDocumentEdge
  if (← upcoming).isNone then return .empty
  if isMarked then
    directives false fuel
    guard (← skipToken .documentStart)
    if ← atDocumentEdge then return .empty
  node false fuel

/-- Past the ends of documents. -/
def documentEnds : Nat → Builder Unit
  | 0 => failure
  | fuel + 1 => do if ← skipToken .documentEnd then documentEnds fuel

/-- The only document of some tokens. -/
def document : Builder Document := do
  let fuel := 3 * (← get).tokens.length + 3
  let root ← root fuel
  documentEnds fuel
  guard (← upcoming).isNone
  return ⟨root, (← get).anchored.reverse⟩

/-! ## Texts -/

/-- Characters a text may hold. -/
def isPrintable (c : Char) : Bool :=
  c == '\t' || c == '\n' || c == '\r' || c == '\u0085'
    || (' ' ≤ c && c ≤ '~') || ('\u00a0' ≤ c && c.toNat ≤ 0xfffd)
    || 0x10000 ≤ c.toNat

/-- A line end is one character, whichever of its usual forms it has. -/
def unifyBreaks : List Char → List Char
  | [] => []
  | '\r' :: '\n' :: rest => '\n' :: unifyBreaks rest
  | c :: rest => (if c == '\r' || c == '\u0085' then '\n' else c) :: unifyBreaks rest

/-- **The document of a text**: fails if the text is not well formed. -/
def read? (text : String) : Option Document := do
  guard (text.toList.all isPrintable)
  let chars := unifyBreaks text.toList
  let start : Layout := { cursor := { rest := chars } }
  let tokens ← start.tokens? (chars.length + 2)
  document.run' { tokens }

end DriveDecision.Yaml
