import NamespaceLifecycle.Yaml.Token

/-!
# Nodes

The tree that a row of tokens stands for: scalars, sequences, and mappings from nodes to nodes. A
node may be named, and the name stands for it further on. The tree keeps names as numbers, so that
it stays finite when a node names itself inside. What is left out between marks is an empty plain
scalar. A text holds at most one document here.
-/

namespace NamespaceLifecycle.Yaml

/-- The tree of a document. A scalar keeps how it was written and its tag. -/
inductive Node where
  | scalar (style : ScalarStyle) (tag : Option Tag) (value : String)
  | sequence (items : List Node)
  | mapping (pairs : List (Node × Node))
  /-- A node that was given a name. -/
  | named (number : Nat) (node : Node)
  /-- A name in place of a node. -/
  | reference (number : Nat)
  deriving Repr, Inhabited

namespace Node

def empty : Node := .scalar .plain none ""

abbrev Names := List (String × Nat)

/-- The names after one more was given. Its number is how many there were before, so a name that
is given again shares its new number with the next name that is new. -/
def Names.give (names : Names) (name : String) : Names :=
  (name, names.length) :: names.filter fun n => n.1 ≠ name

/-- What a reader of tokens works with: the tokens that are left and the names given so far. -/
structure Rest where
  tokens : List Token
  names : Names

structure Properties where
  anchor : Option String
  tag : Option Tag

def Properties.isEmpty (before : Properties) : Bool := before.anchor.isNone && before.tag.isNone

/-- Name and tag before a node, in either order, each at most once. -/
def properties (handles : Tag.Handles) : List Token → Option (Properties × List Token)
  | .anchor a :: .tag written :: rest => do
    let tag ← written.resolve handles
    return (⟨some a, some tag⟩, rest)
  | .tag written :: .anchor a :: rest => do
    let tag ← written.resolve handles
    return (⟨some a, some tag⟩, rest)
  | .anchor a :: rest => some (⟨some a, none⟩, rest)
  | .tag written :: rest => do
    let tag ← written.resolve handles
    return (⟨none, some tag⟩, rest)
  | rest => some (⟨none, none⟩, rest)

/-- A scalar that was written out; the tag without a name tells nothing of it. -/
def written (style : ScalarStyle) (tag : Option Tag) (value : String) : Node :=
  .scalar style (tag.filter (· ≠ Tag.nonSpecific)) value

/-- The marks that leave out the node before them in a block. -/
def endsBlockNode : Option Token → Bool
  | some .key | some .value | some .blockEnd | none => true
  | _ => false

/-- The marks that leave out the node before them among entries of a block. -/
def endsEntry (indentless : Bool) : Option Token → Bool
  | some .entry | some .blockEnd | none => true
  | some .key | some .value => indentless
  | _ => false

def dropFlowEntry : List Token → Option (List Token)
  | .flowEntry :: rest => some rest
  | _ => none

mutual

/-- A node. In a block it may open a block of its own, and as a part of a mapping a sequence that
is no further in. Its name counts from before its content. -/
def read (handles : Tag.Handles) (block indentless : Bool) (fuel : Nat) (rest : Rest) :
    Option (Node × Rest) :=
  match fuel, rest.tokens with
  | 0, _ => none
  | _, .alias name :: tokens =>
    (rest.names.find? fun n => n.1 = name).map fun n =>
      (.reference n.2, { rest with tokens := tokens })
  | fuel + 1, tokens => do
    let (before, tokens) ← properties handles tokens
    match before.anchor with
    | some name =>
      let (node, after) ← readContent handles before block indentless fuel
        ⟨tokens, rest.names.give name⟩
      return (.named rest.names.length node, after)
    | none => readContent handles before block indentless fuel { rest with tokens := tokens }

/-- A node without what stands before it. It may be left out only when something does. -/
def readContent (handles : Tag.Handles) (before : Properties) (block indentless : Bool)
    (fuel : Nat) (rest : Rest) : Option (Node × Rest) :=
  match fuel, rest.tokens with
  | 0, _ => none
  | fuel + 1, tokens =>
    let leftOut := if before.isEmpty then none else some (.scalar .plain before.tag "", rest)
    match tokens with
    | .entry :: _ =>
      if indentless then do
        let (items, rest) ← readEntries handles true fuel rest
        return (.sequence items, rest)
      else leftOut
    | .scalar style value :: tokens =>
      some (written style before.tag value, { rest with tokens := tokens })
    | .flowSequenceStart :: tokens => do
      let (items, rest) ← readFlowItems handles true fuel { rest with tokens := tokens }
      return (.sequence items, rest)
    | .flowMappingStart :: tokens => do
      let (pairs, rest) ← readFlowPairs handles true fuel { rest with tokens := tokens }
      return (.mapping pairs, rest)
    | .blockSequenceStart :: tokens =>
      if block then do
        let (items, rest) ← readEntries handles false fuel { rest with tokens := tokens }
        return (.sequence items, rest)
      else leftOut
    | .blockMappingStart :: tokens =>
      if block then do
        let (pairs, rest) ← readPairs handles fuel { rest with tokens := tokens }
        return (.mapping pairs, rest)
      else leftOut
    | _ => leftOut

/-- A node of a block, or the empty one where the next mark leaves it out. -/
def readOrEmpty (handles : Tag.Handles) (isLeftOut : Bool) (indentless : Bool) (fuel : Nat)
    (rest : Rest) : Option (Node × Rest) :=
  match fuel with
  | 0 => none
  | fuel + 1 => if isLeftOut then some (empty, rest) else read handles true indentless fuel rest

/-- The entries of a sequence in a block; one that is no further in has no mark at its end. -/
def readEntries (handles : Tag.Handles) (indentless : Bool) (fuel : Nat) (rest : Rest) :
    Option (List Node × Rest) :=
  match fuel, rest.tokens with
  | 0, _ => none
  | fuel + 1, .entry :: tokens => do
    let (item, rest) ← readOrEmpty handles (endsEntry indentless tokens.head?) false fuel
      { rest with tokens := tokens }
    let (items, rest) ← readEntries handles indentless fuel rest
    return (item :: items, rest)
  | _, tokens =>
    if indentless then some ([], rest)
    else
      match tokens with
      | .blockEnd :: tokens => some ([], { rest with tokens := tokens })
      | _ => none

def readPairs (handles : Tag.Handles) (fuel : Nat) (rest : Rest) :
    Option (List (Node × Node) × Rest) :=
  match fuel, rest.tokens with
  | 0, _ => none
  | fuel + 1, .key :: tokens => do
    let (key, rest) ← readOrEmpty handles (endsBlockNode tokens.head?) true fuel
      { rest with tokens := tokens }
    let (value, rest) ←
      match rest.tokens with
      | .value :: tokens =>
        readOrEmpty handles (endsBlockNode tokens.head?) true fuel { rest with tokens := tokens }
      | _ => some (empty, rest)
    let (pairs, rest) ← readPairs handles fuel rest
    return ((key, value) :: pairs, rest)
  | _, .blockEnd :: tokens => some ([], { rest with tokens := tokens })
  | _, _ => none

def readFlowPart (handles : Tag.Handles) (isKey : Bool) (fuel : Nat) (rest : Rest) :
    Option (Node × Rest) :=
  match fuel, rest.tokens with
  | 0, _ => none
  | _, [] => none
  | fuel + 1, token :: _ =>
    if token = .flowEntry ∨ token = .flowMappingEnd ∨ (isKey ∧ token = .value) then
      some (empty, rest)
    else read handles false false fuel rest

/-- The key of a pair between square brackets. Where a mark leaves it out, the mark is taken with
it, so that the value needs a mark of its own. -/
def readItemKey (handles : Tag.Handles) (fuel : Nat) (rest : Rest) : Option (Node × Rest) :=
  match fuel, rest.tokens with
  | 0, _ => none
  | _, .value :: tokens | _, .flowEntry :: tokens | _, .flowSequenceEnd :: tokens =>
    some (empty, { rest with tokens := tokens })
  | fuel + 1, _ => read handles false false fuel rest

def readItemValue (handles : Tag.Handles) (fuel : Nat) (rest : Rest) : Option (Node × Rest) :=
  match fuel, rest.tokens with
  | 0, _ => none
  | fuel + 1, .value :: tokens =>
    let rest := { rest with tokens := tokens }
    match tokens with
    | .flowEntry :: _ | .flowSequenceEnd :: _ => some (empty, rest)
    | _ => read handles false false fuel rest
  | _, _ => some (empty, rest)

/-- The items between square brackets. A marked key makes a mapping of one pair. -/
def readFlowItems (handles : Tag.Handles) (isFirst : Bool) (fuel : Nat) (rest : Rest) :
    Option (List Node × Rest) :=
  match fuel, rest.tokens with
  | 0, _ => none
  | _, .flowSequenceEnd :: tokens => some ([], { rest with tokens := tokens })
  | fuel + 1, tokens => do
    let tokens ← if isFirst then some tokens else dropFlowEntry tokens
    match tokens with
    | .flowSequenceEnd :: tokens => return ([], { rest with tokens := tokens })
    | .key :: tokens =>
      let (key, rest) ← readItemKey handles fuel { rest with tokens := tokens }
      let (value, rest) ← readItemValue handles fuel rest
      let (items, rest) ← readFlowItems handles false fuel rest
      return (.mapping [(key, value)] :: items, rest)
    | tokens =>
      let (item, rest) ← read handles false false fuel { rest with tokens := tokens }
      let (items, rest) ← readFlowItems handles false fuel rest
      return (item :: items, rest)

/-- The pairs between curly brackets. What is not marked as a key has no value. -/
def readFlowPairs (handles : Tag.Handles) (isFirst : Bool) (fuel : Nat) (rest : Rest) :
    Option (List (Node × Node) × Rest) :=
  match fuel, rest.tokens with
  | 0, _ => none
  | _, .flowMappingEnd :: tokens => some ([], { rest with tokens := tokens })
  | fuel + 1, tokens => do
    let tokens ← if isFirst then some tokens else dropFlowEntry tokens
    match tokens with
    | .flowMappingEnd :: tokens => return ([], { rest with tokens := tokens })
    | .key :: tokens =>
      let (key, rest) ← readFlowPart handles true fuel { rest with tokens := tokens }
      let (value, rest) ←
        match rest.tokens with
        | .value :: tokens => readFlowPart handles false fuel { rest with tokens := tokens }
        | _ => some (empty, rest)
      let (pairs, rest) ← readFlowPairs handles false fuel rest
      return ((key, value) :: pairs, rest)
    | tokens =>
      let (key, rest) ← read handles false false fuel { rest with tokens := tokens }
      let (pairs, rest) ← readFlowPairs handles false fuel rest
      return ((key, empty) :: pairs, rest)

end

def directives (told : Directives) : List Token → Option (Directives × List Token)
  | .directive directive :: rest => do
    let told ← told.add directive
    directives told rest
  | rest => some (told, rest)

/-- The tokens after the marks that end a document. -/
def dropDocumentEnds : List Token → List Token
  | .documentEnd :: rest => dropDocumentEnds rest
  | rest => rest

/-- The one document of a row of tokens, the empty node when there is none. A directive asks for a
mark before the document. -/
def ofTokens? (tokens : List Token) : Option Node := do
  let (told, tokens) ← directives .empty tokens
  let fuel := 5 * tokens.length + 5
  let (node, rest) ←
    match tokens with
    | [] => if told.isEmpty then some (empty, ⟨[], []⟩) else none
    | .documentStart :: tokens =>
      match tokens with
      | [] | .documentEnd :: _ | .documentStart :: _ | .directive _ :: _ =>
        some (empty, ⟨tokens, []⟩)
      | _ => read told.allHandles true false fuel ⟨tokens, []⟩
    | _ => if told.isEmpty then read told.allHandles true false fuel ⟨tokens, []⟩ else none
  if (dropDocumentEnds rest.tokens).isEmpty then return node else none

def ofText? (text : String) : Option Node := (tokens? text).bind ofTokens?

end Node

end NamespaceLifecycle.Yaml
