import RequestFlow.Document.Node
import RequestFlow.Document.Yaml.Token

/-!
Contract: the tree of a YAML document, anchors and aliases included.

Owns: the grammar of tokens, the resolution of tags and alias names, and the
expansion of aliases into the nodes they stand for.

A document may refer to itself, and an alias may stand for many others, so the
expansion is bounded: by the depth of nested containers, and by the number of
aliases followed, in proportion to the size of the document. What lies beyond a
bound becomes a node that no reading accepts.
-/

namespace RequestFlow.Document.Yaml

/-- A document before its aliases are followed. An anchored node carries the
number of its anchor. -/
inductive Outline where
  | scalar (text : String) (plain : Bool) (tag : Option String)
  | sequence (tag : Option String) (items : List Outline)
  | mapping (tag : Option String) (fields : List (Outline × Outline))
  | alias (slot : Nat)
deriving Inhabited

/-- What is known of anchors. Every anchor takes a slot, numbered by how many
names there were before; a later anchor in the same slot replaces an earlier
one. `starts` lists the slots with the anchors' serial numbers, the last first,
and `nodes` the anchored nodes by serial number. `size` counts nodes, containers
twice. -/
structure Anchors where
  names : List (String × Nat)
  starts : List (Nat × Nat)
  nodes : List (Nat × Outline)
  serial : Nat
  size : Nat

namespace Anchors

def none : Anchors := ⟨[], [], [], 0, 0⟩

/-- The number of different names. -/
def count (anchors : Anchors) : Nat :=
  (anchors.names.map Prod.fst).eraseDups.length

/-- Registers a name for a node that starts here. -/
def register (anchors : Anchors) (name : String) : Anchors :=
  let slot := anchors.count
  { anchors with
    names := (name, slot) :: anchors.names
    starts := (slot, anchors.serial) :: anchors.starts
    serial := anchors.serial + 1 }

/-- The node of a slot. -/
def node? (anchors : Anchors) (slot : Nat) : Option Outline := do
  anchors.nodes.lookup (← anchors.starts.lookup slot)

def grow (anchors : Anchors) (count : Nat) : Anchors :=
  { anchors with size := anchors.size + count }

end Anchors

/-- A reading of tokens: a result, the tokens left and the anchors so far. -/
structure Parse (α : Type) where
  value : α
  rest : List Token
  anchors : Anchors

def emptyScalar (tag : Option String) : Outline := .scalar "" true tag

/-- The anchor and the tag in front of a node, in either order. -/
structure Properties where
  anchor : Option String
  tag : Option (String × String)

def takeProperties : List Token → Properties × List Token
  | .anchor name :: .tag handle suffix :: rest => (⟨some name, some (handle, suffix)⟩, rest)
  | .anchor name :: rest => (⟨some name, none⟩, rest)
  | .tag handle suffix :: .anchor name :: rest => (⟨some name, some (handle, suffix)⟩, rest)
  | .tag handle suffix :: rest => (⟨none, some (handle, suffix)⟩, rest)
  | tokens => (⟨none, none⟩, tokens)

/-- The handles that every document knows. -/
def standardHandles : List (String × String) :=
  [("!", "!"), ("!!", "tag:yaml.org,2002:")]

/-- The full text of a tag; fails for an unknown handle. -/
def resolveTag (handles : List (String × String)) :
    Option (String × String) → Option (Option String)
  | none => some none
  | some (handle, suffix) =>
      if handle.isEmpty then some (some suffix)
      else (handles.lookup handle).map fun uri => some (uri ++ suffix)

/-- A node may start with any of these tokens, apart from its properties. -/
def isOneOf (choices : List Token) (tokens : List Token) : Bool :=
  tokens.head?.any choices.contains

mutual

/-- Reads a node. In flow context block collections cannot start, and only where
`indentless` holds may a sequence stand without an indentation of its own. -/
def parseNode (handles : List (String × String)) :
    (fuel : Nat) → (block indentless : Bool) → List Token → Anchors → Option (Parse Outline)
  | 0, _, _, _, _ => none
  | fuel + 1, block, indentless, tokens, anchors =>
      match tokens with
      | .alias name :: rest => do
          let slot ← anchors.names.lookup name
          some ⟨.alias slot, rest, anchors.grow 1⟩
      | _ => do
          let (properties, rest) := takeProperties tokens
          let tag ← resolveTag handles properties.tag
          let registered :=
            match properties.anchor with
            | some name => anchors.register name
            | none => anchors
          let parsed ← parseContent handles fuel block indentless
            (properties.anchor.isSome || properties.tag.isSome) tag rest registered
          match properties.anchor with
          | some _ =>
              some { parsed with anchors :=
                { parsed.anchors with
                  nodes := (anchors.serial, parsed.value) :: parsed.anchors.nodes } }
          | none => some parsed

/-- Reads a node behind its properties. With properties it may be empty. -/
def parseContent (handles : List (String × String)) :
    (fuel : Nat) → (block indentless hasProperties : Bool) → (tag : Option String) →
      List Token → Anchors → Option (Parse Outline)
  | 0, _, _, _, _, _, _ => none
  | fuel + 1, block, indentless, hasProperties, tag, tokens, anchors =>
      match tokens with
      | .scalar text plain :: rest =>
          if tag == some "!" then
            some ⟨.scalar text plain none, rest, anchors.grow 1⟩
          else some ⟨.scalar text plain tag, rest, anchors.grow 1⟩
      | .flowSequence :: rest => do
          let items ← parseFlowItems handles fuel true rest (anchors.grow 2)
          some ⟨.sequence tag items.value, items.rest, items.anchors⟩
      | .flowMapping :: rest => do
          let fields ← parseFlowFields handles fuel true rest (anchors.grow 2)
          some ⟨.mapping tag fields.value, fields.rest, fields.anchors⟩
      | .blockSequence :: rest =>
          if block then do
            let items ← parseBlockItems handles fuel rest (anchors.grow 2)
            some ⟨.sequence tag items.value, items.rest, items.anchors⟩
          else parseAbsent hasProperties tag tokens anchors
      | .blockMapping :: rest =>
          if block then do
            let fields ← parseBlockFields handles fuel rest (anchors.grow 2)
            some ⟨.mapping tag fields.value, fields.rest, fields.anchors⟩
          else parseAbsent hasProperties tag tokens anchors
      | .entry :: _ =>
          if indentless then do
            let items ← parseIndentlessItems handles fuel tokens (anchors.grow 2)
            some ⟨.sequence tag items.value, items.rest, items.anchors⟩
          else parseAbsent hasProperties tag tokens anchors
      | _ => parseAbsent hasProperties tag tokens anchors

/-- The empty node that properties stand for. -/
def parseAbsent (hasProperties : Bool) (tag : Option String) (tokens : List Token)
    (anchors : Anchors) : Option (Parse Outline) :=
  if hasProperties then some ⟨emptyScalar tag, tokens, anchors.grow 1⟩ else none

/-- Reads a node, or nothing at all before one of the given tokens. -/
def parseOptional (handles : List (String × String)) :
    (fuel : Nat) → (block indentless : Bool) → (stops : List Token) → List Token → Anchors →
      Option (Parse Outline)
  | 0, _, _, _, _, _ => none
  | fuel + 1, block, indentless, stops, tokens, anchors =>
      if isOneOf stops tokens then some ⟨emptyScalar none, tokens, anchors.grow 1⟩
      else parseNode handles fuel block indentless tokens anchors

def parseBlockItems (handles : List (String × String)) :
    (fuel : Nat) → List Token → Anchors → Option (Parse (List Outline))
  | 0, _, _ => none
  | fuel + 1, tokens, anchors =>
      match tokens with
      | .blockEnd :: rest => some ⟨[], rest, anchors⟩
      | .entry :: rest => do
          let item ← parseOptional handles fuel true false [.entry, .blockEnd] rest anchors
          let more ← parseBlockItems handles fuel item.rest item.anchors
          some { more with value := item.value :: more.value }
      | _ => none

/-- The items of a sequence that shares the indentation of its mapping. -/
def parseIndentlessItems (handles : List (String × String)) :
    (fuel : Nat) → List Token → Anchors → Option (Parse (List Outline))
  | 0, _, _ => none
  | fuel + 1, tokens, anchors =>
      match tokens with
      | .entry :: rest => do
          let item ← parseOptional handles fuel true false [.entry, .key, .value, .blockEnd]
            rest anchors
          let more ← parseIndentlessItems handles fuel item.rest item.anchors
          some { more with value := item.value :: more.value }
      | _ => some ⟨[], tokens, anchors⟩

def parseBlockFields (handles : List (String × String)) :
    (fuel : Nat) → List Token → Anchors → Option (Parse (List (Outline × Outline)))
  | 0, _, _ => none
  | fuel + 1, tokens, anchors =>
      match tokens with
      | .blockEnd :: rest => some ⟨[], rest, anchors⟩
      | .key :: rest => do
          let key ← parseOptional handles fuel true true [.key, .value, .blockEnd] rest anchors
          let value ←
            match key.rest with
            | .value :: rest =>
                parseOptional handles fuel true true [.key, .value, .blockEnd] rest key.anchors
            | rest => some ⟨emptyScalar none, rest, key.anchors.grow 1⟩
          let more ← parseBlockFields handles fuel value.rest value.anchors
          some { more with value := (key.value, value.value) :: more.value }
      | _ => none

/-- The items of a flow sequence. An item that starts with a key is a mapping of
that key alone. -/
def parseFlowItems (handles : List (String × String)) :
    (fuel : Nat) → (first : Bool) → List Token → Anchors → Option (Parse (List Outline))
  | 0, _, _, _ => none
  | fuel + 1, first, tokens, anchors =>
      match tokens with
      | .flowSequenceEnd :: rest => some ⟨[], rest, anchors⟩
      | _ => do
          let tokens ← if first then some tokens else
            match tokens with
            | .flowEntry :: rest => some rest
            | _ => none
          match tokens with
          | .flowSequenceEnd :: rest => some ⟨[], rest, anchors⟩
          | .key :: rest => do
              let item ← parsePair handles fuel rest (anchors.grow 2)
              let more ← parseFlowItems handles fuel false item.rest item.anchors
              some { more with value := item.value :: more.value }
          | _ => do
              let item ← parseNode handles fuel false false tokens anchors
              let more ← parseFlowItems handles fuel false item.rest item.anchors
              some { more with value := item.value :: more.value }

/-- The only field of a mapping within a flow sequence. Without a key the token
after the key's mark is lost. -/
def parsePair (handles : List (String × String)) :
    (fuel : Nat) → List Token → Anchors → Option (Parse Outline)
  | 0, _, _ => none
  | fuel + 1, tokens, anchors => do
      let stops := [Token.flowEntry, .flowSequenceEnd]
      let key ←
        if isOneOf (.value :: stops) tokens then
          some ⟨emptyScalar none, tokens.drop 1, anchors.grow 1⟩
        else parseNode handles fuel false false tokens anchors
      let value ←
        match key.rest with
        | .value :: rest => parseOptional handles fuel false false stops rest key.anchors
        | rest => some ⟨emptyScalar none, rest, key.anchors.grow 1⟩
      some ⟨.mapping none [(key.value, value.value)], value.rest, value.anchors⟩

def parseFlowFields (handles : List (String × String)) :
    (fuel : Nat) → (first : Bool) → List Token → Anchors →
      Option (Parse (List (Outline × Outline)))
  | 0, _, _, _ => none
  | fuel + 1, first, tokens, anchors =>
      match tokens with
      | .flowMappingEnd :: rest => some ⟨[], rest, anchors⟩
      | _ => do
          let tokens ← if first then some tokens else
            match tokens with
            | .flowEntry :: rest => some rest
            | _ => none
          let stops := [Token.flowEntry, .flowMappingEnd]
          match tokens with
          | .flowMappingEnd :: rest => some ⟨[], rest, anchors⟩
          | .key :: rest => do
              let key ← parseOptional handles fuel false false (.value :: stops) rest anchors
              let value ←
                match key.rest with
                | .value :: rest => parseOptional handles fuel false false stops rest key.anchors
                | rest => some ⟨emptyScalar none, rest, key.anchors.grow 1⟩
              let more ← parseFlowFields handles fuel false value.rest value.anchors
              some { more with value := (key.value, value.value) :: more.value }
          | _ => do
              let key ← parseNode handles fuel false false tokens anchors
              let anchors := key.anchors.grow 1
              let more ← parseFlowFields handles fuel false key.rest anchors
              some { more with value := (key.value, emptyScalar none) :: more.value }

end

/-! ## Documents -/

/-- The directives in front of a document: one version at most, and handles for
tags, each once. -/
def takeDirectives : (versionSeen : Bool) → (own : List (String × String)) → List Token →
    Option (List (String × String) × List Token)
  | seen, own, .version major minor :: rest =>
      if seen || major != 1 || (minor != 1 && minor != 2) then none
      else takeDirectives true own rest
  | seen, own, .tagHandle handle uri :: rest =>
      if (own.lookup handle).isSome then none
      else takeDirectives seen ((handle, uri) :: own) rest
  | _, own, rest => some (own, rest)

/-- The root of the only document of a text, with its anchors. -/
def parseDocument? (tokens : List Token) : Option (Outline × Anchors) := do
  let fuel := 4 * tokens.length + 8
  let root ←
    match tokens with
    | .version .. :: _ | .tagHandle .. :: _ | .documentStart :: _ => do
        let (own, rest) ← takeDirectives false [] tokens
        match rest with
        | .documentStart :: rest =>
            let isEmpty :=
              match rest with
              | [] | .version .. :: _ | .tagHandle .. :: _ | .documentStart :: _
              | .documentEnd :: _ => true
              | _ => false
            if isEmpty then some ⟨emptyScalar none, rest, Anchors.none.grow 1⟩
            else parseNode (own ++ standardHandles) fuel true false rest Anchors.none
        | _ => none
    | [] => some ⟨emptyScalar none, [], Anchors.none.grow 1⟩
    | _ => parseNode standardHandles fuel true false tokens Anchors.none
  if root.rest.all (· == .documentEnd) then some (root.value, root.anchors) else none

/-! ## Expansion -/

/-- The deepest nesting of containers that is read. -/
def maxDepth : Nat := 128

/-- How many aliases are followed for each node of a document. -/
def aliasesPerNode : Nat := 100

/-- A container with an application's type mark is marked. -/
def marked (tag : Option String) (node : Node) : Node :=
  if tag.any Node.isLocalTag then .marked node else node

/-- Expands a node. The state counts the aliases that may still be followed. -/
def expand (anchors : Anchors) : (depth : Nat) → Outline → StateM Nat Node
  | depth, outline => do
      let target ←
        match outline with
        | .alias slot => do
            let left ← get
            set (left - 1)
            if left == 0 then pure none else pure (anchors.node? slot)
        | other => pure (some other)
      match target, depth with
      | none, _ => pure .unfit
      | some (.alias _), _ => pure .unfit
      | some (.scalar text plain tag), _ => pure (.loose text plain tag)
      | some (.sequence ..), 0 | some (.mapping ..), 0 => pure (.deep .null)
      | some (.sequence tag items), depth + 1 => do
          let nodes ← items.mapM (expand anchors depth)
          pure (marked tag (.sequence nodes none))
      | some (.mapping tag fields), depth + 1 => do
          let nodes ← fields.mapM fun (key, value) => do
            let key ← expand anchors depth key
            let value ← expand anchors depth value
            pure (key, value)
          pure (marked tag (.mapping nodes none))

/-- The tree of a text that holds one YAML document. -/
def parse? (text : String) : Option Node := do
  let (root, anchors) ← parseDocument? (← tokens? text)
  some ((expand anchors maxDepth root).run (aliasesPerNode * anchors.size)).1

end RequestFlow.Document.Yaml
