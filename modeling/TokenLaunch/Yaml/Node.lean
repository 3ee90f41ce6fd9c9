/-
# YAML documents as nodes

The second step of reading YAML makes a tree of nodes of the tokens.  An alias stands for the node
that its anchor names; it may not stand inside that node.
-/
import TokenLaunch.Yaml.Token

namespace TokenLaunch
namespace Yaml

/-- A node: a scalar, a sequence or a mapping, with its tag if it has one. -/
inductive Node
  | scalar (tag : Option String) (style : Style) (text : String)
  | sequence (tag : Option String) (items : List Node)
  | mapping (tag : Option String) (members : List (Node × Node))

namespace Node

/-- The node of nothing. -/
def empty : Node := scalar none .plain ""

end Node

/-- A node, and how many aliases are followed to walk through all of it. -/
structure Rooted where
  node : Node
  jumps : Nat := 0

/-- What is known while a document is read. -/
structure Composer where
  /-- The tokens that are left. -/
  tokens : List Token
  /-- What tag handles stand for. -/
  handles : List (String × String) := []
  /-- The names of the anchors, latest first, and the numbers of their nodes. -/
  anchors : List (String × Nat) := []
  /-- How many anchors there were. -/
  count : Nat := 0
  /-- The nodes of the anchors that are complete. -/
  nodes : List (Nat × Rooted) := []
  /-- How many nodes, ends of nodes and aliases there were. -/
  events : Nat := 0

/-- A reading of some tokens. -/
abbrev Compose (α : Type) := Composer → Option (α × Composer)

namespace Composer

/-- Go past a token. -/
def advance (s : Composer) : Composer := { s with tokens := s.tokens.tail }

/-- Count an event. -/
def countEvent (s : Composer) : Composer := { s with events := s.events + 1 }

/-- Note an anchor whose node is about to start. -/
def noteAnchor (s : Composer) : Option String → Composer
  | none => s
  | some name => { s with anchors := (name, s.count) :: s.anchors, count := s.count + 1 }

/-- Note that the node of an anchor is complete. -/
def complete (s : Composer) (number : Nat) (anchor : Option String) (r : Rooted) : Composer :=
  if anchor.isSome then { s with nodes := (number, r) :: s.nodes } else s

/-- The node that an alias stands for. -/
def resolve? (s : Composer) (name : String) : Option Rooted := do
  let r ← s.nodes.lookup (← s.anchors.lookup name)
  some { r with jumps := r.jumps + 1 }

/-- The text of a tag.  A single exclamation mark is no tag for a scalar. -/
def tagText? (s : Composer) (handle suffix : String) : Option String :=
  if handle = "" then some suffix
  else (s.handles.lookup handle).map (· ++ suffix)

end Composer

/-- The anchor and the tag in front of a node. -/
structure Properties where
  anchor : Option String := none
  tag : Option String := none

/-- Read the anchor and the tag of a node, in either order. -/
def properties? : Compose Properties := fun s =>
  match s.tokens with
  | .anchor a :: .tag h t :: rest => do
    some (⟨some a, some (← s.tagText? h t)⟩, { s with tokens := rest })
  | .tag h t :: .anchor a :: rest => do
    some (⟨some a, some (← s.tagText? h t)⟩, { s with tokens := rest })
  | .anchor a :: rest => some (⟨some a, none⟩, { s with tokens := rest })
  | .tag h t :: rest => do some (⟨none, some (← s.tagText? h t)⟩, { s with tokens := rest })
  | _ => some ({}, s)

/-- The node of a scalar token. -/
def scalarNode (tag : Option String) (style : Style) (text : String) : Rooted :=
  ⟨.scalar (tag.filter fun t => t != "!") style text, 0⟩

/-- The node of items. -/
def sequenceNode (tag : Option String) (items : List Rooted) : Rooted :=
  ⟨.sequence tag (items.map Rooted.node), items.foldr (fun r n => r.jumps + n) 0⟩

/-- The node of members. -/
def mappingNode (tag : Option String) (members : List (Rooted × Rooted)) : Rooted :=
  ⟨.mapping tag (members.map fun m => (m.1.node, m.2.node)),
    members.foldr (fun m n => m.1.jumps + m.2.jumps + n) 0⟩

/-- The node of nothing, read from no token. -/
def nothing : Compose Rooted := fun s => some (⟨.empty, 0⟩, s.countEvent)

/-- Where a node stands: in a block or in brackets, and whether the dashes of a sequence may stand
at the column of the block. -/
structure Setting where
  inBlock : Bool
  dashes : Bool := false

mutual
/-- A node. -/
def node? : Nat → Setting → Compose Rooted
  | 0, _, _ => none
  | fuel + 1, setting, s =>
    match s.tokens with
    | .alias name :: _ => do some (← s.resolve? name, s.advance.countEvent)
    | _ => do
      let (p, s) ← properties? s
      let number := s.count
      let (r, s) ← content? fuel setting p (s.noteAnchor p.anchor).countEvent
      some (r, s.complete number p.anchor r)
/-- A node without its properties. -/
def content? : Nat → Setting → Properties → Compose Rooted
  | 0, _, _, _ => none
  | fuel + 1, setting, p, s =>
    match s.tokens with
    | .blockEntry :: _ =>
      if setting.dashes then do
        let (items, s) ← entries? fuel s
        some (sequenceNode p.tag items, s.countEvent)
      else ifProperties p s
    | .scalar style text :: _ => some (scalarNode p.tag style text, s.advance)
    | .flowSequenceStart :: _ => do
      let (items, s) ← flowItems? fuel true s.advance
      some (sequenceNode p.tag items, s.countEvent)
    | .flowMappingStart :: _ => do
      let (members, s) ← flowMembers? fuel true s.advance
      some (mappingNode p.tag members, s.countEvent)
    | .blockSequenceStart :: _ =>
      if setting.inBlock then do
        let (items, s) ← entries? fuel s.advance
        match s.tokens with
        | .blockEnd :: _ => some (sequenceNode p.tag items, s.advance.countEvent)
        | _ => none
      else ifProperties p s
    | .blockMappingStart :: _ =>
      if setting.inBlock then do
        let (members, s) ← blockMembers? fuel s.advance
        some (mappingNode p.tag members, s.countEvent)
      else ifProperties p s
    | _ => ifProperties p s
/-- The items behind dashes. -/
def entries? : Nat → Compose (List Rooted)
  | 0, _ => none
  | fuel + 1, s =>
    match s.tokens with
    | .blockEntry :: rest => do
      let s := s.advance
      let (item, s) ← match rest with
        | .blockEntry :: _ | .blockEnd :: _ | .key :: _ | .value :: _ | [] => nothing s
        | _ => node? fuel ⟨true, false⟩ s
      let (items, s) ← entries? fuel s
      some (item :: items, s)
    | _ => some ([], s)
/-- The members of a mapping in a block, up to the end of the block. -/
def blockMembers? : Nat → Compose (List (Rooted × Rooted))
  | 0, _ => none
  | fuel + 1, s =>
    match s.tokens with
    | .blockEnd :: _ => some ([], s.advance)
    | .key :: rest => do
      let s := s.advance
      let (k, s) ← match rest with
        | .key :: _ | .value :: _ | .blockEnd :: _ | [] => nothing s
        | _ => node? fuel ⟨true, true⟩ s
      let (v, s) ← match s.tokens with
        | .value :: .key :: _ | .value :: .value :: _ | .value :: .blockEnd :: _ | [.value] =>
          nothing s.advance
        | .value :: _ => node? fuel ⟨true, true⟩ s.advance
        | _ => nothing s
      let (members, s) ← blockMembers? fuel s
      some ((k, v) :: members, s)
    | _ => none
/-- The items of a sequence in brackets, up to the closing bracket. -/
def flowItems? : Nat → (first : Bool) → Compose (List Rooted)
  | 0, _, _ => none
  | fuel + 1, first, s =>
    match s.tokens, first with
    | .flowSequenceEnd :: _, _ => some ([], s.advance)
    | .flowEntry :: .flowSequenceEnd :: _, false => some ([], s.advance.advance)
    | .flowEntry :: _, false => do
      let (item, s) ← flowItem? fuel s.advance
      let (items, s) ← flowItems? fuel false s
      some (item :: items, s)
    | _, true => do
      let (item, s) ← flowItem? fuel s
      let (items, s) ← flowItems? fuel false s
      some (item :: items, s)
    | _, false => none
/-- An item of a sequence in brackets: a node, or one member of a mapping. -/
def flowItem? : Nat → Compose Rooted
  | 0, _ => none
  | fuel + 1, s =>
    match s.tokens with
    | .key :: rest => do
      let s := s.advance.countEvent
      let (k, s) ← match rest with
        | .value :: _ | .flowEntry :: _ | .flowSequenceEnd :: _ => nothing s
        | _ => node? fuel ⟨false, false⟩ s
      let (v, s) ← match s.tokens with
        | .value :: .flowEntry :: _ | .value :: .flowSequenceEnd :: _ => nothing s.advance
        | .value :: _ => node? fuel ⟨false, false⟩ s.advance
        | _ => nothing s
      some (mappingNode none [(k, v)], s.countEvent)
    | _ => node? fuel ⟨false, false⟩ s
/-- The members of a mapping in brackets, up to the closing bracket. -/
def flowMembers? : Nat → (first : Bool) → Compose (List (Rooted × Rooted))
  | 0, _, _ => none
  | fuel + 1, first, s =>
    match s.tokens, first with
    | .flowMappingEnd :: _, _ => some ([], s.advance)
    | .flowEntry :: .flowMappingEnd :: _, false => some ([], s.advance.advance)
    | .flowEntry :: _, false => do
      let (m, s) ← flowMember? fuel s.advance
      let (members, s) ← flowMembers? fuel false s
      some (m :: members, s)
    | _, true => do
      let (m, s) ← flowMember? fuel s
      let (members, s) ← flowMembers? fuel false s
      some (m :: members, s)
    | _, false => none
/-- A member of a mapping in brackets.  One without a colon has no value. -/
def flowMember? : Nat → Compose (Rooted × Rooted)
  | 0, _ => none
  | fuel + 1, s =>
    match s.tokens with
    | .key :: rest => do
      let s := s.advance
      let (k, s) ← match rest with
        | .value :: _ | .flowEntry :: _ | .flowMappingEnd :: _ => nothing s
        | _ => node? fuel ⟨false, false⟩ s
      let (v, s) ← match s.tokens with
        | .value :: .flowEntry :: _ | .value :: .flowMappingEnd :: _ => nothing s.advance
        | .value :: _ => node? fuel ⟨false, false⟩ s.advance
        | _ => nothing s
      some ((k, v), s)
    | _ => do
      let (k, s) ← node? fuel ⟨false, false⟩ s
      let (v, s) ← nothing s
      some ((k, v), s)
/-- The node of nothing, where there are properties in front of it. -/
def ifProperties (p : Properties) (s : Composer) : Option (Rooted × Composer) :=
  if p.anchor.isSome || p.tag.isSome then some (scalarNode p.tag .plain "", s) else none
end

/-! ## Documents -/

/-- What tag handles stand for unless a directive says otherwise. -/
def usualHandles : List (String × String) := [("!", "!"), ("!!", "tag:yaml.org,2002:")]

/-- The directives in front of a document: what tag handles stand for, and the rest.  There is at
most one version, which must be known, and one directive for each handle. -/
def directives? : List Token → (seen : Bool) → List (String × String) →
    Option (List (String × String) × List Token)
  | .version major minor :: rest, seen, handles =>
    if seen || major != 1 || !(minor == 1 || minor == 2) then none
    else directives? rest true handles
  | .tagHandle h t :: rest, seen, handles =>
    if (handles.lookup h).isSome then none else directives? rest seen (handles ++ [(h, t)])
  | rest, _, handles => some (handles ++ usualHandles, rest)

/-- Whether a token belongs to what stands around a document. -/
def isDocumentToken : Token → Bool
  | .version _ _ | .tagHandle _ _ | .documentStart | .documentEnd => true
  | _ => false

/-- How many aliases may be followed for each node of a document. -/
def jumpsForEach : Nat := 100

/-- The node of the only document of a text, and nothing inside if there is no document. -/
def document? (s : String) : Option (Option Node) := do
  let tokens ← tokens? s
  match tokens with
  | [] => some none
  | _ => do
    let (handles, rest) ← directives? tokens false []
    let rest ← match rest with
      | .documentStart :: rest => some rest
      | rest => if rest.length = tokens.length then some rest else none
    let start : Composer := { tokens := rest, handles := handles }
    let explicit := rest.length != tokens.length
    let (r, s) ←
      if explicit && rest.head?.all isDocumentToken then nothing start
      else node? (4 * rest.length + 4) ⟨true, false⟩ start
    if s.tokens.all (· == .documentEnd) && decide (r.jumps ≤ jumpsForEach * s.events) then
      some (some r.node)
    else none

end Yaml
end TokenLaunch
