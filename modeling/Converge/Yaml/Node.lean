import Converge.Yaml.Tag
import Converge.Yaml.Token.Lexer

/-!
This module contains the nodes of a YAML document and how its tokens make them up.
-/

namespace Converge.Yaml

/--
A node. An alias keeps its name: the node that it stands for may contain it.
-/
inductive Node
  | scalar (tag : Tag) (text : Text)
  | sequence (anchor? : Option Text) (tag : Tag) (items : List Node)
  | mapping (anchor? : Option Text) (tag : Tag) (entries : List (Node × Node))
  | alias (name : Text)
deriving Inhabited, Repr

abbrev Anchors := List (Text × Node)

structure Tree where
  root : Node
  anchors : Anchors
deriving Inhabited, Repr

/--
The state of reading nodes. An anchor is known from where it stands on, the node under it only once
that has ended.
-/
structure Composer where
  tokens : List Token
  handles : List (Text × Text)
  known : List Text := []
  anchors : Anchors := []
deriving Repr

namespace Composer

abbrev Step (α : Type) := Outcome (α × Composer)

def skip (s : Composer) : Composer :=
  { s with tokens := s.tokens.drop 1 }

def emptyNode : Node :=
  .scalar .null .empty

structure Properties where
  anchor? : Option Text := none
  tag? : Option Text := none

namespace Properties

def isAbsent (p : Properties) : Bool :=
  p.anchor?.isNone && p.tag?.isNone

def scalarTag (p : Properties) (plain : Bool) (t : Text) : Tag :=
  match p.tag? with
  | none => if plain then Tag.ofForm t else .text
  | some name => if name = "!" then Tag.ofForm t else Tag.ofName name

def collectionTag (p : Properties) (default : Tag) : Tag :=
  match p.tag? with
  | none => default
  | some name => if name = "!" then default else Tag.ofName name

end Properties

def resolveTag (handle? : Option Text) (suffix : Text) (s : Composer) : Outcome Text :=
  match handle? with
  | none => .ok suffix
  | some handle =>
    match s.handles.lookup handle with
    | some beginning => .ok (beginning ++ suffix)
    | none => malformed "a tag handle is not declared"

def takeAnchor (name : Text) (s : Composer) : Outcome Composer :=
  if s.known.contains name then malformed "an anchor is defined twice"
  else .ok { s.skip with known := name :: s.known }

def takeProperties (s : Composer) : Step Properties :=
  match s.tokens with
  | .anchor name :: .tag handle? suffix :: _ =>
    match s.takeAnchor name, s.resolveTag handle? suffix with
    | .ok s, .ok tag => .ok ({ anchor? := some name, tag? := some tag }, s.skip)
    | .error e, _ => .error e
    | _, .error e => .error e
  | .anchor name :: _ =>
    match s.takeAnchor name with
    | .ok s => .ok ({ anchor? := some name }, s)
    | .error e => .error e
  | .tag handle? suffix :: .anchor name :: _ =>
    match s.resolveTag handle? suffix, s.skip.takeAnchor name with
    | .ok tag, .ok s => .ok ({ anchor? := some name, tag? := some tag }, s)
    | .error e, _ => .error e
    | _, .error e => .error e
  | .tag handle? suffix :: _ =>
    match s.resolveTag handle? suffix with
    | .ok tag => .ok ({ tag? := some tag }, s.skip)
    | .error e => .error e
  | _ => .ok ({}, s)

def record (p : Properties) (n : Node) (s : Composer) : Node × Composer :=
  match p.anchor? with
  | some name => (n, { s with anchors := (name, n) :: s.anchors })
  | none => (n, s)

def refuse {α : Type} (s : Composer) : Outcome α :=
  match s.tokens with
  | .failed trouble :: _ => .error trouble
  | _ => malformed "a node does not go on like this"

def isFailed (s : Composer) : Bool :=
  match s.tokens with
  | .failed _ :: _ => true
  | _ => false

inductive Setting
  | flow
  | block
  | blockEntry
deriving DecidableEq

def endsBlockEntry (indentless : Bool) : Token → Bool
  | .blockEntry => true
  | .blockEnd => true
  | .key => indentless
  | .value => indentless
  | _ => false

def endsBlockPart : Token → Bool
  | .key => true
  | .value => true
  | .blockEnd => true
  | _ => false

def endsPairPart (isKey : Bool) : Token → Bool
  | .value => isKey
  | .flowEntry => true
  | .flowSequenceEnd => true
  | _ => false

def endsFlowPart (isKey : Bool) : Token → Bool
  | .value => isKey
  | .flowEntry => true
  | .flowMappingEnd => true
  | _ => false

def nextIs (p : Token → Bool) (s : Composer) : Bool :=
  (s.tokens.head?.map p).getD false

def maxDepth : Nat := 480

mutual

/--
A node. These functions take at least one token in four calls of each other, so that `fuel` never
runs out where it is four times the number of tokens.
-/
def node (setting : Setting) : Nat → Nat → Composer → Step Node
  | 0, _, s => s.refuse
  | fuel + 1, depth, s =>
    match s.tokens with
    | .alias name :: _ =>
      if s.known.contains name then .ok (.alias name, s.skip)
      else malformed "an alias stands for no anchor"
    | _ =>
      match s.takeProperties with
      | .error e => .error e
      | .ok (p, s) =>
        match s.tokens with
        | .scalar t plain :: _ => .ok (s.skip.record p (.scalar (p.scalarTag plain t) t))
        | .blockEntry :: _ =>
          if setting = .blockEntry then
            collection p .sequence (blockSequence true fuel (depth + 1) [] s)
          else
            emptyScalar p s
        | .blockSequenceStart :: _ =>
          if setting = .flow then emptyScalar p s
          else collection p .sequence (blockSequence false fuel (depth + 1) [] s.skip)
        | .flowSequenceStart :: _ =>
          collection p .sequence (flowSequence fuel (depth + 1) true [] s.skip)
        | .blockMappingStart :: _ =>
          if setting = .flow then emptyScalar p s
          else mappingOf p (blockMapping fuel (depth + 1) [] s.skip)
        | .flowMappingStart :: _ => mappingOf p (flowMapping fuel (depth + 1) true [] s.skip)
        | _ => emptyScalar p s
termination_by structural fuel => fuel
where
  emptyScalar (p : Properties) (s : Composer) : Step Node :=
    if p.isAbsent || s.isFailed then s.refuse
    else .ok (s.record p (.scalar (p.scalarTag true .empty) .empty))
  collection (p : Properties) (default : Tag) : Step (List Node) → Step Node
    | .error e => .error e
    | .ok (items, s) =>
      .ok (s.record p (.sequence p.anchor? (p.collectionTag default) items))
  mappingOf (p : Properties) : Step (List (Node × Node)) → Step Node
    | .error e => .error e
    | .ok (entries, s) =>
      .ok (s.record p (.mapping p.anchor? (p.collectionTag .mapping) entries))

def blockSequence (indentless : Bool) : Nat → Nat → List Node → Composer → Step (List Node)
  -- a sequence without an indentation of its own ends where another token than an entry follows
  | 0, _, _, s => s.refuse
  | fuel + 1, depth, items, s =>
    if maxDepth < depth then .error (.foreign .tooDeep)
    else
      match s.tokens with
      | .blockEntry :: _ =>
        if s.skip.nextIs (endsBlockEntry indentless) then
          blockSequence indentless fuel depth (emptyNode :: items) s.skip
        else
          match node .block fuel depth s.skip with
          | .error e => .error e
          | .ok (item, s) => blockSequence indentless fuel depth (item :: items) s
      | .blockEnd :: _ => .ok (items.reverse, if indentless then s else s.skip)
      | _ => if indentless && !s.isFailed then .ok (items.reverse, s) else s.refuse
termination_by structural fuel => fuel

def blockMapping : Nat → Nat → List (Node × Node) → Composer → Step (List (Node × Node))
  | 0, _, _, s => s.refuse
  | fuel + 1, depth, entries, s =>
    if maxDepth < depth then .error (.foreign .tooDeep)
    else
      match s.tokens with
      | .key :: _ =>
        match blockPart fuel depth s.skip with
        | .error e => .error e
        | .ok (key, s) =>
          match s.tokens with
          | .value :: _ =>
            match blockPart fuel depth s.skip with
            | .error e => .error e
            | .ok (value, s) => blockMapping fuel depth ((key, value) :: entries) s
          | _ => blockMapping fuel depth ((key, emptyNode) :: entries) s
      | .blockEnd :: _ => .ok (entries.reverse, s.skip)
      | _ => s.refuse
termination_by structural fuel => fuel

def blockPart : Nat → Nat → Composer → Step Node
  | 0, _, s => s.refuse
  | fuel + 1, depth, s =>
    if s.nextIs endsBlockPart then .ok (emptyNode, s) else node .blockEntry fuel depth s
termination_by structural fuel => fuel

def flowSequence : Nat → Nat → Bool → List Node → Composer → Step (List Node)
  | 0, _, _, _, s => s.refuse
  | fuel + 1, depth, first, items, s =>
    if maxDepth < depth then .error (.foreign .tooDeep)
    else
      match s.tokens with
      | .flowSequenceEnd :: _ => .ok (items.reverse, s.skip)
      | t :: _ =>
        match first, t with
        | false, .flowEntry => flowItem fuel depth items s.skip
        | true, _ => flowItem fuel depth items s
        | _, _ => s.refuse
      | [] => s.refuse
termination_by structural fuel => fuel

def flowItem : Nat → Nat → List Node → Composer → Step (List Node)
  | 0, _, _, s => s.refuse
  | fuel + 1, depth, items, s =>
    match s.tokens with
    | .flowSequenceEnd :: _ => .ok (items.reverse, s.skip)
    | .key :: _ =>
      match flowPart (endsPairPart true) fuel depth s.skip with
      | .error e => .error e
      | .ok (key, s) =>
        match s.tokens with
        | .value :: _ =>
          match flowPart (endsPairPart false) fuel depth s.skip with
          | .error e => .error e
          | .ok (value, s) =>
            flowSequence fuel depth false (.mapping none .mapping [(key, value)] :: items) s
        | _ => flowSequence fuel depth false (.mapping none .mapping [(key, emptyNode)] :: items) s
    | _ =>
      match node .flow fuel depth s with
      | .error e => .error e
      | .ok (item, s) => flowSequence fuel depth false (item :: items) s
termination_by structural fuel => fuel

def flowPart (ends : Token → Bool) : Nat → Nat → Composer → Step Node
  | 0, _, s => s.refuse
  | fuel + 1, depth, s => if s.nextIs ends then .ok (emptyNode, s) else node .flow fuel depth s
termination_by structural fuel => fuel

def flowMapping : Nat → Nat → Bool → List (Node × Node) → Composer → Step (List (Node × Node))
  | 0, _, _, _, s => s.refuse
  | fuel + 1, depth, first, entries, s =>
    if maxDepth < depth then .error (.foreign .tooDeep)
    else
      match s.tokens with
      | .flowMappingEnd :: _ => .ok (entries.reverse, s.skip)
      | t :: _ =>
        match first, t with
        | false, .flowEntry => flowPair fuel depth entries s.skip
        | true, _ => flowPair fuel depth entries s
        | _, _ => s.refuse
      | [] => s.refuse
termination_by structural fuel => fuel

def flowPair : Nat → Nat → List (Node × Node) → Composer → Step (List (Node × Node))
  | 0, _, _, s => s.refuse
  | fuel + 1, depth, entries, s =>
    match s.tokens with
    | .flowMappingEnd :: _ => .ok (entries.reverse, s.skip)
    | .key :: _ =>
      match flowPart (endsFlowPart true) fuel depth s.skip with
      | .error e => .error e
      | .ok (key, s) =>
        match s.tokens with
        | .value :: _ =>
          match flowPart (endsFlowPart false) fuel depth s.skip with
          | .error e => .error e
          | .ok (value, s) => flowMapping fuel depth false ((key, value) :: entries) s
        | _ => flowMapping fuel depth false ((key, emptyNode) :: entries) s
    | _ =>
      match node .flow fuel depth s with
      | .error e => .error e
      | .ok (key, s) => flowMapping fuel depth false ((key, emptyNode) :: entries) s
termination_by structural fuel => fuel

end

def defaultHandles : List (Text × Text) :=
  [("!", "!"), ("!!", Tag.namespaceText)]

def takeDirectives (hasVersion : Bool) (handles : List (Text × Text)) :
    List Token → Outcome (List (Text × Text) × List Token)
  | .directive (.version major) :: rest =>
    if hasVersion then malformed "a version is declared twice"
    else if major ≠ 1 then malformed "the version is not supported"
    else takeDirectives true handles rest
  | .directive (.tag handle beginning) :: rest =>
    if (handles.lookup handle).isSome then malformed "a tag handle is declared twice"
    else takeDirectives hasVersion ((handle, beginning) :: handles) rest
  | .directive .reserved :: rest => takeDirectives hasVersion handles rest
  | rest => .ok (handles, rest)

def startsExplicitly : List Token → Bool
  | .directive _ :: _ => true
  | .documentStart :: _ => true
  | _ => false

def start (tokens : List Token) : Outcome (Bool × Composer) :=
  if startsExplicitly tokens then
    match takeDirectives false [] tokens with
    | .error e => .error e
    | .ok (handles, .documentStart :: rest) =>
      .ok (true, { tokens := rest, handles := handles ++ defaultHandles })
    | .ok (_, rest) => refuse { tokens := rest, handles := [] }
  else
    .ok (false, { tokens, handles := defaultHandles })

def endsDocument : Token → Bool
  | .directive _ => true
  | .documentStart => true
  | .documentEnd => true
  | .streamEnd => true
  | _ => false

def finish (root : Node) (s : Composer) : Outcome Tree :=
  match s.tokens.dropWhile fun t => t matches .documentEnd with
  | .streamEnd :: _ => .ok { root, anchors := s.anchors }
  | .failed trouble :: _ => .error trouble
  | _ => malformed "there is more than one document"

end Composer

def Tree.ofTokens (tokens : List Token) : Outcome Tree :=
  match tokens with
  | .streamEnd :: _ => .ok { root := Composer.emptyNode, anchors := [] }
  | _ =>
    match Composer.start tokens with
    | .error e => .error e
    | .ok (isExplicit, s) =>
      if isExplicit && s.nextIs Composer.endsDocument then
        Composer.finish Composer.emptyNode s
      else
        match Composer.node .block (4 * tokens.length + 4) 0 s with
        | .error e => .error e
        | .ok (root, s) => Composer.finish root s

end Converge.Yaml
