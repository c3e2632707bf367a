import Converge.Yaml.Node
import Converge.Yaml.Scalar

/-!
This module contains the values that YAML nodes stand for. A document is first surveyed for troubles,
level by level from its root; then it is unfolded to a value.
-/

namespace Converge.Yaml

namespace Node

def target (anchors : Anchors) (n : Node) : Node :=
  match n with
  | .alias name => (anchors.lookup name).getD n
  | n => n

def isMergeKey : Node → Bool
  | .scalar .merge _ => true
  | _ => false

def asKey : Node → Node
  -- the sign for a default value is a text here
  | .scalar .value t => .scalar .text t
  | n => n

abbrev Entries := List (Node × Node)

def ownEntries (entries : Entries) : Entries :=
  (entries.filter fun (k, _) => !isMergeKey k).map fun (k, v) => (asKey k, v)

mutual

/--
The entries of a mapping in the order in which they are set: first those of the mappings that it
merges, then its own. `open_` holds the anchors of the mappings that are being merged.
-/
def flatten (anchors : Anchors) (fuel : Nat) (open_ : List Text) (entries : Entries) :
    Outcome Entries :=
  match fuel with
  | 0 => .ok (ownEntries entries)
  | fuel + 1 =>
    match mergeAll anchors fuel open_ (entries.filter (isMergeKey ·.1)) with
    | .ok merged => .ok (merged ++ ownEntries entries)
    | .error e => .error e
termination_by structural fuel

def mergeAll (anchors : Anchors) (fuel : Nat) (open_ : List Text) (merges : Entries) :
    Outcome Entries :=
  match fuel with
  | 0 => .ok []
  | fuel + 1 =>
    match merges with
    | [] => .ok []
    | (_, source) :: rest =>
      match mergeSource anchors fuel open_ (source.target anchors) with
      | .error e => .error e
      | .ok entries => (mergeAll anchors fuel open_ rest).map (entries ++ ·)
termination_by structural fuel

def mergeSource (anchors : Anchors) (fuel : Nat) (open_ : List Text) (source : Node) :
    Outcome Entries :=
  match fuel with
  | 0 => .ok []
  | fuel + 1 =>
    match source with
    | .mapping anchor? _ entries =>
      match anchor? with
      | none => flatten anchors fuel open_ entries
      | some name =>
        if open_.contains name then .ok (ownEntries entries)
        else flatten anchors fuel (name :: open_) entries
    | .sequence _ _ items => mergeItems anchors fuel open_ (items.map (target anchors))
    | _ => malformed "only mappings can be merged"
termination_by structural fuel

def mergeItems (anchors : Anchors) (fuel : Nat) (open_ : List Text) (items : List Node) :
    Outcome Entries :=
  match fuel with
  | 0 => .ok []
  | fuel + 1 =>
    match items with
    | [] => .ok []
    | .mapping anchor? tag entries :: rest =>
      match mergeSource anchors fuel open_ (.mapping anchor? tag entries) with
      | .error e => .error e
      | .ok entries => (mergeItems anchors fuel open_ rest).map (· ++ entries)
    | _ :: _ => malformed "only mappings can be merged"
termination_by structural fuel

end

/--
More steps than any merge of a document takes that does not contain itself.
-/
def mergeFuel : Nat := 100000

def entriesOf (anchors : Anchors) (anchor? : Option Text) (entries : Entries) : Outcome Entries :=
  flatten anchors mergeFuel anchor?.toList entries

structure Survey where
  pending : List Node := []
  next : List Node := []
  met : List Text := []

namespace Survey

def meet (anchor? : Option Text) (n : Node) (s : Survey) : Survey :=
  match anchor? with
  | none => { s with next := n :: s.next }
  | some name =>
    if s.met.contains name then s else { s with next := n :: s.next, met := name :: s.met }

def isCollectionTag : Tag → Bool
  | .sequence => true
  | .mapping => true
  | .set => true
  | .orderedMap => true
  | .pairs => true
  | _ => false

def visit (anchors : Anchors) (n : Node) (s : Survey) : Outcome Survey :=
  -- the content of a collection is looked at later
  match n.target anchors with
  | .scalar tag t => (Scalar.read tag t).map fun _ => s
  | .sequence anchor? tag items =>
    if isCollectionTag tag then .ok (s.meet anchor? (.sequence anchor? tag items))
    else malformed "a sequence has a tag that is not one of sequences"
  | .mapping anchor? tag entries =>
    if isCollectionTag tag then .ok (s.meet anchor? (.mapping anchor? tag entries))
    else malformed "a mapping has a tag that is not one of mappings"
  | .alias _ => malformed "an alias stands for no anchor"

def visitKey (anchors : Anchors) (n : Node) (s : Survey) : Outcome Survey :=
  match n.target anchors with
  | .scalar tag t => (Scalar.read tag t).map fun _ => s
  | _ => malformed "a collection is no key"

def visitEntries (anchors : Anchors) : Entries → Survey → Outcome Survey
  | [], s => .ok s
  | (k, v) :: rest, s =>
    match s.visitKey anchors k with
    | .error e => .error e
    | .ok s =>
      match s.visit anchors v with
      | .error e => .error e
      | .ok s => visitEntries anchors rest s

def visitItems (anchors : Anchors) : List Node → Survey → Outcome Survey
  | [], s => .ok s
  | n :: rest, s =>
    match s.visit anchors n with
    | .error e => .error e
    | .ok s => visitItems anchors rest s

def visitPairs (anchors : Anchors) : List Node → Survey → Outcome Survey
  | [], s => .ok s
  | n :: rest, s =>
    match n.target anchors with
    | .mapping _ _ [(k, v)] =>
      match visitItems anchors [k, v] s with
      | .error e => .error e
      | .ok s => visitPairs anchors rest s
    | _ => malformed "an ordered mapping consists of single entries"

def visitContent (anchors : Anchors) (n : Node) (s : Survey) : Outcome Survey :=
  match n with
  | .sequence _ .sequence items => visitItems anchors items s
  | .sequence _ .orderedMap items => visitPairs anchors items s
  | .sequence _ .pairs items => visitPairs anchors items s
  | .mapping anchor? tag entries =>
    if tag = .mapping || tag = .set then
      match entriesOf anchors anchor? entries with
      | .error e => .error e
      | .ok entries => visitEntries anchors entries s
    else
      malformed "a mapping has a tag that is not one of mappings"
  | _ => malformed "a sequence has a tag that is not one of sequences"

def run (anchors : Anchors) : Nat → Survey → Outcome Unit
  -- collections that are nearer to the root come first
  | 0, _ => .ok ()
  | fuel + 1, s =>
    match s.pending with
    | n :: rest =>
      match { s with pending := rest }.visitContent anchors n with
      | .error e => .error e
      | .ok s => run anchors fuel s
    | [] =>
      if s.next.isEmpty then .ok ()
      else run anchors fuel { s with pending := s.next.reverse, next := [] }

end Survey

def scalarValue (tag : Tag) (t : Text) : Value :=
  match Scalar.read tag t with
  | .ok v => v
  | .error _ => .null

def putEntry (entries : List (Text × Value)) : Value × Value → List (Text × Value)
  | (.text key, v) => Value.put key v entries
  -- only texts are keys that anything is looked up by
  | _ => entries

def putMember (members : List Value) (v : Value) : List Value :=
  -- a text is a member once
  match v with
  | .text key => if members.any (isText key) then members else members ++ [v]
  | v => members ++ [v]
where
  isText (key : Text) : Value → Bool
    | .text t => t = key
    | _ => false

def unfold (anchors : Anchors) (fuel : Nat) (n : Node) : Value :=
  match fuel with
  | 0 =>
    match n.target anchors with
    | .scalar tag t => scalarValue tag t
    | .sequence .. => .list []
    | .mapping _ tag _ => if tag = .set then .list [] else .map []
    | .alias _ => .null
  | fuel + 1 =>
    match n.target anchors with
    | .scalar tag t => scalarValue tag t
    | .sequence _ tag items =>
      if tag = .sequence then .list (items.map (unfold anchors fuel))
      else .list (items.map fun item => pair (unfold anchors fuel) (item.target anchors))
    | .mapping anchor? tag entries =>
      match entriesOf anchors anchor? entries with
      | .error _ => .null
      | .ok entries =>
        let entries := entries.map fun (k, v) => (unfold anchors fuel k, unfold anchors fuel v)
        if tag = .set then .list ((entries.map Prod.fst).foldl putMember [])
        else .map (entries.foldl putEntry [])
    | .alias _ => .null
where
  pair (unfold : Node → Value) : Node → Value
    | .mapping _ _ [(k, v)] => .list [unfold k, unfold v]
    | _ => .null

end Node

namespace Tree

/--
The deepest level of a document whose content matters: that of the fields of an endpoint, with its
wrapper, has five levels above it.
-/
def depth : Nat := 6

def surveyFuel (tokens : List Token) : Nat :=
  (tokens.length + 2) * (tokens.length + 2)

end Tree

def read (t : Text) : Outcome Value :=
  let tokens := Token.ofDocument t
  match Tree.ofTokens tokens with
  | .error e => .error e
  | .ok tree =>
    match ({} : Node.Survey).visit tree.anchors tree.root with
    | .error e => .error e
    | .ok s =>
      match s.run tree.anchors (Tree.surveyFuel tokens) with
      | .error e => .error e
      | .ok () => .ok (tree.root.unfold tree.anchors Tree.depth)

end Converge.Yaml
