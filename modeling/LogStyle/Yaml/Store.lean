import LogStyle.Yaml.Implicit

/-! # Nodes of YAML texts

A document consists of scalars, lists and mappings, each with the type of its tag. Nodes are kept under
numbers and refer to one another by these, so that one node can stand in several places, even inside itself.
-/

namespace LogStyle

namespace Yaml

/-- What a node holds; other nodes by their numbers. -/
inductive Content where
  | scalar (t : Text)
  | list (items : List Nat)
  | map (entries : List (Nat × Nat))
  deriving Repr, DecidableEq

/-- A node of a document. -/
structure Node where
  tag : Tag
  content : Content
  deriving Repr, DecidableEq

/-- Nodes under their numbers, which are counted from zero. -/
abbrev Nodes := Array Node

namespace Nodes

/-- The type of the node with a number. -/
def tagOf (nodes : Nodes) (n : Nat) : Tag :=
  ((nodes[n]?).map Node.tag).getD .other

/-- What the node with a number holds. -/
def contentOf (nodes : Nodes) (n : Nat) : Content :=
  ((nodes[n]?).map Node.content).getD (.scalar [])

/-- The entries of the mapping with a number. -/
def entriesOf (nodes : Nodes) (n : Nat) : List (Nat × Nat) :=
  match nodes.contentOf n with
  | .map entries => entries
  | _ => []

/-- Change the type of the node with a number. -/
def setTag (nodes : Nodes) (n : Nat) (tag : Tag) : Nodes :=
  nodes.modify n fun node => { node with tag }

/-- Change what the node with a number holds. -/
def setContent (nodes : Nodes) (n : Nat) (content : Content) : Nodes :=
  nodes.modify n fun node => { node with content }

/-- The number of entries under which other mappings are merged in. -/
def mergeCount (nodes : Nodes) : Nat :=
  nodes.foldl (fun count node =>
    match node.content with
    | .map entries => count + entries.countP fun (key, _) => nodes.tagOf key = .merge
    | _ => count) 0

/-- The trouble of a scalar that is looked for without end. -/
def endless : Trouble :=
  .impossible .recursion "maximum recursion depth exceeded"

/-- The text of the scalar that a node stands for: its own, or that of the scalar that a mapping holds as its
    default. No more mappings are looked through than there are nodes, unless they lead round in a circle. -/
def scalarText (nodes : Nodes) (fuel : Nat) (n : Nat) : Except Trouble Text :=
  match fuel with
  | 0 => .error endless
  | fuel + 1 =>
    match nodes.contentOf n with
    | .scalar t => .ok t
    | .list _ => .error .malformed
    | .map entries =>
      match entries.find? fun (key, _) => nodes.tagOf key = .default with
      | some (_, value) => scalarText nodes fuel value
      | none => .error .malformed

/-- A key that marks a default is a text like any other once its mapping is read as such. -/
def plainKey (nodes : Nodes) (key : Nat) : Nodes :=
  if nodes.tagOf key = .default then nodes.setTag key .text else nodes

/-- Merge into the mapping `n` what its entries from a place on ask for. Merged entries go in front, those of a
    list of mappings from the last mapping to the first. Every step takes one such entry away, so their
    number bounds the steps even when a mapping is merged into itself. -/
def absorb (fuel : Nat) (nodes : Nodes) (n place : Nat) (merged : List (Nat × Nat)) : Except Trouble Nodes :=
  match fuel with
  | 0 => .ok nodes
  | fuel + 1 =>
    let entries := nodes.entriesOf n
    let place := place + ((entries.drop place).takeWhile fun (key, _) => nodes.tagOf key ≠ .merge).length
    match entries[place]? with
    | none =>
      let entries := merged ++ entries
      .ok ((entries.foldl (fun nodes (key, _) => nodes.plainKey key) nodes).setContent n (.map entries))
    | some (_, value) => do
      let nodes := nodes.setContent n (.map (entries.eraseIdx place))
      match nodes.contentOf value with
      | .scalar _ => throw .malformed
      | .map _ => do
        let nodes ← absorb fuel nodes value 0 []
        absorb fuel nodes n place (merged ++ nodes.entriesOf value)
      | .list items => do
        let (nodes, found) ← items.foldlM (fun (nodes, found) item =>
          match nodes.contentOf item with
          | .map _ => do
            let nodes ← absorb fuel nodes item 0 []
            pure (nodes, nodes.entriesOf item ++ found)
          | _ => throw .malformed) (nodes, [])
        absorb fuel nodes n place (merged ++ found)

/-- Merge into a mapping what its entries ask for. -/
def flatten (nodes : Nodes) (n : Nat) : Except Trouble Nodes :=
  nodes.absorb (nodes.mergeCount + 1) n 0 []

end Nodes

/-- A document: its nodes, and the number of the outermost one. -/
structure Document where
  root : Nat
  nodes : Nodes
  deriving Repr

end Yaml

end LogStyle
