import LogStyle.Text.Utf8
import LogStyle.Yaml.Node
import LogStyle.Yaml.Scalar

/-! # Values of YAML texts

A document stands for the value of its outermost node. Values are made from the outside in: a scalar gets its
value where it is met, a collection is only noted and filled when those met before it are full. So the first
trouble in that order decides, and a node may stand inside itself. What other mappings are merged into a
mapping is settled when it is filled.
-/

namespace LogStyle

namespace Yaml

/-- A key of a mapping. -/
structure Key where
  scalar : LogStyle.Scalar
  /-- What tells apart numbers that equal no number, not even themselves: where they were made. -/
  origin : Nat
  deriving Repr, DecidableEq

namespace Key

/-- Whether two keys are one. -/
def same (a b : Key) : Bool :=
  a.origin = b.origin || a.scalar.sameKey b.scalar

/-- Put an entry into a mapping: a key that is there keeps its place and its spelling. -/
def insert (key : Key) (value : Nat) : List (Key × Nat) → List (Key × Nat)
  | [] => [(key, value)]
  | (k, v) :: rest => if k.same key then (k, value) :: rest else (k, v) :: insert key value rest

end Key

/-- What has been made of a node; of a collection, first nothing but what it is. -/
inductive Made where
  | scalar (key : Key)
  | list (items : List Nat)
  | dict (entries : List (Key × Nat))
  deriving Repr, DecidableEq

/-- Values in the making. -/
structure Making where
  nodes : Nodes
  /-- What has been made of every node so far. -/
  made : Array (Option Made)
  /-- All collections met so far, in the order in which they are filled. -/
  met : Array Nat := #[]

/-- Steps of making values. -/
abbrev Maker := StateT Making (Except Trouble)

namespace Maker

/-- The text is malformed here. -/
def fail {α : Type} : Maker α :=
  throw .malformed

/-- Say what is made of a node. -/
def put (n : Nat) (made : Made) : Maker Unit :=
  modify fun m => { m with made := m.made.setIfInBounds n (some made) }

/-- What has been made of a node. -/
def made? (n : Nat) : Maker (Option Made) := do
  pure ((← get).made[n]?).join

/-- Where the number that is no number is made, for scalars that are all one such number. -/
def commonOrigin (nodes : Nodes) (n : Nat) (t : Text) : Nat :=
  let form := (Numeral.signOf (Text.lower (t.filter (· ≠ '_')))).2
  if nodes.tagOf n = .real && form = ".nan" then nodes.size else n

/-- Make the value of a scalar. A time must be one itself and not only a mapping with a default. -/
def makeScalar (n : Nat) : Maker Unit := do
  let nodes := (← get).nodes
  let t ← nodes.scalarText (nodes.size + 1) n
  match nodes.tagOf n, nodes.contentOf n with
  | .timestamp, .map _ => throw (.impossible .type "expected string or bytes-like object, got 'list'")
  | tag, _ => do
    let scalar ← Scalar.read tag t
    put n (.scalar ⟨scalar, commonOrigin nodes n t⟩)

/-- Make what a node stands for, unless it has been made: a scalar at once, a collection without what it
    holds. -/
def make (n : Nat) : Maker Unit := do
  if (← made? n).isSome then pure ()
  else
    let tag := (← get).nodes.tagOf n
    if Scalar.isType tag then makeScalar n
    else if tag.isCollection then do
      put n (.list [])
      modify fun m => { m with met := m.met.push n }
    else fail

/-- Make a key, which must be a scalar. -/
def makeKey (n : Nat) : Maker Key := do
  make n
  match ← made? n with
  | some (.scalar key) => pure key
  | _ => fail

/-- The entries of a mapping, after what is merged into it. -/
def fillEntries (n : Nat) : Maker (List (Key × Nat)) := do
  match (← get).nodes.contentOf n with
  | .map _ => do
    let nodes ← (← get).nodes.flatten n
    modify fun m => { m with nodes }
    (nodes.entriesOf n).foldlM (fun entries (key, value) => do
      let key ← makeKey key
      make value
      pure (Key.insert key value entries)) []
  | _ => fail

/-- The items of a list. -/
def fillItems (n : Nat) : Maker (List Nat) := do
  match (← get).nodes.contentOf n with
  | .list items => do
    items.forM make
    pure items
  | _ => fail

/-- The items of a list of mappings with one entry each. -/
def fillPairs (n : Nat) : Maker (List Nat) := do
  let nodes := (← get).nodes
  match nodes.contentOf n with
  | .list items => do
    for item in items do
      match nodes.contentOf item with
      | .map [(key, value)] => do
        make key
        make value
      | _ => fail
    pure items
  | _ => fail

/-- Fill a collection by its type. -/
def fill (n : Nat) : Maker Unit := do
  match (← get).nodes.tagOf n with
  | .map => do put n (.dict (← fillEntries n))
  | .set => do
    let _ ← fillEntries n
    pure ()
  | .list => do put n (.list (← fillItems n))
  | _ => do
    let _ ← fillPairs n
    pure ()

/-- Fill the collections from a place in their order on. Each node is met once, so the nodes bound the steps. -/
def fillFrom (fuel place : Nat) : Maker Unit :=
  match fuel with
  | 0 => pure ()
  | fuel + 1 => do
    match (← get).met[place]? with
    | some n => do
      fill n
      fillFrom fuel (place + 1)
    | none => pure ()

end Maker

namespace Making

/-- The value of a node, to a depth; what lies deeper is left out. -/
def value (m : Making) (depth n : Nat) : Value :=
  match depth with
  | 0 => .scalar .null
  | depth + 1 =>
    match (m.made[n]?).join with
    | some (.scalar key) => .scalar key.scalar
    | some (.list items) => .list (items.map (value m depth))
    | some (.dict entries) => .dict (entries.map fun (key, n) => (key.scalar, value m depth n))
    | none => .scalar .null

end Making

/-- The depth to which values are read: enough for mappings of mappings of scalars. -/
def valueDepth : Nat := 3

/-- The value of a document. -/
def Document.value (d : Document) : Except Trouble Value := do
  let start : Making := { nodes := d.nodes, made := Array.replicate d.nodes.size none }
  let steps : Maker Unit := do
    Maker.make d.root
    Maker.fillFrom d.nodes.size 0
  let (_, m) ← steps.run start
  pure (m.value valueDepth d.root)

/-- A text up to the blocks in which all characters may stand in it. -/
def Source.permitted (s : Source) : Source :=
  let start := s.text.takeWhile isPermitted
  if start.length = s.text.length then s
  else ⟨start.take (Utf8.passedOn start.length), some .malformed⟩

/-- What was read of bytes as the source of a value. -/
def Source.ofReading (r : Utf8.Reading) : Source :=
  ⟨r.text, r.fault.map .undecodable⟩

/-- The value of a text; an empty text stands for null. -/
def load (s : Source) : Except Trouble Value := do
  match ← Document.ofTokens (Token.scan s.permitted) with
  | none => pure (.scalar .null)
  | some d => d.value

/-- Where nothing can be read, the trouble is what stands behind it. -/
theorem load_of_beyond (trouble : Trouble) : load ⟨[], some trouble⟩ = .error trouble := by
  cases trouble <;> rfl

/-- The reader of YAML texts. -/
def reader : Document.Reader where
  read reading := (load (.ofReading reading)).mapError Trouble.told
  read_fault fault := congrArg (Except.mapError Trouble.told) (load_of_beyond (.undecodable fault))

end Yaml

end LogStyle
