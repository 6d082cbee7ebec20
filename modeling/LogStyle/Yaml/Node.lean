import LogStyle.Yaml.Store
import LogStyle.Yaml.Token

/-! # Documents

The tokens of a text form one document. A node is numbered where it starts, before what it holds, and an
alias stands for the number of the node with its anchor.
-/

namespace LogStyle

namespace Yaml

/-- What is left of the tokens, and what has been declared so far. -/
structure Reading where
  tokens : List Token
  /-- The beginnings of tags that handles stand for. -/
  handles : List (Text × Text) := []
  /-- The anchors seen so far and the numbers of their nodes. -/
  anchors : List (Text × Nat) := []
  nodes : Nodes := #[]

/-- Steps of reading a document. -/
abbrev Reader := StateT Reading (Except Trouble)

namespace Reader

/-- The text is malformed here. -/
def fail {α : Type} : Reader α :=
  throw .malformed

/-- The next token, if there is one. -/
def look : Reader (Option Token) := do
  match (← get).tokens with
  | .broken trouble :: _ => throw trouble
  | token :: _ => pure (some token)
  | [] => pure none

/-- Pass over the next token. -/
def skip : Reader Unit :=
  modify fun r => { r with tokens := r.tokens.drop 1 }

/-- Whether the next token is one of some tokens. -/
def at_ (tokens : List Token) : Reader Bool := do
  match ← look with
  | some token => pure (tokens.contains token)
  | none => pure false

/-- Pass over the next token if it is a given one; whether it was. -/
def take (token : Token) : Reader Bool := do
  let found ← at_ [token]
  if found then skip
  pure found

/-- Pass over the next token, which must be a given one. -/
def need (token : Token) : Reader Unit := do
  if !(← take token) then fail

/-- The anchor at the next token, if there is one. -/
def anchor? : Reader (Option Text) := do
  match ← look with
  | some (.anchor name) => do
    skip
    pure (some name)
  | _ => pure none

/-- The tag at the next token, if there is one. -/
def tag? : Reader (Option TagText) := do
  match ← look with
  | some (.tag tag) => do
    skip
    pure (some tag)
  | _ => pure none

/-- A tag written out; nothing for the tag that says nothing. -/
def fullTag (tag : TagText) : Reader (Option Text) := do
  let full ← match tag.handle with
    | none => pure tag.rest
    | some handle =>
      match (← get).handles.lookup handle with
      | some beginning => pure (beginning ++ tag.rest)
      | none => fail
  pure (if full = [.char '!'] then none else some full)

/-- What stands before the content of a node. -/
structure Head where
  anchor : Option Text := none
  /-- Whether there is a tag, even one that says nothing. -/
  tagged : Bool := false
  /-- The type that the tag stands for. -/
  tag : Option Tag := none

/-- Read the anchor and the tag of a node, in either order. -/
def head : Reader Head := do
  let early ← anchor?
  let tag ← tag?
  let late ← if early.isNone then anchor? else pure none
  let full ← match tag with
    | some tag => fullTag tag
    | none => pure none
  pure ⟨early.or late, tag.isSome, full.map Tag.ofText⟩

/-- Add a node and give its number. -/
def add (tag : Tag) (content : Content) : Reader Nat :=
  modifyGet fun r => (r.nodes.size, { r with nodes := r.nodes.push ⟨tag, content⟩ })

/-- Add a node under its anchor, which no other node may have, and give its number. -/
def addUnder (h : Head) (untagged : Tag) (content : Content) : Reader Nat := do
  match h.anchor with
  | none => pure ()
  | some name =>
    if ((← get).anchors.lookup name).isSome then fail
    else modify fun r => { r with anchors := (name, r.nodes.size) :: r.anchors }
  add (h.tag.getD untagged) content

/-- Say what the node with a number holds. -/
def fill (n : Nat) (content : Content) : Reader Unit :=
  modify fun r => { r with nodes := r.nodes.setContent n content }

/-- What stands where a node is left out. -/
def missing : Reader Nat :=
  add .null (.scalar [])

/-- Nothing where a node could be. Only a node that has an anchor or a tag may be empty. -/
def empty (h : Head) : Reader Nat :=
  if h.anchor.isSome || h.tagged then addUnder h .null (.scalar []) else fail

/-- Read a collection: it is numbered before what it holds. -/
def collection (h : Head) (untagged : Tag) (start : Content) (content : Reader Content) :
    Reader Nat := do
  let n ← addUnder h untagged start
  fill n (← content)
  pure n

/-- Read a list. -/
def list (h : Head) (items : Reader (List Nat)) : Reader Nat :=
  collection h .list (.list []) (Content.list <$> items)

/-- Read a mapping. -/
def map (h : Head) (entries : Reader (List (Nat × Nat))) : Reader Nat :=
  collection h .map (.map []) (Content.map <$> entries)

mutual

/-- Read a node inside some collections. Blocks may start only where `block` allows them, and a list without
    indentation only where `loose` does. -/
def node (fuel : Nat) (block loose : Bool) : Reader Nat :=
  match fuel with
  | 0 => fail
  | fuel + 1 => do
    match ← look with
    | some (.alias name) => do
      skip
      match (← get).anchors.lookup name with
      | some n => pure n
      | none => fail
    | _ => do
      let h ← head
      match ← look with
      | some .blockItem => if loose then list h (looseItems fuel) else empty h
      | some (.scalar t plain) => do
        skip
        addUnder h (if plain || h.tagged then Tag.ofPlain t else .text) (.scalar t)
      | some .flowList => do
        skip
        list h (flowItems fuel true)
      | some .flowMap => do
        skip
        map h (flowEntries fuel true)
      | some .blockList =>
        if block then do
          skip
          list h (blockItems fuel)
        else empty h
      | some .blockMap =>
        if block then do
          skip
          map h (blockEntries fuel)
        else empty h
      | _ => empty h

/-- Read a node, or nothing where one of some tokens follows. -/
def nodeUnless (fuel : Nat) (ends : List Token) (block loose : Bool) : Reader Nat :=
  match fuel with
  | 0 => fail
  | fuel + 1 => do
    match ← look with
    | some token => if ends.contains token then missing else node fuel block loose
    | none => node fuel block loose

/-- Read the items of a list without indentation. -/
def looseItems (fuel : Nat) : Reader (List Nat) :=
  match fuel with
  | 0 => fail
  | fuel + 1 => do
    if ← take .blockItem then do
      let item ← nodeUnless fuel [.blockItem, .key, .value, .blockEnd] true false
      let items ← looseItems fuel
      pure (item :: items)
    else pure []

/-- Read the items of a list up to the end of its block. -/
def blockItems (fuel : Nat) : Reader (List Nat) :=
  match fuel with
  | 0 => fail
  | fuel + 1 => do
    if ← take .blockItem then do
      let item ← nodeUnless fuel [.blockItem, .blockEnd] true false
      let items ← blockItems fuel
      pure (item :: items)
    else do
      need .blockEnd
      pure []

/-- Read the entries of a mapping up to the end of its block. -/
def blockEntries (fuel : Nat) : Reader (List (Nat × Nat)) :=
  match fuel with
  | 0 => fail
  | fuel + 1 => do
    if ← take .key then do
      let key ← nodeUnless fuel [.key, .value, .blockEnd] true true
      let value ← blockValue fuel
      let entries ← blockEntries fuel
      pure ((key, value) :: entries)
    else do
      need .blockEnd
      pure []

/-- Read the value of a key in a block. -/
def blockValue (fuel : Nat) : Reader Nat :=
  match fuel with
  | 0 => fail
  | fuel + 1 => do
    if ← take .value then nodeUnless fuel [.key, .value, .blockEnd] true true
    else missing

/-- Read the items of a list up to its closing bracket; `first` when none has been read. A key makes an item a
    mapping of one entry. -/
def flowItems (fuel : Nat) (first : Bool) : Reader (List Nat) :=
  match fuel with
  | 0 => fail
  | fuel + 1 => do
    if ← take .flowListEnd then pure []
    else do
      if !first then need .flowItem
      if ← take .key then do
        let item ← map {} do
          let key ← nodeUnless fuel [.value, .flowItem, .flowListEnd] false false
          let value ← flowValue fuel .flowListEnd
          pure [(key, value)]
        let items ← flowItems fuel false
        pure (item :: items)
      else if ← take .flowListEnd then pure []
      else do
        let item ← node fuel false false
        let items ← flowItems fuel false
        pure (item :: items)

/-- Read the entries of a mapping up to its closing bracket; `first` when none has been read. -/
def flowEntries (fuel : Nat) (first : Bool) : Reader (List (Nat × Nat)) :=
  match fuel with
  | 0 => fail
  | fuel + 1 => do
    if ← take .flowMapEnd then pure []
    else do
      if !first then need .flowItem
      if ← take .key then do
        let key ← nodeUnless fuel [.value, .flowItem, .flowMapEnd] false false
        let value ← flowValue fuel .flowMapEnd
        let entries ← flowEntries fuel false
        pure ((key, value) :: entries)
      else if ← take .flowMapEnd then pure []
      else do
        let key ← node fuel false false
        let value ← missing
        let entries ← flowEntries fuel false
        pure ((key, value) :: entries)

/-- Read the value of a key between brackets. -/
def flowValue (fuel : Nat) (closing : Token) : Reader Nat :=
  match fuel with
  | 0 => fail
  | fuel + 1 => do
    if ← take .value then nodeUnless fuel [.flowItem, closing] false false
    else missing

end

/-- The handles that every document has. -/
def commonHandles : List (Text × Text) :=
  [("!", "!"), ("!!", Tag.commonStart)]

/-- Read directives; `versioned` when a version has been read. -/
def directives (fuel : Nat) (versioned : Bool) : Reader Unit :=
  match fuel with
  | 0 => fail
  | fuel + 1 => do
    match ← look with
    | some (.version major) =>
      if versioned || major ≠ 1 then fail
      else do
        skip
        directives fuel true
    | some (.handle name beginning) => do
      let r ← get
      if (r.handles.lookup name).isSome then fail
      else do
        set { r with handles := (name, beginning) :: r.handles }
        skip
        directives fuel versioned
    | some .directive => do
      skip
      directives fuel versioned
    | _ => pure ()

/-- Pass over marks that end documents. -/
def documentEnds (fuel : Nat) : Reader Unit :=
  match fuel with
  | 0 => fail
  | fuel + 1 => do
    if ← take .documentEnd then documentEnds fuel

/-- Read a document with its directives, if there is one. -/
def explicitDocument? (fuel : Nat) : Reader (Option Nat) := do
  documentEnds fuel
  match ← look with
  | none => pure none
  | some _ => do
    directives fuel false
    modify fun r => { r with handles := r.handles ++ commonHandles }
    need .documentStart
    match ← look with
    | none | some .directive | some (.version _) | some (.handle _ _) | some .documentStart
    | some .documentEnd => some <$> missing
    | some _ => some <$> node fuel true false

/-- Read the only document of a text, if there is one. -/
def document? (fuel : Nat) : Reader (Option Nat) := do
  let root ←
    match ← look with
    | none | some .directive | some (.version _) | some (.handle _ _) | some .documentStart =>
      explicitDocument? fuel
    | some _ => do
      modify fun r => { r with handles := commonHandles }
      some <$> node fuel true false
  documentEnds fuel
  match ← look with
  | none => pure root
  | some _ => fail

end Reader

/-- The document that tokens form, if there is one. A node takes up a bounded number of steps for each of
    its tokens, so the steps are bounded by the tokens. -/
def Document.ofTokens (tokens : List Token) : Except Trouble (Option Document) := do
  let (root, reading) ← (Reader.document? (8 * tokens.length + 16)).run { tokens }
  pure (root.map fun root => ⟨root, reading.nodes⟩)

end Yaml

end LogStyle
