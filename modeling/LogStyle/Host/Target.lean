import LogStyle.Host.Kind
import LogStyle.Host.Spec

/-! # What a path leads to

A path into an argument leads to a value in it, or to something that hangs on a value: its kind, a kind's own
line of kinds, or a method. Whatever it leads to can be looked into further, shown, and laid out. What members
say about themselves is not kept, nor what a kind tells about its layout in memory: those attributes are
missing here.
-/

namespace LogStyle

/-- The kind of a value. Of values that are no argument of a message nothing more is known than that they are
    objects. -/
def Value.kind : Value → Kind
  | .list _ => .list
  | .dict _ => .dict
  | .scalar .null => .null
  | .scalar (.bool _) => .bool
  | .scalar (.int _) => .int
  | .scalar (.real _) => .real
  | .scalar (.text _) => .text
  | .scalar _ => .object

/-- What a path leads to. -/
inductive Target where
  | value (v : Value)
  | kind (k : Kind)
  | kinds (ks : List Kind)
  /-- A kind with a choice of items. -/
  | choice (k : Kind) (items : Value)
  /-- A member of all things of its owner. -/
  | member (m : Member)
  /-- A member of one thing. -/
  | bound (m : Member) (self : Target)
  deriving Repr

namespace Target

/-- The kind of a target. -/
def ofKind : Target → Kind
  | .value v => v.kind
  | .kind _ => .type
  | .kinds _ => .tuple
  | .choice _ _ => .generic
  | .member m =>
    match m.sort with
    | .operator => .operator
    | .field => .field
    | _ => .method
  | .bound m _ => if m.sort = .operator then .boundOperator else .boundMethod

/-- What messages call the type of a target. -/
def typeName : Target → Text
  | .value v => v.typeName
  | x => x.ofKind.name

/-! ## Showing -/

/-- A kind as messages show it. -/
def quotedKind (k : Kind) : Text :=
  "<class '" ++ k.name ++ "'>"

/-- A target as messages show it. What is bound to one thing is shown without the place of that thing. -/
def quoted : Target → Text
  | .value v => v.quoted
  | .kind k => quotedKind k
  | .kinds [k] => "(" ++ quotedKind k ++ ",)"
  | .kinds ks => "(" ++ Text.join ", " (ks.map quotedKind) ++ ")"
  | .choice k items => k.name ++ "[" ++ items.quoted ++ "]"
  | .member m =>
    let what : Text :=
      match m.sort with
      | .operator => "slot wrapper"
      | .field => "attribute"
      | _ => "method"
    "<" ++ what ++ " '" ++ m.name ++ "' of '" ++ m.owner.name ++ "' objects>"
  | .bound m self =>
    if m.sort = .operator then
      "<method-wrapper '" ++ m.name ++ "' of " ++ self.typeName ++ " object>"
    else "<built-in method " ++ m.name ++ " of " ++ self.typeName ++ " object>"

/-- A target as part of a running text. -/
def shown : Target → Text
  | .value v => v.shown
  | x => x.quoted

/-- Lay out a target. Only values have layouts that ask for something. -/
def layout (x : Target) (spec : Text) : Except Fault Text :=
  match x with
  | .value v => v.layout spec
  | x =>
    if spec = [] then .ok x.shown
    else .error ⟨.type, "unsupported format string passed to " ++ x.typeName ++ ".__format__"⟩

/-! ## Looking into a target -/

/-- A text as a target. -/
def ofText (t : Text) : Target :=
  .value (.ofText t)

/-- The value of a field of a number. -/
def fieldOf? (v : Value) (name : Text) : Option Value :=
  let integral (n : Int) : Option Value :=
    if name = "real" || name = "numerator" then some (.scalar (.int n))
    else if name = "imag" then some (.scalar (.int 0))
    else if name = "denominator" then some (.scalar (.int 1))
    else none
  match v with
  | .scalar (.int n) => integral n
  | .scalar (.bool b) => integral (if b then 1 else 0)
  | .scalar (.real _) =>
    if name = "real" then some v
    else if name = "imag" then some (.scalar (.real (.finite false 0 0)))
    else none
  | _ => none

/-- What a kind says about itself; nothing, when it says nothing. -/
def aboutKind (k : Kind) : Target :=
  .value ((k.about.map Value.ofText).getD (.scalar .null))

/-- Whether things of a kind cannot be keys; they lack the operator that places a key. -/
def lacksPlace (k : Kind) (name : Text) : Bool :=
  name = "__hash__" && (k = .list || k = .dict)

/-- An attribute of a kind that is about the kind itself. -/
def ofKind? (k : Kind) (name : Text) : Option Target :=
  if name = "__name__" || name = "__qualname__" then some (ofText k.home.2)
  else if name = "__module__" then some (ofText k.home.1)
  else if name = "__doc__" then some (aboutKind k)
  else if name = "__base__" then
    some ((k.lineage[1]?).elim (.value (.scalar .null)) .kind)
  else if name = "__bases__" then some (.kinds ((k.lineage.drop 1).take 1))
  else if name = "__mro__" then some (.kinds k.lineage)
  else if lacksPlace k name then some (.value (.scalar .null))
  else none

/-- An attribute that a member has for itself, bound to a thing or not. -/
def ofMember? (m : Member) (self : Option Target) (name : Text) : Option Target :=
  let longName : Text :=
    match self with
    | some (.kind k) => if m.sort = .operator then m.owner.name else k.name
    | some x => if m.sort = .operator then m.owner.name else x.typeName
    | none => m.owner.name
  if name = "__name__" then some (ofText m.name)
  else if name = "__qualname__" then some (ofText (longName ++ "." ++ m.name))
  else if name = "__self__" then
    if m.sort = .static then some (.value (.scalar .null)) else self
  else if name = "__objclass__" then
    if self.isNone || m.sort = .operator then some (.kind m.owner) else none
  else if name = "__module__" then
    if self.isSome && m.sort ≠ .operator then some (.value (.scalar .null)) else none
  else none

/-- A member as it is reached from a kind or from a thing of that kind. Methods of kinds are bound to a kind: to
    the one they are reached from, or to their owner when they are its alone. -/
def reach (k : Kind) (self : Option Target) (m : Member) : Target :=
  match m.sort with
  | .classMethod => .bound m (.kind k)
  | .maker | .static => .bound m (.kind m.owner)
  | _ => self.elim (.member m) (.bound m)

/-- An attribute of a target. -/
def attribute? (x : Target) (name : Text) : Option Target :=
  let inherited := (x.ofKind.member? name).map (reach x.ofKind (some x))
  let ofType (k : Kind) :=
    ofKind? k name <|> (k.member? name).map (reach k none) <|>
      (Kind.type.member? name).map (reach .type (some (.kind k)))
  if name = "__class__" then some (.kind x.ofKind)
  else
    match x with
    | .kind k => ofType k
    | .choice k _ => if name = "__origin__" then some (.kind k) else ofType k
    | .member m => ofMember? m none name <|> inherited
    | .bound m self => ofMember? m (some self) name <|> inherited
    | .kinds _ => if name = "__doc__" then some (aboutKind .tuple) else inherited
    | .value v =>
      if name = "__doc__" then some (aboutKind v.kind)
      else if lacksPlace v.kind name then some (.value (.scalar .null))
      else (fieldOf? v name).map Target.value <|> inherited

/-- An attribute that a target does not have. -/
def noAttribute (x : Target) (name : Text) : Fault :=
  let ofType (k : Kind) : Text := "type object '" ++ k.name ++ "'"
  let what : Text :=
    match x with
    | .kind k => ofType k
    | .choice k _ => ofType k
    | x => "'" ++ x.typeName ++ "' object"
  ⟨.attribute, what ++ " has no attribute '" ++ name ++ "'"⟩

/-- A target that has no items. -/
def notSubscriptable (x : Target) : Fault :=
  let what : Text :=
    match x with
    | .kind k => "type '" ++ k.name ++ "'"
    | x => "'" ++ x.typeName ++ "' object"
  ⟨.type, what ++ " is not subscriptable"⟩

/-- Items that a position is outside of. -/
def outOfRange (x : Target) : Fault :=
  let what : Text :=
    match x with
    | .value (.scalar (.text _)) => "string"
    | x => x.typeName
  ⟨.index, what ++ " index out of range"⟩

/-- The value of a key. -/
def inEntries (key : Scalar) (entries : List (Scalar × Value)) : Except Fault Target :=
  match entries.find? fun (k, _) => k.sameKey key with
  | some (_, v) => .ok (.value v)
  | none => .error ⟨.key, key.quoted⟩

/-- The item of a target at a position or a key. -/
def item (x : Target) (key : Nat ⊕ Text) : Except Fault Target :=
  let scalar : Scalar :=
    match key with
    | .inl n => .int n
    | .inr name => .text name
  let nth {α : Type} (items : List α) (of : α → Target) : Except Fault Target :=
    match key, x with
    | .inl n, x => (items[n]?).elim (.error x.outOfRange) fun a => .ok (of a)
    | .inr _, .value (.scalar (.text _)) =>
      .error ⟨.type, "string indices must be integers, not 'str'"⟩
    | .inr _, x => .error ⟨.type, x.typeName ++ " indices must be integers or slices, not str"⟩
  match x with
  | .value (.dict entries) => inEntries scalar entries
  | .value (.list items) => nth items .value
  | .value (.scalar (.text t)) => nth t fun c => ofText [c]
  | .kinds ks => nth ks .kind
  | .kind k => if k.takesItems then .ok (.choice k (.scalar scalar)) else .error x.notSubscriptable
  | .choice _ _ => .error ⟨.type, x.quoted ++ " is not a generic class"⟩
  | x => .error x.notSubscriptable

end Target

end LogStyle
