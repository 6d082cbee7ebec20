import LogStyle.Fault
import LogStyle.Level
import LogStyle.Moment.Pattern
import LogStyle.Template.Segment
import LogStyle.Text.Encoding

/-! # Templates

A template is rendered for one line at a time. Its fields are resolved by handlers, looked up by the name
of the field; a handler may keep a state from one field to the next and from one line to the next. The
first `%s` in a literal is the slot of the message.
-/

namespace LogStyle

/-- The time that lines show, and the pattern they show it by when they ask for none. -/
structure Clock where
  now : Moment
  pattern : Text
  deriving Repr, DecidableEq

/-- What a template is rendered for. -/
structure Line where
  level : Level
  /-- What stands for the field `prefix`. -/
  lead : Text
  clock : Clock
  deriving Repr, DecidableEq

/-- What resolves a field: from the line, the value of the field and a state, to the text of the field and
    the next state. -/
abbrev Handler (σ : Type) := Line → Text → σ → Except Fault Text × σ

namespace Handler

variable {σ : Type}

/-- A handler whose outcome depends on the line and the value alone. -/
def ofFunction (f : Line → Text → Except Fault Text) : Handler σ :=
  fun line value state => (f line value, state)

/-- The mark in a pattern that a text is put in place of. -/
def slot : Text := "%s"

/-- A level's label. The value is a pattern for the label and, after a colon, the side it is pushed to in
    a column as wide as the longest label. -/
def levelText (level : Level) (value : Text) : Text :=
  let (pattern, align) := Text.cut ':' value
  let label :=
    if align = "left" then level.label.padRight Level.labelWidth
    else if align = "right" then level.label.padLeft Level.labelWidth
    else level.label
  if pattern = [] then label else Text.replaceFirst slot label pattern

/-- The pattern that a time is shown by: the value of the field, when there is one. -/
def timePattern (clock : Clock) (value : Text) : Text :=
  if value = [] then clock.pattern else value

/-- The time of a line. Its pattern is handed on as bytes, so it has to be one that can be encoded. -/
def timeText (clock : Clock) (value : Text) : Except Fault Text :=
  match (timePattern clock value).surrogateRun? with
  | some run => .error ⟨.encoding, run.message⟩
  | none => .ok (clock.now.format (timePattern clock value))

/-- The handlers that every template has. -/
def builtins : List (Text × Handler σ) :=
  [("level", ofFunction fun line value => .ok (levelText line.level value)),
    ("time", ofFunction fun line value => timeText line.clock value)]

end Handler

/-- A template and what resolves its fields. -/
structure Template (σ : Type) where
  text : Text
  /-- The handlers, the first one for a name being the one in force. -/
  handlers : List (Text × Handler σ)

namespace Template

variable {σ : Type}

/-- A template with the handlers that every template has. -/
def ofText (text : Text) : Template σ :=
  ⟨text, Handler.builtins⟩

/-- A template in which a name is resolved by another handler. -/
def withHandler (t : Template σ) (name : Text) (handler : Handler σ) : Template σ :=
  { t with handlers := (name, handler) :: t.handlers }

/-- The segments of a template. -/
def segments (t : Template σ) : List Segment :=
  Segment.split t.text

/-- Render a field. The name `prefix` is always the lead of the line; a name without a handler leaves the
    field as it is written. -/
def renderField (t : Template σ) (line : Line) (body : Text) (state : σ) : Except Fault Text × σ :=
  let (name, value) := Segment.nameAndValue body
  if name = "prefix" then (.ok line.lead, state)
  else
    match t.handlers.lookup name with
    | some handler => handler line value state
    | none => (.ok (Segment.fieldText body), state)

/-- Render a segment. -/
def renderSegment (t : Template σ) (line : Line) (segment : Segment) (state : σ) : Except Fault Text × σ :=
  match segment with
  | .literal text => (.ok text, state)
  | .field body => t.renderField line body state

/-- Render segments one after another, up to the first failure. -/
def renderSegments (t : Template σ) (line : Line) : List Segment → σ → Except Fault Text × σ
  | [], state => (.ok [], state)
  | segment :: rest, state =>
    match t.renderSegment line segment state with
    | (.error e, state) => (.error e, state)
    | (.ok text, state) =>
      match renderSegments t line rest state with
      | (.error e, state) => (.error e, state)
      | (.ok after, state) => (.ok (text ++ after), state)

/-- Render a template for a line. -/
def render (t : Template σ) (line : Line) (state : σ) : Except Fault Text × σ :=
  t.renderSegments line t.segments state

/-- What a template renders to, before and after the slot of the message. -/
structure Parts where
  head : Text
  tail : Text
  deriving Repr, DecidableEq

/-- Render segments around the first slot in a literal. -/
def renderAround (t : Template σ) (line : Line) : List Segment → σ → Except Fault Parts × σ
  | [], state => (.ok ⟨[], []⟩, state)
  | segment :: rest, state =>
    let onward (text : Text) (state : σ) : Except Fault Parts × σ :=
      match renderAround t line rest state with
      | (.error e, state) => (.error e, state)
      | (.ok parts, state) => (.ok ⟨text ++ parts.head, parts.tail⟩, state)
    match segment with
    | .literal text =>
      match Text.cutAt? Handler.slot text with
      | some (before, after) =>
        match t.renderSegments line rest state with
        | (.error e, state) => (.error e, state)
        | (.ok text, state) => (.ok ⟨before, after ++ text⟩, state)
      | none => onward text state
    | .field body =>
      match t.renderField line body state with
      | (.error e, state) => (.error e, state)
      | (.ok text, state) => onward text state

/-- Render a template for a line, in parts around the slot of the message. Without a slot all of it is
    the head. -/
def renderParts (t : Template σ) (line : Line) (state : σ) : Except Fault Parts × σ :=
  t.renderAround line t.segments state

end Template

end LogStyle
