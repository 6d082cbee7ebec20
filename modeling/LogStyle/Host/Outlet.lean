import LogStyle.Host.Markup
import LogStyle.Host.Message
import LogStyle.Host.Severity
import LogStyle.Theme.Basic

/-! # Outlets of the host logger

A formatter is installed as an outlet of the host logger: it renders the header of every record that is
severe enough and not about the library's own work, the message goes into its slot, and the whole is
written. A record that cannot be rendered is dropped; what its rendering has stored is kept.
-/

namespace LogStyle

/-- What is given of the host logger. -/
structure Host where
  /-- What takes the markup out of formats. -/
  color : Markup.Colorizer
  /-- What fills arguments into messages. -/
  fill : Message.Filler

/-- A record of the host logger. -/
structure Record where
  severity : Severity
  message : Text
  /-- What stands for the field `prefix`; only a text can be written. -/
  lead : Value
  /-- The verbosity that the record needed; none if it needed none. -/
  detail : Option Int
  /-- Whether the record is about the library's own work. Such records are not written by formatters. -/
  isInternal : Bool := detail.isSome
  deriving Repr

namespace Record

/-- The level of a record. -/
def level (r : Record) : Level :=
  r.severity.level

/-- A record as a note. -/
def note (r : Record) : Note :=
  { severity := r.severity.name, message := r.message, detail := r.detail, isInternal := r.isInternal }

end Record

/-- A record as a caller asks for it. -/
structure Draft where
  severity : Value
  message : Text
  arguments : Arguments := {}
  lead : Option Value := none
  detail : Option Int := none

namespace Draft

/-- The argument with a name. -/
def named? (d : Draft) (name : Text) : Option Value :=
  (d.arguments.named.find? fun (n, _) => n = name).map (·.2)

/-- What stands for the field `prefix`: an argument of that name comes first, then what is bound to the
    logger, then nothing. -/
def leadValue (d : Draft) : Value :=
  ((d.named? "prefix").or d.lead).getD (.ofText [])

/-- Whether a draft is about the library's own work: an argument that says so comes first, then whether the
    library wrote it. -/
def isInternal (d : Draft) : Bool :=
  match d.named? "diagnostic" with
  | some v => v.isYes
  | none => d.detail.isSome

/-- The record of a draft, unless it is less severe than what any outlet takes; then its message is not
    looked at. -/
def record? (fill : Message.Filler) (d : Draft) (least : Nat) : Except Fault (Option Record) := do
  let severity ← (Severity.ofValue d.severity).mapError Severity.Error.fault
  if severity.number < least then pure none
  else do
    let message ← Message.fill fill d.arguments d.message
    pure (some { severity, message, lead := d.leadValue, detail := d.detail, isInternal := d.isInternal })

/-- A draft of the library itself. What it is made of cannot be given again among its named arguments. -/
def ofLibrary (message : Text) (detail : Int) (severity : Value) (named : List (Text × Value)) :
    Except Fault Draft :=
  let taken (name : Text) : Bool := name = "level" || name = "severity"
  match named.find? fun (name, _) => taken name with
  | some (name, _) =>
    .error ⟨.type, "colorgful.lib.log.LOG() got multiple values for keyword argument " ++ name.quoted⟩
  | none =>
    if named.any fun (name, _) => name = "message" then
      .error ⟨.type, "LOG() got multiple values for argument 'message'"⟩
    else .ok { severity, message, arguments := ⟨[], named⟩, detail := some detail }

/-- Report a draft of the library itself, if its detail is asked for; without an outlet that would take it,
    it is not even read. -/
def report (fill : Message.Filler) (d : Draft) (watched : Bool) (verbosity : Int) : Noted Unit :=
  if watched && d.detail.all (· ≤ verbosity) then
    match d.record? fill 0 with
    | .ok (some r) => Noted.report r.note
    | .ok none => pure ()
    | .error fault => throw fault
  else pure ()

end Draft

/-- A formatter that is installed in the host logger. -/
structure Outlet where
  formatter : Formatter
  /-- The theme whose formatter it is, if it is one; then lines after the first are styled too. -/
  theme : Option Theme := none
  /-- The least severity that is written. -/
  least : Nat := 5

namespace Outlet

/-- What the formatters of an outlet keep from one record to the next. -/
structure State where
  line : Restore := {}
  trailer : Restore := {}
  deriving Repr, DecidableEq

/-- The outlet of a template without directives. -/
def ofTemplate (text : Text) : Outlet :=
  { formatter := ⟨Template.ofText text, []⟩ }

/-- The outlet of a theme. -/
def ofTheme (t : Theme) : Outlet :=
  { formatter := t.line, theme := some t }

/-- Whether a formatter writes the lead of a line. -/
def writesLead (f : Formatter) : Bool :=
  f.template.segments.any fun segment =>
    match segment with
    | .literal _ => false
    | .field body => (Segment.nameAndValue body).1 = "prefix"

/-- The lead of a record for a formatter; none if it is no text and the formatter writes it. -/
def lead? (f : Formatter) (r : Record) : Option Text :=
  match r.lead with
  | .scalar (.text t) => some t
  | _ => if writesLead f then none else some []

/-- The text of a record as the host passes it on: header, message, the rest of the header, and a line end. -/
def rendered? (k : Markup.Colorizer) (o : Outlet) (clock : Clock) (r : Record) (s : State) : Option Text × State :=
  let lead := lead? o.formatter r
  let (parts, line) := o.formatter.renderParts ⟨r.level, lead.getD [], clock⟩ s.line
  let text? : Option Text := do
    let _ ← lead
    let parts ← parts.toOption
    Markup.written? k parts.head r.message parts.tail
  (text?, { s with line })

/-- What is written for a record, if anything is. -/
def write? (k : Markup.Colorizer) (o : Outlet) (clock : Clock) (r : Record) (s : State) : Option Text × State :=
  if r.isInternal || r.severity.number < o.least then (none, s)
  else
    match o.rendered? k clock r s with
    | (none, s) => (none, s)
    | (some text, s) =>
      match o.theme with
      | none => (some text, s)
      | some theme =>
        let (written, trailer) := theme.written text r.level clock s.trailer
        (written.toOption, { s with trailer })

/-- What comes of logging a draft. -/
structure Logged where
  record : Except Fault (Option Record)
  written : Option Text
  state : State

/-- Log a draft. When the host logger is watched, records below the severity of the outlet are made too. -/
def log (host : Host) (o : Outlet) (watched : Bool) (clock : Clock) (d : Draft) (s : State) : Logged :=
  match d.record? host.fill (if watched then 0 else o.least) with
  | .ok (some r) =>
    let (written, state) := o.write? host.color clock r s
    ⟨.ok (some r), written, state⟩
  | record => ⟨record, none, s⟩

/-- The note that a formatter has been installed. -/
def installed : Note :=
  .internal 2 "Installed formatter as loguru handler"

end Outlet

end LogStyle
