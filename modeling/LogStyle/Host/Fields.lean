import LogStyle.Host.Message
import LogStyle.Host.Target
import LogStyle.Outcome

/-! # Fields of messages

One filler of messages. A message may have fields between braces that stand for arguments: by position, by name, or one after
another. A field may look into its argument, choose how it is shown, and say how it is laid out. Fields are
filled in one after another, so the first failing one decides what is reported.
-/

namespace LogStyle

namespace Message

/-- Why a message cannot be read. -/
inductive Problem where
  | loneOpening
  | loneClosing
  | openingInPath
  | unclosed
  | noConversion
  | noColon
  | unclosedLayout
  | tooDeep
  | bigNumber
  | unclosedItem
  | strayAfterItem
  | emptyStep
  | automaticAfterManual
  | manualAfterAutomatic
  deriving Repr, DecidableEq

/-- A problem put into words. -/
def Problem.message : Problem → Text
  | .loneOpening => "Single '\x7b' encountered in format string"
  | .loneClosing => "Single '\x7d' encountered in format string"
  | .openingInPath => "unexpected '\x7b' in field name"
  | .unclosed => "expected '\x7d' before end of string"
  | .noConversion => "end of string while looking for conversion specifier"
  | .noColon => "expected ':' after conversion specifier"
  | .unclosedLayout => "unmatched '\x7b' in format spec"
  | .tooDeep => "Max string recursion exceeded"
  | .bigNumber => "Too many decimal digits in format string"
  | .unclosedItem => "Missing ']' in format string"
  | .strayAfterItem => "Only '.' or '[' may follow ']' in format field specifier"
  | .emptyStep => "Empty attribute in format string"
  | .automaticAfterManual =>
    "cannot switch from manual field specification to automatic field numbering"
  | .manualAfterAutomatic =>
    "cannot switch from automatic field numbering to manual field specification"

/-- A problem as a fault. -/
def Problem.fault (p : Problem) : Fault :=
  ⟨.value, p.message⟩

/-! ## Fields -/

/-- A field as it is written. -/
structure Field where
  /-- Which argument is meant, and where to look in it. -/
  path : Text
  conversion : Option CodePoint := none
  layout : Text := []
  deriving Repr, DecidableEq

/-- A piece of a message. -/
inductive Piece where
  | char (c : CodePoint)
  | field (f : Field)
  deriving Repr, DecidableEq

/-- A path up to the character that ends it, that character, and what follows. Between square brackets any
    character belongs to the path. -/
def readPath (inItem : Bool) : Text → Except Problem (Text × CodePoint × Text)
  | [] => .error .unclosed
  | c :: rest =>
    let more (inItem : Bool) := (readPath inItem rest).map fun (path, stop, rest) => (c :: path, stop, rest)
    if inItem then more (c ≠ ']')
    else if c = '\x7b' then .error .openingInPath
    else if c = '\x7d' || c = ':' || c = '!' then .ok ([], c, rest)
    else more (c = '[')

/-- A layout up to the brace that closes its field, and what follows; braces inside are balanced. -/
def readLayout (depth : Nat) : Text → Except Problem (Text × Text)
  | [] => .error .unclosedLayout
  | c :: rest =>
    let more (depth : Nat) := (readLayout depth rest).map fun (layout, rest) => (c :: layout, rest)
    if c = '\x7b' then more (depth + 1)
    else if c = '\x7d' then
      match depth with
      | 0 => .ok ([], rest)
      | depth + 1 => more depth
    else more depth

/-- A field after its opening brace, and what follows it. -/
def readField (t : Text) : Except Problem (Field × Text) := do
  let (path, stop, rest) ← readPath false t
  if stop = '\x7d' then pure ({ path }, rest)
  else if stop = ':' then do
    let (layout, rest) ← readLayout 0 rest
    pure ({ path, layout }, rest)
  else
    match rest with
    | [] => throw .noConversion
    | c :: '\x7d' :: rest => pure ({ path, conversion := some c }, rest)
    | c :: ':' :: rest => do
      let (layout, rest) ← readLayout 0 rest
      pure ({ path, conversion := some c, layout }, rest)
    | [_] => throw .unclosedLayout
    | _ => throw .noColon

/-- What follows a path is shorter than the text it was read from. -/
theorem length_readPath {inItem : Bool} {t path rest : Text} {stop : CodePoint}
    (h : readPath inItem t = .ok (path, stop, rest)) : rest.length < t.length := by
  induction t generalizing inItem path stop rest with
  | nil => simp [readPath] at h
  | cons c t ih =>
    have more : ∀ {inItem : Bool},
        (readPath inItem t).map (fun (path, stop, rest) => (c :: path, stop, rest))
          = .ok (path, stop, rest) → rest.length < (c :: t).length := by
      intro inItem hm
      obtain ⟨⟨p, s, r⟩, hr, he⟩ := Outcome.map_eq_ok.1 hm
      cases he
      exact Nat.lt_succ_of_lt (ih hr)
    simp only [readPath] at h
    split at h
    · exact more h
    · split at h
      · cases h
      · split at h
        · cases h
          exact Nat.lt_succ_self _
        · exact more h

/-- What follows a layout is shorter than the text it was read from. -/
theorem length_readLayout {depth : Nat} {t layout rest : Text}
    (h : readLayout depth t = .ok (layout, rest)) : rest.length < t.length := by
  induction t generalizing depth layout rest with
  | nil => simp [readLayout] at h
  | cons c t ih =>
    have more : ∀ {depth : Nat},
        (readLayout depth t).map (fun (layout, rest) => (c :: layout, rest))
          = .ok (layout, rest) → rest.length < (c :: t).length := by
      intro depth hm
      obtain ⟨⟨l, r⟩, hr, he⟩ := Outcome.map_eq_ok.1 hm
      cases he
      exact Nat.lt_succ_of_lt (ih hr)
    simp only [readLayout] at h
    split at h
    · exact more h
    · split at h
      · split at h
        · cases h
          exact Nat.lt_succ_self _
        · exact more h
      · exact more h

/-- What follows a field is shorter than the text it was read from. -/
theorem length_readField {t rest : Text} {f : Field} (h : readField t = .ok (f, rest)) :
    rest.length < t.length := by
  obtain ⟨⟨path, stop, after⟩, hp, h⟩ := Outcome.bind_eq_ok.1 h
  have hlt := length_readPath hp
  have hlayout : ∀ {u : Text} {g : Text → Field}, u.length ≤ after.length →
      (readLayout 0 u >>= fun (layout, rest) => pure (g layout, rest)) = .ok (f, rest) →
        rest.length < t.length := by
    intro u g hu hm
    obtain ⟨⟨l, r⟩, hl, he⟩ := Outcome.bind_eq_ok.1 hm
    cases he
    exact Nat.lt_trans (Nat.lt_of_lt_of_le (length_readLayout hl) hu) hlt
  simp only at h
  split at h
  · cases h
    exact hlt
  · split at h
    · exact hlayout (Nat.le_refl _) h
    · split at h
      · exact absurd h Outcome.throw_ne_ok
      · cases h
        simp only [List.length_cons] at hlt
        omega
      · refine hlayout ?_ h
        simp only [List.length_cons]
        omega
      · exact absurd h Outcome.throw_ne_ok
      · exact absurd h Outcome.throw_ne_ok

/-- The pieces of a message up to its first problem, and that problem. A brace is written twice. -/
def split (t : Text) : List Piece × Option Problem :=
  match t with
  | [] => ([], none)
  | c :: rest =>
    let before (p : Piece) (after : List Piece × Option Problem) := (p :: after.1, after.2)
    if c = '\x7b' then
      match rest with
      | [] => ([], some .loneOpening)
      | '\x7b' :: rest => before (.char c) (split rest)
      | d :: rest =>
        match _h : readField (d :: rest) with
        | .ok (f, left) => before (.field f) (split left)
        | .error p => ([], some p)
    else if c = '\x7d' then
      match rest with
      | '\x7d' :: rest => before (.char c) (split rest)
      | _ => ([], some .loneClosing)
    else before (.char c) (split rest)
termination_by t.length
decreasing_by
  · simp only [List.length_cons]; omega
  · exact Nat.lt_succ_of_lt (length_readField _h)
  · simp only [List.length_cons]; omega
  · exact Nat.lt_succ_self _

/-! ## Paths -/

/-- A step further into an argument. -/
inductive Step where
  | attribute (name : Text)
  | index (n : Nat)
  | key (name : Text)
  deriving Repr, DecidableEq

/-- A text as a number that counts arguments or items, if it is one. -/
def number? (t : Text) : Except Problem (Option Nat) :=
  let digits := t.takeWhile isDecimal
  if Spec.numberLimit < Numeral.value digits then .error .bigNumber
  else if t = [] || digits ≠ t then .ok none
  else .ok (some (Numeral.value t))

/-- Whether a character starts a step of a path. -/
def startsStep (c : CodePoint) : Bool :=
  c = '.' || c = '['

/-- The next step of a path, and what follows it. -/
def nextStep (t : Text) : Except Problem (Step × Text) :=
  match t with
  | '.' :: rest =>
    let name := rest.takeWhile fun c => !startsStep c
    if name = [] then .error .emptyStep
    else .ok (.attribute name, rest.dropWhile fun c => !startsStep c)
  | '[' :: rest =>
    match Text.cut? ']' rest with
    | none => .error .unclosedItem
    | some (name, after) => do
      let n ← number? name
      if name = [] then throw .emptyStep
      else pure ((n.map Step.index).getD (.key name), after)
  | _ => .error .strayAfterItem

/-- Take a step into what a path has led to so far. -/
def Step.take (x : Target) : Step → Except Fault Target
  | .attribute name => (x.attribute? name).elim (.error (x.noAttribute name)) .ok
  | .index n => x.item (.inl n)
  | .key name => x.item (.inr name)

/-- Follow the steps of a path; `fuel` bounds the steps, each of which has a character. -/
def follow (fuel : Nat) (x : Target) (path : Text) : Except Fault Target :=
  match fuel, path with
  | _, [] => .ok x
  | 0, _ :: _ => .ok x
  | fuel + 1, c :: rest => do
    let (step, after) ← (nextStep (c :: rest)).mapError Problem.fault
    let x ← step.take x
    follow fuel x after

/-! ## Filling in -/

/-- How the fields of a message have been counted so far. -/
inductive Numbering where
  | start
  | manual
  /-- Fields without a number take the arguments in order. -/
  | automatic (next : Nat)
  deriving Repr, DecidableEq

/-- The argument that the first part of a path means, and how fields are counted from there. -/
def argument (a : Arguments) (n : Numbering) (name : Text) : Except Fault (Value × Numbering) := do
  let at_ (i : Nat) (n : Numbering) : Except Fault (Value × Numbering) :=
    match a.positional[i]? with
    | some v => .ok (v, n)
    | none =>
      .error ⟨.index,
        "Replacement index " ++ Text.ofNat i ++ " out of range for positional args tuple"⟩
  match ← (number? name).mapError Problem.fault with
  | some i =>
    match n with
    | .automatic _ => throw (Problem.fault .manualAfterAutomatic)
    | _ => at_ i .manual
  | none =>
    if name = [] then
      match n with
      | .manual => throw (Problem.fault .automaticAfterManual)
      | .automatic i => at_ i (.automatic (i + 1))
      | .start => at_ 0 (.automatic 1)
    else
      match a.named.find? fun (k, _) => k = name with
      | some (_, v) => pure (v, n)
      | none => throw ⟨.key, name.quoted⟩

/-- A shown text in basic characters only. -/
def basicOnly (t : Text) : Text :=
  t.flatMap fun c =>
    if c.toNat < 0x80 then [c]
    else if c.toNat < 0x100 then '\\' :: 'x' :: hexCode 2 c.toNat
    else if c.toNat < 0x10000 then '\\' :: 'u' :: hexCode 4 c.toNat
    else '\\' :: 'U' :: hexCode 8 c.toNat

/-- How a conversion shows what a path leads to. -/
def convert (x : Target) : Option CodePoint → Except Fault Target
  | none => .ok x
  | some 's' => .ok (.ofText x.shown)
  | some 'r' => .ok (.ofText x.quoted)
  | some 'a' => .ok (.ofText (basicOnly x.quoted))
  | some c =>
    let shown : Text := if 32 < c.toNat && c.toNat < 127 then [c] else "\\x" ++ hexCode 0 c.toNat
    .error ⟨.value, "Unknown conversion specifier " ++ shown⟩

/-- Fill in one piece; layouts may have fields themselves. -/
def fillPiece (expand : Numbering → Text → Except Fault (Text × Numbering)) (a : Arguments)
    (n : Numbering) : Piece → Except Fault (Text × Numbering)
  | .char c => .ok ([c], n)
  | .field f => do
    let name := f.path.takeWhile fun c => !startsStep c
    let (v, n) ← argument a n name
    let x ← follow f.path.length (.value v) (f.path.drop name.length)
    let x ← convert x f.conversion
    let (layout, n) ← if f.layout.contains '\x7b' then expand n f.layout else pure (f.layout, n)
    let t ← x.layout layout
    pure (t, n)

/-- Fill in pieces one after another. -/
def fillPieces (expand : Numbering → Text → Except Fault (Text × Numbering)) (a : Arguments) :
    Numbering → List Piece → Except Fault (Text × Numbering)
  | n, [] => .ok ([], n)
  | n, p :: rest => do
    let (t, n) ← fillPiece expand a n p
    let (after, n) ← fillPieces expand a n rest
    pure (t ++ after, n)

/-- Fill in a text whose layouts may be nested to a depth. -/
def fillTo (a : Arguments) : Nat → Numbering → Text → Except Fault (Text × Numbering)
  | 0, _, _ => .error (Problem.fault .tooDeep)
  | depth + 1, n, t => do
    let (pieces, problem) := split t
    let filled ← fillPieces (fillTo a depth) a n pieces
    match problem with
    | some p => throw p.fault
    | none => pure filled

/-- The filler that knows the fields of messages. -/
def formatted : Filler := fun a message =>
  (fillTo a 2 .start message).map (·.1)

end Message

end LogStyle
