import LogStyle.Proofs.Host.Header
import LogStyle.Proofs.Palette.Data
import LogStyle.Proofs.Preview.Steps
import LogStyle.Proofs.Theme.Failure
import LogStyle.Proofs.Theme.Unfailing

/-! # The records of a preview

A preview asks for levels by their names and logs one record at each. On its way a level becomes a severity of the
host and the severity a level again.
-/

namespace LogStyle

def Severity.ofLevel : Level → Severity
  | .fatal => ⟨"CRITICAL", 50⟩
  | level => ⟨level.label, level.severity⟩

theorem Severity.level_ofLevel (level : Level) : (ofLevel level).level = level := by
  cases level <;> decide

def Record.sample (level : Level) (message : Text) : Record :=
  { severity := .ofLevel level, message, lead := .ofText [], detail := none }

theorem Draft.record?_sample (fill : Message.Filler) (level : Level) (message : Text) :
    ({ severity := .ofText (Severity.nameOf level), message } : Draft).record? fill 5 = .ok (some (.sample level message)) := by
  cases level <;> rfl

def Theme.headers (theme : Theme) (clock : Clock) : List Level → Restore → List (Except Fault Template.Parts)
  | [], _ => []
  | level :: rest, r =>
    let (parts, r) := theme.line.renderParts ⟨level, [], clock⟩ r
    parts :: theme.headers clock rest r

/-- Headers that can be rendered and hold no markup. -/
def Header.Clean (header : Except Fault Template.Parts) : Prop :=
  ∃ parts, header = .ok parts ∧ .char '<' ∉ parts.head ∧ .char '<' ∉ parts.tail

instance : DecidablePred Header.Clean
  | .ok parts => decidable_of_iff (.char '<' ∉ parts.head ∧ .char '<' ∉ parts.tail) (by simp [Header.Clean])
  | .error _ => .isFalse (by simp [Header.Clean])

namespace Preview

/-- What becomes of a message behind a header, when it has been written. -/
def Writes (message : Text) (header : Except Fault Template.Parts) (written : Text) : Prop :=
  ∃ parts style, header = .ok parts ∧
    written = Theme.spliced style (parts.head ++ message ++ parts.tail ++ [.char '\n'])

section
variable [CharNames] {host : Host} (lawful : host.color.Lawful) {colors : Bool} {format : Text} {palette : Palette}
  {theme : Theme} (compiled : (Theme.compile colors format palette).outcome.1 = .ok theme) (clock : Clock)
  (message : Text)
include lawful compiled

theorem exists_written_sample (level : Level) {s : Outlet.State} {parts : Template.Parts} {line : Restore}
    (renders : theme.line.renderParts ⟨level, [], clock⟩ s.line = (.ok parts, line))
    (head : .char '<' ∉ parts.head) (tail : .char '<' ∉ parts.tail) :
    ∃ style trailer, (Outlet.ofTheme theme).write? host.color clock (.sample level message) s =
      (some (Theme.spliced style (parts.head ++ message ++ parts.tail ++ [.char '\n'])), ⟨line, trailer⟩) := by
  have same : (Record.sample level message).level = level := Severity.level_ofLevel level
  have bound : Outlet.lead? (Outlet.ofTheme theme).formatter (.sample level message) = some [] := rfl
  have taken : ((Record.sample level message).isInternal ||
      decide ((Record.sample level message).severity.number < (Outlet.ofTheme theme).least)) = false := by
    cases level <;> rfl
  have text := (Markup.written?_eq_iff lawful parts.head message parts.tail).2
    ⟨Markup.clear_of_not_mem head, Markup.clear_of_not_mem tail⟩
  have rendered : (Outlet.ofTheme theme).rendered? host.color clock (.sample level message) s =
      (some (parts.head ++ message ++ parts.tail ++ [.char '\n']), { s with line }) := by
    rw [← text]
    exact Outlet.rendered?_of_parts bound (by rw [same]; exact renders)
  obtain ⟨style, written⟩ :=
    Theme.exists_written compiled (parts.head ++ message ++ parts.tail ++ [.char '\n']) level clock s.trailer
  rcases ran : theme.written (parts.head ++ message ++ parts.tail ++ [.char '\n']) level clock s.trailer with ⟨result, trailer⟩
  rw [ran] at written
  obtain rfl : result = _ := written
  refine ⟨style, trailer, ?_⟩
  rw [Outlet.write?, if_neg (by simp [taken]), rendered]
  simp only [Outlet.ofTheme, same, ran]
  rfl

theorem exists_logAt (levels : List Level) (s : Outlet.State)
    (clean : ∀ header ∈ theme.headers clock levels s.line, Header.Clean header) :
    ∃ samples : List (Level × Text),
      logAt host (.ofTheme theme) clock message levels s = samples.map (fun sample => (sample.1, some sample.2)) ∧
      samples.map Prod.fst = levels ∧
      List.Forall₂ (Writes message) (theme.headers clock levels s.line) (samples.map Prod.snd) := by
  induction levels generalizing s with
  | nil => exact ⟨[], rfl, rfl, .nil⟩
  | cons level rest ih =>
      rw [Theme.headers] at clean ⊢
      rcases rendered : theme.line.renderParts ⟨level, [], clock⟩ s.line with ⟨header, line⟩
      simp only [rendered] at clean ⊢
      obtain ⟨parts, rfl, head, tail⟩ := clean header List.mem_cons_self
      obtain ⟨style, trailer, written⟩ := exists_written_sample lawful compiled clock message level rendered head tail
      obtain ⟨samples, logged, same, texts⟩ := ih ⟨line, trailer⟩ fun other member => clean other (List.mem_cons_of_mem _ member)
      have first :
        (Outlet.ofTheme theme).log host false clock { severity := .ofText (Severity.nameOf level), message } s =
          ⟨.ok (some (.sample level message)), some (Theme.spliced style (parts.head ++ message ++ parts.tail ++ [.char '\n'])),
            ⟨line, trailer⟩⟩ := by
        rw [Outlet.log]
        simp only [Outlet.ofTheme, Bool.false_eq_true, if_false, Draft.record?_sample]
        simp only [Outlet.ofTheme] at written
        rw [written]
      refine ⟨(level, _) :: samples, ?_, by rw [List.map_cons, same], .cons ⟨parts, style, rfl, rfl⟩ texts⟩
      rw [logAt]
      simp only [first, logged]
      rfl

end

namespace Steps

theorem gives_showSamples {host : Host} (o : Options) {clock : Clock} {theme : Theme} {levels : List Level}
    {samples : List (Level × Text)}
    (logged : logAt host (.ofTheme theme) clock o.message levels {} = samples.map fun sample => (sample.1, some sample.2)) :
    (showSamples host o clock theme levels).Gives (.ok levels.length) samples := by
  have all : (samples.map fun sample => (sample.1, some sample.2)).flatMap
      (fun shown => shown.2.toList.map (shown.1, ·)) = samples := by
    simp [List.flatMap_map]
  unfold showSamples
  refine (gives_note o _).bind_quiet (Gives.bind_of_quiet (a := PUnit.unit) ?_ (gives_pure levels.length))
  rw [logged]
  nth_rewrite 2 [← all]
  refine gives_forIn fun shown member => ?_
  obtain ⟨⟨level, text⟩, -, rfl⟩ := List.mem_map.1 member
  exact (gives_write (.sample level text)).bind (gives_pure _)

end Steps

end Preview

end LogStyle
