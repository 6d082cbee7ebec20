import LogStyle.Palette.Load
import LogStyle.Proofs.Palette.Data
import LogStyle.Proofs.Text.Utf8

/-! # How loading a palette fails

Loading a palette tells in an error about palettes that a file is missing, is a folder, is not YAML, holds no mapping
or holds one that is no palette. What else can go wrong is passed on as it is: the system refuses a path, bytes are no
text, a scalar has the form of its type but stands for nothing, and keys cannot be put into words.
-/

namespace LogStyle

namespace Palette

variable (reader : Document.Reader)

/-- The value that bytes stand for. -/
def valueOf (bytes : List UInt8) : Except Document.Trouble Value :=
  reader.read (Utf8.read bytes)

/-- What stands at a path cannot be loaded, for a reason that is passed on as it is. -/
inductive Leaks : Found → Prop
  /-- The path is refused before anything is opened. -/
  | longName : Leaks .longName
  /-- The bytes are no text. -/
  | undecodable {bytes : List UInt8} {fault : Utf8.Fault} :
      valueOf reader bytes = .error (.undecodable fault) → Leaks (.file bytes)
  /-- A scalar in them stands for nothing. -/
  | impossible {bytes : List UInt8} {obstacle : Document.Obstacle} {message : Text} :
      valueOf reader bytes = .error (.impossible obstacle message) → Leaks (.file bytes)
  /-- What is wrong with the first entry that cannot be used cannot be put into words. -/
  | entry {bytes : List UInt8} {entries : List (Scalar × Value)} {entry : Scalar × Value} :
      valueOf reader bytes = .ok (.dict entries) → FirstUnsound entries entry → Unspeakable entry → Leaks (.file bytes)

theorem outcome_ofFile (path : Text) (found : Found) :
    (ofFile reader path found).outcome.1 =
      ((readFile reader (Path.normal path) found).mapError FileError.fault).bind fun entries => ofValue (.dict entries) := by
  simp only [ofFile, ofValue]
  cases readFile reader (Path.normal path) found with
  | error e => rfl
  | ok entries =>
      simp only [Outcome.mapError_ok, Except.bind]
      cases ofEntries entries with
      | error e => rfl
      | ok p => rfl

theorem kind_of_ofTrouble {path : Text} {trouble : Document.Trouble} :
    (FileError.ofTrouble path trouble).fault.kind ≠ .theme ↔ trouble ≠ .malformed := by
  cases trouble with
  | malformed => simp [FileError.ofTrouble, FileError.fault]
  | impossible obstacle message => exact iff_of_true obstacle.kind_ne_theme nofun
  | undecodable fault => exact iff_of_true nofun nofun

theorem readFile_file (path : Text) (bytes : List UInt8) :
    readFile reader path (.file bytes) =
      match valueOf reader bytes with
      | .error trouble => .error (.ofTrouble path trouble)
      | .ok (.scalar .null) => .ok []
      | .ok (.dict entries) => .ok entries
      | .ok _ => .error (.notMapping path) := by
  unfold readFile
  change ((valueOf reader bytes).mapError (FileError.ofTrouble path)).bind _ = _
  cases valueOf reader bytes with
  | error trouble => rfl
  | ok value =>
      rcases value with ⟨_ | _⟩ | _ | _ <;> rfl

section
variable {reader : Document.Reader} {bytes : List UInt8}

theorem leaks_of_error {trouble : Document.Trouble} (failed : valueOf reader bytes = .error trouble) :
    Leaks reader (.file bytes) ↔ trouble ≠ .malformed := by
  constructor
  · rintro (_ | other | other | ⟨other, _, _⟩)
    · cases failed.symm.trans other
      nofun
    · cases failed.symm.trans other
      nofun
    · cases failed.symm.trans other
  · intro other
    cases trouble with
    | malformed => exact absurd rfl other
    | impossible obstacle message => exact .impossible failed
    | undecodable fault => exact .undecodable failed

theorem leaks_of_dict {entries : List (Scalar × Value)} (read : valueOf reader bytes = .ok (.dict entries)) :
    Leaks reader (.file bytes) ↔ ∃ entry, FirstUnsound entries entry ∧ Unspeakable entry := by
  constructor
  · rintro (_ | other | other | ⟨other, first, unspeakable⟩)
    · cases read.symm.trans other
    · cases read.symm.trans other
    · cases read.symm.trans other
      exact ⟨_, first, unspeakable⟩
  · rintro ⟨entry, first, unspeakable⟩
    exact .entry read first unspeakable

theorem not_leaks_of_other {value : Value} (read : valueOf reader bytes = .ok value)
    (other : ∀ entries, value ≠ .dict entries) : ¬ Leaks reader (.file bytes) := by
  rintro (_ | failed | failed | ⟨same, _, _⟩)
  · cases read.symm.trans failed
  · cases read.symm.trans failed
  · cases read.symm.trans same
    exact other _ rfl

end

theorem escapes_error {α : Type} {fault : Fault} {kinds : List FaultKind} :
    Escapes (.error fault : Except Fault α) kinds ↔ fault.kind ∉ kinds := by
  simp [Escapes]

theorem not_escapes_theme {α : Type} (message : Text) :
    ¬ Escapes (.error ⟨.theme, message⟩ : Except Fault α) [.theme] :=
  fun strange => escapes_error.1 strange List.mem_cons_self

theorem escapes_ofFile (path : Text) (found : Found) :
    Escapes (ofFile reader path found).outcome.1 [.theme] ↔ Leaks reader found := by
  rw [outcome_ofFile]
  cases found with
  | missing | folder => exact iff_of_false (not_escapes_theme _) nofun
  | longName => exact iff_of_true (escapes_error.2 (by simp [FileError.fault])) .longName
  | file bytes =>
      rw [readFile_file]
      cases read : valueOf reader bytes with
      | error trouble =>
          rw [leaks_of_error read, ← @kind_of_ofTrouble (Path.normal path)]
          exact escapes_error.trans (by simp)
      | ok value =>
          cases value with
          | dict entries =>
              rw [leaks_of_dict read]
              exact escapes_ofValue
          | list items => exact iff_of_false (not_escapes_theme _) (not_leaks_of_other read nofun)
          | scalar s =>
              have refused : ¬ Leaks reader (.file bytes) := not_leaks_of_other read nofun
              cases s with
              | null => exact iff_of_false (fun ⟨_, failed, _⟩ => (nomatch failed)) refused
              | _ => exact iff_of_false (not_escapes_theme _) refused

/-- Loading fails with an error that is not about palettes exactly for the reasons that are passed on as they are. -/
theorem escapes_load (tree : Files) (path : Text) :
    Escapes (load reader tree path).outcome.1 [.theme] ↔ Leaks reader (tree.find path) :=
  escapes_ofFile reader path (tree.find path)

theorem leaks_of_undecodable {bytes : List UInt8} (few : bytes.length < 2 * Utf8.blockSize)
    (undecodable : Utf8.text? bytes = none) : Leaks reader (.file bytes) := by
  obtain ⟨fault, read⟩ := Utf8.read_of_undecodable few undecodable
  have value : valueOf reader bytes = .error (.undecodable fault) := by
    rw [valueOf, read, reader.read_fault]
  exact .undecodable value

/-- A file of bytes that are no text is there, and what is told of it is no error about palettes. -/
theorem escapes_load_of_bytes :
    Escapes (load (.constant (.scalar .null)) ⟨"/d", [("p", .file [0xFF, 0x00])]⟩ "/d/p").outcome.1 [.theme] := by
  have found : Files.find ⟨"/d", [("p", .file [0xFF, 0x00])]⟩ "/d/p" = .file [0xFF, 0x00] := by decide
  have undecodable : Utf8.text? [0xFF, 0x00] = none := by simp [Utf8.text?, Utf8.decodeFrom, Utf8.lead?]
  unfold load
  rw [found]
  exact (escapes_ofFile _ _ _).2 (leaks_of_undecodable _ (by decide) undecodable)

end Palette

end LogStyle
