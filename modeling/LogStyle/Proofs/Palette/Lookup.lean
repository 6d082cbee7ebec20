import LogStyle.Proofs.Files
import LogStyle.Proofs.Palette.File

/-! # Names that are listed and names that are found

Listing goes from the files of a folder to names, and looking up goes from a name to a file. One undoes the other for
most names; the names for which it does not are the ending by itself, the empty name, and names that make a path of
several parts or one that is too long.
-/

namespace LogStyle

namespace Palette

/-- The path that a name is looked up at. -/
def candidate (folder name : Text) : Text :=
  Path.under folder (name ++ ending)

/-- A name is among those that are told to be available. -/
def Listed (tree : Files) (folder name : Text) : Prop :=
  ∃ names, available (some (tree, folder)) = .ok names ∧ name ∈ names

/-- The answer to a lookup is that there is no palette with the name. -/
def NotFound (outcome : Except Fault Palette) (name : Text) : Prop :=
  ∃ others, outcome = .error ⟨.theme, "Palette '" ++ name ++ "' not found. Available: " ++ others⟩

/-! ## Names of files -/

theorem stem?_concat (name : Text) : stem? (name ++ ending) = some (if name = [] then ending else name) := by
  have start : (name ++ ending).length - ending.length = name.length := by simp
  unfold stem?
  rw [start, List.drop_left, List.take_left, if_pos (by simp)]
  by_cases empty : name = []
  · simp [empty]
  · simp [empty]

theorem exists_of_stem? {file name : Text} (named : stem? file = some name) : ∃ start, file = start ++ ending := by
  unfold stem? at named
  split at named
  · next ends =>
      simp only [Bool.and_eq_true, decide_eq_true_eq] at ends
      refine ⟨file.take (file.length - ending.length), ?_⟩
      calc
        file = file.take (file.length - ending.length) ++ file.drop (file.length - ending.length) :=
          (List.take_append_drop _ _).symm
        _ = file.take (file.length - ending.length) ++ ending := by rw [ends.2]
  · cases named

theorem stem?_eq_some {file name : Text} :
    stem? file = some name ↔ name ≠ [] ∧ file = name ++ ending ∨ name = ending ∧ file = ending := by
  constructor
  · intro named
    obtain ⟨start, rfl⟩ := exists_of_stem? named
    rw [stem?_concat, Option.some.injEq] at named
    split at named
    · next empty => exact .inr ⟨named.symm, by rw [empty, List.nil_append]⟩
    · next full => exact .inl ⟨named ▸ full, by rw [named]⟩
  · rintro (⟨full, rfl⟩ | ⟨rfl, rfl⟩)
    · rw [stem?_concat, if_neg full]
    · exact stem?_concat []

theorem mem_insertName {name other : Text} {names : List Text} :
    other ∈ insertName name names ↔ other = name ∨ other ∈ names := by
  induction names with
  | nil => simp [insertName]
  | cons first rest ih =>
      simp only [insertName]
      split
      · next same => simp [same]
      · split
        · simp
        · simp [ih, or_left_comm]

theorem mem_foldl_insertName {name : Text} {found names : List Text} :
    name ∈ found.foldl (fun names name => insertName name names) names ↔ name ∈ found ∨ name ∈ names := by
  induction found generalizing names with
  | nil => simp
  | cons first rest ih =>
      rw [List.foldl_cons, ih, mem_insertName, List.mem_cons, or_left_comm, or_assoc]

section
variable {tree : Files} {folder name : Text}

theorem available_of_long (long : tree.find folder = .longName) :
    available (some (tree, folder)) = .error (.longName (Path.normal folder)) := by
  simp [available, inFolder, long, Except.map]

theorem available_of_short (short : tree.find folder ≠ .longName) :
    available (some (tree, folder)) = .ok ((builtins.map (·.1) ++ (tree.names folder).filterMap stem?).foldl
      (fun names name => insertName name names) []) := by
  have found : inFolder (some (tree, folder)) = .ok ((tree.names folder).filterMap stem?) := by
    simp only [inFolder]
  rw [available, found]
  rfl

theorem listed_iff :
    Listed tree folder name ↔ tree.find folder ≠ .longName ∧
      (name ∈ builtins.map (·.1) ∨ ∃ file ∈ tree.names folder, stem? file = some name) := by
  unfold Listed
  by_cases long : tree.find folder = .longName
  · simp [available_of_long long, long]
  · rw [available_of_short long, and_iff_right long, ← List.mem_filterMap, ← List.mem_append]
    simp only [Except.ok.injEq, exists_eq_left', mem_foldl_insertName, List.not_mem_nil, or_false]

end

/-! ## Answers to lookups -/

theorem not_mem_builtins {name : Text} (other : builtin? name = none) : name ∉ builtins.map (·.1) := by
  intro member
  simp only [builtins, List.map_cons, List.map_nil, List.mem_cons, List.not_mem_nil, or_false] at member
  rcases member with rfl | rfl | rfl
  · exact absurd other (by decide)
  · exact absurd other (by decide)
  · exact absurd other (by decide)

theorem FileError.fault_ne (e : FileError) (t : Text) : e.fault ≠ ⟨.theme, "Palette '" ++ t⟩ := by
  intro same
  cases e with
  | longName path => cases congrArg Fault.kind same
  | impossible obstacle message => exact obstacle.kind_ne_theme (congrArg Fault.kind same)
  | undecodable fault => cases congrArg Fault.kind same
  | notFound path | isFolder path | malformed path | notMapping path =>
      cases congrArg (fun fault => (fault.message.drop 8).head?) same

theorem faultShowing_ne (keys : List Scalar) {message t : Text} (other : message ≠ "Palette '" ++ t) :
    faultShowing keys message ≠ ⟨.theme, "Palette '" ++ t⟩ := by
  unfold faultShowing
  split
  · nofun
  · intro same
    exact other (congrArg Fault.message same)

theorem DataError.fault_ne (e : DataError) (t : Text) : e.fault ≠ ⟨.theme, "Palette '" ++ t⟩ := by
  have head {message : Text} (other : (message.drop 8).head? ≠ some (.char '\x27')) : message ≠ "Palette '" ++ t :=
    fun same => other (same ▸ rfl)
  cases e with
  | unknownLevel key => exact faultShowing_ne _ (head (by simp))
  | unknownFields key fields => exact faultShowing_ne _ (head (by simp))
  | unorderedFields left right => nofun
  | dayAndTime | mixedOffsets => nofun
  | notMapping key | notText key field => exact fun same => head (by simp [fault]) (congrArg Fault.message same)

theorem not_notFound_ofFile (reader : Document.Reader) (path : Text) (found : Found) (name : Text) :
    ¬ NotFound (ofFile reader path found).outcome.1 name := by
  rintro ⟨others, absent⟩
  rw [outcome_ofFile] at absent
  simp only [List.append_assoc] at absent
  cases read : readFile reader (Path.normal path) found with
  | error e =>
      rw [read] at absent
      exact e.fault_ne _ (Except.error.inj absent)
  | ok entries =>
      rw [read] at absent
      cases made : ofEntries entries with
      | error e =>
          simp only [Outcome.mapError_ok, Except.bind, ofValue, made] at absent
          exact e.fault_ne _ (Except.error.inj absent)
      | ok p =>
          simp only [Outcome.mapError_ok, Except.bind, ofValue, made] at absent
          cases absent

theorem not_notFound_of_builtin {name : Text} {p : Palette} (known : builtin? name = some p)
    (reader : Document.Reader) (files : Option (Files × Text)) : ¬ NotFound (get reader files name).outcome.1 name := by
  rintro ⟨others, absent⟩
  simp only [get, known] at absent
  cases absent

theorem notFound_get (reader : Document.Reader) {tree : Files} {folder name : Text} (other : builtin? name = none) :
    NotFound (get reader (some (tree, folder)) name).outcome.1 name ↔
      tree.find (candidate folder name) = .missing ∧ tree.find folder ≠ .longName := by
  unfold candidate
  by_cases missing : tree.find (Path.under folder (name ++ ending)) = .missing
  · have answer : (get reader (some (tree, folder)) name).outcome.1 = .error (notAvailable (some (tree, folder)) name) := by
      simp only [get, other, missing]
      rfl
    rw [answer, and_iff_right missing, notAvailable]
    by_cases long : tree.find folder = .longName
    · rw [available_of_long long]
      refine iff_of_false ?_ (not_not_intro long)
      rintro ⟨others, absent⟩
      cases congrArg Fault.kind (Except.error.inj absent)
    · rw [available_of_short long]
      exact iff_of_true ⟨_, rfl⟩ long
  · have answer : get reader (some (tree, folder)) name = ofFile reader (Path.under folder (name ++ ending))
        (tree.find (Path.under folder (name ++ ending))) := by
      simp only [get, other]
    rw [answer]
    exact iff_of_false (not_notFound_ofFile _ _ _ _) fun ⟨found, _⟩ => missing found

/-! ## Names for which the two differ -/

/-- A name for which looking up does not answer what the list tells. -/
inductive Astray (tree : Files) (folder name : Text) : Prop
  /-- The folder cannot be listed: the system does not take its path. -/
  | folder : tree.find folder = .longName → Astray tree folder name
  /-- The name makes a path that the system does not take, and no file of the folder has the name. -/
  | long : tree.find (candidate folder name) = .longName →
      (∀ file ∈ tree.names folder, stem? file ≠ some name) → Astray tree folder name
  /-- The name leads out of the folder or deeper into it, where something stands. -/
  | path : .char '/' ∈ name → tree.find (candidate folder name) ≠ .missing → Astray tree folder name
  /-- The empty name leads to a file that is all ending, and that has another name. -/
  | empty : name = [] → ending ∈ tree.names folder → Astray tree folder name
  /-- That other name is listed but leads to another file, and that is missing. -/
  | ending : name = ending → ending ∈ tree.names folder → tree.find (candidate folder name) = .missing →
      Astray tree folder name

section
variable {tree : Files} {folder name : Text}

theorem isPart_concat_ending (whole : .char '/' ∉ name) : Path.IsPart (name ++ ending) := by
  refine ⟨by simp [ending], fun dot => ?_, ?_⟩
  · have length := congrArg List.length dot
    rw [List.length_append] at length
    simp [ending] at length
  · rw [List.mem_append, not_or]
    exact ⟨whole, by decide⟩

theorem concat_ending_ne_up (name : Text) : name ++ ending ≠ Path.up := by
  intro up
  have length := congrArg List.length up
  rw [List.length_append] at length
  simp [ending, Path.up] at length

theorem isPart_of_mem_names {file : Text} (listed : file ∈ tree.names folder) : Path.IsPart file := by
  obtain ⟨here, -, entry, -, below⟩ := Files.mem_names.1 listed
  exact Path.isPart_of_mem_parts (below.subset (by simp))

variable (sound : tree.Sound) (holds : tree.Holds folder)
include sound

theorem find_of_mem_names {file : Text} (listed : file ∈ tree.names folder) : tree.find folder = .folder := by
  obtain ⟨here, place, entry, member, below⟩ := Files.mem_names.1 listed
  rw [Files.find_of_below place]
  exact Files.findParts_of_below sound member below

include holds

theorem find_candidate_eq_missing (whole : .char '/' ∉ name) (short : tree.find folder ≠ .longName)
    (short' : tree.find (candidate folder name) ≠ .longName) :
    tree.find (candidate folder name) = .missing ↔ name ++ ending ∉ tree.names folder :=
  Files.find_under_eq_missing sound holds (isPart_concat_ending whole) (concat_ending_ne_up name) short short'

theorem not_listed_of_missing (other : builtin? name = none) (straight : ¬ Astray tree folder name)
    (missing : tree.find (candidate folder name) = .missing) : ¬ Listed tree folder name := by
  intro listed
  obtain ⟨short, builtin | ⟨file, inside, named⟩⟩ := listed_iff.1 listed
  · exact not_mem_builtins other builtin
  rcases stem?_eq_some.1 named with ⟨-, rfl⟩ | ⟨rfl, rfl⟩
  · have whole : .char '/' ∉ name := fun slash => (isPart_of_mem_names inside).whole (List.mem_append_left _ slash)
    exact (find_candidate_eq_missing sound holds whole short (by simp [missing])).1 missing inside
  · exact straight (.ending rfl inside missing)

theorem missing_of_not_listed (straight : ¬ Astray tree folder name) (unlisted : ¬ Listed tree folder name) :
    tree.find (candidate folder name) = .missing ∧ tree.find folder ≠ .longName := by
  have short : tree.find folder ≠ .longName := fun long => straight (.folder long)
  refine ⟨?_, short⟩
  by_contra there
  by_cases whole : .char '/' ∈ name
  · exact straight (.path whole there)
  have short' : tree.find (candidate folder name) ≠ .longName := by
    refine fun long => straight (.long long fun file inside named => ?_)
    exact unlisted (listed_iff.2 ⟨short, .inr ⟨file, inside, named⟩⟩)
  have inside : name ++ ending ∈ tree.names folder := by
    by_contra outside
    exact there ((find_candidate_eq_missing sound holds whole short short').2 outside)
  by_cases full : name = []
  · subst full
    exact straight (.empty rfl inside)
  · exact unlisted (listed_iff.2 ⟨short, .inr ⟨_, inside, stem?_eq_some.2 (.inl ⟨full, rfl⟩)⟩⟩)

theorem disagrees_of_astray (other : builtin? name = none) (astray : Astray tree folder name) :
    ¬ (tree.find (candidate folder name) = .missing ∧ tree.find folder ≠ .longName ↔ ¬ Listed tree folder name) := by
  intro agree
  have unlisted (none : ∀ file ∈ tree.names folder, stem? file ≠ some name) : ¬ Listed tree folder name := by
    intro listed
    obtain ⟨-, builtin | ⟨file, inside, named⟩⟩ := listed_iff.1 listed
    · exact not_mem_builtins other builtin
    · exact none file inside named
  cases astray with
  | folder long => exact (agree.2 fun listed => (listed_iff.1 listed).1 long).2 long
  | long long none => cases (agree.2 (unlisted none)).1.symm.trans long
  | path slash there =>
      refine there (agree.2 (unlisted fun file inside named => ?_)).1
      rcases stem?_eq_some.1 named with ⟨-, rfl⟩ | ⟨rfl, -⟩
      · exact (isPart_of_mem_names inside).whole (List.mem_append_left _ slash)
      · exact absurd slash (by decide)
  | empty empty inside =>
      subst empty
      have nameless : ∀ file ∈ tree.names folder, stem? file ≠ some [] := by
        intro file _ named
        rcases stem?_eq_some.1 named with ⟨full, -⟩ | ⟨same, -⟩
        · exact full rfl
        · cases same
      obtain ⟨missing, short⟩ := agree.2 (unlisted nameless)
      exact (find_candidate_eq_missing sound holds (by simp) short (by simp [missing])).1 missing inside
  | ending same inside missing =>
      have short : tree.find folder ≠ .longName := by simp [find_of_mem_names sound inside]
      refine agree.1 ⟨missing, short⟩ (listed_iff.2 ⟨short, .inr ⟨ending, inside, ?_⟩⟩)
      exact stem?_eq_some.2 (.inr ⟨same, rfl⟩)

end

/-- A folder with a file that is all ending, and one with a name with a dot in it. -/
def dotted : Files :=
  ⟨"/d", [(".yaml", .file []), ("a.b.yaml", .file [])]⟩

theorem sound_dotted : dotted.Sound where
  found := by simp [dotted]
  files := by simp [dotted]; decide
  paths := by decide

theorem holds_dotted : dotted.Holds "/d" :=
  ⟨rfl, List.prefix_refl _⟩

end Palette

end LogStyle
