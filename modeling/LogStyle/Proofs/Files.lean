import LogStyle.Files
import Mathlib.Data.List.Infix
import Mathlib.Data.List.TakeWhile

/-! # Entries of folders

What stands at a path depends on its parts only. So a name in a folder leads to something exactly if the folder lists
it, as long as the tree is one that there can be and no path is longer than the system takes.
-/

namespace LogStyle

namespace Text

theorem splitOn_eq (c : CodePoint) (t : Text) : splitOn c t = List.splitOn c t := by
  induction t with
  | nil => rfl
  | cons d t ih =>
      rw [splitOn, ih, List.splitOn_cons_eq_if_modifyHead]
      by_cases same : d = c
      · simp [same]
      · rw [if_neg same, if_neg (by simpa using same)]
        cases split : List.splitOn c t with
        | nil => exact absurd split (List.splitOn_ne_nil _ _)
        | cons piece pieces => rfl

theorem join_eq (separator : Text) (pieces : List Text) :
    join separator pieces = List.intercalate separator pieces := by
  induction pieces using join.induct with
  | case1 => rfl
  | case2 piece => simp [join]
  | case3 piece next pieces ih => rw [join, ih, List.intercalate_cons_cons]

theorem mem_join {c : CodePoint} {separator : Text} (other : c ∉ separator) {pieces : List Text} :
    c ∈ join separator pieces ↔ ∃ piece ∈ pieces, c ∈ piece := by
  induction pieces using join.induct with
  | case1 => simp [join]
  | case2 piece => simp [join]
  | case3 piece next pieces ih => simp [join, other, ih]

theorem exists_mem_splitOn {c d : CodePoint} (other : d ≠ c) {t : Text} :
    (∃ piece ∈ splitOn c t, d ∈ piece) ↔ d ∈ t := by
  rw [← @mem_join d [c] (by simpa using other), splitOn_eq, join_eq, List.intercalate_splitOn]

theorem not_mem_of_mem_splitOn {c : CodePoint} {t piece : Text} (member : piece ∈ splitOn c t) : c ∉ piece := by
  induction t using splitOn.induct c generalizing piece with
  | case1 =>
      obtain rfl := List.mem_singleton.1 member
      exact List.not_mem_nil
  | case2 t ih =>
      rw [splitOn, if_pos rfl] at member
      rcases List.mem_cons.1 member with rfl | later
      · exact List.not_mem_nil
      · exact ih later
  | case3 d t other first pieces split ih =>
      rw [splitOn, if_neg other, split] at member
      rw [split] at ih
      rcases List.mem_cons.1 member with rfl | later
      · simpa [Ne.symm other] using ih List.mem_cons_self
      · exact ih (List.mem_cons_of_mem _ later)
  | case4 d t other split =>
      rw [splitOn_eq] at split
      exact absurd split (List.splitOn_ne_nil _ _)

end Text

namespace Path

/-- What can be a part of a path. -/
structure IsPart (part : Text) : Prop where
  full : part ≠ []
  onward : part ≠ [.char '.']
  whole : .char '/' ∉ part

theorem mem_parts {path part : Text} :
    part ∈ parts path ↔ part ∈ Text.splitOn '/' path ∧ part ≠ [] ∧ part ≠ [.char '.'] := by
  simp [parts]

theorem isPart_of_mem_parts {path part : Text} (member : part ∈ parts path) : IsPart part := by
  obtain ⟨split, full, onward⟩ := mem_parts.1 member
  exact ⟨full, onward, Text.not_mem_of_mem_splitOn split⟩

theorem exists_mem_parts {c : CodePoint} (slash : c ≠ '/') (dot : c ≠ '.') {path : Text} :
    (∃ part ∈ parts path, c ∈ part) ↔ c ∈ path := by
  rw [← Text.exists_mem_splitOn slash]
  constructor
  · rintro ⟨part, member, inside⟩
    exact ⟨part, (mem_parts.1 member).1, inside⟩
  · rintro ⟨part, member, inside⟩
    refine ⟨part, mem_parts.2 ⟨member, List.ne_nil_of_mem inside, ?_⟩, inside⟩
    rintro rfl
    exact dot (List.mem_singleton.1 inside)

/-- A text that can be a path. -/
def Passes (path : Text) : Prop :=
  ∀ c ∈ path, takes c = true

instance : DecidablePred Passes :=
  fun path => inferInstanceAs (Decidable (∀ c ∈ path, _))

theorem passes_iff {path : Text} : Passes path ↔ path.all takes = true :=
  List.all_eq_true.symm

theorem takes_of_other {c : CodePoint} (other : c ≠ '/' → c ≠ '.' → takes c = true) : takes c = true := by
  by_cases slash : c = '/'
  · subst slash
    decide
  by_cases dot : c = '.'
  · subst dot
    decide
  exact other slash dot

theorem Passes.of_mem_parts {path part : Text} (passes : Passes path) (member : part ∈ parts path) : Passes part :=
  fun _ inside => takes_of_other fun slash dot => passes _ ((exists_mem_parts slash dot).1 ⟨part, member, inside⟩)

theorem parts_slash (path : Text) : parts (.char '/' :: path) = parts path := by
  simp [parts, Text.splitOn]

theorem parts_slashes {slashes : Text} (only : ∀ c ∈ slashes, c = '/') (path : Text) :
    parts (slashes ++ path) = parts path := by
  induction slashes with
  | nil => rfl
  | cons c slashes ih =>
      obtain ⟨rfl, rest⟩ := List.forall_mem_cons.1 only
      rw [List.cons_append, parts_slash, ih rest]

theorem parts_join {pieces : List Text} (good : ∀ piece ∈ pieces, IsPart piece) :
    parts (Text.join "/" pieces) = pieces := by
  cases pieces with
  | nil => rfl
  | cons piece pieces =>
      have split : Text.splitOn '/' (Text.join "/" (piece :: pieces)) = piece :: pieces := by
        rw [Text.splitOn_eq, Text.join_eq]
        exact List.splitOn_intercalate (.char '/') (fun piece member => (good piece member).whole) (List.cons_ne_nil _ _)
      rw [parts, split, List.filter_eq_self]
      intro piece member
      simp [(good piece member).full, (good piece member).onward]

/-- The slashes that are kept in front of an absolute path. -/
structure IsAnchor (slashes : Text) : Prop where
  only : ∀ c ∈ slashes, c = '/'
  few : slashes.length ≤ 2

theorem isAnchor_nil : IsAnchor [] :=
  ⟨by simp, by simp⟩

theorem isAnchor_anchor (path : Text) : IsAnchor (anchor path) := by
  have only : ∀ c ∈ path.takeWhile (· = .char '/'), c = '/' := by
    intro c member
    simpa using List.mem_takeWhile_imp member
  simp only [anchor]
  split
  · next two => exact ⟨only, Nat.le_of_eq two⟩
  · refine ⟨fun c member => only c (List.mem_of_mem_take member), ?_⟩
    rw [List.length_take]
    omega

theorem anchor_append {slashes : Text} (isAnchor : IsAnchor slashes) {path : Text}
    (relative : path.head? ≠ some (.char '/')) :
    anchor (slashes ++ path) = slashes := by
  have ended : path.takeWhile (· = .char '/') = [] := by
    cases path with
    | nil => rfl
    | cons c path => exact List.takeWhile_cons_of_neg (by simpa using relative)
  have taken : (slashes ++ path).takeWhile (· = .char '/') = slashes := by
    rw [List.takeWhile_append_of_pos (by simpa using isAnchor.only), ended, List.append_nil]
  simp only [anchor, taken]
  split
  · rfl
  · next other =>
      have few := isAnchor.few
      exact List.take_of_length_le (by omega)

theorem head?_join {pieces : List Text} (good : ∀ piece ∈ pieces, IsPart piece) :
    (Text.join "/" pieces).head? ≠ some (.char '/') := by
  cases pieces with
  | nil => nofun
  | cons piece pieces =>
      obtain ⟨full, -, whole⟩ := good piece List.mem_cons_self
      obtain ⟨c, piece, rfl⟩ := List.exists_cons_of_ne_nil full
      have other : c ≠ '/' := fun same => whole (same ▸ List.mem_cons_self)
      cases pieces with
      | nil => simpa [Text.join] using other
      | cons next pieces => simpa [Text.join] using other

section
variable {slashes : Text} (isAnchor : IsAnchor slashes) {pieces : List Text} (good : ∀ piece ∈ pieces, IsPart piece)
include isAnchor good

theorem parts_ofParts : parts (ofParts slashes pieces) = pieces := by
  have joined := parts_join good
  simp only [ofParts]
  split
  · next bare =>
      simp only [Bool.and_eq_true, decide_eq_true_eq] at bare
      rw [bare.2] at joined
      rw [← joined]
      rfl
  · rw [parts_slashes isAnchor.only, joined]

theorem anchor_ofParts : anchor (ofParts slashes pieces) = slashes := by
  simp only [ofParts]
  split
  · next bare =>
      simp only [Bool.and_eq_true, decide_eq_true_eq] at bare
      rw [bare.1]
      rfl
  · exact anchor_append isAnchor (head?_join good)

end

section
variable {part : Text} (isPart : IsPart part) (folder : Text)
include isPart

theorem isPart_of_mem_concat : ∀ piece ∈ parts folder ++ [part], IsPart piece := by
  intro piece member
  rcases List.mem_append.1 member with inside | last
  · exact isPart_of_mem_parts inside
  · obtain rfl := List.mem_singleton.1 last
    exact isPart

theorem under_of_isPart : under folder part = ofParts (anchor folder) (parts folder ++ [part]) := by
  have good : ∀ piece ∈ [part], IsPart piece := List.forall_mem_singleton.2 isPart
  have relative : anchor ([] ++ part) = [] := anchor_append isAnchor_nil (head?_join good)
  have single : parts part = [part] := parts_join good
  rw [under, if_pos (show anchor part = [] from relative), single]

theorem anchor_under : anchor (under folder part) = anchor folder := by
  rw [under_of_isPart isPart]
  exact anchor_ofParts (isAnchor_anchor folder) (isPart_of_mem_concat isPart folder)

theorem parts_under : parts (under folder part) = parts folder ++ [part] := by
  rw [under_of_isPart isPart]
  exact parts_ofParts (isAnchor_anchor folder) (isPart_of_mem_concat isPart folder)

theorem mem_under {c : CodePoint} (slash : c ≠ '/') (dot : c ≠ '.') : c ∈ under folder part ↔ c ∈ folder ∨ c ∈ part := by
  rw [← exists_mem_parts slash dot, parts_under isPart, ← exists_mem_parts slash dot]
  simp [or_and_right, exists_or]

theorem passes_under : Passes (under folder part) ↔ Passes folder ∧ Passes part := by
  have inside {c : CodePoint} (slash : c ≠ '/') (dot : c ≠ '.') := mem_under isPart folder slash dot
  constructor
  · intro all
    exact ⟨fun c member => takes_of_other fun slash dot => all c ((inside slash dot).2 (.inl member)),
      fun c member => takes_of_other fun slash dot => all c ((inside slash dot).2 (.inr member))⟩
  · rintro ⟨front, back⟩ c member
    refine takes_of_other fun slash dot => ?_
    rcases (inside slash dot).1 member with early | late
    · exact front c early
    · exact back c late

end

end Path

namespace Files

/-! ## Trees -/

/-- A tree that there can be: folders and files stand in it, nothing stands below a file, and every path in it can be
    a path. -/
structure Sound (f : Files) : Prop where
  found : ∀ entry ∈ f.entries, entry.2 = .folder ∨ ∃ bytes, entry.2 = .file bytes
  files : ∀ entry ∈ f.entries, ∀ bytes, entry.2 = .file bytes →
    ∀ other ∈ f.entries, Path.parts entry.1 <+: Path.parts other.1 → Path.parts other.1 = Path.parts entry.1
  paths : ∀ entry ∈ f.entries, Path.Passes entry.1

/-- A path leads into the tree. -/
structure Holds (f : Files) (path : Text) : Prop where
  anchor : Path.anchor path = Path.anchor f.root
  parts : Path.parts f.root <+: Path.parts path

variable {f : Files}

theorem findParts_eq_missing (sound : f.Sound) {parts : List Text} (below : parts ≠ []) :
    f.findParts parts = .missing ↔ ∀ entry ∈ f.entries, ¬ parts <+: Path.parts entry.1 := by
  unfold findParts
  cases first : f.entries.find? fun entry => Path.parts entry.1 = parts with
  | some entry =>
      have member := List.mem_of_find?_eq_some first
      have same : Path.parts entry.1 = parts := by simpa using List.find?_some first
      constructor
      · intro missing
        rcases sound.found entry member with folder | ⟨bytes, file⟩
        · cases folder.symm.trans missing
        · cases file.symm.trans missing
      · intro none
        exact absurd (same ▸ List.prefix_refl _) (none entry member)
  | none =>
      simp [below]

theorem findParts_of_below (sound : f.Sound) {here : List Text} {name : Text} {entry : Text × Found}
    (member : entry ∈ f.entries) (below : here ++ [name] <+: Path.parts entry.1) : f.findParts here = .folder := by
  have longer : here <+: Path.parts entry.1 := (List.prefix_append here [name]).trans below
  unfold findParts
  cases first : f.entries.find? fun entry => Path.parts entry.1 = here with
  | some other =>
      have same : Path.parts other.1 = here := by simpa using List.find?_some first
      have inside := List.mem_of_find?_eq_some first
      rcases sound.found other inside with folder | ⟨bytes, file⟩
      · exact folder
      · have whole := sound.files other inside bytes file entry member (same ▸ longer)
        rw [whole, same] at below
        exact absurd below.length_le (by simp)
  | none =>
      have some : (f.entries.any fun entry => here.isPrefixOf (Path.parts entry.1)) = true :=
        List.any_eq_true.2 ⟨entry, member, List.isPrefixOf_iff_prefix.2 longer⟩
      simp [some]

/-! ## Places -/

theorem step_ne_absolute {place : Place} (inside : ∀ parts, place ≠ .absolute parts) (part : Text) :
    ∀ parts, f.step place part ≠ .absolute parts := by
  intro parts
  cases place with
  | absolute here => exact absurd rfl (inside here)
  | nowhere | longName => nofun
  | below here =>
      simp only [step]
      split_ifs <;> nofun
  | outside =>
      simp only [step]
      split_ifs <;> nofun

theorem place_of_not_passes {path : Text} (broken : ¬ Path.Passes path) : f.place path = .nowhere := by
  rw [Path.passes_iff, Bool.not_eq_true] at broken
  simp [place, broken]

section
variable {path : Text} (passes : Path.Passes path)
include passes

theorem place_of_long (long : Path.pathLimit < Path.byteCount (Path.normal path)) : f.place path = .longName := by
  simp [place, Path.passes_iff.1 passes, long]

theorem place_of_holds (holds : f.Holds path) (short : ¬ Path.pathLimit < Path.byteCount (Path.normal path)) :
    f.place path = ((Path.parts path).drop (Path.parts f.root).length).foldl f.step (.below []) := by
  simp [place, Path.passes_iff.1 passes, short, holds.anchor, holds.parts]

end

theorem place_ne_absolute {path : Text} (holds : f.Holds path) (parts : List Text) :
    f.place path ≠ .absolute parts := by
  have walk (rest : List Text) : ∀ place : Place, (∀ parts, place ≠ .absolute parts) →
      ∀ parts, rest.foldl f.step place ≠ .absolute parts := by
    induction rest with
    | nil => exact fun place inside => inside
    | cons part rest ih => exact fun place inside => ih _ (step_ne_absolute inside part)
  by_cases passes : Path.Passes path
  · by_cases long : Path.pathLimit < Path.byteCount (Path.normal path)
    · rw [place_of_long passes long]
      nofun
    · rw [place_of_holds passes holds long]
      exact walk _ (.below []) nofun parts
  · rw [place_of_not_passes passes]
    nofun

theorem mem_names {folder name : Text} :
    name ∈ f.names folder ↔ ∃ here, f.place folder = .below here ∧
      ∃ entry ∈ f.entries, here ++ [name] <+: Path.parts entry.1 := by
  unfold names
  cases f.place folder with
  | below here =>
      simp only [List.mem_filterMap, Place.below.injEq, exists_eq_left']
      refine exists_congr fun entry => and_congr_right fun _ => ?_
      simp only [List.isPrefixOf_iff_prefix]
      constructor
      · intro listed
        split at listed
        · next below =>
            obtain ⟨rest, whole⟩ := below
            rw [← whole, List.drop_left] at listed
            obtain ⟨more, rfl⟩ := List.head?_eq_some_iff.1 listed
            exact ⟨more, by rw [← whole, List.append_assoc, List.singleton_append]⟩
        · cases listed
      · rintro ⟨more, whole⟩
        rw [List.append_assoc, List.singleton_append] at whole
        rw [← whole, if_pos (List.prefix_append _ _), List.drop_left]
        rfl
  | absolute _ | outside | nowhere | longName => simp

theorem place_under {folder name : Text} (holds : f.Holds folder) (isPart : Path.IsPart name)
    (passes : Path.Passes folder)
    (passes' : Path.Passes name) (short : ¬ Path.pathLimit < Path.byteCount (Path.normal folder))
    (short' : ¬ Path.pathLimit < Path.byteCount (Path.normal (Path.under folder name))) :
    f.place (Path.under folder name) = f.step (f.place folder) name := by
  have anchor := Path.anchor_under isPart folder
  have parts := Path.parts_under isPart folder
  have holds' : f.Holds (Path.under folder name) :=
    ⟨anchor.trans holds.anchor, parts ▸ holds.parts.trans (List.prefix_append _ _)⟩
  rw [place_of_holds ((Path.passes_under isPart folder).2 ⟨passes, passes'⟩) holds' short',
    place_of_holds passes holds short, parts, List.drop_append_of_le_length holds.parts.length_le, List.foldl_concat]

theorem step_below {name : Text} (other : name ≠ Path.up) (here : List Text) :
    f.step (.below here) name =
      if f.findParts here = .folder then
        if Path.nameLimit < Path.byteCount name then .longName else .below (here ++ [name])
      else .nowhere := by
  simp [step, other]

theorem step_outside {name : Text} (other : name ≠ Path.up) :
    f.step .outside name = if Path.nameLimit < Path.byteCount name then .longName else .nowhere := by
  simp [step, other]

section
variable {path : Text}

theorem find_of_below {parts : List Text} (place : f.place path = .below parts) : f.find path = f.findParts parts := by
  simp only [find, place]

theorem find_of_nowhere (place : f.place path = .nowhere) : f.find path = .missing := by
  simp only [find, place]

theorem find_of_longName (place : f.place path = .longName) : f.find path = .longName := by
  simp only [find, place]

theorem find_of_long (passes : Path.Passes path) (long : Path.pathLimit < Path.byteCount (Path.normal path)) :
    f.find path = .longName :=
  find_of_longName (place_of_long passes long)

theorem not_mem_names {place : Place} (found : f.place path = place) (outside : ∀ parts, place ≠ .below parts)
    (name : Text) : name ∉ f.names path := by
  rw [mem_names]
  rintro ⟨here, below, -⟩
  exact outside here (found.symm.trans below)

end

theorem find_under_eq_missing (sound : f.Sound) {folder name : Text} (holds : f.Holds folder)
    (isPart : Path.IsPart name) (other : name ≠ Path.up) (short : f.find folder ≠ .longName)
    (short' : f.find (Path.under folder name) ≠ .longName) :
    f.find (Path.under folder name) = .missing ↔ name ∉ f.names folder := by
  have both := Path.passes_under isPart folder
  by_cases passes : Path.Passes folder ∧ Path.Passes name
  swap
  · refine iff_of_true (find_of_nowhere (place_of_not_passes (mt both.1 passes))) fun listed => ?_
    obtain ⟨here, place, entry, member, below⟩ := mem_names.1 listed
    rcases not_and_or.1 passes with inFolder | inName
    · cases (place_of_not_passes inFolder).symm.trans place
    · have inside : name ∈ Path.parts entry.1 := below.subset (by simp)
      exact inName ((sound.paths entry member).of_mem_parts inside)
  have onward := place_under holds isPart passes.1 passes.2 (fun long => short (find_of_long passes.1 long))
    (fun long => short' (find_of_long (both.2 passes) long))
  cases place : f.place folder with
  | absolute parts => exact absurd place (place_ne_absolute holds parts)
  | longName => exact absurd (find_of_longName place) short
  | nowhere =>
      rw [place] at onward
      exact iff_of_true (find_of_nowhere onward) (not_mem_names place nofun name)
  | outside =>
      rw [place, step_outside other] at onward
      split at onward
      · exact absurd (find_of_longName onward) short'
      · exact iff_of_true (find_of_nowhere onward) (not_mem_names place nofun name)
  | below here =>
      rw [place, step_below other] at onward
      split at onward
      · split at onward
        · exact absurd (find_of_longName onward) short'
        · rw [find_of_below onward, findParts_eq_missing sound (by simp), mem_names]
          simp [place]
      · next closed =>
          refine iff_of_true (find_of_nowhere onward) fun listed => ?_
          obtain ⟨_, found, entry, member, below⟩ := mem_names.1 listed
          cases place.symm.trans found
          exact closed (findParts_of_below sound member below)

end Files

end LogStyle
