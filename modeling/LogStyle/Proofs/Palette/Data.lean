import LogStyle.Palette.Data
import LogStyle.Proofs.Level
import LogStyle.Proofs.Program.Failure
import Mathlib.Data.List.Induction
import Mathlib.Data.List.Pairwise

/-! # Palettes that data stand for

Data are read entry by entry, and the first entry that cannot be used decides the error. `Palette.ofValue_dict` tells
which mappings are palettes, what their palettes are, and which of the others fail with an error that is not about
palettes: a key that has to be shown can be too long for that, and keys that have to be sorted need not have an order.
-/

namespace LogStyle

/-- The style of a level with a fragment for each use. -/
def LevelStyle.ofFragments (fragments : Part → Text) : LevelStyle :=
  ⟨fragments .first, fragments .trail, fragments .label⟩

@[simp] theorem LevelStyle.fragment_ofFragments (fragments : Part → Text) (part : Part) :
    (ofFragments fragments).fragment part = fragments part := by
  cases part <;> rfl

theorem LevelStyle.eq_ofFragments {style : LevelStyle} {fragments : Part → Text} :
    style = ofFragments fragments ↔ ∀ part, style.fragment part = fragments part := by
  constructor
  · rintro rfl part
    exact fragment_ofFragments fragments part
  · intro told
    rw [← (funext told : style.fragment = fragments)]
    rfl

theorem Part.name_injective : Function.Injective Part.name := by
  intro part other same
  cases part <;> cases other <;> first | rfl | exact absurd same (by decide)

namespace Palette

/-! ## What data stand for -/

/-- A key names a level whatever its case and the blanks around it. -/
def Names (key : Scalar) (level : Level) : Prop :=
  key.shown.strip.upper = level.label

instance (key : Scalar) (level : Level) : Decidable (Names key level) :=
  inferInstanceAs (Decidable (_ = _))

/-- The fields that a level is given: those of a mapping, and none by null. -/
inductive Fields : Value → List (Scalar × Value) → Prop
  | null : Fields (.scalar .null) []
  | dict (fields : List (Scalar × Value)) : Fields (.dict fields) fields

/-- The fragment that a field is given: a text, and the empty one by null. -/
inductive Fragment : Value → Text → Prop
  | null : Fragment (.scalar .null) []
  | text (t : Text) : Fragment (.scalar (.text t)) t

/-- A field can be used: its key is the name of a use and its value a fragment. -/
structure SoundField (field : Scalar × Value) : Prop where
  key : ∃ part : Part, field.1 = .text part.name
  value : ∃ t, Fragment field.2 t

/-- An entry can be used: its key names a level, and all fields that its value gives can be used. -/
structure SoundEntry (entry : Scalar × Value) : Prop where
  key : ∃ level, Names entry.1 level
  value : ∃ fields, Fields entry.2 fields ∧ ∀ field ∈ fields, SoundField field

/-- The value of the last entry whose key has a property. -/
def lastValue? (here : Scalar → Bool) (entries : List (Scalar × Value)) : Option Value :=
  (entries.reverse.find? fun entry => here entry.1).map Prod.snd

/-- The fragment that fields give to a use; without one, and by null, the empty one. -/
def given (fields : List (Scalar × Value)) (part : Part) : Text :=
  match lastValue? (· = .text part.name) fields with
  | some (.scalar (.text t)) => t
  | _ => []

/-- The fragment that entries give to a use of a level: that of the last entry for the level. -/
def told (entries : List (Scalar × Value)) (level : Level) (part : Part) : Text :=
  match lastValue? (Names · level) entries with
  | some (.dict fields) => given fields part
  | _ => []

theorem lastValue?_concat (here : Scalar → Bool) (entries : List (Scalar × Value)) (key : Scalar) (value : Value) :
    lastValue? here (entries ++ [(key, value)]) = if here key then some value else lastValue? here entries := by
  unfold lastValue?
  rw [List.reverse_append, List.reverse_singleton, List.singleton_append, List.find?_cons]
  cases here key <;> rfl

theorem given_concat {value : Value} {t : Text} (isFragment : Fragment value t) (fields : List (Scalar × Value))
    (placed : Part) :
    given (fields ++ [(.text placed.name, value)]) = fun part => if placed = part then t else given fields part := by
  funext part
  unfold given
  rw [lastValue?_concat]
  by_cases same : placed = part
  · rw [if_pos (decide_eq_true (congrArg (Scalar.text ·.name) same)), if_pos same]
    cases isFragment <;> rfl
  · have other : Scalar.text placed.name ≠ .text part.name := by
      intro key
      exact same (Part.name_injective (Scalar.text.inj key))
    rw [if_neg (by simpa using other), if_neg same]

theorem told_concat {value : Value} {fields : List (Scalar × Value)} (gives : Fields value fields)
    (entries : List (Scalar × Value)) (key : Scalar) :
    told (entries ++ [(key, value)]) = fun level => if Names key level then given fields else told entries level := by
  funext level part
  unfold told
  rw [lastValue?_concat]
  by_cases named : Names key level
  · rw [if_pos (decide_eq_true named), if_pos named]
    cases gives <;> rfl
  · rw [if_neg (by simpa using named), if_neg named]

/-! ## The fields of a level -/

theorem partOf?_eq_some {key : Scalar} {part : Part} : partOf? key = some part ↔ key = .text part.name := by
  constructor
  · intro found
    cases key with
    | text t =>
        have same := List.find?_some found
        exact congrArg Scalar.text (of_decide_eq_true same).symm
    | _ => cases found
  · rintro rfl
    cases part <;> decide

theorem fragmentOf?_eq_some {value : Value} {t : Text} : fragmentOf? value = some t ↔ Fragment value t := by
  constructor
  · intro found
    unfold fragmentOf? at found
    split at found
    · cases found
      exact .null
    · cases found
      exact .text _
    · cases found
  · rintro (_ | _) <;> rfl

theorem entriesOf?_eq_some {value : Value} {fields : List (Scalar × Value)} :
    entriesOf? value = some fields ↔ Fields value fields := by
  constructor
  · intro found
    unfold entriesOf? at found
    split at found
    · cases found
      exact .null
    · cases found
      exact .dict _
    · cases found
  · rintro (_ | _) <;> rfl

theorem place_ofFragments (fragments : Part → Text) (t : Text) (placed : Part) :
    place (.ofFragments fragments) t placed =
      .ofFragments fun part => if placed = part then t else fragments part := by
  cases placed <;> rfl

theorem readStyle_concat (key : Scalar) (fields : List (Scalar × Value)) (part : Part) (value : Value) :
    readStyle key (fields ++ [(.text part.name, value)]) = readStyle key fields >>= fun style =>
      match fragmentOf? value with
      | some t => .ok (place style t part)
      | none => .error (.notText key part.name) := by
  unfold readStyle
  rw [List.foldlM_append]
  congr 1
  funext style
  simp only [List.foldlM_cons, List.foldlM_nil, partOf?_eq_some.2 rfl]
  cases fragmentOf? value <;> rfl

theorem readStyle_eq_ok {key : Scalar} {fields : List (Scalar × Value)}
    (keys : ∀ field ∈ fields, ∃ part : Part, field.1 = .text part.name) {style : LevelStyle} :
    readStyle key fields = .ok style ↔
      (∀ field ∈ fields, ∃ t, Fragment field.2 t) ∧ style = .ofFragments (given fields) := by
  induction fields using List.reverseRecOn generalizing style with
  | nil =>
      constructor
      · rintro ⟨⟩
        exact ⟨by simp, rfl⟩
      · rintro ⟨-, rfl⟩
        rfl
  | append_singleton fields field ih =>
      obtain ⟨field, value⟩ := field
      obtain ⟨part, rfl⟩ := keys _ (List.mem_append_right _ List.mem_cons_self)
      have ih {style} := @ih (fun field member => keys field (List.mem_append_left _ member)) style
      rw [readStyle_concat, Outcome.bind_eq_ok]
      constructor
      · rintro ⟨style, read, placed⟩
        obtain ⟨values, rfl⟩ := ih.1 read
        split at placed
        · next t found =>
            have isFragment := fragmentOf?_eq_some.1 found
            cases placed
            refine ⟨?_, ?_⟩
            · intro field member
              rcases List.mem_append.1 member with inside | last
              · exact values field inside
              · obtain rfl := List.mem_singleton.1 last
                exact ⟨t, isFragment⟩
            · rw [place_ofFragments, given_concat isFragment]
        · cases placed
      · rintro ⟨values, rfl⟩
        obtain ⟨t, isFragment⟩ := values _ (List.mem_append_right _ List.mem_cons_self)
        refine ⟨_, ih.2 ⟨fun field member => values field (List.mem_append_left _ member), rfl⟩, ?_⟩
        rw [given_concat isFragment]
        simp only [fragmentOf?_eq_some.2 isFragment, place_ofFragments]

theorem exists_of_readStyle_eq_error {key : Scalar} {fields : List (Scalar × Value)} {e : DataError}
    (failed : readStyle key fields = .error e) : ∃ field, e = .notText key field := by
  unfold readStyle at failed
  generalize ({} : LevelStyle) = style at failed
  induction fields generalizing style with
  | nil => cases failed
  | cons field rest ih =>
      simp only [List.foldlM_cons] at failed
      split at failed
      · exact ih _ failed
      · cases failed
        exact ⟨_, rfl⟩
      · exact ih _ failed

/-! ## Keys in order -/

/-- The sorts of keys that have an order among them. -/
inductive KeySort where
  | number
  | text
  | bytes
  | day
  | clock
  | instant
  deriving DecidableEq

/-- The sort of a key; null has no order. -/
def sortOf? : Scalar → Option KeySort
  | .null => none
  | .bool _ | .int _ | .real _ => some .number
  | .text _ => some .text
  | .date _ => some .day
  | .moment _ none => some .clock
  | .moment _ (some _) => some .instant
  | .bytes _ => some .bytes

/-- Two keys are of one sort, so that one of them can go before the other. -/
def Comparable (a b : Scalar) : Prop :=
  ∃ sort, sortOf? a = some sort ∧ sortOf? b = some sort

theorem Comparable.symm {a b : Scalar} (comparable : Comparable a b) : Comparable b a :=
  comparable.imp fun _ ⟨left, right⟩ => ⟨right, left⟩

instance : Std.Symm Comparable := ⟨fun _ _ => Comparable.symm⟩

theorem Comparable.trans {a b c : Scalar} (left : Comparable a b) (right : Comparable b c) : Comparable a c := by
  obtain ⟨sort, here, between⟩ := left
  obtain ⟨same, between', there⟩ := right
  rw [between] at between'
  cases between'
  exact ⟨sort, here, there⟩

theorem exists_before (a b : Scalar) :
    Comparable a b ∧ (∃ first, before a b = .ok first) ∨
      ¬ Comparable a b ∧ ∃ e, before a b = .error e ∧ e.fault.kind = .type := by
  rcases a with _ | _ | _ | _ | _ | _ | ⟨_, _ | _⟩ | _ <;> rcases b with _ | _ | _ | _ | _ | _ | ⟨_, _ | _⟩ | _
  all_goals first
    | exact .inl ⟨⟨_, rfl, rfl⟩, _, rfl⟩
    | refine .inr ⟨?_, _, rfl, rfl⟩
      rintro ⟨sort, ⟨⟩, ⟨⟩⟩

theorem insertKey_of_comparable {key : Scalar} {keys : List Scalar} (comparable : ∀ k ∈ keys, Comparable key k) :
    ∃ sorted, insertKey key keys = .ok sorted ∧ sorted.Perm (key :: keys) := by
  induction keys with
  | nil => exact ⟨[key], rfl, .refl _⟩
  | cons k rest ih =>
      obtain ⟨-, first, compared⟩ | ⟨other, -⟩ := exists_before key k
      · obtain ⟨sorted, inserted, same⟩ := ih fun k member => comparable k (List.mem_cons_of_mem _ member)
        simp only [insertKey, compared, inserted, bind, Except.bind]
        cases first with
        | true => exact ⟨_, rfl, .refl _⟩
        | false => exact ⟨_, rfl, (same.cons k).trans (.swap key k rest)⟩
      · exact absurd (comparable k List.mem_cons_self) other

theorem exists_insertKey_eq_error {key k : Scalar} (other : ¬ Comparable key k) (rest : List Scalar) :
    ∃ e, insertKey key (k :: rest) = .error e ∧ e.fault.kind = .type := by
  obtain ⟨comparable, -⟩ | ⟨-, e, failed, kind⟩ := exists_before key k
  · exact absurd comparable other
  · exact ⟨e, by simp only [insertKey, failed, bind, Except.bind], kind⟩

/-- Keys can be put in order exactly if any two of them are of one sort: whatever has been sorted before, a key is
    compared with some key of it. -/
theorem exists_sortKeys (keys : List Scalar) :
    (keys.Pairwise Comparable ∧ ∃ sorted, sortKeys keys = .ok sorted ∧ sorted.Perm keys) ∨
      (¬ keys.Pairwise Comparable ∧ ∃ e, sortKeys keys = .error e ∧ e.fault.kind = .type) := by
  induction keys using List.reverseRecOn with
  | nil => exact .inl ⟨.nil, [], rfl, .refl _⟩
  | append_singleton keys key ih =>
      have step : sortKeys (keys ++ [key]) = sortKeys keys >>= insertKey key := by
        unfold sortKeys
        rw [List.foldlM_append]
        congr 1
        funext sorted
        simp only [List.foldlM_cons, List.foldlM_nil, bind_pure]
      rw [step, List.pairwise_append]
      obtain ⟨pairs, sorted, ordered, same⟩ | ⟨apart, e, failed, kind⟩ := ih
      · rw [ordered]
        by_cases comparable : ∀ k ∈ keys, Comparable key k
        · obtain ⟨whole, inserted, perm⟩ := insertKey_of_comparable fun k member => comparable k (same.subset member)
          refine .inl ⟨⟨pairs, List.pairwise_singleton _ _, ?_⟩, whole, inserted, ?_⟩
          · intro k member other last
            obtain rfl := List.mem_singleton.1 last
            exact (comparable k member).symm
          · exact perm.trans ((same.cons key).trans (List.perm_append_singleton key keys).symm)
        · push Not at comparable
          obtain ⟨k, member, other⟩ := comparable
          obtain ⟨first, rest, rfl⟩ := List.exists_cons_of_ne_nil
            (List.ne_nil_of_mem (same.symm.subset member))
          -- The key that is compared first is of one sort with all others, so the new one is not of its sort.
          have strange : ¬ Comparable key first := by
            intro comparable
            have inside : first ∈ keys := same.subset List.mem_cons_self
            by_cases equal : first = k
            · exact other (equal ▸ comparable)
            · exact other (comparable.trans (pairs.forall inside member equal))
          obtain ⟨e, failed, kind⟩ := exists_insertKey_eq_error strange rest
          refine .inr ⟨fun ⟨_, _, all⟩ => ?_, e, failed, kind⟩
          exact other (all k member key List.mem_cons_self).symm
      · refine .inr ⟨fun ⟨pairs, _⟩ => apart pairs, e, ?_, kind⟩
        rw [failed]
        rfl

/-! ## Entries -/

/-- The keys of fields that are the name of no use. -/
def strays (fields : List (Scalar × Value)) : List Scalar :=
  (fields.map Prod.fst).filter fun key => Part.all.all fun part => key ≠ .text part.name

theorem strays_eq (fields : List (Scalar × Value)) :
    (fields.map (·.1)).filter (fun key => (partOf? key).isNone) = strays fields := by
  unfold strays
  congr 1
  funext key
  rw [Bool.eq_iff_iff, Option.isNone_iff_eq_none, Option.eq_none_iff_forall_ne_some]
  simp only [ne_eq, partOf?_eq_some, List.all_eq_true, Part.mem_all, decide_eq_true_eq, forall_const]

theorem strays_eq_nil {fields : List (Scalar × Value)} :
    strays fields = [] ↔ ∀ field ∈ fields, ∃ part : Part, field.1 = .text part.name := by
  simp [strays]

/-- The error of an entry cannot be put into words: the key that is no level, or one that is no use, is too long to be
    shown, or the keys that are no uses cannot be sorted. -/
inductive Unspeakable : Scalar × Value → Prop
  | level {key : Scalar} {value : Value} :
      (∀ level, ¬ Names key level) → isLongKey key = true → Unspeakable (key, value)
  | order {key : Scalar} {level : Level} {fields : List (Scalar × Value)} :
      Names key level → ¬ (strays fields).Pairwise Comparable → Unspeakable (key, .dict fields)
  | field {key stray : Scalar} {level : Level} {fields : List (Scalar × Value)} :
      Names key level → stray ∈ strays fields → isLongKey stray = true → Unspeakable (key, .dict fields)

theorem kind_faultShowing (keys : List Scalar) (message : Text) :
    (faultShowing keys message).kind = .theme ↔ ∀ key ∈ keys, isLongKey key = false := by
  unfold faultShowing
  by_cases long : keys.any isLongKey = true
  · rw [if_pos long]
    obtain ⟨key, member, long⟩ := List.any_eq_true.1 long
    refine ⟨fun kind => (nomatch kind), fun short => ?_⟩
    rw [short key member] at long
    cases long
  · rw [if_neg long]
    refine ⟨fun _ key member => ?_, fun _ => rfl⟩
    by_contra other
    exact long (List.any_eq_true.2 ⟨key, member, by simpa using other⟩)

theorem unspeakable_of_unnamed {key : Scalar} {value : Value} (none : ∀ level, ¬ Names key level) :
    Unspeakable (key, value) ↔ isLongKey key = true := by
  constructor
  · rintro (⟨-, long⟩ | ⟨named, -⟩ | ⟨named, -, -⟩)
    · exact long
    · exact absurd named (none _)
    · exact absurd named (none _)
  · exact .level none

theorem unspeakable_dict {key : Scalar} {level : Level} (named : Names key level) {fields : List (Scalar × Value)} :
    Unspeakable (key, .dict fields) ↔
      ¬ ((strays fields).Pairwise Comparable ∧ ∀ stray ∈ strays fields, isLongKey stray = false) := by
  constructor
  · rintro (⟨none, -⟩ | ⟨-, apart⟩ | ⟨-, member, long⟩) ⟨comparable, short⟩
    · exact none level named
    · exact apart comparable
    · rw [short _ member] at long
      cases long
  · intro unclear
    by_cases comparable : (strays fields).Pairwise Comparable
    · have long : ¬ ∀ stray ∈ strays fields, isLongKey stray = false := fun short => unclear ⟨comparable, short⟩
      push Not at long
      obtain ⟨stray, member, long⟩ := long
      exact .field named member (by simpa using long)
    · exact .order named comparable

theorem not_unspeakable_of_other {key : Scalar} {value : Value} {level : Level} (named : Names key level)
    (other : ∀ fields, value ≠ .dict fields) : ¬ Unspeakable (key, value) := by
  rintro (⟨none, -⟩ | ⟨-, -⟩ | ⟨-, -, -⟩)
  · exact none level named
  · exact other _ rfl
  · exact other _ rfl

section
variable {key : Scalar} {value : Value} {level : Level} {fields : List (Scalar × Value)}

theorem readEntry_of_unnamed (none : ∀ level, ¬ Names key level) :
    readEntry key value = .error (.unknownLevel key) := by
  unfold readEntry
  cases named : Level.ofName? key.shown with
  | none => rfl
  | some level => exact absurd (Level.ofName?_eq_some.1 named) (none level)

theorem readEntry_of_no_fields (named : Names key level) (none : ∀ fields, ¬ Fields value fields) :
    readEntry key value = .error (.notMapping key) := by
  unfold readEntry
  rw [Level.ofName?_eq_some.2 named]
  cases entries : entriesOf? value with
  | none => rfl
  | some fields => exact absurd (entriesOf?_eq_some.1 entries) (none fields)

theorem readEntry_of_known (named : Names key level) (gives : Fields value fields) (known : strays fields = []) :
    readEntry key value = (readStyle key fields).map (level, ·) := by
  unfold readEntry
  rw [Level.ofName?_eq_some.2 named, entriesOf?_eq_some.2 gives]
  simp only [strays_eq, known]
  cases readStyle key fields <;> rfl

theorem readEntry_of_strays (named : Names key level) (gives : Fields value fields) (strange : strays fields ≠ []) :
    readEntry key value = sortKeys (strays fields) >>= fun sorted => .error (.unknownFields key sorted) := by
  unfold readEntry
  rw [Level.ofName?_eq_some.2 named, entriesOf?_eq_some.2 gives]
  simp only [strays_eq, if_pos strange]
  cases sortKeys (strays fields) <;> rfl

theorem readEntry_of_strays_cases (named : Names key level) (strange : strays fields ≠ []) :
    ∃ e, readEntry key (.dict fields) = .error e ∧
      (e.fault.kind = .theme ↔ ¬ Unspeakable (key, .dict fields)) := by
  rw [readEntry_of_strays named (.dict fields) strange, unspeakable_dict named, not_not]
  obtain ⟨comparable, sorted, ordered, same⟩ | ⟨apart, e, failed, kind⟩ := exists_sortKeys (strays fields)
  · rw [ordered]
    refine ⟨_, rfl, (kind_faultShowing sorted _).trans ?_⟩
    rw [and_iff_right comparable]
    exact forall_congr' fun stray => imp_congr_left same.mem_iff
  · rw [failed]
    refine ⟨e, rfl, iff_of_false ?_ fun ⟨comparable, _⟩ => apart comparable⟩
    rw [kind]
    decide

end

theorem readEntry_of_sound {key : Scalar} {value : Value} (sound : SoundEntry (key, value)) :
    ∃ level fields, Names key level ∧ Fields value fields ∧
      readEntry key value = .ok (level, .ofFragments (given fields)) := by
  obtain ⟨⟨level, named⟩, fields, gives, sound⟩ := sound
  have keys : ∀ field ∈ fields, ∃ part : Part, field.1 = .text part.name := fun field member => (sound field member).key
  have read : readStyle key fields = .ok (.ofFragments (given fields)) :=
    (readStyle_eq_ok keys).2 ⟨fun field member => (sound field member).value, rfl⟩
  refine ⟨level, fields, named, gives, ?_⟩
  rw [readEntry_of_known named gives (strays_eq_nil.2 keys), read]
  rfl

theorem readEntry_of_not_sound {key : Scalar} {value : Value} (unsound : ¬ SoundEntry (key, value)) :
    ∃ e, readEntry key value = .error e ∧ (e.fault.kind = .theme ↔ ¬ Unspeakable (key, value)) := by
  by_cases some : ∃ level, Names key level
  · obtain ⟨level, named⟩ := some
    by_cases gives : ∃ fields, Fields value fields
    · obtain ⟨fields, gives⟩ := gives
      by_cases known : strays fields = []
      · have speakable : ¬ Unspeakable (key, value) := by
          cases gives with
          | null => exact not_unspeakable_of_other named nofun
          | dict fields => simp [unspeakable_dict named, known]
        rw [readEntry_of_known named gives known]
        cases read : readStyle key fields with
        | ok style =>
            have keys := strays_eq_nil.1 known
            obtain ⟨values, -⟩ := (readStyle_eq_ok keys).1 read
            refine absurd ⟨⟨level, named⟩, fields, gives, fun field member => ?_⟩ unsound
            exact ⟨keys field member, values field member⟩
        | error e =>
            obtain ⟨field, rfl⟩ := exists_of_readStyle_eq_error read
            exact ⟨_, rfl, iff_of_true rfl speakable⟩
      · cases gives with
        | null => exact absurd rfl known
        | dict fields => exact readEntry_of_strays_cases named known
    · have none : ∀ fields, ¬ Fields value fields := not_exists.1 gives
      have other : ∀ fields, value ≠ .dict fields := fun fields same => none fields (same ▸ .dict fields)
      exact ⟨_, readEntry_of_no_fields named none, iff_of_true rfl (not_unspeakable_of_other named other)⟩
  · have none : ∀ level, ¬ Names key level := not_exists.1 some
    refine ⟨_, readEntry_of_unnamed none, (kind_faultShowing [key] _).trans ?_⟩
    rw [unspeakable_of_unnamed none, Bool.not_eq_true]
    exact List.forall_mem_singleton

/-! ## Whole palettes -/

theorem names_iff {key : Scalar} {level : Level} (named : Names key level) (other : Level) :
    Names key other ↔ other = level := by
  unfold Names at named ⊢
  rw [named]
  cases level <;> cases other <;> decide

theorem set_ofFragments (fragments : Level → Part → Text) (level : Level) (others : Part → Text) :
    set (fun l => .ofFragments (fragments l)) level (.ofFragments others) =
      fun l => .ofFragments (if l = level then others else fragments l) := by
  funext l
  unfold set
  split <;> rfl

def add (p : Palette) (entry : Scalar × Value) : Except DataError Palette :=
  (readEntry entry.1 entry.2).map fun read => p.set read.1 read.2

theorem ofEntries_eq (entries : List (Scalar × Value)) : ofEntries entries = entries.foldlM add empty := rfl

theorem ofEntries_of_sound {entries : List (Scalar × Value)} (sound : ∀ entry ∈ entries, SoundEntry entry) :
    ofEntries entries = .ok fun level => .ofFragments (told entries level) := by
  rw [ofEntries_eq]
  induction entries using List.reverseRecOn with
  | nil => rfl
  | append_singleton entries entry ih =>
      obtain ⟨key, value⟩ := entry
      obtain ⟨level, fields, named, gives, read⟩ :=
        readEntry_of_sound (sound _ (List.mem_append_right _ List.mem_cons_self))
      rw [List.foldlM_append, ih fun entry member => sound entry (List.mem_append_left _ member), told_concat gives]
      simp only [List.foldlM_cons, List.foldlM_nil, bind_pure, add, read, names_iff named]
      exact congrArg Except.ok (set_ofFragments _ _ _)

/-- The first entry that cannot be used. -/
def FirstUnsound (entries : List (Scalar × Value)) (entry : Scalar × Value) : Prop :=
  ∃ front back, entries = front ++ entry :: back ∧ (∀ entry ∈ front, SoundEntry entry) ∧ ¬ SoundEntry entry

theorem exists_firstUnsound {entries : List (Scalar × Value)} (unsound : ∃ entry ∈ entries, ¬ SoundEntry entry) :
    ∃ entry, FirstUnsound entries entry := by
  induction entries with
  | nil => simp at unsound
  | cons first rest ih =>
      by_cases sound : SoundEntry first
      · obtain ⟨entry, member, unsound⟩ := unsound
        rcases List.mem_cons.1 member with rfl | later
        · exact absurd sound unsound
        · obtain ⟨entry, front, back, rfl, all, unsound⟩ := ih ⟨entry, later, unsound⟩
          refine ⟨entry, first :: front, back, rfl, fun other inside => ?_, unsound⟩
          rcases List.mem_cons.1 inside with rfl | inside
          · exact sound
          · exact all other inside
      · exact ⟨first, [], rest, rfl, by simp, sound⟩

theorem ofEntries_of_firstUnsound {entries : List (Scalar × Value)} {entry : Scalar × Value}
    (first : FirstUnsound entries entry) :
    ∃ e, ofEntries entries = .error e ∧ (e.fault.kind = .theme ↔ ¬ Unspeakable entry) := by
  obtain ⟨front, back, rfl, sound, unsound⟩ := first
  obtain ⟨e, failed, kind⟩ := readEntry_of_not_sound unsound
  refine ⟨e, ?_, kind⟩
  have read := ofEntries_of_sound sound
  rw [ofEntries_eq] at read
  rw [ofEntries_eq, List.foldlM_append, read]
  simp only [List.foldlM_cons, add, failed, Except.map, bind, Except.bind]

theorem ofValue_of_sound {entries : List (Scalar × Value)} (sound : ∀ entry ∈ entries, SoundEntry entry) :
    ofValue (.dict entries) = .ok fun level => .ofFragments (told entries level) :=
  congrArg (Except.mapError DataError.fault) (ofEntries_of_sound sound)

theorem ofValue_of_firstUnsound {entries : List (Scalar × Value)} {entry : Scalar × Value}
    (first : FirstUnsound entries entry) :
    ∃ fault, ofValue (.dict entries) = .error fault ∧ (fault.kind = .theme ↔ ¬ Unspeakable entry) := by
  obtain ⟨e, failed, kind⟩ := ofEntries_of_firstUnsound first
  exact ⟨e.fault, congrArg (Except.mapError DataError.fault) failed, kind⟩

theorem sound_or_exists_firstUnsound (entries : List (Scalar × Value)) :
    (∀ entry ∈ entries, SoundEntry entry) ∨ ∃ entry, FirstUnsound entries entry := by
  by_cases sound : ∀ entry ∈ entries, SoundEntry entry
  · exact .inl sound
  · push Not at sound
    exact .inr (exists_firstUnsound sound)

theorem FirstUnsound.exists_mem {entries : List (Scalar × Value)} {entry : Scalar × Value}
    (first : FirstUnsound entries entry) : ∃ entry ∈ entries, ¬ SoundEntry entry := by
  obtain ⟨front, back, rfl, -, unsound⟩ := first
  exact ⟨entry, List.mem_append_right _ List.mem_cons_self, unsound⟩

theorem ofValue_eq_ok {entries : List (Scalar × Value)} {p : Palette} :
    ofValue (.dict entries) = .ok p ↔
      (∀ entry ∈ entries, SoundEntry entry) ∧ ∀ level part, (p level).fragment part = told entries level part := by
  rcases sound_or_exists_firstUnsound entries with sound | ⟨entry, first⟩
  · rw [ofValue_of_sound sound, Except.ok.injEq, and_iff_right sound]
    constructor
    · rintro rfl level part
      exact LevelStyle.fragment_ofFragments _ part
    · intro told
      funext level
      exact (LevelStyle.eq_ofFragments.2 (told level)).symm
  · obtain ⟨fault, failed, -⟩ := ofValue_of_firstUnsound first
    obtain ⟨other, member, unsound⟩ := first.exists_mem
    rw [failed]
    exact ⟨fun read => (nomatch read), fun ⟨sound, _⟩ => absurd (sound other member) unsound⟩

theorem exists_ofValue_eq_error {entries : List (Scalar × Value)} :
    (∃ fault, ofValue (.dict entries) = .error fault) ↔ ∃ entry ∈ entries, ¬ SoundEntry entry := by
  constructor
  · rintro ⟨fault, failed⟩
    rcases sound_or_exists_firstUnsound entries with sound | ⟨entry, first⟩
    · cases (ofValue_of_sound sound).symm.trans failed
    · exact first.exists_mem
  · intro unsound
    obtain ⟨entry, first⟩ := exists_firstUnsound unsound
    obtain ⟨fault, failed, -⟩ := ofValue_of_firstUnsound first
    exact ⟨fault, failed⟩

theorem escapes_ofValue {entries : List (Scalar × Value)} :
    Escapes (ofValue (.dict entries)) [.theme] ↔ ∃ entry, FirstUnsound entries entry ∧ Unspeakable entry := by
  constructor
  · rintro ⟨other, failed', strange⟩
    rcases sound_or_exists_firstUnsound entries with sound | ⟨entry, first⟩
    · cases (ofValue_of_sound sound).symm.trans failed'
    · obtain ⟨fault, failed, kind⟩ := ofValue_of_firstUnsound first
      cases failed.symm.trans failed'
      refine ⟨entry, first, ?_⟩
      by_contra speakable
      exact strange (by simpa using kind.2 speakable)
  · rintro ⟨entry, first, unspeakable⟩
    obtain ⟨fault, failed, kind⟩ := ofValue_of_firstUnsound first
    refine ⟨fault, failed, fun expected => ?_⟩
    exact kind.1 (by simpa using expected) unspeakable

/-- A mapping is a palette exactly if all its entries can be used. The palette has the fragments that the last
    entry for each level gives. The error of another mapping is one about palettes, unless that of the first entry
    that cannot be used cannot be put into words. -/
theorem ofValue_dict (entries : List (Scalar × Value)) :
    (∀ p, ofValue (.dict entries) = .ok p ↔
      (∀ entry ∈ entries, SoundEntry entry) ∧ ∀ level part, (p level).fragment part = told entries level part) ∧
    ((∃ fault, ofValue (.dict entries) = .error fault) ↔ ∃ entry ∈ entries, ¬ SoundEntry entry) ∧
    (Escapes (ofValue (.dict entries)) [.theme] ↔ ∃ entry, FirstUnsound entries entry ∧ Unspeakable entry) :=
  ⟨fun _ => ofValue_eq_ok, exists_ofValue_eq_error, escapes_ofValue⟩

/-- A day and a time have no order between them, so that both cannot be told as keys that are no uses. -/
theorem escapes_of_day_and_clock :
    Escapes (ofValue (.dict [(.text "error", .dict [(.date ⟨2001, 1, 1⟩, .ofText "a"),
      (.moment ⟨⟨2001, 1, 1⟩, 0, 0, 0, 0⟩ none, .ofText "b")])])) [.theme] :=
  ⟨⟨.type, "can't compare datetime.datetime to datetime.date"⟩, rfl, by decide⟩

end Palette

end LogStyle
