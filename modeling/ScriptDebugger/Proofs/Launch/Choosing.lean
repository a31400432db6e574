import ScriptDebugger.Launch.Choice

/-!
# Listing and choosing configurations

The names of a configuration file are listed in one pass over its entries, and an entry is chosen by its
name in another.  Both see the same entries: those that are meant for this debugger and have a text as
their name.  A name is listed exactly if it chooses something, the first entry that offers a name decides
what it gives, and what is meant for other debuggers has no part in it.
-/

namespace ScriptDebugger.Launch

/-! ## What a file says -/

/-- Whether a version can stand beside a list of configurations. -/
inductive VersionFits : Option Jsonc.Value → Prop
  | missing : VersionFits none
  | null : VersionFits (some .null)
  | text (version : String) : VersionFits (some (.text version))

/-- `Listed value entries` means that the value is a list of configurations with these entries. -/
inductive Listed : Jsonc.Value → List Jsonc.Value → Prop
  | members {members : List (String × Jsonc.Value)} {entries : List Jsonc.Value} :
      VersionFits (Jsonc.Value.member? "version" (.object members)) →
      Jsonc.Value.member? "configurations" (.object members) = some (.array entries) →
      Listed (.object members) entries
  | pair {version : Jsonc.Value} {entries : List Jsonc.Value} :
      VersionFits (some version) →
      Listed (.array [version, .array entries]) entries

/-- `Holds value entries` means that a file with this value holds these entries: it is a list of
configurations, or, if it is none, has one as its member `launch`. -/
inductive Holds (value : Jsonc.Value) (entries : List Jsonc.Value) : Prop
  | direct :
      Listed value entries →
      Holds value entries
  | within {launch : Jsonc.Value} :
      (∀ others, ¬ Listed value others) →
      value.member? "launch" = some launch →
      Listed launch entries →
      Holds value entries

/-- `Contains bytes value` means that the bytes of a file write a value. -/
def Contains (bytes : List UInt8) (value : Jsonc.Value) : Prop :=
  ∃ text, Text.ofUtf8? bytes = some text ∧ Jsonc.read text = .ok value

/-- `Offers entry name` means that an entry is meant for this debugger and has a name. -/
def Offers (entry : Jsonc.Value) (name : String) : Prop :=
  entry.member? "type" = some (.text "textdbg") ∧ entry.member? "name" = some (.text name)

/-- `Names entries names` means that the names are those that the entries offer, in their order. -/
inductive Names : List Jsonc.Value → List String → Prop
  | nil : Names [] []
  | offered {entry : Jsonc.Value} {name : String} {later : List Jsonc.Value}
      {names : List String} :
      Offers entry name →
      Names later names →
      Names (entry :: later) (name :: names)
  | unoffered {entry : Jsonc.Value} {later : List Jsonc.Value} {names : List String} :
      (∀ name, ¬ Offers entry name) →
      Names later names →
      Names (entry :: later) names

/-- `Alike first second` means that the two lists differ only in entries for other debuggers, which may
stand anywhere in either of them. -/
inductive Alike : List Jsonc.Value → List Jsonc.Value → Prop
  | nil : Alike [] []
  | both (entry : Jsonc.Value) {first second : List Jsonc.Value} :
      Alike first second →
      Alike (entry :: first) (entry :: second)
  | left {entry : Jsonc.Value} {first second : List Jsonc.Value} :
      entry.member? "type" ≠ some (.text "textdbg") →
      Alike first second →
      Alike (entry :: first) second
  | right {entry : Jsonc.Value} {first second : List Jsonc.Value} :
      entry.member? "type" ≠ some (.text "textdbg") →
      Alike first second →
      Alike first (entry :: second)

/-! ## Shapes -/

theorem optionalText?_isSome {version : Option Jsonc.Value} :
    (∃ text, Configuration.optionalText? version = some text) ↔ VersionFits version := by
  constructor
  · rintro ⟨text, read⟩
    unfold Configuration.optionalText? at read
    split at read
    · exact .missing
    · exact .null
    · exact .text _
    · cases read
  · intro fits
    cases fits <;> exact ⟨_, rfl⟩

theorem array?_eq_some {value : Jsonc.Value} {entries : List Jsonc.Value} :
    array? value = some entries ↔ value = .array entries := by
  cases value <;> simp [array?]

theorem listed?_eq_some {value : Jsonc.Value} {entries : List Jsonc.Value} :
    listed? value = some entries ↔ Listed value entries := by
  constructor
  · intro read
    unfold listed? at read
    split at read
    case h_1 members =>
      obtain ⟨version, versionRead, rest⟩ := Option.bind_eq_some_iff.mp read
      obtain ⟨configurations, found, isArray⟩ := Option.bind_eq_some_iff.mp rest
      rw [array?_eq_some.mp isArray] at found
      exact .members (optionalText?_isSome.mp ⟨version, versionRead⟩) found
    case h_2 version configurations =>
      obtain ⟨text, versionRead, isArray⟩ := Option.bind_eq_some_iff.mp read
      rw [array?_eq_some.mp isArray]
      exact .pair (optionalText?_isSome.mp ⟨text, versionRead⟩)
    case h_3 => cases read
  · intro listed
    cases listed with
    | members fits found =>
        obtain ⟨text, versionRead⟩ := optionalText?_isSome.mpr fits
        simp [listed?, versionRead, found, array?]
    | pair fits =>
        obtain ⟨text, versionRead⟩ := optionalText?_isSome.mpr fits
        simp [listed?, versionRead, array?]

theorem listed?_eq_none {value : Jsonc.Value} :
    listed? value = none ↔ ∀ entries, ¬ Listed value entries := by
  simp only [← listed?_eq_some]
  exact Option.eq_none_iff_forall_ne_some

theorem entries?_eq_some {value : Jsonc.Value} {entries : List Jsonc.Value} :
    entries? value = some entries ↔ Holds value entries := by
  constructor
  · intro read
    unfold entries? at read
    split at read
    case h_1 found direct =>
      obtain rfl := Option.some.inj read
      exact .direct (listed?_eq_some.mp direct)
    case h_2 indirect =>
      split at read
      case h_1 launch member =>
        exact .within (listed?_eq_none.mp indirect) member (listed?_eq_some.mp read)
      case h_2 => cases read
  · intro holds
    cases holds with
    | direct listed => rw [entries?, listed?_eq_some.mpr listed]
    | within unlisted member listed =>
        rw [entries?, listed?_eq_none.mpr unlisted]
        simp only [member, listed?_eq_some.mpr listed]

/-! ## Entries -/

theorem text?_bind_eq_some {member : Option Jsonc.Value} {content : String} :
    member.bind Jsonc.Value.text? = some content ↔ member = some (.text content) := by
  cases member with
  | none => simp
  | some value => cases value <;> simp [Jsonc.Value.text?]

theorem isOurs_iff {entry : Jsonc.Value} :
    isOurs entry = true ↔ entry.member? "type" = some (.text "textdbg") := by
  rw [isOurs, beq_iff_eq, text?_bind_eq_some]
  rfl

theorem offers_iff {entry : Jsonc.Value} {name : String} :
    Offers entry name ↔ isOurs entry = true ∧ name? entry = some name := by
  rw [isOurs_iff, name?, text?_bind_eq_some]
  rfl

theorem names_filterMap (entries : List Jsonc.Value) :
    Names entries ((entries.filter isOurs).filterMap name?) := by
  induction entries with
  | nil => exact .nil
  | cons entry later inductionHypothesis =>
      cases ours : isOurs entry with
      | false =>
          rw [List.filter_cons_of_neg (by simp [ours])]
          exact .unoffered (fun name offers => by simp [offers_iff, ours] at offers)
            inductionHypothesis
      | true =>
          rw [List.filter_cons_of_pos ours]
          cases named : name? entry with
          | none =>
              rw [List.filterMap_cons_none named]
              exact .unoffered (fun name offers => by simp [offers_iff, named] at offers)
                inductionHypothesis
          | some name =>
              rw [List.filterMap_cons_some named]
              exact .offered (offers_iff.mpr ⟨ours, named⟩) inductionHypothesis

theorem Names.mem_iff
    {entries : List Jsonc.Value} {names : List String} (listed : Names entries names)
    (name : String) :
    name ∈ names ↔ ∃ entry ∈ entries, Offers entry name := by
  induction listed with
  | nil => simp
  | @offered entry other later names offers _ inductionHypothesis =>
      simp only [List.mem_cons, inductionHypothesis, exists_eq_or_imp]
      refine or_congr_left ⟨fun same => same ▸ offers, fun offersAlso => ?_⟩
      have same := offersAlso.2.symm.trans offers.2
      simpa using same
  | @unoffered entry later names others _ inductionHypothesis =>
      simp only [List.mem_cons, inductionHypothesis, exists_eq_or_imp]
      exact (or_iff_right (others name)).symm

theorem Alike.filter_eq
    {first second : List Jsonc.Value} (alike : Alike first second) :
    first.filter isOurs = second.filter isOurs := by
  induction alike with
  | nil => rfl
  | both entry _ inductionHypothesis =>
      rw [List.filter_cons, List.filter_cons, inductionHypothesis]
  | left foreign _ inductionHypothesis =>
      rw [List.filter_cons_of_neg (mt isOurs_iff.mp foreign), inductionHypothesis]
  | right foreign _ inductionHypothesis =>
      rw [List.filter_cons_of_neg (mt isOurs_iff.mp foreign), inductionHypothesis]

/-! ## The choice -/

section Choice

variable {entries before after : List Jsonc.Value} {entry : Jsonc.Value} {name : String}

/-- The first entry that offers a name decides what the name gives. -/
theorem chooseFrom_first
    (shape : entries = before ++ entry :: after) (offers : Offers entry name)
    (first : ∀ earlier ∈ before, ¬ Offers earlier name) :
    chooseFrom (some name) (entries.filter isOurs) = specific name entry := by
  have found : (entries.filter isOurs).find? (fun entry => name? entry == some name) =
      some entry := by
    rw [List.find?_filter, List.find?_eq_some_iff_append]
    refine ⟨by simpa using offers_iff.mp offers, before, after, shape, ?_⟩
    intro earlier member
    have unoffered := first earlier member
    rw [offers_iff] at unoffered
    grind
  rw [chooseFrom, found]

theorem chooseFrom_unoffered (unoffered : ∀ entry ∈ entries, ¬ Offers entry name) :
    chooseFrom (some name) (entries.filter isOurs) = .ok .notFound := by
  have missing : (entries.filter isOurs).find? (fun entry => name? entry == some name) = none := by
    rw [List.find?_filter, List.find?_eq_none]
    intro entry member
    simpa [offers_iff] using unoffered entry member
  rw [chooseFrom, missing]

theorem exists_first (offered : ∃ entry ∈ entries, Offers entry name) :
    ∃ before entry after, entries = before ++ entry :: after ∧ Offers entry name ∧
      ∀ earlier ∈ before, ¬ Offers earlier name := by
  classical
  obtain ⟨entry, member, offers⟩ := offered
  have found : (entries.find? fun entry => decide (Offers entry name)).isSome = true :=
    List.find?_isSome.mpr ⟨entry, member, decide_eq_true offers⟩
  obtain ⟨first, firstFound⟩ := Option.isSome_iff_exists.mp found
  obtain ⟨offersFirst, before, after, shape, none⟩ := List.find?_eq_some_iff_append.mp firstFound
  refine ⟨before, first, after, shape, of_decide_eq_true offersFirst, ?_⟩
  intro earlier earlierMember
  simpa using none earlier earlierMember

theorem name_of_ofValue?
    {value : Jsonc.Value} {configuration : Configuration}
    (read : Configuration.ofValue? value = some configuration) :
    name? value = some configuration.name := by
  simp only [Configuration.ofValue?, Option.bind_eq_bind, Option.bind_eq_some_iff,
    Option.pure_def, Option.some.injEq] at read
  obtain ⟨member, found, name, isText, _, _, _, _, _, _, _, _, _, _, _, _, _, _, rfl⟩ := read
  simp [name?, found, isText]

theorem specific_eq_ok
    {choice : Choice} (offers : Offers entry name) (chosen : specific name entry = .ok choice) :
    ∃ configuration, choice = .specific configuration ∧ configuration.name = name ∧
      configuration.request = "launch" := by
  unfold specific at chosen
  split at chosen
  case h_1 => cases chosen
  case h_2 configuration read =>
    split at chosen
    case isTrue launch =>
      cases chosen
      have named := (name_of_ofValue? read).symm.trans (offers_iff.mp offers).2
      exact ⟨configuration, rfl, Option.some.inj named, launch⟩
    case isFalse => cases chosen

theorem chooseFrom_ne_notFound :
    chooseFrom (some name) (entries.filter isOurs) ≠ .ok .notFound ↔
      ∃ entry ∈ entries, Offers entry name := by
  constructor
  · intro found
    refine Classical.byContradiction fun unoffered => found ?_
    exact chooseFrom_unoffered fun entry member offers => unoffered ⟨entry, member, offers⟩
  · intro offered missing
    obtain ⟨before, entry, after, shape, offers, first⟩ := exists_first offered
    rw [chooseFrom_first shape offers first] at missing
    obtain ⟨_, found, _⟩ := specific_eq_ok offers missing
    cases found

theorem chooseFrom_eq_specific
    {configuration : Configuration}
    (chosen : chooseFrom (some name) (entries.filter isOurs) = .ok (.specific configuration)) :
    configuration.name = name ∧ configuration.request = "launch" := by
  have offered : ∃ entry ∈ entries, Offers entry name :=
    chooseFrom_ne_notFound.mp (by simp [chosen])
  obtain ⟨before, entry, after, shape, offers, first⟩ := exists_first offered
  rw [chooseFrom_first shape offers first] at chosen
  obtain ⟨_, found, named, launch⟩ := specific_eq_ok offers chosen
  cases found
  exact ⟨named, launch⟩

end Choice

/-! ## Files -/

/-- `HoldsEntries bytes entries` means that the bytes of a file write a value that holds these
entries. -/
def HoldsEntries (bytes : List UInt8) (entries : List Jsonc.Value) : Prop :=
  ∃ value, Contains bytes value ∧ Holds value entries

theorem ofUtf8?_utf8 (text : String) :
    Text.ofUtf8? (Text.utf8 text) = some text := by
  have same : (⟨(Text.utf8 text).toArray⟩ : ByteArray) = text.toByteArray := by
    rw [← String.utf8Encode_toList]
    exact ByteArray.ext List.data_toByteArray.symm
  rw [Text.ofUtf8?, same, String.fromUTF8?, dif_pos text.isValidUTF8]
  rfl

theorem contains_utf8
    {text : String} {value : Jsonc.Value} (parsed : Jsonc.read text = .ok value) :
    Contains (Text.utf8 text) value :=
  ⟨text, ofUtf8?_utf8 text, parsed⟩

theorem Contains.ofBytes_eq
    {bytes : List UInt8} {value : Jsonc.Value} (contains : Contains bytes value)
    (name : Option String) :
    ofBytes name bytes = choose name value := by
  obtain ⟨text, decoded, parsed⟩ := contains
  simp only [ofBytes, decoded, ofText, parsed]

theorem Holds.choose_eq
    {value : Jsonc.Value} {entries : List Jsonc.Value} (holds : Holds value entries)
    (name : Option String) :
    choose name value = chooseFrom name (entries.filter isOurs) := by
  simp only [choose, entries?_eq_some.mpr holds]

theorem HoldsEntries.ofBytes_eq
    {bytes : List UInt8} {entries : List Jsonc.Value} (holds : HoldsEntries bytes entries)
    (name : Option String) :
    ofBytes name bytes = chooseFrom name (entries.filter isOurs) := by
  obtain ⟨value, contains, valueHolds⟩ := holds
  rw [contains.ofBytes_eq, valueHolds.choose_eq]

/-- Whether a file holds entries at all does not depend on the name that is asked for. -/
theorem holdsEntries_or_fails (bytes : List UInt8) :
    (∃ entries, HoldsEntries bytes entries) ∨ ∃ error, ∀ name, ofBytes name bytes = .error error := by
  cases decoded : Text.ofUtf8? bytes with
  | none => exact .inr ⟨_, fun name => by simp only [ofBytes, decoded]; rfl⟩
  | some text =>
      cases parsed : Jsonc.read text with
      | error cause =>
          cases cause <;> exact .inr ⟨_, fun name => by simp only [ofBytes, decoded, ofText, parsed]; rfl⟩
      | ok value =>
          have contains : Contains bytes value := ⟨text, decoded, parsed⟩
          cases found : entries? value with
          | some entries => exact .inl ⟨entries, value, contains, entries?_eq_some.mp found⟩
          | none => exact .inr ⟨.wrongShape, fun name => by
              simp only [contains.ofBytes_eq, choose, found]⟩

theorem Listed.holds_wrapped
    {value wrapper : Jsonc.Value} {entries : List Jsonc.Value} (listed : Listed value entries)
    (launch : wrapper.member? "launch" = some value)
    (bare : wrapper.member? "configurations" = none) :
    Holds wrapper entries := by
  -- Without configurations the wrapper is no list itself, and a pair has no members.
  refine .within ?_ launch listed
  intro others wrapperListed
  cases wrapperListed with
  | members _ found => simp [bare] at found
  | pair => simp [Jsonc.Value.member?] at launch

/-- Listing the names of a configuration file and choosing by a name agree.  If the file cannot be listed,
choosing fails with the same error; a file that holds entries can be listed.  The names are those that its
entries offer; a name is listed exactly if something is found under it; the first entry that offers it
decides alone; and what it chooses is a launch configuration of that name.  Entries for other debuggers
have no part in this, nor has the object that a list of configurations stands in. -/
theorem listing_and_choosing_agree (bytes : List UInt8) :
    (∀ error, ofBytes none bytes = .error error →
      ∀ name, ofBytes (some name) bytes = .error error) ∧
    (∀ entries, HoldsEntries bytes entries → ∃ choice, ofBytes none bytes = .ok choice) ∧
    (∀ choice, ofBytes none bytes = .ok choice →
      ∃ entries names, HoldsEntries bytes entries ∧ Names entries names ∧
        choice = .toBeChosen names ∧
        ∀ name,
          (name ∈ names ↔ ofBytes (some name) bytes ≠ .ok .notFound) ∧
          (∀ before entry after, entries = before ++ entry :: after → Offers entry name →
            (∀ earlier ∈ before, ¬ Offers earlier name) →
            ofBytes (some name) bytes = specific name entry) ∧
          ∀ configuration, ofBytes (some name) bytes = .ok (.specific configuration) →
            configuration.name = name ∧ configuration.request = "launch") ∧
    (∀ entries other otherEntries, HoldsEntries bytes entries → HoldsEntries other otherEntries →
      Alike entries otherEntries → ∀ name, ofBytes name other = ofBytes name bytes) ∧
    ∀ value entries wrapped wrapper, Contains bytes value → Listed value entries →
      Contains wrapped wrapper → wrapper.member? "launch" = some value →
      wrapper.member? "configurations" = none →
      ∀ name, ofBytes name wrapped = ofBytes name bytes := by
  refine ⟨?_, ?_, ?_, ?_, ?_⟩
  · intro error failed name
    rcases holdsEntries_or_fails bytes with ⟨entries, holds⟩ | ⟨cause, fails⟩
    · rw [holds.ofBytes_eq] at failed
      cases failed
    · rw [fails] at failed ⊢
      exact failed
  · intro entries holds
    exact ⟨_, holds.ofBytes_eq none⟩
  · intro choice listed
    rcases holdsEntries_or_fails bytes with ⟨entries, holds⟩ | ⟨cause, fails⟩
    · rw [holds.ofBytes_eq] at listed
      cases listed
      refine ⟨entries, _, holds, names_filterMap entries, rfl, fun name => ?_⟩
      rw [holds.ofBytes_eq, (names_filterMap entries).mem_iff]
      exact ⟨chooseFrom_ne_notFound.symm, fun _ _ _ => chooseFrom_first,
        fun _ => chooseFrom_eq_specific⟩
    · rw [fails] at listed
      cases listed
  · intro entries other otherEntries holds otherHolds alike name
    rw [holds.ofBytes_eq, otherHolds.ofBytes_eq, alike.filter_eq]
  · intro value entries wrapped wrapper contains listed wrappedContains launch bare name
    have holds : Holds wrapper entries := listed.holds_wrapped launch bare
    rw [contains.ofBytes_eq, wrappedContains.ofBytes_eq, holds.choose_eq,
      (Holds.direct listed).choose_eq]

/-- An entry as it is written in a file. -/
def writtenEntry : String :=
  "\x7b\"type\":\"textdbg\",\"name\":\"a\",\"request\":\"launch\",\"program\":\"p\"\x7d"

/-- A file that cannot be read, one with a single entry, the same one as the member `launch`, and with an
entry for no debugger before its own. -/
theorem listing_and_choosing_agree_single_entry :
    ofBytes (some "a") (Text.utf8 "[") = .error (@LoadError.malformed "[") ∧
    ofBytes (some "a") (Text.utf8 ("[null,[" ++ writtenEntry ++ "]]")) ≠ .ok .notFound ∧
    ofBytes none (Text.utf8 ("\x7b\"launch\":[null,[" ++ writtenEntry ++ "]]\x7d")) =
      .ok (.toBeChosen ["a"]) ∧
    ofBytes (some "a") (Text.utf8 ("[null,[null," ++ writtenEntry ++ "]]")) =
      .ok (.specific { name := "a", request := "launch", program := "p" }) := by
  let entry : Jsonc.Value :=
    .object [("type", .text "textdbg"), ("name", .text "a"), ("request", .text "launch"),
      ("program", .text "p")]
  have plain : Contains (Text.utf8 ("[null,[" ++ writtenEntry ++ "]]"))
      (.array [.null, .array [entry]]) :=
    contains_utf8 (by with_unfolding_all rfl)
  have wrapped : Contains (Text.utf8 ("\x7b\"launch\":[null,[" ++ writtenEntry ++ "]]\x7d"))
      (.object [("launch", .array [.null, .array [entry]])]) :=
    contains_utf8 (by with_unfolding_all rfl)
  have extended : HoldsEntries (Text.utf8 ("[null,[null," ++ writtenEntry ++ "]]"))
      [.null, entry] :=
    ⟨_, contains_utf8 (by with_unfolding_all rfl), .direct (.pair .null)⟩
  have listed : Listed (.array [.null, .array [entry]]) [entry] := .pair .null
  have alike : Alike [entry] [.null, entry] := .right nofun (.both entry .nil)
  have listing : choose none (.array [.null, .array [entry]]) = .ok (.toBeChosen ["a"]) := rfl
  obtain ⟨failing, _⟩ := listing_and_choosing_agree (Text.utf8 "[")
  obtain ⟨_, _, choosing, filtering, wrapping⟩ :=
    listing_and_choosing_agree (Text.utf8 ("[null,[" ++ writtenEntry ++ "]]"))
  refine ⟨failing _ (by with_unfolding_all rfl) "a", ?_, ?_, ?_⟩
  · obtain ⟨_, _, _, _, same, chosen⟩ := choosing _ ((plain.ofBytes_eq none).trans listing)
    cases same
    exact (chosen "a").1.mp (List.mem_singleton.mpr rfl)
  · rw [wrapping _ _ _ _ plain listed wrapped rfl rfl, plain.ofBytes_eq, listing]
  · rw [filtering _ _ _ ⟨_, plain, .direct listed⟩ extended alike, plain.ofBytes_eq]
    rfl

end ScriptDebugger.Launch
