import Mathlib.Data.List.TakeWhile
import ScriptDebugger.CommandLine.Run
import ScriptDebugger.Proofs.Text.Lines

/-!
# The working directory of a configuration

A program enters the working directory of its configuration before it reads the script.  The paths of
the configuration are taken from the directory of its file, and that directory may be relative: then the
path of the script is followed from the directory that was entered, and the script is another one than
without a working directory.  An absolute path, of the configuration file or of the script, rules that
out.
-/

namespace ScriptDebugger

/-! ## Names of joined paths -/

namespace Path

theorem isAbsolute_append {first : String} (second : String) (named : first ≠ "") :
    isAbsolute (first ++ second) = isAbsolute first := by
  unfold isAbsolute
  rw [String.toList_append]
  cases characters : first.toList with
  | nil => exact absurd (String.toList_inj.mp characters) named
  | cons c rest => rfl

/-- A path taken from a directory is absolute if it was or if the directory is. -/
theorem isAbsolute_join (directory path : String) :
    isAbsolute (join directory path) = (isAbsolute path || isAbsolute directory) := by
  unfold join
  by_cases absolute : isAbsolute path = true
  · simp [absolute]
  · rw [Bool.not_eq_true] at absolute
    simp only [absolute, Bool.false_eq_true, ↓reduceIte, Bool.false_or]
    by_cases empty : directory = ""
    · subst empty
      exact absolute
    · rw [if_neg empty]
      split
      · exact isAbsolute_append path empty
      · rw [String.append_assoc]
        exact isAbsolute_append _ empty

theorem join_ne_empty {directory : String} (path : String) (named : directory ≠ "") :
    join directory path ≠ "" := by
  unfold join
  rw [if_neg named]
  split
  case isTrue absolute =>
    rintro rfl
    cases absolute
  case isFalse => split <;> simp [named]

/-- A relative path stands behind a slash in the path that is taken from a directory. -/
theorem toList_join
    {directory path : String} (named : directory ≠ "") (relative : isAbsolute path = false) :
    ∃ base, (join directory path).toList = base ++ '/' :: path.toList ∧
      (directory.toList = base ∨ directory.toList = base ++ ['/']) := by
  unfold join
  rw [if_neg (ne_true_of_eq_false relative), if_neg named]
  split
  case isTrue ends =>
    obtain ⟨base, shape⟩ := List.getLast?_eq_some_iff.mp ends
    exact ⟨base, by simp [shape], .inr shape⟩
  case isFalse => exact ⟨directory.toList, by simp, .inl rfl⟩

theorem utf8ByteSize_le_join (directory path : String) :
    path.utf8ByteSize ≤ (join directory path).utf8ByteSize := by
  unfold join
  split
  · exact Nat.le_refl _
  · split
    · exact Nat.le_refl _
    · split <;> simp

theorem directory_ne_empty (path : String) : directory path ≠ "" := by
  unfold directory
  split
  · decide
  · decide
  · assumption

theorem isAbsolute_ofNames (names : List (List Char)) :
    isAbsolute (ofNames ([] :: names)) = true := by
  cases names with
  | nil => rfl
  | cons name rest => simp [isAbsolute, ofNames, List.intercalate]

/-- The directory of an absolute path is absolute, unless the path names nothing. -/
theorem isAbsolute_directory
    {path : String} (absolute : isAbsolute path = true)
    (named : ∃ name ∈ Text.fields '/' path.toList, staysInPlace name = false) :
    isAbsolute (directory path) = true := by
  obtain ⟨rest, shape⟩ : ∃ rest, path.toList = '/' :: rest := by
    rw [isAbsolute, beq_iff_eq] at absolute
    exact List.head?_eq_some_iff.mp absolute
  rw [shape, Text.fields, if_pos rfl] at named
  obtain ⟨name, member, goes⟩ := named
  have inside : name ∈ Text.fields '/' rest := by
    rcases List.mem_cons.mp member with rfl | inside
    · cases goes
    · exact inside
  -- The last name that leads somewhere is left out, and the first one, which is empty, stays.
  have kept : (Text.fields '/' rest).reverse.dropWhile staysInPlace ≠ [] := by
    intro none
    have stays := List.dropWhile_eq_nil_iff.mp none name (List.mem_reverse.mpr inside)
    rw [goes] at stays
    cases stays
  have parent : ∃ names, parent? path = some (ofNames ([] :: names)) := by
    unfold parent?
    rw [shape, Text.fields, if_pos rfl, dropStaying]
    cases last : ((Text.fields '/' rest).reverse.dropWhile staysInPlace).reverse with
    | nil => exact absurd (List.reverse_eq_nil_iff.mp last) kept
    | cons first others => exact ⟨_, rfl⟩
  obtain ⟨names, parent⟩ := parent
  have starts := isAbsolute_ofNames names
  unfold directory
  rw [parent]
  split
  case h_1 none => cases none
  case h_2 empty =>
    rw [Option.some.inj empty] at starts
    cases starts
  case h_3 parent _ same =>
    rw [← Option.some.inj same]
    exact starts

end Path

/-! ## Looking a path up from a place -/

namespace Disk

/-- What a path denotes for one who stands at a place. -/
def findFrom (disk : Disk) (place : Place) (path : String) : Except FileError (Place × Entry) :=
  { disk with workingDirectory := place }.find path

/-- The bytes of what was found. -/
def contents : Except FileError (Place × Entry) → Except ReadError (List UInt8)
  | .error error => .error (.opening error)
  | .ok (_, .directory) => .error (.reading .isADirectory)
  | .ok (_, .file bytes) => .ok bytes

theorem read_eq (disk : Disk) (path : String) : disk.read path = contents (disk.find path) := by
  unfold read
  rcases disk.find path with error | ⟨place, _ | bytes⟩ <;> rfl

theorem start_eq (disk : Disk) (path : String) :
    disk.start path = if Path.isAbsolute path then [] else disk.workingDirectory := by
  simp [start, Path.isAbsolute]

theorem standing_at (disk : Disk) (here place : Place) :
    Disk.entry? { disk with workingDirectory := here } place = disk.entry? place := by
  cases place <;> rfl

theorem walk_at (disk : Disk) (here place : Place) (names : List String) :
    { disk with workingDirectory := here }.walk place names = disk.walk place names := by
  induction names generalizing place with
  | nil => rfl
  | cons name rest inductionHypothesis =>
      simp only [walk, standing_at, inductionHypothesis]

/-- An absolute path denotes the same from everywhere. -/
theorem findFrom_absolute
    (disk : Disk) (place : Place) {path : String} (absolute : Path.isAbsolute path = true) :
    disk.findFrom place path = disk.find path := by
  have same : { disk with workingDirectory := place }.locate path = disk.locate path := by
    simp only [locate, start_eq, absolute, ↓reduceIte, walk_at]
  simp only [findFrom, find, same, standing_at]

theorem walk_append (disk : Disk) (place : Place) (first second : List String) :
    disk.walk place (first ++ second) =
      match disk.walk place first with
      | .error error => .error error
      | .ok reached => disk.walk reached second := by
  induction first generalizing place with
  | nil => rfl
  | cons name rest inductionHypothesis =>
      simp only [List.cons_append, walk, inductionHypothesis]
      cases disk.entry? place with
      | none => rfl
      | some entry =>
          cases entry with
          | file bytes => rfl
          | directory =>
              by_cases long : longestName < name.utf8ByteSize
              · simp only [if_pos long]
              · by_cases stays : name = "" ∨ name = "."
                · simp only [if_neg long, if_pos stays]
                · by_cases up : name = ".."
                  · simp only [if_neg long, if_neg stays, if_pos up]
                  · simp only [if_neg long, if_neg stays, if_neg up]

theorem find_eq_ok
    {disk : Disk} {path : String} {place : Place} {entry : Entry}
    (found : disk.find path = .ok (place, entry)) :
    checkPath path = .ok () ∧ disk.walk (disk.start path) (names path) = .ok place ∧
      disk.entry? place = some entry := by
  unfold find at found
  split at found
  · cases found
  · rename_i reached located
    split at found
    · cases found
    · rename_i standing
      cases found
      unfold locate at located
      split at located
      · cases located
      · rename_i checked
        exact ⟨checked, located, standing⟩

/-- Names that stay where they are lead nowhere else. -/
theorem walk_staying
    {disk : Disk} {place reached : Place} {names : List String}
    (stays : ∀ name ∈ names, name = "" ∨ name = ".")
    (walked : disk.walk place names = .ok reached) : reached = place := by
  induction names with
  | nil =>
      cases walked
      rfl
  | cons name rest inductionHypothesis =>
      unfold walk at walked
      split at walked
      · cases walked
      · cases walked
      · split at walked
        · cases walked
        · rw [if_pos (stays name List.mem_cons_self)] at walked
          exact inductionHypothesis
            (fun other member => stays other (List.mem_cons_of_mem _ member)) walked

/-- An absolute path to a file names something. -/
theorem named_of_file
    {disk : Disk} {path : String} {place : Place} {bytes : List UInt8}
    (absolute : Path.isAbsolute path = true)
    (found : disk.find path = .ok (place, .file bytes)) :
    ∃ name ∈ Text.fields '/' path.toList, Path.staysInPlace name = false := by
  apply Classical.byContradiction
  intro unnamed
  obtain ⟨_, walked, standing⟩ := find_eq_ok found
  rw [start_eq, if_pos absolute] at walked
  have root : place = [] := by
    refine walk_staying ?_ walked
    intro name member
    obtain ⟨characters, inside, rfl⟩ := List.mem_map.mp member
    have stays : Path.staysInPlace characters = true := by
      rw [← Bool.not_eq_false]
      exact fun goes => unnamed ⟨characters, inside, goes⟩
    rw [Path.staysInPlace, Bool.or_eq_true, List.isEmpty_iff, beq_iff_eq] at stays
    rcases stays with rfl | rfl
    · exact .inl rfl
    · exact .inr rfl
  rw [root] at standing
  cases standing

/-! ### Paths taken from a directory -/

theorem checkPath_eq_ok {path : String} (checked : checkPath path = .ok ()) :
    '\x00' ∉ path.toList ∧ path ≠ "" := by
  unfold checkPath at checked
  split at checked
  · cases checked
  · rename_i clean
    split at checked
    · cases checked
    · rename_i named
      exact ⟨by simpa using clean, named⟩

/-- A path taken from a directory passes the check if the path does. -/
theorem checkPath_join
    {directory path : String} (checked : checkPath directory = .ok ())
    (relative : Path.isAbsolute path = false) (named : path ≠ "")
    (short : (Path.join directory path).utf8ByteSize ≤ longestPath) :
    checkPath (Path.join directory path) = checkPath path := by
  obtain ⟨clean, directoryNamed⟩ := checkPath_eq_ok checked
  obtain ⟨base, joined, inside⟩ := Path.toList_join directoryNamed relative
  have baseClean : '\x00' ∉ base := by
    rcases inside with same | same
    · exact same ▸ clean
    · rw [same, List.mem_append] at clean
      exact fun member => clean (.inl member)
  have nul : (Path.join directory path).toList.contains '\x00' = path.toList.contains '\x00' := by
    rw [joined]
    simp [baseClean]
  have shortAlone := Nat.le_trans (Path.utf8ByteSize_le_join directory path) short
  unfold checkPath
  rw [nul, if_neg (Path.join_ne_empty path directoryNamed), if_neg (Nat.not_lt.mpr short),
    if_neg named, if_neg (Nat.not_lt.mpr shortAlone)]

/-- A relative path taken from a directory denotes what it denotes from the place of the directory. -/
theorem find_join
    {disk : Disk} {directory path : String} {place : Place}
    (found : disk.find directory = .ok (place, .directory))
    (relative : Path.isAbsolute path = false) (named : path ≠ "")
    (short : (Path.join directory path).utf8ByteSize ≤ longestPath) :
    disk.find (Path.join directory path) = disk.findFrom place path := by
  obtain ⟨checked, walked, _⟩ := find_eq_ok found
  obtain ⟨base, joined, inside⟩ := Path.toList_join (checkPath_eq_ok checked).2 relative
  have reached : disk.walk (disk.start directory)
      ((Text.fields '/' base).map String.ofList) = .ok place := by
    unfold names at walked
    rcases inside with same | same
    · exact same ▸ walked
    · -- The slash at the end of the directory only asks that a directory stands there.
      rw [same, Text.fields_append, List.map_append, walk_append] at walked
      split at walked
      · cases walked
      · rename_i middle before
        have stays := walk_staying (by simp [Text.fields]) walked
        rw [before, stays]
  have start : disk.start (Path.join directory path) = disk.start directory := by
    rw [start_eq, start_eq, Path.isAbsolute_join, relative, Bool.false_or]
  have located : disk.locate (Path.join directory path) =
      { disk with workingDirectory := place }.locate path := by
    unfold locate
    rw [checkPath_join checked relative named short, start, start_eq _ path,
      if_neg (ne_true_of_eq_false relative)]
    unfold names
    rw [joined, Text.fields_append, List.map_append, walk_append, reached]
    simp only [walk_at]
  unfold findFrom find
  rw [located]
  simp only [standing_at]

end Disk

/-! ## Starting with a configuration -/

/-- `disk.Enters path place` means that one stands at `place` after entering the directory of a path, if
there is one. -/
def Disk.Enters (disk : Disk) : Option String → Place → Prop
  | none, place => place = disk.workingDirectory
  | some path, place => disk.find path = .ok (place, .directory)

theorem Disk.create_workingDirectory
    {disk made : Disk} {path : String} (created : disk.create path = .ok made) :
    made.workingDirectory = disk.workingDirectory := by
  unfold Disk.create at created
  split at created
  · cases created
  · split at created
    · cases created
    · cases created
      rfl

theorem Disk.bind_eq
    {α β : Type} {action : StateM Disk α} {next : α → StateM Disk β} {disk changed : Disk} {value : α}
    (step : action disk = (value, changed)) : (action >>= next) disk = next value changed := by
  change (match action disk with | (value, changed) => next value changed) = _
  rw [step]

theorem Plan.enterDirectory_eq
    {plan : Plan} {disk : Disk} {place : Place}
    (enters : disk.Enters plan.workingDirectory place) :
    plan.enterDirectory Disk.fileSystem disk =
      (.ok (), { disk with workingDirectory := place }) := by
  unfold Plan.enterDirectory
  cases directory : plan.workingDirectory with
  | none =>
      rw [directory] at enters
      cases enters
      rfl
  | some path =>
      rw [directory] at enters
      have found : disk.find path = .ok (place, .directory) := enters
      have entered : Disk.fileSystem.enter path disk =
          (.ok (), { disk with workingDirectory := place }) := by
        simp only [Disk.fileSystem, Disk.update, Disk.enter, found]
      exact Disk.bind_eq entered

/-- The console of a plan with what stands where its script should be. -/
def Plan.consoleWith (plan : Plan) (found : Except FileError (Place × Entry)) :
    Except StartError Console :=
  match scriptSource plan.program (Disk.contents found) with
  | .error error => .error (.script error)
  | .ok source => .ok (Console.create source plan.breakpoints plan.stopOnEntry)

/-- What the program comes to with a console. -/
def Start.ofConsole : Except StartError Console → Start
  | .error error => .failed error
  | .ok console => .ready console

/-- The plan of a configuration, to which the arguments add. -/
def Arguments.planOf (arguments : Arguments) (configuration : Configuration) : Plan where
  program := configuration.program
  breakpoints := configuration.breakpoints ++ arguments.breakpoints
  stopOnEntry := configuration.stopOnEntry || arguments.stopOnEntry
  workingDirectory := configuration.workingDirectory

/-- `arguments.Choose disk path configuration` means that the arguments name a configuration file and
choose a configuration in it, whose paths are as they are written there. -/
structure Arguments.Choose (arguments : Arguments) (disk : Disk) (path : String)
    (configuration : Configuration) : Prop where
  given : arguments.configuration = some path
  chosen : ∃ bytes, disk.read path = .ok bytes ∧
    Launch.ofBytes arguments.name bytes = .ok (.specific configuration)

section Starting

variable {arguments : Arguments} {disk made : Disk} {path : String}
  {configuration : Configuration} {place : Place}

theorem Arguments.task_eq (choose : arguments.Choose disk path configuration) :
    arguments.task Disk.fileSystem disk =
      (.ok (.run (arguments.planOf (configuration.resolve (Path.directory path)))), disk) := by
  obtain ⟨bytes, read, chosen⟩ := choose.chosen
  have contents : Disk.fileSystem.read path disk = (.ok bytes, disk) := by
    simp only [Disk.fileSystem, read]
  have task : arguments.taskFrom path (.ok bytes) =
      .ok (.run (arguments.planOf (configuration.resolve (Path.directory path)))) := by
    simp only [Arguments.taskFrom, Launch.ofFile, chosen, Launch.Choice.resolve]
    rfl
  unfold Arguments.task
  rw [choose.given]
  refine (Disk.bind_eq contents).trans ?_
  rw [task]
  rfl

theorem Plan.start_eq (plan : Plan) (enters : disk.Enters plan.workingDirectory place) :
    plan.start Disk.fileSystem disk =
      (plan.consoleWith (disk.findFrom place plan.program),
        { disk with workingDirectory := place }) := by
  have contents : Disk.fileSystem.read plan.program { disk with workingDirectory := place } =
      (Disk.contents (disk.findFrom place plan.program),
        { disk with workingDirectory := place }) := by
    rw [Disk.findFrom, ← Disk.read_eq]
    rfl
  unfold Plan.start
  refine (Disk.bind_eq (Plan.enterDirectory_eq enters)).trans ?_
  refine (Disk.bind_eq contents).trans ?_
  unfold Plan.consoleWith
  rcases scriptSource _ _ with error | source <;> rfl

/-- The script is what its path denotes from the directory that was entered. -/
theorem Arguments.start_eq
    {plan : Plan} (logged : disk.create arguments.logPath = .ok made)
    (asked : arguments.task Disk.fileSystem made = (.ok (.run plan), made))
    (enters : made.Enters plan.workingDirectory place) :
    (arguments.start Disk.fileSystem disk).1 =
      .ofConsole (plan.consoleWith (made.findFrom place plan.program)) := by
  have created : Disk.fileSystem.create arguments.logPath disk = (.ok (), made) := by
    simp only [Disk.fileSystem, Disk.update, logged]
  have started := plan.start_eq enters
  unfold Arguments.start
  rw [Disk.bind_eq created]
  refine (congrArg Prod.fst (Disk.bind_eq asked)).trans ?_
  refine (congrArg Prod.fst (Disk.bind_eq started)).trans ?_
  cases plan.consoleWith (made.findFrom place plan.program) <;> rfl

/-- The file of the configuration is no directory. -/
theorem Arguments.Choose.isAbsolute_directory
    (choose : arguments.Choose disk path configuration) (absolute : Path.isAbsolute path = true) :
    Path.isAbsolute (Path.directory path) = true := by
  obtain ⟨bytes, read, _⟩ := choose.chosen
  rw [Disk.read_eq] at read
  rcases found : disk.find path with error | ⟨place, _ | stored⟩
  · rw [found] at read
    cases read
  · rw [found] at read
    cases read
  · exact Path.isAbsolute_directory absolute (Disk.named_of_file absolute found)

/-- The script of a configuration is what its path, taken from the directory of the configuration file,
denotes from the working directory that was entered.  If the configuration file or the script is given by
an absolute path, that is the same from everywhere, whichever working directory is set; otherwise the
path of the script is in effect taken from that of the working directory. -/
theorem script_found_from_working_directory
    (arguments : Arguments) (disk made : Disk) (path : String) (configuration : Configuration)
    (place : Place)
    (logged : disk.create arguments.logPath = .ok made)
    (choose : arguments.Choose made path configuration)
    (enters : made.Enters (configuration.resolve (Path.directory path)).workingDirectory place) :
    let resolved := configuration.resolve (Path.directory path)
    (arguments.start Disk.fileSystem disk).1 =
        .ofConsole ((arguments.planOf resolved).consoleWith (made.findFrom place resolved.program)) ∧
      (Path.isAbsolute path = true ∨
          Path.isAbsolute (Configuration.withoutFolder configuration.program) = true →
        ∀ anywhere, made.findFrom anywhere resolved.program =
          made.findFrom disk.workingDirectory resolved.program) ∧
      ∀ directory, resolved.workingDirectory = some directory →
        (Path.join directory resolved.program).utf8ByteSize ≤ Disk.longestPath →
          made.findFrom place resolved.program =
            made.findFrom disk.workingDirectory (Path.join directory resolved.program) := by
  intro resolved
  have here : ∀ wanted, made.findFrom disk.workingDirectory wanted = made.find wanted := by
    intro wanted
    rw [← Disk.create_workingDirectory logged]
    rfl
  refine ⟨Arguments.start_eq logged (Arguments.task_eq choose) enters, ?_, ?_⟩
  · intro given anywhere
    have absolute : Path.isAbsolute resolved.program = true := by
      change Path.isAbsolute (Path.join _ _) = true
      rw [Path.isAbsolute_join, Bool.or_eq_true]
      exact given.symm.imp_right choose.isAbsolute_directory
    rw [here, Disk.findFrom_absolute made anywhere absolute]
  · intro directory set short
    rw [set] at enters
    rw [here]
    cases absolute : Path.isAbsolute resolved.program with
    | true =>
        rw [Disk.findFrom_absolute made place absolute, Path.join, if_pos absolute]
    | false =>
        have named : resolved.program ≠ "" :=
          Path.join_ne_empty _ (Path.directory_ne_empty path)
        exact (Disk.find_join enters absolute named short).symm

end Starting

/-- The text of a file with one configuration, to which members can be added. -/
def configurationText (members : String) : String :=
  "[null,[\x7btype:\"textdbg\",name:\"a\",request:\"launch\",program:\"s\"" ++ members ++ "\x7d]]"

/-- A directory with a script, and below it one with another script of the same name.  Two configuration
files differ in the working directory alone. -/
def twoScripts : Disk where
  entries := [
    (["home"], .directory),
    (["home", "here"], .file (Text.utf8 (configurationText ""))),
    (["home", "below"], .file (Text.utf8 (configurationText ",cwd:\"w\""))),
    (["home", "s"], .file (Text.utf8 "right\n")),
    (["home", "w"], .directory),
    (["home", "w", "s"], .file (Text.utf8 "wrong\n"))]
  workingDirectory := ["home"]

/-- The same disk with the log file. -/
def loggedScripts : Disk :=
  { twoScripts with entries := (["home", "textdbg.log"], .file []) :: twoScripts.entries }

/-- The configuration that sets the working directory. -/
def belowConfiguration : Configuration where
  name := "a"
  request := "launch"
  program := "s"
  workingDirectory := some "w"

theorem script_found_through_absolute_path :
    twoScripts.create "textdbg.log" = .ok loggedScripts ∧
      Arguments.Choose { configuration := some "/home/below", name := some "a" } loggedScripts
        "/home/below" belowConfiguration ∧
      loggedScripts.Enters (some "/home/w") ["home", "w"] ∧
      loggedScripts.findFrom ["home", "w"] "/home/s" = loggedScripts.findFrom ["home"] "/home/s" := by
  have logged : twoScripts.create "textdbg.log" = .ok loggedScripts := by rfl
  have choice : (Launch.ofBytes (some "a") (Text.utf8 (configurationText ",cwd:\"w\""))).toOption =
      some (.specific belowConfiguration) := by decide +kernel
  have chosen : Launch.ofBytes (some "a") (Text.utf8 (configurationText ",cwd:\"w\"")) =
      .ok (.specific belowConfiguration) := by
    revert choice
    cases Launch.ofBytes (some "a") (Text.utf8 (configurationText ",cwd:\"w\"")) with
    | error => exact fun none => nomatch none
    | ok found => exact fun same => congrArg Except.ok (Option.some.inj same)
  have choose : Arguments.Choose { configuration := some "/home/below", name := some "a" }
      loggedScripts "/home/below" belowConfiguration :=
    ⟨rfl, _, by rfl, chosen⟩
  have resolved : belowConfiguration.resolve (Path.directory "/home/below") =
      { belowConfiguration with program := "/home/s", workingDirectory := some "/home/w" } := by
    decide +kernel
  have enters : loggedScripts.Enters (some "/home/w") ["home", "w"] := by rfl
  have found := (script_found_from_working_directory _ _ _ _ _ ["home", "w"] logged choose
    (resolved ▸ enters)).2.1 (.inl rfl) ["home", "w"]
  rw [resolved] at found
  exact ⟨logged, choose, enters, found⟩

/-- Through a relative path the working directory chooses another script. -/
theorem working_directory_changes_script :
    ((start Disk.fileSystem ["-c", "here", "-n", "a"] twoScripts).1.outcome []).printed =
        "> | right\n> program started\n> program completed\n" ∧
      ((start Disk.fileSystem ["-c", "below", "-n", "a"] twoScripts).1.outcome []).printed =
        "> | wrong\n> program started\n> program completed\n" := by
  decide +kernel

end ScriptDebugger
