import ScriptDebugger.Proofs.Console.Assignments

/-!
# Written commands are read back

A command is written as its word and its arguments.  It is read back whatever blanks stand around it, after
its word and between its arguments, and every command that is read from any input can be written.
-/

namespace ScriptDebugger

open Text

/-! ## Parts of a text -/

namespace Text

theorem trim_eq_self {text : String} : trim text = text ↔ Trimmed text.toList := by
  constructor
  · intro same
    rw [← same, trim, String.toList_ofList]
    exact trimmed_trimChars text.toList
  · intro trimmed
    rw [trim, trimmed.trimChars_eq, String.ofList_toList]

theorem trimEnd_eq_self {characters : List Char} :
    trimEnd characters = characters ↔
      ∀ c, characters.getLast? = some c → isBlank c = false := by
  constructor
  · intro same c last
    rw [← same] at last
    exact isBlank_of_getLast?_trimEnd last
  · exact trimEnd_of_getLast?

/-- Between trimmed texts anything can stand. -/
theorem Trimmed.append
    {first last : List Char} (middle : List Char) (trimmedFirst : Trimmed first) (firstSolid : first ≠ [])
    (trimmedLast : Trimmed last) (lastSolid : last ≠ []) :
    Trimmed (first ++ (middle ++ last)) := by
  rintro c (start | ending)
  · rw [List.head?_append_of_ne_nil _ firstSolid] at start
    exact trimmedFirst c (Or.inl start)
  · rw [← List.append_assoc, List.getLast?_append_of_ne_nil _ lastSolid] at ending
    exact trimmedLast c (Or.inr ending)

theorem splitOnce_eq_some
    {separates : Char → Bool} {characters before after : List Char} :
    splitOnce separates characters = some (before, after) ↔
      ∃ separator, separates separator = true ∧ (∀ c ∈ before, separates c = false) ∧
        characters = before ++ separator :: after := by
  constructor
  · intro split
    rw [splitOnce] at split
    cases found : characters.dropWhile fun c => !separates c with
    | nil =>
        rw [found] at split
        cases split
    | cons separator rest =>
        rw [found] at split
        cases split
        refine ⟨separator, ?_, ?_, ?_⟩
        · simpa using head?_dropWhile (congrArg List.head? found)
        · intro c member
          simpa using List.mem_takeWhile_imp member
        · rw [← found, List.takeWhile_append_dropWhile]
  · rintro ⟨separator, separating, others, rfl⟩
    have all : ∀ c ∈ before, (!separates c) = true := by simpa using others
    have stops : ∀ c, (separator :: after).head? = some c → (!separates c) = false := by
      simpa using separating
    rw [splitOnce, dropWhile_run all stops, takeWhile_run all stops]

/-- The word between blanks is the next one. -/
theorem nextWord_run
    {blanks word rest : List Char} (blank : AllBlank blanks)
    (solid : ∀ c ∈ word, isBlank c = false) (nonempty : word ≠ [])
    (ends : ∀ c, rest.head? = some c → isBlank c = true) :
    nextWord (blanks ++ (word ++ rest)) = (word, rest) := by
  have all : ∀ c ∈ word, (!isBlank c) = true := by simpa using solid
  have stops : ∀ c, rest.head? = some c → (!isBlank c) = false := by simpa using ends
  have start : trimStart (blanks ++ (word ++ rest)) = word ++ rest := by
    apply dropWhile_run blank
    intro c first
    rw [List.head?_append_of_ne_nil _ nonempty] at first
    exact solid c (List.mem_of_head? first)
  rw [nextWord, start, takeWhile_run all stops, dropWhile_run all stops]

/-! ## Counts -/

/-- The count that characters write, with or without a plus sign. -/
def exactCount? : List Char → Option Nat
  | '+' :: digits => exactMagnitude? digits
  | digits => exactMagnitude? digits

/-- A count is read if it is in the range of counts. -/
theorem readCountChars_eq_ok {characters : List Char} {value : Nat} :
    readCountChars characters = .ok value ↔ exactCount? characters = some value ∧ value < 2 ^ 64 := by
  have range : value ≤ greatestCount ↔ value < 2 ^ 64 := by
    rw [greatestCount]
    omega
  rw [← range]
  fun_cases readCountChars characters with
  | case1 => simp [exactCount?, exactMagnitude?]
  | case2 digits => exact readMagnitude_eq_ok
  | case3 _ _ unsigned =>
      rw [exactCount?]
      · exact readMagnitude_eq_ok
      · exact unsigned

theorem readCountChars_decimal {value : Nat} (small : value < 2 ^ 64) :
    readCountChars (decimal value).toList = .ok value := by
  have digits : (decimal value).toList = Nat.toDigits 10 value := String.toList_ofList
  rw [readCountChars_eq_ok, digits, exactCount?, exactMagnitude?_toDigits]
  · exact ⟨rfl, small⟩
  · intro others shape
    have sign := isDigit_of_mem_toDigits _ (shape ▸ List.mem_cons_self)
    revert sign
    decide

theorem readIntegerChars_decimal {value : Int} (range : InRange value) :
    readIntegerChars (decimal value).toList = .ok value :=
  readIntegerChars_eq_ok.mpr ⟨exactInteger?_decimal value, range⟩

@[simp]
theorem decimal_ne_empty (value : Int) : decimal value ≠ "" := by
  cases value with
  | ofNat magnitude => simp [decimal, Nat.toDigits_ne_nil]
  | negSucc predecessor => simp [decimal]

theorem toList_decimal_ne_nil (value : Int) : (decimal value).toList ≠ [] := by
  simp

theorem trimmed_decimal (value : Int) : Trimmed (decimal value).toList :=
  trimmed_of_solid (isBlank_of_mem_decimal value)

end Text

namespace Command

/-! ## Arguments -/

theorem readArgument_eq_ok
    {α : Type} {argument : CommandArgument} {read : List Char → Except IntegerError α}
    {characters : List Char} {value : α} :
    readArgument argument read characters = .ok value ↔
      characters ≠ [] ∧ read characters = .ok value := by
  rw [readArgument]
  split
  case isTrue empty => simp [List.isEmpty_iff.mp empty]
  case isFalse solid =>
    have nonempty : characters ≠ [] := mt List.isEmpty_iff.mpr solid
    cases read characters <;> simp [nonempty]

theorem readLine_decimal {line : Nat} (small : line < 2 ^ 64) :
    readLine (decimal line).toList = .ok line :=
  readArgument_eq_ok.mpr ⟨toList_decimal_ne_nil line, readCountChars_decimal small⟩

theorem lt_of_readLine
    {characters : List Char} {line : Nat} (read : readLine characters = .ok line) :
    line < 2 ^ 64 :=
  (readCountChars_eq_ok.mp (readArgument_eq_ok.mp read).2).2

theorem readMemory_decimal
    {start : Int} {length : Nat} {gap : List Char} (range : InRange start) (small : length < 2 ^ 64)
    (blank : AllBlank gap) (apart : gap ≠ []) :
    readMemory ((decimal start).toList ++ (gap ++ (decimal length).toList)) =
      .ok (.memory start length) := by
  have first : nextWord ([] ++ ((decimal start).toList ++ (gap ++ (decimal length).toList))) =
      ((decimal start).toList, gap ++ (decimal length).toList) := by
    apply nextWord_run (by simp [AllBlank]) (isBlank_of_mem_decimal start) (toList_decimal_ne_nil start)
    intro c next
    rw [List.head?_append_of_ne_nil _ apart] at next
    exact blank c (List.mem_of_head? next)
  have second : nextWord (gap ++ ((decimal length).toList ++ [])) = ((decimal length).toList, []) :=
    nextWord_run blank (isBlank_of_mem_decimal length) (toList_decimal_ne_nil length) (by simp)
  rw [List.nil_append] at first
  rw [List.append_nil] at second
  have startRead : readArgument .startAddress readIntegerChars (decimal start).toList = .ok start :=
    readArgument_eq_ok.mpr ⟨toList_decimal_ne_nil start, readIntegerChars_decimal range⟩
  have lengthRead : readArgument .length readCountChars (decimal length).toList = .ok length :=
    readArgument_eq_ok.mpr ⟨toList_decimal_ne_nil length, readCountChars_decimal small⟩
  simp only [readMemory, first, second, startRead, lengthRead]

theorem exists_of_readMemory
    {characters : List Char} {command : Command} (read : readMemory characters = .ok command) :
    ∃ start length, command = .memory start length ∧ InRange start ∧ length < 2 ^ 64 := by
  rw [readMemory] at read
  split at read
  · cases read
  case h_2 start startRead =>
    split at read
    · cases read
    case h_2 length lengthRead =>
      cases read
      exact ⟨start, length, rfl, (readIntegerChars_eq_ok.mp (readArgument_eq_ok.mp startRead).2).2,
        (readCountChars_eq_ok.mp (readArgument_eq_ok.mp lengthRead).2).2⟩

/-- An assignment is read around its first equals sign. -/
theorem readAssignment_eq_ok {characters : List Char} {command : Command} :
    readAssignment characters = .ok command ↔
      ∃ name content, characters = name ++ '=' :: content ∧ '=' ∉ name ∧
        command = .setVariable (String.ofList (trimChars name)) (String.ofList content) := by
  constructor
  · intro read
    rw [readAssignment] at read
    split at read
    · cases read
    case h_2 name content cut =>
      cases read
      obtain ⟨separator, separating, others, rfl⟩ := splitOnce_eq_some.mp cut
      rw [beq_iff_eq] at separating
      refine ⟨name, content, by rw [separating], ?_, rfl⟩
      intro member
      simpa using others '=' member
  · rintro ⟨name, content, rfl, absent, rfl⟩
    have cut : splitOnce (· == '=') (name ++ '=' :: content) = some (name, content) := by
      refine splitOnce_eq_some.mpr ⟨'=', by decide, ?_, rfl⟩
      intro c member
      rw [beq_eq_false_iff_ne]
      rintro rfl
      exact absent member
    rw [readAssignment, cut]

/-! ## Written commands -/

/-- What a command has to be to be written: numbers in range, a trimmed name without an equals sign, a content
without blanks at its end and a trimmed expression that is not empty. -/
def Writable : Command → Prop
  | .setVariable name content =>
    trim name = name ∧ '=' ∉ name.toList ∧ trimEnd content.toList = content.toList
  | .evaluate expression => trim expression = expression ∧ expression ≠ ""
  | .memory start length => InRange start ∧ length < 2 ^ 64
  | .addBreakpoint line | .removeBreakpoint line => line < 2 ^ 64
  | .continue | .stepOver | .showVariables | .listBreakpoints | .whereabouts | .terminate | .disconnect
  | .quit | .help | .nothing => True

/-- Blanks of any kind, line feeds included. -/
abbrev Gap := { text : String // AllBlank text.toList }

/-- The blanks of a written command: around it, after its word and between its arguments.  Only the last two
have to be there. -/
structure Layout where
  before : Gap
  space : Gap
  between : Gap
  after : Gap
  apart : space.val ≠ "" ∧ between.val ≠ ""

namespace Layout

/-- The written form of a command without the blanks around it. -/
def body (layout : Layout) : Command → String
  | .setVariable name content => "set" ++ layout.space.val ++ (name ++ "=" ++ content)
  | .evaluate expression => "e" ++ layout.space.val ++ expression
  | .memory start length =>
    "m" ++ layout.space.val ++ (decimal start ++ layout.between.val ++ decimal length)
  | .addBreakpoint line => "b" ++ layout.space.val ++ decimal line
  | .removeBreakpoint line => "rb" ++ layout.space.val ++ decimal line
  | command => command.text

/-- The written form of a command. -/
def write (layout : Layout) (command : Command) : String :=
  layout.before.val ++ layout.body command ++ layout.after.val

/-- The layout with as few blanks as there can be. -/
def narrow : Layout where
  before := ⟨"", by decide⟩
  space := ⟨" ", by decide⟩
  between := ⟨" ", by decide⟩
  after := ⟨"", by decide⟩
  apart := by decide

theorem write_narrow (command : Command) : narrow.write command = command.text := by
  cases command <;> simp [write, body, narrow, Command.text, String.append_assoc]

theorem trimChars_framed (layout : Layout) {text : String} (trimmed : Trimmed text.toList) :
    trimChars (layout.before.val ++ text ++ layout.after.val).toList = text.toList := by
  rw [String.toList_append, String.toList_append, List.append_assoc,
    trimChars_prepend _ layout.before.property, trimChars_append _ layout.after.property,
    trimmed.trimChars_eq]

end Layout

section Framed

variable (layout : Layout) {word : String} (solid : word.toList.all (fun c => !isBlank c) = true)

include solid

/-- A word alone is read as the command of that word. -/
theorem parse_word : parse (layout.before.val ++ word ++ layout.after.val) = ofWord word [] := by
  rw [List.all_eq_true] at solid
  have trimmed : Trimmed word.toList := trimmed_of_solid (by simpa using solid)
  rw [parse, layout.trimChars_framed trimmed, List.takeWhile_eq_self_iff.mpr solid,
    List.dropWhile_eq_nil_iff.mpr solid, String.ofList_toList]
  rfl

/-- A word, blanks and trimmed arguments are read as the command of that word with the arguments. -/
theorem parse_arguments
    {arguments : String} (nonempty : word ≠ "") (trimmed : Trimmed arguments.toList)
    (something : arguments ≠ "") :
    parse (layout.before.val ++ (word ++ layout.space.val ++ arguments) ++ layout.after.val) =
      ofWord word arguments.toList := by
  rw [List.all_eq_true] at solid
  have whole : Trimmed (word ++ layout.space.val ++ arguments).toList := by
    rw [String.toList_append, String.toList_append, List.append_assoc]
    exact (trimmed_of_solid (by simpa using solid)).append _ (by simpa using nonempty) trimmed
      (by simpa using something)
  have stops : ∀ c, (layout.space.val.toList ++ arguments.toList).head? = some c →
      (!isBlank c) = false := by
    intro c first
    rw [List.head?_append_of_ne_nil _ (mt String.toList_eq_nil_iff.mp layout.apart.1)] at first
    simp [layout.space.property c (List.mem_of_head? first)]
  rw [parse, layout.trimChars_framed whole, String.toList_append, String.toList_append,
    List.append_assoc, takeWhile_run solid stops, dropWhile_run solid stops, String.ofList_toList,
    trimChars_prepend _ layout.space.property, trimmed.trimChars_eq]

end Framed

theorem trimmed_numbers (start length : Int) (between : String) :
    Trimmed (decimal start ++ between ++ decimal length).toList := by
  rw [String.toList_append, String.toList_append, List.append_assoc]
  exact (trimmed_decimal start).append _ (toList_decimal_ne_nil start) (trimmed_decimal length)
    (toList_decimal_ne_nil length)

theorem trimmed_assignment
    {name content : String} (trimmed : trim name = name)
    (solid : trimEnd content.toList = content.toList) :
    Trimmed (name ++ "=" ++ content).toList := by
  have characters : (name ++ "=" ++ content).toList = name.toList ++ '=' :: content.toList := by simp
  rw [characters]
  rintro c (first | last)
  · rw [List.head?_append, Option.or_eq_some_iff] at first
    rcases first with start | ⟨_, sign⟩
    · exact trim_eq_self.mp trimmed c (Or.inl start)
    · cases sign
      decide
  · rw [List.getLast?_append_of_ne_nil _ (List.cons_ne_nil _ _), List.getLast?_cons] at last
    cases ending : content.toList.getLast? with
    | none =>
        rw [ending] at last
        cases last
        decide
    | some other =>
        rw [ending] at last
        cases last
        exact trimEnd_eq_self.mp solid _ ending

/-- A command that can be written is read back from its written form. -/
theorem parse_write (layout : Layout) {command : Command} (writable : command.Writable) :
    parse (layout.write command) = .ok command := by
  cases command with
  | setVariable name content =>
      obtain ⟨trimmed, absent, solid⟩ := writable
      have characters : (name ++ "=" ++ content).toList = name.toList ++ '=' :: content.toList := by
        simp
      rw [Layout.write, Layout.body,
        parse_arguments layout (by decide) (by decide) (trimmed_assignment trimmed solid) (by simp)]
      have trimmedName : String.ofList (trimChars name.toList) = name := trimmed
      refine readAssignment_eq_ok.mpr ⟨name.toList, content.toList, characters, absent, ?_⟩
      rw [trimmedName, String.ofList_toList]
  | evaluate expression =>
      obtain ⟨trimmed, something⟩ := writable
      rw [Layout.write, Layout.body,
        parse_arguments layout (by decide) (by decide) (trim_eq_self.mp trimmed) something]
      have nonempty : ¬ expression.toList.isEmpty = true := by simpa using something
      refine (if_neg nonempty).trans ?_
      rw [String.ofList_toList]
  | memory start length =>
      obtain ⟨range, small⟩ := writable
      have characters : (decimal start ++ layout.between.val ++ decimal length).toList =
          (decimal start).toList ++ (layout.between.val.toList ++ (decimal length).toList) := by
        simp
      rw [Layout.write, Layout.body,
        parse_arguments layout (by decide) (by decide) (trimmed_numbers start length _) (by simp),
        characters]
      exact readMemory_decimal range small layout.between.property
        (mt String.toList_eq_nil_iff.mp layout.apart.2)
  | addBreakpoint line | removeBreakpoint line =>
      rw [Layout.write, Layout.body,
        parse_arguments layout (by decide) (by decide) (trimmed_decimal line) (decimal_ne_empty line)]
      exact congrArg (Except.map _) (readLine_decimal writable)
  | «continue» | stepOver | showVariables | listBreakpoints | whereabouts | terminate | disconnect | quit
  | help | nothing =>
      simp only [Layout.write, Layout.body, text]
      exact parse_word layout (by decide)

/-! ## Commands that are read -/

theorem writable_of_readAssignment
    {characters : List Char} {command : Command} (trimmed : Trimmed characters)
    (read : readAssignment characters = .ok command) :
    command.Writable := by
  obtain ⟨name, content, rfl, absent, rfl⟩ := readAssignment_eq_ok.mp read
  refine ⟨?_, ?_, ?_⟩
  · rw [trim_eq_self, String.toList_ofList]
    exact trimmed_trimChars name
  · rw [String.toList_ofList]
    intro member
    obtain ⟨before, after, _, _, parts⟩ := exists_blanks_around name
    apply absent
    rw [parts]
    exact List.mem_append_right before (List.mem_append_left after member)
  · rw [String.toList_ofList, trimEnd_eq_self]
    intro c last
    apply trimmed c
    right
    rw [List.append_cons, List.getLast?_append, last]
    rfl

theorem writable_of_ofWord
    {word : String} {rest : List Char} {command : Command} (trimmed : Trimmed rest)
    (accepted : ofWord word rest = .ok command) :
    command.Writable := by
  unfold ofWord at accepted
  split at accepted
  case h_5 => exact writable_of_readAssignment trimmed accepted
  case h_6 =>
    split at accepted
    · cases accepted
    case isFalse something =>
      cases accepted
      refine ⟨?_, by simpa using something⟩
      rw [trim_eq_self, String.toList_ofList]
      exact trimmed
  case h_7 =>
    obtain ⟨start, length, rfl, range, small⟩ := exists_of_readMemory accepted
    exact ⟨range, small⟩
  case h_8 | h_9 =>
    obtain ⟨line, read, rfl⟩ := Except.map_eq_ok accepted
    exact lt_of_readLine read
  case h_18 => cases accepted
  -- The other words take no arguments.
  all_goals
    cases accepted
    trivial

theorem writable_of_parse
    {input : String} {command : Command} (accepted : parse input = .ok command) :
    command.Writable :=
  writable_of_ofWord (trimmed_trimChars _) accepted

/-! ## Reading and writing -/

/-- A command that can be written is read back from its text and with any other blanks in it, and every
command that is read can be written. -/
theorem written_commands_read_back (command : Command) :
    (command.Writable →
      parse command.text = .ok command ∧
        ∀ layout : Layout, parse (layout.write command) = .ok command) ∧
    ∀ input, parse input = .ok command → command.Writable ∧ parse command.text = .ok command := by
  have readText (writable : command.Writable) : parse command.text = .ok command := by
    rw [← Layout.write_narrow]
    exact parse_write Layout.narrow writable
  refine ⟨?_, ?_⟩
  · intro writable
    exact ⟨readText writable, fun layout => parse_write layout writable⟩
  · intro input accepted
    have writable := writable_of_parse accepted
    exact ⟨writable, readText writable⟩

/-- The least address and the greatest length are read between wide blanks and line ends, and an assignment
with blanks and equals signs in it is read back. -/
theorem written_commands_read_back_extremes :
    (Command.memory (-2 ^ 63) (2 ^ 64 - 1)).Writable ∧
    parse "m -9223372036854775808 18446744073709551615" = .ok (.memory (-2 ^ 63) (2 ^ 64 - 1)) ∧
    parse "\n m\u3000-9223372036854775808\r\n18446744073709551615\t" =
      .ok (.memory (-2 ^ 63) (2 ^ 64 - 1)) ∧
    parse "set \u00a0a b\t=  c = d\n" = .ok (.setVariable "a b" "  c = d") ∧
    (Command.setVariable "a b" "  c = d").Writable ∧
    parse "set a b=  c = d" = .ok (.setVariable "a b" "  c = d") := by
  have writable : (Command.memory (-2 ^ 63) (2 ^ 64 - 1)).Writable := by
    refine ⟨?_, by decide⟩
    rw [InRange]
    decide
  let layout : Layout :=
    { before := ⟨"\n ", by decide⟩
      space := ⟨"\u3000", by decide⟩
      between := ⟨"\r\n", by decide⟩
      after := ⟨"\t", by decide⟩
      apart := by decide }
  have narrow : (Command.memory (-2 ^ 63) (2 ^ 64 - 1)).text =
      "m -9223372036854775808 18446744073709551615" := by decide +kernel
  have wide : layout.write (.memory (-2 ^ 63) (2 ^ 64 - 1)) =
      "\n m\u3000-9223372036854775808\r\n18446744073709551615\t" := by decide +kernel
  have read := (written_commands_read_back _).1 writable
  have accepted : parse "set \u00a0a b\t=  c = d\n" = .ok (.setVariable "a b" "  c = d") := by
    with_unfolding_all rfl
  have assigned := (written_commands_read_back _).2 _ accepted
  exact ⟨writable, narrow ▸ read.1, wide ▸ read.2 layout, accepted, assigned⟩

end Command

end ScriptDebugger
