import ScriptDebugger.Proofs.Expression.Words

/-!
# Scanning is exact

A scanned text is made of the words of its tokens, each as long as it can be, and of blanks.  Tokens that
are written with blanks between them are scanned back at the places where they stand.  Scanning fails only
at a character that starts no token or at a number that is too large, after a text that can be scanned.
-/

namespace ScriptDebugger

open Text

/-! ## Scanned texts -/

/-- A token with the text that writes it and the byte offset of this text. -/
structure Word where
  offset : Nat
  text : String
  token : Token

/-- What scanning gives for a word. -/
def Word.lexeme (word : Word) : Lexeme :=
  ⟨word.offset, word.token⟩

/-- `Scans rest offset characters words` means that the characters from the byte offset on consist of
blanks and of the words, if `rest` follows them. -/
inductive Scans (rest : List Char) : Nat → List Char → List Word → Prop
  | done (offset : Nat) : Scans rest offset [] []
  | blank {offset : Nat} {c : Char} {characters : List Char} {words : List Word} :
      isBlank c = true →
      Scans rest (offset + c.utf8Size) characters words →
      Scans rest offset (c :: characters) words
  | word {characters : List Char} {words : List Word} (word : Word) :
      word.token.SpelledBy word.text.toList →
      word.token.EndsBefore (characters ++ rest) →
      Scans rest (word.offset + byteLength word.text.toList) characters words →
      Scans rest word.offset (word.text.toList ++ characters) (word :: words)

section Scans

variable {rest characters : List Char} {offset : Nat} {words : List Word}

theorem Scans.blanks
    {gap : List Char} (blank : AllBlank gap)
    (scans : Scans rest (offset + byteLength gap) characters words) :
    Scans rest offset (gap ++ characters) words := by
  induction gap generalizing offset with
  | nil => exact scans
  | cons c gap inductionHypothesis =>
      obtain ⟨first, later⟩ := blank.of_cons
      rw [byteLength_cons, ← Nat.add_assoc] at scans
      exact .blank first (inductionHypothesis later scans)

/-- What scans before other characters scans alone. -/
theorem Scans.alone (scans : Scans rest offset characters words) :
    Scans [] offset characters words := by
  induction scans with
  | done offset => exact .done offset
  | blank isBlank _ inductionHypothesis => exact .blank isBlank inductionHypothesis
  | @word characters words word spelled ends _ inductionHypothesis =>
      refine .word word spelled ?_ inductionHypothesis
      intro c next
      apply ends c
      rw [List.append_nil] at next
      rw [List.head?_append, next]
      rfl

theorem Scans.of_read
    {first : Char} {others : List Char} {reading : Token.Reading}
    (success : Token.read offset first others = .ok reading)
    (shape : reading.rest = characters ++ rest)
    (scans : Scans rest (offset + byteLength reading.characters) characters words) :
    Scans rest offset (reading.characters ++ characters)
      (⟨offset, String.ofList reading.characters, reading.token⟩ :: words) := by
  obtain ⟨spelled, ends⟩ := Token.spelledBy_of_read success
  have extended : Scans rest offset ((String.ofList reading.characters).toList ++ characters)
      (⟨offset, String.ofList reading.characters, reading.token⟩ :: words) := by
    apply Scans.word ⟨offset, String.ofList reading.characters, reading.token⟩
    · rwa [String.toList_ofList]
    · rwa [← shape]
    · rwa [String.toList_ofList]
  rwa [String.toList_ofList] at extended

/-- Words are scanned as such, and scanning goes on after them. -/
theorem Scans.scanFrom_eq
    (scans : Scans rest offset characters words) (found : Array Lexeme) :
    scanFrom offset found (characters ++ rest) =
      scanFrom (offset + byteLength characters) (found ++ (words.map Word.lexeme).toArray) rest := by
  induction scans generalizing found with
  | done offset => simp
  | @blank offset c characters words isBlank _ inductionHypothesis =>
      rw [List.cons_append, scanFrom, if_pos isBlank, inductionHypothesis, byteLength_cons,
        Nat.add_assoc]
  | @word characters words word spelled ends _ inductionHypothesis =>
      obtain ⟨first, others, shape, solid⟩ := spelled.cons
      have read : Token.read word.offset first (others ++ (characters ++ rest)) =
          .ok ⟨word.token, first :: others, characters ++ rest⟩ :=
        Token.read_of_spelledBy word.offset (shape ▸ spelled) ends
      rw [shape] at inductionHypothesis ⊢
      rw [List.append_assoc, List.cons_append,
        scanFrom_solid word.offset found _ (by simp [solid]), read]
      simp only [Except.bind]
      rw [inductionHypothesis, byteLength_append, Nat.add_assoc]
      simp [Word.lexeme]

/-- A text consists of words and blanks, or what follows words and blanks starts no token that can be
read. -/
theorem scanFrom_outcome (offset : Nat) (found : Array Lexeme) (characters : List Char) :
    (∃ words, Scans [] offset characters words) ∨
      ∃ before first rest words error, characters = before ++ first :: rest ∧
        isBlank first = false ∧ Scans (first :: rest) offset before words ∧
          Token.read (offset + byteLength before) first rest = .error error ∧
            scanFrom offset found characters = .error error := by
  fun_induction scanFrom offset found characters with
  | case1 offset found => exact Or.inl ⟨[], .done offset⟩
  | case2 offset found first rest blank inductionHypothesis =>
      rcases inductionHypothesis with ⟨words, scans⟩ |
        ⟨before, next, others, words, error, rfl, solid, scans, read, failure⟩
      · exact Or.inl ⟨words, .blank blank scans⟩
      · refine Or.inr ⟨first :: before, next, others, words, error, rfl, solid, .blank blank scans,
          ?_, failure⟩
        rw [byteLength_cons, ← Nat.add_assoc]
        exact read
  | case3 offset found first rest solid error failure =>
      exact Or.inr ⟨[], first, rest, [], error, rfl, by simpa using solid, .done offset, failure, rfl⟩
  | case4 offset found first rest solid reading success inductionHypothesis =>
      have parts := (Token.read_eq_append success).1
      rcases inductionHypothesis with ⟨words, scans⟩ |
        ⟨before, next, others, words, error, shape, solid, scans, read, failure⟩
      · have whole := Scans.of_read success (List.append_nil reading.rest).symm scans
        rw [parts] at whole
        exact Or.inl ⟨_, whole⟩
      · refine Or.inr ⟨reading.characters ++ before, next, others, _, error, ?_, solid,
          Scans.of_read success shape scans, ?_, failure⟩
        · rw [← parts, shape, List.append_assoc]
        · rw [byteLength_append, ← Nat.add_assoc]
          exact read

theorem Scans.scan_eq (scans : Scans [] 0 characters words) :
    scan (String.ofList characters) = .ok (words.map Word.lexeme) := by
  have scanned := scans.scanFrom_eq #[]
  rw [List.append_nil] at scanned
  rw [scan, String.toList_ofList, scanned, scanFrom]
  simp [Except.map]

/-- A text can be scanned if it consists of words and blanks, and the words are what is scanned. -/
theorem scan_eq_ok {text : String} {lexemes : List Lexeme} :
    scan text = .ok lexemes ↔
      ∃ words, Scans [] 0 text.toList words ∧ words.map Word.lexeme = lexemes := by
  constructor
  · intro success
    rcases scanFrom_outcome 0 #[] text.toList with
      ⟨words, scans⟩ | ⟨_, _, _, _, error, _, _, _, _, failure⟩
    · have scanned := scans.scan_eq
      rw [String.ofList_toList] at scanned
      exact ⟨words, scans, Except.ok.inj (scanned.symm.trans success)⟩
    · rw [scan, failure] at success
      cases success
  · rintro ⟨words, scans, rfl⟩
    rw [← scans.scan_eq, String.ofList_toList]

/-! ## Where the words stand -/

theorem Scans.stands (scans : Scans rest offset characters words) {word : Word} (member : word ∈ words) :
    ∃ before after, characters = before ++ word.text.toList ++ after ∧
      word.offset = offset + byteLength before ∧ word.token.SpelledBy word.text.toList ∧
        word.token.EndsBefore (after ++ rest) := by
  induction scans with
  | done => cases member
  | @blank offset c characters words _ _ inductionHypothesis =>
      obtain ⟨before, after, rfl, place, spelled, ends⟩ := inductionHypothesis member
      refine ⟨c :: before, after, rfl, ?_, spelled, ends⟩
      rw [place, byteLength_cons, Nat.add_assoc]
  | @word characters words first spelled ends _ inductionHypothesis =>
      rcases List.mem_cons.mp member with rfl | later
      · exact ⟨[], characters, rfl, rfl, spelled, ends⟩
      · obtain ⟨before, after, rfl, place, spelled, ends⟩ := inductionHypothesis later
        refine ⟨first.text.toList ++ before, after, by simp, ?_, spelled, ends⟩
        rw [place, byteLength_append, Nat.add_assoc]

theorem Scans.apart (scans : Scans rest offset characters words) :
    words.Pairwise fun first second => first.offset + byteLength first.text.toList ≤ second.offset := by
  induction scans with
  | done => exact List.Pairwise.nil
  | blank _ _ inductionHypothesis => exact inductionHypothesis
  | word first _ _ scans inductionHypothesis =>
      refine List.pairwise_cons.mpr ⟨?_, inductionHypothesis⟩
      intro second member
      obtain ⟨before, _, _, place, _⟩ := scans.stands member
      omega

/-- A character is a blank or in a word. -/
theorem Scans.outside
    (scans : Scans rest offset characters words) {before after : List Char} {c : Char}
    (shape : characters = before ++ c :: after) :
    isBlank c = true ∨
      ∃ word ∈ words, word.offset ≤ offset + byteLength before ∧
        offset + byteLength before < word.offset + byteLength word.text.toList := by
  induction scans generalizing before with
  | done => simp at shape
  | @blank offset first characters words isBlank _ inductionHypothesis =>
      cases before with
      | nil =>
          obtain ⟨rfl, rfl⟩ := List.cons.inj shape
          exact Or.inl isBlank
      | cons other before =>
          obtain ⟨rfl, same⟩ := List.cons.inj shape
          rw [byteLength_cons, ← Nat.add_assoc]
          exact inductionHypothesis same
  | @word characters words word _ _ _ inductionHypothesis =>
      rcases List.append_eq_append_iff.mp shape with ⟨more, rfl, same⟩ | ⟨more, same, later⟩
      · rcases inductionHypothesis same with blank | ⟨other, member, starts, ends⟩
        · exact Or.inl blank
        · rw [byteLength_append, ← Nat.add_assoc]
          exact Or.inr ⟨other, List.mem_cons_of_mem _ member, starts, ends⟩
      · cases more with
        | nil =>
            rw [List.append_nil] at same
            have here := inductionHypothesis (show characters = [] ++ c :: after from later.symm)
            rw [byteLength_nil, Nat.add_zero, same] at here
            rcases here with blank | ⟨other, member, starts, ends⟩
            · exact Or.inl blank
            · exact Or.inr ⟨other, List.mem_cons_of_mem _ member, starts, ends⟩
        | cons other more =>
            obtain ⟨rfl, _⟩ := List.cons.inj later
            refine Or.inr ⟨word, List.mem_cons_self, by omega, ?_⟩
            have positive := c.utf8Size_pos
            rw [same, byteLength_append, byteLength_cons]
            omega

theorem Scans.ends
    (scans : Scans rest offset characters words) {word : Word} (member : word ∈ words)
    (last : word.offset + byteLength word.text.toList = offset + byteLength characters) :
    word.token.EndsBefore rest := by
  obtain ⟨before, after, rfl, place, _, ends⟩ := scans.stands member
  have none : after = [] := by
    by_contra nonempty
    have positive := byteLength_pos nonempty
    simp only [byteLength_append] at last
    omega
  rwa [none, List.nil_append] at ends

end Scans

/-- `Covers text words` means that the words stand in the text one after the other, each as long as it can
be, and that all else in the text is blank. -/
structure Covers (text : String) (words : List Word) : Prop where
  stands : ∀ word ∈ words, ∃ before after, text = before ++ word.text ++ after ∧
    before.utf8ByteSize = word.offset ∧ word.token.SpelledBy word.text.toList ∧
      word.token.EndsBefore after.toList
  ascending : words.Pairwise fun first second => first.offset < second.offset
  apart : words.Pairwise fun first second =>
    first.offset + first.text.utf8ByteSize ≤ second.offset
  blank : ∀ before c after, text = before ++ String.singleton c ++ after →
    isBlank c = true ∨ ∃ word ∈ words, word.offset ≤ before.utf8ByteSize ∧
      before.utf8ByteSize < word.offset + word.text.utf8ByteSize

theorem Scans.covers
    {text : String} {rest : List Char} {words : List Word}
    (scans : Scans rest 0 text.toList words) : Covers text words := by
  have alone := scans.alone
  refine ⟨?_, ?_, ?_, ?_⟩
  · intro word member
    obtain ⟨before, after, shape, place, spelled, ends⟩ := alone.stands member
    refine ⟨String.ofList before, String.ofList after, ?_, ?_, spelled, ?_⟩
    · apply String.toList_inj.mp
      simpa using shape
    · rw [place, Nat.zero_add, byteLength_eq]
    · rwa [List.append_nil, ← String.toList_ofList (l := after)] at ends
  · refine alone.apart.imp_of_mem ?_
    intro first second member _ apart
    obtain ⟨_, _, _, _, spelled, _⟩ := alone.stands member
    obtain ⟨c, others, shape, _⟩ := spelled.cons
    have positive : 0 < byteLength first.text.toList := byteLength_pos (by simp [shape])
    omega
  · refine alone.apart.imp ?_
    intro first second apart
    rwa [byteLength_toList] at apart
  · intro before c after shape
    have characters : text.toList = before.toList ++ c :: after.toList := by
      rw [shape]
      simp
    have place := alone.outside characters
    simpa only [byteLength_toList, Nat.zero_add] using place

/-! ## Written tokens -/

/-- Whether a token can be written: a number in range, an identifier, or a sign. -/
def Token.Writable : Token → Prop
  | .number value => value < 2 ^ 63
  | .identifier name => isIdentifier name = true
  | .operator _ | .opening | .closing => True

/-- The text of tokens, each after a gap. -/
def written : List (String × Token) → String
  | [] => ""
  | (gap, token) :: parts => gap ++ token.text ++ written parts

/-- Where the texts of written tokens stand, from a byte offset on. -/
def placed (offset : Nat) : List (String × Token) → List Lexeme
  | [] => []
  | (gap, token) :: parts =>
    ⟨offset + gap.utf8ByteSize, token⟩ ::
      placed (offset + gap.utf8ByteSize + token.text.utf8ByteSize) parts

theorem isDigit_of_mem_toDigits {value : Nat} : ∀ c ∈ Nat.toDigits 10 value, c.isDigit = true :=
  fun _ member => Nat.isDigit_of_mem_toDigits (by decide) (by decide) member

theorem exactMagnitude?_toDigits (value : Nat) : exactMagnitude? (Nat.toDigits 10 value) = some value := by
  have same : digitsValue 0 (Nat.toDigits 10 value) = value :=
    Nat.ofDigitChars_toDigits (by decide) (by decide)
  exact exactMagnitude?_eq_some.mpr ⟨Nat.toDigits_ne_nil, isDigit_of_mem_toDigits, same⟩

theorem Token.Writable.spelledBy {token : Token} (writable : token.Writable) :
    token.SpelledBy token.text.toList := by
  cases token with
  | number value =>
      refine ⟨?_, writable⟩
      rw [Token.text, String.toList_ofList, exactMagnitude?_toDigits]
  | identifier name => exact ⟨rfl, writable⟩
  | operator | opening | closing => rfl

theorem Token.continues_of_isBlank (token : Token) {c : Char} (blank : isBlank c = true) :
    token.continues c = false := by
  cases token with
  | number => exact isDigit_of_isBlank blank
  | identifier => exact continuesIdentifier_of_isBlank blank
  | operator | opening | closing => rfl

/-- Written tokens scan to their places, if each but the first comes after a blank. -/
theorem scans_written
    {parts : List (String × Token)} {trailing : List Char} (offset : Nat)
    (valid : ∀ part ∈ parts, AllBlank part.1.toList ∧ part.2.Writable)
    (separate : ∀ part ∈ parts.tail, part.1 ≠ "") (blank : AllBlank trailing) :
    ∃ words, Scans [] offset ((written parts).toList ++ trailing) words ∧
      words.map Word.lexeme = placed offset parts := by
  induction parts generalizing offset with
  | nil =>
      refine ⟨[], ?_, rfl⟩
      have scans : Scans [] offset (trailing ++ []) [] := .blanks blank (.done _)
      simpa [written] using scans
  | cons part parts inductionHypothesis =>
      obtain ⟨gap, token⟩ := part
      obtain ⟨gapBlank, writable⟩ := valid (gap, token) List.mem_cons_self
      obtain ⟨words, scans, places⟩ :=
        inductionHypothesis (offset + gap.utf8ByteSize + token.text.utf8ByteSize)
          (fun part member => valid part (List.mem_cons_of_mem _ member))
          (fun part member => separate part (List.mem_of_mem_tail member))
      refine ⟨⟨offset + gap.utf8ByteSize, token.text, token⟩ :: words, ?_, ?_⟩
      · have ends : token.EndsBefore ((written parts).toList ++ trailing ++ []) := by
          intro c next
          apply token.continues_of_isBlank
          rw [List.append_nil] at next
          cases parts with
          | nil => exact blank c (List.mem_of_head? (by simpa [written] using next))
          | cons following others =>
              obtain ⟨between, after⟩ := following
              have nonempty : between.toList ≠ [] := by
                simpa using separate (between, after) List.mem_cons_self
              obtain ⟨first, remaining, shape⟩ := List.exists_cons_of_ne_nil nonempty
              have gaps := (valid (between, after) (by simp)).1
              obtain rfl : first = c := by simpa [written, shape] using next
              exact gaps first (by simp [shape])
        have step := Scans.word ⟨offset + gap.utf8ByteSize, token.text, token⟩ writable.spelledBy ends
          (by rwa [byteLength_toList])
        have whole : Scans [] offset
            (gap.toList ++ (token.text.toList ++ ((written parts).toList ++ trailing)))
            (⟨offset + gap.utf8ByteSize, token.text, token⟩ :: words) := by
          apply Scans.blanks gapBlank
          rwa [byteLength_toList]
        simpa [written] using whole
      · rw [List.map_cons, places]
        rfl

/-! ## Exactness -/

/-- A scanned text is covered by words of its tokens and blanks; written tokens are scanned back; and a
text that cannot be scanned can be scanned up to a character that starts no token or a number that is too
large. -/
theorem scanning_exact :
    (∀ text lexemes,
      scan text = .ok lexemes →
      ∃ words, words.map Word.lexeme = lexemes ∧ Covers text words) ∧
    (∀ (parts : List (String × Token)) (trailing : String),
      (∀ part ∈ parts, AllBlank part.1.toList ∧ part.2.Writable) →
      (∀ part ∈ parts.tail, part.1 ≠ "") →
      AllBlank trailing.toList →
      scan (written parts ++ trailing) = .ok (placed 0 parts)) ∧
    (∀ text error,
      scan text = .error error →
      ∃ before point after words, text = before ++ point ++ after ∧
        scan before = .ok (words.map Word.lexeme) ∧ Covers before words ∧
        (∀ word ∈ words, word.offset + word.text.utf8ByteSize = before.utf8ByteSize →
          word.token.EndsBefore (point ++ after).toList) ∧
        ((∃ c, point = String.singleton c ∧ isBlank c = false ∧
            (∀ token word, ¬ Token.SpelledBy token (c :: word)) ∧
            error = .unexpectedCharacter c before.utf8ByteSize) ∨
          point ≠ "" ∧ (∀ c ∈ point.toList, c.isDigit = true) ∧
            (∀ c, after.toList.head? = some c → c.isDigit = false) ∧
            2 ^ 63 ≤ digitsValue 0 point.toList ∧ error = .invalidNumber point)) := by
  refine ⟨?_, ?_, ?_⟩
  · intro text lexemes success
    obtain ⟨words, scans, same⟩ := scan_eq_ok.mp success
    exact ⟨words, same, scans.covers⟩
  · intro parts trailing valid separate blank
    obtain ⟨words, scans, places⟩ := scans_written 0 valid separate blank
    exact scan_eq_ok.mpr ⟨words, by rwa [String.toList_append], places⟩
  · intro text error failure
    rcases scanFrom_outcome 0 #[] text.toList with ⟨words, scans⟩ |
      ⟨before, first, rest, words, other, shape, solid, scans, read, failed⟩
    · rw [scan_eq_ok.mpr ⟨words, scans, rfl⟩] at failure
      cases failure
    · obtain rfl : other = error := by
        rw [scan, failed] at failure
        exact Except.error.inj failure
      have front : Scans (first :: rest) 0 (String.ofList before).toList words := by
        rwa [String.toList_ofList]
      have ends : ∀ word ∈ words,
          word.offset + word.text.utf8ByteSize = (String.ofList before).utf8ByteSize →
          word.token.EndsBefore (first :: rest) := by
        intro word member last
        apply scans.ends member
        rw [byteLength_toList, byteLength_eq, last, Nat.zero_add]
      rw [byteLength_eq, Nat.zero_add] at read
      rcases Token.read_eq_error read with
        ⟨none, same⟩ | ⟨digits, after, split, nonempty, all, stops, large, same⟩
      · refine ⟨String.ofList before, String.singleton first, String.ofList rest, words, ?_,
          scans.alone.scan_eq, front.covers, by simpa using ends,
          Or.inl ⟨first, rfl, solid, none, same⟩⟩
        apply String.toList_inj.mp
        simpa using shape
      · refine ⟨String.ofList before, String.ofList digits, String.ofList after, words, ?_,
          scans.alone.scan_eq, front.covers, by simpa [← split] using ends,
          Or.inr ⟨by simpa using nonempty, by simpa using all, by simpa using stops,
            by simpa using large, same⟩⟩
        apply String.toList_inj.mp
        simpa [split] using shape

theorem scanning_exact_beyond_ascii :
    (∃ words, words.map Word.lexeme =
        [⟨1, .identifier "é1"⟩, ⟨4, .operator .subtract⟩, ⟨5, .number 7⟩] ∧
      Covers " é1-007" words) ∧
    scan (written [("\u00a0", .identifier "é"), (" ", .number 7), ("\t", .closing)] ++ " ") =
      .ok [⟨2, .identifier "é"⟩, ⟨5, .number 7⟩, ⟨7, .closing⟩] ∧
    ∃ before after lexemes, "é $ 1" = before ++ "$" ++ after ∧ before.utf8ByteSize = 3 ∧
      scan before = .ok lexemes := by
  refine ⟨scanning_exact.1 _ _ (by with_unfolding_all rfl), ?_, ?_⟩
  · apply scanning_exact.2.1
    · simp only [List.forall_mem_cons, List.not_mem_nil, false_imp_iff, implies_true, and_true,
        Token.Writable]
      exact ⟨⟨by decide, by decide +kernel⟩, ⟨by decide, by norm_num⟩, by decide⟩
    · decide
    · decide
  · have failure : scan "é $ 1" = .error (.unexpectedCharacter '$' 3) := by with_unfolding_all rfl
    obtain ⟨before, point, after, words, shape, scanned, _, _, cause⟩ :=
      scanning_exact.2.2 _ _ failure
    rcases cause with ⟨c, rfl, _, _, same⟩ | ⟨_, _, _, _, same⟩
    · obtain ⟨rfl, place⟩ := EvalError.unexpectedCharacter.inj same
      exact ⟨before, after, _, shape, place.symm, scanned⟩
    · cases same

end ScriptDebugger
