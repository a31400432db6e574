import Mathlib.Algebra.BigOperators.Group.List.Basic
import Mathlib.Data.List.Forall2
import Mathlib.Data.String.Basic
import Mathlib.Tactic.Ring
import ScriptDebugger.Console.State
import ScriptDebugger.Proofs.Expression.Exactness
import ScriptDebugger.Proofs.Session.Answers

/-!
# Hex dumps are read back

The columns of a row stand at places that depend on the width of its address alone, so what a byte writes
between the bars cannot be taken for anything else.  A row is described by its parts, and a reader that
cuts a row at those places needs no more than the description.
-/

namespace ScriptDebugger

namespace HexDump

open Text

/-! ## Reading numbers -/

/-- The hexadecimal digits. -/
def hexDigits : List Char :=
  "0123456789abcdef".toList

/-- The value of a hexadecimal digit. -/
def digitValue (c : Char) : Nat :=
  hexDigits.idxOf c

/-- The number that hexadecimal digits write. -/
def value (digits : List Char) : Nat :=
  digits.foldl (fun number c => 16 * number + digitValue c) 0

theorem digit_cases : ∀ number < 16,
    digitValue (digit number) = number ∧ digit number ∈ hexDigits ∧
      (digit number = '0' → number = 0) := by
  decide

theorem value_concat (digits : List Char) (c : Char) :
    value (digits ++ [c]) = 16 * value digits + digitValue c := by
  rw [value, List.foldl_append]
  rfl

theorem value_zeros (count : Nat) (digits : List Char) :
    value (List.replicate count '0' ++ digits) = value digits := by
  induction count with
  | zero => rfl
  | succ count inductionHypothesis => exact inductionHypothesis

/-- A number is written by hexadecimal digits of which the first is no zero unless the number is. -/
theorem toDigits_cases (number : Nat) :
    value (Nat.toDigits 16 number) = number ∧ (∀ c ∈ Nat.toDigits 16 number, c ∈ hexDigits) ∧
      ((Nat.toDigits 16 number).head? = some '0' → number = 0) := by
  induction number using Nat.strongRecOn with
  | ind number inductionHypothesis =>
      rw [Nat.toDigits_eq_if (by decide)]
      split
      case isTrue small =>
        obtain ⟨same, member, zero⟩ := digit_cases number small
        refine ⟨?_, ?_, ?_⟩
        · rw [← List.nil_append [_], value_concat]
          exact (Nat.zero_add _).trans same
        · intro c only
          rw [List.mem_singleton.mp only]
          exact member
        · intro first
          exact zero (Option.some.inj first)
      case isFalse large =>
        obtain ⟨high, inHigh, positive⟩ := inductionHypothesis (number / 16) (by omega)
        obtain ⟨low, inLow, _⟩ := digit_cases (number % 16) (Nat.mod_lt _ (by decide))
        refine ⟨?_, ?_, ?_⟩
        · rw [value_concat, high, ← digit, low]
          omega
        · intro c member
          rcases List.mem_append.mp member with before | last
          · exact inHigh c before
          · rw [List.mem_singleton.mp last]
            exact inLow
        · intro first
          rw [List.head?_append_of_ne_nil _ Nat.toDigits_ne_nil] at first
          have none := positive first
          omega

/-! ## Parts of a row -/

/-- The parts of a row. -/
structure Parts where
  address : List Char
  column : List Char
  characters : List Char

/-- The row of its parts. -/
def Parts.line (parts : Parts) : List Char :=
  parts.address ++ "  ".toList ++ parts.column ++ "  |".toList ++ parts.characters ++ ['|']

/-- What stands before the first bar of a row. -/
def Parts.front (parts : Parts) : List Char :=
  parts.address ++ "  ".toList ++ parts.column ++ "  ".toList

theorem Parts.line_eq (parts : Parts) :
    parts.line = parts.front ++ '|' :: (parts.characters ++ ['|']) := by
  simp [line, front]

/-- The bytes that a column writes, each with a character after it. -/
def columnBytes : List Char → List UInt8
  | high :: low :: _ :: rest =>
    if high = ' ' then []
    else UInt8.ofNat (16 * digitValue high + digitValue low) :: columnBytes rest
  | _ => []

/-- Whether a character stands for a byte: the one that it is the code of if that is visible or a blank,
a dot otherwise. -/
def StandsFor (c : Char) (byte : UInt8) : Prop :=
  if 0x20 ≤ byte.toNat ∧ byte.toNat ≤ 0x7e then c.toNat = byte.toNat else c = '.'

/-- `parts.Shows address bytes` means that a row shows at most sixteen bytes from an address on. -/
structure Parts.Shows (parts : Parts) (address : Int) (bytes : List UInt8) : Prop where
  digits : ∀ c ∈ parts.address, c ∈ hexDigits
  number : (value parts.address : Int) = address % 2 ^ 64
  wide : 8 ≤ parts.address.length
  shortest : parts.address.length = 8 ∨ parts.address.head? ≠ some '0'
  columnWidth : parts.column.length = 47
  columnDigits : ∀ c ∈ parts.column, c = ' ' ∨ c ∈ hexDigits
  content : columnBytes (parts.column ++ [' ']) = bytes
  characters : List.Forall₂ StandsFor parts.characters bytes

theorem addressText_cases (address : Int) :
    (∀ c ∈ addressText address, c ∈ hexDigits) ∧
      (value (addressText address) : Int) = address % 2 ^ 64 ∧
      8 ≤ (addressText address).length ∧
      ((addressText address).length = 8 ∨ (addressText address).head? ≠ some '0') := by
  let number := (address % Nat.pow 2 64).toNat
  obtain ⟨same, digits, positive⟩ := toDigits_cases number
  have power : ((Nat.pow 2 64 : Nat) : Int) = 2 ^ 64 := by norm_num
  have whole : (number : Int) = address % 2 ^ 64 := by
    rw [← power]
    exact Int.toNat_of_nonneg (Int.emod_nonneg _ (by norm_num))
  have text : addressText address =
      List.replicate (8 - (Nat.toDigits 16 number).length) '0' ++ Nat.toDigits 16 number := rfl
  rw [text]
  refine ⟨?_, ?_, ?_, ?_⟩
  · intro c member
    rcases List.mem_append.mp member with filling | digit
    · rw [List.eq_of_mem_replicate filling]
      decide
    · exact digits c digit
  · rw [value_zeros, same, whole]
  · rw [List.length_append, List.length_replicate]
    omega
  · by_cases short : (Nat.toDigits 16 number).length ≤ 8
    · left
      rw [List.length_append, List.length_replicate]
      omega
    · right
      have unfilled : 8 - (Nat.toDigits 16 number).length = 0 := by omega
      rw [unfilled]
      intro first
      have zero := positive first
      rw [zero] at short
      exact short (by decide)

theorem byteText_cases (byte : UInt8) :
    ∃ high low, byteText byte = [high, low] ∧ high ∈ hexDigits ∧ low ∈ hexDigits ∧
      UInt8.ofNat (16 * digitValue high + digitValue low) = byte := by
  have bound := byte.toNat_lt
  obtain ⟨high, inHigh, _⟩ := digit_cases (byte.toNat / 16) (by omega)
  obtain ⟨low, inLow, _⟩ := digit_cases (byte.toNat % 16) (by omega)
  refine ⟨_, _, rfl, inHigh, inLow, ?_⟩
  rw [high, low, Nat.div_add_mod, UInt8.ofNat_toNat]

theorem ne_of_mem_hexDigits {c other : Char} (digit : c ∈ hexDigits) (foreign : other ∉ hexDigits) :
    c ≠ other := by
  rintro rfl
  exact foreign digit

/-- The bytes of a column, each with a blank after it. -/
theorem hexColumn_append {bytes : List UInt8} (some : bytes ≠ []) :
    hexColumn bytes ++ [' '] = bytes.flatMap fun byte => byteText byte ++ [' '] := by
  induction bytes with
  | nil => exact absurd rfl some
  | cons byte rest inductionHypothesis =>
      by_cases last : rest = []
      · simp [last, hexColumn]
      · have others : rest.map byteText ≠ [] := by simpa using last
        rw [List.flatMap_cons, ← inductionHypothesis last, hexColumn, List.map_cons,
          List.intercalate_cons_of_ne_nil others, List.append_assoc, hexColumn]

theorem columnBytes_spaced (bytes : List UInt8) (blanks : Nat) :
    columnBytes ((bytes.flatMap fun byte => byteText byte ++ [' ']) ++ List.replicate blanks ' ') =
      bytes := by
  induction bytes with
  | nil =>
      match blanks with
      | 0 | 1 | 2 | _ + 3 => rfl
  | cons byte rest inductionHypothesis =>
      obtain ⟨high, low, text, inHigh, _, same⟩ := byteText_cases byte
      rw [List.flatMap_cons, text]
      simp only [List.cons_append, List.nil_append]
      rw [columnBytes, if_neg (ne_of_mem_hexDigits inHigh (by decide)), same, inductionHypothesis]

theorem mem_hexColumn {bytes : List UInt8} {c : Char} (member : c ∈ hexColumn bytes) :
    c = ' ' ∨ c ∈ hexDigits := by
  by_cases none : bytes = []
  · rw [none] at member
    cases member
  · have spaced := List.mem_append_left [' '] member
    rw [hexColumn_append none, List.mem_flatMap] at spaced
    obtain ⟨byte, _, within⟩ := spaced
    obtain ⟨high, low, text, inHigh, inLow, _⟩ := byteText_cases byte
    rw [text] at within
    simp only [List.cons_append, List.nil_append, List.mem_cons, List.not_mem_nil, or_false] at within
    rcases within with rfl | rfl | blank
    · exact .inr inHigh
    · exact .inr inLow
    · exact .inl blank

theorem length_hexColumn {bytes : List UInt8} (some : bytes ≠ []) :
    (hexColumn bytes).length + 1 = 3 * bytes.length := by
  have widths : (hexColumn bytes ++ [' ']).length = _ := congrArg List.length (hexColumn_append some)
  rw [List.length_append, List.length_singleton, List.length_flatMap] at widths
  rw [widths]
  simp [byteText, Nat.mul_comm]

theorem standsFor_character (byte : UInt8) : StandsFor (character byte) byte := by
  unfold StandsFor character
  split
  case isTrue visible =>
    have valid : byte.toNat.isValidChar := Or.inl (by omega)
    rw [Char.ofNat, dif_pos valid]
    rfl
  case isFalse => rfl

/-- The parts of the row of some bytes. -/
def partsOf (address : Int) (bytes : List UInt8) : Parts where
  address := addressText address
  column := padRight 47 ' ' (hexColumn bytes)
  characters := bytes.map character

theorem line_partsOf (address : Int) (bytes : List UInt8) :
    (partsOf address bytes).line = row address bytes :=
  rfl

theorem partsOf_shows
    (address : Int) {bytes : List UInt8} (some : bytes ≠ []) (short : bytes.length ≤ 16) :
    (partsOf address bytes).Shows address bytes := by
  obtain ⟨digits, number, wide, shortest⟩ := addressText_cases address
  have width := length_hexColumn some
  refine ⟨digits, number, wide, shortest, ?_, ?_, ?_, ?_⟩
  · simp only [partsOf, padRight, List.length_append, List.length_replicate]
    omega
  · intro c member
    rcases List.mem_append.mp member with column | filling
    · exact mem_hexColumn column
    · exact .inl (List.eq_of_mem_replicate filling)
  · have filled : (partsOf address bytes).column ++ [' '] =
        hexColumn bytes ++ [' '] ++ List.replicate (47 - (hexColumn bytes).length) ' ' := by
      rw [partsOf, padRight, List.append_assoc, List.append_assoc, ← List.replicate_succ',
        List.replicate_succ, List.singleton_append]
    rw [filled, hexColumn_append some, columnBytes_spaced]
  · rw [partsOf, List.forall₂_map_left_iff, List.forall₂_same]
    exact fun byte _ => standsFor_character byte

/-! ## Rows of a dump -/

/-- The bytes of a row. -/
def chunk (bytes : List UInt8) (index : Nat) : List UInt8 :=
  (bytes.drop (16 * index)).take 16

/-- The parts of the rows of a dump. -/
def partsOfAll (start : Int) (bytes : List UInt8) : List Parts :=
  (List.range ((bytes.length + 15) / 16)).map fun (index : Nat) =>
    partsOf (start + 16 * index) (chunk bytes index)

theorem chunk_drop (bytes : List UInt8) (index : Nat) :
    chunk (bytes.drop 16) index = chunk bytes (index + 1) := by
  rw [chunk, List.drop_drop, chunk, Nat.mul_succ, Nat.add_comm]

theorem range_rows {bytes : List UInt8} (some : bytes ≠ []) :
    List.range ((bytes.length + 15) / 16) =
      0 :: (List.range (((bytes.drop 16).length + 15) / 16)).map Nat.succ := by
  have positive := List.length_pos_iff.mpr some
  have count : (bytes.length + 15) / 16 = ((bytes.drop 16).length + 15) / 16 + 1 := by
    rw [List.length_drop]
    omega
  rw [count, List.range_succ_eq_map]

theorem rows_eq (start : Int) (bytes : List UInt8) :
    rows start bytes = (partsOfAll start bytes).map Parts.line := by
  fun_induction rows start bytes with
  | case1 => rfl
  | case2 start first rest inductionHypothesis =>
      rw [inductionHypothesis, partsOfAll, partsOfAll, range_rows (List.cons_ne_nil first rest)]
      simp only [List.map_cons, List.map_map]
      congr 1
      · rw [line_partsOf, chunk]
        simp
      · apply List.map_congr_left
        intro index _
        simp only [Function.comp_apply, chunk_drop, Nat.succ_eq_add_one]
        have next : start + 16 + 16 * (index : Int) = start + 16 * ((index + 1 : Nat) : Int) := by
          push_cast
          ring
        rw [next]

theorem flatMap_chunk (bytes : List UInt8) :
    (List.range ((bytes.length + 15) / 16)).flatMap (chunk bytes) = bytes := by
  by_cases none : bytes = []
  · rw [none]
    rfl
  · have shorter : (bytes.drop 16).length < bytes.length := by
      have positive := List.length_pos_iff.mpr none
      rw [List.length_drop]
      omega
    -- The later rows are those of the bytes after the first sixteen, with all indices one less.
    have later := flatMap_chunk (bytes.drop 16)
    rw [range_rows none, List.flatMap_cons, List.flatMap_map]
    simp only [Nat.succ_eq_add_one, ← chunk_drop]
    rw [later, chunk, Nat.mul_zero, List.drop_zero, List.take_append_drop]
termination_by bytes.length

theorem chunk_shows
    (start : Int) {bytes : List UInt8} {index : Nat} (within : index < (bytes.length + 15) / 16) :
    (partsOf (start + 16 * index) (chunk bytes index)).Shows (start + 16 * index)
      (chunk bytes index) := by
  have some : chunk bytes index ≠ [] := by
    apply List.ne_nil_of_length_pos
    rw [chunk, List.length_take, List.length_drop]
    omega
  apply partsOf_shows _ some
  rw [chunk, List.length_take]
  omega

theorem partsOfAll_shows
    {start : Int} {bytes : List UInt8} {index : Nat} {parts : Parts}
    (found : (partsOfAll start bytes)[index]? = some parts) :
    parts.Shows (start + 16 * index) (chunk bytes index) := by
  obtain ⟨within, _⟩ := List.getElem?_eq_some_iff.mp found
  rw [partsOfAll, List.length_map, List.length_range] at within
  rw [partsOfAll, List.getElem?_map, List.getElem?_range within] at found
  rw [← Option.some.inj found]
  exact chunk_shows start within

/-! ## Reading a dump -/

/-- The integer in range that has a remainder by two to the power of 64. -/
def signed (remainder : Nat) : Int :=
  if remainder < 2 ^ 63 then remainder else remainder - 2 ^ 64

/-- The address and the bytes of a row. -/
def readRow (line : List Char) : Int × List UInt8 :=
  let digits := line.takeWhile (· != ' ')
  (signed (value digits), columnBytes ((line.drop (digits.length + 2)).take 48))

/-- The address and the bytes of a dump. -/
def read (dump : String) : Int × List UInt8 :=
  let rows := (fields '\n' dump.toList).map readRow
  ((rows.head?.map Prod.fst).getD 0, rows.flatMap Prod.snd)

theorem StandsFor.ne_lineFeed {c : Char} {byte : UInt8} (stands : StandsFor c byte) : c ≠ '\n' := by
  rintro rfl
  unfold StandsFor at stands
  split at stands
  case isTrue visible =>
    have code : '\n'.toNat = 10 := rfl
    omega
  case isFalse => revert stands; decide

theorem signed_eq
    {remainder : Nat} {address : Int} (same : (remainder : Int) = address % 2 ^ 64)
    (range : InRange address) :
    signed remainder = address := by
  unfold InRange at range
  unfold signed
  split <;> omega

namespace Parts.Shows

variable {parts : Parts} {address : Int} {bytes : List UInt8} (shows : parts.Shows address bytes)

include shows

theorem not_mem_front {c : Char} (solid : c ≠ ' ') (foreign : c ∉ hexDigits) :
    c ∉ parts.front := by
  intro member
  simp only [front, List.mem_append] at member
  have blanks : ∀ other ∈ "  ".toList, other = ' ' := by simp
  rcases member with ((inAddress | inGap) | inColumn) | inGap
  · exact foreign (shows.digits c inAddress)
  · exact solid (blanks c inGap)
  · rcases shows.columnDigits c inColumn with blank | digit
    · exact solid blank
    · exact foreign digit
  · exact solid (blanks c inGap)

theorem not_lineFeed : '\n' ∉ parts.line := by
  intro member
  rw [line_eq, List.mem_append, List.mem_cons, List.mem_append] at member
  rcases member with inFront | bar | inCharacters | inEnd
  · exact shows.not_mem_front (by decide) (by decide) inFront
  · revert bar
    decide
  · obtain ⟨index, within, same⟩ := List.getElem_of_mem inCharacters
    have stands := (List.forall₂_iff_get.mp shows.characters).2 index within
      (shows.characters.length_eq ▸ within)
    exact stands.ne_lineFeed same
  · revert inEnd
    decide

/-- The first bar of a row stands before the characters, at a place given by the width of the address. -/
theorem idxOf_bar : parts.line.idxOf '|' = parts.address.length + 51 := by
  have before := shows.not_mem_front (c := '|') (by decide) (by decide)
  rw [line_eq, List.idxOf_append_of_notMem before, List.idxOf_cons_self]
  simp only [front, List.length_append, shows.columnWidth]
  rfl

theorem readRow_line (range : InRange address) : readRow parts.line = (address, bytes) := by
  have digits : ∀ c ∈ parts.address, (c != ' ') = true := by
    intro c member
    rw [bne_iff_ne]
    exact ne_of_mem_hexDigits (shows.digits c member) (by decide)
  let after := ' ' :: '|' :: (parts.characters ++ ['|'])
  have split : parts.line = parts.address ++ ' ' :: ' ' :: (parts.column ++ [' '] ++ after) := by
    simp [line, after]
  have first : parts.line.takeWhile (· != ' ') = parts.address := by
    rw [split]
    exact takeWhile_run digits (by simp)
  -- With the first of the two blanks after it, the column has a character after its last byte, too.
  have column : (parts.line.drop (parts.address.length + 2)).take 48 = parts.column ++ [' '] := by
    have width : (parts.column ++ [' ']).length = 48 := by
      rw [List.length_append, shows.columnWidth, List.length_singleton]
    rw [split, ← List.drop_drop, List.drop_left, List.drop_succ_cons, List.drop_succ_cons,
      List.drop_zero, ← width, List.take_left]
  simp only [readRow, first, column, shows.content, signed_eq shows.number range]

end Parts.Shows

/-- Whether there are bytes and the addresses of their rows are in range. -/
structure Fits (start : Int) (bytes : List UInt8) : Prop where
  some : bytes ≠ []
  rows : ∀ index : Nat, 16 * index < bytes.length → InRange (start + 16 * index)

theorem fields_text {start : Int} {bytes : List UInt8} (some : bytes ≠ []) :
    fields '\n' (text start bytes).toList = (partsOfAll start bytes).map Parts.line := by
  rw [text, String.toList_ofList, rows_eq]
  apply fields_intercalate
  · simp [partsOfAll, range_rows some]
  · intro line member
    obtain ⟨parts, within, rfl⟩ := List.mem_map.mp member
    obtain ⟨index, found⟩ := List.mem_iff_getElem?.mp within
    exact (partsOfAll_shows found).not_lineFeed

theorem Fits.map_readRow {start : Int} {bytes : List UInt8} (fits : Fits start bytes) :
    ((partsOfAll start bytes).map Parts.line).map readRow =
      (List.range ((bytes.length + 15) / 16)).map fun (index : Nat) =>
        (start + 16 * (index : Int), chunk bytes index) := by
  rw [partsOfAll, List.map_map, List.map_map]
  apply List.map_congr_left
  intro index member
  have within := List.mem_range.mp member
  exact (chunk_shows start within).readRow_line (fits.rows index (by omega))

/-- A dump is read back. -/
theorem Fits.read_text {start : Int} {bytes : List UInt8} (fits : Fits start bytes) :
    read (text start bytes) = (start, bytes) := by
  have first : ((List.range ((bytes.length + 15) / 16)).map fun (index : Nat) =>
      (start + 16 * (index : Int), chunk bytes index)).head? =
        Option.some (start, chunk bytes 0) := by
    rw [range_rows fits.some]
    simp
  simp only [read, fields_text fits.some, fits.map_readRow, first, List.flatMap_map, flatMap_chunk]
  rfl

theorem flatMap_content (start : Int) (bytes : List UInt8) :
    ((partsOfAll start bytes).flatMap fun parts => columnBytes (parts.column ++ [' '])) = bytes := by
  rw [partsOfAll, List.flatMap_map]
  calc
    _ = (List.range ((bytes.length + 15) / 16)).flatMap (chunk bytes) := by
      apply List.flatMap_congr
      intro index member
      exact (chunk_shows start (List.mem_range.mp member)).content
    _ = bytes := flatMap_chunk bytes

/-- The bytes that a debugger reads of a memory fit. -/
theorem fits_readMemory
    {memory : List UInt8} {start : Int} {length : Nat} (small : memory.length < 2 ^ 63)
    (some : readMemory memory start length ≠ []) :
    Fits start (readMemory memory start length) ∧
      ∀ index : Nat, 16 * index < (readMemory memory start length).length →
        InRange (16 * index) := by
  have reads := readMemory_readsFrom memory start length
  have positive : 0 ≤ start := by
    by_contra negative
    exact some (reads.negative (by omega))
  have size := reads.size positive
  have nonempty := List.length_pos_iff.mpr some
  refine ⟨⟨some, ?_⟩, ?_⟩
  · intro index within
    unfold InRange
    omega
  · intro index within
    unfold InRange
    omega

end HexDump

open HexDump in
/-- A dump with its row addresses in range is read back.  Its lines are rows of the described parts, one for
every sixteen bytes begun, whose columns write the bytes one after the other and whose first bars stand
where the width of the address says; so different addresses or bytes have different dumps.  What a debugger
tells of a memory of less than two to the power of 63 bytes is shown by such a dump. -/
theorem dumps_can_be_read :
    (∀ start bytes, Fits start bytes →
      read (text start bytes) = (start, bytes) ∧
      ∃ rows : List Parts,
        Text.fields '\n' (text start bytes).toList = rows.map Parts.line ∧
        rows.length = (bytes.length + 15) / 16 ∧
        (∀ (index : Nat) parts, rows[index]? = some parts →
          parts.Shows (start + 16 * index) ((bytes.drop (16 * index)).take 16)) ∧
        (rows.flatMap fun parts => columnBytes (parts.column ++ [' '])) = bytes ∧
        ∀ parts ∈ rows, parts.line.idxOf '|' = parts.address.length + 51) ∧
    (∀ start bytes other others, Fits start bytes → Fits other others →
      text start bytes = text other others → start = other ∧ bytes = others) ∧
    ∀ (τ ε : Type) [Target τ ε] (debugger : Debugger) (target : τ) (memory : List UInt8)
      (start : Int) (length : Nat) (address : Int) (bytes : List UInt8),
      (Target.memory target).2 = .ok memory →
      memory.length < 2 ^ 63 →
      .memory address bytes ∈ (debugger.handle target (.fetchMemory start length)).notices →
      bytes ≠ [] →
      (∀ index : Nat, 16 * index < bytes.length →
        InRange (16 * index) ∧ InRange (address + 16 * index)) ∧
      ∀ console : Console, ∃ dump,
        console.describeNotice (.memory address bytes) = [dump] ∧ read dump = (address, bytes) := by
  refine ⟨?_, ?_, ?_⟩
  · intro start bytes fits
    refine ⟨fits.read_text, partsOfAll start bytes, fields_text fits.some, ?_, ?_, ?_, ?_⟩
    · rw [partsOfAll, List.length_map, List.length_range]
    · intro index parts found
      exact partsOfAll_shows found
    · exact flatMap_content start bytes
    · intro parts member
      obtain ⟨index, found⟩ := List.mem_iff_getElem?.mp member
      exact (partsOfAll_shows found).idxOf_bar
  · intro start bytes other others fits otherFits same
    have values := fits.read_text
    rw [same, otherFits.read_text] at values
    exact ⟨(congrArg Prod.fst values).symm, (congrArg Prod.snd values).symm⟩
  · intro τ ε _ debugger target memory start length address bytes answered small told some
    have notices : (debugger.handle target (.fetchMemory start length)).notices =
        [.memory start (readMemory memory start length)] := by
      rw [Debugger.handle, Debugger.handleMemory]
      generalize Target.memory target = answer at answered
      obtain ⟨changed, outcome⟩ := answer
      dsimp only at answered
      rw [answered]
    rw [notices, List.mem_singleton] at told
    obtain ⟨rfl, rfl⟩ := Notice.memory.inj told
    obtain ⟨fits, offsets⟩ := fits_readMemory small some
    refine ⟨fun index within => ⟨offsets index within, fits.rows index within⟩, ?_⟩
    intro console
    refine ⟨_, ?_, fits.read_text⟩
    rw [Console.describeNotice, if_neg (by simpa using some)]

open HexDump in
/-- Sixteen bars before address zero and a line feed at it, and the second byte of an output. -/
theorem dumps_can_be_read_across_zero :
    Fits (-16) (List.replicate 16 124 ++ [10]) ∧
    read (text (-16) (List.replicate 16 124 ++ [10])) = (-16, List.replicate 16 124 ++ [10]) ∧
    text (-16) (List.replicate 16 124 ++ [10]) ≠ text 0 (List.replicate 16 124 ++ [10]) ∧
    .memory 1 [98] ∈
      (Debugger.handle {} ({ script := [], output := #["ab"] } : Interpreter)
        (.fetchMemory 1 1)).notices ∧
    ∀ console : Console, ∃ dump,
      console.describeNotice (.memory 1 [98]) = [dump] ∧ read dump = (1, [98]) := by
  let bytes : List UInt8 := List.replicate 16 124 ++ [10]
  have fits (start : Int) (low : -16 ≤ start) (high : start ≤ 0) : Fits start bytes := by
    refine ⟨by decide, ?_⟩
    intro index within
    have short : 16 * index < 17 := within
    unfold InRange
    omega
  have before := fits (-16) (by decide) (by decide)
  have told : .memory 1 [98] ∈
      (Debugger.handle {} ({ script := [], output := #["ab"] } : Interpreter)
        (.fetchMemory 1 1)).notices := by
    decide +kernel
  refine ⟨before, (dumps_can_be_read.1 (-16) bytes before).1, ?_, told, ?_⟩
  · intro same
    have starts := dumps_can_be_read.2.1 (-16) bytes 0 bytes before (fits 0 (by decide) (by decide)) same
    revert starts
    decide
  · exact (dumps_can_be_read.2.2 Interpreter InterpreterError {} _ [97, 98, 10] 1 1 1 [98]
      (by decide +kernel) (by decide) told (by decide)).2

end ScriptDebugger
