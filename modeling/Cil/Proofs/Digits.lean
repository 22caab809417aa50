import Cil.Json.Piece
import Cil.Listing.Assembly

/-!
# Hexadecimal text read back

Offsets and bytes are written in hexadecimal, and nothing of them is lost: a label gives its offset
(`readLabel?_label`) and a dump gives its bytes (`readSpaced?_spaced`). So an operand shows the
label of an instruction only if it goes there (`shows_label_iff`). The two ways to write bytes
differ in case and spaces alone (`compact_spaced`).

All of it comes down to the sixteen digits, which are tried one by one, and to two facts about
padding: zeros in front do not count (`value?_padded`), and a byte fills its two places
(`length_padded_byte`).
-/

namespace Cil

/-! ### Texts with separators, texts of digits -/

/-- The parts of a text between the separators. An empty text has no parts. -/
def separatedParts (separator : Char) (text : List Char) : List (List Char) :=
  if text = [] then [] else text.splitOn separator

theorem separatedParts_intercalate {separator : Char} {parts : List (List Char)}
    (hnil : [] ∉ parts) (hseparator : ∀ part ∈ parts, separator ∉ part) :
    separatedParts separator ([separator].intercalate parts) = parts := by
  cases parts with
  | nil => rfl
  | cons part parts =>
    have hpart : part ≠ [] := by
      rintro rfl
      exact hnil List.mem_cons_self
    have htext : [separator].intercalate (part :: parts) ≠ [] := by
      cases parts <;> simp [hpart]
    rw [separatedParts, if_neg htext, List.splitOn_intercalate _ hseparator (List.cons_ne_nil _ _)]

theorem filter_intercalate (keep : Char → Bool) (separator : List Char) (parts : List (List Char)) :
    (separator.intercalate parts).filter keep =
      (separator.filter keep).intercalate (parts.map (List.filter keep)) := by
  induction parts with
  | nil => rfl
  | cons part parts ih =>
    cases parts with
    | nil => simp
    | cons next parts =>
      rw [List.map_cons, List.map_cons, List.intercalate_cons_cons, List.intercalate_cons_cons,
        ← List.map_cons, ← ih, List.filter_append, List.filter_append]

theorem nil_intercalate (parts : List (List Char)) : [].intercalate parts = parts.flatten := by
  induction parts with
  | nil => rfl
  | cons part parts ih =>
    cases parts with
    | nil => simp
    | cons next parts =>
      rw [List.intercalate_cons_cons, ih, List.append_nil, ← List.flatten_cons]

theorem forall_mem_toDigits {P : Char → Prop} {base : Nat} (hbase : 1 < base)
    (h : ∀ digit < base, P digit.digitChar) (n : Nat) : ∀ c ∈ Nat.toDigits base n, P c := by
  induction n using Nat.strongRecOn with
  | ind n ih =>
    rw [Nat.toDigits_eq_if hbase]
    split
    · next hlt => simpa using h n hlt
    · next hle =>
      have hlast := h (n % base) (Nat.mod_lt n (by omega))
      have hrest := ih (n / base) (Nat.div_lt_self (by omega) hbase)
      simpa [or_imp, forall_and] using ⟨hrest, hlast⟩

namespace Hex

/-! ### Numbers -/

/-- The number with one more digit. -/
def append? (n : Nat) (c : Char) : Option Nat := (Json.hexDigit? c).map (16 * n + ·)

/-- The number with the given digits, of which there is at least one. Case does not count. -/
def value? (digits : List Char) : Option Nat :=
  if digits = [] then none else digits.foldlM append? 0

theorem foldlM_append?_toDigits (n : Nat) : (Nat.toDigits 16 n).foldlM append? 0 = some n := by
  have hdigit : ∀ digit < 16, Json.hexDigit? digit.digitChar = some digit := by decide
  induction n using Nat.strongRecOn with
  | ind n ih =>
    rw [Nat.toDigits_eq_if (by decide)]
    split
    · next hlt => simp [append?, hdigit n hlt]
    · next hle =>
      have hlast := hdigit (n % 16) (Nat.mod_lt n (by decide))
      rw [List.foldlM_append, ih (n / 16) (by omega)]
      simp [append?, hlast, Nat.div_add_mod]

/-- Zeros in front do not count. -/
theorem foldlM_append?_zeros (count : Nat) :
    (List.replicate count '0').foldlM append? 0 = some 0 := by
  induction count with
  | zero => rfl
  | succ count ih =>
    rw [List.replicate_succ, List.foldlM_cons]
    exact ih

theorem padded_ne_nil (width n : Nat) : padded width n ≠ [] := by
  simp [padded, List.leftpad]

theorem forall_mem_padded {P : Char → Prop} (h : ∀ digit < 16, P digit.digitChar) (width n : Nat) :
    ∀ c ∈ padded width n, P c := by
  intro c hc
  obtain hzero | hdigit := List.mem_append.1 hc
  · rw [List.eq_of_mem_replicate hzero]
    exact h 0 (by decide)
  · exact forall_mem_toDigits (by decide) h n c hdigit

theorem value?_padded (width n : Nat) : value? (padded width n) = some n := by
  rw [value?, if_neg (padded_ne_nil width n), padded, List.leftpad, List.foldlM_append,
    foldlM_append?_zeros]
  exact foldlM_append?_toDigits n

/-! ### Labels -/

/-- The offset in a label. -/
def readLabel? (text : String) : Option Nat :=
  match text.toList with
  | 'I' :: 'L' :: '_' :: digits => value? digits
  | _ => none

theorem toList_label (offset : Nat) :
    (label offset).toList = 'I' :: 'L' :: '_' :: padded 4 offset := by
  simp [label]

theorem readLabel?_label (offset : Nat) : readLabel? (label offset) = some offset := by
  rw [readLabel?, toList_label]
  exact value?_padded 4 offset

theorem label_inj {first second : Nat} : label first = label second ↔ first = second := by
  refine ⟨fun h => ?_, congrArg label⟩
  have hread := readLabel?_label first
  rw [h, readLabel?_label] at hread
  exact (Option.some.inj hread).symm

/-- A label has four digits, and more from `0x10000` on. -/
theorem length_label_lt_iff (offset : Nat) : 7 < (label offset).length ↔ 0xffff < offset := by
  have hdigits :=
    Nat.length_toDigits_le_iff (b := 16) (n := offset) (k := 4) (by decide) (by decide)
  rw [← String.length_toList, toList_label]
  simp only [padded, List.length_cons, List.length_leftpad]
  omega

theorem forall_mem_label {P : Char → Prop} (hframe : ∀ c ∈ ['I', 'L', '_'], P c)
    (hdigit : ∀ digit < 16, P digit.digitChar) (offset : Nat) :
    ∀ c ∈ (label offset).toList, P c := by
  rw [toList_label]
  intro c hc
  obtain hc | hc := List.mem_append.1 (show c ∈ ['I', 'L', '_'] ++ padded 4 offset from hc)
  · exact hframe c hc
  · exact forall_mem_padded hdigit 4 offset c hc

/-- The labels in a text that has a comma between two of them. Spaces do not count. -/
def labelsIn (text : String) : List String :=
  (separatedParts ',' (text.toList.filter (· ≠ ' '))).map String.ofList

theorem labelsIn_intercalate (offsets : List Nat) :
    labelsIn (", ".intercalate (offsets.map label)) = offsets.map label := by
  have hkeep : ∀ offset, (label offset).toList.filter (· ≠ ' ') = (label offset).toList := by
    intro offset
    exact List.filter_eq_self.2 (forall_mem_label (by simp) (by decide) offset)
  have hnil : [] ∉ offsets.map fun offset => (label offset).toList := by
    simp [toList_label]
  have hcomma : ∀ part ∈ offsets.map fun offset => (label offset).toList, ',' ∉ part := by
    intro part hpart hmem
    obtain ⟨offset, -, rfl⟩ := List.mem_map.1 hpart
    exact forall_mem_label (P := (· ≠ ',')) (by simp) (by decide) offset ',' hmem rfl
  have hseparator : ", ".toList.filter (· ≠ ' ') = [','] := by decide
  rw [labelsIn, String.toList_intercalate, filter_intercalate, hseparator, List.map_map,
    List.map_map]
  simp only [Function.comp_def, hkeep]
  rw [separatedParts_intercalate hnil hcomma, List.map_map]
  simp only [Function.comp_def, String.ofList_toList]

/-! ### Bytes -/

/-- The byte with the given digits, of which there are two. -/
def byte? (digits : List Char) : Option UInt8 :=
  if digits.length = 2 then (value? digits).map UInt8.ofNat else none

/-- The bytes in a text that has a space between two of them. -/
def readSpaced? (text : String) : Option (List UInt8) :=
  (separatedParts ' ' text.toList).mapM byte?

/-- A text in lower case and without its spaces. -/
def compact (text : String) : String :=
  String.ofList ((text.toList.filter (· ≠ ' ')).map Char.toLower)

/-- The digits of a byte in upper case. -/
def upper (byte : UInt8) : List Char := (padded 2 byte.toNat).map Char.toUpper

theorem length_padded_byte (byte : UInt8) : (padded 2 byte.toNat).length = 2 := by
  have hdigits :=
    Nat.length_toDigits_le_iff (b := 16) (n := byte.toNat) (k := 2) (by decide) (by decide)
  have hlt := byte.toNat_lt
  rw [padded, List.length_leftpad]
  omega

theorem forall_mem_upper {P : Char → Prop} (h : ∀ digit < 16, P digit.digitChar.toUpper)
    (byte : UInt8) : ∀ c ∈ upper byte, P c := by
  intro c hc
  obtain ⟨digit, hdigit, rfl⟩ := List.mem_map.1 hc
  exact forall_mem_padded (P := fun c => P c.toUpper) h 2 byte.toNat digit hdigit

theorem notMem_upper {c : Char} (h : ∀ digit < 16, digit.digitChar.toUpper ≠ c) (byte : UInt8) :
    c ∉ upper byte :=
  fun hmem => forall_mem_upper (P := (· ≠ c)) h byte c hmem rfl

theorem foldlM_append?_map {change : Char → Char} {digits : List Char}
    (h : ∀ c ∈ digits, Json.hexDigit? (change c) = Json.hexDigit? c) (n : Nat) :
    (digits.map change).foldlM append? n = digits.foldlM append? n := by
  induction digits generalizing n with
  | nil => rfl
  | cons c digits ih =>
    obtain ⟨hc, hdigits⟩ := List.forall_mem_cons.1 h
    rw [List.map_cons, List.foldlM_cons, List.foldlM_cons, append?, append?, hc]
    congr 1
    funext m
    exact ih hdigits m

theorem byte?_upper (byte : UInt8) : byte? (upper byte) = some byte := by
  have hcase : ∀ c ∈ padded 2 byte.toNat, Json.hexDigit? c.toUpper = Json.hexDigit? c :=
    forall_mem_padded (by decide) 2 byte.toNat
  have hvalue : value? (upper byte) = some byte.toNat := by
    rw [← value?_padded 2 byte.toNat]
    simp only [value?, upper, foldlM_append?_map hcase, List.map_eq_nil_iff]
  have hlength : (upper byte).length = 2 := by rw [upper, List.length_map, length_padded_byte]
  rw [byte?, if_pos hlength, hvalue, Option.map_some, UInt8.ofNat_toNat]

theorem toList_spaced (bytes : List UInt8) :
    (spaced bytes).toList = [' '].intercalate (bytes.map upper) := by
  rw [spaced, String.toList_intercalate, List.map_map]
  simp only [Function.comp_def, String.toList_ofList]
  rfl

theorem readSpaced?_spaced (bytes : List UInt8) : readSpaced? (spaced bytes) = some bytes := by
  have hnil : [] ∉ bytes.map upper := by
    simp [upper, padded_ne_nil]
  have hspace : ∀ part ∈ bytes.map upper, ' ' ∉ part := by
    intro part hpart
    obtain ⟨byte, -, rfl⟩ := List.mem_map.1 hpart
    exact notMem_upper (by decide) byte
  have hread : byte? ∘ upper = fun byte => pure (id byte) := funext byte?_upper
  rw [readSpaced?, toList_spaced, separatedParts_intercalate hnil hspace, List.mapM_map, hread,
    List.mapM_pure, List.map_id]
  rfl

theorem compact_spaced (bytes : List UInt8) : compact (spaced bytes) = packed bytes := by
  have hkeep : ∀ byte, (upper byte).filter (· ≠ ' ') = upper byte := by
    intro byte
    exact List.filter_eq_self.2 (forall_mem_upper (by decide) byte)
  have hlower : ∀ byte, (upper byte).map Char.toLower = padded 2 byte.toNat := by
    intro byte
    rw [upper, List.map_map]
    refine (List.map_congr_left ?_).trans (List.map_id _)
    exact forall_mem_padded (by decide) 2 byte.toNat
  have hspaces : (spaced bytes).toList.filter (· ≠ ' ') = (bytes.map upper).flatten := by
    rw [toList_spaced, filter_intercalate, List.filter_cons_of_neg (by decide), List.filter_nil,
      nil_intercalate, List.map_map]
    simp only [Function.comp_def, hkeep]
  rw [compact, hspaces, packed, ← String.toList_inj, String.toList_join]
  simp only [String.toList_ofList, List.map_flatten, List.map_map, Function.comp_def, hlower,
    List.flatMap]

end Hex

/-! ### Branches -/

namespace Operand

/-- Where an operand branches to, if it is one of a branch. -/
def targets? : Operand → Option (List Nat)
  | target offset => some [offset]
  | switch offsets => some offsets
  | _ => none

/-- The labels that an operand shows. -/
def labels (operand : Operand) : List String :=
  (operand.spans.filter (·.token = .label)).flatMap fun span => Hex.labelsIn span.text

theorem labels_eq {operand : Operand} {targets : List Nat} (h : operand.targets? = some targets) :
    operand.labels = targets.map Hex.label := by
  cases operand with
  | target offset =>
    obtain rfl := Option.some.inj h
    rw [← Hex.labelsIn_intercalate, List.map_singleton, String.intercalate_singleton]
    exact List.append_nil _
  | switch offsets =>
    obtain rfl := Option.some.inj h
    rw [← Hex.labelsIn_intercalate]
    exact List.append_nil _
  | _ => cases h

/-- An operand shows the label of an instruction if and only if it branches there. -/
theorem shows_label_iff {operand : Operand} {targets : List Nat}
    (h : operand.targets? = some targets) (instruction : Instruction) :
    (∃ label ∈ operand.labels, instruction.spans.head? = some ⟨.label, label ++ ": "⟩) ↔
      instruction.offset ∈ targets := by
  have hhead : instruction.spans.head? = some ⟨.label, Hex.label instruction.offset ++ ": "⟩ := rfl
  have hlabel : ∀ label, instruction.spans.head? = some ⟨.label, label ++ ": "⟩ ↔
      label = Hex.label instruction.offset := by
    intro label
    rw [hhead]
    simp [eq_comm]
  simp only [hlabel, labels_eq h, exists_eq_right, List.mem_map, Hex.label_inj]

end Operand

namespace Hex

/-- Labels and dumps keep what they show. A label gives its offset back, with more than four digits
too, so different offsets have different labels, and an operand shows the label of an instruction if
and only if it branches there. A dump of bytes gives the bytes back, and its digits are those that
end the full name of an assembly. -/
theorem digits_exact :
    (∀ offset, readLabel? (label offset) = some offset ∧
      (7 < (label offset).length ↔ 0xffff < offset)) ∧
    (∀ first second, label first = label second ↔ first = second) ∧
    (∀ (operand : Operand) (targets : List Nat) (instruction : Instruction),
      operand.targets? = some targets →
      ((∃ label ∈ operand.labels, instruction.spans.head? = some ⟨.label, label ++ ": "⟩) ↔
        instruction.offset ∈ targets)) ∧
    (∀ bytes, readSpaced? (spaced bytes) = some bytes ∧ compact (spaced bytes) = packed bytes) ∧
    ∀ (manifest : Manifest) (bytes : List UInt8), manifest.publicKeyToken = some bytes →
      bytes ≠ [] →
      manifest.fullName =
        manifest.name ++ ", Version=" ++ manifest.version.text "." ++
          ", Culture=" ++ manifest.cultureText ++
          ", PublicKeyToken=" ++ compact (spaced bytes) := by
  refine ⟨fun offset => ⟨readLabel?_label offset, length_label_lt_iff offset⟩,
    fun first second => label_inj, fun operand targets instruction h => ?_,
    fun bytes => ⟨readSpaced?_spaced bytes, compact_spaced bytes⟩, fun manifest bytes h hne => ?_⟩
  · exact operand.shows_label_iff h instruction
  · obtain ⟨byte, bytes, rfl⟩ := List.exists_cons_of_ne_nil hne
    rw [compact_spaced, Manifest.fullName, Manifest.tokenText, h]

/-- A label of five digits is taken for itself and not for the one of four that it starts with. -/
theorem digits_exact_long :
    let operand : Operand := .switch [0x12345, 0x2a]
    let there : Instruction := { offset := 0x12345, opcode := "ret" }
    let elsewhere : Instruction := { offset := 0x1234, opcode := "ret" }
    let manifest : Manifest := { name := "Sample", publicKeyToken := some [0x0a, 0xb7] }
    operand.targets? = some [0x12345, 0x2a] ∧
    (∃ label ∈ operand.labels, there.spans.head? = some ⟨.label, label ++ ": "⟩) ∧
    (¬ ∃ label ∈ operand.labels, elsewhere.spans.head? = some ⟨.label, label ++ ": "⟩) ∧
    manifest.fullName =
      "Sample, Version=0.0.0.0, Culture=neutral, PublicKeyToken=" ++ compact "0A B7" := by
  intro operand there elsewhere manifest
  obtain ⟨-, -, hbranch, -, hname⟩ := digits_exact
  refine ⟨rfl, (hbranch operand _ there rfl).2 (by decide), ?_, ?_⟩
  · rw [hbranch operand _ elsewhere rfl]
    decide
  · rw [hname manifest _ rfl (by decide)]
    decide

end Hex

end Cil
