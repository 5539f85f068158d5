import Cbs.Library.Lines

/-!
# Encoded text

The UTF-8 encoding of a text as a list of bytes.  A byte that continues a character shows it, and
the byte of a line feed stands for nothing else.
-/

namespace Utf8

variable (chars : List Char)

def encode : List UInt8 :=
  chars.flatMap String.utf8EncodeChar

def bytes (text : String) : List UInt8 :=
  text.toByteArray.data.toList

def isContinuation (byte : UInt8) : Bool :=
  byte &&& 0xC0 == 0x80

def newline : UInt8 :=
  10

/-- The text of some bytes, if they are the encoding of one. -/
def fromUtf8 (bytes : List UInt8) : Option String :=
  String.fromUTF8? ⟨bytes.toArray⟩

/-- The text of the longest run of the first bytes that is the encoding of one. -/
def longestText (bytes : List UInt8) : String :=
  match fromUtf8 bytes with
  | some text => text
  | none =>
    ((List.range bytes.length).reverse.findSome? fun length =>
      fromUtf8 (bytes.take length)).getD ""

theorem bytes_eq_encode (text : String) : bytes text = encode text.toList := by
  rw [bytes, ← String.utf8Encode_toList, List.utf8Encode, List.toList_data_toByteArray, encode]

@[simp] theorem fromUtf8_bytes (text : String) : fromUtf8 (bytes text) = some text := by
  have same : (⟨(bytes text).toArray⟩ : ByteArray) = text.toByteArray := by simp [bytes]
  rw [fromUtf8, same, String.fromUTF8?, dif_pos text.isValidUTF8]
  rfl

theorem fromUtf8_eq_some {content : List UInt8} {text : String} :
    fromUtf8 content = some text ↔ content = bytes text := by
  constructor
  · intro decoded
    rw [fromUtf8, String.fromUTF8?] at decoded
    split_ifs at decoded with valid
    rw [← Option.some.inj decoded]
    rfl
  · rintro rfl
    exact fromUtf8_bytes text

theorem encode_eq_bytes : encode chars = bytes (String.ofList chars) := by
  rw [bytes_eq_encode, String.toList_ofList]

@[simp] theorem longestText_encode : longestText (encode chars) = String.ofList chars := by
  rw [longestText, encode_eq_bytes, fromUtf8_bytes]

@[simp] theorem encode_nil : encode [] = [] :=
  rfl

@[simp] theorem encode_cons (first : Char) (chars : List Char) :
    encode (first :: chars) = String.utf8EncodeChar first ++ encode chars :=
  rfl

@[simp] theorem encode_append (left right : List Char) :
    encode (left ++ right) = encode left ++ encode right :=
  List.flatMap_append

theorem bytes_join (pieces : List String) : bytes (String.join pieces) = pieces.flatMap bytes := by
  rw [bytes_eq_encode, String.toList_join, encode, List.flatMap_assoc]
  exact List.flatMap_congr fun piece _ => (bytes_eq_encode piece).symm

theorem bytes_injective : Function.Injective bytes := by
  intro first second same
  have decoded := fromUtf8_bytes first
  rw [same, fromUtf8_bytes] at decoded
  exact (Option.some.inj decoded).symm

private theorem continues (value : Nat) :
    isContinuation (UInt8.ofNat (value % 64 + 128)) = true := by
  have all : ∀ low : Fin 64, isContinuation (UInt8.ofNat (low + 128)) = true := by decide
  exact all ⟨value % 64, Nat.mod_lt _ (by decide)⟩

/-- The first byte of a character does not continue one, and the others do. -/
theorem utf8EncodeChar_eq (char : Char) :
    ∃ first rest, String.utf8EncodeChar char = first :: rest ∧ isContinuation first = false ∧
      ∀ byte ∈ rest, isContinuation byte = true := by
  have low : ∀ value : Fin 128, isContinuation (UInt8.ofNat value) = false := by decide
  have two : ∀ value : Fin 32, isContinuation (UInt8.ofNat (value + 192)) = false := by decide
  have three : ∀ value : Fin 16, isContinuation (UInt8.ofNat (value + 224)) = false := by decide
  have four : ∀ value : Fin 8, isContinuation (UInt8.ofNat (value + 240)) = false := by decide
  unfold String.utf8EncodeChar
  dsimp only
  split_ifs with one short long
  · exact ⟨_, _, rfl, low ⟨_, Nat.lt_succ_of_le one⟩, by simp⟩
  · exact ⟨_, _, rfl, two ⟨_, Nat.mod_lt _ (by decide)⟩, by
      simp only [List.forall_mem_cons, continues, List.not_mem_nil, false_imp_iff, implies_true,
        and_self]⟩
  · exact ⟨_, _, rfl, three ⟨_, Nat.mod_lt _ (by decide)⟩, by
      simp only [List.forall_mem_cons, continues, List.not_mem_nil, false_imp_iff, implies_true,
        and_self]⟩
  · exact ⟨_, _, rfl, four ⟨_, Nat.mod_lt _ (by decide)⟩, by
      simp only [List.forall_mem_cons, continues, List.not_mem_nil, false_imp_iff, implies_true,
        and_self]⟩

private theorem ofNat_ne_newline {value : Nat} (large : 128 ≤ value) (small : value < 256) :
    UInt8.ofNat value ≠ newline := by
  intro same
  have values := congrArg UInt8.toNat same
  rw [UInt8.toNat_ofNat', Nat.mod_eq_of_lt small] at values
  rw [values] at large
  exact absurd large (by decide)

theorem newline_mem_utf8EncodeChar {char : Char} :
    newline ∈ String.utf8EncodeChar char ↔ char = '\n' := by
  constructor
  · intro inside
    unfold String.utf8EncodeChar at inside
    dsimp only at inside
    split_ifs at inside with one short long
    · have values := congrArg UInt8.toNat (List.mem_singleton.mp inside)
      rw [UInt8.toNat_ofNat', Nat.mod_eq_of_lt (by omega)] at values
      exact Char.ext (UInt32.toNat_inj.mp values.symm)
    all_goals
      simp only [List.mem_cons, List.not_mem_nil, or_false] at inside
      exfalso
    · rcases inside with same | same
      all_goals exact ofNat_ne_newline (by omega) (by omega) same.symm
    · rcases inside with same | same | same
      all_goals exact ofNat_ne_newline (by omega) (by omega) same.symm
    · rcases inside with same | same | same | same
      all_goals exact ofNat_ne_newline (by omega) (by omega) same.symm
  · rintro rfl
    decide

/-- What follows an offset is the remainder of a character and then characters. -/
theorem exists_drop_encode (offset : Nat) :
    ∃ cut right, (encode chars).drop offset = cut ++ encode right ∧
      ∀ byte ∈ cut, isContinuation byte = true := by
  induction chars generalizing offset with
  | nil => exact ⟨[], [], by simp, by simp⟩
  | cons char chars ih =>
    obtain ⟨first, rest, encoded, -, later⟩ := utf8EncodeChar_eq char
    rw [encode_cons]
    by_cases inside : offset < (String.utf8EncodeChar char).length
    · cases offset with
      | zero => exact ⟨[], char :: chars, rfl, by simp⟩
      | succ offset =>
        refine ⟨rest.drop offset, chars, ?_, fun byte member =>
          later byte (List.mem_of_mem_drop member)⟩
        rw [List.drop_append_of_le_length (Nat.le_of_lt inside), encoded, List.drop_succ_cons]
    · obtain ⟨further, rfl⟩ := Nat.exists_eq_add_of_le (Nat.le_of_not_lt inside)
      rw [List.drop_length_add_append]
      exact ih further

/-- What precedes a byte that does not continue a character is characters. -/
theorem exists_take_encode (offset : Nat)
    (boundary : ∀ byte ∈ (encode chars)[offset]?, isContinuation byte = false) :
    ∃ left right, chars = left ++ right ∧ (encode chars).take offset = encode left ∧
      (encode chars).drop offset = encode right := by
  induction chars generalizing offset with
  | nil => exact ⟨[], [], rfl, by simp, by simp⟩
  | cons char chars ih =>
    obtain ⟨first, rest, encoded, -, later⟩ := utf8EncodeChar_eq char
    rw [encode_cons] at boundary ⊢
    by_cases inside : offset < (String.utf8EncodeChar char).length
    · cases offset with
      | zero => exact ⟨[], char :: chars, rfl, rfl, rfl⟩
      | succ offset =>
        rw [encoded, List.length_cons, Nat.add_lt_add_iff_right] at inside
        rw [encoded, List.cons_append, List.getElem?_cons_succ,
          List.getElem?_append_left inside, List.getElem?_eq_getElem inside] at boundary
        exact absurd (later _ (List.getElem_mem inside)) (by simp [boundary])
    · obtain ⟨further, rfl⟩ := Nat.exists_eq_add_of_le (Nat.le_of_not_lt inside)
      rw [List.getElem?_append_right (Nat.le_add_right ..), Nat.add_sub_cancel_left] at boundary
      obtain ⟨left, right, rfl, taken, dropped⟩ := ih further boundary
      refine ⟨char :: left, right, rfl, ?_, ?_⟩
      · rw [List.take_length_add_append, taken, encode_cons]
      · rw [List.drop_length_add_append, dropped]

theorem isContinuation_head_encode :
    ∀ byte ∈ (encode chars).head?, isContinuation byte = false := by
  cases chars with
  | nil => simp
  | cons char chars =>
    obtain ⟨first, rest, encoded, leads, -⟩ := utf8EncodeChar_eq char
    simp [encoded, leads]

variable {cut : List UInt8}

theorem dropWhile_isContinuation (continued : ∀ byte ∈ cut, isContinuation byte = true) :
    (cut ++ encode chars).dropWhile isContinuation = encode chars := by
  rw [List.dropWhile_append_of_pos continued]
  have leads := isContinuation_head_encode chars
  cases encoded : encode chars with
  | nil => rfl
  | cons first rest =>
    rw [encoded] at leads
    rw [List.dropWhile_cons_of_neg]
    simpa using leads

theorem newline_mem_encode {chars : List Char} : newline ∈ encode chars ↔ '\n' ∈ chars := by
  simp only [encode, List.mem_flatMap, newline_mem_utf8EncodeChar, exists_eq_right]

theorem encode_joined (lines : List (List Char)) (rest : List Char) :
    encode (Lines.joined '\n' lines rest) =
      Lines.joined newline (lines.map encode) (encode rest) := by
  induction lines with
  | nil => rfl
  | cons line lines ih =>
    rw [List.map_cons, Lines.joined_cons, Lines.joined_cons, ← ih, encode_append, encode_cons]
    rfl

theorem splitOn_encode : (encode chars).splitOn newline = (chars.splitOn '\n').map encode := by
  obtain ⟨lines, rest, rfl, closed, loose⟩ := Lines.exists_joined '\n' chars
  rw [encode_joined, Lines.splitOn_joined closed loose, Lines.splitOn_joined, List.map_append,
    List.map_singleton]
  · intro line inside
    obtain ⟨plain, member, rfl⟩ := List.mem_map.mp inside
    exact fun cut => closed plain member (newline_mem_encode.mp cut)
  · exact fun cut => loose (newline_mem_encode.mp cut)

theorem newline_notMem_of_isContinuation
    (continued : ∀ byte ∈ cut, isContinuation byte = true) : newline ∉ cut :=
  fun inside => absurd (continued _ inside) (by decide)

end Utf8
