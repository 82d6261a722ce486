import AmqpClient.Text.Utf8
import Mathlib.Data.List.Basic
import Mathlib.Data.List.TakeWhile

/-!
# UTF-8 read back

Decoding accepts exactly what encoding gives: each text has one form in bytes, and bytes that
are no such form are refused. Between the two stands the table of well-formed byte sequences,
which says for each lead byte what may follow it and which character the bytes spell.
-/

set_option autoImplicit false

namespace AmqpClient.Text

/-! ## Encoding, character by character -/

private theorem toList_loop (bytes : ByteArray) (index : Nat) (found : List UInt8) :
    ByteArray.toList.loop bytes index found = found.reverse ++ bytes.data.toList.drop index := by
  fun_induction ByteArray.toList.loop bytes index found with
  | case1 index found inside ih =>
      have inside' : index < bytes.data.toList.length := by simpa using inside
      rw [ih, List.drop_eq_getElem_cons inside']
      simp [ByteArray.get!, getElem!_pos, inside]
  | case2 index found outside =>
      have past : bytes.data.toList.length ≤ index := by simpa using outside
      simp [List.drop_eq_nil_of_le past]

private theorem encodeUtf8_eq (text : String) :
    encodeUtf8 text = text.toList.flatMap String.utf8EncodeChar := by
  have encoded : text.toUTF8 = text.toList.utf8Encode := String.utf8Encode_toList.symm
  rw [encodeUtf8, ByteArray.toList, toList_loop, encoded]
  simp [List.utf8Encode]

/-! ## Well-formed sequences -/

private theorem isContinuation_iff {byte : UInt8} :
    isContinuation byte = true ↔ 0x80 ≤ byte.toNat ∧ byte.toNat ≤ 0xBF := by
  simp [isContinuation, UInt8.le_iff_toNat_le]

/-- A lead byte and the bytes after it spell a character beyond ASCII. The second byte is
restricted where a shorter form, a surrogate or a code beyond the last one would be spelled. -/
inductive Spells : UInt8 → Bytes → Nat → Prop where
  | two {lead first : UInt8} (fromLow : 0xC2 ≤ lead.toNat) (toHigh : lead.toNat ≤ 0xDF)
      (continues : isContinuation first = true) :
      Spells lead [first] (lead.toNat % 32 * 64 + first.toNat % 64)
  | three {lead first second : UInt8} (fromLow : 0xE0 ≤ lead.toNat) (toHigh : lead.toNat ≤ 0xEF)
      (continues : isContinuation first = true)
      (notShorter : lead.toNat = 0xE0 → 0xA0 ≤ first.toNat)
      (noSurrogate : lead.toNat = 0xED → first.toNat ≤ 0x9F)
      (last : isContinuation second = true) :
      Spells lead [first, second]
        ((lead.toNat % 16 * 64 + first.toNat % 64) * 64 + second.toNat % 64)
  | four {lead first second third : UInt8} (fromLow : 0xF0 ≤ lead.toNat)
      (toHigh : lead.toNat ≤ 0xF4) (continues : isContinuation first = true)
      (notShorter : lead.toNat = 0xF0 → 0x90 ≤ first.toNat)
      (notBeyond : lead.toNat = 0xF4 → first.toNat ≤ 0x8F)
      (next : isContinuation second = true) (last : isContinuation third = true) :
      Spells lead [first, second, third]
        (((lead.toNat % 8 * 64 + first.toNat % 64) * 64 + second.toNat % 64) * 64 +
          third.toNat % 64)

namespace Spells

variable {lead : UInt8} {tail : Bytes} {code : Nat}

private theorem beyondAscii (spells : Spells lead tail code) : 0x80 ≤ lead.toNat := by
  cases spells <;> omega

theorem isValidChar (spells : Spells lead tail code) : code.isValidChar := by
  cases spells with
  | two fromLow toHigh continues =>
      rw [isContinuation_iff] at continues
      exact .inl (by omega)
  | three fromLow toHigh continues notShorter noSurrogate last =>
      rw [isContinuation_iff] at continues last
      rw [Nat.isValidChar]
      omega
  | four fromLow toHigh continues notShorter notBeyond next last =>
      rw [isContinuation_iff] at continues next last
      rw [Nat.isValidChar]
      omega

private theorem encode (spells : Spells lead tail code) :
    String.utf8EncodeChar (Char.ofNat code) = lead :: tail := by
  have value : (Char.ofNat code).val.toNat = code := by
    rw [Char.ofNat, dif_pos spells.isValidChar]
    rfl
  rw [String.utf8EncodeChar, value]
  cases spells with
  | two fromLow toHigh continues =>
      rw [isContinuation_iff] at continues
      rw [if_neg (by omega), if_pos (by omega)]
      simp only [List.cons.injEq, ← UInt8.toNat_inj, UInt8.toNat_ofNat', and_true]
      omega
  | three fromLow toHigh continues notShorter noSurrogate last =>
      rw [isContinuation_iff] at continues last
      rw [if_neg (by omega), if_neg (by omega), if_pos (by omega)]
      simp only [List.cons.injEq, ← UInt8.toNat_inj, UInt8.toNat_ofNat', and_true]
      omega
  | four fromLow toHigh continues notShorter notBeyond next last =>
      rw [isContinuation_iff] at continues next last
      rw [if_neg (by omega), if_neg (by omega), if_neg (by omega)]
      simp only [List.cons.injEq, ← UInt8.toNat_inj, UInt8.toNat_ofNat', and_true]
      omega

end Spells

private theorem exists_byte {value : Nat} (small : value < 256) :
    ∃ byte : UInt8, byte.toNat = value :=
  ⟨.ofNat value, by rw [UInt8.toNat_ofNat', Nat.mod_eq_of_lt small]⟩

/-- Each character beyond ASCII is spelled by some bytes. -/
theorem exists_spells {char : Char} (beyond : 0x80 ≤ char.toNat) :
    ∃ lead tail, Spells lead tail char.toNat := by
  have valid : char.toNat < 0xD800 ∨ 0xDFFF < char.toNat ∧ char.toNat < 0x110000 := char.valid
  generalize char.toNat = code at beyond valid
  have tail (value : Nat) : ∃ continuation : UInt8,
      continuation.toNat = value % 64 + 0x80 ∧ isContinuation continuation = true := by
    obtain ⟨continuation, is⟩ := exists_byte (show value % 64 + 0x80 < 256 by omega)
    exact ⟨continuation, is, isContinuation_iff.mpr (by omega)⟩
  obtain ⟨last, lastIs, lastContinues⟩ := tail code
  obtain ⟨second, secondIs, secondContinues⟩ := tail (code / 64)
  obtain ⟨third, thirdIs, thirdContinues⟩ := tail (code / 4096)
  by_cases small : code < 0x800
  · obtain ⟨lead, leadIs⟩ := exists_byte (show code / 64 + 0xC0 < 256 by omega)
    have spelled : lead.toNat % 32 * 64 + last.toNat % 64 = code := by omega
    exact ⟨lead, [last], spelled ▸ .two (by omega) (by omega) lastContinues⟩
  by_cases middling : code < 0x10000
  · obtain ⟨lead, leadIs⟩ := exists_byte (show code / 4096 + 0xE0 < 256 by omega)
    have spelled : (lead.toNat % 16 * 64 + second.toNat % 64) * 64 + last.toNat % 64 = code := by
      omega
    exact ⟨lead, [second, last], spelled ▸
      .three (by omega) (by omega) secondContinues (by omega) (by omega) lastContinues⟩
  · obtain ⟨lead, leadIs⟩ := exists_byte (show code / 262144 + 0xF0 < 256 by omega)
    have spelled : ((lead.toNat % 8 * 64 + third.toNat % 64) * 64 + second.toNat % 64) * 64 +
        last.toNat % 64 = code := by omega
    exact ⟨lead, [third, second, last], spelled ▸
      .four (by omega) (by omega) thirdContinues (by omega) (by omega) secondContinues
        lastContinues⟩

/-! ## Decoding one character -/

section

variable {low high first : UInt8} {count : Nat} {later rest : Bytes}

private theorem followers_append (inRange : low ≤ first ∧ first ≤ high)
    (continues : ∀ byte ∈ later, isContinuation byte = true) :
    followers low high (later.length + 1) (first :: later ++ rest) = first :: later := by
  simpa [followers, inRange] using continues

private theorem exists_append_of_followers
    (full : (followers low high (count + 1) rest).length = count + 1) :
    ∃ first later after, rest = first :: later ++ after ∧
      followers low high (count + 1) rest = first :: later ∧ (low ≤ first ∧ first ≤ high) ∧
      later.length = count ∧ ∀ byte ∈ later, isContinuation byte = true := by
  cases rest with
  | nil => simp [followers] at full
  | cons first rest =>
      by_cases inRange : low ≤ first ∧ first ≤ high
      · have taken : followers low high (count + 1) (first :: rest) =
            first :: (rest.take count).takeWhile isContinuation := by
          simp [followers, inRange]
        have length : ((rest.take count).takeWhile isContinuation).length = count := by
          simpa [taken] using full
        have whole : (rest.take count).takeWhile isContinuation = rest.take count := by
          refine (List.takeWhile_prefix isContinuation).eq_of_length_le ?_
          rw [length]
          exact List.length_take_le count rest
        refine ⟨first, rest.take count, rest.drop count, ?_, ?_, inRange, ?_, ?_⟩
        · simp
        · rw [taken, whole]
        · rw [← whole, length]
        · exact List.takeWhile_eq_self_iff.mp whole
      · simp [followers, inRange] at full

end

section

variable {lead : UInt8}

private theorem leadShape_of_two (fromLow : 0xC2 ≤ lead.toNat) (toHigh : lead.toNat ≤ 0xDF) :
    ∃ low high, leadShape lead = some (low, high, 1) ∧
      ∀ first, low ≤ first ∧ first ≤ high ↔ isContinuation first = true := by
  refine ⟨0x80, 0xBF, ?_, fun first => by simp [isContinuation]⟩
  simp only [leadShape, UInt8.le_iff_toNat_le, Bool.and_eq_true, decide_eq_true_eq]
  exact if_pos ⟨fromLow, toHigh⟩

private theorem leadShape_of_three (fromLow : 0xE0 ≤ lead.toNat) (toHigh : lead.toNat ≤ 0xEF) :
    ∃ low high, leadShape lead = some (low, high, 2) ∧
      ∀ first, low ≤ first ∧ first ≤ high ↔
        isContinuation first = true ∧ (lead.toNat = 0xE0 → 0xA0 ≤ first.toNat) ∧
          (lead.toNat = 0xED → first.toNat ≤ 0x9F) := by
  refine ⟨if lead.toNat = 0xE0 then 0xA0 else 0x80, if lead.toNat = 0xED then 0x9F else 0xBF,
    ?_, fun first => ?_⟩
  · simp only [leadShape, UInt8.le_iff_toNat_le, Bool.and_eq_true, decide_eq_true_eq, beq_iff_eq,
      ← UInt8.toNat_inj, UInt8.reduceToNat]
    grind
  · simp only [UInt8.le_iff_toNat_le, isContinuation_iff, apply_ite UInt8.toNat,
      UInt8.reduceToNat]
    grind

private theorem leadShape_of_four (fromLow : 0xF0 ≤ lead.toNat) (toHigh : lead.toNat ≤ 0xF4) :
    ∃ low high, leadShape lead = some (low, high, 3) ∧
      ∀ first, low ≤ first ∧ first ≤ high ↔
        isContinuation first = true ∧ (lead.toNat = 0xF0 → 0x90 ≤ first.toNat) ∧
          (lead.toNat = 0xF4 → first.toNat ≤ 0x8F) := by
  refine ⟨if lead.toNat = 0xF0 then 0x90 else 0x80, if lead.toNat = 0xF4 then 0x8F else 0xBF,
    ?_, fun first => ?_⟩
  · simp only [leadShape, UInt8.le_iff_toNat_le, Bool.and_eq_true, decide_eq_true_eq, beq_iff_eq,
      ← UInt8.toNat_inj, UInt8.reduceToNat]
    grind
  · simp only [UInt8.le_iff_toNat_le, isContinuation_iff, apply_ite UInt8.toNat,
      UInt8.reduceToNat]
    grind

private theorem range_of_leadShape (shaped : leadShape lead ≠ none) :
    (0xC2 ≤ lead.toNat ∧ lead.toNat ≤ 0xDF) ∨ (0xE0 ≤ lead.toNat ∧ lead.toNat ≤ 0xEF) ∨
      (0xF0 ≤ lead.toNat ∧ lead.toNat ≤ 0xF4) := by
  simp only [leadShape, UInt8.le_iff_toNat_le, Bool.and_eq_true, decide_eq_true_eq, beq_iff_eq,
    ← UInt8.toNat_inj, UInt8.reduceToNat] at shaped
  grind

end

/-- The code that a lead byte and the bytes after it add up to. -/
def codeOf (lead : UInt8) (tail : Bytes) : Nat :=
  tail.foldl (fun code byte => code * 64 + byte.toNat % 64) (leadBits lead tail.length)

section

variable {lead first second third : UInt8}

private theorem codeOf_two : codeOf lead [first] = lead.toNat % 32 * 64 + first.toNat % 64 := by
  simp [codeOf, leadBits]

private theorem codeOf_three :
    codeOf lead [first, second] =
      (lead.toNat % 16 * 64 + first.toNat % 64) * 64 + second.toNat % 64 := by
  simp [codeOf, leadBits]

private theorem codeOf_four :
    codeOf lead [first, second, third] =
      ((lead.toNat % 8 * 64 + first.toNat % 64) * 64 + second.toNat % 64) * 64 +
        third.toNat % 64 := by
  simp [codeOf, leadBits]

end

/-- Well-formed bytes are read as the character that they spell. -/
theorem Spells.read {lead : UInt8} {tail : Bytes} {code : Nat} (spells : Spells lead tail code)
    (rest : Bytes) :
    ∃ low high, leadShape lead = some (low, high, tail.length) ∧
      followers low high tail.length (tail ++ rest) = tail ∧ codeOf lead tail = code := by
  cases spells with
  | two fromLow toHigh continues =>
      obtain ⟨low, high, shape, inRange⟩ := leadShape_of_two fromLow toHigh
      exact ⟨low, high, shape, followers_append ((inRange _).mpr continues) nofun, codeOf_two⟩
  | three fromLow toHigh continues notShorter noSurrogate last =>
      obtain ⟨low, high, shape, inRange⟩ := leadShape_of_three fromLow toHigh
      have within := (inRange _).mpr ⟨continues, notShorter, noSurrogate⟩
      exact ⟨low, high, shape, followers_append within (by simpa using last), codeOf_three⟩
  | four fromLow toHigh continues notShorter notBeyond next last =>
      obtain ⟨low, high, shape, inRange⟩ := leadShape_of_four fromLow toHigh
      have within := (inRange _).mpr ⟨continues, notShorter, notBeyond⟩
      exact ⟨low, high, shape, followers_append within (by simp [next, last]), codeOf_four⟩

/-- What is read as a character is well formed. -/
theorem spells_of_followers {lead low high : UInt8} {count : Nat} {rest : Bytes}
    (shape : leadShape lead = some (low, high, count))
    (full : (followers low high count rest).length = count) :
    ∃ tail after, rest = tail ++ after ∧ followers low high count rest = tail ∧
      Spells lead tail (codeOf lead tail) := by
  have shaped : leadShape lead ≠ none := by simp [shape]
  rcases range_of_leadShape shaped with ⟨fromLow, toHigh⟩ | ⟨fromLow, toHigh⟩ | ⟨fromLow, toHigh⟩
  · obtain ⟨low', high', shape', inRange⟩ := leadShape_of_two fromLow toHigh
    obtain ⟨rfl, rfl, rfl⟩ : low' = low ∧ high' = high ∧ 1 = count := by
      simpa using shape'.symm.trans shape
    obtain ⟨first, later, after, split, read, within, length, -⟩ :=
      exists_append_of_followers full
    obtain rfl := List.length_eq_zero_iff.mp length
    exact ⟨_, after, split, read, codeOf_two ▸ .two fromLow toHigh ((inRange first).mp within)⟩
  · obtain ⟨low', high', shape', inRange⟩ := leadShape_of_three fromLow toHigh
    obtain ⟨rfl, rfl, rfl⟩ : low' = low ∧ high' = high ∧ 2 = count := by
      simpa using shape'.symm.trans shape
    obtain ⟨first, later, after, split, read, within, length, all⟩ :=
      exists_append_of_followers full
    obtain ⟨second, rfl⟩ := List.length_eq_one_iff.mp length
    obtain ⟨continues, notShorter, noSurrogate⟩ := (inRange first).mp within
    exact ⟨_, after, split, read, codeOf_three ▸
      .three fromLow toHigh continues notShorter noSurrogate (all second (by simp))⟩
  · obtain ⟨low', high', shape', inRange⟩ := leadShape_of_four fromLow toHigh
    obtain ⟨rfl, rfl, rfl⟩ : low' = low ∧ high' = high ∧ 3 = count := by
      simpa using shape'.symm.trans shape
    obtain ⟨first, later, after, split, read, within, length, all⟩ :=
      exists_append_of_followers full
    obtain ⟨second, third, rfl⟩ := List.length_eq_two.mp length
    obtain ⟨continues, notShorter, notBeyond⟩ := (inRange first).mp within
    exact ⟨_, after, split, read, codeOf_four ▸
      .four fromLow toHigh continues notShorter notBeyond (all second (by simp))
        (all third (by simp))⟩

/-! ## Decoding a text -/

private theorem decodePartsFrom_append (found earlier : List (Option Char)) (bytes : Bytes) :
    decodePartsFrom (found ++ earlier) bytes = earlier.reverse ++ decodePartsFrom found bytes := by
  fun_induction decodePartsFrom found bytes with
  | case1 found => rw [decodePartsFrom, List.reverse_append]
  | case2 found lead rest ascii ih =>
      rw [decodePartsFrom, if_pos ascii]
      exact ih
  | case3 found lead rest beyond shape ih =>
      rw [decodePartsFrom, if_neg beyond, shape]
      exact ih
  | case4 found lead rest beyond low high count shape tail part ih =>
      rw [decodePartsFrom, if_neg beyond, shape]
      exact ih

private theorem decodePartsFrom_eq (found : List (Option Char)) (bytes : Bytes) :
    decodePartsFrom found bytes = found.reverse ++ decodeParts bytes :=
  decodePartsFrom_append [] found bytes

section

variable {lead : UInt8} {rest : Bytes}

private theorem decodeParts_ascii (ascii : lead < 0x80) :
    decodeParts (lead :: rest) = some (Char.ofNat lead.toNat) :: decodeParts rest := by
  rw [decodeParts, decodePartsFrom, if_pos ascii, decodePartsFrom_eq]
  rfl

private theorem decodeParts_unshaped (beyond : ¬ lead < 0x80) (shape : leadShape lead = none) :
    decodeParts (lead :: rest) = none :: decodeParts rest := by
  rw [decodeParts, decodePartsFrom, if_neg beyond, shape]
  exact decodePartsFrom_eq _ _

private theorem decodeParts_shaped {low high : UInt8} {count : Nat} (beyond : ¬ lead < 0x80)
    (shape : leadShape lead = some (low, high, count)) :
    decodeParts (lead :: rest) =
      (if (followers low high count rest).length = count then
          some (Char.ofNat (codeOf lead (followers low high count rest)))
        else none) ::
        decodeParts (rest.drop (followers low high count rest).length) := by
  rw [decodeParts, decodePartsFrom, if_neg beyond, shape]
  simp only [decodePartsFrom_eq, beq_iff_eq, List.reverse_singleton, List.singleton_append]
  split
  · rename_i full
    simp only [codeOf, full]
  · rfl

end

private theorem encode_ascii {lead : UInt8} (ascii : lead < 0x80) :
    String.utf8EncodeChar (Char.ofNat lead.toNat) = [lead] := by
  have small : lead.toNat < 0x80 := UInt8.lt_iff_toNat_lt.mp ascii
  have value : (Char.ofNat lead.toNat).val.toNat = lead.toNat := by
    rw [Char.ofNat, dif_pos (.inl (by omega))]
    rfl
  rw [String.utf8EncodeChar, value, if_pos (Nat.le_of_lt_succ small), UInt8.ofNat_toNat]

private theorem decodeParts_encode (char : Char) (rest : Bytes) :
    decodeParts (String.utf8EncodeChar char ++ rest) = some char :: decodeParts rest := by
  by_cases beyond : 0x80 ≤ char.toNat
  · obtain ⟨lead, tail, spells⟩ := exists_spells beyond
    obtain ⟨low, high, shape, read, code⟩ := spells.read rest
    have notAscii : ¬ lead < 0x80 := by
      rw [UInt8.lt_iff_toNat_lt]
      exact Nat.not_lt.mpr spells.beyondAscii
    have encoded := spells.encode
    rw [Char.ofNat_toNat] at encoded
    rw [encoded, List.cons_append, decodeParts_shaped notAscii shape, read, if_pos rfl, code,
      Char.ofNat_toNat, List.drop_left]
  · obtain ⟨lead, value⟩ := exists_byte (show char.toNat < 256 by omega)
    have ascii : lead < 0x80 := by
      rw [UInt8.lt_iff_toNat_lt, value]
      exact Nat.lt_of_not_le beyond
    have same : Char.ofNat lead.toNat = char := by rw [value, Char.ofNat_toNat]
    rw [← same, encode_ascii ascii, List.singleton_append, decodeParts_ascii ascii]

private theorem decodeParts_flatMap (chars : List Char) :
    decodeParts (chars.flatMap String.utf8EncodeChar) = chars.map some := by
  induction chars with
  | nil => simp [decodeParts, decodePartsFrom]
  | cons char chars ih => rw [List.flatMap_cons, decodeParts_encode, ih, List.map_cons]

/-- Bytes that are read without a fault are those of the characters read. -/
theorem eq_flatMap_of_decodeParts {bytes : Bytes} {chars : List Char}
    (decoded : decodeParts bytes = chars.map some) :
    bytes = chars.flatMap String.utf8EncodeChar := by
  induction size : bytes.length using Nat.strongRecOn generalizing bytes chars with
  | _ size ih =>
      subst size
      cases bytes with
      | nil =>
          have none : chars = [] := by simpa [decodeParts, decodePartsFrom] using decoded
          rw [none, List.flatMap_nil]
      | cons lead rest =>
          by_cases ascii : lead < 0x80
          · rw [decodeParts_ascii ascii, eq_comm, List.map_eq_cons_iff] at decoded
            obtain ⟨char, chars, rfl, read, decoded⟩ := decoded
            rw [List.flatMap_cons, Option.some.inj read, encode_ascii ascii,
              ← ih _ (Nat.lt_succ_self _) decoded.symm rfl, List.singleton_append]
          · cases shape : leadShape lead with
            | none =>
                rw [decodeParts_unshaped ascii shape, eq_comm, List.map_eq_cons_iff] at decoded
                obtain ⟨_, _, _, read, _⟩ := decoded
                cases read
            | some limits =>
                obtain ⟨low, high, count⟩ := limits
                rw [decodeParts_shaped ascii shape, eq_comm, List.map_eq_cons_iff] at decoded
                obtain ⟨char, chars, rfl, read, decoded⟩ := decoded
                by_cases full : (followers low high count rest).length = count
                · obtain ⟨tail, after, rfl, taken, spells⟩ := spells_of_followers shape full
                  rw [if_pos full, taken, Option.some.injEq] at read
                  rw [taken, List.drop_left] at decoded
                  have shorter : after.length < (lead :: (tail ++ after)).length := by
                    rw [List.length_cons, List.length_append]
                    omega
                  rw [List.flatMap_cons, read, spells.encode, ← ih _ shorter decoded.symm rfl,
                    List.cons_append]
                · rw [if_neg full] at read
                  cases read

private theorem mapM_id_eq_some_iff {parts : List (Option Char)} {chars : List Char} :
    parts.mapM id = some chars ↔ parts = chars.map some := by
  induction parts generalizing chars with
  | nil => cases chars <;> simp
  | cons part parts ih =>
      cases part with
      | none => cases chars <;> simp
      | some char =>
          rw [List.mapM_cons]
          simp only [id_eq, bind, Option.bind_some, Option.bind_eq_some_iff, ih, pure,
            Option.some.injEq]
          cases chars with
          | nil => simp
          | cons first chars => simp [and_comm]

/-- The bytes of a text are the only ones that are read as it. -/
theorem decodeUtf8?_eq_some_iff {bytes : Bytes} {text : String} :
    decodeUtf8? bytes = some text ↔ bytes = encodeUtf8 text := by
  rw [decodeUtf8?, Option.map_eq_some_iff, encodeUtf8_eq]
  constructor
  · rintro ⟨chars, decoded, rfl⟩
    rw [String.toList_ofList]
    exact eq_flatMap_of_decodeParts (mapM_id_eq_some_iff.mp decoded)
  · rintro rfl
    exact ⟨text.toList, mapM_id_eq_some_iff.mpr (decodeParts_flatMap _), String.ofList_toList⟩

theorem decodeUtf8?_encodeUtf8 (text : String) : decodeUtf8? (encodeUtf8 text) = some text :=
  decodeUtf8?_eq_some_iff.mpr rfl

end AmqpClient.Text
