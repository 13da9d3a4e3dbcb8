import Matcher.Foundation.Text
import Mathlib.Data.Option.Basic

/-!
# UTF-8

The bytes of a text, and the characters of bytes.  Where the bytes are not the
encoding of a character, the first of them is read alone, as no character.
-/

namespace Matcher.Foundation

variable {character : Char} {bytes : Bytes} {rest : Bytes} {byte : UInt8}

def utf8 (text : String) : Bytes := text.toList.flatMap String.utf8EncodeChar

/-- The bytes of some text. -/
def ValidUtf8 (bytes : Bytes) : Prop := ∃ text, utf8 text = bytes

/-- `utf8.DecodeRune`: the character whose encoding the bytes start with. -/
def decodeRune (bytes : Bytes) : Option Char :=
  bytes.toByteArray.utf8DecodeChar? 0

def runesFrom : ℕ → Bytes → List (Option Char)
  | _, [] => []
  | skip + 1, _ :: rest => runesFrom skip rest
  | 0, byte :: rest =>
    match decodeRune (byte :: rest) with
    | some character => some character :: runesFrom (character.utf8Size - 1) rest
    | none => none :: runesFrom 0 rest

def runes : Bytes → List (Option Char) := runesFrom 0

example : runes [0x61, 0xC3, 0xA9, 0x80, 0xE2, 0x82, 0x62] =
    [some 'a', some 'é', none, none, none, some 'b'] := by decide +kernel

theorem decodeRune_append (character : Char) (rest : Bytes) :
    decodeRune (String.utf8EncodeChar character ++ rest) = some character := by
  simp only [decodeRune, List.toByteArray_append]
  exact ByteArray.utf8DecodeChar?_utf8EncodeChar_append

theorem utf8EncodeChar_inj {other : Char} {rest' : Bytes}
    (h : String.utf8EncodeChar character ++ rest = String.utf8EncodeChar other ++ rest') :
    character = other := by
  have hdecode := decodeRune_append character rest
  rw [h, decodeRune_append] at hdecode
  exact (Option.some.inj hdecode).symm

theorem runesFrom_append (first rest : Bytes) :
    runesFrom first.length (first ++ rest) = runes rest := by
  induction first with
  | nil => rfl
  | cons _ _ ih =>
    simp only [List.length_cons, List.cons_append, runesFrom]
    exact ih

theorem runes_utf8EncodeChar_append (character : Char) (rest : Bytes) :
    runes (String.utf8EncodeChar character ++ rest) = some character :: runes rest := by
  have hdecode := decodeRune_append character rest
  have hlength := String.length_utf8EncodeChar character
  cases hbytes : String.utf8EncodeChar character with
  | nil => exact absurd hbytes String.utf8EncodeChar_ne_nil
  | cons _ tail =>
    rw [hbytes, List.cons_append] at hdecode
    rw [hbytes, List.length_cons] at hlength
    have htail : character.utf8Size - 1 = tail.length := by omega
    simp only [List.cons_append, runes, runesFrom, hdecode, htail]
    rw [runesFrom_append]
    rfl

theorem runes_utf8 (text : String) : runes (utf8 text) = text.toList.map some := by
  unfold utf8
  induction text.toList with
  | nil => rfl
  | cons _ _ ih => rw [List.flatMap_cons, runes_utf8EncodeChar_append, ih, List.map_cons]

theorem text_eq_of_runes {text other : String} (h : runes (utf8 text) = runes (utf8 other)) :
    text = other := by
  rw [runes_utf8, runes_utf8] at h
  exact String.toList_inj.mp (List.map_injective_iff.mpr (Option.some_injective Char) h)

/-! ## Bytes that belong to no character -/

theorem exists_of_decodeRune (h : decodeRune bytes = some character) :
    ∃ rest, bytes = String.utf8EncodeChar character ++ rest := by
  obtain ⟨rest, hrest⟩ := ByteArray.exists_of_utf8DecodeChar?_eq_some h
  refine ⟨rest.data.toList, ?_⟩
  have hdata := congrArg (fun bytes => bytes.data.toList) hrest
  simpa using hdata

theorem toNat_of_mem_utf8EncodeChar (h : byte ∈ String.utf8EncodeChar character) :
    byte.toNat < 0xF8 ∧ (byte.toNat = character.toNat ∨ 128 ≤ byte.toNat) := by
  have hvalue : character.val.toNat = character.toNat := rfl
  simp only [String.utf8EncodeChar] at h
  split at h
  · simp only [List.mem_cons, List.not_mem_nil, or_false] at h
    subst h
    simp
    omega
  split at h
  · simp only [List.mem_cons, List.not_mem_nil, or_false] at h
    rcases h with rfl | rfl <;> simp <;> omega
  split at h
  · simp only [List.mem_cons, List.not_mem_nil, or_false] at h
    rcases h with rfl | rfl | rfl <;> simp <;> omega
  · simp only [List.mem_cons, List.not_mem_nil, or_false] at h
    rcases h with rfl | rfl | rfl | rfl <;> simp <;> omega

theorem decodeRune_eq_none (h : 0xF8 ≤ byte.toNat) (rest : Bytes) :
    decodeRune (byte :: rest) = none := by
  cases hdecode : decodeRune (byte :: rest) with
  | none => rfl
  | some character =>
    obtain ⟨tail, htail⟩ := exists_of_decodeRune hdecode
    cases hbytes : String.utf8EncodeChar character with
    | nil => exact absurd hbytes String.utf8EncodeChar_ne_nil
    | cons =>
      rw [hbytes, List.cons_append] at htail
      have hmem : byte ∈ String.utf8EncodeChar character := by
        rw [hbytes, (List.cons.inj htail).1]
        exact List.mem_cons_self
      have hbyte := (toNat_of_mem_utf8EncodeChar hmem).1
      omega

theorem runes_cons_invalid (h : decodeRune (byte :: rest) = none) :
    runes (byte :: rest) = none :: runes rest := by
  simp only [runes, runesFrom, h]

/-- Bytes are read off the front, a character or an invalid byte at a time. -/
@[elab_as_elim]
theorem runesInduction {motive : Bytes → Prop} (nil : motive [])
    (character : ∀ character rest, motive rest → motive (String.utf8EncodeChar character ++ rest))
    (invalid : ∀ byte rest, decodeRune (byte :: rest) = none → motive rest → motive (byte :: rest))
    (bytes : Bytes) : motive bytes := by
  induction hlength : bytes.length using Nat.strongRecOn generalizing bytes with
  | ind _ ih =>
    cases bytes with
    | nil => exact nil
    | cons byte rest =>
      rw [List.length_cons] at hlength
      cases hdecode : decodeRune (byte :: rest) with
      | none => exact invalid byte rest hdecode (ih rest.length (by omega) rest rfl)
      | some found =>
        obtain ⟨tail, htail⟩ := exists_of_decodeRune hdecode
        have hlengths := congrArg List.length htail
        rw [List.length_append, List.length_cons, String.length_utf8EncodeChar] at hlengths
        have hsize := found.utf8Size_pos
        rw [htail]
        exact character found tail (ih tail.length (by omega) tail rfl)

theorem ValidUtf8.append (h : ValidUtf8 bytes) (hrest : ValidUtf8 rest) :
    ValidUtf8 (bytes ++ rest) := by
  obtain ⟨text, rfl⟩ := h
  obtain ⟨other, rfl⟩ := hrest
  exact ⟨text ++ other, by simp [utf8]⟩

theorem validUtf8_utf8EncodeChar (character : Char) : ValidUtf8 (String.utf8EncodeChar character) :=
  ⟨String.singleton character, by simp [utf8]⟩

theorem validUtf8_of_runes (h : none ∉ runes bytes) : ValidUtf8 bytes := by
  induction bytes using runesInduction with
  | nil => exact ⟨"", rfl⟩
  | character found _ ih =>
    rw [runes_utf8EncodeChar_append] at h
    exact (validUtf8_utf8EncodeChar found).append (ih fun hrest => h (List.mem_cons_of_mem _ hrest))
  | invalid _ _ hbyte =>
    rw [runes_cons_invalid hbyte] at h
    exact absurd List.mem_cons_self h

theorem exists_ne_of_not_validUtf8 (h : ¬ ValidUtf8 bytes) :
    ∃ other, runes other = runes bytes ∧ other ≠ bytes := by
  induction bytes using runesInduction with
  | nil => exact absurd ⟨"", rfl⟩ h
  | character found _ ih =>
    obtain ⟨other, hrunes, hne⟩ := ih fun hrest => h ((validUtf8_utf8EncodeChar found).append hrest)
    refine ⟨String.utf8EncodeChar found ++ other, ?_, ?_⟩
    · rw [runes_utf8EncodeChar_append, runes_utf8EncodeChar_append, hrunes]
    · exact fun heq => hne (List.append_cancel_left heq)
  | invalid byte rest hbyte =>
    have hreplaced : ∀ replaced : UInt8, 0xF8 ≤ replaced.toNat →
        runes (replaced :: rest) = runes (byte :: rest) := by
      intro replaced hreplaced
      rw [runes_cons_invalid hbyte, runes_cons_invalid (decodeRune_eq_none hreplaced rest)]
    by_cases hsame : byte = 0xFF
    · refine ⟨0xFE :: rest, hreplaced 0xFE (by decide), ?_⟩
      intro heq
      rw [hsame] at heq
      exact absurd (List.cons.inj heq).1 (by decide)
    · refine ⟨0xFF :: rest, hreplaced 0xFF (by decide), ?_⟩
      exact fun heq => hsame (List.cons.inj heq).1.symm

theorem validUtf8_iff : ValidUtf8 bytes ↔ ∀ other, runes other = runes bytes → other = bytes := by
  constructor
  · rintro ⟨text, rfl⟩ other hrunes
    have hvalid : ValidUtf8 other := by
      apply validUtf8_of_runes
      rw [hrunes, runes_utf8]
      simp
    obtain ⟨text', rfl⟩ := hvalid
    rw [text_eq_of_runes hrunes]
  · intro hunique
    by_contra hinvalid
    obtain ⟨other, hrunes, hne⟩ := exists_ne_of_not_validUtf8 hinvalid
    exact hne (hunique other hrunes)

theorem utf8EncodeChar_ascii : ∀ value : Fin 128,
    String.utf8EncodeChar (Char.ofNat value) = [UInt8.ofNat value] := by
  decide +kernel

theorem ValidUtf8.of_ascii (h : ∀ byte ∈ bytes, byte < 128) : ValidUtf8 bytes := by
  refine ⟨String.ofList (bytes.map fun byte => Char.ofNat byte.toNat), ?_⟩
  simp only [utf8, String.toList_ofList]
  induction bytes with
  | nil => rfl
  | cons byte _ ih =>
    have hbyte : byte.toNat < 128 := h byte List.mem_cons_self
    rw [List.map_cons, List.flatMap_cons, utf8EncodeChar_ascii ⟨byte.toNat, hbyte⟩,
      ih fun other hother => h other (List.mem_cons_of_mem byte hother)]
    simp

/-! ## Cuts -/

theorem toByteArray_utf8 (text : String) : (utf8 text).toByteArray = text.toByteArray :=
  String.utf8Encode_toList

theorem validUtf8_iff_isValidUTF8 : ValidUtf8 bytes ↔ bytes.toByteArray.IsValidUTF8 := by
  constructor
  · rintro ⟨text, rfl⟩
    exact ⟨text.toList, rfl⟩
  · rintro ⟨characters, hbytes⟩
    refine ⟨String.ofList characters, ?_⟩
    rw [utf8, String.toList_ofList]
    exact (List.toByteArray_inj.mp hbytes).symm

/-- What is cut off a text is a text when a character starts at the cut. -/
theorem validUtf8_take_iff (text : String) (count : ℕ) :
    ValidUtf8 ((utf8 text).take count) ↔ ∀ byte ∈ (utf8 text)[count]?, byte.IsUTF8FirstByte := by
  have hsize : (utf8 text).length = text.toByteArray.size := by
    rw [← toByteArray_utf8, List.size_toByteArray]
  by_cases hcount : (utf8 text).length ≤ count
  · rw [List.take_of_length_le hcount, List.getElem?_eq_none hcount]
    simp [ValidUtf8]
  · rw [not_le] at hcount
    have htake : ((utf8 text).take count).toByteArray = text.toByteArray.extract 0 count := by
      rw [← toByteArray_utf8]
      apply ByteArray.ext
      simp [ByteArray.data_extract]
    have hcut := String.Pos.Raw.isValid_iff_isUTF8FirstByte (s := text) (p := ⟨count⟩)
    rw [String.Pos.Raw.isValid_iff_isValidUTF8_extract_zero] at hcut
    rw [validUtf8_iff_isValidUTF8, htake, List.getElem?_eq_getElem hcount]
    have hlt : (⟨count⟩ : String.Pos.Raw) < text.rawEndPos := by
      rw [hsize] at hcount
      exact hcount
    have hbyte : text.getUTF8Byte ⟨count⟩ hlt = (utf8 text)[count] := by
      rw [String.getUTF8Byte_eq_getElem, List.getElem_eq_getElem_toByteArray]
      simp only [toByteArray_utf8]
    constructor
    · intro hvalid byte hmem
      obtain hend | ⟨_, hfirst⟩ := hcut.mp ⟨String.Pos.Raw.le_of_lt hlt, hvalid⟩
      · exact absurd hend (String.Pos.Raw.ne_of_lt hlt)
      · rw [← Option.some.inj hmem, ← hbyte]
        exact hfirst
    · intro hfirst
      exact (hcut.mpr (.inr ⟨hlt, hbyte ▸ hfirst _ rfl⟩)).2

end Matcher.Foundation
