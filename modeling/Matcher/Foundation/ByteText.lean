import Matcher.Foundation.Text
import Mathlib.Data.Fintype.Basic

/-!
# Byte strings

The functions of the Go standard library on arbitrary byte strings that the
program uses: hexadecimal text, the escaping of query components and the trimming
of white space, which is known by its UTF-8 encodings.
-/

namespace Matcher.Foundation

def ascii (text : String) : Bytes :=
  text.toList.map fun character => UInt8.ofNat character.toNat

def colon : UInt8 := 58

/-! ## Hexadecimal digits -/

/-- The digit, with the letters from the given one on. -/
def hexDigit (letter value : ℕ) : UInt8 :=
  UInt8.ofNat (if value < 10 then 48 + value else letter + (value - 10))

def hexPair (letter : ℕ) (byte : UInt8) : Bytes :=
  [hexDigit letter (byte.toNat / 16), hexDigit letter (byte.toNat % 16)]

/-- `hex.EncodeToString`. -/
def hexEncode (bytes : Bytes) : Bytes := bytes.flatMap (hexPair 97)

theorem hexDigit_injective : ∀ value other : Fin 16,
    hexDigit 97 value = hexDigit 97 other → value = other := by
  decide +kernel

theorem hexPair_injective {byte other : UInt8} (h : hexPair 97 byte = hexPair 97 other) :
    byte = other := by
  obtain ⟨hhigh, hlow⟩ := List.cons.inj h
  have hbyte := byte.toNat_lt
  have hother := other.toNat_lt
  have hhigh := hexDigit_injective ⟨byte.toNat / 16, by omega⟩ ⟨other.toNat / 16, by omega⟩ hhigh
  have hlow := hexDigit_injective ⟨byte.toNat % 16, by omega⟩
    ⟨other.toNat % 16, by omega⟩ (List.cons.inj hlow).1
  rw [Fin.mk.injEq] at hhigh hlow
  apply UInt8.toNat_inj.mp
  omega

theorem hexEncode_injective : Function.Injective hexEncode := by
  intro bytes other h
  induction bytes generalizing other with
  | nil =>
    cases other with
    | nil => rfl
    | cons => cases h
  | cons byte rest ih =>
    cases other with
    | nil => cases h
    | cons byte' rest' =>
      have h : hexPair 97 byte ++ hexEncode rest = hexPair 97 byte' ++ hexEncode rest' := h
      obtain ⟨hbyte, hrest⟩ := List.append_inj h rfl
      rw [hexPair_injective hbyte, ih hrest]

/-! ## Query components -/

def isUnreserved (byte : UInt8) : Bool :=
  (65 ≤ byte && byte ≤ 90) || (97 ≤ byte && byte ≤ 122) ||
    (48 ≤ byte && byte ≤ 57) || byte = 45 || byte = 95 || byte = 46 ||
    byte = 126

def queryEscapeByte (byte : UInt8) : Bytes :=
  if isUnreserved byte then [byte]
  else if byte = 32 then [43]
  else 37 :: hexPair 65 byte

/-- `url.QueryEscape`. -/
def queryEscape (text : Bytes) : Bytes := text.flatMap queryEscapeByte

theorem count_colon_flatMap {encode : UInt8 → Bytes}
    (h : ∀ value : Fin 256, (encode (UInt8.ofFin value)).count colon = 0) (bytes : Bytes) :
    (bytes.flatMap encode).count colon = 0 := by
  induction bytes with
  | nil => rfl
  | cons byte _ ih =>
    have hbyte : (encode byte).count colon = 0 := h byte.toFin
    rw [List.flatMap_cons, List.count_append, hbyte, ih]

theorem count_colon_hexEncode (bytes : Bytes) : (hexEncode bytes).count colon = 0 :=
  count_colon_flatMap (by decide +kernel) bytes

theorem count_colon_queryEscape (text : Bytes) : (queryEscape text).count colon = 0 :=
  count_colon_flatMap (by decide +kernel) text

/-! ## White space -/

/-- The UTF-8 encodings of the characters `unicode.IsSpace` accepts. -/
def spaceEncodings : List Bytes :=
  [[9], [10], [11], [12], [13], [32], [0xC2, 0x85], [0xC2, 0xA0],
    [0xE1, 0x9A, 0x80], [0xE2, 0x80, 0x80], [0xE2, 0x80, 0x81],
    [0xE2, 0x80, 0x82], [0xE2, 0x80, 0x83], [0xE2, 0x80, 0x84],
    [0xE2, 0x80, 0x85], [0xE2, 0x80, 0x86], [0xE2, 0x80, 0x87],
    [0xE2, 0x80, 0x88], [0xE2, 0x80, 0x89], [0xE2, 0x80, 0x8A],
    [0xE2, 0x80, 0xA8], [0xE2, 0x80, 0xA9], [0xE2, 0x80, 0xAF],
    [0xE2, 0x81, 0x9F], [0xE3, 0x80, 0x80]]

/-- Cuts the encodings off the start, at most as often as there is fuel. -/
def trimEncodings (encodings : List Bytes) : ℕ → Bytes → Bytes
  | 0, bytes => bytes
  | fuel + 1, bytes =>
    match encodings.find? (·.isPrefixOf bytes) with
    | none => bytes
    | some encoding => trimEncodings encodings fuel (bytes.drop encoding.length)

/-- `strings.TrimSpace`; no byte string has more spaces than bytes. -/
def trimSpaceBytes (bytes : Bytes) : Bytes :=
  let left := trimEncodings spaceEncodings bytes.length bytes
  (trimEncodings (spaceEncodings.map List.reverse) left.length left.reverse).reverse

example : trimSpaceBytes (ascii " \t key \n") = ascii "key" := by
  decide +kernel

/-! ## Order -/

/-- The order of `sort.Strings`. -/
def bytesLe : Bytes → Bytes → Bool
  | [], _ => true
  | _ :: _, [] => false
  | byte :: rest, byte' :: rest' => byte < byte' || (byte = byte' && bytesLe rest rest')

end Matcher.Foundation
