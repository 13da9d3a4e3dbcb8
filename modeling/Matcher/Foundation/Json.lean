import Matcher.Foundation.ByteText
import Matcher.Foundation.Digits
import Matcher.Foundation.Utf8

/-!
# JSON text

The encoding of `encoding/json` for objects of texts and numbers.  Characters that
are not safe in HTML are escaped, and so is a byte that belongs to no character.
The text of an object ends with the object, and gives back its members, with the
characters of their texts.
-/

namespace Matcher.Foundation

variable {character : Char} {byte : UInt8} {rune : Option Char}

/-! ## Characters -/

def shortEscapes : List (Char × Bytes) := [
  ('"', ascii "\\\""), ('\\', ascii "\\\\"), ('\x08', ascii "\\b"),
  ('\x0c', ascii "\\f"), ('\n', ascii "\\n"), ('\r', ascii "\\r"),
  ('\t', ascii "\\t"), ('\u2028', ascii "\\u2028"),
  ('\u2029', ascii "\\u2029")]

def escape (character : Char) : Option Bytes :=
  match shortEscapes.lookup character with
  | some text => some text
  | none =>
    if character.toNat < 32 ∨ character ∈ ['<', '>', '&'] then
      some (ascii "\\u00" ++ hexPair 97 (UInt8.ofNat character.toNat))
    else none

def encodeRune : Option Char → Bytes
  | none => ascii "\\ufffd"
  | some character => (escape character).getD (String.utf8EncodeChar character)

def escapedRunes : List (Option Char) :=
  none :: some '\u2028' :: some '\u2029' ::
    (((List.range 128).map Char.ofNat).filter fun character =>
      (escape character).isSome).map some

theorem escapedRunes_prefixFree : ∀ rune ∈ escapedRunes, ∀ other ∈ escapedRunes,
    (encodeRune rune).isPrefixOf (encodeRune other) → rune = other := by
  decide +kernel

theorem encodeRune_of_mem_escapedRunes : ∀ rune ∈ escapedRunes,
    (encodeRune rune).head? = some 92 ∧ (encodeRune rune).all (32 ≤ ·) := by
  decide +kernel

theorem escape_of_wide (hwide : 128 ≤ character.toNat) (hline : character ≠ '\u2028')
    (hparagraph : character ≠ '\u2029') : escape character = none := by
  have hkeys : ∀ pair ∈ shortEscapes, pair.1.toNat < 128 ∨
      pair.1 = '\u2028' ∨ pair.1 = '\u2029' := by decide
  have hlookup : shortEscapes.lookup character = none := by
    rw [List.lookup_eq_none_iff]
    intro pair hpair
    simp only [bne_iff_ne, ne_eq]
    rintro rfl
    rcases hkeys pair hpair with hsmall | heq | heq
    · omega
    · exact hline heq
    · exact hparagraph heq
  have hunsafe : ¬ (character.toNat < 32 ∨ character ∈ ['<', '>', '&']) := by
    rintro (hsmall | hmem)
    · omega
    · simp only [List.mem_cons, List.not_mem_nil, or_false] at hmem
      rcases hmem with rfl | rfl | rfl
      all_goals exact absurd hwide (by decide)
  simp only [escape, hlookup, hunsafe, if_false]

theorem mem_escapedRunes_or_copied (rune : Option Char) :
    rune ∈ escapedRunes ∨ ∃ character, rune = some character ∧ escape character = none := by
  cases rune with
  | none => exact .inl List.mem_cons_self
  | some character =>
    have hascii : ∀ value : Fin 128, escape (Char.ofNat value) = none ∨
        some (Char.ofNat value) ∈ escapedRunes := by decide +kernel
    by_cases hsmall : character.toNat < 128
    · have hcharacter := hascii ⟨character.toNat, hsmall⟩
      simp only [Char.ofNat_toNat] at hcharacter
      rcases hcharacter with hnone | hmem
      · exact .inr ⟨character, rfl, hnone⟩
      · exact .inl hmem
    · by_cases hline : character = '\u2028'
      · exact .inl (by simp [escapedRunes, hline])
      by_cases hparagraph : character = '\u2029'
      · exact .inl (by simp [escapedRunes, hparagraph])
      exact .inr ⟨character, rfl, escape_of_wide (by omega) hline hparagraph⟩

theorem encodeRune_of_copied (h : escape character = none) :
    encodeRune (some character) = String.utf8EncodeChar character := by
  simp [encodeRune, h]

theorem copied_ne_cons (h : escape character = none) (byte : Fin 128)
    (hbyte : escape (Char.ofNat byte) ≠ none) {rest tail : Bytes} :
    encodeRune (some character) ++ rest ≠ UInt8.ofNat byte :: tail := by
  intro heq
  rw [encodeRune_of_copied h, ← List.singleton_append, ← utf8EncodeChar_ascii byte] at heq
  rw [utf8EncodeChar_inj heq] at h
  exact hbyte h

theorem escaped_eq_cons (h : rune ∈ escapedRunes) : ∃ tail, encodeRune rune = 92 :: tail := by
  have hhead := (encodeRune_of_mem_escapedRunes rune h).1
  cases hencode : encodeRune rune with
  | nil =>
    rw [hencode] at hhead
    cases hhead
  | cons _ tail =>
    rw [hencode] at hhead
    cases hhead
    exact ⟨tail, rfl⟩

theorem encodeRune_delimited : Delimited (fun _ => True) encodeRune := by
  intro rune other rest rest' _ _ h
  have hrune : rune = other := by
    rcases mem_escapedRunes_or_copied rune with hmem | ⟨character, rfl, hnone⟩
    · rcases mem_escapedRunes_or_copied other with hmem' | ⟨character, rfl, hnone⟩
      · rcases List.prefix_or_prefix_of_prefix (List.prefix_append _ rest)
          (h ▸ List.prefix_append _ rest') with hprefix | hprefix
        · exact escapedRunes_prefixFree rune hmem other hmem'
            (List.isPrefixOf_iff_prefix.mpr hprefix)
        · exact (escapedRunes_prefixFree other hmem' rune hmem
            (List.isPrefixOf_iff_prefix.mpr hprefix)).symm
      · obtain ⟨tail, htail⟩ := escaped_eq_cons hmem
        rw [htail] at h
        exact absurd h.symm (copied_ne_cons hnone 92 (by decide))
    · rcases mem_escapedRunes_or_copied other with hmem' | ⟨other, rfl, hnone'⟩
      · obtain ⟨tail, htail⟩ := escaped_eq_cons hmem'
        rw [htail] at h
        exact absurd h (copied_ne_cons hnone 92 (by decide))
      · rw [encodeRune_of_copied hnone, encodeRune_of_copied hnone'] at h
        rw [utf8EncodeChar_inj h]
  subst hrune
  exact ⟨rfl, List.append_cancel_left h⟩

/-! ## Texts and numbers -/

def quoted (characters : List (Option Char)) : Bytes :=
  34 :: (characters.flatMap encodeRune ++ [34])

example : quoted (runes (ascii "a<\"\t" ++ [0xFF])) =
    ascii "\"a\\u003c\\\"\\t\\ufffd\"" := by decide +kernel

theorem encodeRune_ne_quote (rune : Option Char) :
    ∃ byte tail, encodeRune rune = byte :: tail ∧ byte ≠ 34 := by
  rcases mem_escapedRunes_or_copied rune with hmem | ⟨character, rfl, hnone⟩
  · obtain ⟨tail, htail⟩ := escaped_eq_cons hmem
    exact ⟨92, tail, htail, by decide⟩
  · cases hencode : encodeRune (some character) with
    | nil =>
      rw [encodeRune_of_copied hnone] at hencode
      exact absurd hencode String.utf8EncodeChar_ne_nil
    | cons byte tail =>
      refine ⟨byte, tail, rfl, ?_⟩
      rintro rfl
      apply copied_ne_cons hnone 34 (by decide)
      rw [List.append_nil, hencode]
      rfl

theorem quoted_delimited : Delimited (fun _ => True) quoted :=
  (encodeRune_delimited.flatMap_stop encodeRune_ne_quote fun _ _ => trivial).cons 34

inductive JsonValue
  | text (characters : List (Option Char))
  | number (value : ℤ)
deriving DecidableEq

variable {entry : String × JsonValue} {members : List (String × JsonValue)}

def JsonValue.encode : JsonValue → Bytes
  | .text characters => quoted characters
  | .number value => signedDecimal 1 value

theorem JsonValue.encode_delimited : Delimited NoDigit JsonValue.encode := by
  intro value other rest rest' hrest hrest' h
  cases value with
  | text =>
    cases other with
    | text =>
      obtain ⟨rfl, htail⟩ := quoted_delimited trivial trivial h
      exact ⟨rfl, htail⟩
    | number =>
      exact absurd h.symm (signedDecimal_ne_cons (by decide) (by decide) (by decide))
  | number number =>
    cases other with
    | text => exact absurd h (signedDecimal_ne_cons (by decide) (by decide) (by decide))
    | number =>
      obtain ⟨rfl, htail⟩ := signedDecimal_delimited (by decide) hrest hrest' h
      exact ⟨rfl, htail⟩

/-! ## Objects -/

def encodeMember (entry : String × JsonValue) : Bytes :=
  quoted (entry.1.toList.map some) ++ 58 :: entry.2.encode

/-- A comma comes before every member but the first. -/
def encodeObject : List (String × JsonValue) → Bytes
  | [] => [123, 125]
  | first :: members =>
    123 :: (encodeMember first ++
      (members.flatMap (fun entry => 44 :: encodeMember entry) ++ [125]))

theorem encodeMember_delimited : Delimited NoDigit encodeMember := by
  have hname : Delimited (fun _ => True) fun name : String => quoted (name.toList.map some) := by
    apply quoted_delimited.comp
    intro name other h
    exact String.toList_inj.mp (List.map_injective_iff.mpr (Option.some_injective Char) h)
  exact hname.append (JsonValue.encode_delimited.cons 58) fun _ _ _ => trivial

theorem noDigit_members (members : List (String × JsonValue)) (rest : Bytes) :
    NoDigit (members.flatMap (fun entry => 44 :: encodeMember entry) ++ 125 :: rest) := by
  cases members with
  | nil => exact noDigit_cons (by decide) rest
  | cons => exact noDigit_cons (by decide) _

theorem members_delimited : Delimited (fun _ => True)
    fun members : List (String × JsonValue) =>
      members.flatMap (fun entry => 44 :: encodeMember entry) ++ [125] :=
  (encodeMember_delimited.cons 44).flatMap_stop
    (fun entry => ⟨44, encodeMember entry, rfl, by decide⟩) noDigit_members

theorem encodeObject_delimited : Delimited (fun _ => True) encodeObject := by
  have hnonempty : Delimited (fun _ => True)
      fun members : (String × JsonValue) × List (String × JsonValue) =>
        encodeObject (members.1 :: members.2) := by
    apply Delimited.cons
    apply encodeMember_delimited.append members_delimited
    intro members rest _
    rw [List.append_assoc]
    exact noDigit_members members rest
  intro members others rest rest' _ _ h
  cases members with
  | nil =>
    cases others with
    | nil => exact ⟨rfl, List.append_cancel_left h⟩
    | cons => exact absurd (List.cons.inj (List.cons.inj h).2).1 (by decide)
  | cons first members =>
    cases others with
    | nil => exact absurd (List.cons.inj (List.cons.inj h).2).1 (by decide)
    | cons other others =>
      obtain ⟨hmembers, htail⟩ := @hnonempty (first, members)
        (other, others) rest rest' trivial trivial h
      obtain ⟨rfl, rfl⟩ := Prod.mk.inj hmembers
      exact ⟨rfl, htail⟩

/-! ## Printable bytes -/

theorem le_of_mem_encodeRune (h : byte ∈ encodeRune rune) : 32 ≤ byte.toNat := by
  rcases mem_escapedRunes_or_copied rune with hmem | ⟨character, rfl, hnone⟩
  · have hall := (encodeRune_of_mem_escapedRunes rune hmem).2
    exact of_decide_eq_true (List.all_eq_true.mp hall byte h)
  · have hprintable : 32 ≤ character.toNat := by
      by_contra hsmall
      unfold escape at hnone
      split at hnone
      · cases hnone
      · rw [if_pos (.inl (by omega))] at hnone
        cases hnone
    rw [encodeRune_of_copied hnone] at h
    rcases (toNat_of_mem_utf8EncodeChar h).2 with heq | hwide <;> omega

theorem le_of_mem_quoted {characters : List (Option Char)}
    (h : byte ∈ quoted characters) : 32 ≤ byte.toNat := by
  simp only [quoted, List.mem_cons, List.mem_append, List.mem_flatMap, List.not_mem_nil,
    or_false] at h
  rcases h with rfl | ⟨rune, -, hrune⟩ | rfl
  · decide
  · exact le_of_mem_encodeRune hrune
  · decide

theorem le_of_mem_encodeMember (h : byte ∈ encodeMember entry) : 32 ≤ byte.toNat := by
  obtain ⟨name, value⟩ := entry
  simp only [encodeMember, List.mem_append, List.mem_cons] at h
  rcases h with hname | rfl | hvalue
  · exact le_of_mem_quoted hname
  · decide
  · cases value with
    | text => exact le_of_mem_quoted hvalue
    | number =>
      rcases mem_signedDecimal hvalue with hdigit | rfl
      · exact hdigit.bounds.1
      · decide

/-- Line breaks are escaped, so an object is one line. -/
theorem le_of_mem_encodeObject (h : byte ∈ encodeObject members) : 32 ≤ byte.toNat := by
  cases members with
  | nil =>
    simp only [encodeObject, List.mem_cons, List.not_mem_nil, or_false] at h
    rcases h with rfl | rfl <;> decide
  | cons =>
    simp only [encodeObject, List.mem_cons, List.mem_append, List.mem_flatMap,
      List.not_mem_nil, or_false] at h
    rcases h with rfl | hfirst | ⟨entry, -, rfl | hentry⟩ | rfl
    · decide
    · exact le_of_mem_encodeMember hfirst
    · decide
    · exact le_of_mem_encodeMember hentry
    · decide

theorem getLast?_encodeObject (members : List (String × JsonValue)) :
    (encodeObject members).getLast? = some 125 := by
  cases members with
  | nil => rfl
  | cons =>
    rw [encodeObject, ← List.append_assoc, ← List.cons_append]
    exact List.getLast?_concat

/-! ## Lengths -/

theorem length_le_quoted (characters : List (Option Char)) :
    characters.length ≤ (quoted characters).length := by
  have hflatMap : characters.length ≤ (characters.flatMap encodeRune).length := by
    induction characters with
    | nil => exact le_refl 0
    | cons rune =>
      obtain ⟨byte, tail, hrune, -⟩ := encodeRune_ne_quote rune
      simp only [List.flatMap_cons, hrune, List.length_append, List.length_cons]
      omega
  simp only [quoted, List.length_cons, List.length_append, List.length_nil]
  omega

theorem length_encode_le (h : entry ∈ members) :
    entry.2.encode.length ≤ (encodeObject members).length := by
  have hmember : ∀ other : String × JsonValue,
      other.2.encode.length ≤ (encodeMember other).length := by
    intro other
    simp only [encodeMember, List.length_append, List.length_cons]
    omega
  cases members with
  | nil => cases h
  | cons _ members =>
    simp only [encodeObject, List.length_cons, List.length_append]
    rcases List.mem_cons.mp h with rfl | hmem
    · have hfirst := hmember entry
      omega
    · have hrest : (44 :: encodeMember entry).length ≤
          (members.flatMap fun entry => 44 :: encodeMember entry).length := by
        rw [List.flatMap_def]
        apply List.Sublist.length_le
        exact List.sublist_flatten_of_mem (List.mem_map.mpr ⟨entry, hmem, rfl⟩)
      have hentry := hmember entry
      rw [List.length_cons] at hrest
      omega

/-! ## Members that may be left out -/

def present (members : List (String × Option JsonValue)) : List (String × JsonValue) :=
  members.filterMap fun entry => entry.2.map fun value => (entry.1, value)

@[simp] theorem present_cons_none (name : String) (members : List (String × Option JsonValue)) :
    present ((name, none) :: members) = present members := rfl

@[simp] theorem present_cons_some (name : String) (value : JsonValue)
    (members : List (String × Option JsonValue)) :
    present ((name, some value) :: members) = (name, value) :: present members := rfl

theorem mem_names_of_mem_present {members : List (String × Option JsonValue)}
    (h : entry ∈ present members) : entry.1 ∈ members.map Prod.fst := by
  obtain ⟨found, hfound, hentry⟩ := List.mem_filterMap.mp h
  obtain ⟨value, -, rfl⟩ := Option.map_eq_some_iff.mp hentry
  exact List.mem_map_of_mem hfound

theorem present_inj {members others : List (String × Option JsonValue)}
    (hnames : members.map Prod.fst = others.map Prod.fst) (hnodup : (members.map Prod.fst).Nodup)
    (h : present members = present others) : members = others := by
  induction members generalizing others with
  | nil =>
    cases others with
    | nil => rfl
    | cons => cases hnames
  | cons entry members ih =>
    cases others with
    | nil => cases hnames
    | cons other others =>
      obtain ⟨name, value⟩ := entry
      obtain ⟨name', value'⟩ := other
      rw [List.map_cons, List.map_cons] at hnames
      obtain ⟨rfl, htails⟩ := List.cons.inj hnames
      rw [List.map_cons, List.nodup_cons] at hnodup
      obtain ⟨hname, hnodup⟩ := hnodup
      cases value with
      | none =>
        cases value' with
        | none => rw [ih htails hnodup h]
        | some found =>
          simp only [present_cons_none, present_cons_some] at h
          have hmem := mem_names_of_mem_present
            (h ▸ List.mem_cons_self : (name, found) ∈ present members)
          exact absurd hmem hname
      | some found =>
        cases value' with
        | none =>
          simp only [present_cons_none, present_cons_some] at h
          have hmem := mem_names_of_mem_present
            (h ▸ List.mem_cons_self : (name, found) ∈ present others)
          rw [← htails] at hmem
          exact absurd hmem hname
        | some =>
          simp only [present_cons_some] at h
          obtain ⟨hentry, hpresent⟩ := List.cons.inj h
          rw [ih htails hnodup hpresent, (Prod.mk.inj hentry).2]

end Matcher.Foundation
