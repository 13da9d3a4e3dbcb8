import Matcher.Foundation.Json
import Matcher.Foundation.Uuid

/-!
# Identifier lists in outbox events

A list of identifiers is cut to the longest prefix whose JSON text fits the payload.
The length of that text is a closed form of the number of identifiers, and a binary
search over the closed form finds the prefix.
-/

namespace Matcher.Messaging

open Foundation

/-! ## The JSON text of a list -/

def encodeID (id : UUID) : Bytes := quoted (id.toText.toList.map some)

def encodeIDList : List UUID → Bytes
  | [] => [91, 93]
  | first :: ids => 91 :: (encodeID first ++ (ids.flatMap (fun id => 44 :: encodeID id) ++ [93]))

theorem length_encodeRune_digit : ∀ digit < 16,
    (encodeRune (some (Nat.digitChar digit))).length = 1 := by
  decide +kernel

theorem length_flatMap_hexGroup (id : UUID) (high width : ℕ) :
    (((id.hexGroup high width).map some).flatMap encodeRune).length = width := by
  have hdigits : ∀ offset ∈ List.range width, (encodeRune
      (some (Nat.digitChar (id.nibble (high - offset))))).length = 1 :=
    fun offset _ => length_encodeRune_digit _ (id.nibble_lt _)
  simp only [UUID.hexGroup, List.map_map, List.flatMap_map, List.length_flatMap]
  simp [List.map_congr_left hdigits]

theorem length_encodeID (id : UUID) : (encodeID id).length = 38 := by
  have hdash : (encodeRune (some '-')).length = 1 := by decide
  simp only [encodeID, UUID.toText, String.toList_ofList, quoted, List.map_append, List.map_cons,
    List.flatMap_append, List.flatMap_cons, List.length_cons, List.length_append,
    length_flatMap_hexGroup, hdash, List.length_nil]

/-! ## The closed form and the search -/

def uuidJSONBytes : ℤ := 38

def separatorBytes : ℤ := 1

def bracketPairBytes : ℤ := 2

def emptyArrayJSONLen : ℤ := 2

def idListSerializedSize (idCount : ℤ) : ℤ :=
  if idCount ≤ 0 then emptyArrayJSONLen
  else bracketPairBytes + idCount * uuidJSONBytes + (idCount - 1) * separatorBytes

/-- The loop of the binary search, whose midpoint is rounded upwards. -/
def largestFitting (maxBytes : ℤ) (low high : ℕ) : ℕ :=
  if low < high then
    let mid := (low + high + 1) / 2
    if idListSerializedSize mid ≤ maxBytes then largestFitting maxBytes mid high
    else largestFitting maxBytes low (mid - 1)
  else low
termination_by high - low

def truncateIDListIfTooLarge (ids : List UUID) (maxBytes : ℤ) : List UUID × ℕ :=
  let originalCount := ids.length
  if originalCount = 0 ∨ maxBytes ≤ 0 then (ids, originalCount)
  else if idListSerializedSize originalCount ≤ maxBytes then (ids, originalCount)
  else (ids.take (largestFitting maxBytes 0 originalCount), originalCount)

variable {maxBytes : ℤ} {low high : ℕ}

theorem idListSerializedSize_mono {count other : ℕ} (h : count ≤ other) :
    idListSerializedSize count ≤ idListSerializedSize other := by
  simp only [idListSerializedSize, emptyArrayJSONLen, bracketPairBytes, uuidJSONBytes,
    separatorBytes]
  split_ifs <;> omega

theorem length_encodeIDList (ids : List UUID) :
    ((encodeIDList ids).length : ℤ) = idListSerializedSize ids.length := by
  cases ids with
  | nil => rfl
  | cons _ ids =>
    have hrest : (ids.flatMap fun id => 44 :: encodeID id).length = 39 * ids.length := by
      simp [List.length_flatMap, length_encodeID, mul_comm]
    simp only [encodeIDList, List.length_cons, List.length_append, length_encodeID, hrest,
      List.length_nil, idListSerializedSize, bracketPairBytes, uuidJSONBytes, separatorBytes]
    rw [if_neg (by omega)]
    push_cast
    ring

theorem fits_iff_le_largestFitting (hle : low ≤ high) (hlow : idListSerializedSize low ≤ maxBytes)
    (hhigh : maxBytes < idListSerializedSize (high + 1 : ℕ)) (count : ℕ) :
    idListSerializedSize count ≤ maxBytes ↔ count ≤ largestFitting maxBytes low high := by
  fun_induction largestFitting maxBytes low high with
  | case1 low high hlt mid hfits ih => exact ih (by omega) hfits hhigh
  | case2 low high hlt mid hfits ih =>
    refine ih (by omega) hlow ?_
    rw [show mid - 1 + 1 = mid by omega]
    exact not_le.mp hfits
  | case3 low high hlt =>
    obtain rfl : low = high := by omega
    constructor
    · intro hcount
      by_contra hbeyond
      have hsize := idListSerializedSize_mono (show low + 1 ≤ count by omega)
      omega
    · intro hcount
      exact (idListSerializedSize_mono hcount).trans hlow

theorem exists_truncated (ids : List UUID) (hmaxBytes : 2 ≤ maxBytes) :
    ∃ kept ≤ ids.length, truncateIDListIfTooLarge ids maxBytes = (ids.take kept, ids.length) ∧
      ∀ count ≤ ids.length, idListSerializedSize count ≤ maxBytes ↔ count ≤ kept := by
  have hempty : idListSerializedSize (0 : ℕ) ≤ maxBytes := hmaxBytes
  by_cases hwhole : idListSerializedSize ids.length ≤ maxBytes
  · refine ⟨ids.length, le_rfl, ?_, fun count hcount => ?_⟩
    · simp only [truncateIDListIfTooLarge, hwhole, if_true, ite_self, List.take_length]
    · exact iff_of_true ((idListSerializedSize_mono hcount).trans hwhole) hcount
  · have hne : ids.length ≠ 0 := by
      intro hzero
      exact hwhole (hzero ▸ hempty)
    have hbeyond := (not_le.mp hwhole).trans_le (idListSerializedSize_mono (Nat.le_succ _))
    have hkept := fits_iff_le_largestFitting (Nat.zero_le _) hempty hbeyond
    refine ⟨largestFitting maxBytes 0 ids.length, ?_, ?_, fun count _ => hkept count⟩
    · exact (not_le.mp (mt (hkept _).mpr hwhole)).le
    · rw [truncateIDListIfTooLarge, if_neg (by omega), if_neg hwhole]

theorem truncateIDListIfTooLarge_longest (ids : List UUID) (hmaxBytes : 2 ≤ maxBytes) :
    ∃ truncated, truncateIDListIfTooLarge ids maxBytes = (truncated, ids.length) ∧
      truncated <+: ids ∧ (encodeIDList truncated).length ≤ maxBytes ∧
      (∀ fitting, fitting <+: ids → (encodeIDList fitting).length ≤ maxBytes →
        fitting <+: truncated) ∧
      (truncated.length = ids.length ↔ (encodeIDList ids).length ≤ maxBytes) := by
  obtain ⟨kept, hkept, htruncated, hfits⟩ := exists_truncated ids hmaxBytes
  have hlength : (ids.take kept).length = kept := List.length_take_of_le hkept
  simp only [length_encodeIDList]
  have hbegins : ids.take kept <+: ids := List.take_prefix _ _
  refine ⟨_, htruncated, hbegins, ?_, ?_, ?_⟩
  · rw [hlength]
    exact (hfits kept hkept).mpr le_rfl
  · intro fitting hextends hfitting
    have hcount := (hfits _ hextends.length_le).mp hfitting
    exact List.prefix_of_prefix_length_le hextends hbegins (hlength.symm ▸ hcount)
  · rw [hlength, hfits _ le_rfl]
    omega

theorem truncateIDListIfTooLarge_longest_one :
    ∃ truncated, truncateIDListIfTooLarge [⟨1⟩, ⟨2⟩] 50 = (truncated, 2) ∧
      truncated.length ≠ 2 := by
  obtain ⟨truncated, htruncated, -, -, -, hwhole⟩ :=
    truncateIDListIfTooLarge_longest [⟨1⟩, ⟨2⟩] (show (2 : ℤ) ≤ 50 by decide)
  refine ⟨truncated, htruncated, fun h => ?_⟩
  exact absurd (hwhole.mp h) (by decide +kernel)

end Matcher.Messaging
