import Matcher.Foundation.Text
import Mathlib.Data.List.Basic

/-!
# Lines of a text

`bufio.Scanner` with `ScanLines` and a buffer of fixed size.  A line ends at its
newline or at the end of the text, and loses a carriage return at its end.  The
scanner gives up when its buffer is full before it has met a newline.
-/

namespace Matcher.Foundation

variable {limit : ℕ}

def lineFeed : UInt8 := 10

def carriageReturn : UInt8 := 13

def dropCR (line : Bytes) : Bytes :=
  if line.getLast? = some carriageReturn then line.dropLast else line

/-- The lines from the one in the buffer on, or none for `bufio.ErrTooLong`. -/
def scanLinesFrom (limit : ℕ) (buffer : Bytes) : Bytes → Option (List Bytes)
  | [] => some (if buffer = [] then [] else [dropCR buffer])
  | byte :: rest =>
    if byte = lineFeed then
      (scanLinesFrom limit [] rest).map (dropCR buffer :: ·)
    else if limit ≤ buffer.length + 1 then none
    else scanLinesFrom limit (buffer ++ [byte]) rest

def scanLines (limit : ℕ) : Bytes → Option (List Bytes) := scanLinesFrom limit []

example : scanLines 4 [97, 98, 99, 10, 10, 97, 13, 10, 98] =
    some [[97, 98, 99], [], [97], [98]] := by decide

example : scanLines 4 [97, 98, 99, 100, 10] = none := by decide

theorem scanLinesFrom_append {buffer line : Bytes} (hline : lineFeed ∉ line)
    (hlength : buffer.length + line.length < limit) (rest : Bytes) :
    scanLinesFrom limit buffer (line ++ lineFeed :: rest) =
      (scanLines limit rest).map (dropCR (buffer ++ line) :: ·) := by
  induction line generalizing buffer with
  | nil => simp [scanLinesFrom, scanLines]
  | cons _ _ ih =>
    rw [List.mem_cons, not_or] at hline
    rw [List.length_cons] at hlength
    have hroom : ¬ limit ≤ buffer.length + 1 := by omega
    rw [List.cons_append, scanLinesFrom, if_neg (Ne.symm hline.1), if_neg hroom, ih hline.2]
    · rw [List.append_assoc, List.singleton_append]
    · rw [List.length_append, List.length_singleton]
      omega

theorem scanLinesFrom_eq_none {buffer line : Bytes} (hline : lineFeed ∉ line)
    (hbuffer : buffer.length < limit) (hlength : limit ≤ buffer.length + line.length)
    (rest : Bytes) : scanLinesFrom limit buffer (line ++ rest) = none := by
  induction line generalizing buffer with
  | nil =>
    rw [List.length_nil] at hlength
    omega
  | cons _ _ ih =>
    rw [List.mem_cons, not_or] at hline
    rw [List.length_cons] at hlength
    rw [List.cons_append, scanLinesFrom, if_neg (Ne.symm hline.1)]
    split
    · rfl
    next hroom =>
      apply ih hline.2
      all_goals
        rw [List.length_append, List.length_singleton]
        omega

/-- Lines that end in neither of the two bytes are read back, unless one of them
is too long. -/
theorem scanLines_flatMap (hlimit : 0 < limit) {lines : List Bytes}
    (hlines : ∀ line ∈ lines, lineFeed ∉ line ∧ line.getLast? ≠ some carriageReturn) :
    scanLines limit (lines.flatMap (· ++ [lineFeed])) =
      if ∀ line ∈ lines, line.length < limit then some lines else none := by
  induction lines with
  | nil => simp [scanLines, scanLinesFrom]
  | cons line lines ih =>
    obtain ⟨⟨hfeed, hreturn⟩, hlines⟩ := List.forall_mem_cons.mp hlines
    simp only [List.flatMap_cons, List.append_assoc, List.singleton_append, List.forall_mem_cons]
    by_cases hlength : line.length < limit
    · have hscan : scanLines limit (line ++ lineFeed :: lines.flatMap (· ++ [lineFeed])) = _ :=
        scanLinesFrom_append hfeed (by simpa using hlength) _
      rw [hscan, ih hlines, List.nil_append, dropCR, if_neg hreturn]
      by_cases hothers : ∀ line ∈ lines, line.length < limit
      · rw [if_pos hothers, if_pos ⟨hlength, hothers⟩]
        rfl
      · rw [if_neg hothers, if_neg fun hall => hothers hall.2]
        rfl
    · rw [if_neg fun hall => hlength hall.1]
      exact scanLinesFrom_eq_none hfeed hlimit (by simpa using hlength) _

end Matcher.Foundation
