import Matcher.Foundation.Loop

/-!
# Go error values

An error of the program is either a sentinel, created once by `errors.New` and
compared by identity, or the result of `fmt.Errorf` around one or two causes.
The format string and the operands of a wrapping call are kept as written, so
the message of an error can be rendered and its causes can be searched.
-/

namespace Matcher.Foundation

variable {format : String} {character : Char} {rest : List Char}

/-- A package-level error variable: its Go name is its identity. -/
structure Sentinel where
  name : String
  message : String
deriving DecidableEq, Repr

inductive GoError
  | sentinel (value : Sentinel)
  | wrap (format : String) (operands : List String) (cause : GoError)
  | wrapTwo (format : String) (operands : List String) (first second : GoError)
deriving DecidableEq, Repr

namespace GoError

private def doubleQuote : Char := Char.ofNat 34

/--
Substitutes the operands of a formatting call for its verbs, from left to
right: `%w` takes the next cause and every other verb the next plain operand.
-/
def renderVerbs : List Char → List String → List String → List Char
  | '%' :: 'w' :: rest, operands, cause :: causes =>
    cause.toList ++ renderVerbs rest operands causes
  | '%' :: 'q' :: rest, operand :: operands, causes =>
    doubleQuote :: operand.toList ++ doubleQuote :: renderVerbs rest operands causes
  | '%' :: _ :: rest, operand :: operands, causes =>
    operand.toList ++ renderVerbs rest operands causes
  | character :: rest, operands, causes => character :: renderVerbs rest operands causes
  | [], _, _ => []

/-- The text returned by `Error()`. -/
def text : GoError → String
  | .sentinel value => value.message
  | .wrap format operands cause => String.ofList (renderVerbs format.toList operands [cause.text])
  | .wrapTwo format operands first second =>
    String.ofList (renderVerbs format.toList operands [first.text, second.text])

/-- Identity test of `errors.Is`: the target occurs in the tree of causes. -/
def Is (error target : GoError) : Prop :=
  error = target ∨
    match error with
    | .sentinel _ => False
    | .wrap _ _ cause => cause.Is target
    | .wrapTwo _ _ first second => first.Is target ∨ second.Is target

theorem Is.refl (error : GoError) : error.Is error := by
  cases error <;> exact Or.inl rfl

theorem Is.wrap {cause target : GoError} (h : cause.Is target) (format : String)
    (operands : List String) : (GoError.wrap format operands cause).Is target :=
  Or.inr h

@[simp] theorem sentinel_is {value target : Sentinel} :
    (GoError.sentinel value).Is (.sentinel target) ↔ value = target := by
  simp [Is]

@[simp] theorem wrap_is {operands : List String} {cause : GoError} {target : Sentinel} :
    (GoError.wrap format operands cause).Is (.sentinel target) ↔ cause.Is (.sentinel target) := by
  constructor
  · rintro (h | h)
    · cases h
    · exact h
  · intro h
    exact h.wrap format operands

instance Is.decidable : ∀ error target : GoError, Decidable (error.Is target)
  | .sentinel value, target => inferInstanceAs (Decidable (GoError.sentinel value = target ∨ False))
  | .wrap format operands cause, target =>
    haveI := Is.decidable cause target
    inferInstanceAs (Decidable (GoError.wrap format operands cause = target ∨ cause.Is target))
  | .wrapTwo format operands first second, target =>
    haveI := Is.decidable first target
    haveI := Is.decidable second target
    inferInstanceAs (Decidable
      (GoError.wrapTwo format operands first second = target ∨
        (first.Is target ∨ second.Is target)))

/-! ## Messages that cannot be empty -/

theorem renderVerbs_cons (h : character ≠ '%') (rest : List Char) (operands causes : List String) :
    renderVerbs (character :: rest) operands causes =
      character :: renderVerbs rest operands causes := by
  rw [renderVerbs]
  all_goals
    intros
    contradiction

theorem text_wrap_eq (hformat : format.toList = character :: rest)
    (h : character ≠ '%') (operands : List String) (cause : GoError) :
    (GoError.wrap format operands cause).text =
      String.ofList (character :: renderVerbs rest operands [cause.text]) := by
  rw [text, hformat, renderVerbs_cons h]

theorem text_wrap_ne_empty (hformat : format.toList = character :: rest)
    (h : character ≠ '%') (operands : List String) (cause : GoError) :
    (GoError.wrap format operands cause).text ≠ "" := by
  intro htext
  have hlist := congrArg String.toList htext
  rw [text_wrap_eq hformat h, String.toList_ofList] at hlist
  exact List.cons_ne_nil _ _ hlist

theorem renderVerbs_cause_ne_nil {cause : String} (h : cause ≠ "")
    (rest : List Char) (operands causes : List String) :
    renderVerbs ('%' :: 'w' :: rest) operands (cause :: causes) ≠ [] := by
  intro hnil
  have hcause : cause.toList = [] := (List.append_eq_nil_iff.mp hnil).1
  exact h (String.toList_eq_nil_iff.mp hcause)

theorem text_wrap_cause_ne_empty (hformat : format.toList = '%' :: 'w' :: rest)
    (operands : List String) {cause : GoError} (hcause : cause.text ≠ "") :
    (GoError.wrap format operands cause).text ≠ "" := by
  intro htext
  have hlist := congrArg String.toList htext
  rw [text, String.toList_ofList, hformat] at hlist
  exact renderVerbs_cause_ne_nil hcause rest operands _ hlist

theorem text_wrapTwo_ne_empty (hformat : format.toList = '%' :: 'w' :: rest)
    (operands : List String) {first : GoError} (hfirst : first.text ≠ "") (second : GoError) :
    (GoError.wrapTwo format operands first second).text ≠ "" := by
  intro htext
  have hlist := congrArg String.toList htext
  rw [text, String.toList_ofList, hformat] at hlist
  exact renderVerbs_cause_ne_nil hfirst rest operands _ hlist

end GoError

def wrapError {α : Type} (format : String) (result : Except GoError α) : Except GoError α :=
  result.mapError (GoError.wrap format [])

theorem wrapError_eq_ok {α : Type} {result : Except GoError α} {value : α} :
    wrapError format result = .ok value ↔ result = .ok value :=
  mapError_eq_ok

end Matcher.Foundation
