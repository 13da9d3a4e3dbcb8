import Matcher.Fee.Schedule

/-!
# Creating a fee schedule

The constructor refuses a schedule that the calculator could not price: every
item of an accepted schedule carries a valid structure, and no two of them have
the same priority.
-/

namespace Matcher.Fee

open Foundation

/-! ## Errors -/

def errScheduleTenantIDRequired : GoError :=
  .sentinel ⟨"ErrScheduleTenantIDRequired", "fee schedule tenant id is required"⟩

def errScheduleNameRequired : GoError :=
  .sentinel ⟨"ErrScheduleNameRequired", "fee schedule name is required"⟩

def errScheduleNameTooLong : GoError :=
  .sentinel ⟨"ErrScheduleNameTooLong", "fee schedule name exceeds 100 characters"⟩

def errScheduleItemsRequired : GoError :=
  .sentinel ⟨"ErrScheduleItemsRequired", "fee schedule must have at least one item"⟩

def errDuplicateItemPriority : GoError :=
  .sentinel ⟨"ErrDuplicateItemPriority", "duplicate item priority in fee schedule"⟩

def errInvalidRoundingScale : GoError :=
  .sentinel ⟨"ErrInvalidRoundingScale", "rounding scale must be between 0 and 10"⟩

def errInvalidRoundingMode : GoError :=
  .sentinel ⟨"ErrInvalidRoundingMode", "invalid rounding mode"⟩

def errItemNameRequired : GoError :=
  .sentinel ⟨"ErrItemNameRequired", "fee schedule item name is required"⟩

/-! ## The constructor -/

def maxScheduleNameLength : ℕ := 100

def ApplicationOrder.isValid : ApplicationOrder → Bool
  | .parallel => true
  | .cascading => true
  | .other _ => false

def roundingModeIsValid : RoundingMode → Bool
  | .halfUp => true
  | .bankers => true
  | .floor => true
  | .ceil => true
  | .truncate => true
  | .other _ => false

structure FeeScheduleItemInput where
  name : String
  priority : ℤ
  structure_ : Option FeeStructure
deriving DecidableEq, Repr

structure NewFeeScheduleInput where
  tenantID : UUID
  name : String
  currency : String
  applicationOrder : ApplicationOrder
  roundingScale : ℤ
  roundingMode : RoundingMode
  items : List FeeScheduleItemInput
deriving DecidableEq, Repr

def validateItemStructure (index : ℕ) : Option FeeStructure → Except GoError Unit
  | none => .error (.wrap "fee schedule item[%d] structure: %w" [Nat.repr index] errNilFeeStructure)
  | some structure_ =>
    structure_.validate.mapError
      (.wrap "fee schedule item[%d] structure validate: %w" [Nat.repr index])

/-- `freshID` stands for the identifiers that `uuid.New` hands out. -/
def buildScheduleItems (freshID : ℕ → UUID) :
    List FeeScheduleItemInput → (index : ℕ) → (seenPriorities : List ℤ) →
      Except GoError (List FeeScheduleItem)
  | [], _, _ => .ok []
  | input :: rest, index, seenPriorities =>
    if input.name = "" then
      .error (.wrap "fee schedule item[%d] name: %w" [Nat.repr index] errItemNameRequired)
    else do
      validateItemStructure index input.structure_
      if input.priority ∈ seenPriorities then
        .error (.wrap "fee schedule item[%d] priority %d: %w"
          [Nat.repr index, toString input.priority]
          errDuplicateItemPriority)
      else do
        let items ← buildScheduleItems freshID rest (index + 1) (input.priority :: seenPriorities)
        return ⟨freshID index, input.name, input.priority, input.structure_⟩ :: items

def newFeeSchedule (scheduleID : UUID) (freshID : ℕ → UUID) (input : NewFeeScheduleInput) :
    Except GoError FeeSchedule :=
  let trimmedName := trimSpace input.name
  if input.tenantID = UUID.zero then
    .error (.wrap "fee schedule tenant id: %w" [] errScheduleTenantIDRequired)
  else if trimmedName = "" then
    .error (.wrap "fee schedule name: %w" [] errScheduleNameRequired)
  else if maxScheduleNameLength < trimmedName.utf8ByteSize then
    .error (.wrap "fee schedule name: %w" [] errScheduleNameTooLong)
  else do
    let currency ← normalizeCurrency input.currency
    if input.applicationOrder.isValid = false then
      .error (.wrap "fee schedule application order: %w" [] errInvalidApplicationOrder)
    else if ¬ (0 ≤ input.roundingScale ∧ input.roundingScale ≤ maxRoundingScale) then
      .error (.wrap "fee schedule rounding scale: %w" [] errInvalidRoundingScale)
    else if roundingModeIsValid input.roundingMode = false then
      .error (.wrap "fee schedule rounding mode: %w" [] errInvalidRoundingMode)
    else if input.items = [] then
      .error (.wrap "fee schedule items: %w" [] errScheduleItemsRequired)
    else do
      let items ← buildScheduleItems freshID input.items 0 []
      return ⟨scheduleID, trimmedName, currency, input.applicationOrder,
        input.roundingScale, input.roundingMode, items⟩

/-! ## Valid schedules -/

structure FeeScheduleItem.Valid (item : FeeScheduleItem) : Prop where
  name : item.name ≠ ""
  structure_ : ∃ structure_, item.structure_ = some structure_ ∧ structure_.validate = .ok ()

structure FeeSchedule.Valid (schedule : FeeSchedule) : Prop where
  currency : normalizeCurrency schedule.currency = .ok schedule.currency
  applicationOrder : schedule.applicationOrder.isValid = true
  roundingScale : 0 ≤ schedule.roundingScale ∧ schedule.roundingScale ≤ maxRoundingScale
  roundingMode : roundingModeIsValid schedule.roundingMode = true
  items_ne_nil : schedule.items ≠ []
  items : ∀ item ∈ schedule.items, item.Valid
  priorities : (schedule.items.map (·.priority)).Nodup

theorem validateItemStructure_eq_ok {index : ℕ} {structure_ : Option FeeStructure}
    (h : validateItemStructure index structure_ = .ok ()) :
    ∃ valid, structure_ = some valid ∧ valid.validate = .ok () := by
  cases structure_ with
  | none => cases h
  | some found => exact ⟨found, rfl, mapError_eq_ok.mp h⟩

theorem buildScheduleItems_valid {freshID : ℕ → UUID} {inputs : List FeeScheduleItemInput}
    {index : ℕ} {seen : List ℤ} {items : List FeeScheduleItem}
    (h : buildScheduleItems freshID inputs index seen = .ok items) :
    (∀ item ∈ items, item.Valid ∧ item.priority ∉ seen) ∧
      (items.map (·.priority)).Nodup ∧ items.length = inputs.length := by
  induction inputs generalizing index seen items with
  | nil =>
    cases h
    simp
  | cons input _ ih =>
    obtain ⟨hname, h⟩ := guard_eq_ok.mp h
    obtain ⟨hstructure, h⟩ := check_eq_ok.mp h
    obtain ⟨hpriority, h⟩ := guard_eq_ok.mp h
    obtain ⟨others, hothers, h⟩ := bind_eq_ok.mp h
    cases h
    obtain ⟨hvalid, hnodup, hlength⟩ := ih hothers
    have hfirst : (⟨freshID index, input.name, input.priority,
        input.structure_⟩ : FeeScheduleItem).Valid :=
      ⟨hname, validateItemStructure_eq_ok hstructure⟩
    refine ⟨?_, ?_, by simp [hlength]⟩
    · intro item hitem
      rcases List.mem_cons.mp hitem with rfl | hitem
      · exact ⟨hfirst, hpriority⟩
      · obtain ⟨hitemValid, hunseen⟩ := hvalid item hitem
        exact ⟨hitemValid, fun hseen => hunseen (by simp [hseen])⟩
    · rw [List.map_cons, List.nodup_cons]
      refine ⟨?_, hnodup⟩
      intro hmem
      obtain ⟨other, hother, hsame⟩ := List.mem_map.mp hmem
      exact (hvalid other hother).2 (by simp [hsame])

theorem normalizeCurrency_eq_ok {currency normalized : String} :
    normalizeCurrency currency = .ok normalized ↔
      toUpper (trimSpace currency) = normalized ∧ normalized ≠ "" ∧
        normalized ∈ validCurrencies := by
  dsimp only [normalizeCurrency]
  generalize toUpper (trimSpace currency) = trimmed
  by_cases hempty : trimmed = ""
  · rw [if_pos hempty]
    constructor
    · intro hok
      cases hok
    · rintro ⟨rfl, hne, -⟩
      exact absurd hempty hne
  rw [if_neg hempty]
  by_cases hmem : trimmed ∈ validCurrencies
  · rw [if_pos hmem]
    constructor
    · intro hok
      obtain rfl := Except.ok.inj hok
      exact ⟨rfl, hempty, hmem⟩
    · rintro ⟨rfl, -, -⟩
      rfl
  · rw [if_neg hmem]
    constructor
    · intro hok
      cases hok
    · rintro ⟨rfl, -, hknown⟩
      exact absurd hknown hmem

private theorem validCurrencies_normal :
    ∀ known ∈ validCurrencies, toUpper (trimSpace known) = known := by
  decide +kernel

theorem normalizeCurrency_idempotent {currency normalized : String}
    (h : normalizeCurrency currency = .ok normalized) :
    normalizeCurrency normalized = .ok normalized := by
  obtain ⟨-, hne, hmem⟩ := normalizeCurrency_eq_ok.mp h
  exact normalizeCurrency_eq_ok.mpr ⟨validCurrencies_normal normalized hmem, hne, hmem⟩

theorem newFeeSchedule_valid {scheduleID : UUID} {freshID : ℕ → UUID} {input : NewFeeScheduleInput}
    {schedule : FeeSchedule} (h : newFeeSchedule scheduleID freshID input = .ok schedule) :
    schedule.Valid := by
  obtain ⟨-, h⟩ := guard_eq_ok.mp h
  obtain ⟨-, h⟩ := guard_eq_ok.mp h
  obtain ⟨-, h⟩ := guard_eq_ok.mp h
  obtain ⟨currency, hcurrency, h⟩ := bind_eq_ok.mp h
  obtain ⟨horder, h⟩ := guard_eq_ok.mp h
  obtain ⟨hscale, h⟩ := guard_eq_ok.mp h
  obtain ⟨hmode, h⟩ := guard_eq_ok.mp h
  obtain ⟨hnonempty, h⟩ := guard_eq_ok.mp h
  obtain ⟨items, hitems, h⟩ := bind_eq_ok.mp h
  cases h
  obtain ⟨hvalid, hnodup, hlength⟩ := buildScheduleItems_valid hitems
  exact {
    currency := normalizeCurrency_idempotent hcurrency
    applicationOrder := by simpa using horder
    roundingScale := not_not.mp hscale
    roundingMode := by simpa using hmode
    items_ne_nil := by
      intro hnil
      simp only at hnil
      simp [hnil] at hlength
      exact hnonempty (List.length_eq_zero_iff.mp hlength.symm)
    items := fun item hitem => (hvalid item hitem).1
    priorities := hnodup }

end Matcher.Fee
