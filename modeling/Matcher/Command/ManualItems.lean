import Matcher.Command.Sequential

/-!
# The items of a manual match

A manual match chooses the amount of an item and its currency one by one, each
from the base data of the transaction where they are set.  The two belong together
when both or neither come from there, or when the choice makes no difference.
-/

namespace Matcher.Command

open Foundation

variable {item : MatchItem}

/-- The item has the amount and the currency of the transaction, or both of its
base. -/
def MatchItem.PairedIn (item : MatchItem) (tx : Transaction) : Prop :=
  (item.allocatedAmount = tx.amount ∧ item.allocatedCurrency = tx.currency) ∨
    (tx.amountBase = some item.allocatedAmount ∧ tx.baseCurrency = some item.allocatedCurrency)

instance (item : MatchItem) (tx : Transaction) : Decidable (item.PairedIn tx) :=
  inferInstanceAs (Decidable (_ ∨ _))

def Transaction.HasBaseAmount (tx : Transaction) : Prop :=
  ∃ amount ∈ tx.amountBase, amount ≠ 0

def Transaction.HasBaseCurrency (tx : Transaction) : Prop :=
  ∃ currency ∈ tx.baseCurrency, currency ≠ ""

/-- The base amount and the base currency are both set or both not, or one of
them is that of the transaction itself. -/
def Transaction.BasePaired (tx : Transaction) : Prop :=
  (tx.HasBaseAmount ↔ tx.HasBaseCurrency) ∨
    tx.amountBase = some tx.amount ∨ tx.baseCurrency = some tx.currency

instance (tx : Transaction) : Decidable tx.HasBaseAmount :=
  inferInstanceAs (Decidable (∃ amount ∈ tx.amountBase, amount ≠ 0))

instance (tx : Transaction) : Decidable tx.HasBaseCurrency :=
  inferInstanceAs (Decidable (∃ currency ∈ tx.baseCurrency, currency ≠ ""))

instance (tx : Transaction) : Decidable tx.BasePaired :=
  inferInstanceAs (Decidable (_ ∨ _))

/-! ## The choice of one item -/

structure MatchItem.ChosenFrom (item : MatchItem) (tx : Transaction) : Prop where
  transactionID : item.transactionID = tx.id
  currency_ne : item.allocatedCurrency ≠ ""
  baseAmount : tx.HasBaseAmount → tx.amountBase = some item.allocatedAmount
  amount : ¬ tx.HasBaseAmount → item.allocatedAmount = tx.amount
  baseCurrency : tx.HasBaseCurrency → tx.baseCurrency = some item.allocatedCurrency
  currency : ¬ tx.HasBaseCurrency → item.allocatedCurrency = tx.currency

theorem newMatchItem_currency_ne {transactionID : UUID} {allocated : Decimal} {currency : String}
    {expected : Decimal} {allowPartial : Bool}
    (h : newMatchItem transactionID allocated currency expected allowPartial = .ok item) :
    currency ≠ "" := by
  unfold newMatchItem at h
  split_ifs at h with _ _ _ _ _ hcurrency
  exact hcurrency

theorem filter_getD_spec {α : Type} [DecidableEq α] (value : Option α) (unset default : α) :
    ((∃ found ∈ value, found ≠ unset) → value = some ((value.filter (· ≠ unset)).getD default)) ∧
      ((¬ ∃ found ∈ value, found ≠ unset) → (value.filter (· ≠ unset)).getD default = default) := by
  cases value with
  | none => simp
  | some found =>
    by_cases hunset : found = unset <;> simp [Option.filter, hunset]

theorem manualItem_chosenFrom {tx : Transaction} (h : manualItem tx = .ok item) :
    item.ChosenFrom tx := by
  have hitem := mapError_eq_ok.mp h
  have hcurrency := newMatchItem_currency_ne hitem
  obtain ⟨htransactionID, hallocated, hallocatedCurrency, -⟩ := newMatchItem_eq_ok hitem
  obtain ⟨hbaseAmount, hamount⟩ := filter_getD_spec tx.amountBase 0 tx.amount
  obtain ⟨hbaseCurrency, hplain⟩ := filter_getD_spec tx.baseCurrency "" tx.currency
  rw [← hallocated] at hbaseAmount hamount
  rw [← hallocatedCurrency] at hbaseCurrency hplain hcurrency
  exact ⟨htransactionID, hcurrency, hbaseAmount, hamount, hbaseCurrency, hplain⟩

theorem MatchItem.ChosenFrom.pairedIn_iff {tx : Transaction}
    (h : item.ChosenFrom tx) : item.PairedIn tx ↔ tx.BasePaired := by
  unfold MatchItem.PairedIn Transaction.BasePaired
  by_cases hamount : tx.HasBaseAmount
  · have hbase := h.baseAmount hamount
    by_cases hcurrency : tx.HasBaseCurrency
    · simp [hamount, hcurrency, hbase, h.baseCurrency hcurrency]
    · -- an item with a blank currency is not created
      have hplain := h.currency hcurrency
      have hblank : tx.baseCurrency ≠ some item.allocatedCurrency := fun hsome =>
        hcurrency ⟨_, hsome, h.currency_ne⟩
      simp [hamount, hcurrency, hbase, hplain ▸ hblank, hplain]
  · have hplain := h.amount hamount
    by_cases hcurrency : tx.HasBaseCurrency
    · have hbase := h.baseCurrency hcurrency
      simp only [hamount, hcurrency, hbase, hplain, iff_true, true_and,
        false_or, and_true, Option.some.injEq]
      exact or_comm
    · simp [hamount, hcurrency, hplain, h.currency hcurrency]

/-! ## The items of the group -/

section Items

variable {environment : ManualEnvironment} {db db' : Db} {group : MatchGroup}
  {prepared : ManualPreparation}

theorem manualGroup_items {run : MatchRun} {transactions : List Transaction}
    (h : manualGroup environment run transactions = .ok group) :
    List.Forall₂ (fun tx item => MatchItem.ChosenFrom item tx) transactions group.items := by
  obtain ⟨items, hitems, h⟩ := bind_eq_ok.mp h
  obtain ⟨confidence, -, h⟩ := bind_eq_ok.mp h
  obtain ⟨created, hcreated, h⟩ := bind_eq_ok.mp h
  have hcreated := newMatchGroup_eq_ok (wrapError_eq_ok.mp hcreated)
  obtain ⟨-, hconfirmed⟩ := guard_eq_ok.mp (wrapError_eq_ok.mp h)
  cases hconfirmed
  rw [hcreated]
  apply List.forall₂_map_right_iff.mpr
  exact (mapM_eq_ok hitems).imp fun _ _ hitem =>
    have hchosen := manualItem_chosenFrom hitem
    ⟨hchosen.transactionID, hchosen.currency_ne, hchosen.baseAmount,
      hchosen.amount, hchosen.baseCurrency, hchosen.currency⟩

theorem prepareManualMatch_transactions (h : prepareManualMatch environment db = .ok prepared) :
    prepared.transactions = db.findByContextAndIDs environment.input.transactionIDs := by
  obtain ⟨⟨⟩, -, h⟩ := bind_eq_ok.mp h
  obtain ⟨⟨⟩, -, h⟩ := bind_eq_ok.mp h
  obtain ⟨transactions, hfound, h⟩ := bind_eq_ok.mp h
  obtain ⟨⟨⟩, -, h⟩ := bind_eq_ok.mp h
  obtain ⟨run, -, h⟩ := bind_eq_ok.mp h
  cases h
  obtain ⟨-, hrows⟩ := attempt_eq_ok.mp (wrapError_eq_ok.mp hfound)
  exact (Except.ok.inj hrows).symm

theorem commitManualMatch_group (h : commitManualMatch environment prepared db = .ok (group, db')) :
    manualGroup environment prepared.run prepared.transactions = .ok group := by
  have h := inTransaction_eq_ok (wrapError_eq_ok.mp h)
  obtain ⟨db₁, -, h⟩ := bind_eq_ok.mp h
  obtain ⟨created, hcreated, h⟩ := bind_eq_ok.mp h
  obtain ⟨db₂, -, h⟩ := bind_eq_ok.mp h
  obtain ⟨db₃, -, h⟩ := bind_eq_ok.mp h
  obtain ⟨db₄, -, h⟩ := bind_eq_ok.mp h
  obtain ⟨completed, -, h⟩ := bind_eq_ok.mp h
  obtain ⟨db₅, -, h⟩ := bind_eq_ok.mp h
  obtain ⟨db₆, -, h⟩ := bind_eq_ok.mp h
  cases h
  exact hcreated

theorem manualMatch_items (h : manualMatch environment db = (.ok group, db')) :
    List.Forall₂ (fun tx item => MatchItem.ChosenFrom item tx)
      (db.findByContextAndIDs environment.input.transactionIDs)
      group.items := by
  unfold manualMatch at h
  split at h
  next => cases h
  next prepared hprepared =>
    unfold finishManualMatch at h
    split at h
    next => cases h
    next hcommit =>
      cases h
      rw [← prepareManualMatch_transactions hprepared]
      exact manualGroup_items (commitManualMatch_group hcommit)

/--
When a manual match succeeds, its items have amounts and currencies that belong
together exactly if the base amount and the base currency of every chosen
transaction do.
-/
theorem manualMatch_items_paired_iff (h : manualMatch environment db = (.ok group, db')) :
    (∀ item ∈ group.items, ∀ tx ∈ db.transactions.rows,
        tx.id = item.transactionID → item.PairedIn tx) ↔
      ∀ tx ∈ db.findByContextAndIDs environment.input.transactionIDs, tx.BasePaired := by
  have hitems := manualMatch_items h
  constructor
  · intro hpaired tx htx
    obtain ⟨item, hitem, hchosen⟩ := exists_right_of_forall₂ hitems htx
    refine hchosen.pairedIn_iff.mp (hpaired item hitem tx ?_ ?_)
    · exact (List.mem_filter.mp htx).1
    · exact hchosen.transactionID.symm
  · intro hpaired item hitem tx htx hid
    obtain ⟨chosen, hmem, hchosen⟩ := exists_left_of_forall₂ hitems hitem
    -- ids are unique among the stored rows
    obtain rfl := db.transactions.eq_of_key htx (List.mem_filter.mp hmem).1
      (hid.trans hchosen.transactionID)
    exact hchosen.pairedIn_iff.mpr (hpaired tx hmem)

end Items

def convertedDb (baseCurrency : Option String) : Db :=
  { pairDb with
    transactions := ⟨[
      { plainTransaction ⟨1⟩ 100 with
        sourceID := ⟨11⟩, amountBase := some 90, baseCurrency := baseCurrency },
      { plainTransaction ⟨2⟩ 100 with sourceID := ⟨12⟩ }],
      pairDb.transactions.nodup⟩ }

theorem manualMatch_items_paired_iff_converted :
    ∃ group db',
      manualMatch (pairManualMatch ⟨61⟩ ⟨101⟩) (convertedDb (some "EUR")) = (.ok group, db') ∧
        ∀ item ∈ group.items,
          ∀ tx ∈ (convertedDb (some "EUR")).transactions.rows,
            tx.id = item.transactionID → item.PairedIn tx := by
  have hsucceeds : (manualMatch (pairManualMatch ⟨61⟩ ⟨101⟩)
      (convertedDb (some "EUR"))).1.isOk = true := by
    decide +kernel
  cases h : manualMatch (pairManualMatch ⟨61⟩ ⟨101⟩) (convertedDb (some "EUR")) with
  | mk result db' =>
    cases result with
    | error =>
      rw [h] at hsucceeds
      cases hsucceeds
    | ok group => exact ⟨group, db', rfl, (manualMatch_items_paired_iff h).mpr (by decide +kernel)⟩

/-- Without a base currency the item has the base amount in the currency of the
transaction. -/
theorem manualMatch_item_not_paired :
    ∃ group,
      (manualMatch (pairManualMatch ⟨61⟩ ⟨101⟩) (convertedDb none)).1 = .ok group ∧
        ∃ item ∈ group.items, ∃ tx ∈ (convertedDb none).transactions.rows,
          tx.id = item.transactionID ∧ item.allocatedAmount = 90 ∧
            item.allocatedCurrency = "USD" ∧ ¬ item.PairedIn tx := by
  exact exists_ok_of_map (f := fun group => decide (∃ item ∈ group.items, _)) true
    (by decide +kernel) fun _ _ hitem => of_decide_eq_true hitem

end Matcher.Command
