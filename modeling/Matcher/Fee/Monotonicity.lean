import Matcher.Fee.Conservation

/-!
# Fees of growing amounts

A larger gross amount never pays a smaller total fee.  The iteration that looks
for the gross amount of a net amount therefore climbs from the net amount and
never passes a solution.
-/

namespace Matcher.Fee

open Foundation

variable {schedule : FeeSchedule} {net : Decimal}

/-! ## The total fee -/

namespace FeeSchedule

theorem Valid.total_mono (hvalid : schedule.Valid) {smaller larger : Decimal}
    (hsmaller : 0 ≤ smaller) (hle : smaller ≤ larger) :
    schedule.total smaller ≤ schedule.total larger := by
  unfold total
  cases schedule.applicationOrder with
  | parallel =>
    refine List.sum_le_sum fun levy hlevy => ?_
    exact (hvalid.levies levy hlevy).mono smaller larger hsmaller hle
  | cascading => exact Cascade.run_taken_mono hvalid.levies hsmaller hle
  | other => exact le_rfl

theorem Priced.total_nonneg (hpriced : schedule.Priced) {gross : Decimal} (hgross : 0 ≤ gross) :
    0 ≤ schedule.total gross := by
  unfold total
  cases schedule.applicationOrder with
  | parallel =>
    refine List.sum_nonneg fun fee hfee => ?_
    obtain ⟨levy, hlevy, rfl⟩ := List.mem_map.mp hfee
    exact (hpriced.levies levy hlevy).nonneg gross hgross
  | cascading =>
    have hstart : (0 : Decimal) ≤ (Cascade.mk gross 0).base := hgross
    exact Cascade.taken_le_run hpriced.levies hstart
  | other => exact le_rfl

end FeeSchedule

theorem totalFee_mono (hvalid : schedule.Valid) {smaller larger : Money}
    (hsmaller : 0 ≤ smaller.amount) (hle : smaller.amount ≤ larger.amount) :
    (∀ gross : Money, 0 ≤ gross.amount →
      ((∃ breakdown, calculateSchedule gross (some schedule) = .ok breakdown) ↔
        normalizeCurrency gross.currency = .ok schedule.currency)) ∧
    ∀ first second : FeeBreakdown, calculateSchedule smaller (some schedule) = .ok first →
      calculateSchedule larger (some schedule) = .ok second →
        first.totalFee.amount ≤ second.totalFee.amount := by
  refine ⟨?_, ?_⟩
  · intro gross hgross
    constructor
    · rintro ⟨breakdown, hok⟩
      exact calculateSchedule_currency hvalid hok
    · intro hcurrency
      obtain ⟨breakdown, hok, -⟩ := calculateSchedule_of_valid hvalid hgross hcurrency
      exact ⟨breakdown, hok⟩
  · intro first second hfirst hsecond
    rw [(calculateSchedule_calculates hvalid hsmaller hfirst).total,
      (calculateSchedule_calculates hvalid (hsmaller.trans hle) hsecond).total]
    exact hvalid.total_mono hsmaller hle

theorem totalFee_mono_cards :
    ∃ first second : FeeBreakdown,
      calculateSchedule ⟨100, "USD"⟩ (some (cardSchedule .cascading)) = .ok first ∧
        calculateSchedule ⟨1001 / 10, "USD"⟩ (some (cardSchedule .cascading)) = .ok second ∧
        first.totalFee.amount ≤ second.totalFee.amount := by
  have hle : (Money.mk 100 "USD").amount ≤ (Money.mk (1001 / 10) "USD").amount := by decide +kernel
  obtain ⟨hsucceeds, hmono⟩ := totalFee_mono cardSchedule_valid.2 (by decide +kernel) hle
  have hcurrency : normalizeCurrency "USD" = .ok "USD" := by decide +kernel
  obtain ⟨first, hfirst⟩ := (hsucceeds ⟨100, "USD"⟩ (by decide +kernel)).mpr hcurrency
  obtain ⟨second, hsecond⟩ := (hsucceeds ⟨1001 / 10, "USD"⟩ (by decide +kernel)).mpr hcurrency
  exact ⟨first, second, hfirst, hsecond, hmono first second hfirst hsecond⟩

/-! ## Gross from net -/

/-- Stopping at zero brings the amount left no further from a net amount. -/
theorem FeeSchedule.abs_net_sub_le (schedule : FeeSchedule) (gross : Decimal) (hnet : 0 ≤ net) :
    |schedule.net gross - net| ≤ |gross - schedule.total gross - net| := by
  unfold FeeSchedule.net
  split
  next =>
    have hclamp := abs_max_sub_max_le_abs (gross - schedule.total gross) net 0
    rwa [max_eq_left hnet, max_comm] at hclamp
  next => exact le_rfl

/-- Where an iteration stops: at a price close to the net amount, not above any
solution. -/
theorem grossIteration_spec (hvalid : schedule.Valid) {net : Money} {remaining : ℕ}
    {estimate lastDiff : Decimal} {gross : Money} {breakdown : FeeBreakdown}
    (hestimate : 0 ≤ estimate) (hnet : 0 ≤ net.amount)
    (hok : grossIteration net schedule remaining estimate lastDiff = .ok (gross, breakdown)) :
    0 ≤ gross.amount ∧
      calculateSchedule gross (some schedule) = .ok breakdown ∧
      |gross.amount - breakdown.totalFee.amount - net.amount| ≤ convergenceEpsilon ∧
      ∀ solution, estimate ≤ solution →
        solution - schedule.total solution = net.amount → gross.amount ≤ solution := by
  induction remaining generalizing estimate lastDiff with
  | zero => cases hok
  | succ _ ih =>
    obtain ⟨grossMoney, hmoney, hok⟩ := bind_eq_ok.mp hok
    obtain ⟨next, hnext, hok⟩ := bind_eq_ok.mp hok
    obtain ⟨currency, -, hmoney⟩ := bind_eq_ok.mp (mapError_eq_ok.mp hmoney)
    cases hmoney
    have hcalculated := mapError_eq_ok.mp hnext
    have htotal := (calculateSchedule_calculates hvalid hestimate hcalculated).total
    dsimp only at hok
    split at hok
    next hclose =>
      cases hok
      exact ⟨hestimate, hcalculated, hclose, fun _ hle _ => hle⟩
    next =>
      have hnextEstimate : 0 ≤ net.amount + next.totalFee.amount := by
        rw [htotal]
        exact add_nonneg hnet (hvalid.priced.total_nonneg hestimate)
      obtain ⟨hgross, hcalculate, hclose, hleast⟩ := ih hnextEstimate hok
      refine ⟨hgross, hcalculate, hclose, ?_⟩
      intro solution hle hsolves
      refine hleast solution ?_ hsolves
      calc net.amount + next.totalFee.amount
          = net.amount + schedule.total estimate := by rw [htotal]
        _ ≤ net.amount + schedule.total solution := by
            gcongr
            exact hvalid.total_mono hestimate hle
        _ = solution := by rw [← hsolves, sub_add_cancel]

def FeeSchedule.grossEstimate (schedule : FeeSchedule) (net : Decimal) : ℕ → Decimal
  | 0 => net
  | rounds + 1 => net + schedule.total (schedule.grossEstimate net rounds)

theorem FeeSchedule.Priced.grossEstimate_nonneg (hpriced : schedule.Priced) (hnet : 0 ≤ net)
    (rounds : ℕ) : 0 ≤ schedule.grossEstimate net rounds := by
  induction rounds with
  | zero => exact hnet
  | succ _ ih => exact add_nonneg hnet (hpriced.total_nonneg ih)

def FeeSchedule.settles (schedule : FeeSchedule) (net : Decimal) (rounds : ℕ) : Bool :=
  |schedule.grossEstimate net rounds -
    schedule.total (schedule.grossEstimate net rounds) - net| ≤ convergenceEpsilon

section Rounds

variable {net : Money} {estimate : Decimal} (hvalid : schedule.Valid) (hnet : 0 ≤ net.amount)
  (hcurrency : normalizeCurrency net.currency = .ok schedule.currency)

include hvalid hcurrency

theorem grossIteration_round (hestimate : 0 ≤ estimate) (remaining : ℕ) (lastDiff : Decimal) :
    ∃ breakdown : FeeBreakdown, breakdown.totalFee = ⟨schedule.total estimate, schedule.currency⟩ ∧
      grossIteration net schedule (remaining + 1) estimate lastDiff =
        if |estimate - schedule.total estimate - net.amount| ≤ convergenceEpsilon then
          .ok (⟨estimate, schedule.currency⟩, breakdown)
        else
          grossIteration net schedule remaining
            (net.amount + schedule.total estimate)
            |estimate - schedule.total estimate - net.amount| := by
  obtain ⟨breakdown, hok, htotal⟩ : ∃ breakdown,
      calculateSchedule ⟨estimate, schedule.currency⟩ (some schedule) = .ok breakdown ∧
      breakdown.totalFee = ⟨schedule.total estimate, schedule.currency⟩ :=
    calculateSchedule_totalFee hvalid hestimate hvalid.currency
  have hmoney : newMoney estimate net.currency = .ok ⟨estimate, schedule.currency⟩ :=
    bind_eq_ok.mpr ⟨schedule.currency, hcurrency, rfl⟩
  refine ⟨breakdown, htotal, ?_⟩
  simp only [grossIteration, hmoney, Except.mapError, bind, Except.bind, hok, htotal]
  rfl

theorem calculateGrossFromNet_of_currency :
    calculateGrossFromNet net (some schedule) =
      grossIteration net schedule maxIterations net.amount 0 := by
  simp only [calculateGrossFromNet, hcurrency, hvalid.currency]
  exact if_neg (not_not.mpr rfl)

include hnet

theorem grossIteration_totalFee (remaining rounds : ℕ) (lastDiff : Decimal) :
    (grossIteration net schedule remaining
        (schedule.grossEstimate net.amount rounds) lastDiff).toOption.map (·.2.totalFee) =
      ((List.range' rounds remaining).find?
        (schedule.settles net.amount)).map fun settled =>
          ⟨schedule.total (schedule.grossEstimate net.amount settled), schedule.currency⟩ := by
  induction remaining generalizing rounds lastDiff with
  | zero => rfl
  | succ remaining ih =>
    obtain ⟨breakdown, htotal, hround⟩ := grossIteration_round hvalid hcurrency
      (hvalid.priced.grossEstimate_nonneg hnet rounds) remaining lastDiff
    rw [hround, List.range'_succ, List.find?_cons]
    split
    next hclose =>
      have hsettles : schedule.settles net.amount rounds = true := decide_eq_true hclose
      rw [hsettles]
      simp only [Except.toOption, Option.map_some, htotal]
    next hfar =>
      have hopen : schedule.settles net.amount rounds = false := decide_eq_false hfar
      rw [hopen]
      exact ih (rounds + 1) _

theorem grossIteration_fails (hestimate : 0 ≤ estimate) (remaining : ℕ) (lastDiff : Decimal) :
    FailsOnly (fun failure => ∃ format operands,
        failure = .wrap format operands errGrossConvergenceFailed)
      (grossIteration net schedule remaining estimate lastDiff) := by
  induction remaining generalizing estimate lastDiff with
  | zero => exact FailsOnly.error ⟨_, _, rfl⟩
  | succ remaining ih =>
    obtain ⟨breakdown, -, hround⟩ := grossIteration_round hvalid hcurrency
      hestimate remaining lastDiff
    rw [hround]
    split
    next => exact FailsOnly.ok _
    next => exact ih (add_nonneg hnet (hvalid.priced.total_nonneg hestimate)) _

theorem calculateGrossFromNet_totalFee :
    (calculateGrossFromNet net (some schedule)).toOption.map (·.2.totalFee) =
      ((List.range maxIterations).find?
        (schedule.settles net.amount)).map fun settled =>
          ⟨schedule.total (schedule.grossEstimate net.amount settled), schedule.currency⟩ := by
  rw [calculateGrossFromNet_of_currency hvalid hcurrency, List.range_eq_range']
  exact grossIteration_totalFee hvalid hnet hcurrency maxIterations 0 0

theorem calculateGrossFromNet_fails :
    FailsOnly (fun failure => ∃ format operands,
        failure = .wrap format operands errGrossConvergenceFailed)
      (calculateGrossFromNet net (some schedule)) := by
  rw [calculateGrossFromNet_of_currency hvalid hcurrency]
  exact grossIteration_fails hvalid hnet hcurrency hnet maxIterations 0

end Rounds

theorem grossFromNet_sound (hvalid : schedule.Valid) {net gross : Money} {breakdown : FeeBreakdown}
    (hnet : 0 ≤ net.amount)
    (hok : calculateGrossFromNet net (some schedule) = .ok (gross, breakdown)) :
    calculateSchedule gross (some schedule) = .ok breakdown ∧
      |breakdown.netAmount.amount - net.amount| ≤ 1 / 10 ^ 10 ∧
      ∀ (higher : Money) (fees : FeeBreakdown), net.amount ≤ higher.amount →
        calculateSchedule higher (some schedule) = .ok fees →
          higher.amount - fees.totalFee.amount = net.amount → gross.amount ≤ higher.amount := by
  obtain ⟨netCurrency, -, hok⟩ := bind_eq_ok.mp hok
  obtain ⟨scheduleCurrency, -, hok⟩ := bind_eq_ok.mp hok
  obtain ⟨-, hok⟩ := guard_eq_ok.mp hok
  obtain ⟨hgross, hcalculate, hclose, hleast⟩ := grossIteration_spec hvalid hnet hnet hok
  have hcalculates := calculateSchedule_calculates hvalid hgross hcalculate
  refine ⟨hcalculate, ?_, ?_⟩
  · rw [hcalculates.net]
    refine (schedule.abs_net_sub_le gross.amount hnet).trans ?_
    rw [← hcalculates.total]
    exact hclose
  · intro higher fees hle hfees hsolves
    have htotal := (calculateSchedule_calculates hvalid (hnet.trans hle) hfees).total
    refine hleast higher.amount hle ?_
    rw [← htotal]
    exact hsolves

theorem grossFromNet_sound_cards :
    ∃ breakdown,
      calculateGrossFromNet ⟨9693 / 100, "usd"⟩ (some (cardSchedule .cascading)) =
        .ok (⟨100, "USD"⟩, breakdown) ∧
      calculateSchedule ⟨100, "USD"⟩ (some (cardSchedule .cascading)) = .ok breakdown ∧
      |breakdown.netAmount.amount - 9693 / 100| ≤ 1 / 10 ^ 10 := by
  have hgross : Prod.fst <$> calculateGrossFromNet ⟨9693 / 100, "usd"⟩
      (some (cardSchedule .cascading)) = .ok ⟨100, "USD"⟩ := by decide +kernel
  obtain ⟨⟨gross, breakdown⟩, hfound, rfl⟩ := map_eq_ok.mp hgross
  obtain ⟨hcalculate, hclose, -⟩ := grossFromNet_sound
    cardSchedule_valid.2 (by decide +kernel) hfound
  exact ⟨breakdown, hfound, hcalculate, hclose⟩

end Matcher.Fee
