import Matcher.Exceptions.Exception
import Matcher.Foundation.Actors
import Matcher.Foundation.Transition

/-!
# Match runs and commands on one exception

Match runs upsert the exception of a transaction and raise its severity, without a
new version.  A command reads the exception, changes its copy and writes it over
the row if the version is the one it read.  The severity is kept from falling if
the row has still the severity that a command read when its write goes through.
-/

namespace Matcher.Exceptions

open Foundation
open Command (Fault)
open Matching (Instant)

structure Store where
  row : Option Exception
  classified : List ExceptionSeverity

/-- A command has nothing, the exception that it read, or a changed copy too. -/
inductive Phase
  | idle
  | loaded (exception : Exception)
  | changed (read copy : Exception)

abbrev Writers (κ : Type) := Actors κ Store Phase

inductive Label (κ : Type)
  | createExceptions (inputs : List (UUID × ExceptionTransactionInput))
      (regulatorySourceTypes : List String) (now : Instant) (fault : Fault)
  | findByID (actor : κ) (exceptionID : UUID)
  | change (actor : κ) (change : Change) (now : Instant)
  | executeUpdate (actor : κ) (now : Instant) (fault : Fault)

/-! ## Steps -/

namespace Store

variable (transactionID : UUID)

/-- Inputs of other transactions are about other rows. -/
def upsertInput (rules : List SeverityRule) (now : Instant) (store : Store)
    (input : UUID × ExceptionTransactionInput) : Store :=
  if input.2.transactionID = UUID.zero then store
  else if input.2.transactionID ≠ transactionID then store
  else
    let severity := classifySeverity input.2 now rules
    { row := some (upsert store.row input.1 input.2 severity now)
      classified := store.classified ++ [severity] }

/-- One transaction, which fails as a whole. -/
def createExceptions (store : Store) (inputs : List (UUID × ExceptionTransactionInput))
    (regulatorySourceTypes : List String) (now : Instant) (fault : Fault) : Store :=
  match fault with
  | some _ => store
  | none =>
    inputs.foldl
      (upsertInput transactionID (defaultSeverityRules regulatorySourceTypes) now)
      store

end Store

namespace Writers

variable {κ : Type} [DecidableEq κ] (transactionID : UUID)

/-- After a write a command has the row that was written, and may go on. -/
def executeUpdate (writers : Writers κ) (actor : κ) (copy : Exception)
    (now : Instant) (fault : Fault) : Writers κ :=
  match Exceptions.executeUpdate writers.store.row copy now fault with
  | .error _ => writers.goto actor .idle
  | .ok updated => writers.put actor { writers.store with row := some updated } (.loaded updated)

def step (writers : Writers κ) : Label κ → Writers κ
  | .createExceptions inputs regulatorySourceTypes now fault =>
    { writers with
      store := writers.store.createExceptions transactionID inputs regulatorySourceTypes now fault }
  | .findByID actor exceptionID =>
    match writers.store.row with
    | some exception =>
      if exception.id = exceptionID then
        writers.goto actor (.loaded exception)
      else writers.goto actor .idle
    | none => writers.goto actor .idle
  | .change actor change now =>
    match writers.phase actor with
    | .loaded exception =>
      match change.apply exception now with
      | .ok copy => writers.goto actor (.changed exception copy)
      | .error _ => writers.goto actor .idle
    | _ => writers
  | .executeUpdate actor now fault =>
    match writers.phase actor with
    | .changed _ copy => writers.executeUpdate actor copy now fault
    | _ => writers

def run (row : Option Exception) (labels : List (Label κ)) : Writers κ :=
  labels.foldl (step transactionID) (.initial ⟨row, []⟩ .idle)

end Writers

/-! ## Severities of the row -/

/-- The row stays, with the same severity or a greater one. -/
def Store.Raises (before after : Store) : Prop :=
  ∀ exception ∈ before.row, ∃ other ∈ after.row, exception.severity ≤ other.severity

def Store.Covers (store : Store) : Prop :=
  ∀ severity ∈ store.classified, ∃ exception ∈ store.row, severity ≤ exception.severity

instance (before after : Store) : Decidable (before.Raises after) :=
  inferInstanceAs (Decidable (∀ exception ∈ before.row, ∃ other ∈ after.row, _))

instance (store : Store) : Decidable store.Covers :=
  inferInstanceAs (Decidable (∀ severity ∈ store.classified, ∃ exception ∈ store.row, _))

theorem Store.Raises.refl (store : Store) : store.Raises store :=
  fun exception h => ⟨exception, h, le_rfl⟩

theorem Store.Raises.trans {first second third : Store} (h : first.Raises second)
    (hnext : second.Raises third) : first.Raises third := by
  intro exception hexception
  obtain ⟨other, hother, hle⟩ := h exception hexception
  obtain ⟨last, hlast, hle'⟩ := hnext other hother
  exact ⟨last, hlast, hle.trans hle'⟩

theorem Store.Covers.raises {before after : Store} (h : before.Covers)
    (hraises : before.Raises after) (hclassified : after.classified = before.classified) :
    after.Covers := by
  intro severity hseverity
  rw [hclassified] at hseverity
  obtain ⟨exception, hexception, hle⟩ := h severity hseverity
  obtain ⟨other, hother, hle'⟩ := hraises exception hexception
  exact ⟨other, hother, hle.trans hle'⟩

theorem le_upsert_severity (row : Option Exception) (id : UUID) (input : ExceptionTransactionInput)
    (severity : ExceptionSeverity) (now : Instant) :
    severity ≤ (upsert row id input severity now).severity := by
  cases row with
  | none => exact le_rfl
  | some stored =>
    simp only [upsert, upsertSeverity_eq_max]
    exact le_max_right stored.severity severity

theorem upsert_raises {row : Option Exception} {stored : Exception} (h : stored ∈ row) (id : UUID)
    (input : ExceptionTransactionInput) (severity : ExceptionSeverity) (now : Instant) :
    stored.severity ≤ (upsert row id input severity now).severity := by
  cases h
  simp only [upsert, upsertSeverity_eq_max]
  exact le_max_left stored.severity severity

variable {transactionID : UUID} {before after store start : Store}

theorem Store.upsertInput_raises (rules : List SeverityRule) (now : Instant)
    (store : Store) (input : UUID × ExceptionTransactionInput) :
    store.Raises (store.upsertInput transactionID rules now input) := by
  unfold upsertInput
  split
  · exact .refl store
  · split
    · exact .refl store
    · intro exception hexception
      exact ⟨_, rfl, upsert_raises hexception _ _ _ now⟩

theorem Store.Covers.upsertInput (h : store.Covers) (rules : List SeverityRule)
    (now : Instant) (input : UUID × ExceptionTransactionInput) :
    (store.upsertInput transactionID rules now input).Covers := by
  unfold Store.upsertInput
  split
  · exact h
  · split
    · exact h
    · intro severity hseverity
      refine ⟨_, rfl, ?_⟩
      rcases List.mem_append.mp hseverity with hold | hnew
      · obtain ⟨exception, hexception, hle⟩ := h severity hold
        exact hle.trans (upsert_raises hexception _ _ _ now)
      · rw [List.mem_singleton.mp hnew]
        exact le_upsert_severity _ _ _ _ now

theorem Store.createExceptions_raises (store : Store)
    (inputs : List (UUID × ExceptionTransactionInput))
    (regulatorySourceTypes : List String) (now : Instant) (fault : Fault) :
    store.Raises (store.createExceptions transactionID inputs regulatorySourceTypes now fault) := by
  cases fault with
  | some => exact .refl store
  | none =>
    simp only [createExceptions]
    induction inputs generalizing store with
    | nil => exact .refl store
    | cons input _ ih => exact (store.upsertInput_raises _ now input).trans (ih _)

theorem Store.Covers.createExceptions (h : store.Covers)
    (inputs : List (UUID × ExceptionTransactionInput))
    (regulatorySourceTypes : List String) (now : Instant) (fault : Fault) :
    (store.createExceptions transactionID inputs regulatorySourceTypes now fault).Covers := by
  cases fault with
  | some => exact h
  | none =>
    simp only [Store.createExceptions]
    induction inputs generalizing store with
    | nil => exact h
    | cons input _ ih => exact ih (h.upsertInput _ now input)

/-! ## Runs -/

/-- A changed copy is the exception that was read but for its contents. -/
def Phase.Follows : Phase → Prop
  | .changed read copy => copy.Follows read
  | _ => True

namespace Writers

variable {κ : Type} {writers next : Writers κ} {label : Label κ}

/-- A command that finds the version that it read finds the severity too. -/
def WritesCurrent (writers : Writers κ) : Label κ → Prop
  | .executeUpdate actor _ _ =>
    match writers.phase actor with
    | .changed read _ =>
      ∀ stored ∈ writers.store.row, stored.id = read.id →
        stored.version = read.version → stored.severity = read.severity
    | _ => True
  | _ => True

instance (writers : Writers κ) (label : Label κ) : Decidable (writers.WritesCurrent label) := by
  unfold WritesCurrent
  split
  · split <;> infer_instance
  · infer_instance

variable [DecidableEq κ]

inductive Effect (transactionID : UUID) (writers : Writers κ) (label : Label κ) : Writers κ → Prop
  | same : Effect transactionID writers label writers
  | created (inputs : List (UUID × ExceptionTransactionInput))
      (regulatorySourceTypes : List String) (now : Instant) (fault : Fault) :
      Effect transactionID writers label { writers with
        store := writers.store.createExceptions transactionID inputs
          regulatorySourceTypes now fault }
  | goto (actor : κ) {phase : Phase} (hphase : phase.Follows) :
      Effect transactionID writers label (writers.goto actor phase)
  | written {actor : κ} {now : Instant} {fault : Fault} {read copy updated : Exception}
      (hlabel : label = .executeUpdate actor now fault)
      (hphase : writers.phase actor = .changed read copy)
      (hupdate : Exceptions.executeUpdate writers.store.row copy now fault = .ok updated) :
      Effect transactionID writers label (writers.put actor
        { writers.store with row := some updated } (.loaded updated))

theorem step_effect (writers : Writers κ) (label : Label κ) :
    Effect transactionID writers label (writers.step transactionID label) := by
  cases label with
  | createExceptions inputs regulatorySourceTypes now fault =>
    exact .created inputs regulatorySourceTypes now fault
  | findByID actor =>
    simp only [step]
    split
    · split <;> exact .goto actor trivial
    · exact .goto actor trivial
  | change actor =>
    simp only [step]
    split
    next =>
      split
      next copy hcopy => exact .goto actor (Change.apply_follows hcopy)
      next => exact .goto actor trivial
    next => exact .same
  | executeUpdate actor =>
    simp only [step]
    split
    next hphase =>
      unfold executeUpdate
      split
      next => exact .goto actor trivial
      next updated hupdate => exact .written rfl hphase hupdate
    next => exact .same

theorem Effect.follows (heffect : Effect transactionID writers label next)
    (h : writers.Every fun _ _ phase => phase.Follows) :
    next.Every fun _ _ phase => phase.Follows := by
  cases heffect with
  | same | created => exact h
  | goto _ hphase => exact h.goto hphase
  | written => exact h.put trivial fun _ _ hother => hother

/-- What a step does to the store: a write of a command keeps the severity. -/
inductive StoreChange (transactionID : UUID) (store : Store) : Store → Prop
  | same : StoreChange transactionID store store
  | created (inputs : List (UUID × ExceptionTransactionInput))
      (regulatorySourceTypes : List String) (now : Instant) (fault : Fault) :
      StoreChange transactionID store (store.createExceptions transactionID
        inputs regulatorySourceTypes now fault)
  | written {stored updated : Exception} (hstored : stored ∈ store.row)
      (hseverity : updated.severity = stored.severity) :
      StoreChange transactionID store { store with row := some updated }

theorem Effect.storeChange (heffect : Effect transactionID writers label next)
    (hfollows : writers.Every fun _ _ phase => phase.Follows)
    (hcurrent : writers.WritesCurrent label) :
    StoreChange transactionID writers.store next.store := by
  cases heffect with
  | same => exact .same
  | created inputs regulatorySourceTypes now fault =>
    exact .created inputs regulatorySourceTypes now fault
  | goto => exact .same
  | written hlabel hphase hupdate =>
    obtain ⟨stored, hstored, hid, hversion, hupdated⟩ := executeUpdate_eq_ok hupdate
    have hcopy := hfollows.of_phase hphase
    subst hlabel
    simp only [WritesCurrent, hphase] at hcurrent
    have hread := hcurrent stored hstored (hid.trans hcopy.id) (hversion.trans hcopy.version)
    exact .written hstored (by rw [hupdated, hcopy.severity, hread])

theorem StoreChange.raises (h : StoreChange transactionID before after) : before.Raises after := by
  cases h with
  | same => exact .refl before
  | created inputs regulatorySourceTypes now fault =>
    exact before.createExceptions_raises inputs regulatorySourceTypes now fault
  | written hstored hseverity =>
    intro exception hexception
    rw [Option.mem_unique hexception hstored]
    exact ⟨_, rfl, hseverity.ge⟩

theorem StoreChange.covers (h : StoreChange transactionID before after) (hbefore : before.Covers) :
    after.Covers := by
  have hraises := h.raises
  cases h with
  | same => exact hbefore
  | created inputs regulatorySourceTypes now fault =>
    exact hbefore.createExceptions inputs regulatorySourceTypes now fault
  | written => exact hbefore.raises hraises rfl

structure Sound (start : Store) (writers : Writers κ) : Prop where
  follows : writers.Every fun _ _ phase => phase.Follows
  covers : writers.store.Covers
  raises : start.Raises writers.store

theorem Sound.step (h : writers.Sound start) (hcurrent : writers.WritesCurrent label) :
    (writers.step transactionID label).Sound start := by
  have heffect : Effect transactionID writers label _ := step_effect writers label
  have hchange := heffect.storeChange h.follows hcurrent
  exact ⟨heffect.follows h.follows, hchange.covers h.covers, h.raises.trans hchange.raises⟩

theorem Sound.foldl (h : writers.Sound start) {labels : List (Label κ)}
    (hcurrent : Meets (Writers.step transactionID) WritesCurrent writers labels) :
    Sound start (labels.foldl (Writers.step transactionID) writers) :=
  hcurrent.invariant (Sound start) h fun _ _ hsound hlabel => hsound.step hlabel

/-- The stored severity never falls, and is at least every severity that the
committed upserts have classified. -/
theorem severity_never_falls (transactionID : UUID) (row : Option Exception)
    (labels : List (Label κ))
    (hcurrent : Meets (Writers.step transactionID) WritesCurrent
      (.initial ⟨row, []⟩ .idle) labels) :
    (∀ reached, reached <+: labels →
      (run transactionID row reached).store.Raises (run transactionID row labels).store) ∧
      (run transactionID row labels).store.Covers := by
  have hinitial : Sound ⟨row, []⟩ (Actors.initial ⟨row, []⟩ .idle : Writers κ) :=
    ⟨fun _ => trivial, fun _ => by simp [Actors.initial], .refl _⟩
  constructor
  · rintro reached ⟨rest, rfl⟩
    have hreached := hinitial.foldl (hcurrent.of_isPrefix (List.prefix_append reached rest))
    have hrest : Sound (run transactionID row reached).store (run transactionID row reached) :=
      ⟨hreached.follows, hreached.covers, .refl _⟩
    have hfinal : run transactionID row (reached ++ rest) =
        rest.foldl (Writers.step transactionID) (run transactionID row reached) :=
      List.foldl_append
    rw [hfinal]
    exact (hrest.foldl hcurrent.of_append).raises
  · exact (hinitial.foldl hcurrent).covers

def inputOf (amountAbsBase : Decimal) : UUID × ExceptionTransactionInput :=
  (⟨7⟩, {
    transactionID := ⟨1⟩
    amountAbsBase := amountAbsBase
    transactionDate := none
    sourceType := ""
    fxMissing := false
    reason := "" })

/-- The upsert comes before the command reads the exception. -/
theorem severity_never_falls_for_upsert_first :
    let labels : List (Label Unit) := [.createExceptions [inputOf 10] [] 10 none,
      .createExceptions [inputOf 100000] [] 11 none,
      .findByID () ⟨7⟩, .change () (.assign "ana" none) 12,
      .executeUpdate () 13 none]
    (run ⟨1⟩ none labels).store.row.map
        (fun exception => (exception.severity, exception.version)) =
        some (.critical, 2) ∧
      (∀ reached, reached <+: labels →
        (run ⟨1⟩ none reached).store.Raises (run ⟨1⟩ none labels).store) ∧
      (run ⟨1⟩ none labels).store.Covers :=
  ⟨by decide +kernel, severity_never_falls ⟨1⟩ none _ (by decide +kernel)⟩

/-- The upsert raises the severity between the read and the write of a command,
and the version lets the write pass. -/
theorem command_lowers_raised_severity :
    let before : List (Label Unit) := [.createExceptions [inputOf 10] [] 10 none, .findByID () ⟨7⟩,
      .change () (.assign "ana" none) 11,
      .createExceptions [inputOf 100000] [] 12 none]
    let labels := before ++ [.executeUpdate () 13 none]
    (run ⟨1⟩ none before).store.row.map Exception.severity = some .critical ∧
      (run ⟨1⟩ none labels).store.row.map Exception.severity = some .low ∧
      ¬ (run ⟨1⟩ none before).store.Raises (run ⟨1⟩ none labels).store ∧
      ¬ (run ⟨1⟩ none labels).store.Covers := by
  decide +kernel

end Writers

end Matcher.Exceptions
