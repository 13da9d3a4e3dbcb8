import Matcher.Discovery.BridgeWorkers

/-!
# Linked or failed

The failure of an extraction is only written to a row that has no link, but the
link is written to a row whatever its failure is.  The row is never both linked and
failed exactly in the runs in which no failed row is linked, and a lock that does
not expire rules this out.
-/

namespace Matcher.Discovery

open Foundation
open Command (Fault)
open Matching (Instant)

/-! ## What a step does to the row -/

inductive RowChange (linking : Bool) :
    Option ExtractionRequest → Option ExtractionRequest → Prop
  | same (row) : RowChange linking row row
  | linked {before after : ExtractionRequest} (hlinks : linking = true)
      (hfailure : after.bridgeLastError = before.bridgeLastError) :
      RowChange linking (some before) (some after)
  | persisted {before after : ExtractionRequest} (hafter : after.ingestionJobID = none) :
      RowChange linking (some before) (some after)

variable {row : Option ExtractionRequest} {linking : Bool} {fault : Fault}

theorem RowChange.exclusive {next : Option ExtractionRequest} (h : RowChange linking row next)
    (hrow : ∀ er ∈ row, er.Exclusive)
    (hunfailed : linking = true → ∀ er ∈ row, er.bridgeLastError = none) :
    ∀ er ∈ next, er.Exclusive := by
  cases h with
  | same => exact hrow
  | linked hlinks hfailure =>
    rintro _ ⟨⟩
    exact .inr (hfailure.trans (hunfailed hlinks _ rfl))
  | persisted hafter =>
    rintro _ ⟨⟩
    exact .inl hafter

theorem linkExtractionToIngestion_eq_ok {loaded updated : ExtractionRequest} {jobID : UUID}
    {now : Instant} (h : linkExtractionToIngestion row loaded jobID now fault = .ok updated) :
    ∃ before, row = some before ∧ updated.ingestionJobID ≠ none ∧
      updated.bridgeLastError = before.bridgeLastError := by
  unfold linkExtractionToIngestion at h
  split at h
  next => cases h
  next =>
    obtain ⟨-, before, hbefore, -, rfl⟩ := updateUnlinked_eq_ok.mp (mapError_eq_ok.mp h)
    exact ⟨before, hbefore, by simp, rfl⟩

theorem stored_rowChange {change : ExtractionRequest → ExtractionRequest} {format : String}
    {missed : GoError}
    (hchange : ∀ before, (change before).ingestionJobID = before.ingestionJobID) :
    RowChange linking row (stored row (updateUnlinked row change fault format missed)) := by
  cases hupdate : updateUnlinked row change fault format missed with
  | error => exact .same row
  | ok =>
    obtain ⟨-, before, hbefore, hlink, rfl⟩ := updateUnlinked_eq_ok.mp hupdate
    cases hbefore
    exact .persisted ((hchange before).trans hlink)

theorem markFailed_rowChange (row : Option ExtractionRequest) (extraction : ExtractionRequest)
    (errorClass : BridgeErrorClass) (message : String) (now : Instant) (fault : Fault) :
    RowChange linking row (markFailed row extraction errorClass message now fault) := by
  unfold markFailed
  split
  · exact .same row
  · exact stored_rowChange fun _ => rfl

theorem persistFailure_rowChange (maxAttempts : ℤ) (row : Option ExtractionRequest)
    (extraction : ExtractionRequest) (cause : GoError) (now : Instant) (fault : Fault) :
    RowChange linking row (persistFailure maxAttempts row extraction cause now fault) := by
  unfold persistFailure
  split
  · exact .same row
  · exact markFailed_rowChange row _ _ _ now fault
  · simp only [handleTransientFailure]
    split
    · exact markFailed_rowChange row _ _ _ now fault
    · exact stored_rowChange fun _ => rfl

namespace Bridge

variable {κ : Type} [DecidableEq κ] {bridge next : Bridge κ} {label : Label κ} {worker : κ}

/-- The step sets the link. -/
def links (bridge : Bridge κ) : Label κ → Bool
  | .link worker now fault =>
    match bridge.phase worker with
    | .ingested _ loaded jobID =>
      (linkExtractionToIngestion bridge.store loaded jobID now fault).isOk
    | _ => false
  | _ => false

/-- A link that is set is set on a row that has not failed. -/
def LinksUnfailed (bridge : Bridge κ) (label : Label κ) : Prop :=
  bridge.links label = true → ∀ er ∈ bridge.store, er.bridgeLastError = none

instance (bridge : Bridge κ) (label : Label κ) : Decidable (bridge.LinksUnfailed label) :=
  inferInstanceAs (Decidable (_ = true → _))

omit [DecidableEq κ] in
theorem links_eq_true (h : bridge.links label = true) :
    ∃ worker extraction loaded jobID now fault updated, label = .link worker now fault ∧
      bridge.phase worker = .ingested extraction loaded jobID ∧
      linkExtractionToIngestion bridge.store loaded jobID now fault = .ok updated := by
  unfold links at h
  split at h
  next worker now fault =>
    split at h
    next extraction loaded jobID hphase =>
      cases hlink : linkExtractionToIngestion bridge.store loaded jobID now fault with
      | error => simp [hlink, Except.isOk, Except.toBool] at h
      | ok updated =>
        exact ⟨worker, extraction, loaded, jobID, now, fault, updated, rfl, hphase, hlink⟩
    next => cases h
  next => cases h

/-- A worker takes a row that has not failed, goes on, or writes the row and is
done. -/
inductive Effect (bridge : Bridge κ) (label : Label κ) : Bridge κ → Prop
  | same : Effect bridge label bridge
  | polled {worker : κ} {phase : Phase} (hlabel : label = .poll worker)
      (hrow : ∀ er ∈ bridge.store, er.bridgeLastError = none) :
      Effect bridge label (bridge.goto worker phase)
  | goto {worker : κ} {phase : Phase} (hworker : bridge.phase worker ≠ .idle) :
      Effect bridge label (bridge.goto worker phase)
  | finish {worker : κ} {row : Option ExtractionRequest} (hworker : bridge.phase worker ≠ .idle)
      (hrow : RowChange (bridge.links label) bridge.store row) :
      Effect bridge label (bridge.put worker row .idle)

theorem step_effect (maxAttempts : ℤ) (bridge : Bridge κ) (label : Label κ) :
    Effect bridge label (bridge.step maxAttempts label) := by
  cases label with
  | poll =>
    simp only [step]
    split
    next extraction _ hextraction =>
      refine .polled rfl fun er her => ?_
      obtain ⟨hrow, heligible⟩ := Option.filter_eq_some_iff.mp hextraction
      rw [Option.mem_unique her hrow]
      simp only [decide_eq_true_eq] at heligible
      exact heligible.2.2
    next => exact .same
  | load worker | ingest worker =>
    simp only [step]
    split
    next hphase =>
      have hworker : bridge.phase worker ≠ .idle := by simp [hphase]
      split <;> exact .goto hworker
    next => exact .same
  | link worker now fault =>
    simp only [step]
    split
    next hphase =>
      have hworker : bridge.phase worker ≠ .idle := by simp [hphase]
      split
      next => exact .goto hworker
      next updated hlink =>
        obtain ⟨before, hbefore, -, hfailure⟩ := linkExtractionToIngestion_eq_ok hlink
        have hlinks : bridge.links (.link worker now fault) = true := by
          simp [links, hphase, hlink, Except.isOk, Except.toBool]
        exact .finish hworker (hbefore ▸ .linked hlinks hfailure)
    next => exact .same
  | persist worker now fault =>
    simp only [step]
    split
    next hphase =>
      have hworker : bridge.phase worker ≠ .idle := by simp [hphase]
      exact .finish hworker (persistFailure_rowChange maxAttempts _ _ _ now fault)
    next => exact .same

theorem Effect.rowChange (h : Effect bridge label next) :
    RowChange (bridge.links label) bridge.store next.store := by
  cases h with
  | same | polled | goto => exact .same _
  | finish _ hrow => exact hrow

theorem step_exclusive_iff (maxAttempts : ℤ) (label : Label κ)
    (hrow : ∀ er ∈ bridge.store, er.Exclusive) :
    (∀ er ∈ (bridge.step maxAttempts label).store, er.Exclusive) ↔ bridge.LinksUnfailed label := by
  constructor
  · intro hnext hlinks
    obtain ⟨worker, extraction, loaded, jobID, now, fault, updated, rfl, hphase, hlink⟩ :=
      links_eq_true hlinks
    obtain ⟨before, hbefore, hlinked, hfailure⟩ := linkExtractionToIngestion_eq_ok hlink
    have hexclusive : updated.Exclusive := hnext updated (by simp [step, hphase, hlink])
    rw [hbefore]
    rintro _ ⟨⟩
    exact hfailure ▸ hexclusive.resolve_left hlinked
  · exact (bridge.step_effect maxAttempts label).rowChange.exclusive hrow

/-! ## Workers whose lock does not expire -/

def Serial (bridge : Bridge κ) : Label κ → Prop
  | .poll _ => ∀ worker, bridge.phase worker = .idle
  | _ => True

def Alone (bridge : Bridge κ) : Prop :=
  ∀ worker, bridge.phase worker ≠ .idle →
    (∀ other, other ≠ worker → bridge.phase other = .idle) ∧
      ∀ er ∈ bridge.store, er.bridgeLastError = none

theorem alone_goto (hothers : ∀ other, other ≠ worker → bridge.phase other = .idle)
    (hrow : ∀ er ∈ bridge.store, er.bridgeLastError = none) (phase : Phase) :
    Alone (bridge.goto worker phase) := by
  have hidle : ∀ other, other ≠ worker → (bridge.goto worker phase).phase other = .idle := by
    intro other hne
    rw [bridge.goto_phase_of_ne hne]
    exact hothers other hne
  intro runner hrunner
  obtain rfl : runner = worker := by
    by_contra hne
    exact hrunner (hidle runner hne)
  exact ⟨hidle, hrow⟩

theorem Alone.finish (h : bridge.Alone) (hworker : bridge.phase worker ≠ .idle)
    (row : Option ExtractionRequest) : Alone (bridge.put worker row .idle) := by
  intro runner hrunner
  by_cases hne : runner = worker
  · simp [hne] at hrunner
  · simp [hne, (h worker hworker).1 runner hne] at hrunner

omit [DecidableEq κ] in
theorem Alone.linksUnfailed (h : bridge.Alone) (label : Label κ) : bridge.LinksUnfailed label := by
  intro hlinks
  obtain ⟨worker, _, _, _, _, _, _, -, hphase, -⟩ := links_eq_true hlinks
  exact (h worker (by simp [hphase])).2

theorem Effect.alone (heffect : Effect bridge label next) (h : bridge.Alone)
    (hserial : bridge.Serial label) : next.Alone := by
  cases heffect with
  | same => exact h
  | polled hlabel hrow =>
    subst hlabel
    exact alone_goto (fun other _ => hserial other) hrow _
  | goto hworker => exact alone_goto (h _ hworker).1 (h _ hworker).2 _
  | finish hworker => exact h.finish hworker _

theorem links_unfailed_of_serial {maxAttempts : ℤ} {labels : List (Label κ)}
    (h : Meets (step maxAttempts) Serial (.initial row .idle) labels) :
    Meets (step maxAttempts) LinksUnfailed (.initial row .idle) labels :=
  h.imp Alone (fun _ hworker => (hworker rfl).elim)
    fun bridge label halone hserial => ⟨halone.linksUnfailed label,
      (bridge.step_effect maxAttempts label).alone halone hserial⟩

/-! ## Runs that keep the row exclusive -/

/-- The row is never both linked and failed exactly when no failed row is linked. -/
theorem exclusive_iff_links_unfailed (maxAttempts : ℤ) (row : Option ExtractionRequest)
    (hrow : ∀ er ∈ row, er.Exclusive) (labels : List (Label κ)) :
    (∀ reached, reached <+: labels → ∀ er ∈ (run maxAttempts row reached).store, er.Exclusive) ↔
      Meets (step maxAttempts) LinksUnfailed (.initial row .idle) labels :=
  Meets.iff_invariant (fun bridge : Bridge κ => ∀ er ∈ bridge.store, er.Exclusive) hrow
    (fun _ label => step_exclusive_iff maxAttempts label) labels

def completedExtraction : ExtractionRequest where
  ingestionJobID := none
  status := .complete
  bridgeAttempts := 0
  bridgeLastError := none
  bridgeLastErrorMessage := []
  bridgeFailedAt := none
  updatedAt := 0

theorem links_unfailed_of_serial_in_turn :
    Meets (step 5) LinksUnfailed (.initial (some completedExtraction) .idle)
      ([.poll true, .load true none, .ingest true (.ok ⟨1⟩), .link true 10 none,
        .poll false] : List (Label Bool)) :=
  links_unfailed_of_serial ⟨fun _ => rfl, trivial, trivial, trivial,
    Bool.forall_bool.mpr ⟨rfl, rfl⟩, trivial⟩

/-- Worker `true` links the row before worker `false` finds the artifact gone, and
the failure is not written. -/
theorem exclusive_iff_links_unfailed_link_first :
    let labels : List (Label Bool) := [.poll true, .poll false,
      .load true none, .load false none, .ingest true (.ok ⟨1⟩),
      .ingest false (.error errFetcherResourceNotFound), .link true 10 none,
      .persist false 11 none]
    (∀ er ∈ some completedExtraction, er.Exclusive) ∧
      (∀ reached, reached <+: labels →
        ∀ er ∈ (run 5 (some completedExtraction) reached).store, er.Exclusive) ∧
      (run 5 (some completedExtraction) labels).store =
        some { completedExtraction with ingestionJobID := some ⟨1⟩, updatedAt := 10 } :=
  ⟨by decide,
    (exclusive_iff_links_unfailed 5 (some completedExtraction) (by decide)
      _).mpr (by decide +kernel),
    by decide +kernel⟩

/-- Worker `false` marks the row as failed while worker `true`, whose lock has
expired, is still ingesting; the link is then set on the failed row. -/
theorem stale_worker_links_failed_row :
    let labels : List (Label Bool) := [.poll true, .load true none, .poll false, .load false none,
      .ingest false (.error errFetcherResourceNotFound), .persist false 10 none,
      .ingest true (.ok ⟨1⟩), .link true 11 none]
    (∃ er ∈ (run 5 (some completedExtraction) labels).store, ¬ er.Exclusive) ∧
      ((run 5 (some completedExtraction) labels).store.map
        fun er => (er.ingestionJobID, er.bridgeLastError)) =
          some (some ⟨1⟩, some .artifactNotFound) := by
  decide +kernel

end Bridge

end Matcher.Discovery
