import Matcher.Discovery.Extraction
import Matcher.Foundation.Actors
import Matcher.Foundation.Transition

/-!
# Workers that bridge one extraction

A worker polls for the extraction, the orchestrator loads it again, has its
content ingested and links it, and an error of the orchestrator is persisted as
another attempt or as a terminal failure.  The lock of a worker may expire while it
is still running, so any number of workers can be at any of these steps.
-/

namespace Matcher.Discovery

open Foundation
open Command (Fault attempt)
open Matching (Instant)

def errIntegrityVerificationFailed : GoError :=
  .sentinel ⟨"ErrIntegrityVerificationFailed", "artifact integrity verification failed"⟩

def errFetcherResourceNotFound : GoError :=
  .sentinel ⟨"ErrFetcherResourceNotFound", "fetcher resource not found"⟩

def errBridgeExtractionIneligible : GoError :=
  .sentinel ⟨"ErrBridgeExtractionIneligible", "bridge extraction is no longer eligible"⟩

def errBridgeSourceUnresolvable : GoError :=
  .sentinel ⟨"ErrBridgeSourceUnresolvable", "no reconciliation source wired for fetcher connection"⟩

def errArtifactRetrievalFailed : GoError :=
  .sentinel ⟨"ErrArtifactRetrievalFailed", "artifact retrieval failed"⟩

/-! ## Errors of the orchestrator -/

inductive BridgeRetryClassification
  | retryTransient
  | retryTerminal (errorClass : BridgeErrorClass)
  | retryIdempotent
deriving DecidableEq, Repr

def classifyBridgeError (error : Option GoError) : BridgeRetryClassification :=
  match error with
  | none => .retryIdempotent
  | some cause =>
    if cause.Is errIntegrityVerificationFailed then
      .retryTerminal .integrityFailed
    else if cause.Is errFetcherResourceNotFound then
      .retryTerminal .artifactNotFound
    else if cause.Is errExtractionAlreadyLinked then .retryIdempotent
    else if cause.Is errBridgeExtractionIneligible then .retryIdempotent
    else .retryTransient

def escalateAfterMaxAttempts (cause : GoError) : BridgeErrorClass :=
  if cause.Is errBridgeSourceUnresolvable then .sourceUnresolved
  else .maxAttemptsExceeded

variable (row : Option ExtractionRequest)

def findEligibleForBridge : Option ExtractionRequest :=
  row.filter fun stored => stored.status = .complete ∧
    stored.ingestionJobID = none ∧ stored.bridgeLastError = none

/-- The orchestrator reads the row again, and does not look at its failure. -/
def loadEligibleExtraction (fault : Fault) : Except GoError ExtractionRequest :=
  match fault with
  | some cause => .error (.wrap "load extraction: %w" [] cause)
  | none =>
    match row with
    | none => .error errExtractionNotFound
    | some stored =>
      if stored.status ≠ .complete then
        .error errBridgeExtractionIneligible
      else if stored.ingestionJobID ≠ none then
        .error errBridgeExtractionIneligible
      else .ok stored

/-- The source is resolved, the artifact is retrieved and its content is ingested,
up to the job that has done it. -/
def checkIngestionJobID (outcome : Except GoError UUID) : Except GoError UUID :=
  match outcome with
  | .error cause => .error cause
  | .ok jobID =>
    if jobID = UUID.zero then
      .error (.wrap "%w: ingestion returned nil job id" [] errArtifactRetrievalFailed)
    else .ok jobID

def linkError (cause : GoError) : GoError :=
  if cause.Is errExtractionAlreadyLinked then errExtractionAlreadyLinked
  else .wrap "link extraction to ingestion: %w" [] cause

def persistLinkError (cause : GoError) : GoError :=
  let wrapped := GoError.wrap "link extraction if unlinked: %w" [] cause
  if wrapped.Is errExtractionAlreadyLinked ∨ wrapped.Is errExtractionNotFound
  then wrapped
  else .wrap "persist extraction link: %w" [] wrapped

def linkExtractionToIngestion (loaded : ExtractionRequest) (ingestionJobID : UUID) (now : Instant)
    (fault : Fault) : Except GoError ExtractionRequest :=
  match loaded.linkToIngestion ingestionJobID now with
  | .error cause => .error cause
  | .ok _ => (linkIfUnlinkedTx row ingestionJobID now fault).mapError persistLinkError

/-! ## Persisting a failure -/

def stored (result : Except GoError ExtractionRequest) : Option ExtractionRequest :=
  match result with
  | .error _ => row
  | .ok updated => some updated

def markFailed (extraction : ExtractionRequest) (errorClass : BridgeErrorClass) (message : String)
    (now : Instant) (fault : Fault) : Option ExtractionRequest :=
  match extraction.markBridgeFailed errorClass message now with
  | .error _ => row
  | .ok marked => stored row (executeMarkBridgeFailed row marked now fault)

def persistTerminalFailure (extraction : ExtractionRequest) (errorClass : BridgeErrorClass)
    (cause : GoError) (now : Instant) (fault : Fault) : Option ExtractionRequest :=
  markFailed row (extraction.recordBridgeAttempt now) errorClass
    ("terminal: " ++ cause.text) now fault

def handleTransientFailure (maxAttempts : ℤ) (row : Option ExtractionRequest)
    (extraction : ExtractionRequest) (cause : GoError) (now : Instant) (fault : Fault) :
    Option ExtractionRequest :=
  let recorded := extraction.recordBridgeAttempt now
  if maxAttempts ≤ recorded.bridgeAttempts then
    markFailed row recorded (escalateAfterMaxAttempts cause)
      ("terminal: escalated after " ++ toString recorded.bridgeAttempts ++
        " attempts: " ++ cause.text) now fault
  else
    stored row (executeIncrementBridgeAttempts row recorded.bridgeAttempts now fault)

def persistFailure (maxAttempts : ℤ) (row : Option ExtractionRequest)
    (extraction : ExtractionRequest) (cause : GoError) (now : Instant) (fault : Fault) :
    Option ExtractionRequest :=
  match classifyBridgeError (some cause) with
  | .retryIdempotent => row
  | .retryTerminal errorClass => persistTerminalFailure row extraction errorClass cause now fault
  | .retryTransient => handleTransientFailure maxAttempts row extraction cause now fault

/-! ## Workers -/

inductive Phase
  | idle
  | polled (extraction : ExtractionRequest)
  | loaded (extraction loaded : ExtractionRequest)
  | ingested (extraction loaded : ExtractionRequest) (ingestionJobID : UUID)
  | failed (extraction : ExtractionRequest) (cause : GoError)
deriving DecidableEq, Repr

abbrev Bridge (κ : Type) := Actors κ (Option ExtractionRequest) Phase

inductive Label (κ : Type)
  | poll (worker : κ)
  | load (worker : κ) (fault : Fault)
  | ingest (worker : κ) (outcome : Except GoError UUID)
  | link (worker : κ) (now : Instant) (fault : Fault)
  | persist (worker : κ) (now : Instant) (fault : Fault)

variable {κ : Type} [DecidableEq κ]

namespace Bridge

def step (maxAttempts : ℤ) (bridge : Bridge κ) : Label κ → Bridge κ
  | .poll worker =>
    match bridge.phase worker, findEligibleForBridge bridge.store with
    | .idle, some extraction => bridge.goto worker (.polled extraction)
    | _, _ => bridge
  | .load worker fault =>
    match bridge.phase worker with
    | .polled extraction =>
      match loadEligibleExtraction bridge.store fault with
      | .error cause => bridge.goto worker (.failed extraction cause)
      | .ok loaded => bridge.goto worker (.loaded extraction loaded)
    | _ => bridge
  | .ingest worker outcome =>
    match bridge.phase worker with
    | .loaded extraction loaded =>
      match checkIngestionJobID outcome with
      | .error cause => bridge.goto worker (.failed extraction cause)
      | .ok jobID => bridge.goto worker (.ingested extraction loaded jobID)
    | _ => bridge
  | .link worker now fault =>
    match bridge.phase worker with
    | .ingested extraction loaded jobID =>
      match linkExtractionToIngestion bridge.store loaded jobID now fault with
      | .error cause => bridge.goto worker (.failed extraction (linkError cause))
      | .ok updated => bridge.put worker (some updated) .idle
    | _ => bridge
  | .persist worker now fault =>
    match bridge.phase worker with
    | .failed extraction cause =>
      bridge.put worker
        (persistFailure maxAttempts bridge.store extraction cause now fault)
        .idle
    | _ => bridge

def run (maxAttempts : ℤ) (row : Option ExtractionRequest) (labels : List (Label κ)) : Bridge κ :=
  labels.foldl (step maxAttempts) (.initial row .idle)

end Bridge

end Matcher.Discovery
