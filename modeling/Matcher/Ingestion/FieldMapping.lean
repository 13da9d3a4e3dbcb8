import Matcher.Ingestion.StreamLoop

/-!
# What the parsers are given

A field map names the columns of the required fields.  How a row with these names
becomes a record is left open: the parsers only need that the same row with the
same number gives the same record or the same error.
-/

namespace Matcher.Ingestion

open Foundation

abbrev Row (υ : Type) := String → Option υ

structure Mapping where
  externalID : String
  amount : String
  currency : String
  date : String
  description : Option String
deriving DecidableEq, Repr

structure Normalizer (υ : Type) where
  text : String → υ
  normalizeTransaction : Mapping → Row υ → ℕ → Except ParseError Record

def errMissingFieldMap : GoError :=
  .sentinel ⟨"errMissingFieldMap", "field map is required"⟩

def errMissingFieldMapping : GoError :=
  .sentinel ⟨"errMissingFieldMapping", "field map mapping is required"⟩

def errInvalidMappingFormat : GoError :=
  .sentinel ⟨"errInvalidMappingFormat", "field map mapping must contain string values"⟩

def errMissingMappingKey : GoError :=
  .sentinel ⟨"errMissingMappingKey", "field map missing required mapping key"⟩

def errEmptyMappingValue : GoError :=
  .sentinel ⟨"errEmptyMappingValue", "field map mapping value must be non-empty"⟩

/-- The entries of a field map; a value that is not a text is `none`. -/
abbrev FieldMapEntries := List (String × Option String)

def requiredMapping (entries : FieldMapEntries) (key : String) : Except GoError String :=
  match entries.lookup key with
  | none => .error (.wrap "%w: %s" [key] errMissingMappingKey)
  | some none => .error (.wrap "field map mapping for %s: %w" [key] errInvalidMappingFormat)
  | some (some value) =>
    let name := trimSpace value
    if name = "" then .error (.wrap "%w: %s" [key] errEmptyMappingValue)
    else .ok name

/-- An optional name that is blank or no text at all is ignored. -/
def optionalMapping (entries : FieldMapEntries) (key : String) : Option String :=
  match entries.lookup key with
  | some (some value) =>
    let trimmed := trimSpace value
    if trimmed = "" then none else some trimmed
  | _ => none

def mappingFromFieldMap (fieldMap : Option FieldMapEntries) : Except GoError Mapping :=
  match fieldMap with
  | none => .error errMissingFieldMap
  | some [] => .error errMissingFieldMapping
  | some entries => do
      let externalID ← requiredMapping entries "external_id"
      let amount ← requiredMapping entries "amount"
      let currency ← requiredMapping entries "currency"
      let date ← requiredMapping entries "date"
      return ⟨externalID, amount, currency, date, optionalMapping entries "description"⟩

theorem requiredMapping_visible (entries : FieldMapEntries) {key : String}
    (hkey : key ∈ ["external_id", "amount", "currency", "date"]) :
    FailsOnly (fun cause => trimSpace cause.text ≠ "") (requiredMapping entries key) := by
  have htexts : ∀ key ∈ ["external_id", "amount", "currency", "date"],
      trimSpace (GoError.wrap "%w: %s" [key] errMissingMappingKey).text ≠ "" ∧
        trimSpace (GoError.wrap "%w: %s" [key] errEmptyMappingValue).text ≠ "" := by
    decide +kernel
  unfold requiredMapping
  cases entries.lookup key with
  | none => exact .error (htexts key hkey).1
  | some value =>
    cases value with
    | none => exact .error (trimSpace_text_wrap rfl (by decide) rfl _ _)
    | some =>
      dsimp only
      split_ifs
      · exact .error (htexts key hkey).2
      · exact .ok _

theorem mappingFromFieldMap_visible (fieldMap : Option FieldMapEntries) :
    FailsOnly (fun cause => trimSpace cause.text ≠ "") (mappingFromFieldMap fieldMap) := by
  cases fieldMap with
  | none => exact .error (by decide)
  | some entries =>
    cases entries with
    | nil => exact .error (by decide)
    | cons =>
      refine .bind (requiredMapping_visible _ (by decide)) fun _ => ?_
      refine .bind (requiredMapping_visible _ (by decide)) fun _ => ?_
      refine .bind (requiredMapping_visible _ (by decide)) fun _ => ?_
      refine .bind (requiredMapping_visible _ (by decide)) fun _ => ?_
      exact .ok _

/-- A size that is not positive stands for the default. -/
def effectiveChunkSize (chunkSize : ℤ) : ℕ :=
  if chunkSize ≤ 0 then defaultChunkSize else chunkSize.toNat

theorem effectiveChunkSize_pos (chunkSize : ℤ) : 0 < effectiveChunkSize chunkSize := by
  unfold effectiveChunkSize defaultChunkSize
  split_ifs with h <;> omega

def parsedRow (errors : List ParseError) : Except ParseError Record → ParsedRow
  | .ok record => ⟨errors, some record⟩
  | .error parseErr => ⟨errors ++ [parseErr], none⟩

def StreamState.addErrors (state : StreamState) (errors : List ParseError) : StreamState :=
  { state with chunkErrors := state.chunkErrors ++ errors }

def StreamState.addNormalized (job : IngestionJob) (id : UUID) (state : StreamState) :
    Except ParseError Record → StreamState
  | .error parseErr => state.addErrors [parseErr]
  | .ok record => state.addRecord job id (some record)

theorem StreamState.addRow_parsedRow (job : IngestionJob) (newID : ℕ → UUID)
    (state : StreamState) (outcome : Except ParseError Record) (index : ℕ) :
    state.addRow job newID (parsedRow [] outcome, index) =
      state.addNormalized job (newID index) outcome := by
  cases outcome with
  | error => rfl
  | ok => simp [addRow, addRecord, addNormalized, parsedRow]

/-! ## Inputs as files -/

/-- With enough fuel the input is parsed as the file, whatever the chunk size. -/
def ReadsAs {σ : Type} (parse : ℤ → (ℕ → UUID) → (StreamState → σ → Option GoError × σ) → ℕ → σ →
      Option (ParseOutcome σ)) (job : IngestionJob) (file : ParsedFile) : Prop :=
  ∀ chunkSize newID callback store, ∃ fuel newID',
    parse chunkSize newID callback fuel store =
      some (parseStreaming (effectiveChunkSize chunkSize) job newID' callback file store)

theorem readsAs_failed {σ : Type}
    {parse : ℤ → (ℕ → UUID) → (StreamState → σ → Option GoError × σ) → ℕ → σ →
      Option (ParseOutcome σ)} {cause : GoError} (job : IngestionJob)
    (htext : trimSpace cause.text ≠ "") (h : ∀ chunkSize newID callback fuel store,
      parse chunkSize newID callback fuel store = some (.error cause, store)) :
    ∃ file, ReadsAs parse job file := by
  refine ⟨.failed cause htext, ?_⟩
  intro chunkSize newID callback store
  exact ⟨0, newID, h chunkSize newID callback 0 store⟩

end Matcher.Ingestion
