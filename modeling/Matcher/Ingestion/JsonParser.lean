import Matcher.Ingestion.FieldMapping

/-!
# The parser of JSON files

An array of objects is streamed, a single object is one row.  The decoder of
`encoding/json` is left open: each token and each value that it gives takes some of
the input that remains.
-/

namespace Matcher.Ingestion

open Foundation

inductive JsonToken
  | delim (character : Char)
  | text (value : String)
  | other
deriving DecidableEq, Repr

structure JsonDecoder (υ : Type) where
  State : Type
  remaining : State → ℕ
  more : State → Bool
  token : (state : State) → Except GoError
    (JsonToken × { rest : State // remaining rest < remaining state })
  decode : (state : State) → Except GoError
    (υ × { rest : State // remaining rest < remaining state })

def errJSONArrayNotObjects : GoError :=
  .sentinel ⟨"errJSONArrayNotObjects", "json array must contain objects"⟩

def errJSONPayloadInvalid : GoError :=
  .sentinel ⟨"errJSONPayloadInvalid", "json payload must be an object or array of objects"⟩

def errJSONUnexpectedKeyType : GoError :=
  .sentinel ⟨"errJSONUnexpectedKeyType", "expected string key in json object"⟩

section Parser

variable {υ σ : Type} (decoder : JsonDecoder υ)

/-- The pairs of an object whose opening brace was read.  A key that comes again
replaces its value. -/
def decodeObjectFields (row : Row υ) (state : decoder.State) :
    Except GoError (Row υ ×
      { rest : decoder.State // decoder.remaining rest < decoder.remaining state }) :=
  if decoder.more state then
    match decoder.token state with
    | .error cause => .error (.wrap "reading object key: %w" [] cause)
    | .ok (.text key, ⟨afterKey, hkey⟩) =>
      match decoder.decode afterKey with
      | .error cause => .error (.wrap "decoding object value: %w" [] cause)
      | .ok (value, ⟨afterValue, hvalue⟩) =>
        match decodeObjectFields (Function.update row key (some value)) afterValue with
        | .error cause => .error cause
        | .ok (row, ⟨rest, hrest⟩) => .ok (row, ⟨rest, hrest.trans (hvalue.trans hkey)⟩)
    | .ok _ => .error errJSONUnexpectedKeyType
  else
    match decoder.token state with
    | .error cause => .error (.wrap "reading object closing: %w" [] cause)
    | .ok (_, rest) => .ok (row, rest)
termination_by decoder.remaining state
decreasing_by exact hvalue.trans hkey

structure JsonState (σ : Type) where
  position : decoder.State
  rowNumber : ℕ
  stream : StreamState
  store : σ

variable (normalizer : Normalizer υ) (mapping : Mapping) (chunkSize : ℕ)
  (job : IngestionJob) (newID : ℕ → UUID)
  (callback : StreamState → σ → Option GoError × σ)

/-- The row of an array element, and where the decoder is after it. -/
def decodeArrayElement (state : decoder.State) :
    Except GoError (Row υ ×
      { rest : decoder.State // decoder.remaining rest < decoder.remaining state }) :=
  match decoder.token state with
  | .error cause => .error (.wrap "failed to decode json: %w" [] cause)
  | .ok (token, ⟨opened, hopened⟩) =>
    if token = .delim '\x7b' then
      match decodeObjectFields decoder (fun _ => none) opened with
      | .error cause => .error (.wrap "failed to decode json: %w" [] cause)
      | .ok (row, ⟨rest, hrest⟩) => .ok (row, ⟨rest, hrest.trans hopened⟩)
    else .error errJSONArrayNotObjects

def processNextArrayElement (state : JsonState decoder σ) : Except GoError (JsonState decoder σ) :=
  match decodeArrayElement decoder state.position with
  | .error cause => .error cause
  | .ok (row, rest) =>
    let rowNumber := state.rowNumber + 1
    .ok { state with
      position := rest
      rowNumber
      stream := state.stream.addNormalized job (newID rowNumber)
        (normalizer.normalizeTransaction mapping row rowNumber) }

def jsonStep (state : JsonState decoder σ) : Turn (JsonState decoder σ) (ParseOutcome σ) :=
  if decoder.more state.position then
    match processNextArrayElement decoder normalizer mapping job newID state with
    | .error cause => .done (.error cause, state.store)
    | .ok state =>
      flushIfFull chunkSize callback state.stream state.store
        fun stream store => { state with stream, store }
  else
    match decoder.token state.position with
    | .error cause =>
      .done (.error (.wrap "failed to read closing bracket: %w" [] cause), state.store)
    | .ok _ => .done (flushLast callback state.stream state.store)

def streamJSONArray (fuel : ℕ) (state : decoder.State) (store : σ) : Option (ParseOutcome σ) :=
  repeatStep
    (jsonStep decoder normalizer mapping chunkSize job newID callback)
    fuel ⟨state, 0, .initial, store⟩

/-- A single object is handed over at once, with its record or its error. -/
def processSingleObject (state : decoder.State) (store : σ) : ParseOutcome σ :=
  match decodeObjectFields decoder (fun _ => none) state with
  | .error cause => (.error (.wrap "failed to decode json: %w" [] cause), store)
  | .ok (row, _) =>
    match normalizer.normalizeTransaction mapping row 1 with
    | .error parseErr =>
      match flushChunk callback (StreamState.initial.addErrors [parseErr]) store with
      | (some cause, store) => (.error cause, store)
      | (none, store) => (.ok ⟨0, 1, none, [parseErr]⟩, store)
    | .ok record =>
      match flushChunk callback
        (StreamState.initial.addRecord job (newID 1) (some record))
        store with
      | (some cause, store) => (.error cause, store)
      | (none, store) => (.ok ⟨1, 0, some ⟨record.date, record.date⟩, []⟩, store)

end Parser

def parseJSON {υ σ : Type} (normalizer : Normalizer υ) (job : IngestionJob)
    (fieldMap : Option FieldMapEntries) (chunkSize : ℤ) (newID : ℕ → UUID)
    (callback : StreamState → σ → Option GoError × σ) (fuel : ℕ) (decoder : JsonDecoder υ)
    (start : decoder.State) (store : σ) : Option (ParseOutcome σ) :=
  match mappingFromFieldMap fieldMap with
  | .error cause => some (.error cause, store)
  | .ok mapping =>
    match decoder.token start with
    | .error cause => some (.error (.wrap "failed to read json token: %w" [] cause), store)
    | .ok (token, ⟨rest, _⟩) =>
      if token = .delim '[' then
        streamJSONArray decoder normalizer mapping
          (effectiveChunkSize chunkSize) job newID callback fuel rest store
      else if token = .delim '\x7b' then
        some (processSingleObject decoder normalizer mapping job newID callback rest store)
      else some (.error errJSONPayloadInvalid, store)

/-! ## The rows of an input -/

section Rows

variable {υ σ : Type} (decoder : JsonDecoder υ) (normalizer : Normalizer υ) (mapping : Mapping)

structure JsonPosition where
  state : decoder.State
  rowNumber : ℕ

def jsonNext (position : JsonPosition decoder) : Reading (JsonPosition decoder) :=
  if decoder.more position.state then
    match decodeArrayElement decoder position.state with
    | .error cause => .stop (some cause)
    | .ok (row, rest) =>
      .row
        (parsedRow [] (normalizer.normalizeTransaction mapping row (position.rowNumber + 1)))
        ⟨rest, position.rowNumber + 1⟩
  else
    match decoder.token position.state with
    | .error cause => .stop (some (.wrap "failed to read closing bracket: %w" [] cause))
    | .ok _ => .stop none

variable {decoder}

def JsonState.toLoop (state : JsonState decoder σ) : LoopState (JsonPosition decoder) σ :=
  ⟨⟨state.position, state.rowNumber⟩, state.rowNumber, state.stream, state.store⟩

variable {normalizer mapping} {chunkSize : ℕ} {job : IngestionJob}
  {newID : ℕ → UUID} {callback : StreamState → σ → Option GoError × σ}

theorem jsonStep_toLoop (hsize : 0 < chunkSize) (state : JsonState decoder σ) :
    Turn.Related (fun state loop => loop = JsonState.toLoop state)
      (jsonStep decoder normalizer mapping chunkSize job newID callback state)
      (streamStep chunkSize job (fun index => newID (index + 1)) callback
        (jsonNext decoder normalizer mapping) state.toLoop) := by
  obtain ⟨position, rowNumber, stream, store⟩ := state
  by_cases hmore : decoder.more position
  · simp only [jsonStep, processNextArrayElement, streamStep, jsonNext,
      JsonState.toLoop, hmore, ↓reduceIte]
    cases decodeArrayElement decoder position with
    | error => exact .done _
    | ok =>
      dsimp only
      rw [StreamState.addRow_parsedRow]
      exact flushIfFull_related hsize fun _ _ _ => rfl
  · simp only [jsonStep, streamStep, jsonNext, JsonState.toLoop, hmore,
      Bool.false_eq_true, ↓reduceIte]
    cases decoder.token position with
    | error | ok => exact .done _

theorem decodeArrayElement_visible {state : decoder.State} {cause : GoError}
    (h : decodeArrayElement decoder state = .error cause) : trimSpace cause.text ≠ "" := by
  unfold decodeArrayElement at h
  cases htoken : decoder.token state with
  | error =>
    rw [htoken] at h
    cases h
    exact trimSpace_text_wrap rfl (by decide) rfl _ _
  | ok opening =>
    rw [htoken] at h
    dsimp only at h
    split_ifs at h
    · cases hfields : decodeObjectFields decoder (fun _ => none) opening.2.1 with
      | error =>
        rw [hfields] at h
        cases h
        exact trimSpace_text_wrap rfl (by decide) rfl _ _
      | ok =>
        rw [hfields] at h
        cases h
    · cases h
      decide

variable (normalizer mapping) in
theorem jsonNext_progress (position : JsonPosition decoder) :
    Progress (jsonNext decoder normalizer mapping) (fun _ => True)
      (fun position => decoder.remaining position.state) position := by
  obtain ⟨state, rowNumber⟩ := position
  by_cases hmore : decoder.more state
  · cases helement : decodeArrayElement decoder state with
    | error =>
      refine .stop (by simp only [jsonNext, hmore, helement]; rfl) ?_
      rintro _ ⟨⟩
      exact decodeArrayElement_visible helement
    | ok element =>
      obtain ⟨row, rest, hrest⟩ := element
      exact .row (by simp only [jsonNext, hmore, helement]; rfl) trivial hrest
  · cases htoken : decoder.token state with
    | error =>
      refine .stop (by simp only [jsonNext, hmore, htoken]; rfl) ?_
      rintro _ ⟨⟩
      exact trimSpace_text_wrap rfl (by decide) rfl _ _
    | ok => exact .stop (by simp only [jsonNext, hmore, htoken]; rfl) visible_of_none

end Rows

section

variable {υ σ : Type} (normalizer : Normalizer υ) (job : IngestionJob)
  (mapping : Mapping) {decoder : JsonDecoder υ}

theorem streamJSONArray_readsAs (state : decoder.State) :
    ∃ file, ReadsAs (fun chunkSize newID callback fuel (store : σ) =>
      streamJSONArray decoder normalizer mapping (effectiveChunkSize chunkSize)
        job newID callback fuel state store) job file := by
  obtain ⟨file, last, hemits, hstop⟩ := exists_file _ _
    (fun position _ => jsonNext_progress normalizer mapping position)
    (⟨state, 0⟩ : JsonPosition decoder) trivial
  refine ⟨file, fun chunkSize newID callback store => ?_⟩
  obtain ⟨fuel, hfuel⟩ := hemits.returns_of_image hstop
    (jsonStep_toLoop (effectiveChunkSize_pos chunkSize))
    ⟨state, 0, .initial, store⟩ rfl
  exact ⟨fuel, fun index => newID (index + 1), hfuel⟩

theorem processSingleObject_readsAs (state : decoder.State) :
    ∃ file, ReadsAs (fun _ newID callback _ (store : σ) =>
      some (processSingleObject decoder normalizer mapping job newID callback
        state store)) job file := by
  cases hfields : decodeObjectFields decoder (fun _ => none) state with
  | error cause =>
    have htext : trimSpace (GoError.wrap "failed to decode json: %w" [] cause).text ≠ "" :=
      trimSpace_text_wrap rfl (by decide) rfl _ _
    refine readsAs_failed job htext ?_
    intro chunkSize newID callback fuel store
    simp only [processSingleObject, hfields]
  | ok fields =>
    cases hrecord : normalizer.normalizeTransaction mapping fields.1 1 with
    | error parseErr =>
      refine ⟨.ofRow ⟨[parseErr], none⟩, ?_⟩
      intro chunkSize newID callback store
      refine ⟨0, newID, ?_⟩
      simp only [processSingleObject, hfields, hrecord]
      rw [parseStreaming_ofRow (effectiveChunkSize_pos chunkSize),
        flushLast, if_pos (.inr (List.cons_ne_nil parseErr []))]
      rfl
    | ok record =>
      refine ⟨.ofRow ⟨[], some record⟩, ?_⟩
      intro chunkSize newID callback store
      refine ⟨0, fun index => newID (index + 1), ?_⟩
      simp only [processSingleObject, hfields, hrecord]
      rw [parseStreaming_ofRow (effectiveChunkSize_pos chunkSize),
        flushLast, if_pos (.inl (List.cons_ne_nil _ []))]
      rfl

theorem parseJSON_readsAs (fieldMap : Option FieldMapEntries) (start : decoder.State) :
    ∃ file, ReadsAs (fun chunkSize newID callback fuel (store : σ) =>
      parseJSON normalizer job fieldMap chunkSize newID callback fuel decoder
        start store) job file := by
  unfold parseJSON
  cases hmapping : mappingFromFieldMap fieldMap with
  | error cause =>
    exact readsAs_failed job
      (mappingFromFieldMap_visible fieldMap cause hmapping)
      fun _ _ _ _ _ => rfl
  | ok mapping =>
    cases decoder.token start with
    | error cause =>
      have htext : trimSpace (GoError.wrap "failed to read json token: %w" [] cause).text ≠ "" :=
        trimSpace_text_wrap rfl (by decide) rfl _ _
      exact readsAs_failed job htext fun _ _ _ _ _ => rfl
    | ok opening =>
      dsimp only
      split_ifs
      · exact streamJSONArray_readsAs normalizer job mapping opening.2.1
      · exact processSingleObject_readsAs normalizer job mapping opening.2.1
      · exact readsAs_failed job
          (show trimSpace errJSONPayloadInvalid.text ≠ "" by decide)
          fun _ _ _ _ _ => rfl

end

end Matcher.Ingestion
