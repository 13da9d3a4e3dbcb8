import Matcher.Ingestion.FieldMapping

/-!
# The parser of XML files

A state machine over the tokens of `encoding/xml`.  It keeps the record that it is
in and the name of the element that opened last; the end of a record element brings
a row.
-/

namespace Matcher.Ingestion

open Foundation

/-- Elements by their local names; comments, directives and the like are `other`. -/
inductive XmlToken
  | startElement (name : String)
  | endElement (name : String)
  | charData (data : String)
  | other
deriving DecidableEq, Repr

inductive XmlRead
  | token (value : XmlToken)
  | failed (cause : GoError)
  | eof
deriving DecidableEq, Repr

def xmlRecordElements : List String :=
  ["transaction", "row", "record", "item", "entry"]

def isXMLRecordElement (name : String) : Bool :=
  toLower name ∈ xmlRecordElements

structure XmlPosition (υ : Type) where
  reads : ℕ
  current : Option (Row υ)
  currentElement : String
  rowNumber : ℕ

structure XmlState (υ σ : Type) extends XmlPosition υ where
  stream : StreamState
  store : σ

section Parser

variable {υ σ : Type} (normalizer : Normalizer υ) (mapping : Mapping)

def XmlPosition.handleStartElement (position : XmlPosition υ) (name : String) : XmlPosition υ :=
  { position with
    currentElement := name
    current :=
      if isXMLRecordElement name then some fun _ => none
      else position.current }

/-- Text that comes in pieces is overwritten by its last visible piece. -/
def XmlPosition.handleCharData (position : XmlPosition υ) (data : String) : XmlPosition υ :=
  match position.current with
  | none => position
  | some row =>
    let value := trimSpace data
    if position.currentElement = "" ∨ value = "" then position
    else
      { position with
        current := some (Function.update row position.currentElement
          (some (normalizer.text value))) }

variable (source : ℕ → XmlRead) (chunkSize : ℕ) (job : IngestionJob)
  (newID : ℕ → UUID) (callback : StreamState → σ → Option GoError × σ)

def handleEndElement (state : XmlState υ σ) (name : String) :
    Turn (XmlState υ σ) (ParseOutcome σ) :=
  match state.current with
  | none => .next { state with currentElement := "" }
  | some row =>
    if isXMLRecordElement name then
      let rowNumber := state.rowNumber + 1
      flushIfFull chunkSize callback
        (state.stream.addNormalized job (newID rowNumber)
          (normalizer.normalizeTransaction mapping row rowNumber))
        state.store
        fun stream store =>
          { state with
            current := none
            currentElement := ""
            rowNumber
            stream
            store }
    else .next { state with currentElement := "" }

def handleXMLToken (state : XmlState υ σ) : XmlToken → Turn (XmlState υ σ) (ParseOutcome σ)
  | .startElement name =>
    .next { state with toXmlPosition := state.toXmlPosition.handleStartElement name }
  | .endElement name => handleEndElement normalizer mapping chunkSize job newID callback state name
  | .charData data =>
    .next { state with toXmlPosition := state.toXmlPosition.handleCharData normalizer data }
  | .other => .next state

def xmlStep (state : XmlState υ σ) : Turn (XmlState υ σ) (ParseOutcome σ) :=
  match source state.reads with
  | .eof => .done (flushLast callback state.stream state.store)
  | .failed cause => .done (.error (.wrap "failed to decode xml: %w" [] cause), state.store)
  | .token value =>
    handleXMLToken normalizer mapping chunkSize job newID callback
      { state with reads := state.reads + 1 } value

end Parser

def parseXML {υ σ : Type} (normalizer : Normalizer υ) (job : IngestionJob)
    (fieldMap : Option FieldMapEntries) (chunkSize : ℤ) (newID : ℕ → UUID)
    (callback : StreamState → σ → Option GoError × σ) (fuel : ℕ) (source : ℕ → XmlRead)
    (store : σ) : Option (ParseOutcome σ) :=
  match mappingFromFieldMap fieldMap with
  | .error cause => some (.error cause, store)
  | .ok mapping =>
    repeatStep
      (xmlStep normalizer mapping source (effectiveChunkSize chunkSize) job newID callback)
      fuel ⟨⟨0, none, "", 0⟩, .initial, store⟩

/-! ## The rows of an input -/

section Rows

variable {υ σ : Type} (normalizer : Normalizer υ) (mapping : Mapping) (source : ℕ → XmlRead)

def xmlTokenReading (position : XmlPosition υ) : XmlToken → Reading (XmlPosition υ)
  | .startElement name => .skip (position.handleStartElement name)
  | .charData data => .skip (position.handleCharData normalizer data)
  | .other => .skip position
  | .endElement name =>
    match position.current with
    | none => .skip { position with currentElement := "" }
    | some row =>
      if isXMLRecordElement name then
        .row
          (parsedRow [] (normalizer.normalizeTransaction mapping row (position.rowNumber + 1)))
          { position with
            current := none
            currentElement := ""
            rowNumber := position.rowNumber + 1 }
      else .skip { position with currentElement := "" }

def xmlNext (position : XmlPosition υ) : Reading (XmlPosition υ) :=
  match source position.reads with
  | .eof => .stop none
  | .failed cause => .stop (some (.wrap "failed to decode xml: %w" [] cause))
  | .token value =>
    xmlTokenReading normalizer mapping { position with reads := position.reads + 1 } value

theorem XmlPosition.handleCharData_eq (position : XmlPosition υ) (data : String) :
    ∃ current, position.handleCharData normalizer data =
      { position with current } := by
  unfold handleCharData
  cases position.current with
  | none => exact ⟨_, rfl⟩
  | some =>
    dsimp only
    split_ifs <;> exact ⟨_, rfl⟩

def XmlState.toLoop (state : XmlState υ σ) : LoopState (XmlPosition υ) σ :=
  ⟨state.toXmlPosition, state.rowNumber, state.stream, state.store⟩

variable {normalizer mapping source} {chunkSize : ℕ} {job : IngestionJob}
  {newID : ℕ → UUID} {callback : StreamState → σ → Option GoError × σ}

theorem xmlStep_toLoop (hsize : 0 < chunkSize) (state : XmlState υ σ) :
    Turn.Related (fun state loop => loop = XmlState.toLoop state)
      (xmlStep normalizer mapping source chunkSize job newID callback state)
      (streamStep chunkSize job (fun index => newID (index + 1)) callback
        (xmlNext normalizer mapping source) state.toLoop) := by
  obtain ⟨⟨reads, current, currentElement, rowNumber⟩, stream, store⟩ := state
  cases hread : source reads with
  | eof | failed =>
    simp only [xmlStep, streamStep, xmlNext, XmlState.toLoop, hread]
    exact .done _
  | token value =>
    simp only [xmlStep, streamStep, xmlNext, XmlState.toLoop, hread]
    cases value with
    | startElement => exact .next rfl
    | charData data =>
      obtain ⟨current', hcurrent⟩ := XmlPosition.handleCharData_eq
        normalizer ⟨reads + 1, current, currentElement, rowNumber⟩ data
      simp only [handleXMLToken, xmlTokenReading, hcurrent]
      exact .next rfl
    | other => exact .next rfl
    | endElement =>
      cases current with
      | none => exact .next rfl
      | some row =>
        simp only [handleXMLToken, handleEndElement, xmlTokenReading]
        -- only the end of a record element brings a row
        split_ifs with hname
        · dsimp only
          rw [StreamState.addRow_parsedRow]
          exact flushIfFull_related hsize fun _ _ _ => rfl
        · exact .next rfl

variable (normalizer mapping) in
theorem xmlNext_progress {final : ℕ} (hfinal : ∀ value, source final ≠ .token value)
    (position : XmlPosition υ) (h : position.reads ≤ final) :
    Progress (xmlNext normalizer mapping source) (fun position => position.reads ≤ final)
      (fun position => final - position.reads) position := by
  obtain ⟨reads, current, currentElement, rowNumber⟩ := position
  cases hread : source reads with
  | eof => exact .stop (by simp only [xmlNext, hread]) visible_of_none
  | failed =>
    refine .stop (by simp only [xmlNext, hread]; rfl) ?_
    rintro _ ⟨⟩
    exact trimSpace_text_wrap rfl (by decide) rfl _ _
  | token value =>
    have hlt : reads < final := by
      refine lt_of_le_of_ne h fun heq => hfinal value ?_
      rw [← heq, hread]
    have hcloser : final - (reads + 1) < final - reads := by omega
    have hnext : xmlNext normalizer mapping source
        ⟨reads, current, currentElement, rowNumber⟩ =
        xmlTokenReading normalizer mapping
          ⟨reads + 1, current, currentElement, rowNumber⟩ value := by
      simp only [xmlNext, hread]
    cases value with
    | startElement => exact .skip hnext hlt hcloser
    | charData data =>
      obtain ⟨current', hcurrent⟩ := XmlPosition.handleCharData_eq
        normalizer ⟨reads + 1, current, currentElement, rowNumber⟩ data
      rw [xmlTokenReading, hcurrent] at hnext
      exact .skip hnext hlt hcloser
    | other => exact .skip hnext hlt hcloser
    | endElement =>
      cases current with
      | none => exact .skip hnext hlt hcloser
      | some =>
        simp only [xmlTokenReading] at hnext
        split_ifs at hnext
        · exact .row hnext hlt hcloser
        · exact .skip hnext hlt hcloser

end Rows

theorem parseXML_readsAs {υ σ : Type} (normalizer : Normalizer υ) (job : IngestionJob)
    (fieldMap : Option FieldMapEntries) {source : ℕ → XmlRead}
    (hfinal : ∃ final, ∀ value, source final ≠ .token value) :
    ∃ file, ReadsAs (fun chunkSize newID callback fuel (store : σ) =>
      parseXML normalizer job fieldMap chunkSize newID callback fuel source store) job file := by
  unfold parseXML
  cases hmapping : mappingFromFieldMap fieldMap with
  | error cause =>
    exact readsAs_failed job
      (mappingFromFieldMap_visible fieldMap cause hmapping)
      fun _ _ _ _ _ => rfl
  | ok mapping =>
    obtain ⟨final, hfinal⟩ := hfinal
    obtain ⟨file, last, hemits, hstop⟩ := exists_file _ _
      (xmlNext_progress normalizer mapping hfinal) ⟨0, none, "", 0⟩
      (Nat.zero_le final)
    refine ⟨file, fun chunkSize newID callback store => ?_⟩
    obtain ⟨fuel, hfuel⟩ := hemits.returns_of_image hstop
      (xmlStep_toLoop (effectiveChunkSize_pos chunkSize))
      ⟨⟨0, none, "", 0⟩, .initial, store⟩ rfl
    exact ⟨fuel, fun index => newID (index + 1), hfuel⟩

end Matcher.Ingestion
