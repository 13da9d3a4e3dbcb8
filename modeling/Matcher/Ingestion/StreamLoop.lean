import Matcher.Foundation.Iteration
import Matcher.Ingestion.Streaming

/-!
# The loop that the parsers share

Each parser reads its input step by step: a step brings a row, or only moves on, or
ends the reading.  The rows go through one pending chunk, and the loop is the
stream of the rows that the input yields, whenever it yields an end.
-/

namespace Matcher.Ingestion

open Foundation

variable {δ σ : Type} {source final : δ} {store : σ} {rows : List ParsedRow} {stream : StreamState}
  {value : ParsedRow} {file : ParsedFile}

inductive Reading (δ : Type)
  | row (value : ParsedRow) (rest : δ)
  | skip (rest : δ)
  | stop (failure : Option GoError)

/-- From one position to another the reading brings the rows. -/
inductive Emits (next : δ → Reading δ) : δ → List ParsedRow → δ → Prop
  | refl (source : δ) : Emits next source [] source
  | skip {source rest final : δ} {rows : List ParsedRow}
      (h : next source = .skip rest) (hrest : Emits next rest rows final) :
      Emits next source rows final
  | row {source rest final : δ} {value : ParsedRow} {rows : List ParsedRow}
      (h : next source = .row value rest) (hrest : Emits next rest rows final) :
      Emits next source (value :: rows) final

theorem Emits.concat {next : δ → Reading δ} {middle : δ} (h : Emits next source rows middle)
    (hnext : next middle = .row value final) : Emits next source (rows ++ [value]) final := by
  induction h with
  | refl => exact .row hnext (.refl final)
  | skip hskip _ ih => exact .skip hskip (ih hnext)
  | row hrow _ ih => exact .row hrow (ih hnext)

def ParsedFile.failed (cause : GoError) (h : trimSpace cause.text ≠ "") : ParsedFile where
  rows := []
  failure := some cause
  text_ne := by
    rintro _ ⟨⟩
    exact h

theorem visible_of_none (cause : GoError) (h : none = some cause) : trimSpace cause.text ≠ "" := by
  cases h

def ParsedFile.ofRow (row : ParsedRow) : ParsedFile where
  rows := [row]
  failure := none
  text_ne := visible_of_none

/-- The reading stops, or comes closer to its end. -/
inductive Progress (next : δ → Reading δ) (inv : δ → Prop) (size : δ → ℕ) (source : δ) : Prop
  | stop {failure : Option GoError} (h : next source = .stop failure)
      (htext : ∀ cause, failure = some cause → trimSpace cause.text ≠ "")
  | skip {rest : δ} (h : next source = .skip rest) (hinv : inv rest)
      (hsize : size rest < size source)
  | row {value : ParsedRow} {rest : δ} (h : next source = .row value rest)
      (hinv : inv rest) (hsize : size rest < size source)

theorem exists_file {next : δ → Reading δ} (inv : δ → Prop) (size : δ → ℕ)
    (hnext : ∀ source, inv source → Progress next inv size source)
    (source : δ) (hsource : inv source) :
    ∃ (file : ParsedFile) (final : δ), Emits next source file.rows final ∧
      next final = .stop file.failure := by
  induction hn : size source using Nat.strong_induction_on generalizing source with
  | _ n ih =>
    subst hn
    cases hnext source hsource with
    | @stop failure h htext => exact ⟨⟨[], failure, htext⟩, source, .refl source, h⟩
    | skip h hinv hsize =>
      obtain ⟨file, final, hemits, hstop⟩ := ih _ hsize _ hinv rfl
      exact ⟨file, final, .skip h hemits, hstop⟩
    | @row value rest h hinv hsize =>
      obtain ⟨file, final, hemits, hstop⟩ := ih _ hsize _ hinv rfl
      exact ⟨⟨value :: file.rows, file.failure, file.text_ne⟩, final, .row h hemits, hstop⟩

structure LoopState (δ σ : Type) where
  source : δ
  index : ℕ
  stream : StreamState
  store : σ

abbrev ParseOutcome (σ : Type) := Except GoError StreamingParseResult × σ

section Loop

variable (chunkSize : ℕ) (job : IngestionJob) (newID : ℕ → UUID)
  (callback : StreamState → σ → Option GoError × σ)

def flushIfFull {τ : Type} (stream : StreamState) (store : σ) (resume : StreamState → σ → τ) :
    Turn τ (ParseOutcome σ) :=
  if chunkSize ≤ stream.chunk.length then
    match flushChunk callback stream store with
    | (some cause, store) => .done (.error cause, store)
    | (none, store) => .next (resume stream.flushed store)
  else .next (resume stream store)

def streamStep (next : δ → Reading δ) (loop : LoopState δ σ) :
    Turn (LoopState δ σ) (ParseOutcome σ) :=
  match next loop.source with
  | .row value rest =>
    flushIfFull chunkSize callback
      (loop.stream.addRow job newID (value, loop.index)) loop.store
      fun stream store => ⟨rest, loop.index + 1, stream, store⟩
  | .skip rest => .next { loop with source := rest }
  | .stop (some cause) => .done (.error cause, loop.store)
  | .stop none => .done (flushLast callback loop.stream loop.store)

variable {chunkSize job newID callback} {next : δ → Reading δ}

theorem flushIfFull_of_lt {τ : Type}
    {resume : StreamState → σ → τ} (h : stream.chunk.length < chunkSize) :
    flushIfFull chunkSize callback stream store resume = .next (resume stream store) :=
  if_neg (Nat.not_le.mpr h)

theorem flushIfFull_related {τ τ' : Type} (hsize : 0 < chunkSize)
    {resume : StreamState → σ → τ} {resume' : StreamState → σ → τ'} {relation : τ → τ' → Prop}
    (h : ∀ stream store, stream.chunk.length < chunkSize →
      relation (resume stream store) (resume' stream store)) :
    Turn.Related relation (flushIfFull chunkSize callback stream store resume)
      (flushIfFull chunkSize callback stream store resume') := by
  unfold flushIfFull
  split_ifs with hfull
  · cases flushChunk callback stream store with
    | mk failure =>
      cases failure with
      | some => exact .done _
      | none => exact .next (h _ _ hsize)
  · exact .next (h _ _ (Nat.not_le.mp hfull))

theorem streamStep_of_row {rest : δ} (h : next source = .row value rest)
    (index : ℕ) (stream : StreamState) (store : σ) :
    streamStep chunkSize job newID callback next ⟨source, index, stream, store⟩ =
      match (rowChunker chunkSize job newID).stream (flushChunk callback)
        [(value, index)] stream store with
      | (.error cause, store) => .done (.error cause, store)
      | (.ok stream, store) => .next ⟨rest, index + 1, stream, store⟩ := by
  simp only [streamStep, h, flushIfFull, Chunker.stream, rowChunker, decide_eq_true_eq]
  split_ifs with hfull
  · cases flushChunk callback (stream.addRow job newID (value, index)) store with
    | mk failure =>
      cases failure with
      | some | none => rfl
  · rfl

theorem Emits.returns_iff (h : Emits next source rows final) (index : ℕ) (stream : StreamState)
    (store : σ) (result : ParseOutcome σ) :
    Returns (streamStep chunkSize job newID callback next) ⟨source, index, stream, store⟩ result ↔
      match (rowChunker chunkSize job newID).stream (flushChunk callback)
        (rows.zipIdx index) stream store with
      | (.error cause, store) => result = (.error cause, store)
      | (.ok stream, store) =>
        Returns (streamStep chunkSize job newID callback next)
          ⟨final, index + rows.length, stream, store⟩ result := by
  induction h generalizing index stream store with
  | refl => rfl
  | skip hskip _ ih => rw [returns_of_next (by simp only [streamStep, hskip]; rfl), ih]
  | @row source rest final value rows hrow hrest ih =>
    -- the stream of the rows is that of the first one, and then of the rest
    rw [List.zipIdx_cons, ← List.singleton_append, Chunker.stream_append]
    have hstep : streamStep chunkSize job newID callback next ⟨source, index, stream, store⟩ = _ :=
      streamStep_of_row hrow index stream store
    cases hfirst : (rowChunker chunkSize job newID).stream
        (flushChunk callback) [(value, index)] stream store with
    | mk outcome store' =>
      rw [hfirst] at hstep
      cases outcome with
      | error => exact returns_of_done hstep
      | ok =>
        rw [returns_of_next hstep, ih, List.length_cons, Nat.add_right_comm, Nat.add_assoc]

theorem Emits.returns (h : Emits next source file.rows final)
    (hstop : next final = .stop file.failure) (store : σ) :
    Returns (streamStep chunkSize job newID callback next) ⟨source, 0, .initial, store⟩
      (parseStreaming chunkSize job newID callback file store) := by
  rw [h.returns_iff]
  unfold parseStreaming
  cases (rowChunker chunkSize job newID).stream (flushChunk callback)
      file.rows.zipIdx .initial store with
  | mk outcome store' =>
    cases outcome with
    | error => rfl
    | ok =>
      cases hfailure : file.failure with
      | none | some =>
        rw [hfailure] at hstop
        exact (returns_of_done (by simp only [streamStep, hstop])).mpr rfl

theorem Emits.returns_of_image {τ : Type}
    {step : τ → Turn τ (ParseOutcome σ)} {image : τ → LoopState δ σ}
    (h : Emits next source file.rows final) (hstop : next final = .stop file.failure)
    (hstep : ∀ state, Turn.Related (fun state loop => loop = image state) (step state)
      (streamStep chunkSize job newID callback next (image state))) (state : τ)
    (hstate : image state = ⟨source, 0, .initial, store⟩) :
    Returns step state (parseStreaming chunkSize job newID callback file store) := by
  rw [returns_iff_of_image hstep, hstate]
  exact h.returns hstop store

theorem runAll_flushChunk (chunks : List StreamState) (store : σ) :
    runAll (flushChunk callback) chunks store =
      ((runAll callback chunks store).1.map (.wrap "chunk callback failed: %w" []),
        (runAll callback chunks store).2) := by
  induction chunks generalizing store with
  | nil => rfl
  | cons chunk _ ih =>
    simp only [runAll, flushChunk]
    cases callback chunk store with
    | mk failure store' =>
      cases failure with
      | some => rfl
      | none => exact ih store'

theorem parseStreaming_ofRow (hsize : 0 < chunkSize) (row : ParsedRow) (store : σ) :
    parseStreaming chunkSize job newID callback (.ofRow row) store =
      flushLast callback (StreamState.initial.addRow job newID (row, 0))
        store := by
  simp only [parseStreaming, ParsedFile.ofRow, List.zipIdx_singleton,
    Chunker.stream, rowChunker, decide_eq_true_eq]
  generalize StreamState.initial.addRow job newID (row, 0) = pending
  split_ifs with hfull
  · have hsome : pending.chunk ≠ [] := List.ne_nil_of_length_pos (Nat.lt_of_lt_of_le hsize hfull)
    rw [flushLast, if_pos (.inl hsome)]
    cases flushChunk callback pending store with
    | mk failure =>
      cases failure with
      | some | none => rfl
  · rfl

end Loop

end Matcher.Ingestion
