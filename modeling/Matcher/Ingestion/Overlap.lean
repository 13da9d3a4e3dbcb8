import Matcher.Ingestion.Interleaving

/-!
# Uploads with common external ids

Calls that run at the same time mark and insert the same external ids.  A call
skips a row whose hash another call has marked, and the other call can still
fail.  As long as every row that is skipped has a transaction that stays, a call
that completes has a live transaction for each row of its file.
-/

namespace Matcher.Ingestion

open Foundation

structure Uploads (ι : Type) where
  upload : ι → Upload
  jobIDs_injective : Function.Injective fun i => (upload i).environment.jobID

structure State (ι : Type) where
  store : Store
  calls : ι → Call

variable {ι : Type} {phase : Phase} {k : ι}

def Uploads.initial (uploads : Uploads ι) (store : Store) : State ι where
  store := store
  calls i := (uploads.upload i).initial

/-- A row of the key is live, and no other call can withdraw it any more. -/
def State.Lasting (uploads : Uploads ι) (state : State ι) (i : ι) (key : ExternalIDKey) : Prop :=
  ∃ row ∈ state.store.transactions.rows,
    row.key = key ∧ row.status ≠ .ignored ∧
      ∀ other, other ≠ i →
        row.ingestionJobID = (uploads.upload other).environment.jobID →
          (state.calls other).phase.Completed

/-- A marking takes up each row of its chunk, or the key has a lasting row. -/
def State.SkipsOnlyLasting (sha256Hex : String → String) (uploads : Uploads ι)
    (state : State ι) (i : ι) : Prop :=
  match (state.calls i).phase with
  | .marking chunk existsMap _ =>
    ∀ tx ∈ chunk.chunk,
      state.store.Marks sha256Hex (state.calls i).state.job.contextID
          chunk.chunk tx.key ∧ existsMap tx.key = false ∨
        state.Lasting uploads i tx.key
  | _ => True

variable [DecidableEq ι]

def State.step (sha256Hex : String → String) (uploads : Uploads ι) (state : State ι) (i : ι) :
    State ι :=
  let (call, store) := (state.calls i).step sha256Hex (uploads.upload i) state.store
  ⟨store, Function.update state.calls i call⟩

/-! ## What is known of each call -/

/-- Each row of the file is still to be done, or it has a lasting row. -/
structure State.Covers (uploads : Uploads ι) (state : State ι) (i : ι) : Prop where
  jobID : (state.calls i).state.job.id = (uploads.upload i).environment.jobID
  built : ∀ tx ∈ (state.calls i).phase.todo,
    tx.ingestionJobID = (uploads.upload i).environment.jobID ∧ tx.status = .unmatched
  covered : (state.calls i).phase.OnTrack →
    ∀ chunk ∈ (uploads.upload i).started.chunks, ∀ tx ∈ chunk,
      tx ∈ (state.calls i).phase.todo ∨ state.Lasting uploads i tx.key
  ended : (state.calls i).phase.Ended →
    ∃ totals, (uploads.upload i).started.plan.ending = .ok totals

section

variable {sha256Hex : String → String} {uploads : Uploads ι} {state : State ι}
  {i : ι}

omit [DecidableEq ι] in
theorem Uploads.initial_covers (store : Store) (i : ι) :
    (uploads.initial store).Covers uploads i where
  jobID := (uploads.upload i).started.opens.id
  built tx htx := by
    obtain ⟨chunk, hchunk, htx⟩ := List.mem_flatMap.mp htx
    obtain ⟨-, hjob, hstatus⟩ := (uploads.upload i).started.builtFor
      chunk.chunk (List.mem_map_of_mem hchunk) tx htx
    exact ⟨hjob.trans (uploads.upload i).started.opens.id, hstatus⟩
  covered _ chunk hchunk tx htx := by
    obtain ⟨state, hstate, rfl⟩ := List.mem_map.mp hchunk
    exact .inl (List.mem_flatMap.mpr ⟨state, hstate, htx⟩)
  ended h := absurd h id

/-! ## One step -/

theorem Phase.Ended.onTrack (h : phase.Ended) : phase.OnTrack := by
  cases phase with
  | completing | clearing => trivial
  | returned => exact h
  | _ => exact absurd h id

theorem Phase.Completed.ended (h : phase.Completed) : phase.Ended := by
  cases phase with
  | clearing => trivial
  | returned result =>
    cases result with
    | ok => trivial
    | error => exact h
  | _ => exact absurd h id

theorem Phase.todo_of_ended (h : phase.Ended) : phase.todo = [] := by
  cases phase with
  | checking | marking | inserting => exact absurd h id
  | _ => rfl

theorem Phase.todo_of_not_onTrack (h : ¬ phase.OnTrack) : phase.todo = [] := by
  cases phase with
  | checking | marking | inserting => exact absurd trivial h
  | _ => rfl

namespace StepEffect

variable {upload : Upload} {call next : Call} {store store' : Store}

section

variable (h : StepEffect sha256Hex upload call store next store')

include h

theorem completed (hcall : call.phase.Completed) : next.phase.Completed := by
  cases h with
  | advances _ _ _ _ _ _ hcompleted => exact hcompleted hcall
  | stops _ _ _ _ hcompleted => exact absurd hcall hcompleted
  | marks _ _ _ _ _ hphase | inserts _ _ _ _ _ hphase | withdraws _ hphase =>
    rw [hphase] at hcall
    exact absurd hcall id

theorem jobID : next.state.job.id = call.state.job.id := by
  cases h with
  | advances _ _ _ hjob | stops _ _ _ hjob => exact hjob
  | marks => rfl
  | inserts _ _ _ _ _ _ _ hjob => exact hjob
  | withdraws => rfl

theorem mem_rows {row : IngestedTransaction} (hrow : row ∈ store.transactions.rows)
    (hkeep : row.ingestionJobID = call.state.job.id → call.phase.OnTrack) :
    row ∈ store'.transactions.rows := by
  cases h with
  | advances _ _ htransactions | stops _ _ htransactions | marks _ _ _ _ _ _ _ _ htransactions =>
    rw [htransactions]
    exact hrow
  | inserts _ _ _ _ _ _ _ _ hrows =>
    rw [hrows]
    exact List.mem_append_left _ hrow
  | withdraws _ hphase =>
    have hother : row.ingestionJobID ≠ call.state.job.id := by
      intro hjob
      have htrack := hkeep hjob
      rw [hphase] at htrack
      exact htrack
    refine (Table.mem_modify (withdraw_key _)).mpr ⟨row, hrow, ?_⟩
    rw [withdraw, if_neg fun h => hother h.1]

end

end StepEffect

theorem State.step_calls_self :
    (state.step sha256Hex uploads i).calls i =
      ((state.calls i).step sha256Hex (uploads.upload i) state.store).1 :=
  Function.update_self ..

theorem State.step_calls_of_ne (hne : k ≠ i) :
    (state.step sha256Hex uploads i).calls k = state.calls k :=
  Function.update_of_ne hne ..

variable (sha256Hex uploads state i) in
theorem State.step_effect :
    StepEffect sha256Hex (uploads.upload i) (state.calls i) state.store
      ((state.step sha256Hex uploads i).calls i)
      (state.step sha256Hex uploads i).store := by
  rw [State.step_calls_self]
  exact (state.calls i).step_effect sha256Hex (uploads.upload i) state.store

theorem State.step_completed (h : (state.calls k).phase.Completed) :
    ((state.step sha256Hex uploads i).calls k).phase.Completed := by
  by_cases hk : k = i
  · subst hk
    exact (state.step_effect sha256Hex uploads k).completed h
  · rw [State.step_calls_of_ne hk]
    exact h

theorem State.Lasting.step {key : ExternalIDKey} (h : state.Lasting uploads k key)
    (hjobID : (state.calls i).state.job.id = (uploads.upload i).environment.jobID)
    (htrack : k = i → (state.calls i).phase.OnTrack) :
    (state.step sha256Hex uploads i).Lasting uploads k key := by
  obtain ⟨row, hrow, hkey, hstatus, hothers⟩ := h
  refine ⟨row, ?_, hkey, hstatus, ?_⟩
  · refine (state.step_effect sha256Hex uploads i).mem_rows hrow fun hjob => ?_
    by_cases hk : k = i
    · exact htrack hk
    · exact (hothers i (Ne.symm hk) (hjob.trans hjobID)).ended.onTrack
  · intro other hne hjob
    exact State.step_completed (hothers other hne hjob)

omit [DecidableEq ι] in
theorem State.Covers.of_not_onTrack
    (hjobID : (state.calls i).state.job.id = (uploads.upload i).environment.jobID)
    (htrack : ¬ (state.calls i).phase.OnTrack) : state.Covers uploads i where
  jobID := hjobID
  built tx htx := by
    rw [Phase.todo_of_not_onTrack htrack] at htx
    cases htx
  covered h := absurd h htrack
  ended h := absurd h.onTrack htrack

theorem State.Covers.of_todo (h : state.Covers uploads i) (htrack : (state.calls i).phase.OnTrack)
    (hphase : ((state.step sha256Hex uploads i).calls i).phase = phase)
    (hjobID : ((state.step sha256Hex uploads i).calls i).state.job.id =
      (uploads.upload i).environment.jobID)
    (hkept : ∀ tx ∈ phase.todo, tx ∈ (state.calls i).phase.todo)
    (hdone : ∀ tx ∈ (state.calls i).phase.todo, tx ∈ phase.todo ∨
      (state.step sha256Hex uploads i).Lasting uploads i tx.key)
    (hended : phase.Ended → ∃ totals, (uploads.upload i).started.plan.ending = .ok totals) :
    (state.step sha256Hex uploads i).Covers uploads i := by
  subst hphase
  refine ⟨hjobID, fun tx htx => h.built tx (hkept tx htx), ?_, hended⟩
  intro _ chunk hchunk tx htx
  rcases h.covered htrack chunk hchunk tx htx with hleft | hlasting
  · exact hdone tx hleft
  · exact .inr (hlasting.step h.jobID fun _ => htrack)

omit [DecidableEq ι] in
theorem State.Covers.lasting_of_mem (h : state.Covers uploads i) {state' : State ι}
    {tx : IngestedTransaction} (hleft : tx ∈ (state.calls i).phase.todo)
    (hrow : tx ∈ state'.store.transactions.rows) : state'.Lasting uploads i tx.key := by
  obtain ⟨hjob, hstatus⟩ := h.built tx hleft
  refine ⟨tx, hrow, rfl, by rw [hstatus]; exact nofun, ?_⟩
  intro k hk hkJob
  exact absurd (uploads.jobIDs_injective (hkJob.symm.trans hjob)) hk

theorem State.Covers.step_self (h : state.Covers uploads i)
    (hskips : state.SkipsOnlyLasting sha256Hex uploads i) :
    (state.step sha256Hex uploads i).Covers uploads i := by
  have heffect := state.step_effect sha256Hex uploads i
  generalize hnext : (state.step sha256Hex uploads i).calls i = next at heffect
  generalize hstore : (state.step sha256Hex uploads i).store = store' at heffect
  have hjobID : ((state.step sha256Hex uploads i).calls i).state.job.id =
      (uploads.upload i).environment.jobID := by
    rw [hnext, heffect.jobID]
    exact h.jobID
  cases heffect with
  | advances _ _ _ _ htodo htrack _ hended =>
    refine h.of_todo htrack (by rw [hnext]) hjobID ?_ ?_ ?_
    · rw [htodo]
      exact fun _ htx => htx
    · rw [htodo]
      exact fun _ htx => .inl htx
    · intro hphase
      rcases hended hphase with hphase | htotals
      · exact h.ended hphase
      · exact htotals
  | stops _ _ _ _ _ htrack =>
    exact .of_not_onTrack hjobID (by rw [hnext]; exact htrack)
  | marks chunk existsMap rest selection store' hphase hselected hfiltered
      htransactions =>
      have htrack : (state.calls i).phase.OnTrack := by rw [hphase]; trivial
      have htodo : (state.calls i).phase.todo =
          chunk.chunk ++ rest.flatMap StreamState.chunk := by rw [hphase]; rfl
      rw [State.SkipsOnlyLasting, hphase] at hskips
      refine h.of_todo htrack (by rw [hnext]) hjobID ?_ ?_ ?_
      · rw [htodo]
        intro tx htx
        exact List.mem_append.mpr ((List.mem_append.mp htx).imp_left (hfiltered tx))
      · rw [htodo]
        intro tx htx
        rcases List.mem_append.mp htx with hleft | hleft
        · rcases hskips tx hleft with hnew | hlasting
          · exact .inl (List.mem_append_left _ ((hselected tx hleft).mpr hnew))
          · exact .inr (hlasting.step h.jobID fun _ => htrack)
        · exact .inl (List.mem_append_right _ hleft)
      · exact fun hended => absurd hended id
  | inserts _ selection rest _ _ hphase hchecking _ hrows =>
    have htrack : (state.calls i).phase.OnTrack := by rw [hphase]; trivial
    have htodo : (state.calls i).phase.todo =
        selection.filtered ++ rest.flatMap StreamState.chunk := by
      rw [hphase]; rfl
    refine h.of_todo htrack (by rw [hnext, hchecking]) hjobID ?_ ?_ ?_
    · rw [htodo]
      exact fun _ htx => List.mem_append_right _ htx
    · intro tx htx
      have hleft := htx
      rw [htodo] at hleft
      rcases List.mem_append.mp hleft with hinserted | hleft
      · refine .inr (h.lasting_of_mem htx ?_)
        rw [hstore, hrows]
        exact List.mem_append_right _ hinserted
      · exact .inl hleft
    · exact fun hended => absurd hended id
  | withdraws => exact .of_not_onTrack hjobID (by rw [hnext]; exact id)

theorem State.Covers.step_of_ne (h : state.Covers uploads k)
    (hjobID : (state.calls i).state.job.id = (uploads.upload i).environment.jobID) (hne : k ≠ i) :
    (state.step sha256Hex uploads i).Covers uploads k := by
  have hcalls : (state.step sha256Hex uploads i).calls k = state.calls k :=
    State.step_calls_of_ne hne
  refine ⟨?_, ?_, ?_, ?_⟩
  · rw [hcalls]
    exact h.jobID
  · rw [hcalls]
    exact h.built
  · rw [hcalls]
    intro htrack chunk hchunk tx htx
    exact (h.covered htrack chunk hchunk tx htx).imp_right fun hkey =>
      hkey.step hjobID fun hk => absurd hk hne
  · rw [hcalls]
    exact h.ended

theorem Uploads.run_covers {store : Store} {steps : List ι}
    (h : Meets (State.step sha256Hex uploads)
      (State.SkipsOnlyLasting sha256Hex uploads) (uploads.initial store)
      steps) :
    ∀ i, (steps.foldl (State.step sha256Hex uploads) (uploads.initial store)).Covers uploads i := by
  refine h.invariant (fun state => ∀ i, state.Covers uploads i) (Uploads.initial_covers store) ?_
  intro state i hcovers hskips k
  by_cases hk : k = i
  · subst hk
    exact (hcovers k).step_self hskips
  · exact (hcovers k).step_of_ne (hcovers i).jobID hk

end

/--
In a run that skips a row only where a transaction stays, a call that has
completed its job has a live transaction for every record of its file.
-/
theorem completed_upload_live {sha256Hex : String → String} {uploads : Uploads ι} {store : Store}
    {steps : List ι} (h : Meets (State.step sha256Hex uploads)
      (State.SkipsOnlyLasting sha256Hex uploads) (uploads.initial store) steps) {i : ι}
    (hcompleted : ((steps.foldl (State.step sha256Hex uploads)
      (uploads.initial store)).calls i).phase.Completed) :
    ∀ record ∈ (uploads.upload i).started.records,
      (steps.foldl (State.step sha256Hex uploads) (uploads.initial store)).store.Live
        ⟨(uploads.upload i).environment.sourceID, record.externalID⟩ := by
  intro record hrecord
  have hcovers := Uploads.run_covers h i
  obtain ⟨totals, hending⟩ := hcovers.ended hcompleted.ended
  obtain ⟨chunk, hchunk, tx, htx, hkey⟩ :=
    (uploads.upload i).started.exists_transaction hending hrecord
  rcases hcovers.covered hcompleted.ended.onTrack chunk hchunk tx htx with
    htodo | ⟨row, hrow, hrowKey, hstatus, -⟩
  · rw [Phase.todo_of_ended hcompleted.ended] at htodo
    cases htodo
  · exact ⟨row, hrow, hrowKey.trans hkey, hstatus⟩

/-! ## Two uploads of one row -/

instance (phase : Phase) : Decidable phase.Completed :=
  match phase with
  | .clearing _ | .returned (.ok _) => isTrue trivial
  | .checking _ | .marking _ _ _ | .inserting _ _ _ | .completing | .failing _
  | .recording _ | .withdrawing _ | .cleaning _ | .returned (.error _) => isFalse id

instance (uploads : Uploads Bool) (state : State Bool) (i : Bool) (key : ExternalIDKey) :
    Decidable (state.Lasting uploads i key) :=
  inferInstanceAs (Decidable (∃ row ∈ _, _))

instance (sha256Hex : String → String) (uploads : Uploads Bool) (state : State Bool) (i : Bool) :
    Decidable (state.SkipsOnlyLasting sha256Hex uploads i) := by
  unfold State.SkipsOnlyLasting
  split <;> infer_instance

def overlap (refused : IngestionCall)
    (hfirst : (Started.start? (refusedUpload true ["A"] refused) emptyStore).isSome)
    (hsecond : (Started.start? (secondUpload ["A"])
      ((Started.start? (refusedUpload true ["A"] refused) emptyStore).get
        hfirst).opened).isSome) : Uploads Bool where
  upload isSecond :=
    if isSecond then ⟨secondUpload ["A"], _, Option.get _ hsecond⟩
    else ⟨refusedUpload true ["A"] refused, _, Option.get _ hfirst⟩
  jobIDs_injective first second h := by
    cases first with
    | false =>
      cases second with
      | false => rfl
      | true => exact absurd h (show sampleJob.id ≠ ⟨7⟩ by decide)
    | true =>
      cases second with
      | false => exact absurd h (show (⟨7⟩ : UUID) ≠ sampleJob.id by decide)
      | true => rfl

/-- The first call completes and leaves its key; the second finds the row. -/
def completedOverlap : Uploads Bool :=
  overlap .clearDedupKeys (by decide +kernel) (by decide +kernel)

def refusedOverlap : Uploads Bool :=
  overlap (.chunk 0 .createBatch) (by decide +kernel) (by decide +kernel)

def sequentialSteps : List Bool :=
  [false, false, false, false, false, false, true, true, true, true, true, true]

/-- The second call runs while the first is between its marking and its insert. -/
def overlappingSteps : List Bool :=
  [false, false, true, true, true, true, true, true, false, false, false, false, false]

def Uploads.openedStore (uploads : Uploads Bool) : Store :=
  (uploads.upload true).started.opened

theorem completed_upload_live_sequential :
    (completedOverlap.upload true).started.records.map Record.externalID = ["A"] ∧
      ∀ record ∈ (completedOverlap.upload true).started.records,
        (sequentialSteps.foldl (State.step id completedOverlap)
          (completedOverlap.initial completedOverlap.openedStore)).store.Live
          ⟨(completedOverlap.upload true).environment.sourceID, record.externalID⟩ :=
  ⟨by decide +kernel, completed_upload_live (by decide +kernel) (by decide +kernel)⟩

/-- Whether the call has returned, and with success. -/
def Phase.answer : Phase → Option Bool
  | .returned result => some result.isOk
  | _ => none

/-- Both calls have returned, and the row is in no transaction. -/
theorem completed_upload_not_live :
    let final := overlappingSteps.foldl (State.step id refusedOverlap)
      (refusedOverlap.initial refusedOverlap.openedStore)
    (final.calls true).phase.Completed ∧ (final.calls true).phase.answer = some true ∧
      (final.calls false).phase.answer = some false ∧
      ((refusedOverlap.upload true).started.records.map Record.externalID) = ["A"] ∧
      ¬ final.store.Live ⟨(refusedOverlap.upload true).environment.sourceID, "A"⟩ := by
  decide +kernel

end Matcher.Ingestion
