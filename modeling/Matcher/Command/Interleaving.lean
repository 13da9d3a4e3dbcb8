import Matcher.Command.Sequential

/-!
# Interleaved calls

Calls on one context run at the same time: each has read its rows and writes
later, and other calls write in between.  Only a run holds the lock of the
context, so at most one run is between its halves, while any number of the other
calls can be.
-/

namespace Matcher.Command

open Foundation

/-! ## Calls between their halves -/

inductive PendingCall
  | manualMatch (environment : ManualEnvironment) (prepared : ManualPreparation)
      (selects : prepared.Selects environment.input)
  | unmatch (environment : UnmatchEnvironment) (group : MatchGroup)
      (id : group.id = environment.input.matchGroupID)
  | ignoreTransaction (environment : IgnoreEnvironment)

structure PendingRun where
  environment : RunMatchEnvironment
  mrc : MatchRunContext
  run : MatchRun
  candidates : mrc.candidateIDs.Nodup

structure State where
  db : Db
  calls : List PendingCall
  /-- The run that holds the lock of the context. -/
  running : Option PendingRun

def State.initial (db : Db) : State := ⟨db, [], none⟩

inductive Label
  | startRunMatch (environment : RunMatchEnvironment)
  | finishRunMatch
  | startManualMatch (environment : ManualEnvironment)
  | startUnmatch (environment : UnmatchEnvironment)
  | startIgnoreTransaction (environment : IgnoreEnvironment)
  | finishCall (index : ℕ)

def startManualMatch (environment : ManualEnvironment) (db : Db) : Option PendingCall :=
  match h : prepareManualMatch environment db with
  | .error _ => none
  | .ok prepared => some (.manualMatch environment prepared (prepareManualMatch_eq_ok h).1)

def startUnmatch (environment : UnmatchEnvironment) (db : Db) : Option PendingCall :=
  match h : prepareUnmatch environment db with
  | .error _ => none
  | .ok group => some (.unmatch environment group (prepareUnmatch_eq_ok h).2)

def startIgnoreTransaction (environment : IgnoreEnvironment) (db : Db) : Option PendingCall :=
  match prepareIgnore environment db with
  | .error _ => none
  | .ok _ => some (.ignoreTransaction environment)

variable (environment : RunMatchEnvironment) {holding : Holding UUID UUID} {db : Db}

def RunMatchEnvironment.whileLocked : RunMatchEnvironment :=
  { environment with
    faults := fun call =>
      if call = .acquireLock then some errLockAlreadyHeld
      else environment.faults call }

def startRunMatch (db : Db) : Option PendingRun × Db :=
  match h : beginRun environment db with
  | (.ended _, db') => (none, db')
  | (.created mrc run, db') => (some ⟨environment, mrc, run, (beginRun_candidates h).1⟩, db')

def State.startRun (state : State) (environment : RunMatchEnvironment) : State :=
  match state.running with
  | some holder => ⟨(startRunMatch environment.whileLocked state.db).2, state.calls, some holder⟩
  | none =>
    ⟨(startRunMatch environment state.db).2, state.calls, (startRunMatch environment state.db).1⟩

def State.finishRun (state : State) : State :=
  match state.running with
  | none => state
  | some pending =>
    ⟨(Command.finishRun pending.environment pending.mrc pending.run state.db).2, state.calls, none⟩

def PendingCall.finish (db : Db) : PendingCall → Db
  | .manualMatch environment prepared _ => (finishManualMatch environment prepared db).2
  | .unmatch environment group _ => (finishUnmatch environment group db).2
  | .ignoreTransaction environment => (finishIgnore environment db).2

def State.push (state : State) (call : Option PendingCall) : State :=
  { state with calls := state.calls ++ call.toList }

def State.finishCall (state : State) (index : ℕ) : State :=
  match state.calls[index]? with
  | none => state
  | some call => ⟨call.finish state.db, state.calls.eraseIdx index, state.running⟩

def State.step (state : State) : Label → State
  | .startRunMatch environment => state.startRun environment
  | .finishRunMatch => state.finishRun
  | .startManualMatch environment => state.push (Command.startManualMatch environment state.db)
  | .startUnmatch environment => state.push (Command.startUnmatch environment state.db)
  | .startIgnoreTransaction environment =>
    state.push (Command.startIgnoreTransaction environment state.db)
  | .finishCall index => state.finishCall index

/-! ## How calls start -/

theorem openRun_whileLocked (db : Db) :
    ∃ cause, openRun environment.whileLocked db = .error cause := by
  unfold openRun
  cases validateRunMatchInput environment.whileLocked.input with
  | error cause => exact ⟨cause, rfl⟩
  | ok => exact ⟨errMatchRunLocked, rfl⟩

theorem startRunMatch_whileLocked (db : Db) :
    startRunMatch environment.whileLocked db = (none, db) := by
  obtain ⟨cause, hopen⟩ := openRun_whileLocked environment db
  have hbegin : beginRun environment.whileLocked db = (.ended (.error cause), db) := by
    unfold beginRun
    rw [hopen]
  unfold startRunMatch
  split
  next houtcome =>
    rw [hbegin] at houtcome
    cases houtcome
    rfl
  next houtcome =>
    rw [hbegin] at houtcome
    cases houtcome

theorem startRunMatch_sameBesidesRuns (db : Db) :
    db.SameBesidesRuns (startRunMatch environment db).2 := by
  have hsame := beginRun_sameBesidesRuns environment db
  unfold startRunMatch
  split
  next hbegin =>
    rw [hbegin] at hsame
    exact hsame
  next hbegin =>
    rw [hbegin] at hsame
    exact hsame

theorem startRunMatch_candidates {environment : RunMatchEnvironment}
    {pending : PendingRun} (h : pending ∈ (startRunMatch environment db).1) :
    (startRunMatch environment db).2.AllUnmatched pending.mrc.candidateIDs := by
  unfold startRunMatch at h ⊢
  split at h
  next => cases h
  next hbegin =>
    cases h
    exact (beginRun_candidates hbegin).2

theorem State.startRun_of_running {state : State} {holder : PendingRun}
    (h : state.running = some holder) (environment : RunMatchEnvironment) :
    state.startRun environment = state := by
  cases state with
  | mk =>
    cases h
    unfold State.startRun
    rw [startRunMatch_whileLocked]

/-! ## Undisturbed runs -/

def PendingCall.Current (db : Db) : PendingCall → Prop
  | .manualMatch environment _ _ => db.AllUnmatched environment.input.transactionIDs
  | .unmatch _ group _ => db.KeepsStatus group
  | .ignoreTransaction environment => db.AllUnmatched [environment.input.transactionID]

instance (db : Db) (call : PendingCall) : Decidable (call.Current db) := by
  cases call
  all_goals
    unfold PendingCall.Current
    infer_instance

def PendingRun.Current (db : Db) (pending : PendingRun) : Prop :=
  db.AllUnmatched (pending.environment.groupedIDs pending.mrc)

instance (db : Db) (pending : PendingRun) : Decidable (pending.Current db) :=
  inferInstanceAs (Decidable (db.AllUnmatched _))

/-- Whatever is finished finds its rows as it read them. -/
def Undisturbed (state : State) : Label → Prop
  | .finishRunMatch => ∀ pending ∈ state.running, pending.Current state.db
  | .finishCall index => ∀ call ∈ state.calls[index]?, call.Current state.db
  | _ => True

instance (state : State) (label : Label) : Decidable (Undisturbed state label) := by
  cases label
  all_goals
    unfold Undisturbed
    infer_instance

section Steps

variable {state : State} {holding : Holding UUID UUID}

theorem State.startRun_sameBesidesRuns (environment : RunMatchEnvironment) :
    state.db.SameBesidesRuns (state.startRun environment).db := by
  cases hrunning : state.running with
  | some =>
    rw [State.startRun_of_running hrunning]
    exact .refl _
  | none =>
    unfold State.startRun
    rw [hrunning]
    exact startRunMatch_sameBesidesRuns _ _

theorem PendingCall.finish_follows (h : Represents db holding) (call : PendingCall)
    (hcurrent : call.Current db) : Follows holding (call.finish db) := by
  cases call with
  | manualMatch _ _ selects =>
    exact finishManualMatch_follows selects h fun id hid =>
      h.free_of_allUnmatched hcurrent hid
  | unmatch _ _ id => exact finishUnmatch_follows id h hcurrent
  | ignoreTransaction =>
    exact finishIgnore_follows h (h.free_of_allUnmatched hcurrent (List.mem_singleton_self _))

theorem State.step_follows (h : Represents state.db holding) (label : Label)
    (hundisturbed : Undisturbed state label) : Follows holding (state.step label).db := by
  cases label with
  | startRunMatch environment =>
    exact h.follows_idle (State.startRun_sameBesidesRuns environment)
  | startManualMatch | startUnmatch | startIgnoreTransaction => exact h.follows_idle (.refl _)
  | finishRunMatch =>
    change Follows holding state.finishRun.db
    unfold State.finishRun
    split
    · exact h.follows_idle (.refl _)
    next pending hpending =>
    exact finishRun_follows pending.candidates pending.run h fun id hid =>
      h.free_of_allUnmatched (hundisturbed pending hpending) hid
  | finishCall index =>
    change Follows holding (state.finishCall index).db
    unfold State.finishCall
    split
    · exact h.follows_idle (.refl _)
    next call hcall =>
    exact call.finish_follows h (hundisturbed call hcall)

end Steps

theorem undisturbed_refines {start : Db} (h : Represents start holding) {labels : List Label}
    (hmeets : Meets State.step Undisturbed (State.initial start) labels) :
    ∃ holding', Relation.ReflTransGen Holding.Step holding holding' ∧
      Represents (labels.foldl State.step (State.initial start)).db holding' := by
  have hstep : ∀ (state : State) (label : Label) (spec : Holding UUID UUID),
      Represents state.db spec → Undisturbed state label →
        ∃ specNext, Holding.Step spec specNext ∧ Represents (state.step label).db specNext :=
    fun _ label _ => fun hrepresents => State.step_follows hrepresents label
  refine hmeets.simulation ?_ hstep
  exact h

/-! ## Live groups share no transaction -/

def Exclusive (db : Db) : Prop :=
  ∀ first ∈ db.groups.rows, ∀ second ∈ db.groups.rows, first.Live →
    second.Live → ∀ id, db.HasItem first.id id → db.HasItem second.id id →
      first = second

theorem Represents.exclusive (h : Represents db holding) : Exclusive db :=
  fun _ hfirst _ hsecond hfirstLive hsecondLive _ hfirstItem hsecondItem =>
    h.live_unique hfirst hsecond hfirstLive hsecondLive hfirstItem hsecondItem

/--
In every state reached by an interleaving in which each commit finds the
transactions that it is about to group still unmatched, no transaction is in two
live groups.
-/
theorem undisturbed_exclusive {start : Db} (hstart : Consistent start) {labels : List Label}
    (hmeets : Meets State.step Undisturbed (State.initial start) labels) {reached : List Label}
    (hreached : reached <+: labels) :
    Exclusive (reached.foldl State.step (State.initial start)).db := by
  obtain ⟨holding, hrepresents⟩ := hstart
  obtain ⟨_, -, hfinal⟩ := undisturbed_refines hrepresents (hmeets.of_isPrefix hreached)
  exact hfinal.exclusive

/-- A run and a manual match of the same pair; only the run commits. -/
def pairRunFirst : List Label := [.startRunMatch (pairRun .commit fun _ => none),
  .startManualMatch (pairManualMatch ⟨61⟩ ⟨101⟩),
  .finishRunMatch]

theorem undisturbed_exclusive_run_first :
    (pairRunFirst.foldl State.step (State.initial pairDb)).db.groups.rows.map
        (·.status) = [.confirmed] ∧
      Exclusive (pairRunFirst.foldl State.step (State.initial pairDb)).db :=
  ⟨by decide +kernel, undisturbed_exclusive
    (Fresh.consistent ⟨by decide, rfl, rfl, rfl⟩) (by decide +kernel)
    (List.prefix_refl pairRunFirst)⟩

/-- Two manual matches of one pair that both check before either writes. -/
def pairManualTwice : List Label := [.startManualMatch (pairManualMatch ⟨61⟩ ⟨101⟩),
  .startManualMatch (pairManualMatch ⟨62⟩ ⟨102⟩),
  .finishCall 0,
  .finishCall 0]

theorem manualMatch_twice_not_exclusive :
    Fresh pairDb ∧ ¬ Exclusive (pairManualTwice.foldl State.step (State.initial pairDb)).db := by
  refine ⟨⟨by decide, rfl, rfl, rfl⟩, ?_⟩
  have hrows : let db := (pairManualTwice.foldl State.step (State.initial pairDb)).db
      ∃ first ∈ db.groups.rows, ∃ second ∈ db.groups.rows, first ≠ second ∧ first.Live ∧
        second.Live ∧ db.HasItem first.id ⟨1⟩ ∧ db.HasItem second.id ⟨1⟩ := by decide +kernel
  obtain ⟨first, hfirst, second, hsecond, hne, hfirstLive, hsecondLive,
    hfirstItem, hsecondItem⟩ := hrows
  intro hexclusive
  exact hne (hexclusive first hfirst second hsecond hfirstLive hsecondLive ⟨1⟩
    hfirstItem hsecondItem)

/-! ## Unmatch and RunMatch -/

structure UnmatchSafe (db : Db) : Prop where
  confirmed : ∀ group ∈ db.groups.rows, group.status = .confirmed →
    ∀ tx ∈ db.transactions.rows, db.HasItem group.id tx.id → tx.status ≠ .unmatched
  announcedOnce : ∀ groupID, db.outbox.count (.matchUnmatched groupID) ≤ 1

theorem Represents.unmatchSafe (h : Represents db holding) : UnmatchSafe db := by
  refine ⟨?_, h.announcedOnce⟩
  intro group hgroup hconfirmed tx htx hitem hunmatched
  have hheld := (h.held group hgroup (Or.inr hconfirmed) tx.id).mpr hitem
  exact h.not_free_of_held htx hheld (Or.inl hunmatched)

def Label.UnmatchesOrRuns : Label → Prop
  | .startManualMatch _ | .startIgnoreTransaction _ => False
  | _ => True

instance (label : Label) : Decidable label.UnmatchesOrRuns := by
  cases label
  all_goals
    unfold Label.UnmatchesOrRuns
    infer_instance

/-- A finished call, other than a run, finds its rows as it read them. -/
def CallsUndisturbed (state : State) : Label → Prop
  | .finishCall index => ∀ call ∈ state.calls[index]?, call.Current state.db
  | _ => True

instance (state : State) (label : Label) : Decidable (CallsUndisturbed state label) := by
  cases label
  all_goals
    unfold CallsUndisturbed
    infer_instance

def PendingCall.IsUnmatch : PendingCall → Prop
  | .unmatch _ _ _ => True
  | _ => False

theorem startUnmatch_isUnmatch {environment : UnmatchEnvironment} {call : PendingCall}
    (h : call ∈ startUnmatch environment db) : call.IsUnmatch := by
  unfold startUnmatch at h
  split at h
  · cases h
  · cases h
    trivial

/-- No other run commits before this one, so its candidates stay free. -/
structure UnmatchInvariant (state : State) (holding : Holding UUID UUID) : Prop where
  represents : Represents state.db holding
  calls : ∀ call ∈ state.calls, call.IsUnmatch
  candidates : ∀ pending ∈ state.running, ∀ id ∈ pending.mrc.candidateIDs, holding id = none

section UnmatchSteps

variable {state : State} {holding : Holding UUID UUID}

section

variable (h : UnmatchInvariant state holding)

include h

theorem UnmatchInvariant.startRun (environment : RunMatchEnvironment) :
    UnmatchInvariant (state.startRun environment) holding := by
  cases hrunning : state.running with
  | some =>
    rw [State.startRun_of_running hrunning]
    exact h
  | none =>
    have hrepresents := h.represents.sameBesidesRuns (State.startRun_sameBesidesRuns environment)
    unfold State.startRun at hrepresents ⊢
    rw [hrunning] at hrepresents ⊢
    refine ⟨hrepresents, h.calls, ?_⟩
    intro pending hpending id hid
    exact hrepresents.free_of_allUnmatched (startRunMatch_candidates hpending) hid

theorem UnmatchInvariant.finishRun : ∃ holding', UnmatchInvariant state.finishRun holding' := by
  unfold State.finishRun
  split
  · exact ⟨holding, h⟩
  next pending hpending =>
  obtain ⟨holding', -, hrepresents⟩ := finishRun_follows pending.candidates
    pending.run h.represents fun id hid =>
      h.candidates pending hpending id (groupedIDs_subset pending.candidates hid)
  exact ⟨holding', hrepresents, h.calls, by simp⟩

theorem UnmatchInvariant.finishCall {index : ℕ}
    (hcurrent : ∀ call ∈ state.calls[index]?, call.Current state.db) :
    ∃ holding', UnmatchInvariant (state.finishCall index) holding' := by
  unfold State.finishCall
  split
  · exact ⟨holding, h⟩
  next call hcall =>
  have hcalls : ∀ other ∈ state.calls.eraseIdx index, other.IsUnmatch :=
    fun other hother => h.calls other (List.mem_of_mem_eraseIdx hother)
  have hisUnmatch := h.calls call (List.mem_of_getElem? hcall)
  have hcallCurrent := hcurrent call hcall
  cases call with
  | manualMatch | ignoreTransaction => cases hisUnmatch
  | unmatch _ _ id =>
    rcases finishUnmatch_effect id h.represents hcallCurrent with
      hsame | hreleased
    · exact ⟨holding, hsame, hcalls, h.candidates⟩
    · -- a release leaves free what was free
      refine ⟨_, hreleased, hcalls, ?_⟩
      intro pending hpending id hid
      exact Holding.release_eq_none.mpr (Or.inl (h.candidates pending hpending id hid))

theorem UnmatchInvariant.step (label : Label)
    (hcurrent : CallsUndisturbed state label) (hlabel : label.UnmatchesOrRuns) :
    ∃ holding', UnmatchInvariant (state.step label) holding' := by
  cases label with
  | startRunMatch environment => exact ⟨holding, h.startRun environment⟩
  | finishRunMatch => exact h.finishRun
  | startManualMatch | startIgnoreTransaction => cases hlabel
  | startUnmatch =>
    refine ⟨holding, h.represents, ?_, h.candidates⟩
    intro call hcall
    rcases List.mem_append.mp hcall with hold | hnew
    · exact h.calls call hold
    · exact startUnmatch_isUnmatch (Option.mem_toList.mp hnew)
  | finishCall => exact h.finishCall hcurrent

end

end UnmatchSteps

/--
In every state reached by an interleaving of Unmatch and RunMatch calls in which
each Unmatch commit finds its group stored with the status it was loaded with, no
transaction of a confirmed group is unmatched and no group is announced twice.
-/
theorem unmatch_interleaving_safe {start : Db} (hstart : Consistent start)
    {labels : List Label} (hlabels : ∀ label ∈ labels, label.UnmatchesOrRuns)
    (hmeets : Meets State.step CallsUndisturbed (State.initial start) labels)
    {reached : List Label} (hreached : reached <+: labels) :
    UnmatchSafe (reached.foldl State.step (State.initial start)).db := by
  obtain ⟨holding, hrepresents⟩ := hstart
  have hfirst : UnmatchInvariant (State.initial start) holding :=
    ⟨hrepresents, by simp [State.initial], by simp [State.initial]⟩
  obtain ⟨_, hfinal⟩ :=
    ((hmeets.and_forall hlabels).of_isPrefix hreached).invariant
    (fun state => ∃ holding, UnmatchInvariant state holding)
    ⟨holding, hfirst⟩
    fun _ label ⟨_, hinvariant⟩ hcondition =>
      hinvariant.step label hcondition.1 hcondition.2
  exact hfinal.represents.unmatchSafe

def pairRunAgain : RunMatchEnvironment :=
  { pairRun .commit (fun _ => none) with
    runID := ⟨66⟩
    newGroupID := fun index => ⟨BitVec.ofNat 128 (200 + index)⟩ }

def pairUnmatchOnce : List Label := [.startRunMatch (pairRun .commit fun _ => none),
  .finishRunMatch,
  .startUnmatch (pairUnmatch ⟨100⟩),
  .finishCall 0,
  .startRunMatch pairRunAgain,
  .finishRunMatch]

theorem unmatch_interleaving_safe_once :
    (pairUnmatchOnce.foldl State.step (State.initial pairDb)).db.groups.rows.map
        (·.status) = [.revoked, .confirmed] ∧
      UnmatchSafe (pairUnmatchOnce.foldl State.step (State.initial pairDb)).db :=
  ⟨by decide +kernel, unmatch_interleaving_safe
    (Fresh.consistent ⟨by decide, rfl, rfl, rfl⟩) (by decide +kernel)
    (by decide +kernel) (List.prefix_refl pairUnmatchOnce)⟩

/-- Two calls load the confirmed group; the pair is matched again in between. -/
def pairUnmatchTwice : List Label := [.startRunMatch (pairRun .commit fun _ => none),
  .finishRunMatch,
  .startUnmatch (pairUnmatch ⟨100⟩),
  .startUnmatch (pairUnmatch ⟨100⟩),
  .finishCall 0,
  .startRunMatch pairRunAgain,
  .finishRunMatch,
  .finishCall 0]

theorem unmatch_twice_not_safe :
    Fresh pairDb ∧ (∀ label ∈ pairUnmatchTwice, label.UnmatchesOrRuns) ∧
      (∃ group ∈ (pairUnmatchTwice.foldl State.step (State.initial pairDb)).db.groups.rows,
        group.status = .confirmed ∧
          ∃ tx ∈ (pairUnmatchTwice.foldl State.step (State.initial pairDb)).db.transactions.rows,
            (pairUnmatchTwice.foldl State.step (State.initial pairDb)).db.HasItem group.id tx.id ∧
              tx.status = .unmatched) ∧
      (pairUnmatchTwice.foldl State.step
        (State.initial pairDb)).db.outbox.count (.matchUnmatched ⟨100⟩) = 2 :=
  ⟨⟨by decide, rfl, rfl, rfl⟩, by decide +kernel, by decide +kernel, by decide +kernel⟩

end Matcher.Command
