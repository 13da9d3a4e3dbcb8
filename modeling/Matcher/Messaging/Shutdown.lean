import Matcher.Foundation.Transition
import Matcher.Messaging.Recovery

/-!
# What a closed publisher refuses

A caller's `Close` closes the done channel only when it finds the publisher open.
A recovery loop that watches this channel aborts, and then every later call is
refused.  During a recovery period the publisher is closed already, `Close` has no
effect, and the loop goes on to reconnect.
-/

namespace Matcher.Messaging

open Foundation
open Command (Fault)

variable {select : System → Message → System} {publisher : Publisher}

def Return.refused : Return where
  message := none
  error := some errPublisherClosed

/-! ## Calls on a closed publisher -/

/-- Since the start only a call that was already in flight has returned anything
but the refusal. -/
def System.Refuses (start system : System) : Prop :=
  ∃ settled refused, system.returned = start.returned ++ settled ++ refused ∧
    settled.length + system.call.toList.length = start.call.toList.length ∧
    (system.call ≠ none → refused = []) ∧ ∀ ret ∈ refused, ret = .refused

namespace System.Refuses

variable {start system next : System} {message : Message}

theorem refl (system : System) : Refuses system system :=
  ⟨[], [], by simp, by simp, fun _ => rfl, by simp⟩

section

variable (h : Refuses start system)

include h

theorem of_eq (hreturned : next.returned = system.returned)
    (hcall : next.call.isSome = system.call.isSome) : Refuses start next := by
  obtain ⟨settled, refused, heq, hlength, hinflight, hrefused⟩ := h
  have hlist : next.call.toList.length = system.call.toList.length := by
    cases hnext : next.call <;> cases hsystem : system.call <;> simp_all
  refine ⟨settled, refused, hreturned.trans heq, by omega, ?_, hrefused⟩
  intro hne
  apply hinflight
  cases hsystem : system.call <;> simp_all [Option.isSome_iff_ne_none.mpr hne]

theorem finish {call : Call} (hcall : system.call = some call) (message : Option Message)
    (error : Option GoError) : Refuses start (system.finish message error) := by
  obtain ⟨settled, refused, heq, hlength, hinflight, -⟩ := h
  have hnil : refused = [] := hinflight (by simp [hcall])
  refine ⟨settled ++ [⟨message, error⟩], [], ?_, ?_, fun _ => rfl, by simp⟩
  · simp [System.finish, heq, hnil]
  · simp only [hcall, Option.toList_some, List.length_singleton] at hlength
    simpa [System.finish] using hlength

theorem refuse (hcall : system.call = none) :
    Refuses start (system.finish none (some errPublisherClosed)) := by
  obtain ⟨settled, refused, heq, hlength, -, hrefused⟩ := h
  refine ⟨settled, refused ++ [.refused], ?_, ?_, ?_, ?_⟩
  · simp [System.finish, heq, Return.refused]
  · simpa [System.finish, hcall] using hlength
  · simp [System.finish]
  · intro ret hret
    rcases List.mem_append.mp hret with hret | hret
    · exact hrefused ret hret
    · exact List.mem_singleton.mp hret

theorem wait
    (hselect : ∀ message, system.call = some (.waiting message) →
      Refuses start (select system message)) : Refuses start (system.wait select) := by
  unfold System.wait
  split
  next message hcall => exact hselect message hcall
  next => exact h

theorem receive (hcall : system.call = some (.waiting message)) :
    Refuses start (system.receive message) := by
  simp only [System.receive]
  split
  next => exact (h.of_eq rfl rfl).finish hcall _ _
  next =>
    split
    · exact h.finish hcall _ _
    · exact h

theorem observeClosed (hcall : system.call = some (.waiting message)) :
    Refuses start (system.observeClosed message) := by
  unfold System.observeClosed
  split
  · exact h.finish hcall _ _
  · exact h

theorem send (fault : Fault) : Refuses start (system.send fault) := by
  unfold System.send
  split
  next generation hcall =>
    cases fault with
    | some => exact h.finish hcall _ _
    | none => exact h.of_eq rfl (by simp [hcall])
  next => exact h

theorem ofChannel (generation : ℕ) (change : Channel → Channel) :
    Refuses start (system.ofChannel generation change) := by
  unfold System.ofChannel
  split
  · exact h.of_eq rfl rfl
  · exact h

theorem step (hclosed : system.publisher.closed) (label : Label) :
    Refuses start (system.step label) := by
  cases label with
  | start =>
    show Refuses start system.start
    unfold System.start
    cases hcall : system.call with
    | some => exact h
    | none =>
      rw [hclosed]
      exact h.refuse hcall
  | send fault => exact h.send fault
  | receive => exact h.wait fun message hcall => h.receive hcall
  | observeClosed => exact h.wait fun message hcall => h.observeClosed hcall
  | timeout | cancel => exact h.wait fun message hcall => h.finish hcall _ _
  | confirm generation | drain generation | shutdown generation | broadcast generation =>
    exact h.ofChannel generation _
  | close | prepareForRecovery => exact h.of_eq rfl rfl
  | reconnect fault =>
    show Refuses start (system.reconnect fault)
    unfold System.reconnect
    split
    · exact h
    · exact h.of_eq rfl rfl

theorem later :
    ∀ ret ∈ system.returned.drop
      (start.returned.length + start.call.toList.length), ret = .refused := by
  obtain ⟨settled, refused, heq, hlength, -, hrefused⟩ := h
  have hdrop : system.returned.drop
      (start.returned.length + start.call.toList.length) =
        refused.drop system.call.toList.length := by
    rw [heq, ← hlength, ← Nat.add_assoc, ← List.length_append, List.drop_length_add_append]
  intro ret hret
  rw [hdrop] at hret
  exact hrefused ret (List.mem_of_mem_drop hret)

end

end System.Refuses

/-! ## Goroutines that can only stop -/

/-- Calls, the broker and the library leave the lifecycle of a publisher alone. -/
def Publisher.Frame (publisher next : Publisher) : Prop :=
  ∃ channels, next = { publisher with channels := channels }

namespace System

theorem ofChannel_frame (system : System) (generation : ℕ) (change : Channel → Channel) :
    system.publisher.Frame (system.ofChannel generation change).publisher := by
  unfold ofChannel
  split <;> exact ⟨_, rfl⟩

theorem wait_frame {system : System}
    (hselect : ∀ message, system.publisher.Frame (select system message).publisher) :
    system.publisher.Frame (system.wait select).publisher := by
  unfold wait
  split
  · exact hselect _
  · exact ⟨_, rfl⟩

theorem step_frame (system : System) {label : Label} (hlabel : label.IsPublishing) :
    system.publisher.Frame (system.step label).publisher := by
  cases label with
  | start =>
    simp only [step, start]
    split
    · exact ⟨_, rfl⟩
    · split <;> exact ⟨_, rfl⟩
  | send =>
    simp only [step, send]
    split
    · split <;> exact ⟨_, rfl⟩
    · exact ⟨_, rfl⟩
  | receive =>
    apply wait_frame
    intro message
    simp only [receive]
    split
    · exact ⟨_, rfl⟩
    · split <;> exact ⟨_, rfl⟩
  | observeClosed =>
    apply wait_frame
    intro message
    simp only [observeClosed]
    split <;> exact ⟨_, rfl⟩
  | timeout | cancel => exact wait_frame fun message => ⟨_, rfl⟩
  | confirm generation | drain generation | shutdown generation =>
    exact system.ofChannel_frame generation _
  | broadcast | close | prepareForRecovery | reconnect => exact hlabel.elim

end System

/-- The goroutine cannot get past its next check of the stop channel. -/
def Monitor.Stopped (publisher : Publisher) : Monitor → Prop
  | .watching _ | .notified | .prepared => publisher.doneClosed publisher.done = true
  | .attempting stop _ => publisher.doneClosed stop = true
  | .finished _ => True
  | _ => False

theorem Monitor.Stopped.frame {next : Publisher} {monitor : Monitor} (h : monitor.Stopped publisher)
    (hframe : publisher.Frame next) : monitor.Stopped next := by
  obtain ⟨channels, rfl⟩ := hframe
  cases monitor <;> exact h

/-- No recovery is under way, and one that starts will find the done channel
closed when `Close` has returned. -/
def Monitor.Quiet (publisher : Publisher) : Monitor → Prop
  | .watching _ | .notified => publisher.closed = true → publisher.doneClosed publisher.done = true
  | .finished _ => True
  | _ => False

theorem Monitor.Quiet.frame {next : Publisher} {monitor : Monitor} (h : monitor.Quiet publisher)
    (hframe : publisher.Frame next) : monitor.Quiet next := by
  obtain ⟨channels, rfl⟩ := hframe
  cases monitor <;> exact h

instance (publisher : Publisher) (monitor : Monitor) : Decidable (monitor.Quiet publisher) := by
  unfold Monitor.Quiet
  split
  all_goals infer_instance

def Action.IsReconnect : Action → Prop
  | .reconnect _ => True
  | _ => False

namespace Publisher

theorem close_closed (publisher : Publisher) : publisher.close.closed = true := by
  unfold close
  split
  · assumption
  · rfl

theorem prepareForRecovery_closed (publisher : Publisher) :
    publisher.prepareForRecovery.closed = true := by
  unfold prepareForRecovery
  split
  · assumption
  · rfl

theorem reconnectTo_closed {next : Publisher} {channel : NewChannel}
    (h : publisher.reconnectTo channel = .ok next) : next.closed = false := by
  unfold reconnectTo reconnect at h
  split at h
  · cases h
  · split at h
    · cases h
    · split at h
      · cases h
      · cases h
        rfl

end Publisher

namespace Supervised

structure Stopped (state : Supervised) : Prop where
  closed : state.publisher.closed = true
  monitors : ∀ monitor ∈ state.monitors, monitor.Stopped state.publisher

def Quiet (state : Supervised) : Prop :=
  ∀ monitor ∈ state.monitors, monitor.Quiet state.publisher

instance (state : Supervised) : Decidable state.Quiet :=
  inferInstanceAs (Decidable (∀ monitor ∈ state.monitors, _))

theorem Quiet.close {state : Supervised} (h : state.Quiet) : (state.step .close).Stopped := by
  refine ⟨state.publisher.close_closed, fun monitor hmonitor => ?_⟩
  have hquiet := h monitor hmonitor
  show monitor.Stopped state.publisher.close
  unfold Publisher.close
  cases hopen : state.publisher.closed with
  | true => cases monitor <;> simp_all [Monitor.Quiet, Monitor.Stopped]
  | false =>
    cases monitor <;> simp_all [Monitor.Quiet, Monitor.Stopped, Publisher.shut, Publisher.update]

namespace Stopped

variable {state : Supervised} {monitor : Monitor}

section

variable (h : state.Stopped)

include h

theorem goto (generation : ℕ) (hmonitor : monitor.Stopped state.publisher) :
    (state.goto generation monitor).Stopped := by
  refine ⟨h.closed, fun other hother => ?_⟩
  rcases List.mem_or_eq_of_mem_set hother with hother | rfl
  · exact h.monitors other hother
  · exact hmonitor

theorem act (label : Label) (hframe : state.publisher.Frame (state.act label).publisher) :
    (state.act label).Stopped := by
  refine ⟨?_, fun monitor hmonitor =>
    (h.monitors monitor hmonitor).frame hframe⟩
  obtain ⟨channels, hchannels⟩ := hframe
  rw [hchannels]
  exact h.closed

theorem act_close : state.act .close = state := by
  have hclose : state.system.publisher.close = state.system.publisher := if_pos h.closed
  simp [Supervised.act, System.step, hclose]

theorem act_prepareForRecovery : state.act .prepareForRecovery = state := by
  have hprepare : state.system.publisher.prepareForRecovery =
      state.system.publisher := if_pos h.closed
  simp [Supervised.act, System.step, hprepare]

theorem react (generation : ℕ) (hmonitor : monitor.Stopped state.publisher) (event : Event) :
    (state.react generation monitor event).Stopped := by
  unfold Supervised.react
  split
  case h_1 =>
    have hframe : state.publisher.Frame (state.act (.broadcast generation)).publisher :=
      state.system.ofChannel_frame generation Channel.broadcast
    have hnotified : Monitor.notified.Stopped state.publisher := hmonitor
    refine (h.act _ hframe).goto generation ?_
    split
    · exact hnotified.frame hframe
    · trivial
  case h_2 =>
    split
    · exact h.goto generation trivial
    · exact h
  case h_3 =>
    rw [h.act_prepareForRecovery]
    exact h.goto generation hmonitor
  case h_4 => exact h.goto generation hmonitor
  case h_5 stop attempt =>
    refine h.goto generation ?_
    have hstop : state.publisher.doneClosed stop = true := hmonitor
    rw [hstop]
    split <;> trivial
  case h_11 => exact h
  all_goals exact hmonitor.elim

theorem step {action : Action} (haction : ¬ action.IsReconnect) : (state.step action).Stopped := by
  cases action with
  | publishing label =>
    simp only [Supervised.step]
    split
    next hlabel => exact h.act label (state.system.step_frame hlabel)
    next => exact h
  | close =>
    show (state.act .close).Stopped
    rw [h.act_close]
    exact h
  | reconnect => exact (haction trivial).elim
  | monitor generation event =>
    simp only [Supervised.step]
    split
    next => exact h
    next monitor hmonitor =>
      exact h.react generation (h.monitors monitor (List.mem_of_getElem? hmonitor)) event

end

end Stopped

theorem Stopped.run {start : Supervised} (h : start.Stopped)
    {actions : List Action} (hactions : ∀ action ∈ actions, ¬ action.IsReconnect) :
    (actions.foldl Supervised.step start).Stopped ∧
      start.system.Refuses (actions.foldl Supervised.step start).system := by
  refine (Meets.of_labels hactions start).invariant
    (fun state => state.Stopped ∧ start.system.Refuses state.system)
    ⟨h, .refl start.system⟩ ?_
  rintro state action ⟨hstopped, hrefuses⟩ haction
  refine ⟨hstopped.step haction, ?_⟩
  rcases state.step_system action with hstep | ⟨label, hstep⟩
  · rw [hstep]
    exact hrefuses
  · rw [hstep]
    exact hrefuses.step hstopped.closed label

/-! ## Publishers that only recovery reconnects -/

/-- Only the goroutine of the last channel is running, and while it recovers the
publisher is closed. -/
structure Orderly (state : Supervised) (ended : List Monitor) (last : Monitor) : Prop where
  monitors : state.monitors = ended ++ [last]
  ended : ∀ monitor ∈ ended, ∃ outcome, monitor = .finished outcome
  last : state.publisher.closed = false → last.Quiet state.publisher

namespace Orderly

variable {state : Supervised} {ended : List Monitor} {last : Monitor}

theorem quiet (h : state.Orderly ended last) (hopen : state.publisher.closed = false) :
    state.Quiet := by
  intro monitor hmonitor
  rw [h.monitors, List.mem_append, List.mem_singleton] at hmonitor
  rcases hmonitor with hmonitor | rfl
  · obtain ⟨outcome, rfl⟩ := h.ended monitor hmonitor
    trivial
  · exact h.last hopen

theorem act (h : state.Orderly ended last) (label : Label)
    (hframe : state.publisher.Frame (state.act label).publisher) :
    (state.act label).Orderly ended last := by
  refine ⟨h.monitors, h.ended, fun hopen => (h.last ?_).frame hframe⟩
  obtain ⟨channels, hchannels⟩ := hframe
  rw [hchannels] at hopen
  exact hopen

theorem goto (h : state.Orderly ended last) {monitor : Monitor}
    (hmonitor : state.publisher.closed = false → monitor.Quiet state.publisher) :
    (state.goto ended.length monitor).Orderly ended monitor :=
  ⟨by simp [Supervised.goto, h.monitors], h.ended, hmonitor⟩

theorem startCloseMonitor (h : state.Orderly ended (.finished .recovered))
    (publisher : Publisher) (hopen : publisher.closed = false) :
    (state.startCloseMonitor publisher).Orderly
      (ended ++ [.finished .recovered]) (.watching publisher.done) := by
  refine ⟨by simp [Supervised.startCloseMonitor, h.monitors], ?_, ?_⟩
  · intro monitor hmonitor
    rcases List.mem_append.mp hmonitor with hmonitor | hmonitor
    · exact h.ended monitor hmonitor
    · exact ⟨.recovered, List.mem_singleton.mp hmonitor⟩
  · intro _ hclosed
    have hclosed : publisher.closed = true := hclosed
    rw [hopen] at hclosed
    contradiction

section

variable (h : state.Orderly ended last)

include h

theorem act_closed {label : Label} (hclosed : (state.act label).publisher.closed = true) :
    (state.act label).Orderly ended last := by
  refine ⟨h.monitors, h.ended, fun hopen => ?_⟩
  rw [hclosed] at hopen
  contradiction

theorem goto_closed (hlast : ¬ last.Quiet state.publisher) (monitor : Monitor) :
    (state.goto ended.length monitor).Orderly ended monitor :=
  h.goto fun hopen => (hlast (h.last hopen)).elim

theorem react (event : Event) :
    ∃ ended' last', (state.react ended.length last event).Orderly ended' last' := by
  unfold Supervised.react
  split
  case h_1 =>
    have hact := h.act (.broadcast ended.length)
      (state.system.ofChannel_frame ended.length Channel.broadcast)
    refine ⟨ended, _, hact.goto fun hopen => ?_⟩
    split
    · intro hclosed
      rw [hopen] at hclosed
      contradiction
    · trivial
  case h_2 =>
    split
    · exact ⟨ended, _, h.goto fun _ => trivial⟩
    · exact ⟨ended, _, h⟩
  case h_3 =>
    have hclosed : (state.act .prepareForRecovery).publisher.closed = true :=
      state.publisher.prepareForRecovery_closed
    refine ⟨ended, _, (h.act_closed hclosed).goto fun hopen => ?_⟩
    rw [hclosed] at hopen
    contradiction
  case h_7 =>
    split
    · exact ⟨ended, _, h.goto fun _ => trivial⟩
    · exact ⟨ended, _, h⟩
  case h_10 =>
    split
    next => exact ⟨ended, _, h.goto_closed id _⟩
    next publisher hpublisher =>
      have hgoto : (state.goto ended.length (.finished .recovered)).Orderly
          ended (.finished .recovered) := h.goto fun _ => trivial
      exact ⟨_, _, hgoto.startCloseMonitor publisher (Publisher.reconnectTo_closed hpublisher)⟩
  case h_11 => exact ⟨ended, _, h⟩
  all_goals exact ⟨ended, _, h.goto_closed id _⟩

theorem step {action : Action} (haction : ¬ action.IsReconnect) :
    ∃ ended' last', (state.step action).Orderly ended' last' := by
  cases action with
  | publishing label =>
    simp only [Supervised.step]
    split
    next hlabel => exact ⟨ended, last, h.act label (state.system.step_frame hlabel)⟩
    next => exact ⟨ended, last, h⟩
  | close => exact ⟨ended, last, h.act_closed state.publisher.close_closed⟩
  | reconnect => exact (haction trivial).elim
  | monitor generation event =>
    simp only [Supervised.step]
    split
    next => exact ⟨ended, last, h⟩
    next monitor hmonitor =>
      rw [h.monitors, List.getElem?_append] at hmonitor
      split at hmonitor
      next =>
        obtain ⟨outcome, rfl⟩ := h.ended monitor (List.mem_of_getElem? hmonitor)
        exact ⟨ended, last, h⟩
      next hlength =>
        obtain ⟨hindex, rfl⟩ := List.getElem?_eq_some_iff.mp hmonitor
        simp only [List.length_singleton] at hindex
        obtain rfl : generation = ended.length := by omega
        simpa using h.react event

end

end Orderly

/-- A run in which no caller reconnects is quiet whenever the publisher is open,
so `Close` is final then. -/
theorem quiet_of_open (maxAttempts : Option ℕ) {actions : List Action}
    (hactions : ∀ action ∈ actions, ¬ action.IsReconnect)
    (hopen : (Supervised.run maxAttempts actions).publisher.closed = false) :
    (Supervised.run maxAttempts actions).Quiet := by
  have hmeets : Meets Supervised.step (fun _ action => ¬ action.IsReconnect)
      (.initial maxAttempts) actions := .of_labels hactions _
  obtain ⟨ended, last, h⟩ := hmeets.invariant
    (fun state => ∃ ended last, state.Orderly ended last)
    ⟨[], _, rfl, by simp, fun _ hclosed => (Bool.false_ne_true hclosed).elim⟩
    fun state action ⟨ended, last, h⟩ haction => h.step haction
  exact h.quiet hopen

theorem quiet_of_open_recovered :
    (Supervised.run (some 10) [.publishing (.shutdown 0), .monitor 0 .notify,
      .monitor 0 .prepare, .monitor 0 .capture, .monitor 0 .check, .monitor 0 .elapse,
      .monitor 0 (.provide (.ok (some none))), .monitor 0 .reconnect]).Quiet :=
  quiet_of_open (some 10) (by simp [Action.IsReconnect]) (by decide)

/-! ## A caller's close -/

/-- No later call succeeds if no recovery was under way when `Close` was called. -/
theorem close_is_final (maxAttempts : Option ℕ) (before after : List Action)
    (hquiet : (Supervised.run maxAttempts before).Quiet)
    (hcallers : ∀ action ∈ after, ¬ action.IsReconnect) :
    let closing := (Supervised.run maxAttempts before).step .close
    let final := after.foldl Supervised.step closing
    final.Stopped ∧
      ∀ ret ∈ final.system.returned.drop
        (closing.system.returned.length + closing.system.call.toList.length),
        ret = .refused := by
  obtain ⟨hstopped, hrefuses⟩ := hquiet.close.run hcallers
  exact ⟨hstopped, hrefuses.later⟩

/-- A call is in flight when `Close` is called between the notification of the
goroutine and its `prepareForRecovery`. -/
theorem close_is_final_notified :
    let before : List Action := [.publishing .start, .publishing (.send none),
      .publishing (.shutdown 0), .monitor 0 .notify]
    let after : List Action := [.monitor 0 .prepare, .publishing .observeClosed,
      .monitor 0 .capture, .publishing .start, .monitor 0 .check,
      .publishing .start]
    let closing := (Supervised.run (some 10) before).step .close
    let final := after.foldl Supervised.step closing
    (final.Stopped ∧
      ∀ ret ∈ final.system.returned.drop
        (closing.system.returned.length + closing.system.call.toList.length),
        ret = .refused) ∧
    final.monitors = [.finished .aborted] ∧ final.system.returned.length = 3 :=
  ⟨close_is_final (some 10) _ _ (by decide) (by simp [Action.IsReconnect]), by decide, by decide⟩

/-- During the recovery period `Close` finds the publisher closed and leaves the
stop channel open. -/
theorem close_during_recovery_is_undone :
    let before : List Action := [.publishing (.shutdown 0), .monitor 0 .notify,
      .monitor 0 .prepare, .monitor 0 .capture]
    let after : List Action := [.monitor 0 .check, .monitor 0 .elapse,
      .monitor 0 (.provide (.ok (some none))), .monitor 0 .reconnect,
      .publishing .start, .publishing (.send none),
      .publishing (.confirm 1 true), .publishing .receive]
    let final := after.foldl Supervised.step ((Supervised.run (some 10) before).step .close)
    (∀ action ∈ after, ¬ action.IsReconnect) ∧
      final.system.returned = [⟨some ⟨1, 1⟩, none⟩] ∧
      final.publisher.closed = false := by
  refine ⟨by simp [Action.IsReconnect], by decide, by decide⟩

end Supervised

end Matcher.Messaging
