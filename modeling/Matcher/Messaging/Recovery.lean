import Matcher.Messaging.ConfirmablePublisher

/-!
# Automatic recovery of the publisher

Every channel has a goroutine that monitors its closure.  When recovery is
configured, the goroutine closes the publisher for the recovery period, makes a
fresh done channel to watch, and then tries to reconnect with a new channel until
an attempt succeeds, the attempts are used up, or the done channel is closed.
Each reconnection starts the goroutine of the next channel.
-/

namespace Matcher.Messaging

open Foundation
open Command (Fault)

def errChannelRequired : GoError :=
  .sentinel ⟨"ErrChannelRequired", "rabbitmq channel is required"⟩

/-- The channel that `Reconnect` is given, by what `Confirm` answers on it; there
may be none. -/
abbrev NewChannel := Option Fault

def Publisher.reconnectTo (publisher : Publisher) : NewChannel → Except GoError Publisher
  | none => .error errChannelRequired
  | some fault => publisher.reconnect fault

/-! ## The goroutine of a channel -/

inductive Outcome
  | exited
  | recovered
  | aborted
  | exhausted
deriving DecidableEq, Repr

/-- Where the goroutine is: at its select, before `prepareForRecovery`, before it
reads the stop channel, or in an attempt, which checks the stop channel, backs
off, asks the provider for a channel, and reconnects. -/
inductive Monitor
  | watching (done : ℕ)
  | notified
  | prepared
  | attempting (stop attempt : ℕ)
  | backingOff (stop attempt : ℕ)
  | connecting (stop attempt : ℕ)
  | reconnecting (stop attempt : ℕ) (channel : NewChannel)
  | finished (outcome : Outcome)
deriving DecidableEq, Repr

/-- What the goroutine does next, with what it is answered.  Both cases of a
select may be ready, and the backoff may elapse before its watcher cancels it. -/
inductive Event
  | notify
  | exit
  | prepare
  | capture
  | check
  | elapse
  | cancel
  | provide (channel : Except GoError NewChannel)
  | reconnect

/-- A publisher with the goroutines of its channels, by generation.  Without a
provider there are no attempts at all. -/
structure Supervised where
  system : System
  maxAttempts : Option ℕ
  monitors : List Monitor

/-- Steps of calls, of the broker and the library, of the callers that close or
reconnect the publisher, and of the goroutine of a channel. -/
inductive Action
  | publishing (label : Label)
  | close
  | reconnect (channel : NewChannel)
  | monitor (generation : ℕ) (event : Event)

def Label.IsPublishing : Label → Prop
  | .broadcast _ | .close | .prepareForRecovery | .reconnect _ => False
  | _ => True

instance (label : Label) : Decidable label.IsPublishing := by
  unfold Label.IsPublishing
  split
  all_goals infer_instance

namespace Supervised

def initial (maxAttempts : Option ℕ) : Supervised where
  system := .initial
  maxAttempts := maxAttempts
  monitors := [.watching System.initial.publisher.done]

def publisher (state : Supervised) : Publisher :=
  state.system.publisher

variable (state : Supervised)

def act (label : Label) : Supervised :=
  { state with system := state.system.step label }

def goto (generation : ℕ) (monitor : Monitor) : Supervised :=
  { state with monitors := state.monitors.set generation monitor }

/-- The publisher after `Reconnect`, which has started a goroutine. -/
def startCloseMonitor (publisher : Publisher) : Supervised :=
  { state with
    system := { state.system with publisher := publisher }
    monitors := state.monitors ++ [.watching publisher.done] }

def reconnect (channel : NewChannel) : Supervised :=
  match state.publisher.reconnectTo channel with
  | .error _ => state
  | .ok publisher => state.startCloseMonitor publisher

def react (generation : ℕ) : Monitor → Event → Supervised
  | .watching _, .notify =>
    (state.act (.broadcast generation)).goto generation
      (if state.maxAttempts.isSome then .notified else .finished .exited)
  | .watching done, .exit =>
    if state.publisher.doneClosed done then
      state.goto generation (.finished .exited)
    else state
  | .notified, .prepare => (state.act .prepareForRecovery).goto generation .prepared
  | .prepared, .capture => state.goto generation (.attempting state.publisher.done 0)
  | .attempting stop attempt, .check =>
    state.goto generation
      (if attempt < state.maxAttempts.getD 0 then
        if state.publisher.doneClosed stop then .finished .aborted
        else .backingOff stop attempt
      else .finished .exhausted)
  | .backingOff stop attempt, .elapse => state.goto generation (.connecting stop attempt)
  | .backingOff stop _, .cancel =>
    if state.publisher.doneClosed stop then
      state.goto generation (.finished .aborted)
    else state
  | .connecting stop attempt, .provide (.error _) =>
    state.goto generation (.attempting stop (attempt + 1))
  | .connecting stop attempt, .provide (.ok channel) =>
    state.goto generation (.reconnecting stop attempt channel)
  | .reconnecting stop attempt channel, .reconnect =>
    match state.publisher.reconnectTo channel with
    | .error _ => state.goto generation (.attempting stop (attempt + 1))
    | .ok publisher => (state.goto generation (.finished .recovered)).startCloseMonitor publisher
  | _, _ => state

def step : Action → Supervised
  | .publishing label => if label.IsPublishing then state.act label else state
  | .close => state.act .close
  | .reconnect channel => state.reconnect channel
  | .monitor generation event =>
    match state.monitors[generation]? with
    | none => state
    | some monitor => state.react generation monitor event

def run (maxAttempts : Option ℕ) (actions : List Action) : Supervised :=
  actions.foldl step (.initial maxAttempts)

/-! ## Runs of the publisher -/

theorem startCloseMonitor_system {state : Supervised} {channel : NewChannel} {publisher : Publisher}
    (hpublisher : state.publisher.reconnectTo channel = .ok publisher) :
    ∃ label, (state.startCloseMonitor publisher).system = state.system.step label := by
  cases channel with
  | none => simp [Publisher.reconnectTo] at hpublisher
  | some fault =>
    refine ⟨.reconnect fault, ?_⟩
    have hreconnect : state.system.publisher.reconnect fault = .ok publisher := hpublisher
    simp [startCloseMonitor, System.step, System.reconnect, hreconnect]

theorem react_system (generation : ℕ) (monitor : Monitor) (event : Event) :
    (state.react generation monitor event).system = state.system ∨
      ∃ label, (state.react generation monitor event).system = state.system.step label := by
  unfold react
  split
  case h_1 => exact .inr ⟨.broadcast generation, rfl⟩
  case h_3 => exact .inr ⟨.prepareForRecovery, rfl⟩
  case h_10 =>
    split
    next => exact .inl rfl
    next publisher hpublisher => exact .inr (startCloseMonitor_system hpublisher)
  all_goals first
    | exact .inl rfl
    | (split
       · exact .inl rfl
       · exact .inl rfl)

theorem step_system (action : Action) :
    (state.step action).system = state.system ∨
      ∃ label, (state.step action).system = state.system.step label := by
  cases action with
  | publishing label =>
    simp only [step]
    split
    · exact .inr ⟨label, rfl⟩
    · exact .inl rfl
  | close => exact .inr ⟨.close, rfl⟩
  | reconnect =>
    simp only [step, reconnect]
    split
    next => exact .inl rfl
    next publisher hpublisher => exact .inr (startCloseMonitor_system hpublisher)
  | monitor generation event =>
    simp only [step]
    split
    next => exact .inl rfl
    next monitor _ => exact react_system state generation monitor event

end Supervised

end Matcher.Messaging
