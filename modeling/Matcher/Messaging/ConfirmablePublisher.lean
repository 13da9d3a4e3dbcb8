import Matcher.Command.Store

/-!
# The confirmable publisher

Publish calls are serialised and share the confirms channel of the publisher.  The
broker confirms the messages of a channel in the order in which they were
published, as late as it likes, and the confirmation of a call that has given up
waiting stays in the buffer for the next one.
-/

namespace Matcher.Messaging

open Foundation
open Command (Fault)

def errConfirmModeUnavailable : GoError :=
  .sentinel ⟨"ErrConfirmModeUnavailable", "channel does not support confirm mode"⟩

def errPublishNacked : GoError :=
  .sentinel ⟨"ErrPublishNacked", "message was nacked by broker"⟩

def errConfirmTimeout : GoError :=
  .sentinel ⟨"ErrConfirmTimeout", "confirmation timed out"⟩

def errPublisherClosed : GoError :=
  .sentinel ⟨"ErrPublisherClosed", "publisher is closed"⟩

def errReconnectWhileOpen : GoError :=
  .sentinel ⟨"ErrReconnectWhileOpen", "cannot reconnect: publisher is still open, call Close first"⟩

/-! ## Channels -/

structure Confirmation where
  deliveryTag : ℕ
  ack : Bool
deriving DecidableEq, Repr

def confirmChannelBuffer : ℕ := 256

/-- One AMQP channel with what the publisher has made for it: how many messages
were published, how the broker has confirmed them, and the Go channels. -/
structure Channel where
  published : ℕ
  outcomes : List Bool
  confirms : List Confirmation
  confirmsClosed : Bool
  closedCh : Bool
  draining : Bool
deriving DecidableEq, Repr

namespace Channel

def fresh : Channel where
  published := 0
  outcomes := []
  confirms := []
  confirmsClosed := false
  closedCh := false
  draining := false

variable (channel : Channel)

def publish : Channel :=
  { channel with published := channel.published + 1 }

def confirm (ack : Bool) (channel : Channel) : Channel :=
  if channel.outcomes.length < channel.published ∧
      channel.confirms.length < confirmChannelBuffer ∧
      channel.confirmsClosed = false then
    { channel with
      outcomes := channel.outcomes ++ [ack]
      confirms := channel.confirms ++ [⟨channel.outcomes.length + 1, ack⟩] }
  else channel

def receive : Channel :=
  { channel with confirms := channel.confirms.tail }

/-- The goroutine that `Close` starts throws confirmations away. -/
def drain : Channel :=
  if channel.draining then channel.receive else channel

/-- The library closes the confirms channel together with the AMQP channel. -/
def shutdown : Channel :=
  { channel with confirmsClosed := true }

def broadcast : Channel :=
  { channel with closedCh := true }

/-- Closing broadcasts the closure and starts to drain the confirmations. -/
def retire : Channel :=
  { channel.broadcast with draining := true }

def Acknowledged (deliveryTag : ℕ) : Prop :=
  0 < deliveryTag ∧ channel.outcomes[deliveryTag - 1]? = some true

instance (channel : Channel) (deliveryTag : ℕ) : Decidable (channel.Acknowledged deliveryTag) :=
  inferInstanceAs (Decidable (_ ∧ _))

end Channel

/-! ## The publisher -/

/-- Each successful `Reconnect` goes on to the next channel.  Done channels are
numbered in the order in which they are made. -/
structure Publisher where
  generation : ℕ
  channels : ℕ → Channel
  done : ℕ
  doneClosed : ℕ → Bool
  closed : Bool

namespace Publisher

def new : Publisher where
  generation := 0
  channels _ := .fresh
  done := 0
  doneClosed _ := false
  closed := false

def update (publisher : Publisher) (generation : ℕ) (change : Channel → Channel) : Publisher :=
  { publisher with
    channels := Function.update publisher.channels generation
      (change (publisher.channels generation)) }

def shut (publisher : Publisher) : Publisher :=
  { publisher.update publisher.generation Channel.retire with
    closed := true
    doneClosed := Function.update publisher.doneClosed publisher.done true }

def close (publisher : Publisher) : Publisher :=
  if publisher.closed then publisher else publisher.shut

def prepareForRecovery (publisher : Publisher) : Publisher :=
  if publisher.closed then publisher
  else { publisher.shut with done := publisher.done + 1 }

/-- The new channel is put into confirm mode, which may fail. -/
def reconnect (publisher : Publisher) (fault : Fault) : Except GoError Publisher :=
  if publisher.closed = false then .error errReconnectWhileOpen
  else
    match fault with
    | some cause => .error (.wrapTwo "%w: %w" [] errConfirmModeUnavailable cause)
    | none =>
      .ok { publisher with
        generation := publisher.generation + 1
        done := publisher.done + 1
        closed := false }

end Publisher

/-! ## Publish calls -/

structure Message where
  generation : ℕ
  deliveryTag : ℕ
deriving DecidableEq, Repr

/-- The call that holds the publish lock, after it has read the fields. -/
inductive Call
  | publishing (generation : ℕ)
  | waiting (message : Message)
deriving DecidableEq, Repr

structure Return where
  message : Option Message
  error : Option GoError
deriving DecidableEq, Repr

structure System where
  publisher : Publisher
  call : Option Call
  returned : List Return

/-- The steps of a call, of the broker and the library, and of whoever closes the
publisher and reconnects it. -/
inductive Label
  | start
  | send (fault : Fault)
  | receive
  | observeClosed
  | timeout
  | cancel (cause : GoError)
  | confirm (generation : ℕ) (ack : Bool)
  | drain (generation : ℕ)
  | shutdown (generation : ℕ)
  | broadcast (generation : ℕ)
  | close
  | prepareForRecovery
  | reconnect (fault : Fault)

namespace System

def initial : System where
  publisher := .new
  call := none
  returned := []

variable (system : System)

def finish (message : Option Message) (error : Option GoError) : System :=
  { system with call := none, returned := system.returned ++ [⟨message, error⟩] }

def update (system : System) (generation : ℕ) (change : Channel → Channel) : System :=
  { system with publisher := system.publisher.update generation change }

def start : System :=
  match system.call with
  | some _ => system
  | none =>
    if system.publisher.closed then
      system.finish none (some errPublisherClosed)
    else
      { system with call := some (.publishing system.publisher.generation) }

def send (fault : Fault) : System :=
  match system.call with
  | some (.publishing generation) =>
    match fault with
    | some cause => system.finish none (some (.wrap "publish: %w" [] cause))
    | none =>
      let deliveryTag := (system.publisher.channels generation).published + 1
      { system.update generation Channel.publish with
        call := some (.waiting ⟨generation, deliveryTag⟩) }
  | _ => system

/-- The confirms case of the select; it is not ready while the buffer is empty and
the channel is open. -/
def receive (system : System) (message : Message) : System :=
  let channel := system.publisher.channels message.generation
  match channel.confirms with
  | confirmed :: _ =>
    (system.update message.generation Channel.receive).finish (some message)
      (if confirmed.ack then none
      else some (.wrap "%w: delivery_tag=%d" [toString confirmed.deliveryTag] errPublishNacked))
  | [] =>
    if channel.confirmsClosed then
      system.finish (some message) (some errPublisherClosed)
    else system

def observeClosed (message : Message) : System :=
  if (system.publisher.channels message.generation).closedCh then
    system.finish (some message) (some errPublisherClosed)
  else system

/-- The select of `waitForConfirm`: each of its cases is a step of its own. -/
def wait (select : System → Message → System) : System :=
  match system.call with
  | some (.waiting message) => select system message
  | _ => system

/-- The library only knows the channels that it has been asked for. -/
def ofChannel (generation : ℕ) (change : Channel → Channel) : System :=
  if generation ≤ system.publisher.generation then
    system.update generation change
  else system

/-- A refused reconnection leaves the publisher as it is. -/
def reconnect (system : System) (fault : Fault) : System :=
  match system.publisher.reconnect fault with
  | .error _ => system
  | .ok publisher => { system with publisher := publisher }

def step : Label → System
  | .start => system.start
  | .send fault => system.send fault
  | .receive => system.wait receive
  | .observeClosed => system.wait observeClosed
  | .timeout => system.wait fun system message =>
    system.finish (some message) (some errConfirmTimeout)
  | .cancel cause => system.wait fun system message =>
    system.finish (some message) (some (.wrap "context cancelled: %w" [] cause))
  | .confirm generation ack => system.ofChannel generation (Channel.confirm ack)
  | .drain generation => system.ofChannel generation Channel.drain
  | .shutdown generation => system.ofChannel generation Channel.shutdown
  | .broadcast generation => system.ofChannel generation Channel.broadcast
  | .close => { system with publisher := system.publisher.close }
  | .prepareForRecovery => { system with publisher := system.publisher.prepareForRecovery }
  | .reconnect fault => system.reconnect fault

end System

end Matcher.Messaging
