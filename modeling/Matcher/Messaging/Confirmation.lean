import Matcher.Foundation.Transition
import Matcher.Messaging.ConfirmablePublisher

/-!
# Whose confirmation a call receives

The buffer holds the broker's own answers in order, and a call takes the first of
them.  A call that sends its message when nothing is outstanding gets the answer
to that message; a call that comes after one that gave up need not.
-/

namespace Matcher.Messaging

open Foundation
open Command (Fault)

namespace Channel

def Settled (channel : Channel) : Prop :=
  channel.outcomes.length = channel.published ∧ channel.confirms = []

instance (channel : Channel) : Decidable channel.Settled :=
  inferInstanceAs (Decidable (_ ∧ _))

end Channel

namespace System

/-- A call sends its message when the channel has nothing outstanding. -/
def SendsSettled (system : System) : Label → Prop
  | .send _ =>
    match system.call with
    | some (.publishing generation) => (system.publisher.channels generation).Settled
    | _ => True
  | _ => True

instance (system : System) (label : Label) : Decidable (system.SendsSettled label) := by
  unfold SendsSettled
  split
  · split <;> infer_instance
  · infer_instance

end System

/-! ## What a channel keeps -/

namespace Channel

/-- The buffer holds the broker's own answers. -/
structure Sound (channel : Channel) : Prop where
  outcomes_le : channel.outcomes.length ≤ channel.published
  confirms : ∀ confirmation ∈ channel.confirms,
    0 < confirmation.deliveryTag ∧
      channel.outcomes[confirmation.deliveryTag - 1]? = some confirmation.ack

/-- Nothing but the last message can still be confirmed or received. -/
structure Awaits (channel : Channel) (deliveryTag : ℕ) : Prop where
  published : channel.published = deliveryTag
  outcomes : deliveryTag ≤ channel.outcomes.length + 1
  confirms : ∀ confirmation ∈ channel.confirms, confirmation.deliveryTag = deliveryTag

structure Keeps (channel next : Channel) : Prop where
  sound : channel.Sound → next.Sound
  awaits : ∀ deliveryTag, channel.Awaits deliveryTag → next.Awaits deliveryTag
  acknowledged : ∀ deliveryTag, channel.Acknowledged deliveryTag → next.Acknowledged deliveryTag

theorem fresh_sound : fresh.Sound := ⟨le_rfl, nofun⟩

theorem Keeps.of_subset {channel next : Channel} (hpublished : next.published = channel.published)
    (houtcomes : next.outcomes = channel.outcomes) (hconfirms : next.confirms ⊆ channel.confirms) :
    channel.Keeps next where
  sound h := by
    refine ⟨?_, ?_⟩
    · rw [hpublished, houtcomes]
      exact h.outcomes_le
    · intro confirmation hconfirmation
      rw [houtcomes]
      exact h.confirms confirmation (hconfirms hconfirmation)
  awaits deliveryTag h := by
    refine ⟨hpublished.trans h.published, ?_, ?_⟩
    · rw [houtcomes]
      exact h.outcomes
    · exact fun confirmation hconfirmation =>
        h.confirms confirmation (hconfirms hconfirmation)
  acknowledged deliveryTag h := by
    unfold Acknowledged
    rw [houtcomes]
    exact h

variable (channel : Channel)

theorem keeps_refl : channel.Keeps channel :=
  .of_subset rfl rfl (List.Subset.refl _)

theorem receive_keeps : channel.Keeps channel.receive :=
  .of_subset rfl rfl fun _ => List.mem_of_mem_tail

theorem drain_keeps : channel.Keeps channel.drain := by
  unfold drain
  split
  · exact channel.receive_keeps
  · exact channel.keeps_refl

theorem shutdown_keeps : channel.Keeps channel.shutdown :=
  .of_subset rfl rfl (List.Subset.refl _)

theorem broadcast_keeps : channel.Keeps channel.broadcast :=
  .of_subset rfl rfl (List.Subset.refl _)

theorem retire_keeps : channel.Keeps channel.retire :=
  .of_subset rfl rfl (List.Subset.refl _)

theorem getElem?_append_of_some {outcomes : List Bool} {position : ℕ}
    {answer : Bool} (h : outcomes[position]? = some answer) (ack : Bool) :
    (outcomes ++ [ack])[position]? = some answer := by
  obtain ⟨hposition, -⟩ := List.getElem?_eq_some_iff.mp h
  rw [List.getElem?_append_left hposition]
  exact h

theorem confirm_keeps (ack : Bool) : channel.Keeps (channel.confirm ack) := by
  unfold confirm
  split
  case isFalse => exact channel.keeps_refl
  case isTrue hready =>
    refine ⟨fun h => ⟨?_, ?_⟩, fun deliveryTag h => ⟨h.published, ?_, ?_⟩,
      fun deliveryTag h => ⟨h.1, getElem?_append_of_some h.2 ack⟩⟩
    · rw [List.length_append]
      exact hready.1
    · intro confirmation hconfirmation
      rcases List.mem_append.mp hconfirmation with hold | hnew
      · obtain ⟨hpositive, hanswer⟩ := h.confirms confirmation hold
        exact ⟨hpositive, getElem?_append_of_some hanswer ack⟩
      · rw [List.mem_singleton.mp hnew]
        exact ⟨Nat.succ_pos _, by simp⟩
    · have hroom := h.outcomes
      simp only [List.length_append, List.length_singleton]
      omega
    · intro confirmation hconfirmation
      rcases List.mem_append.mp hconfirmation with hold | hnew
      · exact h.confirms confirmation hold
      · -- The next answer is for the one message that has none yet.
        rw [List.mem_singleton.mp hnew]
        have hpublished := h.published
        have houtcomes := h.outcomes
        have hnext := hready.1
        show channel.outcomes.length + 1 = deliveryTag
        omega

theorem publish_sound {channel : Channel} (h : channel.Sound) : channel.publish.Sound :=
  ⟨h.outcomes_le.trans (Nat.le_succ _), h.confirms⟩

theorem publish_awaits {channel : Channel} (h : channel.Settled) :
    channel.publish.Awaits (channel.published + 1) := by
  obtain ⟨houtcomes, hconfirms⟩ := h
  refine ⟨rfl, ?_, ?_⟩
  · show channel.published + 1 ≤ channel.outcomes.length + 1
    rw [houtcomes]
  · intro confirmation hconfirmation
    have hnone : channel.publish.confirms = [] := hconfirms
    rw [hnone] at hconfirmation
    exact absurd hconfirmation List.not_mem_nil

theorem acknowledged_of_receive {channel : Channel} {deliveryTag : ℕ} {confirmed : Confirmation}
    {rest : List Confirmation} (hsound : channel.Sound) (hawaits : channel.Awaits deliveryTag)
    (hconfirms : channel.confirms = confirmed :: rest) (hack : confirmed.ack = true) :
    channel.Acknowledged deliveryTag := by
  have hmem : confirmed ∈ channel.confirms := by
    rw [hconfirms]
    exact List.mem_cons_self
  rw [← hawaits.confirms confirmed hmem]
  obtain ⟨hpositive, hanswer⟩ := hsound.confirms confirmed hmem
  exact ⟨hpositive, hack ▸ hanswer⟩

end Channel

namespace Publisher

theorem update_keeps {change : Channel → Channel}
    (hchange : ∀ channel : Channel, channel.Keeps (change channel))
    (publisher : Publisher) (generation other : ℕ) :
    (publisher.channels other).Keeps ((publisher.update generation change).channels other) := by
  by_cases hother : other = generation
  · subst hother
    simpa [update] using hchange (publisher.channels other)
  · simpa [update, Function.update_of_ne hother] using (publisher.channels other).keeps_refl

theorem shut_keeps (publisher : Publisher) (generation : ℕ) :
    (publisher.channels generation).Keeps (publisher.shut.channels generation) :=
  publisher.update_keeps Channel.retire_keeps _ generation

theorem close_keeps (publisher : Publisher) (generation : ℕ) :
    (publisher.channels generation).Keeps (publisher.close.channels generation) := by
  unfold close
  split
  · exact Channel.keeps_refl _
  · exact publisher.shut_keeps generation

theorem prepareForRecovery_keeps (publisher : Publisher) (generation : ℕ) :
    (publisher.channels generation).Keeps (publisher.prepareForRecovery.channels generation) := by
  unfold prepareForRecovery
  split
  · exact Channel.keeps_refl _
  · exact publisher.shut_keeps generation

theorem reconnect_channels {publisher next : Publisher} {fault : Fault}
    (h : publisher.reconnect fault = .ok next) : next.channels = publisher.channels := by
  unfold reconnect at h
  split at h
  · cases h
  split at h
  · cases h
  · cases h
    rfl

end Publisher

/-! ## What the system keeps -/

namespace System

/-- A call that returned without an error has had its message acknowledged. -/
def Confirmed (system : System) : Prop :=
  ∀ result ∈ system.returned, result.error = none →
    ∃ message, result.message = some message ∧
      (system.publisher.channels message.generation).Acknowledged message.deliveryTag

structure Sound (system : System) : Prop where
  channels : ∀ generation, (system.publisher.channels generation).Sound
  waiting : ∀ message, system.call = some (.waiting message) →
    (system.publisher.channels message.generation).Awaits message.deliveryTag
  confirmed : system.Confirmed

variable {system : System}

theorem initial_sound : initial.Sound where
  channels _ := Channel.fresh_sound
  waiting _ h := by cases h
  confirmed _ h := absurd h List.not_mem_nil

theorem Sound.of_keeps (h : system.Sound) {publisher : Publisher}
    (hkeeps : ∀ generation, (system.publisher.channels generation).Keeps
      (publisher.channels generation)) :
    { system with publisher := publisher }.Sound where
  channels generation := (hkeeps generation).sound (h.channels generation)
  waiting message hcall := (hkeeps _).awaits _ (h.waiting message hcall)
  confirmed result hresult herror := by
    obtain ⟨message, hmessage, hack⟩ := h.confirmed result hresult herror
    exact ⟨message, hmessage, (hkeeps _).acknowledged _ hack⟩

theorem Sound.finish (h : system.Sound) {message : Option Message} {error : Option GoError}
    (hack : error = none → ∃ sent, message = some sent ∧
      (system.publisher.channels sent.generation).Acknowledged sent.deliveryTag) :
    (system.finish message error).Sound where
  channels := h.channels
  waiting _ hcall := by cases hcall
  confirmed result hresult herror := by
    rcases List.mem_append.mp hresult with hold | hnew
    · exact h.confirmed result hold herror
    · rw [List.mem_singleton.mp hnew] at herror ⊢
      exact hack herror

theorem Sound.finish_error (h : system.Sound) (message : Option Message) (cause : GoError) :
    (system.finish message (some cause)).Sound := by
  apply h.finish
  intro herror
  cases herror

/-! ## One step -/

section

variable (h : system.Sound)

include h

theorem Sound.start : system.start.Sound := by
  unfold System.start
  split
  · exact h
  split
  · exact h.finish_error _ _
  · refine ⟨h.channels, ?_, h.confirmed⟩
    intro message hcall
    cases hcall

theorem Sound.send {fault : Fault} (hsettled : system.SendsSettled (.send fault)) :
    (system.send fault).Sound := by
  unfold System.send
  split
  case h_2 => exact h
  case h_1 generation hcall =>
    simp only [SendsSettled, hcall] at hsettled
    split
    · exact h.finish_error _ _
    · have hpublished : ∀ other, (system.publisher.update generation
          Channel.publish).channels other =
          if other = generation then
            (system.publisher.channels generation).publish
          else system.publisher.channels other := by
        intro other
        simp [Publisher.update, Function.update_apply]
      refine ⟨?_, ?_, ?_⟩
      · intro other
        simp only [update, hpublished]
        split
        · exact Channel.publish_sound (h.channels generation)
        · exact h.channels other
      · rintro message ⟨⟩
        simp only [update, hpublished]
        exact Channel.publish_awaits hsettled
      · intro result hresult herror
        obtain ⟨message, hmessage, hack⟩ := h.confirmed result hresult herror
        refine ⟨message, hmessage, ?_⟩
        simp only [update, hpublished]
        split
        case isTrue hgeneration =>
          rw [hgeneration] at hack
          exact hack
        case isFalse => exact hack

theorem Sound.receive {message : Message} (hcall : system.call = some (.waiting message)) :
    (system.receive message).Sound := by
  have hkeeps := system.publisher.update_keeps Channel.receive_keeps message.generation
  unfold System.receive
  dsimp only
  split
  case h_1 confirmed rest hconfirms =>
    apply (h.of_keeps hkeeps).finish
    intro herror
    refine ⟨message, rfl, (hkeeps _).acknowledged _ ?_⟩
    apply Channel.acknowledged_of_receive (h.channels _) (h.waiting message hcall) hconfirms
    by_contra hnack
    rw [if_neg hnack] at herror
    cases herror
  case h_2 =>
    split
    · exact h.finish_error _ _
    · exact h

theorem Sound.wait {select : System → Message → System}
    (hselect : ∀ message, system.call = some (.waiting message) → (select system message).Sound) :
    (system.wait select).Sound := by
  unfold System.wait
  split
  case h_1 message hcall => exact hselect message hcall
  case h_2 => exact h

theorem Sound.ofChannel (generation : ℕ) {change : Channel → Channel}
    (hchange : ∀ channel : Channel, channel.Keeps (change channel)) :
    (system.ofChannel generation change).Sound := by
  unfold System.ofChannel
  split
  · exact h.of_keeps (system.publisher.update_keeps hchange generation)
  · exact h

theorem Sound.reconnect (fault : Fault) : (system.reconnect fault).Sound := by
  unfold System.reconnect
  split
  case h_1 => exact h
  case h_2 publisher hreconnect =>
    apply h.of_keeps
    rw [Publisher.reconnect_channels hreconnect]
    exact fun _ => Channel.keeps_refl _

theorem Sound.step {label : Label} (hsettled : system.SendsSettled label) :
    (system.step label).Sound := by
  cases label with
  | start => exact h.start
  | send => exact h.send hsettled
  | receive => exact h.wait fun message hcall => h.receive hcall
  | observeClosed =>
    apply h.wait
    intro message _
    unfold System.observeClosed
    split
    · exact h.finish_error _ _
    · exact h
  | timeout | cancel =>
    apply h.wait
    exact fun _ _ => h.finish_error _ _
  | confirm generation ack => exact h.ofChannel generation (Channel.confirm_keeps · ack)
  | drain generation => exact h.ofChannel generation Channel.drain_keeps
  | shutdown generation => exact h.ofChannel generation Channel.shutdown_keeps
  | broadcast generation => exact h.ofChannel generation Channel.broadcast_keeps
  | close => exact h.of_keeps system.publisher.close_keeps
  | prepareForRecovery => exact h.of_keeps system.publisher.prepareForRecovery_keeps
  | reconnect fault => exact h.reconnect fault

end

/-! ## Every run -/

/-- Without anything outstanding when a message is sent, a call that returns nil
has had its own message acknowledged. -/
theorem nil_return_acknowledged {labels : List Label} (h : Meets step SendsSettled initial labels) :
    (labels.foldl step initial).Confirmed :=
  (h.invariant Sound initial_sound fun _ _ hsound => hsound.step).confirmed

/-- A call gives up waiting, and the publisher is closed and reconnected before
the next one. -/
def reconnectedRun : List Label :=
  [.start, .send none, .timeout, .confirm 0 true, .close, .drain 0,
    .reconnect none, .start, .send none, .confirm 1 true, .receive]

theorem nil_return_acknowledged_reconnected :
    (reconnectedRun.foldl step initial).returned =
        [⟨some ⟨0, 1⟩, some errConfirmTimeout⟩, ⟨some ⟨1, 1⟩, none⟩] ∧
      (reconnectedRun.foldl step initial).Confirmed :=
  ⟨by decide +kernel, nil_return_acknowledged (by decide +kernel)⟩

/-- A call gives up waiting, and the next one receives its late confirmation and
returns nil although its own message is nacked. -/
theorem late_confirmation_taken_for_own :
    let system := ([.start, .send none, .timeout, .confirm 0 true, .start,
      .send none, .receive, .confirm 0 false] : List Label).foldl step initial
    system.returned = [⟨some ⟨0, 1⟩, some errConfirmTimeout⟩, ⟨some ⟨0, 2⟩, none⟩] ∧
      (system.publisher.channels 0).outcomes = [true, false] ∧
      ¬ (system.publisher.channels 0).Acknowledged 2 := by
  decide +kernel

end System

end Matcher.Messaging
