-- SUMMARY: Sending to the GNSS module and waiting for its answer: the sender's and the receiver's steps interleaved, and when a send that returns 0 was acknowledged.
import TempoBt.App.Errno
import TempoBt.Services.Gnss.Demux

/-!
# Acknowledged sends

`ubx_send_with_ack` waits on a semaphore that the GNSS thread gives when it handles an
answer with the awaited class and id. The two share a semaphore, two flags and the
awaited ids without a lock. Each write of one of them is a step here, the answers of
the module travel in any order and for any time, and each carries in the model the
number of the transmission that it answers; the code does not see this number.
-/

namespace TempoBt

open Errno

/-! ## Answers -/

inductive UbxAnswer where
  | ack
  | nak
  deriving DecidableEq

/-- The message with which the module answers a message of `msgClass` and `msgId`. -/
def UbxAnswer.message (answer : UbxAnswer) (msgClass msgId : UInt8) : UbxMessage where
  msgClass := ubxClassAck
  msgId := match answer with
    | .ack => ubxIdAckAck
    | .nak => ubxIdAckNak
  payload := [msgClass, msgId]

/-- The tests of `ubx_handle_message`: the answer that a message is, with the class and
the id that it names. -/
def UbxMessage.answer? (m : UbxMessage) : Option (UbxAnswer × UInt8 × UInt8) :=
  if m.msgClass = ubxClassAck then
    match m.payload with
    | msgClass :: msgId :: _ =>
      if m.msgId = ubxIdAckAck then some (.ack, msgClass, msgId)
      else if m.msgId = ubxIdAckNak then some (.nak, msgClass, msgId)
      else none
    | _ => none
  else none

@[simp] theorem UbxAnswer.message_answer? (answer : UbxAnswer) (msgClass msgId : UInt8) :
    (answer.message msgClass msgId).answer? = some (answer, msgClass, msgId) := by
  cases answer <;> rfl

/-- What an awaited answer does to `ubx_ack_state`, before the semaphore is given. -/
def UbxAnswer.setFlag (answer : UbxAnswer) (a : UbxAckState) : UbxAckState :=
  match answer with
  | .ack => { a with ackReceived := true }
  | .nak => { a with nakReceived := true }

theorem UbxAnswer.ubxHandleMessage_message (answer : UbxAnswer) (msgClass msgId : UInt8)
    (a : UbxAckState) :
    ubxHandleMessage (answer.message msgClass msgId) a =
      if msgClass = a.waitingClass ∧ msgId = a.waitingId then
        { answer.setFlag a with sem := true }
      else a := by
  cases answer <;>
    simp [ubxHandleMessage, UbxAnswer.message, UbxAckState.awaits, ubxIdAckAck, ubxIdAckNak,
      UbxAnswer.setFlag]

/-! ## The two threads -/

/-- `ubx_ack_state` as `gnss_init` leaves it. -/
def UbxAckState.initial : UbxAckState := ⟨false, false, false, 0, 0⟩

/-- A call of `ubx_send_with_ack`, with the retries that `ubx_send_with_retry` has left
for it. -/
structure UbxCall where
  msgClass : UInt8
  msgId : UInt8
  retries : Nat

/-- The next step of `ubx_send_with_ack`. -/
inductive SenderStep where
  | semReset
  | clearAck
  | clearNak
  | setClass
  | setId
  | transmit
  | semTake
  | checkNak
  deriving DecidableEq

/-- The next step of `ubx_handle_message` for an answer. -/
inductive ReceiverStep where
  | compare (msgClass msgId : UInt8)
  | setFlag
  | semGive
  deriving DecidableEq

/-- An answer to transmission number `transmission`. -/
structure Reply where
  transmission : Nat
  answer : UbxAnswer

structure UbxLink where
  ackState : UbxAckState
  sender : Option (UbxCall × SenderStep)
  receiver : Option (Reply × ReceiverStep)
  /-- The class and the id of each transmission. -/
  sent : List (UInt8 × UInt8)
  /-- What the module has answered to each transmission. -/
  answers : Nat → Option UbxAnswer
  /-- The answers on their way. -/
  inFlight : List Reply

def UbxLink.initial : UbxLink where
  ackState := .initial
  sender := none
  receiver := none
  sent := []
  answers := fun _ => none
  inFlight := []

/-- What becomes of a transmission: nothing is sent and `uart_tx_wait` returns an error,
or the frame goes out, with a return value that says whether its completion was seen. -/
inductive TxOutcome where
  | notSent (error : Nat)
  | sent (ret : Int)

inductive UbxAction where
  /-- An idle sender calls `ubx_send_with_retry`, or `ubx_send_with_ack` with no retries. -/
  | send (call : UbxCall)
  /-- The sender's next step; a wait that cannot go on times out or not. -/
  | sender (tx : TxOutcome) (timeout : Bool)
  /-- The module answers a transmission that it has not answered. -/
  | answer (transmission : Nat) (answer : UbxAnswer)
  /-- An idle receiver has parsed one of the answers on their way. -/
  | deliver (index : Nat)
  /-- An answer is lost on the line. -/
  | lose (index : Nat)
  | receiver

/-- A call of `ubx_send_with_ack` has returned. -/
structure SendReturn where
  /-- The call's transmission, if it got so far. -/
  transmission : Option Nat
  ret : Int
  deriving DecidableEq

namespace UbxLink

/-- The number of the latest transmission. -/
def latest (s : UbxLink) : Nat := s.sent.length - 1

def setAckState (s : UbxLink) (f : UbxAckState → UbxAckState) : UbxLink :=
  { s with ackState := f s.ackState }

/-- The call returns; a retry begins where one is left. -/
def returns (s : UbxLink) (call : UbxCall) (transmission : Option Nat) (ret : Int) :
    UbxLink × Option SendReturn :=
  ({ s with
      sender :=
        if ret ≠ 0 ∧ 0 < call.retries then
          some ({ call with retries := call.retries - 1 }, .semReset)
        else none },
    some ⟨transmission, ret⟩)

/-- One step of `ubx_send_with_ack`. -/
def senderStep (s : UbxLink) (call : UbxCall) (tx : TxOutcome) (timeout : Bool) :
    SenderStep → UbxLink × Option SendReturn
  | .semReset =>
    ({ s.setAckState fun a => { a with sem := false } with sender := some (call, .clearAck) }, none)
  | .clearAck =>
    ({ s.setAckState fun a => { a with ackReceived := false } with
        sender := some (call, .clearNak) }, none)
  | .clearNak =>
    ({ s.setAckState fun a => { a with nakReceived := false } with
        sender := some (call, .setClass) }, none)
  | .setClass =>
    ({ s.setAckState fun a => { a with waitingClass := call.msgClass } with
        sender := some (call, .setId) }, none)
  | .setId =>
    ({ s.setAckState fun a => { a with waitingId := call.msgId } with
        sender := some (call, .transmit) }, none)
  | .transmit =>
    match tx with
    | .notSent error => s.returns call none (-(error + 1))
    | .sent ret =>
      let out := { s with sent := s.sent ++ [(call.msgClass, call.msgId)] }
      if ret < 0 then out.returns call (some out.latest) ret
      else ({ out with sender := some (call, .semTake) }, none)
  | .semTake =>
    if s.ackState.sem then
      ({ s.setAckState fun a => { a with sem := false } with sender := some (call, .checkNak) },
        none)
    else if timeout then s.returns call (some s.latest) (-etimedout)
    else (s, none)
  | .checkNak => s.returns call (some s.latest) (if s.ackState.nakReceived then -eacces else 0)

/-- One step of `ubx_handle_message`. -/
def receiverStep (s : UbxLink) (reply : Reply) : ReceiverStep → UbxLink
  | .compare msgClass msgId =>
    { s with
      receiver :=
        if msgClass = s.ackState.waitingClass ∧ msgId = s.ackState.waitingId then
          some (reply, .setFlag)
        else none }
  | .setFlag =>
    { s.setAckState reply.answer.setFlag with receiver := some (reply, .semGive) }
  | .semGive => { s.setAckState fun a => { a with sem := true } with receiver := none }

/-- The receiver begins to handle the answer to a transmission. -/
def delivers (s : UbxLink) (reply : Reply) : UbxLink :=
  match s.sent[reply.transmission]? with
  | none => s
  | some (msgClass, msgId) =>
    match (reply.answer.message msgClass msgId).answer? with
    | none => s
    | some (answer, msgClass, msgId) =>
      { s with receiver := some (⟨reply.transmission, answer⟩, .compare msgClass msgId) }

def step (s : UbxLink) : UbxAction → UbxLink × Option SendReturn
  | .send call => (if s.sender.isNone then { s with sender := some (call, .semReset) } else s, none)
  | .sender tx timeout =>
    match s.sender with
    | none => (s, none)
    | some (call, next) => s.senderStep call tx timeout next
  | .answer transmission answer =>
    (if transmission < s.sent.length ∧ s.answers transmission = none then
      { s with
        answers := Function.update s.answers transmission (some answer)
        inFlight := s.inFlight ++ [⟨transmission, answer⟩] }
    else s, none)
  | .deliver index =>
    match s.receiver, s.inFlight[index]? with
    | none, some reply => ({ s.delivers reply with inFlight := s.inFlight.eraseIdx index }, none)
    | _, _ => (s, none)
  | .lose index => ({ s with inFlight := s.inFlight.eraseIdx index }, none)
  | .receiver =>
    match s.receiver with
    | none => (s, none)
    | some (reply, next) => (s.receiverStep reply next, none)

/-- Without the sender in between, the steps of the receiver are `ubx_handle_message`. -/
theorem receiver_run {s : UbxLink} {reply : Reply} {msgClass msgId : UInt8}
    (hsent : s.sent[reply.transmission]? = some (msgClass, msgId)) :
    (Machine.run step (s.delivers reply) (List.replicate 3 .receiver)).1 =
      { s with
        ackState := ubxHandleMessage (reply.answer.message msgClass msgId) s.ackState
        receiver := none } := by
  have hdelivers : s.delivers reply =
      { s with receiver := some (reply, .compare msgClass msgId) } := by
    simp [delivers, hsent]
  rw [hdelivers, UbxAnswer.ubxHandleMessage_message]
  by_cases hwaiting : msgClass = s.ackState.waitingClass ∧ msgId = s.ackState.waitingId
  · simp [List.replicate, step, receiverStep, hwaiting, setAckState]
  · simp [List.replicate, step, receiverStep, hwaiting]

/-! ## Sends that were acknowledged -/

/-- A call that returns 0 has been acknowledged: the module has answered its
transmission with an ACK. -/
def Acknowledged (s : UbxLink) (a : UbxAction) (_ : UbxLink) : Prop :=
  ∀ out ∈ (s.step a).2, out.ret = 0 →
    ∃ n ∈ out.transmission, s.answers n = some .ack

end UbxLink

/-- The call has reset the semaphore and not taken it. -/
def SenderStep.awaits : SenderStep → Bool
  | .clearAck | .clearNak | .setClass | .setId | .transmit | .semTake => true
  | .semReset | .checkNak => false

/-- The call has cleared the flag that it will look at. -/
def SenderStep.nakCleared : SenderStep → Bool
  | .setClass | .setId | .transmit | .semTake | .checkNak => true
  | .semReset | .clearAck | .clearNak => false

namespace UbxLink

/-- While a call awaits, only the answer to its own transmission gives the semaphore,
unless it is given already or the call will see a NAK. -/
def GivesOwn (s : UbxLink) : UbxAction → Prop
  | .receiver =>
    ∀ handled ∈ s.receiver, handled.2 = .semGive →
      ∀ current ∈ s.sender, current.2.awaits = true →
        (current.2 = .semTake ∧ handled.1.transmission = s.latest) ∨ s.ackState.sem = true ∨
          (current.2.nakCleared = true ∧ s.ackState.nakReceived = true)
  | .send _ | .sender .. | .answer .. | .deliver _ | .lose _ => True

/-- The model's number of an answer is right: the module has given it to that
transmission. -/
def Genuine (s : UbxLink) (reply : Reply) : Prop :=
  reply.transmission < s.sent.length ∧ s.answers reply.transmission = some reply.answer

structure Inv (s : UbxLink) : Prop where
  inFlight : ∀ reply ∈ s.inFlight, s.Genuine reply
  handled : ∀ reply next, s.receiver = some (reply, next) → s.Genuine reply
  /-- A NAK to the call's own transmission sets its flag before it gives the semaphore. -/
  ownNak : ∀ reply call, s.receiver = some (reply, .semGive) → reply.answer = .nak →
    s.sender = some (call, .semTake) → reply.transmission = s.latest →
    s.ackState.nakReceived = true
  given : ∀ call next, s.sender = some (call, next) → next.awaits = true → s.ackState.sem = true →
    (next = .semTake ∧ s.answers s.latest = some .ack) ∨
      (next.nakCleared = true ∧ s.ackState.nakReceived = true)
  taken : ∀ call, s.sender = some (call, .checkNak) →
    s.answers s.latest = some .ack ∨ s.ackState.nakReceived = true

theorem Inv.initial : UbxLink.initial.Inv where
  inFlight := by simp [UbxLink.initial]
  handled := by simp [UbxLink.initial]
  ownNak := by simp [UbxLink.initial]
  given := by simp [UbxLink.initial]
  taken := by simp [UbxLink.initial]

namespace Inv

variable {s : UbxLink}

/-- A call that has returned, or begins again, awaits nothing. -/
theorem returns (h : s.Inv) (call : UbxCall) (transmission : Option Nat) (ret : Int) :
    (s.returns call transmission ret).1.Inv := by
  have hsender : ∀ call' next, (s.returns call transmission ret).1.sender = some (call', next) →
      next = .semReset := by
    intro call' next hnext
    simp only [UbxLink.returns] at hnext
    split at hnext
    · cases hnext
      rfl
    · exact absurd hnext (by simp)
  refine ⟨h.inFlight, h.handled, ?_, ?_, ?_⟩
  · intro reply call' _ _ hcall
    exact absurd (hsender _ _ hcall) (by simp)
  · intro call' next hcall hawaits
    rw [hsender _ _ hcall] at hawaits
    exact absurd hawaits (by decide)
  · intro call' hcall
    exact absurd (hsender _ _ hcall) (by simp)

/-- Before its take, a semaphore that is given comes with a NAK. -/
theorem nak_of_given (h : s.Inv) {call : UbxCall} {next : SenderStep}
    (hsender : s.sender = some (call, next)) (hawaits : next.awaits = true)
    (hnext : next ≠ .semTake) (hsem : s.ackState.sem = true) :
    next.nakCleared = true ∧ s.ackState.nakReceived = true := by
  rcases h.given call next hsender hawaits hsem with ⟨htake, -⟩ | hnak
  · exact absurd htake hnext
  · exact hnak

/-- A step that sets one of the words before the transmission. -/
theorem advance (h : s.Inv) {call : UbxCall} {after : SenderStep} {state : UbxAckState}
    (hafter : after ≠ .semTake ∧ after ≠ .checkNak)
    (hgiven : after.awaits = true → state.sem = true →
      after.nakCleared = true ∧ state.nakReceived = true) :
    { s with ackState := state, sender := some (call, after) }.Inv where
  inFlight := h.inFlight
  handled := h.handled
  ownNak _ _ _ _ hcall := by
    cases hcall
    exact absurd rfl hafter.1
  given _ _ hcall hawaits hsem := by
    cases hcall
    exact .inr (hgiven hawaits hsem)
  taken _ hcall := by
    cases hcall
    exact absurd rfl hafter.2

/-- The frame goes out. -/
theorem transmitted (h : s.Inv) {call : UbxCall} (hsender : s.sender = some (call, .transmit)) :
    { s with
      sent := s.sent ++ [(call.msgClass, call.msgId)], sender := some (call, .semTake) }.Inv := by
  have hgenuine : ∀ reply, s.Genuine reply →
      reply.transmission < (s.sent ++ [(call.msgClass, call.msgId)]).length ∧
        s.answers reply.transmission = some reply.answer := by
    intro reply hreply
    have hlt := hreply.1
    rw [List.length_append, List.length_singleton]
    exact ⟨by omega, hreply.2⟩
  refine ⟨fun reply hreply => hgenuine reply (h.inFlight reply hreply),
    fun reply next hreply => hgenuine reply (h.handled reply next hreply), ?_, ?_, ?_⟩
  · intro reply call' hreply _ _ hlatest
    -- the receiver is still with an answer to an earlier transmission
    have hlt := (h.handled reply _ hreply).1
    simp only [latest, List.length_append, List.length_singleton] at hlatest
    omega
  · intro call' next hcall hawaits hsem
    cases hcall
    exact .inr ⟨rfl, (h.nak_of_given hsender rfl (by simp) hsem).2⟩
  · intro call' hcall
    exact absurd hcall (by simp)

theorem senderStep (h : s.Inv) {call : UbxCall} {next : SenderStep}
    (hsender : s.sender = some (call, next)) (tx : TxOutcome) (timeout : Bool) :
    (s.senderStep call tx timeout next).1.Inv := by
  cases next with
  | semReset =>
    refine h.advance (by simp) fun _ hsem => ?_
    exact absurd hsem (by simp [setAckState])
  | clearAck =>
    refine h.advance (by simp) fun _ hsem => ?_
    exact absurd (h.nak_of_given hsender rfl (by simp) hsem).1 (by decide)
  | clearNak =>
    refine h.advance (by simp) fun _ hsem => ?_
    exact absurd (h.nak_of_given hsender rfl (by simp) hsem).1 (by decide)
  | setClass =>
    refine h.advance (by simp) fun _ hsem => ?_
    exact ⟨rfl, (h.nak_of_given hsender rfl (by simp) hsem).2⟩
  | setId =>
    refine h.advance (by simp) fun _ hsem => ?_
    exact ⟨rfl, (h.nak_of_given hsender rfl (by simp) hsem).2⟩
  | transmit =>
    cases tx with
    | notSent error => exact h.returns call _ _
    | sent ret =>
      simp only [UbxLink.senderStep]
      split
      · exact (h.transmitted hsender).returns call _ _
      · exact h.transmitted hsender
  | semTake =>
    simp only [UbxLink.senderStep]
    split
    · rename_i hsem
      refine ⟨h.inFlight, h.handled, ?_, ?_, ?_⟩
      · intro reply call' _ _ hcall
        exact absurd hcall (by simp)
      · intro call' next hcall hawaits
        cases hcall
        exact absurd hawaits (by decide)
      · intro call' _
        rcases h.given call .semTake hsender rfl hsem with ⟨-, hack⟩ | ⟨-, hnak⟩
        · exact .inl hack
        · exact .inr hnak
    · split
      · exact h.returns call _ _
      · exact h
  | checkNak => exact h.returns call _ _

/-- The answer is that of the awaited message, or not. -/
theorem compared (h : s.Inv) {reply : Reply} (hgenuine : s.Genuine reply)
    (msgClass msgId : UInt8) : (s.receiverStep reply (.compare msgClass msgId)).Inv := by
  simp only [UbxLink.receiverStep]
  refine ⟨h.inFlight, ?_, ?_, h.given, h.taken⟩
  · intro reply' next hnext
    simp only at hnext
    split at hnext
    · cases hnext
      exact hgenuine
    · exact absurd hnext (by simp)
  · intro reply' call hnext
    simp only at hnext
    split at hnext
    · exact absurd hnext (by simp)
    · exact absurd hnext (by simp)

/-- The answer sets its flag; no flag is cleared. -/
theorem flagged (h : s.Inv) {reply : Reply} (hgenuine : s.Genuine reply) :
    (s.receiverStep reply .setFlag).Inv := by
  have hsem : (s.receiverStep reply .setFlag).ackState.sem = s.ackState.sem := by
    cases reply with
    | mk transmission answer => cases answer <;> rfl
  have hnak : s.ackState.nakReceived = true →
      (s.receiverStep reply .setFlag).ackState.nakReceived = true := by
    cases reply with
    | mk transmission answer =>
      cases answer with
      | ack => exact id
      | nak => exact fun _ => rfl
  refine ⟨h.inFlight, ?_, ?_, ?_, ?_⟩
  · intro reply' next hnext
    cases hnext
    exact hgenuine
  · intro reply' call hnext hanswer _ _
    cases hnext
    simp [UbxLink.receiverStep, setAckState, UbxAnswer.setFlag, hanswer]
  · intro call next hcall hawaits hgiven
    rw [hsem] at hgiven
    rcases h.given call next hcall hawaits hgiven with hack | ⟨hcleared, hflag⟩
    · exact .inl hack
    · exact .inr ⟨hcleared, hnak hflag⟩
  · intro call hcall
    rcases h.taken call hcall with hack | hflag
    · exact .inl hack
    · exact .inr (hnak hflag)

/-- The semaphore is given to the call that waits for this answer. -/
theorem gives (h : s.Inv) {reply : Reply} (hreceiver : s.receiver = some (reply, .semGive))
    (hgives : s.GivesOwn .receiver) : (s.receiverStep reply .semGive).Inv := by
  refine ⟨h.inFlight, ?_, ?_, ?_, h.taken⟩
  · intro reply' next hnext
    exact absurd hnext (by simp [UbxLink.receiverStep])
  · intro reply' call hnext
    exact absurd hnext (by simp [UbxLink.receiverStep])
  · intro call next hcall hawaits _
    rcases hgives _ hreceiver rfl _ hcall hawaits with ⟨hnext, hown⟩ | hsem | hnak
    · -- the call's own answer
      obtain rfl : next = .semTake := hnext
      cases hanswer : reply.answer with
      | ack =>
        have hack := (h.handled reply _ hreceiver).2
        rw [hown, hanswer] at hack
        exact .inl ⟨rfl, hack⟩
      | nak => exact .inr ⟨rfl, h.ownNak reply call hreceiver hanswer hcall hown⟩
    · exact h.given call next hcall hawaits hsem
    · exact .inr hnak

theorem receiverStep (h : s.Inv) {reply : Reply} {next : ReceiverStep}
    (hreceiver : s.receiver = some (reply, next)) (hgives : s.GivesOwn .receiver) :
    (s.receiverStep reply next).Inv := by
  have hgenuine := h.handled reply next hreceiver
  cases next with
  | compare msgClass msgId => exact h.compared hgenuine msgClass msgId
  | setFlag => exact h.flagged hgenuine
  | semGive => exact h.gives hreceiver hgives

theorem delivers (h : s.Inv) {reply : Reply} (hreply : s.Genuine reply) :
    (s.delivers reply).Inv := by
  unfold UbxLink.delivers
  split
  · exact h
  · rename_i msgClass msgId _
    rw [UbxAnswer.message_answer?]
    refine ⟨h.inFlight, ?_, ?_, h.given, h.taken⟩
    · intro reply' next hnext
      cases hnext
      exact hreply
    · intro reply' call hnext
      exact absurd hnext (by simp)

theorem answered (h : s.Inv) {transmission : Nat} (answer : UbxAnswer)
    (hlt : transmission < s.sent.length) (hnone : s.answers transmission = none) :
    { s with
      answers := Function.update s.answers transmission (some answer)
      inFlight := s.inFlight ++ [Reply.mk transmission answer] }.Inv := by
  -- what was answered before stays answered so
  have hkeep {n : Nat} {a : UbxAnswer} (hn : s.answers n = some a) :
      Function.update s.answers transmission (some answer) n = some a := by
    rw [Function.update_of_ne (by rintro rfl; simp [hnone] at hn)]
    exact hn
  refine ⟨?_, ?_, h.ownNak, ?_, ?_⟩
  · intro reply hreply
    rcases List.mem_append.mp hreply with hreply | hreply
    · exact ⟨(h.inFlight reply hreply).1, hkeep (h.inFlight reply hreply).2⟩
    · rw [List.mem_singleton.mp hreply]
      exact ⟨hlt, Function.update_self ..⟩
  · intro reply next hreply
    exact ⟨(h.handled reply next hreply).1, hkeep (h.handled reply next hreply).2⟩
  · intro call next hcall hawaits hsem
    exact (h.given call next hcall hawaits hsem).imp_left fun hack => ⟨hack.1, hkeep hack.2⟩
  · intro call hcall
    exact (h.taken call hcall).imp_left hkeep

theorem lost (h : s.Inv) (index : Nat) :
    { s with inFlight := s.inFlight.eraseIdx index }.Inv :=
  ⟨fun reply hreply => h.inFlight reply (List.mem_of_mem_eraseIdx hreply), h.handled, h.ownNak,
    h.given, h.taken⟩

theorem step (h : s.Inv) {a : UbxAction} (hgives : s.GivesOwn a) : (s.step a).1.Inv := by
  cases a with
  | send call =>
    simp only [UbxLink.step]
    split
    · exact h.advance (by simp) fun hawaits => absurd hawaits (by decide)
    · exact h
  | sender tx timeout =>
    simp only [UbxLink.step]
    split
    · exact h
    · rename_i call next hsender
      exact h.senderStep hsender tx timeout
  | answer transmission answer =>
    simp only [UbxLink.step]
    split
    · rename_i hnew
      exact h.answered answer hnew.1 hnew.2
    · exact h
  | deliver index =>
    simp only [UbxLink.step]
    split
    · rename_i reply hidle hreply
      have hinFlight : (s.delivers reply).inFlight = s.inFlight := by
        unfold UbxLink.delivers
        split
        · rfl
        · split <;> rfl
      rw [← hinFlight]
      exact (h.delivers (h.inFlight reply (List.mem_of_getElem? hreply))).lost index
    · exact h
  | lose index => exact h.lost index
  | receiver =>
    simp only [UbxLink.step]
    split
    · exact h
    · rename_i reply next hreceiver
      exact h.receiverStep hreceiver hgives

/-- A call returns 0 only after its check, which a NAK would have failed. -/
theorem acknowledged (h : s.Inv) (a : UbxAction) : s.Acknowledged a (s.step a).1 := by
  intro out hout hret
  cases a with
  | sender tx timeout =>
    simp only [UbxLink.step] at hout
    cases hsender : s.sender with
    | none => simp [hsender] at hout
    | some current =>
      obtain ⟨call, next⟩ := current
      simp only [hsender] at hout
      cases next with
      | transmit =>
        cases tx with
        | notSent error =>
          cases hout
          exact absurd hret (by simp only; omega)
        | sent ret =>
          simp only [UbxLink.senderStep] at hout
          split at hout
          · rename_i hneg
            cases hout
            exact absurd hret (by simp only; omega)
          · cases hout
      | semTake =>
        simp only [UbxLink.senderStep] at hout
        split at hout
        · cases hout
        · split at hout
          · cases hout
            exact absurd hret (by simp [etimedout])
          · cases hout
      | checkNak =>
        cases hout
        rcases h.taken call hsender with hack | hnak
        · exact ⟨_, rfl, hack⟩
        · exact absurd hret (by simp [hnak, eacces])
      | semReset | clearAck | clearNak | setClass | setId => cases hout
  | send call => simp [UbxLink.step] at hout
  | answer transmission answer => simp [UbxLink.step] at hout
  | deliver index =>
    simp only [UbxLink.step] at hout
    split at hout <;> simp at hout
  | lose index => simp [UbxLink.step] at hout
  | receiver =>
    simp only [UbxLink.step] at hout
    split at hout <;> simp at hout

end Inv

theorem acknowledged_of_givesOwn (as : List UbxAction)
    (hgives : Machine.Guarded step GivesOwn UbxLink.initial as) :
    Machine.Along step Acknowledged UbxLink.initial as :=
  Machine.Guarded.along (I := Inv) (fun _ _ h hown => h.step hown)
    (fun _ a h _ => h.acknowledged a) Inv.initial hgives

instance (s : UbxLink) : (a : UbxAction) → Decidable (s.GivesOwn a)
  | .receiver => inferInstanceAs (Decidable (∀ handled ∈ s.receiver, handled.2 = .semGive →
      ∀ current ∈ s.sender, current.2.awaits = true →
        (current.2 = .semTake ∧ handled.1.transmission = s.latest) ∨ s.ackState.sem = true ∨
          (current.2.nakCleared = true ∧ s.ackState.nakReceived = true)))
  | .send _ | .sender .. | .answer .. | .deliver _ | .lose _ => .isTrue trivial

instance (s : UbxLink) (a : UbxAction) (s' : UbxLink) : Decidable (s.Acknowledged a s') := by
  unfold Acknowledged
  infer_instance

/-- The message is sent, the module acknowledges it, and the call returns 0. -/
def acknowledgedRun : List UbxAction :=
  .send ⟨6, 1, 0⟩ :: List.replicate 6 (.sender (.sent 0) false) ++
    [.answer 0 .ack, .deliver 0, .receiver, .receiver, .receiver,
      .sender (.sent 0) false, .sender (.sent 0) false]

example : (Machine.run step UbxLink.initial acknowledgedRun).2.getLast? =
    some (some ⟨some 0, 0⟩) := by decide

theorem acknowledged_acknowledgedRun :
    Machine.Guarded step GivesOwn UbxLink.initial acknowledgedRun ∧
      Machine.Along step Acknowledged UbxLink.initial acknowledgedRun :=
  have hgives : Machine.Guarded step GivesOwn UbxLink.initial acknowledgedRun := by decide
  ⟨hgives, acknowledged_of_givesOwn acknowledgedRun hgives⟩

/-- A call times out, and its NAK is handled in the next call, after the reset of the
semaphore and before the flag is cleared. The module rejects this call too. -/
def staleNakRun : List UbxAction :=
  .send ⟨6, 1, 0⟩ :: List.replicate 7 (.sender (.sent 0) true) ++
    [.send ⟨6, 8, 0⟩, .sender (.sent 0) false,
      .answer 0 .nak, .deliver 0, .receiver, .receiver, .receiver] ++
    List.replicate 5 (.sender (.sent 0) false) ++
    [.answer 1 .nak, .sender (.sent 0) false, .sender (.sent 0) false]

theorem not_acknowledged_staleNakRun :
    ¬ Machine.Along step Acknowledged UbxLink.initial staleNakRun := by decide

end UbxLink

end TempoBt
