-- SUMMARY: The subscribers of the event bus, a list linked through the objects of the callers, and when it stays one.
import TempoBt.App.Errno
import TempoBt.App.Events
import TempoBt.Lib.LinkedList
import TempoBt.Lib.Machine
import Mathlib.Data.List.Induction
import Mathlib.Logic.Function.Basic

/-!
# Event bus

`events.c` links the objects of its subscribers. A loop over the links gets a number of
tests; a call or a dispatch that no number is enough for does not return. The callers'
calls come one after the other.
-/

namespace TempoBt

open Errno LinkedList

/-! ## Subscribers -/

/-- The value of an `event_type_t`. -/
def EventType.value : EventType → UInt32
  | .sessionStart => 0
  | .sessionStop => 1
  | .stateChange => 2
  | .storageLow => 3
  | .storageError => 4
  | .uploadStart => 5
  | .uploadDone => 6
  | .dfuStart => 7
  | .dfuDone => 8
  | .sensorError => 9
  | .gnssFixAcquired => 10
  | .gnssFixLost => 11
  | .bleConnected => 12
  | .bleDisconnected => 13
  | .testDummy => 14

/-- Whether a mask asks for an event. -/
def wantsEvent (eventMask : UInt32) (event : EventType) : Bool :=
  eventMask &&& (1 <<< event.value) ≠ 0

/-- `event_subscriber_t`, for objects `P`, handlers `H` and user data `D`. -/
structure EventSubscriber (P H D : Type*) where
  handler : Option H
  userData : D
  eventMask : UInt32
  next : Option P

structure EventBus (P H D : Type*) where
  subscriberList : Option P
  /-- The objects of the callers. -/
  object : P → EventSubscriber P H D

/-- A call of `event_bus_subscribe` or `event_bus_unsubscribe`. -/
inductive EventBusCall (P H D : Type*) where
  | subscribe (subscriber : Option P) (handler : Option H) (eventMask : UInt32) (userData : D)
  | unsubscribe (subscriber : Option P)

variable {P H D : Type*}

/-- The bus at start; the objects hold anything. -/
def EventBus.initial (object : P → EventSubscriber P H D) : EventBus P H D where
  subscriberList := none
  object := object

namespace EventBus

def next (b : EventBus P H D) (p : P) : Option P := (b.object p).next

/-- The call of a handler in the loop of `event_thread_func`, with the user data. -/
def called (event : EventType) (b : EventBus P H D) (sub : P) : Option (H × D) :=
  if wantsEvent (b.object sub).eventMask event then
    (b.object sub).handler.map fun handler => (handler, (b.object sub).userData)
  else none

/-- The loop of `event_thread_func`, with the calls that it makes. -/
def notify (tests : Nat) (event : EventType) (b : EventBus P H D) : Option (List (H × D)) :=
  (scan b.next (fun _ => false) tests b.subscriberList).map fun r => r.1.filterMap (b.called event)

variable [DecidableEq P]

def store (b : EventBus P H D) (p : P) (subscriber : EventSubscriber P H D) : EventBus P H D :=
  { b with object := Function.update b.object p subscriber }

def setNext (b : EventBus P H D) (p : P) (next : Option P) : EventBus P H D :=
  b.store p { b.object p with next }

/-- The end of `event_bus_subscribe`, where the subscriber is added to the list. -/
def addToList (tests : Nat) (subscriber : P) (b : EventBus P H D) :
    Option (EventBus P H D × Int) :=
  if b.subscriberList = none then some ({ b with subscriberList := some subscriber }, 0)
  else
    -- the loop ends at an object: the list is not empty
    (scan b.next (fun last => (b.next last).isNone) tests b.subscriberList).bind fun r =>
      r.2.map fun last => (b.setNext last (some subscriber), 0)

/-- `event_bus_subscribe` -/
def subscribe (tests : Nat) (subscriber : Option P) (handler : Option H) (eventMask : UInt32)
    (userData : D) (b : EventBus P H D) : Option (EventBus P H D × Int) :=
  match subscriber, handler with
  | some subscriber, some handler =>
    (b.store subscriber
      { handler := some handler, eventMask, userData, next := none }).addToList tests subscriber
  | _, _ => some (b, -einval)

/-- `event_bus_unsubscribe` -/
def unsubscribe (tests : Nat) (subscriber : Option P) (b : EventBus P H D) :
    Option (EventBus P H D × Int) :=
  match subscriber with
  | none => some (b, -einval)
  | some subscriber =>
    if b.subscriberList = some subscriber then
      some ({ b with subscriberList := b.next subscriber }, 0)
    else
      (scan b.next (fun prev => b.next prev = some subscriber) tests b.subscriberList).map fun r =>
        match r.2 with
        | some prev => (b.setNext prev (b.next subscriber), 0)
        | none => (b, 0)

end EventBus

namespace EventBusCall

variable [DecidableEq P]

def perform (tests : Nat) (b : EventBus P H D) :
    EventBusCall P H D → Option (EventBus P H D × Int)
  | subscribe subscriber handler eventMask userData =>
    b.subscribe tests subscriber handler eventMask userData
  | unsubscribe subscriber => b.unsubscribe tests subscriber

end EventBusCall

/-! ## Subscriptions -/

/-- An object that is subscribed, and for what. -/
structure Subscription (P H D : Type*) where
  object : P
  handler : H
  eventMask : UInt32
  userData : D

/-- The subscriptions after a call: a new one is the last, and an object has one at a
time. -/
def EventBusCall.apply [DecidableEq P] (subs : List (Subscription P H D)) :
    EventBusCall P H D → List (Subscription P H D)
  | subscribe (some object) (some handler) eventMask userData =>
    subs.filter (·.object ≠ object) ++ [{ object, handler, eventMask, userData }]
  | unsubscribe (some object) => subs.filter (·.object ≠ object)
  | subscribe .. | unsubscribe none => subs

/-- The subscriptions after calls, in the order in which they were made. -/
def subscriptions [DecidableEq P] (calls : List (EventBusCall P H D)) :
    List (Subscription P H D) :=
  calls.foldl EventBusCall.apply []

/-- The handlers that an event is for. -/
def handlersFor (event : EventType) (subs : List (Subscription P H D)) : List (H × D) :=
  subs.filterMap fun sub =>
    if wantsEvent sub.eventMask event then some (sub.handler, sub.userData) else none

/-- The call subscribes no object that is subscribed. -/
def EventBusCall.Fresh (subs : List (Subscription P H D)) : EventBusCall P H D → Prop
  | subscribe (some object) (some _) _ _ => object ∉ subs.map Subscription.object
  | subscribe .. | unsubscribe _ => True

namespace EventBus

/-- The object of a subscription holds what it was subscribed with. -/
structure Holds (b : EventBus P H D) (sub : Subscription P H D) : Prop where
  handler : (b.object sub.object).handler = some sub.handler
  eventMask : (b.object sub.object).eventMask = sub.eventMask
  userData : (b.object sub.object).userData = sub.userData

/-- The list of the bus is that of the subscriptions: each object once, and no other. -/
structure Represents (b : EventBus P H D) (subs : List (Subscription P H D)) : Prop where
  list : Segment b.next b.subscriberList (subs.map Subscription.object) none
  holds : ∀ sub ∈ subs, b.Holds sub

/-- The calls return, one after the other, and leave `b'`. -/
def Reaches [DecidableEq P] (b : EventBus P H D) :
    List (EventBusCall P H D) → EventBus P H D → Prop
  | [], b' => b = b'
  | call :: calls, b' => ∃ tests r, call.perform tests b = some r ∧ r.1.Reaches calls b'

/-- After the calls the subscribed objects are a list, each in it once, and the dispatch of
an event ends and calls each handler that it is for once. -/
def StaysList [DecidableEq P] (b : EventBus P H D) (calls : List (EventBusCall P H D)) : Prop :=
  ∃ b', b.Reaches calls b' ∧
    Segment b'.next b'.subscriberList ((subscriptions calls).map Subscription.object) none ∧
    ((subscriptions calls).map Subscription.object).Nodup ∧
    ∀ event, ∃ tests, b'.notify tests event = some (handlersFor event (subscriptions calls))

/-! ## One call -/

section Objects

variable {b : EventBus P H D} {subs : List (Subscription P H D)}

theorem Represents.nodup (h : b.Represents subs) : (subs.map Subscription.object).Nodup :=
  h.list.nodup

/-- The dispatch of an event ends, and calls the handlers that it is for. -/
theorem Represents.notify (h : b.Represents subs) (event : EventType) :
    ∃ tests, b.notify tests event = some (handlersFor event subs) := by
  refine ⟨(subs.map Subscription.object).length + 1, ?_⟩
  rw [EventBus.notify, h.list.scan_all fun _ _ => rfl, if_pos (Nat.lt_succ_self _),
    Option.map_some, List.filterMap_map, handlersFor]
  congr 1
  refine List.filterMap_congr fun sub hsub => ?_
  obtain ⟨hhandler, hmask, hdata⟩ := h.holds sub hsub
  simp only [Function.comp, called, hhandler, hmask, hdata, Option.map_some]

theorem Holds.withList {sub : Subscription P H D} (h : b.Holds sub) (subscriberList : Option P) :
    ({ b with subscriberList } : EventBus P H D).Holds sub :=
  ⟨h.handler, h.eventMask, h.userData⟩

variable [DecidableEq P]

theorem store_next (b : EventBus P H D) (p q : P) (subscriber : EventSubscriber P H D) :
    (b.store p subscriber).next q = if q = p then subscriber.next else b.next q := by
  by_cases hq : q = p
  · simp [store, EventBus.next, hq]
  · simp [store, EventBus.next, hq]

theorem store_object (b : EventBus P H D) (p : P) (subscriber : EventSubscriber P H D) :
    (b.store p subscriber).object p = subscriber := by
  rw [store]
  exact Function.update_self p subscriber b.object

theorem Holds.store {sub : Subscription P H D} (h : b.Holds sub) {p : P} (hp : sub.object ≠ p)
    (subscriber : EventSubscriber P H D) : (b.store p subscriber).Holds sub := by
  have hsame : (b.store p subscriber).object sub.object = b.object sub.object := by
    rw [EventBus.store]
    exact Function.update_of_ne hp subscriber b.object
  exact ⟨hsame ▸ h.handler, hsame ▸ h.eventMask, hsame ▸ h.userData⟩

theorem setNext_next (b : EventBus P H D) (p q : P) (next : Option P) :
    (b.setNext p next).next q = if q = p then next else b.next q :=
  store_next b p q _

/-- A link is all that is changed. -/
theorem Holds.setNext {sub : Subscription P H D} (h : b.Holds sub) (p : P) (next : Option P) :
    (b.setNext p next).Holds sub := by
  by_cases hp : sub.object = p
  · have hsame := b.store_object p { b.object p with next }
    subst hp
    rw [← EventBus.setNext] at hsame
    refine ⟨?_, ?_, ?_⟩
    · rw [hsame, ← h.handler]
    · rw [hsame, ← h.eventMask]
    · rw [hsame, ← h.userData]
  · exact h.store hp _

theorem filter_object_of_notMem {p : P} (hp : p ∉ subs.map Subscription.object) :
    subs.filter (·.object ≠ p) = subs := by
  refine List.filter_eq_self.mpr fun sub hsub => ?_
  rw [decide_eq_true_eq]
  rintro rfl
  exact hp (List.mem_map_of_mem hsub)

/-- An object that is subscribed once is taken out of the subscriptions. -/
theorem map_object_filter {p : P} {before after : List P}
    (hlist : subs.map Subscription.object = before ++ p :: after)
    (hnodup : (before ++ p :: after).Nodup) :
    (subs.filter (·.object ≠ p)).map Subscription.object = before ++ after := by
  obtain ⟨-, hafter, hdisjoint⟩ := List.nodup_append.mp hnodup
  have hfilter : (before ++ p :: after).filter (· ≠ p) = before ++ after := by
    rw [List.filter_append, List.filter_cons_of_neg (by simp),
      List.filter_eq_self.mpr, List.filter_eq_self.mpr]
    · intro q hq
      rw [decide_eq_true_eq]
      rintro rfl
      exact (List.nodup_cons.mp hafter).1 hq
    · exact fun q hq => decide_eq_true (hdisjoint q hq p List.mem_cons_self)
  rw [← hfilter, ← hlist, List.filter_map]
  rfl

/-- The subscriber is linked behind the last object. -/
theorem addToList_concat {before : List P} {last : P}
    (hlist : Segment b.next b.subscriberList (before ++ [last]) none) (p : P) (tests : Nat) :
    b.addToList tests p =
      if before.length + 1 ≤ tests then some (b.setNext last (some p), 0) else none := by
  have hsome : b.subscriberList ≠ none := by
    rw [hlist.start_eq]
    simp
  obtain ⟨mid, hbefore, rfl, hend⟩ := segment_append.mp hlist
  have hinner : ∀ q ∈ before, (b.next q).isNone = false := by
    intro q hq
    rw [Option.isNone_eq_false_iff, Option.isSome_iff_ne_none]
    intro hnone
    have heq := hlist.eq_of_next (List.mem_append_left _ hq)
      (List.mem_append_right _ (List.mem_singleton_self last)) (hnone.trans hend.symm)
    exact (List.nodup_append.mp hlist.nodup).2.2 q hq last (List.mem_singleton_self last) heq
  rw [addToList, if_neg hsome, hlist.scan_found hinner (Option.isNone_iff_eq_none.mpr hend) tests]
  exact apply_ite (Option.bind · _) (before.length < tests) _ _

/-- A subscriber that is not subscribed comes to the end of the list. -/
theorem Represents.subscribe (h : b.Represents subs) (sub : Subscription P H D)
    (hsub : sub.object ∉ subs.map Subscription.object) :
    ∃ needed r, r.1.Represents (subs ++ [sub]) ∧
      ∀ tests, b.subscribe tests (some sub.object) (some sub.handler) sub.eventMask sub.userData =
        if needed ≤ tests then some r else none := by
  let stored := b.store sub.object
    { handler := some sub.handler, eventMask := sub.eventMask, userData := sub.userData,
      next := none }
  have hnew : stored.Holds sub := by
    constructor <;> rw [store_object]
  have hlast : stored.next sub.object = none := by
    rw [store_next, if_pos rfl]
  have hne : ∀ p ∈ subs.map Subscription.object, p ≠ sub.object := by
    rintro p hp rfl
    exact hsub hp
  have hlist : Segment stored.next stored.subscriberList (subs.map Subscription.object) none :=
    h.list.congr fun p hp => by rw [store_next, if_neg (hne p hp)]
  have hholds : ∀ sub' ∈ subs ++ [sub], stored.Holds sub' := by
    intro sub' hsub'
    rcases List.mem_append.mp hsub' with hsub' | hsub'
    · exact (h.holds sub' hsub').store (hne _ (List.mem_map_of_mem hsub')) _
    · rw [List.mem_singleton.mp hsub']
      exact hnew
  rcases List.eq_nil_or_concat' (subs.map Subscription.object) with hnil | ⟨before, last, hconcat⟩
  · have hempty : stored.subscriberList = none := by
      rw [hlist.start_eq, hnil]
      rfl
    refine ⟨0, ({ stored with subscriberList := some sub.object }, 0), ⟨?_, ?_⟩, fun tests => ?_⟩
    · rw [List.map_append, hnil]
      exact ⟨rfl, hlast⟩
    · exact fun sub' hsub' => (hholds sub' hsub').withList _
    · rw [EventBus.subscribe, addToList, if_pos hempty, if_pos (Nat.zero_le tests)]
  · rw [hconcat] at hlist hsub
    refine ⟨before.length + 1, (stored.setNext last (some sub.object), 0), ⟨?_, ?_⟩,
      addToList_concat hlist sub.object⟩
    · rw [List.map_append, hconcat]
      refine hlist.link hsub ?_ ?_ fun p _ hp => ?_
      · rw [setNext_next, if_pos rfl]
      · rw [setNext_next, if_neg, hlast]
        rintro rfl
        exact hsub (List.mem_append_right _ (List.mem_singleton_self _))
      · rw [setNext_next, if_neg hp]
    · exact fun sub' hsub' => (hholds sub' hsub').setNext last _

/-- An object that is subscribed once more cuts the list off behind itself, and is then
linked to itself: there is no list any more, and no dispatch ends. -/
theorem Represents.subscribe_twice (h : b.Represents subs) {p : P}
    (hp : p ∈ subs.map Subscription.object) {tests : Nat} {handler : H} {eventMask : UInt32}
    {userData : D} {r : EventBus P H D × Int}
    (hr : b.subscribe tests (some p) (some handler) eventMask userData = some r) :
    (∀ ps, ¬ Segment r.1.next r.1.subscriberList ps none) ∧
      ∀ tests event, r.1.notify tests event = none := by
  obtain ⟨before, after, hsplit⟩ := List.append_of_mem hp
  have hlist := h.list
  rw [hsplit] at hlist
  obtain ⟨-, -, hdisjoint⟩ := List.nodup_append.mp hlist.nodup
  have hne : ∀ q ∈ before, q ≠ p := fun q hq => hdisjoint q hq p List.mem_cons_self
  obtain ⟨mid, hbefore, rfl, -⟩ := segment_append.mp hlist
  let stored := b.store p { handler := some handler, eventMask, userData, next := none }
  have hstored : Segment stored.next b.subscriberList before (some p) :=
    hbefore.congr fun q hq => by rw [store_next, if_neg (hne q hq)]
  have hcut : Segment stored.next b.subscriberList (before ++ [p]) none := by
    refine segment_append.mpr ⟨some p, hstored, rfl, ?_⟩
    rw [store_next, if_pos rfl]
    rfl
  have hadded := addToList_concat (b := stored) hcut p tests
  rw [EventBus.subscribe, hadded] at hr
  split at hr
  · obtain rfl := Option.some.inj hr
    have hlinked : Segment (stored.setNext p (some p)).next b.subscriberList before (some p) :=
      hstored.congr fun q hq => by rw [setNext_next, if_neg (hne q hq)]
    have hnone (ps : List P) :
        ¬ Segment (stored.setNext p (some p)).next b.subscriberList ps none := by
      refine hlinked.not_list_of_loop ?_
      rw [setNext_next, if_pos rfl]
    refine ⟨hnone, fun tests event => ?_⟩
    rw [EventBus.notify, Option.map_eq_none_iff, Option.eq_none_iff_forall_not_mem]
    exact fun r' hr' => hnone _ (segment_of_scan hr')
  · cases hr

/-- The first subscriber is taken out. -/
theorem Represents.unsubscribe_head (h : b.Represents subs) {p : P} {after : List P}
    (hlist : subs.map Subscription.object = p :: after) :
    EventBus.Represents { b with subscriberList := b.next p } (subs.filter (·.object ≠ p)) ∧
      ∀ tests, b.unsubscribe tests (some p) =
        some ({ b with subscriberList := b.next p }, 0) := by
  have hsegment := h.list
  rw [hlist] at hsegment
  have hsplit : subs.map Subscription.object = [] ++ p :: after := hlist
  refine ⟨⟨?_, fun sub hsub => ?_⟩, fun tests => ?_⟩
  · rw [map_object_filter hsplit hsegment.nodup]
    exact hsegment.2
  · exact (h.holds sub (List.mem_of_mem_filter hsub)).withList _
  · rw [EventBus.unsubscribe, if_pos hsegment.1]

/-- A subscriber behind `q` is taken out. -/
theorem Represents.unsubscribe_behind (h : b.Represents subs) {p q : P} {before after : List P}
    (hlist : subs.map Subscription.object = before ++ q :: p :: after) :
    (b.setNext q (b.next p)).Represents (subs.filter (·.object ≠ p)) ∧
      ∀ tests, b.unsubscribe tests (some p) =
        if before.length + 1 ≤ tests then some (b.setNext q (b.next p), 0) else none := by
  have hsegment := h.list
  rw [hlist] at hsegment
  have hsplit : subs.map Subscription.object = (before ++ [q]) ++ p :: after := by
    rw [hlist, List.append_assoc]
    rfl
  refine ⟨⟨?_, fun sub hsub => ?_⟩, fun tests => ?_⟩
  · rw [map_object_filter hsplit (hsplit ▸ h.list.nodup), List.append_assoc, List.singleton_append]
    refine hsegment.unlink ?_ fun r hr => ?_
    · rw [setNext_next, if_pos rfl]
    · rw [setNext_next, if_neg hr]
  · exact (h.holds sub (List.mem_of_mem_filter hsub)).setNext q (b.next p)
  · have hfirst : ∀ r ∈ before, decide (b.next r = some p) = false :=
      fun r hr => decide_eq_false (hsegment.next_ne r hr)
    rw [EventBus.unsubscribe, if_neg hsegment.start_ne,
      hsegment.scan_found hfirst (decide_eq_true hsegment.next_eq) tests]
    exact apply_ite (Option.map _) (before.length < tests) _ _

/-- An object that is not subscribed. -/
theorem Represents.unsubscribe_absent (h : b.Represents subs) {p : P}
    (hp : p ∉ subs.map Subscription.object) (tests : Nat) :
    b.unsubscribe tests (some p) =
      if (subs.map Subscription.object).length + 1 ≤ tests then some (b, 0) else none := by
  have hhead : b.subscriberList ≠ some p := by
    rw [h.list.start_eq]
    exact fun hhead => hp (List.mem_of_head? hhead)
  have hnone : ∀ q ∈ subs.map Subscription.object, decide (b.next q = some p) = false :=
    fun q hq => decide_eq_false fun hnext => hp (h.list.next_mem hq p hnext)
  rw [EventBus.unsubscribe, if_neg hhead, h.list.scan_all hnone tests]
  exact apply_ite (Option.map _) (_ < tests) _ _

/-- A subscriber that is taken out; another one changes nothing. -/
theorem Represents.unsubscribe (h : b.Represents subs) (p : P) :
    ∃ needed r, r.1.Represents (subs.filter (·.object ≠ p)) ∧
      ∀ tests, b.unsubscribe tests (some p) = if needed ≤ tests then some r else none := by
  by_cases hp : p ∈ subs.map Subscription.object
  · obtain ⟨before, after, hlist⟩ := List.append_of_mem hp
    rcases List.eq_nil_or_concat' before with rfl | ⟨before, q, rfl⟩
    · obtain ⟨hrepresents, hunsubscribe⟩ := h.unsubscribe_head hlist
      refine ⟨0, ({ b with subscriberList := b.next p }, 0), hrepresents, fun tests => ?_⟩
      rw [hunsubscribe tests, if_pos (Nat.zero_le tests)]
    · rw [List.append_assoc, List.singleton_append] at hlist
      obtain ⟨hrepresents, hunsubscribe⟩ := h.unsubscribe_behind hlist
      exact ⟨before.length + 1, (b.setNext q (b.next p), 0), hrepresents, hunsubscribe⟩
  · refine ⟨_, (b, 0), ?_, h.unsubscribe_absent hp⟩
    rw [filter_object_of_notMem hp]
    exact h

/-- A call that subscribes no object twice returns, and the list is that of the
subscriptions again. -/
theorem Represents.perform (h : b.Represents subs) {call : EventBusCall P H D}
    (hcall : call.Fresh subs) :
    ∃ needed r, r.1.Represents (call.apply subs) ∧
      ∀ tests, call.perform tests b = if needed ≤ tests then some r else none := by
  have hrefused : ∃ needed, ∃ r : EventBus P H D × Int, r.1.Represents subs ∧
      ∀ tests, (some (b, -einval) : Option (EventBus P H D × Int)) =
        if needed ≤ tests then some r else none :=
    ⟨0, (b, -einval), h, fun tests => (if_pos (Nat.zero_le tests)).symm⟩
  cases call with
  | subscribe subscriber handler eventMask userData =>
    cases subscriber with
    | none => exact hrefused
    | some object =>
      cases handler with
      | none => exact hrefused
      | some handler =>
        have hadded := h.subscribe ⟨object, handler, eventMask, userData⟩ hcall
        rw [EventBusCall.apply, filter_object_of_notMem hcall]
        exact hadded
  | unsubscribe subscriber =>
    cases subscriber with
    | none => exact hrefused
    | some object => exact h.unsubscribe object

/-! ## Runs -/

omit [DecidableEq P] in
theorem represents_initial (object : P → EventSubscriber P H D) :
    (EventBus.initial object).Represents [] :=
  ⟨rfl, fun _ hsub => absurd hsub List.not_mem_nil⟩

theorem reaches_append {calls calls' : List (EventBusCall P H D)} {b' : EventBus P H D} :
    b.Reaches (calls ++ calls') b' ↔ ∃ mid, b.Reaches calls mid ∧ mid.Reaches calls' b' := by
  induction calls generalizing b with
  | nil => exact ⟨fun h => ⟨b, rfl, h⟩, fun ⟨mid, heq, h⟩ => by rwa [heq]⟩
  | cons call calls ih =>
    constructor
    · rintro ⟨tests, r, hr, h⟩
      obtain ⟨mid, hmid, h⟩ := ih.mp h
      exact ⟨mid, ⟨tests, r, hr, hmid⟩, h⟩
    · rintro ⟨mid, ⟨tests, r, hr, hmid⟩, h⟩
      exact ⟨tests, r, hr, ih.mpr ⟨mid, hmid, h⟩⟩

/-- The step of the subscriptions, as a machine. -/
def subscriptionStep (subs : List (Subscription P H D)) (call : EventBusCall P H D) :
    List (Subscription P H D) × Unit :=
  (call.apply subs, ())

theorem run_subscriptionStep (subs : List (Subscription P H D))
    (calls : List (EventBusCall P H D)) :
    (Machine.run subscriptionStep subs calls).1 = calls.foldl EventBusCall.apply subs := by
  induction calls generalizing subs with
  | nil => rfl
  | cons call calls ih => exact ih (call.apply subs)

/-- Calls that subscribe no object twice return one after the other, and every bus that
they can leave has the list of the subscriptions. -/
theorem Represents.run (h : b.Represents subs) {calls : List (EventBusCall P H D)}
    (hcalls : Machine.Guarded subscriptionStep (fun subs call => call.Fresh subs) subs calls) :
    (∃ b', b.Reaches calls b') ∧
      ∀ b', b.Reaches calls b' → b'.Represents (calls.foldl EventBusCall.apply subs) := by
  induction calls generalizing b subs with
  | nil => exact ⟨⟨b, rfl⟩, fun b' heq => heq ▸ h⟩
  | cons call calls ih =>
    obtain ⟨hcall, hcalls⟩ := hcalls
    obtain ⟨needed, r, hr, hperform⟩ := h.perform hcall
    obtain ⟨⟨b', hb'⟩, hall⟩ := ih hr hcalls
    refine ⟨⟨b', needed, r, by rw [hperform, if_pos (Nat.le_refl needed)], hb'⟩, ?_⟩
    rintro b'' ⟨tests, r', hr', hb''⟩
    rw [hperform] at hr'
    split at hr'
    · obtain rfl := Option.some.inj hr'
      exact hall b'' hb''
    · cases hr'

end Objects

end EventBus

section Runs

variable [DecidableEq P]

/-- Calls that subscribe no object twice. -/
def SubscribesOnce (calls : List (EventBusCall P H D)) : Prop :=
  Machine.Guarded EventBus.subscriptionStep (fun subs call => call.Fresh subs) [] calls

namespace EventBus

theorem StaysList.of_subscribesOnce (object : P → EventSubscriber P H D)
    {calls : List (EventBusCall P H D)} (hcalls : SubscribesOnce calls) :
    (EventBus.initial object).StaysList calls := by
  obtain ⟨⟨b', hb'⟩, hall⟩ := (represents_initial object).run hcalls
  have hrepresents : b'.Represents (subscriptions calls) := hall b' hb'
  exact ⟨b', hb', hrepresents.list, hrepresents.nodup, hrepresents.notify⟩

/-- After an object has been subscribed twice there is no list. -/
theorem StaysList.fresh {object : P → EventSubscriber P H D} {calls : List (EventBusCall P H D)}
    (hcalls : SubscribesOnce calls) {call : EventBusCall P H D}
    (h : (EventBus.initial object).StaysList (calls ++ [call])) :
    call.Fresh (subscriptions calls) := by
  obtain ⟨b', hreaches, hlist, -, -⟩ := h
  obtain ⟨mid, hmid, tests, r, hr, rfl⟩ := reaches_append.mp hreaches
  have hrepresents : mid.Represents (subscriptions calls) :=
    ((represents_initial object).run hcalls).2 mid hmid
  cases call with
  | unsubscribe subscriber => trivial
  | subscribe subscriber handler eventMask userData =>
    cases subscriber with
    | none => trivial
    | some p =>
      cases handler with
      | none => trivial
      | some handler => exact fun hp => (hrepresents.subscribe_twice hp hr).1 _ hlist

end EventBus

/-- **The subscribers stay a list** through calls exactly if none of them subscribes an
object that is subscribed. -/
theorem eventBus_staysList_iff (object : P → EventSubscriber P H D)
    (calls : List (EventBusCall P H D)) :
    (∀ done, done <+: calls → (EventBus.initial object).StaysList done) ↔
      SubscribesOnce calls := by
  constructor
  · intro h
    induction calls using List.reverseRecOn with
    | nil => trivial
    | append_singleton calls call ih =>
      have hcalls : SubscribesOnce calls :=
        ih fun done hdone => h done (hdone.trans (List.prefix_append _ _))
      refine (Machine.guarded_append ..).mpr ⟨hcalls, ?_, trivial⟩
      rw [EventBus.run_subscriptionStep]
      exact (h _ (List.prefix_refl _)).fresh hcalls
  · rintro hcalls done ⟨rest, rfl⟩
    exact .of_subscribesOnce object ((Machine.guarded_append ..).mp hcalls).1

end Runs

/-- An object that is subscribed twice in a row. -/
def subscribedTwice : List (EventBusCall Unit Unit Unit) :=
  [.subscribe (some ()) (some ()) 1 (), .subscribe (some ()) (some ()) 1 ()]

theorem not_eventBus_staysList_subscribedTwice :
    ¬ (EventBus.initial fun _ => ⟨none, (), 0, none⟩).StaysList subscribedTwice := by
  intro h
  have hfirst : SubscribesOnce [.subscribe (some ()) (some ()) 1 ()] :=
    ⟨List.not_mem_nil, trivial⟩
  have htwice : (EventBus.initial fun _ => ⟨none, (), 0, none⟩).StaysList
      ([.subscribe (some ()) (some ()) 1 ()] ++ [.subscribe (some ()) (some ()) 1 ()]) := h
  exact htwice.fresh hfirst List.mem_cons_self

end TempoBt
