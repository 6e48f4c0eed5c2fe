import Mathlib.Data.List.Perm.Subperm
import Vigil.Proofs.Alert.Station

/-!
# No feedback

The monitor does not learn what becomes of its alerts. Whatever is in the slots and however the
tasks are interleaved with its work, it takes the same course, and each alert leads to one call of
the provider in its slot, if there is one.
-/

namespace Vigil

theorem Severity.slot_eq_low_iff {v : Severity} : v.slot = .low ↔ v = .low := by
  cases v <;> decide

theorem Severity.slot_eq_high_iff {v : Severity} : v.slot = .high ↔ v = .high ∨ v = .panic := by
  cases v <;> decide

/-! ## Calls and slots -/

namespace Dispatcher

variable {d d' : Dispatcher} {a : Stamped Alert}

def alertOf (c : Stamped Call) : Stamped Alert :=
  ⟨c.instant, c.value.alert⟩

theorem callOf?_eq_ite (d : Dispatcher) (a : Stamped Alert) :
    d.callOf? a = if (d.provider? a.value.severity.slot).isSome then
      some ⟨a.instant, ⟨a.value, a.value.severity.slot⟩⟩ else none := by
  rw [callOf?, call?]
  cases d.provider? a.value.severity.slot <;> rfl

/-- Whether an alert leads to a call depends on whether there is a provider in its slot, and on
nothing that the provider does. -/
theorem callOf?_congr (h : (d'.provider? a.value.severity.slot).isSome =
    (d.provider? a.value.severity.slot).isSome) : d'.callOf? a = d.callOf? a := by
  rw [callOf?_eq_ite, callOf?_eq_ite, h]

theorem calls_congr (h : ∀ slot, (d'.provider? slot).isSome = (d.provider? slot).isSome)
    (events : List (Stamped Event)) : d'.calls events = d.calls events := by
  rw [calls_eq_filterMap, calls_eq_filterMap]
  exact congrArg (List.filterMap · _) (funext fun a => callOf?_congr (h a.value.severity.slot))

/-- The calls for some slots are those for the alerts that belong there. -/
theorem filter_calls (d : Dispatcher) (p : Slot → Bool) (events : List (Stamped Event)) :
    ((d.calls events).filter fun c => p c.value.slot) =
      ((Monitor.alerts events).filter fun a => p a.value.severity.slot).filterMap d.callOf? := by
  rw [calls_eq_filterMap, List.filter_filterMap, List.filterMap_filter]
  refine congrArg (List.filterMap · _) (funext fun a => ?_)
  rw [callOf?_eq_ite]
  cases hp : p a.value.severity.slot <;> split <;> simp [hp]

theorem calls_of_emptied {slot : Slot} (empty : d'.provider? slot = none)
    (others : ∀ other ≠ slot, (d'.provider? other).isSome = (d.provider? other).isSome)
    (events : List (Stamped Event)) :
    d'.calls events = (d.calls events).filter fun c => c.value.slot ≠ slot := by
  rw [filter_calls d fun other => other ≠ slot, calls_eq_filterMap, List.filterMap_filter]
  refine congrArg (List.filterMap · _) (funext fun a => ?_)
  by_cases ha : a.value.severity.slot = slot
  · simp [callOf?_eq_ite, ha, empty]
  · rw [callOf?_congr (others _ ha)]
    simp [ha]

theorem calls_on (d : Dispatcher) (slot : Slot) (events : List (Stamped Event)) :
    ((d.calls events).filter fun c => c.value.slot = slot).map alertOf =
      if (d.provider? slot).isSome then
        (Monitor.alerts events).filter fun a => a.value.severity.slot = slot
      else [] := by
  rw [filter_calls d fun other => other = slot, List.map_filterMap, List.filterMap_filter]
  split
  · rename_i bound
    rw [← List.filterMap_eq_filter]
    refine congrArg (List.filterMap · _) (funext fun a => ?_)
    by_cases ha : a.value.severity.slot = slot
    · simp [callOf?_eq_ite, ha, bound, alertOf, Option.guard]
    · simp [ha, Option.guard]
  · rename_i unbound
    rw [List.filterMap_eq_nil_iff]
    intro a _
    by_cases ha : a.value.severity.slot = slot
    · simp [callOf?_eq_ite, ha, unbound]
    · simp [ha]

end Dispatcher

/-! ## Runs -/

namespace Station

variable {d d' : Dispatcher} {m : Monitor} {ops : List Monitor.Operation} {x x' : Station}

def callsOn (slot : Slot) (x : Station) : List (Stamped Alert) :=
  (x.calls.filter fun c => c.value.slot = slot).map Dispatcher.alertOf

def raised (x : Station) : List (Stamped Alert) :=
  Monitor.alerts x.events

/-- The calls that a station makes for the alerts of its monitor. -/
structure DeliverySpec (d : Dispatcher) (x : Station) : Prop where
  /-- There is no call without an alert, and no second one for the same alert, at any time. -/
  at_most_once : x.calls.Subperm (d.calls x.events)
  /-- In whatever order the tasks take their steps, they come to an end. -/
  ends : Acc (fun z y => Step d y z) x
  /-- Until all alerts have had their calls there is a next step to take. -/
  progress : ¬x.Settled → ∃ y, Step d x y
  low : x.Settled → (x.callsOn .low).Perm
    (if d.low.isSome then x.raised.filter fun a => a.value.severity = .low else [])
  high : x.Settled → (x.callsOn .high).Perm
    (if d.high.isSome then
      x.raised.filter fun a => a.value.severity = .high ∨ a.value.severity = .panic
    else [])
  /-- What the providers make of their calls is logged, and nothing else comes of it. -/
  logged : x.Settled → x.underway = [] → x.Faithful d → x.log.Perm (d.log x.events)

theorem Run.callsOn_perm (h : Run d m ops x) (settled : x.Settled) (slot : Slot) :
    (x.callsOn slot).Perm
      (if (d.provider? slot).isSome then
        x.raised.filter fun a => a.value.severity.slot = slot
      else []) := by
  rw [callsOn, raised, ← Dispatcher.calls_on]
  exact ((h.calls_perm_of_settled settled).filter _).map _

theorem Run.delivery (h : Run d m ops x) : DeliverySpec d x where
  at_most_once := (List.sublist_append_left _ _).subperm.trans h.calls_perm.subperm
  ends := (wellFounded_step d).apply x
  progress := exists_step d
  low := by
    intro settled
    simpa only [Severity.slot_eq_low_iff, Dispatcher.provider?] using h.callsOn_perm settled .low
  high := by
    intro settled
    simpa only [Severity.slot_eq_high_iff, Dispatcher.provider?] using h.callsOn_perm settled .high
  logged := h.log_perm_of_settled

/-- Two courses of a monitor that differ in what is in the slots. -/
structure FeedbackSpec (d d' : Dispatcher) (x x' : Station) : Prop where
  /-- Every operation has come to the same in both: the monitor after it and the answer. -/
  past_eq : x'.past = x.past
  monitor_eq : x'.monitor = x.monitor
  delivered : DeliverySpec d x
  delivered' : DeliverySpec d' x'
  /-- Success and failure of the providers make no difference to the calls. -/
  turned : (∀ slot, (d'.provider? slot).isSome = (d.provider? slot).isSome) →
    x.Settled → x'.Settled → x'.calls.Perm x.calls
  /-- Without the provider in a slot the calls of this slot are missing, and no others. -/
  emptied : ∀ slot, d'.provider? slot = none →
    (∀ other ≠ slot, (d'.provider? other).isSome = (d.provider? other).isSome) →
      x.Settled → x'.Settled → x'.calls.Perm (x.calls.filter fun c => c.value.slot ≠ slot)

/-- The delivery of alerts has no effect on the monitor. -/
theorem no_feedback (h : Run d m ops x) (h' : Run d' m ops x') : FeedbackSpec d d' x x' := by
  have hpast : x'.past = x.past := h'.past_eq.trans h.past_eq.symm
  have hevents : x'.events = x.events := by rw [events, events, hpast]
  refine ⟨hpast, h'.monitor_eq.trans h.monitor_eq.symm, h.delivery, h'.delivery, ?_, ?_⟩
  · intro same settled settled'
    have hcalls := h'.calls_perm_of_settled settled'
    rw [hevents, Dispatcher.calls_congr same] at hcalls
    exact hcalls.trans (h.calls_perm_of_settled settled).symm
  · intro slot empty others settled settled'
    have hcalls := h'.calls_perm_of_settled settled'
    rw [hevents, Dispatcher.calls_of_emptied empty others] at hcalls
    exact hcalls.trans ((h.calls_perm_of_settled settled).filter _).symm

theorem Run.length_calls (h : Run d m ops x) (settled : x.Settled) :
    x.calls.length =
      (d.calls ((m.outcomes ops).reverse.flatMap Monitor.Outcome.events)).length := by
  rw [← h.past_eq]
  exact (h.calls_perm_of_settled settled).length_eq

/-- A machine reports a failure and then falls silent. With providers that fail in both slots there
are three calls, and with one that succeeds in the low slot there are two. -/
theorem no_feedback_of_silent_machine :
    let m := Monitor.start ⟨⟨1000⟩, ⟨1, 1, 1⟩, none, 0⟩ false
    let ops : List Monitor.Operation :=
      [.advance 3000, .submit [.report "web" (.ofList [("nginx", "fail")])]]
    let failing : Provider := ⟨"webhook", fun _ => ⟨[], some "connection refused"⟩⟩
    let succeeding : Provider := ⟨"webhook", fun _ => ⟨[], none⟩⟩
    let d : Dispatcher := ⟨some failing, some failing⟩
    let d' : Dispatcher := ⟨some succeeding, none⟩
    ∃ x x', (Run d m ops x ∧ x.Settled) ∧ (Run d' m ops x' ∧ x'.Settled) ∧
      FeedbackSpec d d' x x' ∧ x.calls.length = 3 ∧ x'.calls.length = 2 := by
  intro m ops failing succeeding d d'
  obtain ⟨x, h, settled⟩ := exists_settled_run d m ops
  obtain ⟨x', h', settled'⟩ := exists_settled_run d' m ops
  refine ⟨x, x', ⟨h, settled⟩, ⟨h', settled'⟩, no_feedback h h', ?_, ?_⟩
  · rw [h.length_calls settled]
    decide +kernel
  · rw [h'.length_calls settled']
    decide +kernel

end Station

end Vigil
