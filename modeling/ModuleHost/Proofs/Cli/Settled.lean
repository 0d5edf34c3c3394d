import Mathlib.Data.List.TakeWhile
import ModuleHost.Proofs.Cli.Requests

/-!
# What is loaded is unloaded

However a command comes to its end (`Order.call_settles`):

* Where its module was loaded, all calls have been attempted, whatever they came to; when the last
  worker had stopped no call was left and `OnUnload` had not been called, and now the instance has
  ended, `OnUnload` having been called once if it is exported. Nobody can undo this, nor end the
  instance once more, whatever is still done with it.
* Where its module was not loaded, no call was made; so it is with every command that fails, unless it
  fails for lack of the entry point for proxied requests.
* A header without a colon ends a command before anything is opened.
* No command goes on for ever, and none stops on its way unless module code has broken off.
-/
namespace ModuleHost

open Boundary

namespace System

variable {s s' : System} {n : Nat}

theorem Run.not_unloading {i : Instance} (hr : Run s) (hi : s.instances[n]? = some i)
    (live : i.gate.state = .live) : (entries (s.instanceLog n)).count .onUnload = 0 := by
  have books := hr.orderly.books n i hi
  have closer := books.closer
  rw [if_neg (by rw [live]; decide)] at closer
  rw [books.count_onUnload]
  simp [live, (Nat.add_eq_zero_iff.mp closer).2]

theorem Later.endedOnce (hr : Run s) (h : Later s s') (down : s.stateOf n = some .unloaded) :
    s'.EndedOnce n := by
  have key : s'.stateOf n = some .unloaded :=
    h.induction (P := fun s => s.stateOf n = some .unloaded) down
      fun s₁ s₂ later gone hm => hm.unloaded (hr.later later) gone
  exact (hr.later h).endedOnce key

end System

theorem Call.answer_eq_error {i : Instance} {proxy : Bool} {e : HostError}
    (h : answer i proxy = .error e) : e = .entryPointMissing i.name .handleProxyRequest := by
  unfold answer at h
  split at h <;> cases h
  rfl

namespace Cli

/-! ## Headers -/

theorem splitHeader?_eq_none {text : String} : splitHeader? text = none ↔ ':' ∉ text.toList := by
  have colon : text.toList.dropWhile (· != ':') = [] ↔ ':' ∉ text.toList := by
    rw [List.dropWhile_eq_nil_iff]
    exact ⟨fun all mem => absurd rfl (bne_iff_ne.mp (all ':' mem)),
      fun none c hc => bne_iff_ne.mpr fun same => none (same ▸ hc)⟩
  rw [← colon]
  unfold splitHeader?
  split
  · rename_i all
    simp [all]
  · rename_i more
    simp [more]

theorem addHeaders_of_find {h : String} (headers : List String) :
    ∀ r, headers.find? (fun g => ':' ∉ g.toList) = some h →
      addHeaders r headers = .error (.badHeader h) := by
  induction headers with
  | nil => exact fun r found => nomatch found
  | cons g headers ih =>
    intro r found
    unfold addHeaders
    by_cases bad : ':' ∈ g.toList
    · rw [List.find?_cons_of_neg (by simpa using bad)] at found
      split
      · rename_i none
        exact absurd bad (splitHeader?_eq_none.mp none)
      · exact ih _ found
    · rw [List.find?_cons_of_pos (by simpa using bad)] at found
      rw [splitHeader?_eq_none.mpr bad, Option.some.inj found]

namespace Order

variable (o : Order)

/-- A command that has ended without its module. -/
structure Unloaded (trace : Trace) (f : Finished) : Prop where
  idle : trace = []
  told : ∃ e, f.result = .error e
  unasked : f.system.Unasked
  uncalled : ∀ c, Task.calling c ∉ f.system.threads

/-- How a command comes from the moment when the workers of pool `p` have stopped to its end. -/
structure Closes (f : Finished) (p : Pool) : Prop where
  halted : p.Over
  /-- All calls have returned, -/
  returned : ∀ c, Task.calling c ∈ p.system.threads → ∃ r, c.stage = .done r
  /-- and only then `OnUnload` is called: -/
  waits : (entries (p.system.instanceLog p.on)).count .onUnload = 0
  later : System.Later p.system f.system
  /-- a shutdown begins and comes to its end, -/
  shuts : ∃ r, f.system.threads = p.system.threads ++ [.shutting p.on (.done r)]
  /-- and nobody makes a call meanwhile. -/
  quiet : f.system.requests p.on = p.system.requests p.on
  result : f.result = o.result p

/-- A command that has ended with instance `n` loaded. -/
structure Settled (trace : Trace) (f : Finished) (n : Nat) : Prop where
  begun : trace.begun = o.requests
  received : trace.outcomes.length = o.requests
  only : f.system.instances.length = 1
  closes : ∃ l p, o.Course o.start trace (.sending l p) ∧ p.on = n ∧ o.Closes f p
  /-- Whatever still becomes of the instance, it has ended, once. -/
  once : ∀ s, System.Later f.system s → s.EndedOnce n

/-- How a command comes to its end, by every schedule. -/
structure Settles : Prop where
  loaded : ∀ trace f n, o.Course o.start trace (.ended f) → f.system.HandedOut n →
    o.Settled trace f n
  unloaded : ∀ trace f, o.Course o.start trace (.ended f) → (∀ n, ¬ f.system.HandedOut n) →
    Unloaded trace f
  /-- Only the lack of an entry point for proxied requests is found out later. -/
  fails : ∀ trace f e, o.Course o.start trace (.ended f) → f.result = .error e →
    (∀ name, e ≠ .host (.entryPointMissing name .handleProxyRequest)) → Unloaded trace f
  /-- Of the headers without a colon the first is told, with nothing opened. -/
  header : ∀ h, o.given.headers.find? (fun g => ':' ∉ g.toList) = some h →
    o.start = .ended ⟨{}, .error (.badHeader h)⟩
  finite : ∀ trace (σ : Nat → Stage), o.Course o.start trace (σ 0) →
    ¬ ∀ j, ∃ act, o.Step (σ j) act (σ (j + 1))
  advances : ∀ trace b, o.Course o.start trace b → b.system.Whole → (∀ f, b ≠ .ended f) →
    ∃ act c, o.Step b act c

end Order

/-- When all workers have stopped, all calls have returned. -/
theorem Pool.Over.returned {p : Pool} (halted : p.Over) (m : p.Manned) {c : Call}
    (hc : Task.calling c ∈ p.system.threads) : ∃ r, c.stage = .done r := by
  obtain ⟨t, ht⟩ := List.mem_iff_getElem?.mp hc
  rcases m.others t _ ht with ⟨o, r, opening⟩ | ⟨w, worker, hw, hthread⟩
  · cases opening
  · obtain ⟨c', serves⟩ := m.own w worker t hw hthread
    cases ht.symm.trans serves.here
    exact serves.done (by rw [halted worker (List.mem_of_getElem? hw)]; decide)

namespace Order

variable {o : Order} {trace : Trace} {f : Finished} {p : Pool} {n : Nat}

theorem Failed.unloaded (h : o.Failed trace f) : Unloaded trace f := by
  cases h with
  | early e =>
    exact ⟨rfl, ⟨e, rfl⟩, fun _ hx => absurd hx List.not_mem_nil,
      fun _ hc => absurd hc List.not_mem_nil⟩
  | opening s todo e sole =>
    refine ⟨rfl, ⟨_, rfl⟩, sole.unasked, fun c hc => ?_⟩
    rw [sole.threads] at hc
    cases List.mem_singleton.mp hc

theorem Failed.not_handedOut (h : o.Failed trace f) : ¬ f.system.HandedOut n := by
  rintro ⟨opening, made⟩
  cases h with
  | early => cases made
  | opening s todo e sole =>
    rw [sole.threads] at made
    cases List.mem_singleton.mp made

theorem Sent.settled (h : o.Sent trace p [] none f.system) (told : f.result = o.result p) :
    o.Settled trace f p.on := by
  obtain ⟨l, i, course, sending⟩ := h.sending
  have manned := sending.manned
  cases h.shuts with
  | after s r later threads many quiet =>
    have run : System.Run f.system := manned.run.later later
    have only : f.system.instances.length = 1 := many.trans sending.sole
    have here : p.on < f.system.instances.length := by
      rw [many]
      exact (List.getElem?_eq_some_iff.mp sending.gated.found).1
    have ended : f.system.Over p.on :=
      ⟨p.system.threads.length, r, .inl (System.thread_of_concat threads)⟩
    have down : f.system.stateOf p.on = some .unloaded := by
      have found := List.getElem?_eq_getElem here
      rw [System.stateOf, found, Option.map_some, ended.unloaded run.orderly found]
    exact
      { begun := sending.begun_of_over h.halted
        received := sending.received_of_over h.halted
        only := only
        closes := ⟨l, p, course, rfl,
          { halted := h.halted
            returned := fun c hc => h.halted.returned manned hc
            waits := manned.run.not_unloading sending.gated.found sending.gated.live
            later := later
            shuts := ⟨r, threads⟩
            quiet := quiet
            result := told }⟩
        once := fun s further => further.endedOnce run down }

theorem Sent.on_eq (h : o.Sent trace p [] none f.system) (out : f.system.HandedOut n) : n = p.on := by
  obtain ⟨l, i, -, sending⟩ := h.sending
  have there := (List.getElem?_eq_some_iff.mp sending.gated.found).1
  have sole := sending.sole
  cases h.shuts with
  | after s r later threads many quiet =>
    obtain ⟨opening, made⟩ := out
    have here := ((sending.manned.run.later later).orderly.owned.not_makes made).1
    omega

/-- **However a command comes to its end, what it has loaded is unloaded once.** -/
theorem call_settles (o : Order) (pristine : o.Pristine) : o.Settles where
  loaded := by
    intro trace f n course out
    rcases course.stage_cases pristine with failed | ⟨p, sent, told⟩
    · exact absurd out failed.not_handedOut
    · obtain rfl := sent.on_eq out
      exact sent.settled told
  unloaded := by
    intro trace f course none
    rcases course.stage_cases pristine with failed | ⟨p, sent, told⟩
    · exact failed.unloaded
    · obtain ⟨l, i, -, sending⟩ := sent.sending
      cases sent.shuts with
      | after s r later =>
        exact absurd (later.induction (P := fun s => s.HandedOut p.on) sending.manned.handed
          fun _ _ _ out hm => hm.handedOut out) (none p.on)
  fails := by
    intro trace f e course failure other
    rcases course.stage_cases pristine with failed | ⟨p, sent, told⟩
    · exact failed.unloaded
    · obtain ⟨l, i, -, sending⟩ := sent.sending
      have dispatched := sending.dispatched sent.halted
      cases answer : Call.answer i o.given.proxy with
      | ok =>
        obtain ⟨-, -, r, result, -⟩ := dispatched.reached answer
        cases (told.trans result).symm.trans failure
      | error e' =>
        cases (told.trans (dispatched.missed e' answer).2.2).symm.trans failure
        exact absurd (congrArg Failure.host (Call.answer_eq_error answer)) (other i.name)
  header := by
    intro h first
    have request : buildRequest o.given = .error (.badHeader h) := by
      rw [buildRequest, addHeaders_of_find _ _ first]
      rfl
    rw [start, request]
    rfl
  finite := fun trace σ first => no_endless_schedule pristine σ first
  advances := fun trace b course whole going => course.advances pristine whole going

/-- At work: the module of the three requests has been unloaded once, for good. -/
theorem call_settles_sample : sample.Pristine ∧ sampleEnd.system.EndedOnce 0 := by
  have settles := call_settles sample pristine_sample
  obtain ⟨trace, course⟩ := sample.execute_course lasts_sample
  have out : sampleEnd.system.HandedOut 0 := ⟨_, List.mem_cons_self⟩
  exact ⟨pristine_sample, (settles.loaded trace sampleEnd 0 course out).once _ (.refl _)⟩

end Order

end Cli

end ModuleHost
