import ModuleHost.Proofs.Instance.Account

/-!
# The life of an instance

`System.life` is the sequence of entry points called on behalf of an opening, from its probe to the
end of the instance that it made. `Opening.Life` lists the lives that there are, by what the module
answered; `whole_life` says that every opening of every run has one of them.
-/
namespace ModuleHost

open Boundary

/-- The lives of an opening that has come to a result: the answers of the module, the result, and
the entry points called so far. `ended` tells which instances have been shut down. -/
inductive Opening.Life (o : Opening) (ended : Nat → Prop) :
    List (EntryPoint × Int) → Except HostError Nat → List EntryPoint → Prop
  /-- Refused for its version: nothing after the probe. -/
  | refused (v : Option Int) : v.isSome = o.exports.abiVersion → o.Foreign v →
      Life o ended (probed v) (.error (o.foreignError v)) o.exports.probes
  /-- `OnLoad` failed: no request, and the end follows at once. -/
  | failed (v : Option Int) (code : Int) : v.isSome = o.exports.abiVersion → ¬ o.Foreign v →
      o.exports.onLoad = true → code ≠ loadOk →
      Life o ended (probed v ++ [(.onLoad, code)]) (.error (.initFailed o.name code))
        (o.exports.probes ++ [.onLoad] ++ o.exports.unloads)
  /-- Any number of requests, and the end where the instance is shut down. -/
  | lived (v : Option Int) (n : Nat) (calls ending : List EntryPoint) :
      v.isSome = o.exports.abiVersion → ¬ o.Foreign v → (∀ e ∈ calls, e.IsRequest) →
      ending = o.exports.unloads ∨ ¬ ended n ∧ ending = [] →
      Life o ended (probed v ++ o.welcome) (.ok n)
        (o.exports.probes ++ o.exports.loads ++ calls ++ ending)

namespace System

/-- Whether thread `t` has done something for instance `n`. -/
def actedFor (s : System) (t n : Nat) : Bool :=
  s.history.any fun x => x.thread == t && x.on == some n

/-- The entry points called on behalf of the opening of thread `t`, in order: by that thread, and by
whomever for the instance that it made. -/
def life (s : System) (t : Nat) : List EntryPoint :=
  entries (s.log fun u _ on => u == t || on.any (s.actedFor t))

/-- Whether a shutdown or a drop of instance `n` has come to its end. -/
def Over (s : System) (n : Nat) : Prop :=
  ∃ (u : Nat) (r : ShutdownOutcome), s.threads[u]? = some (.shutting n (.done r)) ∨
    s.threads[u]? = some (.dropping n (.done r))

variable {s : System} {t n : Nat} {o : Opening} {st : OpenStage} {made : Option Nat}

theorem actedFor_iff : s.actedFor t n = true ↔ ∃ x ∈ s.history, x.thread = t ∧ x.on = some n := by
  simp [actedFor]

theorem life_unmade (h : Opening.Account s t o st none) : s.life t = entries (s.earlyLog t) := by
  refine congrArg entries (log_congr fun x hx => ?_)
  by_cases hxt : x.thread = t
  · simp [hxt, (h.own x hx hxt).elim id id]
  · have idle : x.on.any (s.actedFor t) = false := by
      rw [Option.any_eq_false]
      intro n hn
      rw [Bool.eq_false_iff, ne_eq, actedFor_iff]
      rintro ⟨y, hy, hyt, hon⟩
      rcases h.own y hy hyt with h | h <;> rw [hon] at h <;> cases h
    rw [beq_eq_false_iff_ne.mpr hxt, idle]
    rfl

theorem life_made (h : Opening.Account s t o st (some n))
    (acted : s.actedFor t n = true ∨ ∀ x ∈ s.history, x.on = some n → x.thread = t) :
    s.life t = entries (s.earlyLog t) ++ entries (s.instanceLog n) := by
  rw [← entries_append, ← h.order n rfl]
  refine congrArg entries (log_congr fun x hx => ?_)
  by_cases hxt : x.thread = t
  · simp [hxt]
  · rw [beq_eq_false_iff_ne.mpr hxt, Bool.false_or, Bool.false_or, Bool.eq_iff_iff, beq_iff_eq,
      Option.any_eq_true]
    constructor
    · rintro ⟨n', hn', hacted⟩
      obtain ⟨y, hy, hyt, hon⟩ := actedFor_iff.mp hacted
      rcases h.own y hy hyt with h | h
      · cases hon.symm.trans h
      · exact hn'.trans (hon.symm.trans h)
    · intro hon
      rcases acted with acted | alone
      · exact ⟨n, hon, acted⟩
      · exact absurd (alone x hx hon) hxt

/-- Whoever has shut an instance down has seen its end. -/
theorem Over.unloaded (h : s.Over n) (orderly : s.Orderly) {i : Instance}
    (hi : s.instances[n]? = some i) : i.gate.state = .unloaded := by
  refine (orderly.books n i hi).ended ?_
  obtain ⟨u, r, hu | hu⟩ := h
  · have pos := standings_pos hu n
    rwa [Task.standingTo_self rfl] at pos
  · have pos := standings_pos hu n
    rwa [Task.standingTo_self rfl] at pos

/-- **One life each.** In every run, whatever the other threads do, the entry points called on behalf
of an opening are those of one of the lives, by what the module answered and the opening came to. -/
theorem whole_life {r : Except HostError Nat} (hr : Run s)
    (ht : s.threads[t]? = some (.opening o (.done r))) :
    o.Life s.Over (answers (s.threadLog t)) r (s.life t) := by
  obtain ⟨made, account⟩ := hr.accounts.openings t o (.done r) ht
  have orderly := hr.orderly
  have course := account.course
  generalize hword : entries (s.earlyLog t) = word at course
  generalize answers (s.threadLog t) = got at course ⊢
  cases course with
  | refused v hv foreign =>
    rw [life_unmade account, hword]
    exact .refused v hv foreign
  | made _ n v later hv foreign hl =>
    obtain ⟨i, hi, exports, -⟩ := account.here n rfl
    have books := orderly.books n i hi
    cases hl with
    | failed code hx hne =>
      obtain ⟨alone, -⟩ := account.alone (by simp) n rfl
      obtain ⟨i₁, hi₁, unloaded⟩ := account.finished n _ rfl rfl
      obtain rfl := Option.some.inj (hi.symm.trans hi₁)
      have none : standings s.threads n .starting = 0 := by
        refine Nat.eq_zero_of_not_pos fun pos => ?_
        cases (books.starting pos).2.1.symm.trans unloaded
      obtain ⟨calls, requests, word_eq⟩ := books.word none
      -- The opener was alone with the instance, and an opener makes no requests.
      have nothing : calls = [] := by
        refine List.eq_nil_iff_forall_not_mem.mpr fun e he => ?_
        have mem : e ∈ entries (s.instanceLog n) := by
          rw [word_eq]
          simp [he]
        obtain ⟨x, hx, hon, hxe⟩ := mem_log.mp (mem_entries.mp mem)
        have hon : x.on = some n := by simpa using hon
        exact account.polite x hx (alone x hx hon) e hxe (requests e he)
      have word_eq : entries (s.instanceLog n) = [.onLoad] ++ o.exports.unloads := by
        rw [word_eq, nothing, if_pos (.inr unloaded), exports]
        simp [Exports.loads, hx]
      rw [life_made account (.inr alone), hword, word_eq, ← List.append_assoc]
      exact .failed v code hv foreign hx hne
    | handedOut =>
      have acted : s.actedFor t n = true := actedFor_iff.mpr (account.seen n rfl)
      have none : standings s.threads n .starting = 0 := by
        refine Nat.eq_zero_of_not_pos fun pos => ?_
        obtain ⟨u, k, hu, hσ⟩ := exists_of_standings_pos pos
        exact (orderly.owned.not_makes (List.mem_of_getElem? ht)).2 k (List.mem_of_getElem? hu)
          (Task.makes_of_starting hσ)
      obtain ⟨calls, requests, word_eq⟩ := books.word none
      rw [life_made account (.inl acted), hword, word_eq, exports, ← List.append_assoc,
        ← List.append_assoc]
      refine .lived v n calls _ hv foreign requests ?_
      split
      · exact .inl rfl
      · rename_i open₀
        exact .inr ⟨fun ended => open₀ (.inr (ended.unloaded orderly hi)), rfl⟩

/-- After the call of thread 1 and the shutdown of thread 2, thread 3 drops the instance. -/
def sampleEnded : System :=
  ((sampleBusy.spawn (.dropping 0 .arriving)).steps
    (List.replicate 7 1 ++ List.replicate 12 2 ++ [3])).getD {}

theorem run_sampleEnded : Run sampleEnded := by
  have begun : Run (sampleBusy.spawn (.dropping 0 .arriving)) :=
    run_sampleBusy.move (.begin _ (.dropping 0 .arriving) rfl
      fun n hn => by cases hn; exact (handedOut_sample.spawn _).spawn _)
  exact begun.later (later_of_steps (List.replicate 7 1 ++ List.replicate 12 2 ++ [3]) rfl)

theorem whole_life_sample : Run sampleEnded ∧ sampleEnded.Over 0 ∧
    sampleOpening.Life sampleEnded.Over (answers (sampleEnded.threadLog 0)) (.ok 0)
      (sampleEnded.life 0) ∧
    answers (sampleEnded.threadLog 0) = [(.moduleAbiVersion, 1), (.onLoad, 0)] ∧
    sampleEnded.life 0 = [.moduleAbiVersion, .onLoad, .handleRequest, .onUnload] := by
  have opened : sampleEnded.threads[0]? = some (.opening sampleOpening (.done (.ok 0))) := rfl
  have ended : sampleEnded.Over 0 := ⟨3, .alreadyShutDown, .inr rfl⟩
  exact ⟨run_sampleEnded, ended, whole_life run_sampleEnded opened, by decide +kernel,
    by decide +kernel⟩

end System

end ModuleHost
