import ModuleHost.Proofs.Instance.Course

/-!
# The account of an opening

`Opening.Account` says what holds of the thread that opens an instance, whatever the other threads
do: its course, that it makes no requests, that nobody else deals with the instance before it is
handed out, and that what it did without an instance came before all that was done for the instance.
`Run.account` gives every opening of a run its account.
-/
namespace ModuleHost

open Boundary

namespace System

/-- What thread `t` did before it had an instance. -/
def earlyLog (s : System) (t : Nat) : List Event := s.log fun u _ on => u == t && on.isNone

/-- What thread `t` did and what was done for instance `n`. -/
def sharedLog (s : System) (t n : Nat) : List Event := s.log fun u _ on => u == t || on == some n

section
variable (s : System) (t module : Nat) (k : Task) (m : Module) (instances : List Instance)
  (events : List Event)

theorem earlyLog_turn (u : Nat) (on : Option Nat) :
    (s.turn t module on k m instances events).earlyLog u =
      s.earlyLog u ++ if t = u ∧ on = none then events else [] := by
  simp [earlyLog, log_turn]

theorem sharedLog_turn (u n : Nat) (on : Option Nat) :
    (s.turn t module on k m instances events).sharedLog u n =
      s.sharedLog u n ++ if t = u ∨ on = some n then events else [] := by
  simp [sharedLog, log_turn]

end

end System

structure Opening.Account (s : System) (t : Nat) (o : Opening) (st : OpenStage)
    (made : Option Nat) : Prop where
  course : o.Course st made (entries (s.earlyLog t)) (answers (s.threadLog t))
  here : ∀ n, made = some n →
    ∃ i, s.instances[n]? = some i ∧ i.exports = o.exports ∧ i.name = o.name
  own : ∀ x ∈ s.history, x.thread = t → x.on = none ∨ x.on = made
  polite : ∀ x ∈ s.history, x.thread = t → ∀ e, x.event = .entered e → ¬ e.IsRequest
  alone : (∀ n, st ≠ .done (.ok n)) → ∀ n, made = some n →
    (∀ x ∈ s.history, x.on = some n → x.thread = t) ∧
    ∀ (u : Nat) (k : Task), s.threads[u]? = some k → k.Mentions n → u = t
  order : ∀ n, made = some n → s.sharedLog t n = s.earlyLog t ++ s.instanceLog n
  finished : ∀ n e, made = some n → st = .done (.error e) →
    ∃ i, s.instances[n]? = some i ∧ i.gate.state = .unloaded
  seen : ∀ n, st = .done (.ok n) → ∃ x ∈ s.history, x.thread = t ∧ x.on = some n

namespace Opening.Account

variable {s s' : System} {t : Nat} {o : Opening} {st : OpenStage} {made : Option Nat}

theorem other {u : Nat} (h : Account s t o st made)
    (hs : s.Turn u s') (hne : u ≠ t) : Account s' t o st made := by
  have stays : ∀ (n : Nat) (i : Instance), s.instances[n]? = some i →
      ∃ i', s'.instances[n]? = some i' ∧ i.SameMake i' ∧
        (i.gate.state = .unloaded → i'.gate.state = .unloaded) := by
    intro n i hi
    obtain ⟨k, k', i', marks, view⟩ := hs.view hi
    exact ⟨i', view.found, view.make, view.gate.unloaded⟩
  obtain ⟨k, k', module, m', instances, events, rfl, shape⟩ := hs.shape
  refine
    { course := ?course
      here := fun n hn => ?here
      own := fun x hx hxt => ?own
      polite := fun x hx hxt => ?polite
      alone := fun hst n hn => ?alone
      order := fun n hn => ?order
      finished := fun n e hn hst => ?finished
      seen := fun n hst => ?seen }
  case course =>
    simpa [System.earlyLog_turn, System.threadLog_turn, hne] using h.course
  case here =>
    obtain ⟨i, hi, exports, name⟩ := h.here n hn
    obtain ⟨i', hi', make, -⟩ := stays n i hi
    exact ⟨i', hi', make.exports.trans exports, make.name.trans name⟩
  case own =>
    rcases System.mem_turn_history.mp hx with ⟨e, -, rfl⟩ | hx
    · exact absurd hxt hne
    · exact h.own x hx hxt
  case polite =>
    rcases System.mem_turn_history.mp hx with ⟨e, -, rfl⟩ | hx
    · exact absurd hxt hne
    · exact h.polite x hx hxt
  case alone =>
    obtain ⟨alone, unmentioned⟩ := h.alone hst n hn
    obtain ⟨i, hi, -⟩ := h.here n hn
    have old : n < s.instances.length := (List.getElem?_eq_some_iff.mp hi).1
    refine ⟨fun x hx hon => ?_, fun v k₁ hv hm => ?_⟩
    · rcases System.mem_turn_history.mp hx with ⟨e, -, rfl⟩ | hx
      · exact unmentioned u k shape.before (.inl hon)
      · exact alone x hx hon
    · rcases of_getElem?_set hv with ⟨rfl, rfl⟩ | ⟨-, hv⟩
      · rcases shape.mentions n hm with hm | hn
        · exact unmentioned v k shape.before hm
        · omega
      · exact unmentioned v k₁ hv hm
  case order =>
    rw [System.sharedLog_turn, System.earlyLog_turn, System.instanceLog_turn, h.order n hn]
    simp [hne]
  case finished =>
    obtain ⟨i, hi, unloaded⟩ := h.finished n e hn hst
    obtain ⟨i', hi', -, stays⟩ := stays n i hi
    exact ⟨i', hi', stays unloaded⟩
  case seen =>
    obtain ⟨x, hx, hxt, hon⟩ := h.seen n hst
    exact ⟨x, System.mem_turn_history.mpr (.inr hx), hxt, hon⟩

theorem begin (quiet : ∀ x ∈ s.history, x.thread ≠ t) : Account s t o .arriving none := by
  have early : s.earlyLog t = [] := System.log_eq_nil fun x hx => by simp [quiet x hx]
  have thread : s.threadLog t = [] := System.log_eq_nil fun x hx => by simp [quiet x hx]
  refine ⟨?_, by simp, fun x hx hxt => absurd hxt (quiet x hx),
    fun x hx hxt => absurd hxt (quiet x hx), by simp, by simp, by simp, by simp⟩
  rw [early, thread]
  exact .arriving

/-- Neither history nor instances have changed, and no other task has come to mention the
instance. -/
theorem still (h : Account s t o st made) (history : s'.history = s.history)
    (instances : s'.instances = s.instances)
    (unmentioned : (∀ n, st ≠ .done (.ok n)) → ∀ n, made = some n →
      ∀ (u : Nat) (k : Task), s'.threads[u]? = some k → k.Mentions n → u = t) :
    Account s' t o st made := by
  have log : ∀ q, s'.log q = s.log q := fun q => by rw [System.log, history]; rfl
  refine ⟨?_, ?_, ?_, ?_, fun hst n hn => ⟨?_, unmentioned hst n hn⟩, fun n hn => ?_, ?_, ?_⟩
  · rw [System.earlyLog, System.threadLog, log, log]
    exact h.course
  · rw [instances]
    exact h.here
  · rw [history]
    exact h.own
  · rw [history]
    exact h.polite
  · rw [history]
    exact (h.alone hst n hn).1
  · rw [System.sharedLog, System.earlyLog, System.instanceLog, log, log, log]
    exact h.order n hn
  · rw [instances]
    exact h.finished
  · rw [history]
    exact h.seen

theorem not_handedOut (h : Account s t o st made) (ht : s.threads[t]? = some (.opening o st))
    (hst : ∀ n, st ≠ .done (.ok n)) {n : Nat} (hn : made = some n) : ¬ s.HandedOut n := by
  rintro ⟨o', ho⟩
  obtain ⟨u, hu⟩ := List.mem_iff_getElem?.mp ho
  obtain rfl := (h.alone hst n hn).2 u _ hu (.inr ⟨o', rfl⟩)
  cases hu.symm.trans ht
  exact hst n rfl

theorem early {st' : OpenStage} {m m' : Module} {i : Option Instance} {events : List Event}
    (h : Account s t o st made) (orderly : s.Orderly)
    (hs : o.Early s.instances.length m st st' i m' events) :
    Account (s.turn t o.module none (.opening o st') m' (s.instances ++ i.toList) events) t o st'
      (i.map fun _ => s.instances.length) := by
  obtain ⟨rfl, course⟩ := h.course.early hs
  have none_of_mem : ∀ x ∈ s.history, x.thread = t → x.on = none := fun x hx hxt =>
    (h.own x hx hxt).elim id id
  have fresh : ∀ n, (i.map fun _ => s.instances.length) = some n →
      n = s.instances.length ∧ i = some o.toInstance ∧ events = [] := by
    intro n hn
    cases hs <;> cases hn <;> exact ⟨rfl, rfl, rfl⟩
  refine
    { course := ?course
      here := fun n hn => ?here
      own := fun x hx hxt => ?own
      polite := fun x hx hxt => ?polite
      alone := fun hst n hn => ?alone
      order := fun n hn => ?order
      finished := fun n e hn hst => ?finished
      seen := fun n hst => ?seen }
  case course =>
    simpa [System.earlyLog_turn, System.threadLog_turn, entries_append, answers_append] using course
  case here =>
    obtain ⟨rfl, rfl, -⟩ := fresh n hn
    exact ⟨o.toInstance, by simp, rfl, rfl⟩
  case own =>
    rcases System.mem_turn_history.mp hx with ⟨e, -, rfl⟩ | hx
    · exact .inl rfl
    · exact .inl (none_of_mem x hx hxt)
  case polite =>
    rcases System.mem_turn_history.mp hx with ⟨e, he, rfl⟩ | hx
    · rintro e rfl
      exact hs.polite he
    · exact h.polite x hx hxt
  case alone =>
    obtain ⟨rfl, -, -⟩ := fresh n hn
    refine ⟨fun x hx hon => ?_, fun v k₁ hv hm => ?_⟩
    · rcases System.mem_turn_history.mp hx with ⟨e, -, rfl⟩ | hx
      · rfl
      · exact absurd (orderly.told x hx _ hon) (Nat.lt_irrefl _)
    · rcases of_getElem?_set hv with ⟨rfl, -⟩ | ⟨-, hv⟩
      · rfl
      · exact absurd (orderly.owned.known v k₁ _ hv hm) (Nat.lt_irrefl _)
  case order =>
    obtain ⟨rfl, -, rfl⟩ := fresh n hn
    rw [System.sharedLog_turn, System.earlyLog_turn, System.instanceLog_turn,
      orderly.instanceLog_fresh]
    have same : s.sharedLog t s.instances.length = s.earlyLog t := by
      refine System.log_congr fun x hx => ?_
      by_cases hxt : x.thread = t
      · simp [hxt, none_of_mem x hx hxt]
      · have new : x.on ≠ some s.instances.length := fun hon =>
          absurd (orderly.told x hx _ hon) (Nat.lt_irrefl _)
        rw [beq_eq_false_iff_ne.mpr hxt, beq_eq_false_iff_ne.mpr new]
        rfl
    simp [same]
  case finished =>
    obtain ⟨-, rfl, -⟩ := fresh n hn
    cases hs <;> cases hst
  case seen =>
    cases hs <;> cases hst

theorem late {n : Nat} {st' : OpenStage} {i i' : Instance} {m m' : Module} {events : List Event}
    (h : Account s t o st made) (orderly : s.Orderly) (ht : s.threads[t]? = some (.opening o st))
    (hon : st.on? = some n) (hi : s.instances[n]? = some i)
    (hs : Late i m st st' i' m' events) :
    Account (s.turn t i.module (some n) (.opening o st') m' (s.instances.set n i') events) t o st'
      made := by
  obtain rfl := h.course.mentions (n := n) (.inl hon)
  obtain ⟨i₁, hi₁, exports, name⟩ := h.here n rfl
  obtain rfl := Option.some.inj (hi.symm.trans hi₁)
  have hlt : n < s.instances.length := (List.getElem?_eq_some_iff.mp hi).1
  have busy : ∀ n', st ≠ .done (.ok n') := by
    rintro n' rfl
    cases hon
  obtain ⟨gate, make, -, -⟩ := hs.spec
  refine
    { course := ?course
      here := fun n' hn => ?here
      own := fun x hx hxt => ?own
      polite := fun x hx hxt => ?polite
      alone := fun _ n' hn => ?alone
      order := fun n' hn => ?order
      finished := fun n' e hn hst => ?finished
      seen := fun n' hst => ?seen }
  case course =>
    have course := h.course.late hon hs name
    simpa [System.earlyLog_turn, System.threadLog_turn, answers_append] using course
  case here =>
    cases hn
    exact ⟨i', by simp [hlt], make.exports.trans exports, make.name.trans name⟩
  case own =>
    rcases System.mem_turn_history.mp hx with ⟨e, -, rfl⟩ | hx
    · exact .inr rfl
    · exact h.own x hx hxt
  case polite =>
    rcases System.mem_turn_history.mp hx with ⟨e, he, rfl⟩ | hx
    · rintro e rfl
      exact hs.polite he
    · exact h.polite x hx hxt
  case alone =>
    cases hn
    obtain ⟨alone, unmentioned⟩ := h.alone busy n rfl
    refine ⟨fun x hx hon => ?_, fun v k₁ hv hm => ?_⟩
    · rcases System.mem_turn_history.mp hx with ⟨e, -, rfl⟩ | hx
      · rfl
      · exact alone x hx hon
    · rcases of_getElem?_set hv with ⟨rfl, -⟩ | ⟨-, hv⟩
      · rfl
      · exact unmentioned v k₁ hv hm
  case order =>
    cases hn
    rw [System.sharedLog_turn, System.earlyLog_turn, System.instanceLog_turn, h.order n rfl]
    simp
  case finished =>
    cases hn
    subst hst
    cases hs with
    | dropped n' code r =>
      -- The drop has come to its end, so the opening has seen the end published.
      have pos := standings_pos ht n
      have mine : (Task.opening o (.dropping n' code (.done r))).on? = some n := hon
      rw [Task.standingTo_self mine] at pos
      exact ⟨i, by simp [hlt], (orderly.books n i hi).ended pos⟩
  case seen =>
    subst hst
    cases hs with
    | announce =>
      exact ⟨_, System.mem_turn_history.mpr (.inl ⟨_, List.mem_singleton.mpr rfl, rfl⟩), rfl,
        hon.symm⟩

end Opening.Account

namespace System

/-- Every opening has its account, and only threads that there are have done something. -/
structure Accounts (s : System) : Prop where
  threads : ∀ x ∈ s.history, x.thread < s.threads.length
  openings : ∀ (t : Nat) (o : Opening) (st : OpenStage), s.threads[t]? = some (.opening o st) →
    ∃ made, Opening.Account s t o st made

namespace Accounts

variable {s s' : System}

theorem place (h : s.Accounts) {k : Task} (hk : k.IsNew)
    (hout : ∀ n, k.on? = some n → s.HandedOut n) (history : s'.history = s.history)
    (instances : s'.instances = s.instances)
    (more : s.threads.length ≤ s'.threads.length)
    (place : ∀ (t : Nat) (k' : Task), s'.threads[t]? = some k' →
      s.threads[t]? = some k' ∨ k' = k ∧ ∀ o st, k = .opening o st → s.threads.length ≤ t) :
    s'.Accounts := by
  refine ⟨fun x hx => ?_, fun t o st ht => ?_⟩
  · rw [history] at hx
    exact Nat.lt_of_lt_of_le (h.threads x hx) more
  · rcases place t _ ht with old | ⟨rfl, new⟩
    · obtain ⟨made, account⟩ := h.openings t o st old
      refine ⟨made, account.still history instances fun hst n hn u k' hu hm => ?_⟩
      rcases place u k' hu with hu | ⟨rfl, -⟩
      · exact (account.alone hst n hn).2 u k' hu hm
      · exact absurd (hout n (hk.mentions hm)) (account.not_handedOut old hst hn)
    · obtain rfl : st = .arriving := hk
      refine ⟨none, .begin fun x hx => ?_⟩
      rw [history] at hx
      exact Nat.ne_of_lt (Nat.lt_of_lt_of_le (h.threads x hx) (new o .arriving rfl))

theorem turn (h : s.Accounts) (orderly : s.Orderly) {u : Nat} (hs : s.Turn u s') :
    s'.Accounts := by
  refine ⟨fun x hx => ?_, fun t o st' ht => ?_⟩
  · obtain ⟨k, k', module, m', instances, events, rfl, shape⟩ := hs.shape
    rw [turn_threads, List.length_set]
    rcases mem_turn_history.mp hx with ⟨e, -, rfl⟩ | hx
    · exact (List.getElem?_eq_some_iff.mp shape.before).1
    · exact h.threads x hx
  · by_cases hut : u = t
    · subst hut
      cases hs with
      | early o₁ st st₁ made m m' events hu hon hm hs =>
        rcases of_getElem?_set ht with ⟨-, hk⟩ | ⟨hne, -⟩
        · cases hk
          obtain ⟨made, account⟩ := h.openings u o st hu
          exact ⟨_, account.early orderly (Opening.stepEarly_cases hs)⟩
        · exact absurd rfl hne
      | late k k' n i i' m m' events hu hon hi hm hs =>
        rcases of_getElem?_set ht with ⟨-, rfl⟩ | ⟨hne, -⟩
        · obtain ⟨st, rfl, late⟩ := Task.stepOn_opening hs
          obtain ⟨made, account⟩ := h.openings u o st hu
          exact ⟨made, account.late orderly hu hon hi late⟩
        · exact absurd rfl hne
      | direct k k' module m m' events hu hd hm hs =>
        rcases of_getElem?_set ht with ⟨-, rfl⟩ | ⟨hne, -⟩
        · cases (Task.stepIn_direct hs).trans hd
        · exact absurd rfl hne
    · have old : s.threads[t]? = some (.opening o st') := by
        obtain ⟨k, k', module, m', instances, events, rfl, shape⟩ := hs.shape
        rcases of_getElem?_set ht with ⟨rfl, -⟩ | ⟨-, ht⟩
        · exact absurd rfl hut
        · exact ht
      obtain ⟨made, account⟩ := h.openings t o st' old
      exact ⟨made, account.other hs hut⟩

end Accounts

theorem Run.accounts {s : System} (h : Run s) : s.Accounts := by
  refine h.induction ⟨by simp, by simp⟩ fun s s' hr accounts hm => ?_
  cases hm with
  | install m _ =>
    exact ⟨accounts.threads, fun t o st ht => (accounts.openings t o st ht).imp fun made account =>
      account.still rfl rfl fun hst n hn => (account.alone hst n hn).2⟩
  | begin k hnew hout =>
    refine accounts.place hnew hout rfl rfl (by simp [spawn]) fun t k' ht => ?_
    simp only [spawn] at ht
    rw [List.getElem?_append] at ht
    split at ht
    · exact .inl ht
    · exact .inr ⟨List.mem_singleton.mp (List.mem_of_getElem? ht), fun _ _ _ => by omega⟩
  | again t c d r ht hdone hnew hout =>
    refine accounts.place hnew (fun n hn => by cases hn; exact hout) rfl rfl (by simp [assign])
      fun u k' hu => ?_
    rcases of_getElem?_set hu with ⟨-, rfl⟩ | ⟨-, hu⟩
    · exact .inr ⟨rfl, fun o st ho => by cases ho⟩
    · exact .inl hu
  | step _ t hs => exact accounts.turn hr.orderly (step_cases hs)

end System

end ModuleHost
