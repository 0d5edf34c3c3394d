import ModuleHost.Cli.Run
import ModuleHost.Proofs.Run

/-!
# The course of a command that calls a module

An `Order` is such a command, with its configuration loaded. A `Stage` says where it stands: it opens
the module on a thread of its own, sends the requests with a pool of workers, shuts down what is
registered, one instance after the other, and has ended. `Stage.Step` lists what may happen next. A
`Course` is any number of steps, with what the workers did on the way, in order.

`Cli.call` lets the first worker go on that can, and every thread for a bounded number of steps. Here
any worker may take the next step. What `execute` comes to is the end of one of the courses, as far as
its bounds last (`execute_course`).
-/
namespace ModuleHost.Cli

open Boundary

/-! ## Workers -/

namespace Pool

/-- What a worker does in one step. -/
inductive Act where
  /-- Takes a number and begins a call. -/
  | begin
  /-- Takes a number past the last one, and stops. -/
  | stop
  /-- Delivers what its call has come to. -/
  | deliver (r : Except HostError Unit) (data : CallData)
  /-- Lets its call go on. -/
  | work

variable {p p' : Pool} {w : Nat} {worker : Worker}

/-- The steps of worker `w`. -/
inductive Transition (p : Pool) (w : Nat) : Act → Pool → Prop
  | begin (worker : Worker) :
      p.workers[w]? = some worker → worker.stage = .taking → p.taken < p.total →
      Transition p w .begin ({ p with taken := p.taken + 1 }.beginCall w worker)
  | stop (worker : Worker) :
      p.workers[w]? = some worker → worker.stage = .taking → p.total ≤ p.taken →
      Transition p w .stop
        { p with taken := p.taken + 1,
                 workers := p.workers.set w { worker with stage := .finished } }
  | deliver (worker : Worker) (t : Nat) (r : Except HostError Unit) (proxy : Bool)
      (data : CallData) :
      p.workers[w]? = some worker → worker.stage = .calling → worker.thread = some t →
      p.system.report? t = some (.called r proxy data) →
      Transition p w (.deliver r data)
        { p with delivered := p.delivery r data :: p.delivered,
                 workers := p.workers.set w { worker with stage := .taking } }
  | work (worker : Worker) (t : Nat) (system : System) :
      p.workers[w]? = some worker → worker.stage = .calling → worker.thread = some t →
      (∀ r proxy data, p.system.report? t ≠ some (.called r proxy data)) →
      p.system.step t = some system → Transition p w .work { p with system }

theorem step_cases (h : p.step w = some p') : ∃ act, p.Transition w act p' := by
  simp only [step, bind, Option.bind_eq_some_iff] at h
  obtain ⟨worker, hw, h⟩ := h
  split at h
  · rename_i taking
    split at h
    · rename_i more
      cases h
      exact ⟨_, .begin worker hw taking more⟩
    · rename_i past
      cases h
      exact ⟨_, .stop worker hw taking (Nat.le_of_not_lt past)⟩
  · rename_i calling
    simp only [Option.bind_eq_some_iff] at h
    obtain ⟨t, ht, h⟩ := h
    split at h
    · rename_i r proxy data report
      cases h
      exact ⟨_, .deliver worker t r proxy data hw calling ht report⟩
    · rename_i unreported
      simp only [Option.map_eq_some_iff] at h
      obtain ⟨system, hs, rfl⟩ := h
      exact ⟨_, .work worker t system hw calling ht
        (fun r proxy data report => unreported r proxy data report) hs⟩
  · cases h

theorem Transition.step {act : Act} (h : p.Transition w act p') : p.step w = some p' := by
  cases h with
  | begin worker hw taking more => simp [Pool.step, hw, taking, more]
  | stop worker hw taking past => simp [Pool.step, hw, taking, Nat.not_lt.mpr past]
  | deliver worker t r proxy data hw calling ht report =>
    simp [Pool.step, hw, calling, ht, report]
  | work worker t system hw calling ht unreported hs =>
    simp only [Pool.step, hw, calling, ht, bind, Option.bind_some]
    rw [hs]
    rfl

/-- All workers have stopped. -/
def Over (p : Pool) : Prop := ∀ worker ∈ p.workers, worker.stage = .finished

end Pool

/-! ## Commands -/

/-- A command that calls a module: what is around it, the configuration, and what was given. -/
structure Order where
  around : Surroundings
  config : Config
  given : Given

/-- Where a command stands. -/
inductive Stage where
  /-- Thread `t` opens the module. -/
  | opening (request : Request) (todo : Loader.Load) (s : System) (t : Nat)
  | sending (l : Loader) (p : Pool)
  /-- These registered instances are still to be shut down; thread `t`, if there is one, is about to
  do so with the first. -/
  | unloading (left : List (String × Nat)) (s : System) (t : Option Nat)
      (result : Except Failure Output)
  | ended (f : Finished)

def Stage.system : Stage → System
  | .opening _ _ s _ | .unloading _ s _ _ => s
  | .sending _ p => p.system
  | .ended f => f.system

/-- What the workers have done, in order. -/
abbrev Trace := List (Nat × Pool.Act)

namespace Order

variable (o : Order)

def repetitions : Nat := o.given.repetitions.getD 1

def concurrency : Nat := o.given.concurrency.getD 1

/-- How many requests are to be sent. -/
def requests : Nat := max o.repetitions 1

def loader : Loader := loaderOf o.around o.config

def host : Host := hostOf o.around

/-- The pool that sends the requests through instance `n`. -/
def pool (s : System) (n : Nat) (request : Request) : Pool :=
  Pool.start s n o.given.proxy request o.config.host.defaultStatus o.repetitions o.concurrency

/-- The first stage: what fails before a library is opened is over at once. -/
def start : Stage :=
  match buildRequest o.given with
  | .error e => .ended ⟨o.host.system, .error e⟩
  | .ok request =>
    match moduleName? o.given o.config with
    | .error e => .ended ⟨o.host.system, .error e⟩
    | .ok name =>
      match o.loader.begin o.host name with
      | .error e => .ended ⟨o.host.system, .error (.host e)⟩
      | .ok (h, todo) =>
        .opening request todo (h.system.spawn (.opening todo.opening .arriving))
          h.system.threads.length

/-- What a command has to say once its pool is over. -/
def result (p : Pool) : Except Failure Output :=
  (summaryOf p o.given.proxy).map (.summary o.given.json)

/-- What may happen next, and which worker has done what. -/
inductive Step : Stage → Option (Nat × Pool.Act) → Stage → Prop
  | opens (request : Request) (todo : Loader.Load) (s s' : System) (t : Nat) :
      s.step t = some s' → Step (.opening request todo s t) none (.opening request todo s' t)
  | opened (request : Request) (todo : Loader.Load) (s : System) (t n : Nat) :
      s.report? t = some (.opened (.ok n)) →
      Step (.opening request todo s t) none
        (.sending (o.loader.register todo.key n) (o.pool s n request))
  | refused (request : Request) (todo : Loader.Load) (s : System) (t : Nat) (e : HostError) :
      s.report? t = some (.opened (.error e)) →
      Step (.opening request todo s t) none (.ended ⟨s, .error (.host e)⟩)
  | sends (l : Loader) (p p' : Pool) (w : Nat) (act : Pool.Act) :
      p.Transition w act p' → Step (.sending l p) (some (w, act)) (.sending l p')
  | sent (l : Loader) (p : Pool) :
      p.Over → Step (.sending l p) none (.unloading l.registry p.system none (o.result p))
  | shuts (e : String × Nat) (left : List (String × Nat)) (s : System)
      (result : Except Failure Output) :
      Step (.unloading (e :: left) s none result) none
        (.unloading (e :: left) (s.spawn (.shutting e.2 .arriving)) (some s.threads.length) result)
  | unloads (left : List (String × Nat)) (s s' : System) (t : Nat)
      (result : Except Failure Output) :
      s.step t = some s' →
      Step (.unloading left s (some t) result) none (.unloading left s' (some t) result)
  | shut (e : String × Nat) (left : List (String × Nat)) (s : System) (t : Nat)
      (r : ShutdownOutcome) (result : Except Failure Output) :
      s.report? t = some (.shutDown r) →
      Step (.unloading (e :: left) s (some t) result) none (.unloading left s none result)
  | ends (s : System) (result : Except Failure Output) :
      Step (.unloading [] s none result) none (.ended ⟨s, result⟩)

/-- The stages that can be reached, and what the workers do on the way. -/
inductive Course : Stage → Trace → Stage → Prop
  | refl (a : Stage) : Course a [] a
  | step {a b c : Stage} {trace : Trace} {act : Option (Nat × Pool.Act)} :
      Course a trace b → o.Step b act c → Course a (trace ++ act.toList) c

variable {o} {a b c : Stage} {trace trace' : Trace}

theorem Course.quiet (h : o.Course a trace b) (hs : o.Step b none c) : o.Course a trace c := by
  simpa using h.step hs

theorem Course.trans (h : o.Course a trace b) (h' : o.Course b trace' c) :
    o.Course a (trace ++ trace') c := by
  induction h' with
  | refl => simpa using h
  | step _ hs ih => simpa [List.append_assoc] using ih.step hs

/-! ## What `execute` does is a course -/

theorem course_opening (request : Request) (todo : Loader.Load) (t fuel : Nat) :
    ∀ s : System, o.Course (.opening request todo s t) []
      (.opening request todo (s.run .rest t fuel) t) := by
  induction fuel with
  | zero => exact fun s => .refl _
  | succ fuel ih =>
    intro s
    simp only [System.run, reduceCtorEq, decide_false, Bool.false_and, Bool.false_eq_true, if_false]
    split
    · exact .refl _
    · rename_i s' hs
      exact ((Course.refl _).quiet (.opens request todo s s' t hs)).trans (ih s')

theorem course_sending {l : Loader} (fuel : Nat) :
    ∀ p : Pool, ∃ trace, o.Course (.sending l p) trace (.sending l (p.run fuel)) := by
  induction fuel with
  | zero => exact fun p => ⟨[], .refl _⟩
  | succ fuel ih =>
    intro p
    simp only [Pool.run]
    split
    · exact ⟨[], .refl _⟩
    · rename_i p' found
      obtain ⟨w, -, hw⟩ := List.exists_of_findSome?_eq_some found
      obtain ⟨act, transition⟩ := Pool.step_cases hw
      obtain ⟨trace, course⟩ := ih p'
      exact ⟨_, ((Course.refl _).step (.sends l p p' w act transition)).trans course⟩

theorem course_unloading (left : List (String × Nat)) (t : Nat) (result : Except Failure Output)
    (fuel : Nat) : ∀ s : System, o.Course (.unloading left s (some t) result) []
      (.unloading left (s.run .rest t fuel) (some t) result) := by
  induction fuel with
  | zero => exact fun s => .refl _
  | succ fuel ih =>
    intro s
    simp only [System.run, reduceCtorEq, decide_false, Bool.false_and, Bool.false_eq_true, if_false]
    split
    · exact .refl _
    · rename_i s' hs
      exact ((Course.refl _).quiet (.unloads left s s' t result hs)).trans (ih s')

theorem registry_loader (o : Order) : o.loader.registry = [] := by
  have added : ∀ (dirs : List String) (l : Loader),
      (dirs.foldl Loader.addSearchPath l).registry = l.registry := by
    intro dirs
    induction dirs with
    | nil => exact fun l => rfl
    | cons dir dirs ih => exact fun l => ih (l.addSearchPath dir)
  exact added _ _

theorem registry_register (o : Order) (key : String) (n : Nat) :
    (o.loader.register key n).registry = [(key, n)] := by
  simp [Loader.register, registry_loader]

/-- The bounds of `Cli.call` are enough: no thread and no worker is held up by them. -/
def Lasts (o : Order) : Prop :=
  match o.start with
  | .opening request _ s t =>
    ∃ r, (s.run .rest t threadFuel).report? t = some (.opened r) ∧ ∀ n, r = .ok n →
      let p := o.pool (s.run .rest t threadFuel) n request
      (p.run (poolFuel p)).Over ∧ ∃ r,
        (perform (p.run (poolFuel p)).system (.shutting n .arriving)).2 = some (.shutDown r)
  | _ => True

/-- **What `execute` comes to is the end of a course**, if its bounds last. -/
theorem execute_course (o : Order) (lasts : o.Lasts) :
    ∃ trace, o.Course o.start trace (.ended (execute o.around o.config ⟨.call, o.given⟩)) := by
  unfold Lasts at lasts
  cases hr : buildRequest o.given with
  | error e =>
    simp only [execute, start, hr]
    exact ⟨[], .refl _⟩
  | ok request =>
    cases hn : moduleName? o.given o.config with
    | error e =>
      simp only [execute, start, hr, hn]
      exact ⟨[], .refl _⟩
    | ok name =>
      cases hb : o.loader.begin o.host name with
      | error e =>
        have begun : (loaderOf o.around o.config).begin (hostOf o.around) name = .error e := hb
        simp only [execute, start, hr, hn, hb, call, begun]
        exact ⟨[], .refl _⟩
      | ok out =>
        obtain ⟨h, todo⟩ := out
        have begun : (loaderOf o.around o.config).begin (hostOf o.around) name = .ok (h, todo) := hb
        have first : o.start = .opening request todo (h.system.spawn (.opening todo.opening .arriving))
            h.system.threads.length := by
          simp only [start, hr, hn, hb]
        simp only [first] at lasts
        obtain ⟨r, report, lasts⟩ := lasts
        have opening := course_opening (o := o) request todo h.system.threads.length threadFuel
          (h.system.spawn (.opening todo.opening .arriving))
        have performed : perform h.system (.opening todo.opening .arriving) =
            ((h.system.spawn (.opening todo.opening .arriving)).run .rest h.system.threads.length
              threadFuel, some (.opened r)) := by
          simp only [perform, report]
        rw [first]
        generalize hs : (h.system.spawn (.opening todo.opening .arriving)).run .rest
          h.system.threads.length threadFuel = s at *
        cases r with
        | error e =>
          simp only [execute, hr, hn, call, begun, performed]
          exact ⟨_, opening.quiet (.refused request todo s _ e report)⟩
        | ok n =>
          obtain ⟨halted, down, shut⟩ := lasts n rfl
          obtain ⟨trace, sending⟩ := course_sending (o := o) (l := o.loader.register todo.key n)
            (poolFuel (o.pool s n request)) (o.pool s n request)
          simp only [execute, hr, hn, call, begun, performed]
          change ∃ trace, o.Course _ trace (.ended
            ⟨unloadAll ((o.pool s n request).run (poolFuel (o.pool s n request))).system
              (o.loader.register todo.key n),
              o.result ((o.pool s n request).run (poolFuel (o.pool s n request)))⟩)
          generalize (o.pool s n request).run (poolFuel (o.pool s n request)) = p at *
          have opened := opening.quiet (.opened request todo s _ n report)
          have sent := (opened.trans sending).quiet (.sent _ p halted)
          rw [unloadAll]
          rw [registry_register] at sent ⊢
          have unloading := course_unloading (o := o) [(todo.key, n)] p.system.threads.length
            (o.result p) threadFuel (p.system.spawn (.shutting n .arriving))
          have ended := ((sent.quiet (.shuts _ _ _ _)).trans unloading).quiet
            (.shut _ _ _ _ down _ shut)
          exact ⟨_, ended.quiet (.ends _ _)⟩

end Order

end ModuleHost.Cli
