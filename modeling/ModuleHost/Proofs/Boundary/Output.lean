import Mathlib.Algebra.Group.Prod
import Mathlib.Algebra.GroupWithZero.Nat
import Mathlib.Algebra.Order.Group.Multiset
import ModuleHost.Proofs.Boundary.Direct

/-!
# What module code puts out

The `Output` of module code is what it leaves besides the host data: the texts that it prints where
printing works, in whatever order, and the number of requests that it counts. `p.output d` is what
program `p` still puts out on data `d`. Some answers the data do not determine, such as how many
requests were counted before and whether a line was written; `p.Yields d τ Q` says that whatever it is
told there, the program puts out `τ` and leaves data with `Q` where it returns. So each of its
operations takes its own part off the output that is left (`Yields.answer`). What an operation of a
view puts out is told by `yields_view`.
-/
namespace ModuleHost

open Text Boundary

/-- Texts printed, and requests counted. -/
abbrev Output := Multiset String × Nat

/-- The text that an event says was printed. -/
def Event.text? : Event → Option String
  | .printed text => some text
  | _ => none

/-- The texts printed, piece by piece, in order. -/
def pieces (events : List Event) : List String := events.filterMap Event.text?

theorem pieces_append (as bs : List Event) : pieces (as ++ bs) = pieces as ++ pieces bs :=
  List.filterMap_append

theorem pieces_notices (notices : List Notice) : pieces (notices.map Event.notice) = [] := by
  simp [pieces, Event.text?]

/-! ## Operations -/

namespace SelfOp

/-- What the operation prints. -/
def texts : SelfOp → List String
  | .print line => [line ++ "\n"]
  | .note _ | .report _ => []

/-- The answer where printing works. -/
def works : (o : SelfOp) → o.Answer
  | .note _ | .report _ => ()
  | .print _ => Except.ok ()

theorem perform_works {m : Module} (sink : ∀ n, m.sink n = none) (o : SelfOp) :
    (perform m o).1 = o.works ∧ pieces (perform m o).2.2 = o.texts := by
  cases o with
  | note | report => exact ⟨rfl, rfl⟩
  | print line => simp [perform, Module.print, sink, works, texts, pieces, Event.text?]

end SelfOp

namespace ModuleOp

def output : ModuleOp → Output
  | .own o => (↑o.texts, 0)
  | .count => (0, 1)
  | .host _ | .stamps | .canSetUri | .pause => 0

/-- The data after the operation. -/
def after (d : CallData) : ModuleOp → CallData
  | .host c => (d.answer c).2.1
  | .own _ | .count | .stamps | .canSetUri | .pause => d

/-- Whether the operation can be answered so on the data. -/
def Fits (d : CallData) : (o : ModuleOp) → o.Answer → Prop
  | .host c, a => a = (d.answer c).1
  | .own _, _ | .count, _ | .stamps, _ | .canSetUri, _ | .pause, _ => True

/-- One answer that fits. -/
def reply (d : CallData) : (o : ModuleOp) → o.Answer
  | .host c => (d.answer c).1
  | .own o => o.works
  | .count => (0 : Nat)
  | .stamps => (false, false, none)
  | .canSetUri => false
  | .pause => ()

theorem fits_reply (d : CallData) (o : ModuleOp) : o.Fits d (o.reply d) := by
  cases o <;> first | rfl | trivial

end ModuleOp

/-- The answer to a performed operation fits, and the data are what it leaves. -/
theorem Visit.perform_fits {v : Visit} {m m' : Module} {o : ModuleOp} {a : o.Answer}
    {data : CallData} {events : List Event} (perform : v.perform m o = .ok (a, data, m', events)) :
    o.Fits v.data a ∧ data = o.after v.data := by
  cases o with
  | host c =>
    simp only [Visit.perform] at perform
    split at perform
    · cases perform
    · cases perform
      exact ⟨rfl, rfl⟩
  | own | count | stamps | canSetUri | pause =>
    cases perform
    exact ⟨trivial, rfl⟩

/-- What a performed operation puts out: the texts among its events, and what it adds to the counter
of the value that it runs on. -/
theorem Visit.perform_output {v : Visit} {m m' : Module} {o : ModuleOp} {a : o.Answer}
    {data : CallData} {events : List Event} {h : Handler} {value : HandlerValue}
    (code : m.code = .handler h) (sink : ∀ n, m.sink n = none) (slot : m.context.slot = .live value)
    (perform : v.perform m o = .ok (a, data, m', events)) :
    ∃ n, o.output = (↑(pieces events), n) ∧
      m'.context = { m.context with slot := .live { value with seen := value.seen + n } } := by
  have same : m.context = { m.context with slot := .live { value with seen := value.seen + 0 } } := by
    rw [Nat.add_zero, ← slot]
  cases o with
  | host c =>
    simp only [Visit.perform] at perform
    split at perform
    · cases perform
    · cases perform
      exact ⟨0, by rw [pieces_notices]; rfl, same⟩
  | own o =>
    cases perform
    have texts := (o.perform_works sink).2
    exact ⟨0, congrArg (fun lines : List String => ((lines : Multiset String), 0)) texts.symm,
      (o.perform_context m).trans same⟩
  | count =>
    simp only [Visit.perform, Module.count, code, slot] at perform
    cases perform
    exact ⟨1, rfl, rfl⟩
  | stamps | canSetUri | pause =>
    cases perform
    exact ⟨0, rfl, same⟩

/-! ## Programs -/

/-- What a program prints that module code runs on its own, where printing works. -/
def SelfProgram.texts {α : Type} : SelfProgram α → List String
  | .ret _ | .panic _ => []
  | .ask (o : SelfOp) next => o.texts ++ SelfProgram.texts (next o.works)

namespace ModuleProgram

variable {α : Type} {p : ModuleProgram α} {d : CallData} {τ : Output} {Q Q' : CallData → Prop}

/-- What is left for the program to put out. -/
def output : ModuleProgram α → CallData → Output
  | .ret _, _ | .panic _, _ => 0
  | .ask (o : ModuleOp) next, d => o.output + output (next (o.reply d)) (o.after d)

/-- Whether the program puts this out on the data, and leaves such data where it returns, whatever
else it is told. -/
def Yields : ModuleProgram α → CallData → Output → (CallData → Prop) → Prop
  | .ret _, d, τ, Q => τ = 0 ∧ Q d
  | .panic _, _, τ, _ => τ = 0
  | .ask (o : ModuleOp) next, d, τ, Q =>
    ∃ τ', τ = o.output + τ' ∧ ∀ a, o.Fits d a → Yields (next a) (o.after d) τ' Q

theorem Yields.output (h : p.Yields d τ Q) : p.output d = τ := by
  induction p generalizing d τ with
  | ret => exact h.1.symm
  | panic => exact Eq.symm h
  | ask o next ih =>
    obtain ⟨τ', rfl, rest⟩ := h
    exact congrArg (ModuleOp.output o + ·) (ih _ (rest _ (ModuleOp.fits_reply d o)))

theorem Yields.mono (h : p.Yields d τ Q) (hq : ∀ d, Q d → Q' d) : p.Yields d τ Q' := by
  induction p generalizing d τ with
  | ret => exact ⟨h.1, hq _ h.2⟩
  | panic => exact h
  | ask o next ih =>
    obtain ⟨τ', sum, rest⟩ := h
    exact ⟨τ', sum, fun a fits => ih a (rest a fits)⟩

/-- **Each answer takes its part off the output**, and leaves the rest to the rest of the program. -/
theorem Yields.answer {o : ModuleOp} {next : o.Answer → ModuleProgram α} {a : o.Answer}
    (h : Yields (.ask (I := ModuleInterface) o next) d τ Q) (fits : o.Fits d a) :
    τ = o.output + (next a).output (o.after d) ∧
      (next a).Yields (o.after d) ((next a).output (o.after d)) Q := by
  obtain ⟨τ', rfl, rest⟩ := h
  have rest := rest a fits
  rw [rest.output]
  exact ⟨rfl, rest⟩

theorem yields_read {c : HostCall} {next : c.Answer → ModuleProgram α}
    (h : (next (d.answer c).1).Yields (d.answer c).2.1 τ Q) :
    Yields (.ask (I := ModuleInterface) (.host c) next) d τ Q := by
  refine ⟨τ, (zero_add τ).symm, fun a fits => ?_⟩
  cases fits
  exact h

end ModuleProgram

/-! ## Views -/

/-- What a view operation puts out. -/
def ViewOp.output : ViewOp → Output
  | .own o => (↑o.texts, 0)
  | .count => (0, 1)
  | .method | .uri | .header _ | .body | .setUri _ | .status | .setStatus _ | .setHeader ..
  | .writeBody _ | .pause => 0

/-- **An operation of a view puts out what it says**, through its callback. -/
theorem yields_view {α : Type} {o : ViewOp} {next : o.Answer → ModuleProgram α} {d : CallData}
    {τ : Output} {Q : CallData → Prop}
    (h : ∀ a, o.Gives d a → (next a).Yields (d.apply o) τ Q) :
    ModuleProgram.Yields (o.lower.bind next) d (o.output + τ) Q := by
  cases o with
  | own | count | pause => exact ⟨τ, rfl, fun a _ => h a trivial⟩
  | method | uri =>
    refine ⟨τ, rfl, fun a fits => h _ ?_⟩
    cases fits
    simp [ViewOp.Gives, CallData.answer]
  | header name =>
    refine ⟨τ, rfl, fun a fits => h _ ?_⟩
    cases fits
    simp only [ViewOp.Gives, CallData.answer, Option.bind_some, decodeLossy_encode]
    cases d.request.header name <;> simp
  | body | status => exact ⟨τ, rfl, fun a fits => h a fits⟩
  | setStatus code | writeBody bytes => exact ⟨τ, rfl, fun a _ => h a trivial⟩
  | setUri uri =>
    refine ⟨τ, rfl, fun a _ => ?_⟩
    have rest := h a trivial
    simp only [ModuleOp.after, CallData.answer, decodeLossy_encode]
    exact rest
  | setHeader name value =>
    refine (zero_add τ).symm ▸ ModuleProgram.yields_read (c := .setHeader _ _) ?_
    cases stored : d.response.setHeader name value with
    | ok r =>
      have answer : d.answer (.setHeader (some (encode name)) (some (encode value))) =
          ((0 : Int), { d with response := r.2 }, []) := by
        simp only [CallData.answer, decodeLossy_encode, stored]
      have rest := h (.ok ()) (by simp only [ViewOp.Gives, stored])
      simp only [CallData.apply, stored] at rest
      rw [answer]
      exact rest
    | error e =>
      have answer : d.answer (.setHeader (some (encode name)) (some (encode value))) =
          ((-1 : Int), d, [.headerRejected e]) := by
        simp only [CallData.answer, decodeLossy_encode, stored]
      have rest := h (.error ⟨name⟩) (by simp only [ViewOp.Gives, stored])
      simp only [CallData.apply, stored] at rest
      rw [answer]
      exact rest

end ModuleHost
