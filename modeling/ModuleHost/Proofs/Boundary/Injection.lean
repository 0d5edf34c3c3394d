import ModuleHost.Proofs.Instance.Following
import ModuleHost.Proofs.Message.Headers

/-!
# No header is smuggled in

A response is worked on from two sides: by the host, and through the callbacks by module code of any
kind, which may pass any bytes or none. `Response.Reachable` lists what both can do. Whatever they
do, the headers stay clean (`Reachable.clean`); the callback stores a header exactly where its bytes,
read leniently, may be sent, and otherwise leaves the response alone (`answer_setHeader_eq_zero_iff`,
`answer_setHeader_refused`). `headers_clean` puts these together, and adds that a call through an
instance does nothing else to its response.
-/
namespace ModuleHost

open Text Boundary

/-- The responses that host and modules can come to together. -/
inductive Response.Reachable : Response → Prop
  | new : Reachable {}
  | setHeader {r r' : Response} {old : Option String} (name value : String) :
      Reachable r → r.setHeader name value = .ok (old, r') → Reachable r'
  | removeHeader {r : Response} (name : String) : Reachable r → Reachable (r.removeHeader name).2
  | writeBody {r : Response} (bytes : Bytes) : Reachable r → Reachable (r.writeBody bytes)
  | setStatus {r : Response} (status : UInt16) : Reachable r → Reachable { r with status }
  | finalize {r : Response} (status : UInt16) : Reachable r → Reachable (r.finalize status)
  /-- Module code calls back. -/
  | callback {d : CallData} (c : HostCall) :
      Reachable d.response → Reachable (d.answer c).2.1.response

/-! ## The callback that stores a header -/

namespace Boundary.CallData

variable {d : CallData} {name value : Option Bytes}

theorem answer_setHeader_cases (d : CallData) (name value : Option Bytes) :
    (∃ n v old r, name = some n ∧ value = some v ∧
      d.response.setHeader (decodeLossy n) (decodeLossy v) = .ok (old, r) ∧
      d.answer (.setHeader name value) = ((0 : Int), { d with response := r }, [])) ∨
    (∀ n v, name = some n → value = some v → ¬ ∃ old r,
      d.response.setHeader (decodeLossy n) (decodeLossy v) = .ok (old, r)) ∧
      ∃ notices, d.answer (.setHeader name value) = ((-1 : Int), d, notices) := by
  cases name with
  | none => exact .inr ⟨fun n v h => (by cases h), [], rfl⟩
  | some n =>
    cases value with
    | none => exact .inr ⟨fun n v _ h => (by cases h), [], rfl⟩
    | some v =>
      cases stored : d.response.setHeader (decodeLossy n) (decodeLossy v) with
      | ok r => exact .inl ⟨n, v, r.1, r.2, rfl, rfl, stored, by simp only [answer, stored]⟩
      | error e =>
        refine .inr ⟨?_, [.headerRejected e], by simp only [answer, stored]⟩
        rintro n' v' hn hv ⟨old, r, accepted⟩
        cases hn
        cases hv
        cases stored.symm.trans accepted

theorem answer_setHeader_eq_zero_iff : (d.answer (.setHeader name value)).1 = (0 : Int) ↔
    ∃ n v, name = some n ∧ value = some v ∧ Header.IsToken (Header.key (decodeLossy n)) ∧
      Header.Unbroken (decodeLossy v) := by
  rcases d.answer_setHeader_cases name value with ⟨n, v, old, r, hn, hv, stored, answer⟩ |
    ⟨refused, notices, answer⟩ <;> rw [answer]
  · obtain ⟨token, unbroken⟩ := Response.setHeader_ok_iff.mp ⟨old, r, stored⟩
    exact ⟨fun _ => ⟨n, v, hn, hv, token, unbroken⟩, fun _ => rfl⟩
  · refine ⟨fun code => absurd code (show (-1 : Int) ≠ 0 by decide), ?_⟩
    rintro ⟨n, v, hn, hv, token, unbroken⟩
    exact absurd (Response.setHeader_ok_iff.mpr ⟨token, unbroken⟩) (refused n v hn hv)

theorem answer_setHeader_refused (h : (d.answer (.setHeader name value)).1 ≠ (0 : Int)) :
    (d.answer (.setHeader name value)).1 = (-1 : Int) ∧
      (d.answer (.setHeader name value)).2.1 = d := by
  rcases d.answer_setHeader_cases name value with ⟨n, v, old, r, -, -, -, answer⟩ |
    ⟨-, notices, answer⟩ <;> rw [answer] at h ⊢
  · exact absurd rfl h
  · exact ⟨rfl, rfl⟩

theorem clean_answer (clean : d.response.headers.Clean) (c : HostCall) :
    (d.answer c).2.1.response.headers.Clean := by
  cases c with
  | setHeader name value =>
    rcases d.answer_setHeader_cases name value with ⟨n, v, old, r, -, -, stored, answer⟩ |
      ⟨-, notices, answer⟩ <;> rw [answer]
    · exact Response.clean_setHeader clean stored
    · exact clean
  | setUri uri => cases uri <;> exact clean
  | writeBody bytes => cases bytes <;> exact clean
  | method | uri | header | body | status | setStatus | setTarget => exact clean

end Boundary.CallData

/-- **Headers stay clean**, whoever works on the response. -/
theorem Response.Reachable.clean {r : Response} (h : Reachable r) : r.headers.Clean := by
  induction h with
  | new => exact Headers.clean_empty
  | setHeader name value _ stored ih => exact clean_setHeader ih stored
  | removeHeader name _ ih => exact ih.erase name
  | writeBody bytes _ ih => exact ih
  | setStatus status _ ih => exact ih
  | finalize status _ ih =>
    rw [headers_finalize]
    exact ih
  | callback c _ ih => exact CallData.clean_answer ih c

/-! ## What a call does to its response -/

/-- An operation of module code leaves the host data as they are, or is one callback. -/
theorem Visit.perform_data {v : Visit} {m m' : Module} {o : ModuleOp} {a : o.Answer}
    {data : CallData} {events : List Event} (h : v.perform m o = .ok (a, data, m', events)) :
    data = v.data ∨ ∃ c, data = (v.data.answer c).2.1 := by
  cases o with
  | host c =>
    simp only [perform] at h
    split at h
    · cases h
    · cases h
      exact .inr ⟨c, rfl⟩
  | own | count | stamps | canSetUri | pause =>
    cases h
    exact .inl rfl

theorem Visit.step_data {v v' : Visit} {m m' : Module} {events : List Event}
    (h : v.step m = some (v', m', events)) :
    v'.data = v.data ∨ ∃ c, v'.data = (v.data.answer c).2.1 := by
  rcases step_cases h with ⟨-, rfl, -, -⟩ | ⟨stage, data, rfl, passage⟩
  · unfold enter
    split
    · exact .inl rfl
    · simp only
      split <;> exact .inl rfl
  · cases passage with
    | handle g o next a data m' events _ perform | serve o next a data m' events _ perform =>
      exact perform_data perform
    | _ => exact .inl rfl

theorem Call.Transition.data {c c' : Call} {i i' : Instance} {m m' : Module} {events : List Event}
    (h : c.Transition i m c' i' m' events) :
    c'.visit.data = c.visit.data ∨ ∃ hc, c'.visit.data = (c.visit.data.answer hc).2.1 := by
  cases h with
  | visiting v m' events _ hstep => exact Visit.step_data hstep
  | missing | admitted | refused | returned | broke | retire | release => exact .inl rfl

namespace System

theorem Follows.reachable {s s' : System} {t : Nat} {c c' : Call} (h : s.Follows t s')
    (ht : s.threads[t]? = some (.calling c)) (ht' : s'.threads[t]? = some (.calling c'))
    (start : c.visit.data.response.Reachable) : c'.visit.data.response.Reachable := by
  obtain ⟨c₁, log, ht₁, -, -, reachable⟩ := h.call
    (P := fun c _ => c.visit.data.response.Reachable) ht start fun _ _ _ _ _ transition reachable => by
      rcases transition.data with same | ⟨hc, called⟩
      · rw [same]
        exact reachable
      · rw [called]
        exact .callback hc reachable
  cases ht'.symm.trans ht₁
  exact reachable

/-- **No header is smuggled in.** Whatever host and modules do to a response, the names of its
headers are tokens of lower case, each stored once, and no value has a CR, LF or NUL in it. The
callback that stores a header answers 0 exactly where name and value are there, the name, read
leniently, trimmed and lowered, is a token, and the value, read leniently, breaks no line; where it
answers anything else, this is -1, and the response is as before. All that a call through an instance
does to its response, whatever its module is, is among this. -/
theorem headers_clean :
    (∀ r : Response, r.Reachable →
      (∀ e ∈ r.headers.toList, Header.IsToken e.1 ∧ Header.IsLower e.1 ∧ Header.Unbroken e.2) ∧
      (r.headers.toList.map Prod.fst).Nodup) ∧
    (∀ (d : CallData) (name value : Option Bytes),
      ((d.answer (.setHeader name value)).1 = (0 : Int) ↔
        ∃ n v, name = some n ∧ value = some v ∧ Header.IsToken (Header.key (decodeLossy n)) ∧
          Header.Unbroken (decodeLossy v)) ∧
      ((d.answer (.setHeader name value)).1 ≠ (0 : Int) →
        (d.answer (.setHeader name value)).1 = (-1 : Int) ∧
          (d.answer (.setHeader name value)).2.1 = d)) ∧
    (∀ (s s' : System) (t : Nat) (c c' : Call), s.Follows t s' →
      s.threads[t]? = some (.calling c) → s'.threads[t]? = some (.calling c') →
      c.visit.data.response.Reachable → c'.visit.data.response.Reachable) := by
  refine ⟨fun r h => ⟨fun e he => ?_, h.clean.ascending.nodup⟩,
    fun d name value => ⟨CallData.answer_setHeader_eq_zero_iff, CallData.answer_setHeader_refused⟩,
    fun s s' t c c' h ht ht' start => h.reachable ht ht' start⟩
  obtain ⟨token, lower⟩ := h.clean.token e he
  exact ⟨token, lower, h.clean.unbroken e he⟩

/-- Entries that store a header under a blank-padded name, and then try to put a line break into it. -/
def sampleSmuggler : Entries :=
  { request := fun _ =>
      (ModuleProgram.host (.setHeader (some (encode " X-Kind ")) (some (encode "raw")))).bind fun _ =>
        (ModuleProgram.host (.setHeader (some (encode "x-kind")) (some [0x61, 0x0D, 0x0A]))).bind
          fun _ => .ret () }

/-- Thread 1 is about to call them. -/
def sampleSmuggling : System :=
  ((((({} : System).addModule { code := .entries sampleSmuggler }).spawn
    (.opening sampleOpening .arriving)).steps (List.replicate 9 0)).getD {}).spawn
      (.calling (.start 0 false {} {} {}))

theorem headers_clean_sample : ∃ (s : System) (c : Call), sampleSmuggling.Follows 1 s ∧
    s.threads[1]? = some (.calling c) ∧ c.stage = .done (.ok ()) ∧
    c.visit.data.response.headers.toList = [("x-kind", "raw")] ∧ c.visit.data.response.Reachable ∧
    (∀ e ∈ c.visit.data.response.headers.toList, Header.IsToken e.1 ∧ Header.IsLower e.1 ∧
      Header.Unbroken e.2) ∧
    (c.visit.data.answer (.setHeader (some (encode "x-kind")) (some [0x61, 0x0D, 0x0A]))).1 =
      (-1 : Int) := by
  obtain ⟨clean, stored, called⟩ := headers_clean
  have follows : sampleSmuggling.Follows 1
      ((sampleSmuggling.steps (List.replicate 8 1)).getD {}) :=
    follows_of_steps 1 (List.replicate 8 1) rfl
  have reachable := called _ _ 1 _ _ follows rfl rfl .new
  refine ⟨_, _, follows, rfl, rfl, rfl, reachable, (clean _ reachable).1, ?_⟩
  refine ((stored _ _ _).2 ?_).1
  decide +kernel

end System

end ModuleHost
