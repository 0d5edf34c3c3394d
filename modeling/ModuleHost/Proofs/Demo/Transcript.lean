import ModuleHost.Proofs.Demo.Account
import ModuleHost.Proofs.Demo.Answers
import ModuleHost.Proofs.Demo.Description

/-!
# The transcript of the demo module

All that a value of the demo prints in its lifetime, read as one text (`demo_transcript`): one line for
each of its requests, in some order, and one last line with the number of requests and routed proxy
calls. No line holds a line break, whatever method, URI, agent and body the requests came with, so that
the text falls apart into just these lines. And whether printing works or not, every request gets the
demo's answer.
-/
namespace ModuleHost

open Text Boundary

namespace Demo

/-- A text that consists of lines, each closed by a newline, and can be split into them again. -/
structure Transcript (text : String) (lines : List String) : Prop where
  joined : text = joinLines lines
  unbroken : ∀ line ∈ lines, ∀ c ∈ lineBreaks, c ∉ line.toList
  split : text.toList.splitOn '\n' = lines.map String.toList ++ [[]]

theorem transcript_of_printable {lines : List String}
    (h : ∀ line ∈ lines, Printable line.toList) : Transcript (joinLines lines) lines :=
  ⟨rfl, fun line mem => (h line mem).no_break, split_lines h⟩

theorem line_printable (r : Request) : Printable (line r).toList := describe_printable _ _ _ _

theorem farewell_printable (n : Nat) : Printable (farewell n).toList := by
  have words : Printable "Unloading after ".toList ∧ Printable " requests".toList := by
    decide +kernel
  simp only [farewell, String.toList_append, printable_append, toString_printable, words, and_self]

/-- The proxy calls among the dispatches to a value whose URI routes. -/
def routed (g : Nat) (ds : List Dispatch) : List Dispatch :=
  (calls g ds).filter fun d => d.proxy && (route d.data.request.uri).isSome

theorem total_eq (g : Nat) (ds : List Dispatch) :
    total g ds = (requests g ds).length + (routed g ds).length := by
  unfold total requests routed
  induction calls g ds with
  | nil => rfl
  | cons d rest ih =>
    rw [List.countP_cons, ih]
    cases hd : d.proxy <;> cases hr : (route d.data.request.uri).isSome <;>
      simp [counts, hd, hr] <;> omega

theorem LinePerRequest.transcript {g : Nat} {texts : List String} {ds : List Dispatch}
    (each : LinePerRequest g texts ds) :
    ∃ cs : List Dispatch, cs.Perm (requests g ds) ∧
      Transcript (String.join texts) (cs.map (fun d => line d.data.request) ++
        [farewell ((requests g ds).length + (routed g ds).length)]) := by
  obtain ⟨cs, perm, rfl⟩ := each
  refine ⟨cs, perm, ?_⟩
  have printable : ∀ l ∈ cs.map (fun d => line d.data.request) ++ [farewell (total g ds)],
      Printable l.toList := by
    intro l mem
    rcases List.mem_append.mp mem with mem | mem
    · obtain ⟨d, -, rfl⟩ := List.mem_map.mp mem
      exact line_printable _
    · obtain rfl := List.mem_singleton.mp mem
      exact farewell_printable _
  have joined : cs.map text ++ [farewell (total g ds) ++ "\n"] =
      (cs.map (fun d => line d.data.request) ++ [farewell (total g ds)]).map (· ++ "\n") := by
    simp [text, Function.comp_def]
  rw [← total_eq, joined]
  exact transcript_of_printable printable

end Demo

namespace System

open Demo

/-- **The demo's transcript.** In every run, whatever threads call the demo module and in whatever
order they go on: where printing works, what it prints is printed in the lifetime of one of its values;
and what was printed in the lifetime of a value that has been shut down and dropped, with every dispatch
to it taken down in a chronicle of the run, are the lines of its requests, in some order, and one last
line with the number of requests and routed proxy calls. And whether printing works or not, a request
that is dispatched to the handler comes back with the body appended, the header stored and the status
set, and nothing else changed; on handles that the host has made nothing can keep it from that. -/
theorem demo_transcript :
    (∀ (s : System) (j : Nat) (m : Module), Run s → s.modules[j]? = some m →
      demo.module.SameCode m →
      (∃ ds, Chronicle j s ds) ∧
      (∀ (before after : List Event) (text : String),
        s.moduleLog j = before ++ .printed text :: after →
        ∃ g, .built g ∈ before ∧ .dropped g ∉ before) ∧
      ∀ (ds : List Dispatch) (g : Nat), Chronicle j s ds → .dropped g ∈ s.moduleLog j →
        (calls g ds).length = (s.moduleLog j).count (.handlerBegun g) ∧
        ∃ cs : List Dispatch, cs.Perm (requests g ds) ∧
          Transcript (String.join (written g (s.moduleLog j)))
            (cs.map (fun d => line d.data.request) ++
              [farewell ((requests g ds).length + (routed g ds).length)])) ∧
    ∀ (s s' : System) (t j : Nat) (v v' : Visit) (log : List Event), Run s →
      s.HasHandler j handler → s.Enters t j v → v.proxy = false → s.Follows t s' →
      s'.Attends t j v' → s'.threadLog t = s.threadLog t ++ log → Begun log →
      (v'.stage = .returned →
        v'.data = { v.data with response := answered v.data.response }) ∧
      (v.handles.Sound → ∃ s'' v'', s'.Comes t s'' ∧ s''.Attends t j v'' ∧ v''.stage = .returned ∧
        v''.data = { v.data with response := answered v.data.response }) := by
  refine ⟨fun s j m hr hm own => ?_,
    fun s s' t j v v' log hr code enters request follows here grown begun =>
      follows.served hr code enters request here grown begun⟩
  have account {ds : List Dispatch} (chronicle : Chronicle j s ds) : Account (s.outputState j ds) :=
    chronicle_account chronicle fun m' hm' => Option.some.inj (hm.symm.trans hm') ▸ own
  obtain ⟨ds, chronicle⟩ := hr.chronicle j
  refine ⟨⟨ds, chronicle⟩, fun before after text => (account chronicle).inside before text after,
    fun ds g chronicle gone => ⟨?_, ((account chronicle).closed g gone).transcript⟩⟩
  rw [← chronicle.counted g, List.countP_eq_length_filter]
  rfl

/-- The first print fails, and all others work. -/
def sampleSink (n : Nat) : Option String := if n = 0 then some "closed" else none

/-- Thread 0 has opened the demo, where prints work or fail. -/
def sampleDemo (sink : Nat → Option String) : System :=
  (((({} : System).addModule { demo.module with sink }).spawn
    (.opening sampleOpening .arriving)).steps (List.replicate 11 0)).getD {}

/-- Threads 1 and 2 are about to make a request and a proxy call, and thread 3 to shut down. -/
def sampleDemoAsked (sink : Nat → Option String) : System :=
  (((sampleDemo sink).spawn (.calling (.start 0 false { uri := "/a\nb" } {} {}))).spawn
    (.calling (.start 0 true { uri := "/up/x" } {} {}))).spawn (.shutting 0 .arriving)

theorem run_sampleDemo (sink : Nat → Option String) : Run (sampleDemo sink) :=
  (run_opening (m := { demo.module with sink }) rfl).later
    (later_of_steps (List.replicate 11 0) rfl)

theorem run_sampleDemoAsked (sink : Nat → Option String) : Run (sampleDemoAsked sink) := by
  have out : (sampleDemo sink).HandedOut 0 := ⟨_, List.mem_singleton.mpr rfl⟩
  have asked := (run_sampleDemo sink).move (.begin _ (.calling (.start 0 false { uri := "/a\nb" } {} {}))
    ⟨_, _, _, _, rfl⟩ fun n hn => by cases hn; exact out)
  have routing := asked.move (.begin _ (.calling (.start 0 true { uri := "/up/x" } {} {}))
    ⟨_, _, _, _, rfl⟩ fun n hn => by cases hn; exact out.spawn _)
  exact routing.move (.begin _ (.shutting 0 .arriving) rfl
    fun n hn => by cases hn; exact (out.spawn _).spawn _)

/-- Both calls go on in turns and come back, and then the instance is shut down. -/
def sampleDemoUnloaded : System :=
  ((sampleDemoAsked fun _ => none).steps ((List.replicate 12 [1, 2]).flatten ++ List.replicate 4 1 ++
    List.replicate 13 3)).getD {}

/-- The first print fails, and thread 1 has entered the module; then it is in the handler. -/
def sampleDemoEntered : System := ((sampleDemoAsked sampleSink).steps [1]).getD {}

def sampleDemoServing : System := (sampleDemoEntered.steps [1, 1, 1, 1]).getD {}

theorem demo_transcript_sample :
    (∃ ds cs : List Dispatch, Chronicle 0 sampleDemoUnloaded ds ∧ (calls 1 ds).length = 2 ∧
      cs.Perm (requests 1 ds) ∧
      Transcript (String.join (written 1 (sampleDemoUnloaded.moduleLog 0)))
        (cs.map (fun d => line d.data.request) ++
          [farewell ((requests 1 ds).length + (routed 1 ds).length)])) ∧
    String.join (written 1 (sampleDemoUnloaded.moduleLog 0)) = joinLines
      ["Method: \"\", Uri: \"/a\\nb\", User-Agent: \"\", Body: \"\"",
        "Unloading after 2 requests"] ∧
    ∃ s v, sampleDemoServing.Comes 1 s ∧ s.Attends 1 0 v ∧ v.stage = .returned ∧
      v.data.response = ⟨404, ({} : Headers).insert "hello" "world", encode "Hello World!\n"⟩ := by
  obtain ⟨transcripts, answers⟩ := demo_transcript
  refine ⟨?_, by decide +kernel, ?_⟩
  · have run : Run sampleDemoUnloaded := (run_sampleDemoAsked fun _ => none).later (later_of_steps
      ((List.replicate 12 [1, 2]).flatten ++ List.replicate 4 1 ++ List.replicate 13 3) rfl)
    obtain ⟨⟨ds, chronicle⟩, -, each⟩ :=
      transcripts sampleDemoUnloaded 0 _ run rfl ⟨rfl, rfl, rfl⟩
    obtain ⟨counted, cs, perm, transcript⟩ := each ds 1 chronicle (by decide +kernel)
    have two : (sampleDemoUnloaded.moduleLog 0).count (.handlerBegun 1) = 2 := by decide +kernel
    exact ⟨ds, cs, chronicle, counted.trans two, perm, transcript⟩
  · have run : Run sampleDemoEntered :=
      (run_sampleDemoAsked sampleSink).later (later_of_steps [1] rfl)
    have grown : sampleDemoServing.threadLog 1 =
        sampleDemoEntered.threadLog 1 ++ [.entered .handleRequest, .handlerBegun 1] := by
      decide +kernel
    obtain ⟨-, served⟩ := answers sampleDemoEntered sampleDemoServing 1 0 _ _ _ run
      ⟨_, rfl, rfl⟩ ⟨⟨⟨_, rfl, .inl rfl, rfl⟩⟩, rfl⟩ rfl (follows_of_steps 1 [1, 1, 1, 1] rfl)
      ⟨⟨_, rfl, .inl rfl, rfl⟩⟩ grown ⟨1, by simp⟩
    obtain ⟨s, v, comes, here, returned, data⟩ := served (Handles.sound_handles false)
    exact ⟨s, v, comes, here, returned, by rw [data]; rfl⟩

end System

end ModuleHost
