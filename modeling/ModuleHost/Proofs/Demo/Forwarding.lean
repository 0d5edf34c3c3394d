import ModuleHost.Proofs.Demo.Answers
import ModuleHost.Proofs.Demo.Routing
import ModuleHost.Proofs.Demo.Transcript
import ModuleHost.Proofs.Entry.Resting

/-!
# What the demo module forwards

A proxy call that the demo's handler serves comes back with the address and the rewritten URI where its
URI is routed (`Follows.forwards`); where it is not, the call comes back as it was and is not counted
(`route_grammar`).

Routing looks at slashes only, and the query of a request begins at its first question mark. So the
rewritten request keeps the query just where that question mark stands in what is left to forward
(`query_routed`); and where nothing is dropped in front of the first slash, it keeps the rest of the path
as well (`forwarded_query`).
-/
namespace ModuleHost

open Text Boundary

namespace Demo

/-! ## The query -/

variable {uri address rest lead : String} {r r' : Request}

/-- The rewritten request reads what is left behind the address; where nothing is left, its path is a
slash. -/
theorem left_read {left : Request}
    (ends : left.uri = "" ∧ r'.uri = "/" ∨ left.uri = r'.uri ∧ ∃ tail, r'.uri = "/" ++ tail) :
    left.query = r'.query ∧ r'.path = if left.path = "" then "/" else left.path := by
  obtain ⟨nothing, uri⟩ | ⟨same, tail, uri⟩ := ends
  · simp [Request.query, Request.path, nothing, uri]
  · simp [Request.query, Request.path, same, uri]

/-- Routing keeps the query just where no question mark stands in front of what is left to forward, and
then the path loses the address and no more. -/
theorem query_routed (routed : route r.uri = some (address, r'.uri)) :
    ∃ lead, Flat lead ∧ (∀ s, r.uri = "/" ++ s → lead = "") ∧
      ('?' ∉ (lead ++ address).toList ↔ r'.query = r.query) ∧
      ('?' ∉ (lead ++ address).toList → ∃ path, r.path = lead ++ "/" ++ address ++ path ∧
        r'.path = if path = "" then "/" else path) := by
  obtain ⟨lead, tail, flat, cut, names⟩ := route_eq_some_iff.mp routed
  obtain ⟨uri, rfl, ends⟩ := names.split
  obtain ⟨left, rfl⟩ : ∃ left : Request, left.uri = uri := ⟨{ uri }, rfl⟩
  have whole : r.uri = lead ++ "/" ++ address ++ left.uri := by
    rw [cut]
    simp only [String.append_assoc]
  have plain : '?' ∉ (lead ++ address).toList ↔ '?' ∉ (lead ++ "/" ++ address).toList := by simp
  have read := left_read ends
  refine ⟨lead, flat, fun s slash => flat.eq_empty (slash.symm.trans cut), ⟨fun h => ?_, ?_⟩,
    fun h => ⟨_, Request.path_append whole (plain.mp h), read.2⟩⟩
  · rw [Request.query_append whole (plain.mp h), read.1]
  · rw [plain]
    intro same marked
    obtain ⟨more, behind⟩ := Request.query_behind whole marked
    rw [behind] at same
    -- The query would hold all that is left to forward, and be a part of it behind a question mark.
    obtain ⟨-, uri⟩ | ⟨uri, -⟩ := ends
    · exact absurd same (by simp [Request.query, uri])
    · have shorter := Request.query_shorter same
      rw [← uri, String.length_append] at shorter
      omega

/-- The rewritten request `r'` has the query of `r`, and the path less the address, which has no question
mark; where nothing is left of the path, it is a slash. -/
structure KeepsQuery (r r' : Request) (address : String) : Prop where
  plain : '?' ∉ address.toList
  query : r'.query = r.query
  path : ∃ left, r.path = "/" ++ address ++ left ∧ r'.path = if left = "" then "/" else left

theorem keepsQuery_iff (routed : route r.uri = some (address, r'.uri)) :
    KeepsQuery r r' address ↔ (∃ tail, r.uri = "/" ++ tail) ∧ '?' ∉ address.toList := by
  obtain ⟨lead, -, front, query, path⟩ := query_routed routed
  constructor
  · intro keeps
    obtain ⟨left, whole, -⟩ := keeps.path
    obtain ⟨rest, uri⟩ := r.uri_eq_path
    refine ⟨⟨address ++ left ++ rest, ?_⟩, keeps.plain⟩
    rw [uri, whole]
    simp only [String.append_assoc]
  · rintro ⟨⟨tail, slash⟩, plain⟩
    obtain rfl := front tail slash
    rw [String.empty_append] at query path
    obtain ⟨left, whole, rewritten⟩ := path plain
    exact ⟨plain, query.mp plain, left, by simpa using whole, rewritten⟩

/-! ## The entry -/

/-- A handler that reads the URI rests if it does so once it knows the URI. -/
theorem entry_rests {α : Type} {entry : Entry α} {next : String → ViewProgram α} {d : CallData}
    (asks : ∀ (o : ViewOp) (next : o.Answer → ViewProgram α),
      entry.rest (.ask (I := ViewInterface) o next) = o.lower.bind fun a => entry.rest (next a))
    (h : (entry.rest (next d.request.uri)).Rests d) :
    (entry.rest ((View.op .uri).bind next)).Rests d := by
  have same : entry.rest ((View.op .uri).bind next) =
      ViewOp.uri.lower.bind fun a => entry.rest (next a) := asks .uri next
  rw [same]
  refine ⟨nofun, rfl, fun a fits => ?_⟩
  cases fits
  simpa [CallData.answer, Program.bind] using h

/-- A proxy call whose URI names no upstream reads the URI and is done. -/
theorem guarded_rests (errand : Errand) (given : Handles) {d : CallData}
    (unrouted : route d.request.uri = none) : (handler.guarded true errand given).Rests d := by
  refine entry_rests (Handler.proxyEntry_ask given) ?_
  simp only [unrouted]
  trivial

theorem forwarded_eq (given : Handles) {d : CallData}
    (routed : route d.request.uri = some (address, rest)) :
    (forwarded given d).request = { d.request with uri := rest } ∧
      (forwarded given d).response = d.response ∧
      (given.target.isSome = true → (forwarded given d).target = some address) := by
  simp only [forwarded, routed, CallData.aim]
  split
  · exact ⟨rfl, rfl, fun _ => rfl⟩
  · rename_i missing
    exact ⟨rfl, rfl, fun there => absurd (by simpa using there) missing⟩

end Demo

namespace System

open Demo

variable {s s' : System} {t j : Nat} {v v' : Visit} {log : List Event} {address rest : String}

/-- **A proxy call that the demo's handler serves is forwarded**, where its URI routes: where its entry
has come back, and on handles that the host has made the thread can bring it there. -/
theorem Follows.forwards (hr : Run s) (code : s.HasHandler j handler) (enters : s.Enters t j v)
    (proxied : v.proxy = true) (follows : s.Follows t s') (here : s'.Attends t j v')
    (grown : s'.threadLog t = s.threadLog t ++ log) (begun : Begun log) :
    (v'.stage = .returned → v'.data = forwarded v.handles v.data) ∧
      (v.handles.Sound → ∃ s'' v'', s'.Comes t s'' ∧ s''.Attends t j v'' ∧ v''.stage = .returned ∧
        v''.data = forwarded v.handles v.data) := by
  have yields : (handler.guarded v.proxy v.errand v.handles).Yields v.data
      (0, (route v.data.request.uri).isSome.toNat) (· = forwarded v.handles v.data) := by
    rw [proxied]
    exact proxy_yields v.handles v.data
  exact follows.delivers hr code (fun _ _ _ => rfl) enters handle_reads yields here grown begun

/-- **Which URIs name an upstream.** A URI is routed just where `/address` or `/address/…` stands behind
a piece without a slash, and the piece is dropped whatever it is. So `route` reads `/address` and
`/address/…` and nothing else just where that piece is empty, and that is on every URI that starts with a
slash. A proxy call of the demo whose URI is not routed keeps its request, its response and its target
wherever it stands, no step of it adds to what the handler's value has counted, and on handles that the
host has made it comes back. -/
theorem route_grammar (uri : String) :
    (∀ address rest, route uri = some (address, rest) ↔
      ∃ lead tail, Flat lead ∧ uri = lead ++ tail ∧ Names tail address rest) ∧
    ((∀ address rest, route uri = some (address, rest) ↔ Names uri address rest) ↔
      ∀ lead tail address rest, Flat lead → uri = lead ++ tail → Names tail address rest →
        lead = "") ∧
    (∀ tail, uri = "/" ++ tail → ∀ address rest,
      (route uri = some (address, rest) ↔ Names uri address rest)) ∧
    ∀ (s s' : System) (t j : Nat) (v v' : Visit), Run s → s.HasHandler j handler →
      s.Enters t j v → v.proxy = true → v.data.request.uri = uri → route uri = none →
      s.Follows t s' → s'.Attends t j v' →
      v'.data = v.data ∧
      (∀ s'', s'.step t = some s'' → (s''.context j).counted = (s'.context j).counted) ∧
      ∀ log, s'.threadLog t = s.threadLog t ++ log → Begun log → v.handles.Sound →
        ∃ s'' v'', s'.Comes t s'' ∧ s''.Attends t j v'' ∧ v''.stage = .returned := by
  refine ⟨fun _ _ => route_eq_some_iff, route_reads_iff, ?_,
    fun s s' t j v v' hr code enters proxied mine unrouted follows here => ?_⟩
  · rintro tail rfl address rest
    exact route_slash_iff
  have rests : (handler.guarded v.proxy v.errand v.handles).Rests v.data := by
    rw [proxied]
    exact guarded_rests v.errand v.handles (mine ▸ unrouted)
  obtain ⟨same, uncounted⟩ := follows.rests hr code (fun _ _ _ => rfl) enters rests here
  refine ⟨same, uncounted, fun log grown begun sound => ?_⟩
  obtain ⟨-, comes⟩ := follows.forwards hr code enters proxied here grown begun
  obtain ⟨s'', v'', comes, there, returned, -⟩ := comes sound
  exact ⟨s'', v'', comes, there, returned⟩

/-- A URI that is neither `/address` nor `/address/…` is routed all the same. -/
theorem route_beyond_grammar :
    route "a/b" = some ("b", "/") ∧ ¬ Names "a/b" "b" "/" := by
  refine ⟨by decide, fun names => ?_⟩
  obtain ⟨tail, slash⟩ := names.slash
  have first := congrArg (fun s : String => s.toList.head?) slash
  simp at first

/-- Thread 1 is about to make a proxy call for this URI through the demo. -/
def sampleForwarding (uri : String) : System :=
  (sampleDemo fun _ => none).spawn (.calling (.start 0 true { uri } {} {}))

theorem run_sampleForwarding (uri : String) : Run (sampleForwarding uri) :=
  (run_sampleDemo fun _ => none).move (.begin _ (.calling (.start 0 true { uri } {} {}))
    ⟨_, _, _, _, rfl⟩ fun n hn => by cases hn; exact ⟨_, List.mem_singleton.mpr rfl⟩)

/-- The thread has entered the module; then it is in the handler. -/
def sampleForwardingEntered (uri : String) : System := ((sampleForwarding uri).steps [1]).getD {}

def sampleForwardingBegun (uri : String) : System :=
  ((sampleForwardingEntered uri).steps [1, 1]).getD {}

theorem run_sampleForwardingEntered (uri : String) : Run (sampleForwardingEntered uri) :=
  (run_sampleForwarding uri).later (later_of_steps [1] rfl)

theorem route_grammar_sample : route "//api" = none ∧ ∃ v v' s,
    (sampleForwardingEntered "//api").Enters 1 0 v ∧ v.data.request.uri = "//api" ∧
    (sampleForwardingBegun "//api").Attends 1 0 v' ∧ v'.data = v.data ∧
    (sampleForwardingBegun "//api").step 1 = some s ∧
    (s.context 0).counted = ((sampleForwardingBegun "//api").context 0).counted ∧
    ∃ s'' v'', (sampleForwardingBegun "//api").Comes 1 s'' ∧ s''.Attends 1 0 v'' ∧
      v''.stage = .returned := by
  have unrouted : route "//api" = none := by decide
  have enters : (sampleForwardingEntered "//api").Enters 1 0 _ := ⟨⟨⟨_, rfl, .inl rfl, rfl⟩⟩, rfl⟩
  have here : (sampleForwardingBegun "//api").Attends 1 0 _ := ⟨⟨_, rfl, .inl rfl, rfl⟩⟩
  have grown : (sampleForwardingBegun "//api").threadLog 1 =
      (sampleForwardingEntered "//api").threadLog 1 ++
        [.entered .handleProxyRequest, .handlerBegun 1] := by decide +kernel
  obtain ⟨-, -, -, unchanged⟩ := route_grammar "//api"
  obtain ⟨same, uncounted, comes⟩ := unchanged _ _ 1 0 _ _ (run_sampleForwardingEntered "//api")
    ⟨_, rfl, rfl⟩ enters rfl rfl unrouted (follows_of_steps 1 [1, 1] rfl) here
  exact ⟨unrouted, _, _, _, enters, rfl, here, same, rfl, uncounted _ rfl,
    comes _ grown ⟨1, by simp⟩ (Handles.sound_handles true)⟩

/-- **What becomes of the query.** A proxy call that the demo's handler serves and whose URI is routed
comes back with the address as its target and the rewritten URI, and nothing else changed; and on
handles that the host has made nothing can keep it from that. The rewritten request keeps the query, and
its path loses the address and no more, just where the URI starts with a slash and no question mark
stands in the address. -/
theorem forwarded_query (hr : Run s) (code : s.HasHandler j handler) (enters : s.Enters t j v)
    (proxied : v.proxy = true) (routed : route v.data.request.uri = some (address, rest))
    (follows : s.Follows t s') (here : s'.Attends t j v')
    (grown : s'.threadLog t = s.threadLog t ++ log) (begun : Begun log) :
    (v'.stage = .returned → v'.data = forwarded v.handles v.data) ∧
    (v.handles.Sound → ∃ s'' v'', s'.Comes t s'' ∧ s''.Attends t j v'' ∧ v''.stage = .returned ∧
      v''.data = forwarded v.handles v.data) ∧
    ((forwarded v.handles v.data).request = { v.data.request with uri := rest } ∧
      (forwarded v.handles v.data).response = v.data.response ∧
      (v.handles.target.isSome = true → (forwarded v.handles v.data).target = some address)) ∧
    (KeepsQuery v.data.request (forwarded v.handles v.data).request address ↔
      (∃ tail, v.data.request.uri = "/" ++ tail) ∧ '?' ∉ address.toList) := by
  obtain ⟨returns, comes⟩ := follows.forwards hr code enters proxied here grown begun
  have told := forwarded_eq v.handles routed
  refine ⟨returns, comes, told, ?_⟩
  rw [told.1]
  exact keepsQuery_iff routed

/-- The question mark comes before the second slash: the query is taken for a part of the address. -/
theorem forwarded_query_lost : route "/backend?x=1" = some ("backend?x=1", "/") ∧
    ¬ KeepsQuery { uri := "/backend?x=1" } { uri := "/" } "backend?x=1" :=
  ⟨by decide, fun keeps => absurd keeps.query (by decide)⟩

theorem forwarded_query_sample : ∃ s v, (sampleForwardingBegun "/up/x?y=/z").Comes 1 s ∧
    s.Attends 1 0 v ∧ v.stage = .returned ∧ v.data.target = some "up" ∧
    v.data.request.uri = "/x?y=/z" ∧ KeepsQuery { uri := "/up/x?y=/z" } v.data.request "up" := by
  have routed : route "/up/x?y=/z" = some ("up", "/x?y=/z") := by decide
  have grown : (sampleForwardingBegun "/up/x?y=/z").threadLog 1 =
      (sampleForwardingEntered "/up/x?y=/z").threadLog 1 ++
        [.entered .handleProxyRequest, .handlerBegun 1] := by decide +kernel
  obtain ⟨-, comes, ⟨request, -, target⟩, keeps⟩ := forwarded_query
    (run_sampleForwardingEntered "/up/x?y=/z") ⟨_, rfl, rfl⟩ (t := 1) (j := 0)
    ⟨⟨⟨_, rfl, .inl rfl, rfl⟩⟩, rfl⟩ rfl routed (follows_of_steps 1 [1, 1] rfl)
    ⟨⟨_, rfl, .inl rfl, rfl⟩⟩ grown ⟨1, by simp⟩
  obtain ⟨s, v, there, here, returned, data⟩ := comes (Handles.sound_handles true)
  refine ⟨s, v, there, here, returned, ?_, ?_, ?_⟩
  · rw [data]
    exact target rfl
  · rw [data, request]
  · rw [data]
    exact keeps.mpr ⟨⟨"up/x?y=/z", by decide⟩, by decide⟩

end System

end ModuleHost
