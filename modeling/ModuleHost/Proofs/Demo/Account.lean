import Mathlib.Data.List.Perm.Basic
import Mathlib.Tactic.Abel
import ModuleHost.Proofs.Demo.Steps

/-!
# The account of the demo's output

What a value of the demo puts out is what its dispatches owe: one line for each request, one counted
for each request and each proxy call whose URI routes. While the value is in the slot, part of that is
written and counted, part is still to come from the handlers that run, and part is lost with handlers
that broke off (`Balanced`). A shutdown waits until no reader is counted; then nothing is to come and
nothing was lost, so that what is written has a line for each request, and then the last line with
the count (`LinePerRequest`). `Account` keeps this: `Account.step` goes by the steps of a thread, and
`chronicle_account` by the moves of a chronicle.
-/
namespace ModuleHost

open Text Boundary

namespace Demo

/-! ## What is owed -/

/-- The text that is due for a request. -/
def text (d : Dispatch) : String := line d.data.request ++ "\n"

/-- The dispatches to the value of a generation. -/
def calls (g : Nat) (ds : List Dispatch) : List Dispatch := ds.filter (·.generation == g)

/-- Those that were requests, and no proxy calls. -/
def requests (g : Nat) (ds : List Dispatch) : List Dispatch := (calls g ds).filter (!·.proxy)

/-- How many calls the value has counted in the end. -/
def total (g : Nat) (ds : List Dispatch) : Nat := (calls g ds).countP fun d => counts d.proxy d.data

/-- What the value of a generation puts out for its dispatches. -/
def owed (g : Nat) (ds : List Dispatch) : Output := (↑((requests g ds).map text), total g ds)

/-- Whether the texts are one line for each request, in some order, and then the last line. -/
def LinePerRequest (g : Nat) (texts : List String) (ds : List Dispatch) : Prop :=
  ∃ cs : List Dispatch, cs.Perm (requests g ds) ∧ texts = cs.map text ++ [farewell (total g ds) ++ "\n"]

section
variable {g : Nat} {ds ds' : List Dispatch} {texts : List String}

theorem owed_append : owed g (ds ++ ds') = owed g ds + owed g ds' := by
  simp only [owed, requests, total, calls, List.filter_append, List.map_append, List.countP_append]
  rfl

theorem owed_single {d : Dispatch} (same : d.generation = g) : owed g [d] = due d.proxy d.data := by
  have one : calls g [d] = [d] := by simp [calls, same]
  simp only [owed, requests, total, one, due]
  cases hd : d.proxy with
  | false => simp [hd, counts, text]
  | true => cases hr : route d.data.request.uri <;> simp [hd, hr, counts]

theorem calls_of_ne (other : ∀ d ∈ ds, d.generation ≠ g) : calls g ds = [] := by
  simpa [calls, List.filter_eq_nil_iff] using other

theorem calls_append_of_ne (other : ∀ d ∈ ds', d.generation ≠ g) :
    calls g (ds ++ ds') = calls g ds := by
  rw [calls, List.filter_append]
  exact (congrArg (calls g ds ++ ·) (calls_of_ne other)).trans (List.append_nil _)

theorem owed_of_ne (other : ∀ d ∈ ds, d.generation ≠ g) : owed g ds = 0 := by
  simp only [owed, requests, total, calls_of_ne other]
  rfl

theorem LinePerRequest.of_calls (each : LinePerRequest g texts ds) (same : calls g ds' = calls g ds) :
    LinePerRequest g texts ds' := by
  unfold LinePerRequest requests total at each ⊢
  rw [same]
  exact each

/-- Texts that are as much as those of a list, in whatever order, are those of the list in some
order. -/
theorem perm_map {α β : Type} {f : α → β} {l : List β} {as : List α} (h : l.Perm (as.map f)) :
    ∃ as' : List α, as'.Perm as ∧ l = as'.map f := by
  have each : List.Forall₂ (fun b a => b = f a) (as.map f) as :=
    List.forall₂_map_left_iff.mpr (List.forall₂_same.mpr fun _ _ => rfl)
  obtain ⟨as', same, perm⟩ := List.perm_comp_forall₂ h each
  refine ⟨as', perm, ?_⟩
  have eq := List.forall₂_map_right_iff.mpr same
  rwa [List.forall₂_eq_eq_eq] at eq

/-- Where all that was owed is written and counted, the last line makes the account complete. -/
theorem told_of_owed {n : Nat} (paid : ((↑texts, n) : Output) = owed g ds) :
    LinePerRequest g (texts ++ [farewell n ++ "\n"]) ds := by
  obtain ⟨lines, count⟩ := Prod.mk.inj paid
  obtain ⟨cs, perm, rfl⟩ := perm_map (Multiset.coe_eq_coe.mp lines)
  exact ⟨cs, perm, by rw [count]⟩

end

/-! ## The account -/

/-- While the value is in the slot, what is written and counted, what the handlers still put out, and
what was lost with some that broke off make up what is owed. For each that broke off, one reader more
is counted than runs. -/
def Balanced (v : HandlerValue) (b : OutputState) : Prop :=
  ∃ lost : Output,
    ((↑(written v.generation b.log), v.seen) : Output) + (b.posts.map Post.serves).sum + lost =
      owed v.generation b.dispatches ∧
    (lost = 0 ∨ b.posts.countP (·.hold.reads) < b.context.lock.readers)

structure Account (b : OutputState) : Prop where
  proper : ∀ σ ∈ b.posts, Proper σ
  live : ∀ v, b.context.slot = .live v → Balanced v b
  closing : ∀ σ ∈ b.posts, ∀ g rest, σ.closes? = some (g, rest) →
    LinePerRequest g (written g b.log ++ rest) b.dispatches
  closed : ∀ g, .dropped g ∈ b.log → LinePerRequest g (written g b.log) b.dispatches
  /-- Nothing is printed while no value is there. -/
  inside : ∀ before text after, b.log = before ++ .printed text :: after →
    ∃ g, .built g ∈ before ∧ .dropped g ∉ before

section
variable {b : OutputState} {c' : Context} {t : Nat} {σ σ' : Post} {events : List Event}

/-- A balance before a step and the balance of the step give the balance after it. -/
theorem add_balance {M : Type} [AddCommMonoid M] {done put left left' its its' lost extra due due' : M}
    (moved : left' + its = left + its') (before : done + left + lost = due)
    (step : put + its' + extra = its + due') :
    done + put + left' + (lost + extra) + its = due + due' + its :=
  calc done + put + left' + (lost + extra) + its
      = done + put + (left' + its) + (lost + extra) := by abel
    _ = (done + left + lost) + (put + its' + extra) := by
      rw [moved]
      abel
    _ = due + due' + its := by
      rw [before, step]
      abel

/-- What a thread puts out, it has less to put out; what it begins is owed; and what it gives up is
lost, with the reader that it was. -/
theorem Balanced.step {v : HandlerValue} {n : Nat} {extra : Output} (live : Balanced v b)
    (found : b.posts[t]? = some σ)
    (there : .built v.generation ∈ b.log ∧ .dropped v.generation ∉ b.log)
    (still : .dropped v.generation ∉ events)
    (balance : ((↑(pieces events), n) : Output) + σ'.serves + extra =
      σ.serves + owed v.generation (events.filterMap σ'.dispatch?))
    (readers : (extra = 0 ∧ (b.posts.countP (·.hold.reads) < b.context.lock.readers →
        (b.posts.set t σ').countP (·.hold.reads) < c'.lock.readers)) ∨
      (b.posts.set t σ').countP (·.hold.reads) < c'.lock.readers) :
    Balanced { v with seen := v.seen + n } (b.after t σ' c' events) := by
  obtain ⟨lost, sum, open_⟩ := live
  have moved := sum_map_set Post.serves found σ'
  refine ⟨lost + extra, ?_, ?_⟩
  · have texts : ((↑(written v.generation (b.log ++ events)), v.seen + n) : Output) =
        ((↑(written v.generation b.log), v.seen) : Output) + ((↑(pieces events), n) : Output) := by
      rw [written_append there.1 there.2 still]
      rfl
    refine add_right_cancel (b := σ.serves) ?_
    show ((↑(written v.generation (b.log ++ events)), v.seen + n) : Output) +
      ((b.posts.set t σ').map Post.serves).sum + (lost + extra) + σ.serves = _
    rw [texts, add_balance moved sum balance]
    exact congrArg (· + σ.serves) owed_append.symm
  · rcases readers with ⟨rfl, readers⟩ | readers
    · rcases open_ with rfl | open_
      · exact .inl (add_zero 0)
      · exact .inr (readers open_)
    · exact .inr readers

/-- A dispatch begins to the value in the slot only. -/
theorem OutputStep.begun {c : Context} (out : OutputStep c c' events σ σ') {g : Nat}
    (other : c.slot.value? ≠ some g) : ∀ d ∈ events.filterMap σ'.dispatch?, d.generation ≠ g := by
  have quiet (none : ∀ e ∈ events, e.isDispatch = false) :
      ∀ d ∈ events.filterMap σ'.dispatch?, d.generation ≠ g := by
    rw [Post.begun_eq_nil none]
    exact fun d mem => absurd mem List.not_mem_nil
  cases out with
  | begins v d live before closes reads due same slot readers events' begun =>
    rw [begun]
    intro d' mem same'
    obtain rfl := List.mem_singleton.mp mem
    rw [live] at other
    exact other (congrArg some (same.symm.trans same'))
  | idle before after readers slot idle =>
    exact quiet fun e he => Event.isDispatch_of_generation? (idle e he).1
  | puts v n live closes closes' reads reads' output after still
  | speaks g rest closes closes' same still =>
    exact quiet fun e he => Event.isDispatch_of_generation? (still e he)
  | builds n before after starting slot events' | ends g reads serves closes after slot readers events'
  | breaks reads closes after same events' | closes v live before closes readers torn events'
  | drops g closes after slot events' =>
    cases events'
    exact quiet (by simp [Event.isDispatch])

/-- A value is dropped by who has shut it down and has nothing more to say. -/
theorem OutputStep.dropped {c : Context} (out : OutputStep c c' events σ σ') {g : Nat}
    (there : .dropped g ∈ events) : σ.closes? = some (g, []) ∧ events = [.dropped g] := by
  cases out with
  | drops g' closes after slot events' =>
    cases events'
    cases List.mem_singleton.mp there
    exact ⟨closes, rfl⟩
  | idle before after readers slot idle => cases (idle _ there).1
  | puts v n live closes closes' reads reads' output after still
  | speaks g rest closes closes' same still => cases still _ there
  | builds n before after starting slot events' | ends g reads serves closes after slot readers events'
  | breaks reads closes after same events' | closes v live before closes readers torn events'
  | begins v d live before closes reads due same slot readers events' begun =>
    cases events'
    simp at there

/-- While one thread shuts a value down, the others print nothing. -/
theorem OutputStep.silent (out : OutputStep b.context c' events σ σ') (sound : b.Sound)
    (found : b.posts[t]? = some σ) {u g : Nat} {τ : Post} {rest : List String}
    (other : b.posts[u]? = some τ) (ne : u ≠ t) (closes : τ.closes? = some (g, rest)) :
    pieces events = [] := by
  have empty := sound.closing_slot (List.mem_of_getElem? other) closes
  have unclaimed : σ.hold.claims = true → False := fun claims =>
    ne (sound.alone found claims other closes)
  have unclosing {g : Nat} {rest : List String} (h : σ.closes? = some (g, rest)) : False := by
    refine unclaimed ?_
    rcases Post.hold_of_closes h with h | h <;> rw [h] <;> rfl
  cases out with
  | idle before after readers slot idle => exact pieces_of_idle idle
  | builds n before after starting => exact (unclaimed (by rw [starting]; rfl)).elim
  | ends g reads serves closes after slot readers events' | breaks reads closes after same events' =>
    cases events'
    rfl
  | begins v d live | puts v n live | closes v live =>
    rw [live] at empty
    cases empty
  | speaks g rest closes | drops g closes => exact (unclosing closes).elim

theorem live_built (sound : b.Sound) (found : b.posts[t]? = some σ) (before : σ.Idle)
    (after : σ'.Idle) (starting : σ.hold = .starting) (n : Notice) :
    Balanced ⟨b.context.generation + 1, 0⟩
      (b.after t σ' c' [.built (b.context.generation + 1), .notice n]) := by
  have writes : σ.hold.writes = true := by rw [starting]; rfl
  obtain ⟨none, -⟩ := sound.locks.writer
    (List.countP_pos_iff.mpr ⟨_, OutputState.hold_mem (List.mem_of_getElem? found), writes⟩)
  obtain ⟨unborn, undropped, uncalled⟩ := sound.unborn (Nat.lt_succ_self b.context.generation)
  have moved := sum_map_set Post.serves found σ'
  rw [before.serves, after.serves, sound.silent none, add_zero, add_zero] at moved
  have begun : [Event.built (b.context.generation + 1), .notice n].filterMap σ'.dispatch? = [] :=
    Post.begun_eq_nil (by simp [Event.isDispatch])
  refine ⟨0, ?_, .inl rfl⟩
  show ((↑(written (b.context.generation + 1) (b.log ++ .built (b.context.generation + 1) ::
      [.notice n])), 0) : Output) + ((b.posts.set t σ').map Post.serves).sum + 0 =
    owed (b.context.generation + 1) (b.dispatches ++ _)
  rw [written_built unborn undropped (by simp), moved, begun, List.append_nil, owed_of_ne uncalled]
  rfl

theorem Account.live_step (account : Account b) (sound : b.Sound) (found : b.posts[t]? = some σ)
    (out : OutputStep b.context c' events σ σ') (v' : HandlerValue) (slot' : c'.slot = .live v') :
    Balanced v' (b.after t σ' c' events) := by
  have mem := List.mem_of_getElem? found
  have count := countP_set_add found σ' (·.hold.reads)
  cases out with
  | idle before after readers slot quiet =>
    have live := slot v' slot'
    have begun : events.filterMap σ'.dispatch? = [] := Post.begun_eq_nil fun e he =>
      Event.isDispatch_of_generation? (quiet e he).1
    have balance : ((↑(pieces events), 0) : Output) + σ'.serves + 0 =
        σ.serves + owed v'.generation (events.filterMap σ'.dispatch?) := by
      rw [pieces_of_idle quiet, begun, before.serves, after.serves]
      rfl
    refine (account.live v' live).step found (sound.live live) ?_ balance (.inl ⟨rfl, ?_⟩)
    · exact fun there => by cases (quiet _ there).1
    · rw [before.reads, after.reads] at count
      omega
  | builds n before after starting slot events' =>
    cases events'
    obtain rfl := Slot.live.inj (slot.symm.trans slot')
    exact live_built sound found before after starting n
  | begins v d live before closes reads due same slot readers events' begun =>
    cases events'
    obtain rfl := Slot.live.inj (live.symm.trans (slot.symm.trans slot'))
    have balance : ((↑(pieces [.handlerBegun v.generation]), 0) : Output) + σ'.serves + 0 =
        σ.serves + owed v.generation ([.handlerBegun v.generation].filterMap σ'.dispatch?) := by
      rw [begun, owed_single same, due, before.serves]
      exact add_zero _
    refine (account.live v live).step found (sound.live live) (by simp) balance (.inl ⟨rfl, ?_⟩)
    rw [before.reads, reads] at count
    simp only [if_true, if_false, Bool.false_eq_true] at count
    omega
  | puts v n live closes closes' reads reads' output after quiet =>
    rw [after] at slot'
    obtain rfl := Slot.live.inj slot'
    have begun : events.filterMap σ'.dispatch? = [] := Post.begun_eq_nil fun e he =>
      Event.isDispatch_of_generation? (quiet e he)
    have balance : ((↑(pieces events), n) : Output) + σ'.serves + 0 =
        σ.serves + owed v.generation (events.filterMap σ'.dispatch?) := by
      rw [begun, output]
      rfl
    refine (account.live v live).step found (sound.live live) ?_ balance (.inl ⟨rfl, ?_⟩)
    · exact fun there => by cases quiet _ there
    · rw [reads, reads'] at count
      rw [after]
      show _ → _ < b.context.lock.readers
      omega
  | ends g reads serves closes after slot readers events' =>
    cases events'
    have live : b.context.slot = .live v' := slot.symm.trans slot'
    have balance : ((↑(pieces [.handlerEnded g]), 0) : Output) + σ'.serves + 0 =
        σ.serves + owed v'.generation ([.handlerEnded g].filterMap σ'.dispatch?) := by
      rw [Post.begun_eq_nil (by simp [Event.isDispatch]), serves, after.serves]
      rfl
    refine (account.live v' live).step found (sound.live live) (by simp) balance (.inl ⟨rfl, ?_⟩)
    rw [reads, after.reads] at count
    simp only [if_true, if_false, Bool.false_eq_true] at count
    omega
  | breaks reads closes after same events' =>
    cases events'
    rw [same] at slot' ⊢
    have balance : ((↑(pieces []), 0) : Output) + σ'.serves + σ.serves =
        σ.serves + owed v'.generation ([].filterMap σ'.dispatch?) := by
      rw [after.serves]
      exact (zero_add _).trans (add_zero _).symm
    refine (account.live v' slot').step found (sound.live slot') (by simp) balance (.inr ?_)
    have counted := sound.readers
    rw [reads, after.reads] at count
    simp only [if_true, if_false, Bool.false_eq_true] at count
    omega
  | closes v live before closes readers torn events' => cases torn.symm.trans slot'
  | speaks g rest closes closes' same quiet =>
    rw [same] at slot'
    have empty := sound.closing_slot mem closes
    rw [slot'] at empty
    cases empty
  | drops g closes after slot events' =>
    have empty := sound.closing_slot mem closes
    rw [← slot, slot'] at empty
    cases empty

theorem Account.closing_step (account : Account b) (sound : b.Sound)
    (found : b.posts[t]? = some σ) (out : OutputStep b.context c' events σ σ') {τ : Post}
    (mem : τ ∈ b.posts.set t σ') {g : Nat} {rest : List String}
    (closes : τ.closes? = some (g, rest)) :
    LinePerRequest g (written g (b.log ++ events) ++ rest)
      (b.dispatches ++ events.filterMap σ'.dispatch?) := by
  have mine := List.mem_of_getElem? found
  obtain ⟨u, hu⟩ := List.mem_iff_getElem?.mp mem
  rcases of_getElem?_set hu with ⟨-, rfl⟩ | ⟨ne, other⟩
  · cases out with
    | closes v live before closes' readers torn events' =>
      cases events'
      obtain ⟨rfl, rfl⟩ := Prod.mk.inj (Option.some.inj (closes'.symm.trans closes))
      obtain ⟨born, there⟩ := sound.live live
      obtain ⟨lost, sum, open_⟩ := account.live v live
      obtain rfl : lost = 0 := open_.resolve_right (by omega)
      rw [sound.silent readers, add_zero, add_zero] at sum
      rw [Post.begun_eq_nil (by simp [Event.isDispatch]), List.append_nil,
        written_append born there (by simp)]
      exact (List.append_nil (written v.generation b.log)).symm ▸ told_of_owed sum
    | speaks g rest closes₀ closes' same still =>
      obtain ⟨rfl, rfl⟩ := Prod.mk.inj (Option.some.inj (closes'.symm.trans closes))
      obtain ⟨born, there⟩ := sound.closing mine closes₀
      have each := account.closing σ mine g _ closes₀
      rw [Post.begun_eq_nil fun e he => Event.isDispatch_of_generation? (still e he), List.append_nil,
        written_append born there (fun gone => by cases still _ gone), List.append_assoc]
      exact each
    | idle before after | builds n before after | ends g reads serves none after
    | breaks reads none after | drops g none after => cases after.closes.symm.trans closes
    | begins v d live before none | puts v n live before none => cases none.symm.trans closes
  · have mem' := List.mem_of_getElem? other
    obtain ⟨born, there⟩ := sound.closing mem' closes
    have empty := sound.closing_slot mem' closes
    have still : .dropped g ∉ events := by
      intro gone
      have closes' := (out.dropped gone).1
      refine ne (sound.alone found ?_ other closes)
      rcases Post.hold_of_closes closes' with h | h <;> rw [h] <;> rfl
    rw [written_append born there still, out.silent sound found other ne closes, List.append_nil]
    exact (account.closing τ mem' g rest closes).of_calls
      (calls_append_of_ne (out.begun (by rw [empty]; simp)))

theorem Account.closed_step (account : Account b) (sound : b.Sound)
    (found : b.posts[t]? = some σ) (out : OutputStep b.context c' events σ σ') {g : Nat}
    (gone : .dropped g ∈ b.log ++ events) :
    LinePerRequest g (written g (b.log ++ events)) (b.dispatches ++ events.filterMap σ'.dispatch?) := by
  by_cases before : .dropped g ∈ b.log
  · have other : b.context.slot.value? ≠ some g := by
      intro value
      cases slot : b.context.slot with
      | live v =>
        rw [slot] at value
        cases value
        exact (sound.live slot).2 before
      | fresh | tornDown =>
        rw [slot] at value
        cases value
    rw [written_dropped before]
    exact (account.closed g before).of_calls (calls_append_of_ne (out.begun other))
  · obtain ⟨closes, rfl⟩ := out.dropped ((List.mem_append.mp gone).resolve_left before)
    have each := account.closing σ (List.mem_of_getElem? found) g [] closes
    rw [List.append_nil] at each
    rw [written_drop before, Post.begun_eq_nil (by simp [Event.isDispatch]), List.append_nil]
    exact each

/-- Who prints works on a value that was built and is not dropped. -/
theorem OutputStep.there (out : OutputStep b.context c' events σ σ') (sound : b.Sound)
    (found : b.posts[t]? = some σ) {text : String} (mem : .printed text ∈ events) :
    ∃ g, .built g ∈ b.log ∧ .dropped g ∉ b.log ∧ .dropped g ∉ events := by
  cases out with
  | puts v n live closes closes' reads reads' output after still =>
    obtain ⟨born, there⟩ := sound.live live
    exact ⟨v.generation, born, there, fun gone => by cases still _ gone⟩
  | speaks g rest closes closes' same still =>
    obtain ⟨born, there⟩ := sound.closing (List.mem_of_getElem? found) closes
    exact ⟨g, born, there, fun gone => by cases still _ gone⟩
  | idle before after readers slot idle => cases (idle _ mem).2
  | builds n before after starting slot events' | ends g reads serves closes after slot readers events'
  | breaks reads closes after same events' | closes v live before closes readers torn events'
  | begins v d live before closes reads due same slot readers events' begun
  | drops g closes after slot events' =>
    cases events'
    simp at mem

theorem Account.inside_step (account : Account b) (sound : b.Sound) (found : b.posts[t]? = some σ)
    (out : OutputStep b.context c' events σ σ') {before after : List Event} {text : String}
    (split : b.log ++ events = before ++ .printed text :: after) :
    ∃ g, .built g ∈ before ∧ .dropped g ∉ before := by
  -- Whether it was printed in this step, or before.
  have now {pre : List Event} (new : events = pre ++ .printed text :: after) :
      ∃ g, .built g ∈ b.log ++ pre ∧ .dropped g ∉ b.log ++ pre := by
    have mem : .printed text ∈ events := by
      rw [new]
      exact List.mem_append_right _ List.mem_cons_self
    obtain ⟨g, born, there, still⟩ := out.there sound found mem
    refine ⟨g, List.mem_append_left _ born, fun gone => ?_⟩
    rcases List.mem_append.mp gone with gone | gone
    · exact there gone
    · exact still (new ▸ List.mem_append_left _ gone)
  rcases List.append_eq_append_iff.mp split with ⟨pre, rfl, new⟩ | ⟨rest, old, new⟩
  · exact now new
  · rcases List.cons_eq_append_iff.mp new with ⟨rfl, same⟩ | ⟨rest', rfl, -⟩
    · have new : events = [] ++ .printed text :: after := same
      have here := now new
      rwa [List.append_nil, old, List.append_nil] at here
    · exact account.inside before text rest' old

/-- **Every step of the demo keeps the account.** -/
theorem Account.step (account : Account b) (sound : b.Sound) (found : b.posts[t]? = some σ)
    (out : OutputStep b.context c' events σ σ') (proper : Proper σ') :
    Account (b.after t σ' c' events) where
  proper τ mem := (List.mem_or_eq_of_mem_set mem).elim (account.proper τ) fun same => same ▸ proper
  live v' slot' := account.live_step sound found out v' slot'
  closing _ mem _ _ closes := account.closing_step sound found out mem closes
  closed _ gone := account.closed_step sound found out gone
  inside _ _ _ split := account.inside_step sound found out split

theorem Account.join (account : Account b) {more : List Post} (new : ∀ σ ∈ more, σ.IsNew) :
    Account { b with posts := b.posts ++ more } := by
  have idle : ∀ σ ∈ more, σ.Idle := fun σ mem => Post.idle_of_free (new σ mem).hold
  refine ⟨fun σ mem => ?_, fun v slot => ?_, fun σ mem g rest closes => ?_, account.closed,
    account.inside⟩
  · exact (List.mem_append.mp mem).elim (account.proper σ) fun mem => proper_of_isNew (new σ mem)
  · obtain ⟨lost, sum, open_⟩ := account.live v slot
    have serves : (more.map Post.serves).sum = 0 := by
      refine List.sum_eq_zero fun o mem => ?_
      obtain ⟨σ, hσ, rfl⟩ := List.mem_map.mp mem
      exact (idle σ hσ).serves
    have reads : more.countP (·.hold.reads) = 0 :=
      List.countP_eq_zero.mpr fun σ mem => by simp [(idle σ mem).reads]
    refine ⟨lost, ?_, ?_⟩
    · rw [List.map_append, List.sum_append, serves, add_zero]
      exact sum
    · rw [List.countP_append, reads, Nat.add_zero]
      exact open_
  · rcases List.mem_append.mp mem with mem | mem
    · exact account.closing σ mem g rest closes
    · cases (idle σ mem).closes.symm.trans closes

end

/-- **The account is kept in every chronicle** of a module that is the demo. -/
theorem chronicle_account {s : System} {j : Nat} {ds : List Dispatch}
    (h : System.Chronicle j s ds) (own : ∀ m, s.modules[j]? = some m → demo.module.SameCode m) :
    Account (s.outputState j ds) := by
  induction h with
  | start =>
    refine ⟨fun σ mem => ?_, fun v slot => ?_, fun σ mem => ?_, fun g gone => ?_,
      fun before text after none => ?_⟩
    · cases mem
    · cases slot
    · cases mem
    · cases gone
    · simp [System.outputState, System.moduleLog, System.log] at none
  | @move s s' ds before hm ih =>
    have own₀ : ∀ m, s.modules[j]? = some m → demo.module.SameCode m := by
      intro m found
      obtain ⟨m', found', same⟩ := hm.code before.run found
      have own' := own m' found'
      exact ⟨same.code.symm.trans own'.code, same.probe.symm.trans own'.probe,
        same.sink.symm.trans own'.sink⟩
    have account := ih own₀
    have sound := before.sound
    rcases hm.touches before.run.orderly j with
      ⟨more, new, posts, log, none, context⟩ |
        ⟨t, σ, σ', m, m', events, found, hm₀, hm', step, -, posts, log, begun⟩
    · have joined := account.join new
      unfold System.outputState at joined ⊢
      rwa [posts, log, none, context, List.append_nil]
    · have context : s.context j = m.context := by simp [System.context, hm₀]
      have context' : s'.context j = m'.context := by simp [System.context, hm']
      have reading : ∀ g, σ.hold = .reading g → m.context.slot.value? = some g := by
        intro g reads
        rw [← context]
        exact sound.locks.reading g (reads ▸ OutputState.hold_mem (List.mem_of_getElem? found))
      obtain ⟨out, proper⟩ := outputStep_of_step (own₀ m hm₀)
        (account.proper σ (List.mem_of_getElem? found)) reading step
      rw [← context] at out
      have after := account.step sound found out proper
      unfold System.outputState
      rw [posts, log, begun, context']
      exact after

end Demo

end ModuleHost
