import Mathlib.Data.List.TakeWhile
import ModuleHost.Toml.Document
import ModuleHost.Toml.Scalar

/-!
# Texts read back

What `renderText` writes is read as the text that it was written for, whatever comes behind but a quote
(`text_renderText`). The quotes tell the four forms apart, so there is one lemma for the inside of each:
character by character where a form has escapes (`Spelled`), and with an eye on the quotes in a row where
three of them end the text (`closing?_append`).
-/
namespace ModuleHost.Toml

open Text

variable {c q : Char} {s w rest : List Char} {form : TextForm}

/-- Whether what comes behind a text is no quote. -/
def Stops (rest : List Char) : Prop := ∀ q ∈ ['"', '\''], rest.head? ≠ some q

/-! ## Characters -/

theorem isPlain_of_not_isCode (code : isCode c = false) (line : c ≠ '\n') : isPlain c = true := by
  simp only [isCode, Bool.or_eq_false_iff, Bool.and_eq_false_iff, decide_eq_false_iff_not, bne_eq_false_iff_eq,
    beq_eq_false_iff_ne, line, or_false] at code
  obtain ⟨low | tab, del⟩ := code
  · simp [isPlain, Nat.not_lt.mp low, del]
  · simp [isPlain, tab]

theorem isPlain_of_codes (codes : s.any isCode = false) :
    ∀ c ∈ s, isPlain c = true ∨ c = '\n' := by
  intro c mem
  have code : isCode c = false := eq_false_of_ne_true (List.any_eq_false.mp codes c mem)
  exact (Classical.em (c = '\n')).symm.imp_left (isPlain_of_not_isCode code)

theorem scalar?_numbered (code : isCode c = true) :
    scalar? ['0', '0', upperHexDigit (c.toNat / 16 % 16), upperHexDigit (c.toNat % 16)] = some c := by
  have small : c.toNat < 128 := by
    simp only [isCode, Bool.or_eq_true, Bool.and_eq_true, decide_eq_true_eq, beq_iff_eq] at code
    omega
  have all : ∀ n < 128, scalar? ['0', '0', upperHexDigit (n / 16 % 16), upperHexDigit (n % 16)] =
      some (Char.ofNat n) := by decide
  rw [all _ small, Char.ofNat_toNat]

/-- How a character stands in a form with escapes: as it is, or behind a backslash, with as many
characters as the escape takes. -/
inductive Spelled (form : TextForm) (c : Char) : List Char → Prop
  | plain : isPlain c = true → c ≠ '"' → c ≠ '\\' → Spelled form c [c]
  | lineEnd : form = .longBasic → c = '\n' → Spelled form c ['\n']
  | escape (d : Char) (tail : List Char) : isWs d = false → d ≠ '\n' → d ≠ '\r' →
      (∀ rest, (escape (d :: tail ++ rest)).map Prod.fst = some c) →
      (∀ rest, escapeLength (d :: tail ++ rest) = (d :: tail).length) →
      Spelled form c ('\\' :: d :: tail)

theorem Spelled.head (spelled : Spelled form c w) : ∃ d tail, w = d :: tail ∧ d ≠ '"' := by
  cases spelled with
  | plain _ quote _ => exact ⟨c, [], rfl, quote⟩
  | lineEnd => exact ⟨'\n', [], rfl, by decide⟩
  | escape d tail => exact ⟨'\\', d :: tail, rfl, by decide⟩

theorem spelled_letter {d : Char} (letter : (c, d) ∈ [('"', '"'), ('\\', '\\'), ('\n', 'n'),
    ('\x08', 'b'), ('\t', 't'), ('\x0c', 'f'), ('\r', 'r')]) : Spelled form c ['\\', d] := by
  simp only [List.mem_cons, Prod.mk.injEq, List.not_mem_nil, or_false] at letter
  rcases letter with ⟨rfl, rfl⟩ | ⟨rfl, rfl⟩ | ⟨rfl, rfl⟩ | ⟨rfl, rfl⟩ | ⟨rfl, rfl⟩ | ⟨rfl, rfl⟩ |
    ⟨rfl, rfl⟩ <;>
  exact .escape _ [] rfl (by decide) (by decide) (fun _ => rfl) fun _ => rfl

theorem spelled_escapeChar (form : TextForm) (other : c ≠ '"') : Spelled form c (escapeChar form c) := by
  unfold escapeChar
  split
  · exact spelled_letter (by simp [*])
  rename_i backslash
  split
  · split
    · exact .lineEnd ‹_› ‹_›
    · exact spelled_letter (by simp [*])
  rename_i line
  split
  · exact spelled_letter (by simp [*])
  split
  · exact spelled_letter (by simp [*])
  split
  · exact spelled_letter (by simp [*])
  split
  · exact spelled_letter (by simp [*])
  split
  · rename_i code
    refine .escape 'u' _ rfl (by decide) (by decide) (fun rest => ?_) fun _ => rfl
    have read : (escape ('u' :: '0' :: '0' :: upperHexDigit (c.toNat / 16 % 16) ::
        upperHexDigit (c.toNat % 16) :: rest)) = (some c).map (·, rest) := by
      rw [escape, scalar?_numbered code]
    exact congrArg (Option.map Prod.fst) read
  · rename_i code
    exact .plain (isPlain_of_not_isCode (by simpa using code) line) other backslash

/-! ## One line -/

theorem basicBody_skip (tail rest : List Char) :
    basicBody tail.length (tail ++ rest) = basicBody 0 rest := by
  induction tail with
  | nil => rfl
  | cons c tail ih => exact ih

theorem basicBody_spelled (spelled : Spelled .basic c w) (rest : List Char) :
    basicBody 0 (w ++ rest) = (basicBody 0 rest).map fun r => (c :: r.1, r.2) := by
  cases spelled with
  | plain plain quote backslash =>
    simp only [List.singleton_append, basicBody, quote, backslash, plain, if_false, if_true]
  | lineEnd other => cases other
  | escape d tail _ _ _ read length =>
    obtain ⟨⟨e, after⟩, found, rfl⟩ := Option.map_eq_some_iff.mp (read rest)
    have skip := basicBody_skip (d :: tail) rest
    rw [← length rest] at skip
    simp only [List.cons_append] at found skip ⊢
    rw [basicBody]
    simp only [Char.reduceEq, if_false, if_true, found, skip, Option.bind_eq_bind,
      Option.bind_some]
    cases basicBody 0 rest <;> rfl

theorem basicBody_escaped (s rest : List Char) (run : Nat) :
    basicBody 0 (escaped .basic run s ++ '"' :: rest) = some (s, rest) := by
  induction s generalizing run with
  | nil => rfl
  | cons c s ih =>
    by_cases quote : c = '"'
    · subst quote
      have free : ¬ run < TextForm.basic.freeQuotes := Nat.not_lt_zero run
      have spelled : Spelled .basic '"' ['\\', '"'] := spelled_letter (by simp)
      have read := basicBody_spelled spelled (escaped .basic 0 s ++ '"' :: rest)
      rw [ih] at read
      rw [escaped, if_pos rfl, if_neg free]
      exact read
    · rw [escaped, if_neg quote, List.append_assoc, basicBody_spelled (spelled_escapeChar .basic quote), ih]
      rfl

theorem literalBody_append (plain : ∀ c ∈ s, isPlain c = true) (free : '\'' ∉ s) (rest : List Char) :
    literalBody (s ++ '\'' :: rest) = some (s, rest) := by
  induction s with
  | nil => rfl
  | cons c s ih =>
    obtain ⟨first, later⟩ := List.forall_mem_cons.mp plain
    simp only [List.mem_cons, not_or] at free
    simp only [List.cons_append, literalBody, Ne.symm free.1, if_false, first, if_true,
      ih later free.2, Option.map_some]

/-! ## Several lines -/

theorem closing?_of_ne {l : List Char} (other : c ≠ q) : closing? q (c :: l) = none := by
  unfold closing?
  split
  · rename_i same
    cases same
    rw [if_neg fun h => other h.1]
  · rfl

/-- Where at most two quotes stand before the three that close a text, these are of the text. -/
theorem closing?_close (few : s.length ≤ 2) (all : ∀ c ∈ s, c = q) (stops : rest.head? ≠ some q) :
    closing? q (s ++ q :: q :: q :: rest) = some (s, rest) := by
  have next : ∀ c r, rest = c :: r → c ≠ q := by
    rintro c r rfl rfl
    exact stops rfl
  match s, few with
  | [], _ =>
    cases rest with
    | nil => simp [closing?]
    | cons c r =>
      cases r <;> simp [closing?, next c _ rfl]
  | [a], _ =>
    obtain rfl := all a (by simp)
    cases rest with
    | nil => simp [closing?]
    | cons c r => simp [closing?, next c _ rfl]
  | [a, b], _ =>
    obtain rfl := all a (by simp)
    obtain rfl := all b (by simp)
    simp [closing?]

/-- Where a text in triple quotes can end: its last quotes are met together with the closing ones, and
before that there is no end. -/
theorem closing?_append (lead : (w.takeWhile (· == q)).length ≤ 2) (stops : rest.head? ≠ some q) :
    ((∀ x ∈ w, x = q) ∧ closing? q (w ++ q :: q :: q :: rest) = some (w, rest)) ∨
      ((∃ c w', w = c :: w') ∧ closing? q (w ++ q :: q :: q :: rest) = none) := by
  by_cases all : ∀ x ∈ w, x = q
  · have whole : w.takeWhile (· == q) = w := List.takeWhile_eq_self_iff.mpr (by simpa using all)
    rw [whole] at lead
    exact .inl ⟨all, closing?_close lead all stops⟩
  · right
    match w with
    | [] => simp at all
    | a :: w =>
      refine ⟨⟨a, w, rfl⟩, ?_⟩
      by_cases first : a = q
      · subst first
        match w with
        | [] => simp at all
        | [b] =>
          have second : b ≠ a := by simpa using all
          simp [closing?, second]
        | b :: c :: w =>
          have short : b ≠ a ∨ c ≠ a := by
            by_contra same
            simp only [not_or, not_not] at same
            obtain ⟨rfl, rfl⟩ := same
            simp at lead
          simp only [List.cons_append, closing?, true_and]
          rw [if_neg fun same => short.elim (· same.1) (· same.2)]
      · exact closing?_of_ne first

theorem length_takeWhile_le (q : Char) (s : List Char) (run : Nat) :
    run + (s.takeWhile (· == q)).length ≤ longestRun q run s := by
  induction s generalizing run with
  | nil => exact Nat.le_refl _
  | cons c s ih =>
    by_cases same : c = q
    · have more := ih (run + 1)
      simp only [longestRun, same, if_true, List.takeWhile_cons, beq_self_eq_true, List.length_cons]
      omega
    · have none : ((c :: s).takeWhile (· == q)).length = 0 := by simp [same]
      rw [none, longestRun, if_neg same]
      exact Nat.le_max_left run _

theorem longestRun_tail {run : Nat} (few : longestRun q run (c :: s) ≤ 2) : ∃ run, longestRun q run s ≤ 2 := by
  unfold longestRun at few
  split at few
  · exact ⟨run + 1, few⟩
  · exact ⟨0, (Nat.le_max_right _ _).trans few⟩

theorem longLiteralBody_append {run : Nat} (plain : ∀ c ∈ s, isPlain c = true ∨ c = '\n')
    (few : longestRun '\'' run s ≤ 2) (stops : Stops rest) :
    longLiteralBody (s ++ '\'' :: '\'' :: '\'' :: rest) = some (s, rest) := by
  induction s generalizing run with
  | nil =>
    have close := closing?_close (s := []) (Nat.zero_le 2) (by simp) (stops '\'' (by simp))
    rw [List.nil_append] at close ⊢
    simp only [longLiteralBody, close]
  | cons c s ih =>
    obtain ⟨first, later⟩ := List.forall_mem_cons.mp plain
    obtain ⟨run', fewer⟩ := longestRun_tail few
    have lead := (Nat.le_add_left _ _).trans ((length_takeWhile_le '\'' (c :: s) run).trans few)
    rcases closing?_append lead (stops '\'' (by simp)) with ⟨-, close⟩ | ⟨-, open_⟩
    · rw [List.cons_append] at close ⊢
      simp only [longLiteralBody, close]
    · rw [List.cons_append] at open_ ⊢
      simp only [longLiteralBody, open_, ih later fewer, Option.map_some]
      by_cases line : c = '\n'
      · simp [line]
      · have plain := first.resolve_right line
        have back : c ≠ '\r' := by
          rintro rfl
          cases plain
        simp [line, back, plain]

/-! ## Several lines with escapes -/

theorem longBasicBody_close {r : List Char} {out : List Char × List Char}
    (close : closing? '"' (c :: r) = some out) : longBasicBody .plain (c :: r) = some out := by
  simp only [longBasicBody, close, reduceCtorEq, false_and, if_false]

theorem longBasicBody_plain {r : List Char} (open_ : closing? '"' (c :: r) = none)
    (backslash : c ≠ '\\') (plain : isPlain c = true ∨ c = '\n') :
    longBasicBody .plain (c :: r) = (longBasicBody .plain r).map fun out => (c :: out.1, out.2) := by
  simp only [longBasicBody, open_, reduceCtorEq, false_and, if_false, backslash]
  by_cases line : c = '\n'
  · simp only [line, if_true]
  · have plain := plain.resolve_right line
    have back : c ≠ '\r' := by
      rintro rfl
      cases plain
    simp only [line, back, plain, if_false, if_true]

theorem longBasicBody_skip (tail rest : List Char) (some : tail ≠ []) :
    longBasicBody (.skip tail.length) (tail ++ rest) = longBasicBody .plain rest := by
  induction tail with
  | nil => exact absurd rfl some
  | cons c tail ih =>
    cases tail with
    | nil => rfl
    | cons d tail => exact ih (List.cons_ne_nil d tail)

theorem longBasicBody_spelled (spelled : Spelled .longBasic c w) (rest : List Char) :
    longBasicBody .plain (w ++ rest) =
      (longBasicBody .plain rest).map fun out => (c :: out.1, out.2) := by
  cases spelled with
  | plain plain quote backslash =>
    exact longBasicBody_plain (closing?_of_ne quote) backslash (.inl plain)
  | lineEnd _ line =>
    subst line
    exact longBasicBody_plain (closing?_of_ne (by decide)) (by decide) (.inr rfl)
  | escape d tail ws line back read length =>
    obtain ⟨⟨e, after⟩, found, rfl⟩ := Option.map_eq_some_iff.mp (read rest)
    have skip := longBasicBody_skip (d :: tail) rest (List.cons_ne_nil d tail)
    rw [← length rest] at skip
    have open_ : closing? '"' ('\\' :: d :: (tail ++ rest)) = none := closing?_of_ne (by decide)
    simp only [List.cons_append] at found skip ⊢
    rw [longBasicBody.eq_def .plain ('\\' :: d :: _)]
    simp only [open_, reduceCtorEq, false_and, if_false, if_true, ws, line, back,
      Bool.false_eq_true, or_self, found, skip, Option.bind_eq_bind, Option.bind_some]
    cases longBasicBody .plain rest <;> rfl

theorem lead_escaped (s : List Char) {run : Nat} (few : run ≤ 2) :
    run + ((escaped .longBasic run s).takeWhile (· == '"')).length ≤ 2 := by
  induction s generalizing run with
  | nil => simpa [escaped] using few
  | cons c s ih =>
    by_cases quote : c = '"'
    · by_cases free : run < 2
      · have more := @ih (run + 1) free
        simp only [escaped, quote, TextForm.freeQuotes, free, if_true, List.takeWhile_cons,
          beq_self_eq_true, List.length_cons]
        omega
      · simp [escaped, quote, TextForm.freeQuotes, free, few]
    · obtain ⟨d, tail, written, other⟩ := (spelled_escapeChar .longBasic quote).head
      simp [escaped, quote, written, other, few]

/-- What is written as quotes alone is what it was written for. -/
theorem eq_of_escaped {s : List Char} {run : Nat} (all : ∀ x ∈ escaped form run s, x = '"') :
    escaped form run s = s := by
  induction s generalizing run with
  | nil => rfl
  | cons c s ih =>
    by_cases quote : c = '"'
    · by_cases free : run < form.freeQuotes
      · simp only [escaped, quote, free, if_true, List.mem_cons, forall_eq_or_imp, true_and] at all ⊢
        rw [ih all]
      · simp [escaped, quote, free] at all
    · obtain ⟨d, tail, written, other⟩ := (spelled_escapeChar form quote).head
      simp [escaped, quote, written, other] at all

theorem longBasicBody_escaped (s : List Char) {run : Nat} (few : run ≤ 2) (stops : Stops rest) :
    longBasicBody .plain (escaped .longBasic run s ++ '"' :: '"' :: '"' :: rest) = some (s, rest) := by
  induction s generalizing run with
  | nil =>
    have close := closing?_close (s := []) (Nat.zero_le 2) (by simp) (stops '"' (by simp))
    exact longBasicBody_close close
  | cons c s ih =>
    by_cases quote : c = '"'
    · subst quote
      by_cases free : run < 2
      · have written : escaped .longBasic run ('"' :: s) = '"' :: escaped .longBasic (run + 1) s := by
          simp [escaped, TextForm.freeQuotes, free]
        have lead := (Nat.le_add_left _ run).trans (lead_escaped ('"' :: s) few)
        rcases closing?_append lead (stops '"' (by simp)) with ⟨all, close⟩ | ⟨-, open_⟩
        · rw [eq_of_escaped all] at close ⊢
          exact longBasicBody_close close
        · rw [written, List.cons_append] at open_ ⊢
          rw [longBasicBody_plain open_ (by decide) (.inl rfl), ih (Nat.succ_le_of_lt free)]
          rfl
      · have spelled : Spelled .longBasic '"' ['\\', '"'] := spelled_letter (by simp)
        have written : escaped .longBasic run ('"' :: s) = ['\\', '"'] ++ escaped .longBasic 0 s := by
          simp [escaped, TextForm.freeQuotes, free]
        rw [written, List.append_assoc, longBasicBody_spelled spelled, ih (Nat.zero_le 2)]
        rfl
    · rw [escaped, if_neg quote, List.append_assoc,
        longBasicBody_spelled (spelled_escapeChar .longBasic quote), ih (Nat.zero_le 2)]
      rfl

/-! ## The four forms -/

/-- Which texts a form can hold. -/
inductive TextForm.Suits : TextForm → List Char → Prop
  | basic {s : List Char} : '\n' ∉ s → Suits .basic s
  | literal {s : List Char} : s.any isCode = false → '\'' ∉ s → '\n' ∉ s → Suits .literal s
  | longBasic {s : List Char} : Suits .longBasic s
  | longLiteral {s : List Char} :
      s.any isCode = false → longestRun '\'' 0 s ≤ 2 → Suits .longLiteral s

theorem TextForm.suits_of (s : List Char) : (TextForm.of s).Suits s := by
  unfold TextForm.of
  simp only [Bool.and_eq_true, Bool.not_eq_true', decide_eq_true_eq, List.contains_eq_mem]
  split
  · exact .basic (by simp_all)
  split
  · exact .literal (by simp_all) (by simp_all) (by simp_all)
  split
  · exact .longBasic
  split
  · exact .longLiteral (by simp_all) (by simp_all)
  split
  · exact .longBasic
  · exact .basic (by simp_all)

theorem dropFirstLineEnd_cons (line : c ≠ '\n') (back : c ≠ '\r') :
    dropFirstLineEnd (c :: rest) = c :: rest := by
  unfold dropFirstLineEnd
  split
  · rename_i same
    exact absurd (List.cons.inj same).1 line
  · rename_i same
    exact absurd (List.cons.inj same).1 back
  · rfl

/-- No line end is dropped from a text that has none: escapes and codes do not begin with one. -/
theorem dropFirstLineEnd_escaped (line : '\n' ∉ s) (rest : List Char) :
    dropFirstLineEnd (escaped .longBasic 0 s ++ '"' :: rest) =
      escaped .longBasic 0 s ++ '"' :: rest := by
  cases s with
  | nil => exact dropFirstLineEnd_cons (by decide) (by decide)
  | cons c s =>
    by_cases quote : c = '"'
    · simpa [escaped, quote, TextForm.freeQuotes] using
        dropFirstLineEnd_cons (c := '"') (by decide) (by decide)
    · rw [escaped, if_neg quote]
      have spelled := spelled_escapeChar .longBasic quote
      generalize escapeChar .longBasic c = w at spelled ⊢
      cases spelled with
      | plain plain =>
        refine dropFirstLineEnd_cons ?_ ?_ <;>
        · rintro rfl
          cases plain
      | lineEnd _ same => exact absurd (List.mem_cons.mpr (.inl same.symm)) line
      | escape => exact dropFirstLineEnd_cons (by decide) (by decide)

theorem dropFirstLineEnd_literal (codes : s.any isCode = false) (line : '\n' ∉ s) (rest : List Char) :
    dropFirstLineEnd (s ++ '\'' :: rest) = s ++ '\'' :: rest := by
  cases s with
  | nil => exact dropFirstLineEnd_cons (by decide) (by decide)
  | cons c s =>
    simp only [List.mem_cons, not_or, List.any_cons, Bool.or_eq_false_iff] at line codes
    refine dropFirstLineEnd_cons (Ne.symm line.1) ?_
    rintro rfl
    cases codes.1

/-- The line end behind the quotes is there for a text that has line ends, and is dropped again. -/
theorem dropFirstLineEnd_behind (s : List Char) (free : '\n' ∉ s → dropFirstLineEnd w = w) :
    dropFirstLineEnd ((if s.contains '\n' then ['\n'] else []) ++ w) = w := by
  by_cases line : '\n' ∈ s
  · rw [if_pos (List.contains_iff_mem.mpr line)]
    rfl
  · rw [if_neg (by simpa using line)]
    exact free line

theorem text_basic (single : ∀ r, rest ≠ '"' :: '"' :: r) : text ('"' :: rest) = basicBody 0 rest := by
  unfold text
  split
  · rename_i same
    exact absurd (List.cons.inj same).2 (single _)
  · rename_i same
    rw [(List.cons.inj same).2]
  all_goals simp_all

theorem text_literal (single : ∀ r, rest ≠ '\'' :: '\'' :: r) :
    text ('\'' :: rest) = literalBody rest := by
  unfold text
  split
  all_goals simp_all

/-- What is written between single quotes does not look like the beginning of a longer form. -/
theorem escaped_single (s : List Char) (stops : Stops rest) :
    ∀ r, escaped .basic 0 s ++ '"' :: rest ≠ '"' :: '"' :: r := by
  intro r same
  cases s with
  | nil => exact stops '"' (by simp) (by rw [(List.cons.inj same).2]; rfl)
  | cons c s =>
    by_cases quote : c = '"'
    · simp [escaped, quote, TextForm.freeQuotes] at same
    · obtain ⟨d, tail, written, other⟩ := (spelled_escapeChar .basic quote).head
      simp only [escaped, quote, if_false, written, List.cons_append, List.cons.injEq] at same
      exact other same.1

theorem literal_single (quote : '\'' ∉ s) (stops : Stops rest) :
    ∀ r, s ++ '\'' :: rest ≠ '\'' :: '\'' :: r := by
  intro r same
  cases s with
  | nil => exact stops '\'' (by simp) (by rw [(List.cons.inj same).2]; rfl)
  | cons c s => exact quote (List.mem_cons.mpr (.inl (List.cons.inj same).1.symm))

/-- **A text is read back** from what was written for it, if no quote follows. -/
theorem text_renderText (s : String) (stops : Stops rest) :
    text ((renderText s).toList ++ rest) = some (s.toList, rest) := by
  simp only [renderText, String.toList_ofList, List.append_assoc]
  generalize s.toList = cs
  have suits := TextForm.suits_of cs
  generalize TextForm.of cs = form at suits ⊢
  cases suits with
  | basic line =>
    have none : cs.contains '\n' = false := by simpa using line
    simp only [none, Bool.false_eq_true, if_false]
    exact (text_basic (escaped_single cs stops)).trans (basicBody_escaped cs rest 0)
  | literal codes quote line =>
    have none : cs.contains '\n' = false := by simpa using line
    have plain : ∀ c ∈ cs, isPlain c = true := fun c mem =>
      (isPlain_of_codes codes c mem).resolve_right fun same => line (same ▸ mem)
    simp only [none, Bool.false_eq_true, if_false]
    exact (text_literal (literal_single quote stops)).trans (literalBody_append plain quote rest)
  | longBasic =>
    have start := dropFirstLineEnd_behind cs fun line => dropFirstLineEnd_escaped line ('"' :: '"' :: rest)
    exact (congrArg (longBasicBody .plain) start).trans (longBasicBody_escaped cs (Nat.zero_le 2) stops)
  | longLiteral codes few =>
    have plain := isPlain_of_codes codes
    have start := dropFirstLineEnd_behind cs fun line =>
      dropFirstLineEnd_literal codes line ('\'' :: '\'' :: rest)
    exact (congrArg longLiteralBody start).trans (longLiteralBody_append plain few stops)

theorem head_renderText (s : String) : ∃ q ∈ ['"', '\''], ∃ w, (renderText s).toList = q :: w := by
  simp only [renderText, String.toList_ofList]
  cases TextForm.of s.toList with
  | basic | longBasic => exact ⟨'"', by simp, _, rfl⟩
  | literal | longLiteral => exact ⟨'\'', by simp, _, rfl⟩

end ModuleHost.Toml
