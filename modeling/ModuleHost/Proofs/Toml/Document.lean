import ModuleHost.Proofs.Toml.Number
import ModuleHost.Proofs.Toml.Text
import ModuleHost.Toml.Codec

/-!
# Documents read back

What `Document.render` writes for a document is read as what the document holds (`read?_render`), if its
names are bare and different, and TOML has its values. Each value is read in its line (`value_render`),
each line brings the reader from one draft to the next whatever lines follow (`Reads`), and a section is a
header and its lines.
-/
namespace ModuleHost.Toml

variable {c x : Char} {cs rest r w w' : List Char} {k : String} {d d' d'' : Draft}

/-! ## Keys -/

/-- A key that needs no quotes. -/
structure IsBareKey (k : String) : Prop where
  full : k ≠ ""
  plain : ∀ c ∈ k.toList, isBareKeyChar c = true

instance (k : String) : Decidable (IsBareKey k) :=
  decidable_of_iff ((k.toList ≠ [] : Bool) && k.toList.all isBareKeyChar) <| by
    simp only [Bool.and_eq_true, decide_eq_true_eq, List.all_eq_true, ne_eq, String.toList_eq_nil_iff]
    exact ⟨fun ⟨full, plain⟩ => ⟨full, plain⟩, fun bare => ⟨bare.full, bare.plain⟩⟩

theorem IsBareKey.cons (bare : IsBareKey k) :
    ∃ c cs, k.toList = c :: cs ∧ isBareKeyChar c = true := by
  obtain ⟨c, cs, chars⟩ := List.exists_cons_of_ne_nil fun none => bare.full (String.ext none)
  exact ⟨c, cs, chars, bare.plain c (by simp [chars])⟩

theorem ne_of_bare (bare : isBareKeyChar c = true) (other : isBareKeyChar x = false) : c ≠ x := by
  rintro rfl
  exact absurd bare (by simp [other])

theorem skipWs_cons (some : isWs c = false) : skipWs (c :: r) = c :: r := by
  simp [skipWs, some]

theorem isWs_of_bare (bare : isBareKeyChar c = true) : isWs c = false := by
  have space : c ≠ ' ' := ne_of_bare bare rfl
  have tab : c ≠ '\t' := ne_of_bare bare rfl
  simp [isWs, space, tab]

theorem simpleKey_bare (bare : IsBareKey k) (stop : isBareKeyChar x = false) (r : List Char) :
    simpleKey (k.toList ++ x :: r) = some (k, x :: r) := by
  obtain ⟨c, cs, chars, first⟩ := bare.cons
  have taken : (k.toList ++ x :: r).takeWhile isBareKeyChar = k.toList := by
    rw [List.takeWhile_append_of_pos bare.plain, List.takeWhile_cons_of_neg (by simp [stop]),
      List.append_nil]
  have left : (k.toList ++ x :: r).dropWhile isBareKeyChar = x :: r := by
    rw [List.dropWhile_append_of_pos bare.plain, List.dropWhile_cons_of_neg (by simp [stop])]
  unfold simpleKey
  split
  · rename_i same
    rw [chars] at same
    exact absurd (List.cons.inj same).1 (ne_of_bare first rfl)
  · rename_i same
    rw [chars] at same
    exact absurd (List.cons.inj same).1 (ne_of_bare first rfl)
  · rw [taken, left]
    split
    · rename_i none
      exact absurd (chars.symm.trans none) (List.cons_ne_nil c cs)
    · simp

theorem key_bare (bare : IsBareKey k) (stop : isBareKeyChar x = false) {y : Char} {r' : List Char}
    (behind : skipWs (x :: r) = y :: r') (dot : y ≠ '.') :
    key (k.toList ++ x :: r) = some ([k], y :: r') := by
  obtain ⟨c, cs, chars, first⟩ := bare.cons
  have start : skipWs (k.toList ++ x :: r) = k.toList ++ x :: r := by
    rw [chars, List.cons_append, skipWs_cons (isWs_of_bare first)]
  have limit : depthLimit - 1 = 78 + 1 := rfl
  rw [key, limit, dottedKey]
  simp only [start, simpleKey_bare bare stop r, behind, Option.bind_eq_bind, Option.bind_some]
  split
  · rename_i same
    exact absurd (List.cons.inj same).1 dot
  · rfl

/-! ## Values -/

theorem value_text (depth : Nat) (s : String) (stops : Stops rest) :
    value depth ((renderText s).toList ++ rest) = some (.string s, rest) := by
  have read := text_renderText s stops
  obtain ⟨q, quote, w, chars⟩ := head_renderText s
  rw [chars, List.cons_append] at read ⊢
  unfold value
  simp only [List.mem_cons, List.not_mem_nil, or_false] at quote
  rcases quote with rfl | rfl <;> simp [read]

theorem skipLines_cons (some : c ∉ ['\n', '\r', ' ', '\t', '#']) :
    skipLines false (c :: r) = Option.some (c :: r) := by
  simp only [List.mem_cons, List.not_mem_nil, or_false, not_or] at some
  obtain ⟨line, back, space, tab, comment⟩ := some
  rw [skipLines.eq_def]
  split
  · rename_i same
    cases same
  · rename_i same
    exact absurd (List.cons.inj same).1 back
  · rename_i same
    obtain ⟨rfl, rfl⟩ := List.cons.inj same
    simp [line, isWs, space, tab, comment]

theorem skipLines_text (s : String) (rest : List Char) :
    skipLines false ((renderText s).toList ++ rest) = some ((renderText s).toList ++ rest) := by
  obtain ⟨q, quote, w, chars⟩ := head_renderText s
  rw [chars, List.cons_append]
  simp only [List.mem_cons, List.not_mem_nil, or_false] at quote
  rcases quote with rfl | rfl <;> exact skipLines_cons (by decide)

theorem renderText_ne_close (s : String) (rest r : List Char) :
    (renderText s).toList ++ rest ≠ ']' :: r := by
  obtain ⟨q, quote, w, chars⟩ := head_renderText s
  rw [chars, List.cons_append]
  intro same
  rw [(List.cons.inj same).1] at quote
  simp at quote

/-- The elements of a list with one text on each line. -/
def listed (items : List String) : List Char :=
  items.flatMap fun s => "    ".toList ++ ((renderText s).toList ++ [',', '\n'])

theorem elements_text {fuel : Nat} (depth : Nat) (s : String) :
    elements (value depth) (fuel + 1) ((renderText s).toList ++ ']' :: rest) =
      some ([.string s], rest) := by
  have stops : Stops (']' :: rest) := by
    simp [Stops]
  have skip := skipLines_text s (']' :: rest)
  have read := value_text depth s stops
  have close : skipLines false (']' :: rest) = some (']' :: rest) := skipLines_cons (by decide)
  rw [elements, skip]
  simp only [Option.bind_eq_bind, Option.bind_some]
  split
  · rename_i same
    exact absurd same (renderText_ne_close s _ _)
  · simp [read, close]

theorem elements_listed (depth : Nat) (items : List String) {fuel : Nat} (room : items.length < fuel) :
    elements (value depth) fuel ('\n' :: (listed items ++ ']' :: rest)) =
      some (items.map .string, rest) := by
  induction items generalizing fuel with
  | nil =>
    obtain ⟨fuel, rfl⟩ := Nat.exists_eq_add_of_lt room
    rfl
  | cons s items ih =>
    obtain ⟨fuel, rfl⟩ : ∃ n, fuel = n + 1 := ⟨fuel - 1, by omega⟩
    have next : Stops (',' :: '\n' :: (listed items ++ ']' :: rest)) := by
      simp [Stops]
    have whole : listed (s :: items) ++ ']' :: rest = "    ".toList ++
        ((renderText s).toList ++ ',' :: '\n' :: (listed items ++ ']' :: rest)) := by
      simp [listed]
    have indent (cs : List Char) :
        skipLines false ('\n' :: ("    ".toList ++ cs)) = skipLines false cs := rfl
    have comma : skipLines false (',' :: '\n' :: (listed items ++ ']' :: rest)) =
        some (',' :: '\n' :: (listed items ++ ']' :: rest)) := skipLines_cons (by decide)
    rw [whole, elements, indent, skipLines_text]
    simp only [Option.bind_eq_bind, Option.bind_some]
    split
    · rename_i same
      exact absurd same (renderText_ne_close s _ _)
    · rw [value_text depth s next]
      simp only [Option.bind_some, comma, ih (Nat.lt_of_succ_lt_succ room), Option.map_some,
        List.map_cons]

theorem length_le_listed (items : List String) : items.length ≤ (listed items).length := by
  induction items with
  | nil => exact Nat.zero_le _
  | cons s items ih =>
    simp only [listed, List.flatMap_cons, List.length_append, List.length_cons] at ih ⊢
    omega

theorem value_array {depth : Nat} {vs : List Value}
    (read : elements (value depth) (r.length + 1) r = some (vs, rest)) :
    value (depth + 1) ('[' :: r) = some (.array vs, rest) := by
  simp only [value, if_true, read, Option.map_some]

theorem head_toString (n : Int) : ∃ c cs, (toString n).toList = c :: cs ∧ (c = '-' ∨ c.isDigit = true) := by
  obtain ⟨c, ds, digits, first⟩ := toDigits_eq_cons n.natAbs
  rw [toList_toString, digits]
  by_cases negative : n < 0
  · exact ⟨'-', c :: ds, by simp [negative], .inl rfl⟩
  · exact ⟨c, ds, by simp [negative], .inr first⟩

theorem value_numeral (depth : Nat) (n : Int) (range : inRange n = true) (rest : List Char) :
    value depth (numeral n rest) = some (.integer n, '\n' :: rest) := by
  have read := numeric_numeral n rest range
  obtain ⟨c, cs, chars, first⟩ := head_toString n
  have other {x : Char} (sign : x ≠ '-') (digit : x.isDigit = false) : c ≠ x := by
    rintro rfl
    exact first.elim sign (by simp [digit])
  have kind : (c.isDigit || decide (c = '+') || decide (c = '-') || decide (c = 'i') ||
      decide (c = 'n')) = true := by
    rcases first with rfl | digit
    · rfl
    · simp [digit]
  rw [numeral, chars, List.cons_append] at read ⊢
  unfold value
  simp only [other (x := '[') (by decide) rfl, other (x := '\x7b') (by decide) rfl,
    other (x := '"') (by decide) rfl, other (x := '\'') (by decide) rfl,
    other (x := 't') (by decide) rfl, other (x := 'f') (by decide) rfl, decide_false, Bool.or_self,
    Bool.false_eq_true, if_false]
  exact (if_pos kind).trans read

/-- **A value is read back** at the end of its line. -/
theorem value_render (v : Setting) (writable : v.isWritable = true) (rest : List Char) :
    value (depthLimit - 1) (v.render.toList ++ '\n' :: rest) = some (v.toValue, '\n' :: rest) := by
  have stops : Stops ('\n' :: rest) := by
    simp [Stops]
  have limit : depthLimit - 1 = 78 + 1 := rfl
  cases v with
  | text s => exact value_text _ s stops
  | number n => exact value_numeral _ n writable rest
  | flag b => cases b <;> rfl
  | texts items =>
    rw [limit]
    match items with
    | [] => rfl
    | [s] =>
      have whole : (Setting.texts [s]).render.toList ++ '\n' :: rest =
          '[' :: ((renderText s).toList ++ ']' :: '\n' :: rest) := by
        simp [Setting.render]
      rw [whole]
      exact value_array (elements_text 78 s)
    | s :: s' :: more =>
      have whole : (Setting.texts (s :: s' :: more)).render.toList ++ '\n' :: rest =
          '[' :: '\n' :: (listed (s :: s' :: more) ++ ']' :: '\n' :: rest) := by
        simp [Setting.render, listed, List.flatMap_map]
      rw [whole]
      refine value_array (elements_listed 78 _ ?_)
      have short := length_le_listed (s :: s' :: more)
      simp only [List.length_cons, List.length_append] at short ⊢
      omega

/-! ## Lines -/

theorem value_head (v : Setting) : ∃ c cs, v.render.toList = c :: cs ∧ isWs c = false := by
  have quoted (s : String) : ∃ c cs, (renderText s).toList = c :: cs ∧ isWs c = false := by
    obtain ⟨q, quote, w, chars⟩ := head_renderText s
    simp only [List.mem_cons, List.not_mem_nil, or_false] at quote
    rcases quote with rfl | rfl <;> exact ⟨_, _, chars, rfl⟩
  cases v with
  | text s => exact quoted s
  | number n =>
    obtain ⟨c, cs, chars, first⟩ := head_toString n
    refine ⟨c, cs, chars, ?_⟩
    rcases first with rfl | digit
    · rfl
    · have space : c ≠ ' ' := by
        rintro rfl
        cases digit
      have tab : c ≠ '\t' := by
        rintro rfl
        cases digit
      simp [isWs, space, tab]
  | flag b => cases b <;> exact ⟨_, _, rfl, rfl⟩
  | texts items =>
    match items with
    | [] => exact ⟨_, _, rfl, rfl⟩
    | [s] => exact ⟨'[', (renderText s).toList ++ [']'], by simp [Setting.render], rfl⟩
    | s :: s' :: more => exact ⟨'[', '\n' :: (listed (s :: s' :: more) ++ [']']),
        by simp [Setting.render, listed, List.flatMap_map], rfl⟩

/-- The line of a setting. -/
def settingLine (e : String × Setting) : List Char :=
  e.1.toList ++ (" = ".toList ++ (e.2.render.toList ++ ['\n']))

theorem pair_setting {e : String × Setting} (bare : IsBareKey e.1) (writable : e.2.isWritable = true)
    (rest : List Char) : pair (value (depthLimit - 1)) (settingLine e ++ rest) =
      some (([e.1], e.2.toValue), '\n' :: rest) := by
  obtain ⟨c, cs, chars, ws⟩ := value_head e.2
  have whole : settingLine e ++ rest =
      e.1.toList ++ ' ' :: '=' :: ' ' :: (e.2.render.toList ++ '\n' :: rest) := by
    simp [settingLine]
  have behind : skipWs (' ' :: '=' :: ' ' :: (e.2.render.toList ++ '\n' :: rest)) =
      '=' :: ' ' :: (e.2.render.toList ++ '\n' :: rest) := rfl
  have blank : skipWs (' ' :: (e.2.render.toList ++ '\n' :: rest)) =
      e.2.render.toList ++ '\n' :: rest := by
    have start := skipWs_cons (r := cs ++ '\n' :: rest) ws
    rw [chars]
    exact start
  rw [whole, pair, key_bare bare rfl behind (by decide)]
  simp only [Option.bind_eq_bind, Option.bind_some, char, if_true, blank, value_render e.2 writable]
  rfl

/-- How reading goes on: the characters of some whole lines bring one draft to the other, whatever lines
follow. -/
def Reads (d : Draft) (w : List Char) (d' : Draft) : Prop :=
  ∀ rest fuel, (w ++ rest).length ≤ fuel →
    ∃ fuel', rest.length ≤ fuel' ∧ lines fuel d (w ++ rest) = lines fuel' d' rest

theorem Reads.refl (d : Draft) : Reads d [] d := fun _ fuel room => ⟨fuel, room, rfl⟩

theorem Reads.trans (first : Reads d w d') (second : Reads d' w' d'') : Reads d (w ++ w') d'' := by
  intro rest fuel room
  rw [List.append_assoc] at room ⊢
  obtain ⟨fuel', room', same⟩ := first (w' ++ rest) fuel room
  obtain ⟨fuel'', room'', same'⟩ := second rest fuel' room'
  exact ⟨fuel'', room'', same.trans same'⟩

theorem reads_blank (d : Draft) : Reads d ['\n'] d := by
  intro rest fuel room
  obtain ⟨fuel, rfl⟩ : ∃ n, fuel = n + 1 := ⟨fuel - 1, by simp at room; omega⟩
  exact ⟨fuel, Nat.le_of_succ_le_succ room, rfl⟩

theorem reads_line (some : c ∉ ['\n', '\r', ' ', '\t', '#'])
    (read : ∀ rest, line d (c :: w ++ rest) = Option.some (d', rest)) : Reads d (c :: w) d' := by
  simp only [List.mem_cons, List.not_mem_nil, or_false, not_or] at some
  obtain ⟨end_, back, space, tab, comment⟩ := some
  intro rest fuel room
  obtain ⟨fuel, rfl⟩ : ∃ n, fuel = n + 1 := ⟨fuel - 1, by simp at room; omega⟩
  have ws : isWs c = false := by simp [isWs, space, tab]
  refine ⟨fuel, by simp at room; omega, ?_⟩
  have read := read rest
  rw [List.cons_append] at read ⊢
  rw [lines, skipWs_cons ws]
  split
  · rename_i same
    cases same
  · rename_i same
    exact absurd (List.cons.inj same).1 end_
  · rename_i same
    exact absurd (List.cons.inj same).1 back
  · rename_i same
    exact absurd (List.cons.inj same).1 comment
  · rw [read, Option.bind_some]

/-! ## Tables -/

namespace Entries

variable {es : Entries} {v old : Value}

theorem get?_concat (new : get? es k = none) : get? (es ++ [(k, v)]) k = some v := by
  rw [get?] at new ⊢
  simp [List.lookup_append, new]

theorem set_concat (new : get? es k = none) : set k v (es ++ [(k, old)]) = es ++ [(k, v)] := by
  induction es with
  | nil => simp [set]
  | cons e es ih =>
    obtain ⟨name, value⟩ := e
    by_cases same : name = k
    · subst same
      simp [get?] at new
    · have apart : (k == name) = false := by simpa using Ne.symm same
      simp only [get?, List.lookup_cons, apart] at new
      simp only [List.cons_append, set, same, if_false, ih new]

theorem get?_eq_none (new : k ∉ es.map Prod.fst) : get? es k = none := by
  rw [get?, List.lookup_eq_none_iff]
  intro e mem
  simpa using fun same : k = e.1 => new (same ▸ List.mem_map_of_mem mem)

end Entries

/-- The draft that has these tables, and is at the last of them. -/
def drafted (es : Entries) (name : String) (sub : Entries) : Draft :=
  ⟨.table .header (es ++ [(name, .table .header sub)]), [name]⟩

variable {es sub : Entries} {name : String} {e : String × Setting}

theorem reads_header (bare : IsBareKey name) (new : Entries.get? es name = none) (o : List String) :
    Reads ⟨.table .header es, o⟩ ('[' :: (name.toList ++ [']', '\n'])) (drafted es name []) := by
  refine reads_line (by decide) fun rest => ?_
  obtain ⟨c, cs, chars, first⟩ := bare.cons
  have found : key (name.toList ++ ']' :: '\n' :: rest) = some ([name], ']' :: '\n' :: rest) :=
    key_bare bare rfl (skipWs_cons rfl) (by decide)
  have ended : endLine ('\n' :: rest) = some rest := rfl
  have opened : (Value.table .header es).openTable [name] = some (drafted es name []).root := by
    simp [Value.openTable, Value.at?, new, drafted]
  have whole : '[' :: (name.toList ++ [']', '\n']) ++ rest = '[' :: (name.toList ++ ']' :: '\n' :: rest) := by
    simp
  rw [whole, line]
  · simp only [found, char, if_true, ended, opened, Option.bind_eq_bind, Option.bind_some]
    rfl
  · intro r same
    rw [chars] at same
    exact ne_of_bare first rfl (List.cons.inj same).1

theorem reads_setting (bare : IsBareKey e.1) (writable : e.2.isWritable = true)
    (table : Entries.get? es name = none) (new : Entries.get? sub e.1 = none) :
    Reads (drafted es name sub) (settingLine e) (drafted es name (sub ++ [(e.1, e.2.toValue)])) := by
  obtain ⟨c, cs, chars, first⟩ := bare.cons
  have whole : settingLine e = c :: (cs ++ (" = ".toList ++ (e.2.render.toList ++ ['\n']))) := by
    rw [settingLine, chars, List.cons_append]
  have read (rest : List Char) := pair_setting bare writable rest
  have assigned : (drafted es name sub).root.assignAt [name] [e.1] e.2.toValue =
      some (drafted es name (sub ++ [(e.1, e.2.toValue)])).root := by
    simp [Value.assignAt, Value.assign, Value.addEntry, Value.at?, drafted, Entries.get?_concat table,
      Entries.set_concat table, new]
  rw [whole] at read ⊢
  have plain : c ∉ ['\n', '\r', ' ', '\t', '#'] := by
    intro mem
    simp only [List.mem_cons, List.not_mem_nil, or_false] at mem
    rcases mem with rfl | rfl | rfl | rfl | rfl <;> cases first
  refine reads_line plain fun rest => ?_
  have read := read rest
  have ended : endLine ('\n' :: rest) = some rest := rfl
  rw [List.cons_append] at read ⊢
  rw [line]
  · rw [read]
    simp only [ended, Option.bind_eq_bind, Option.bind_some]
    rw [show (drafted es name sub).opened = [name] from rfl, assigned]
    rfl
  · intro r same
    exact ne_of_bare first rfl (List.cons.inj same).1
  · intro r same
    exact ne_of_bare first rfl (List.cons.inj same).1

/-! ## Sections and documents -/

/-- Whether the keys of a document need no quotes and are different, and TOML has its values. -/
structure Document.WellFormed (d : Document) : Prop where
  bare : ∀ s ∈ d, IsBareKey s.name ∧ ∀ e ∈ s.settings, IsBareKey e.1
  names : (d.map Section.name).Nodup
  keys : ∀ s ∈ d, (s.settings.map Prod.fst).Nodup
  writable : d.isWritable = true

theorem reads_settings (table : Entries.get? es name = none) (l before : List (String × Setting))
    (bare : ∀ e ∈ l, IsBareKey e.1) (writable : ∀ e ∈ l, e.2.isWritable = true)
    (keys : ((before ++ l).map Prod.fst).Nodup) :
    Reads (drafted es name (before.map fun (k, v) => (k, v.toValue))) (l.flatMap settingLine)
      (drafted es name ((before ++ l).map fun (k, v) => (k, v.toValue))) := by
  induction l generalizing before with
  | nil =>
    rw [List.append_nil]
    exact .refl _
  | cons e l ih =>
    obtain ⟨bare₁, bare₂⟩ := List.forall_mem_cons.mp bare
    obtain ⟨writable₁, writable₂⟩ := List.forall_mem_cons.mp writable
    have together : before ++ e :: l = before ++ [e] ++ l := by simp
    rw [together] at keys ⊢
    have new : Entries.get? (before.map fun (k, v) => (k, v.toValue)) e.1 = none := by
      refine Entries.get?_eq_none fun mem => ?_
      rw [List.map_map] at mem
      obtain ⟨e', old, same⟩ := List.mem_map.mp mem
      rw [List.append_assoc, List.map_append, List.nodup_append] at keys
      exact keys.2.2 e'.1 (List.mem_map_of_mem old) e.1 (by simp) same
    have one := reads_setting bare₁ writable₁ table new
    have more := ih (before ++ [e]) bare₂ writable₂ keys
    rw [List.map_append] at more
    exact one.trans more

theorem toList_section (s : Section) : s.render.toList =
    '[' :: (s.name.toList ++ [']', '\n']) ++ s.settings.flatMap settingLine := by
  simp [Section.render, List.flatMap_map]
  rfl

theorem reads_section {s : Section} (bare : IsBareKey s.name ∧ ∀ e ∈ s.settings, IsBareKey e.1)
    (writable : ∀ e ∈ s.settings, e.2.isWritable = true) (keys : (s.settings.map Prod.fst).Nodup)
    (new : Entries.get? es s.name = none) (o : List String) :
    Reads ⟨.table .header es, o⟩ s.render.toList
      ⟨.table .header (es ++ [(s.name, s.toValue)]), [s.name]⟩ := by
  rw [toList_section]
  exact (reads_header bare.1 new o).trans (reads_settings new s.settings [] bare.2 writable keys)

/-- The tables of a document. -/
def tables (d : Document) : Entries := d.map fun s => (s.name, s.toValue)

theorem toList_document (s : Section) (d : Document) : (Document.render (s :: d)).toList =
    s.render.toList ++ ((if d = [] then [] else ['\n']) ++ d.render.toList) := by
  cases d with
  | nil => simp [Document.render]
  | cons s' d => simp [Document.render, String.intercalate_cons_of_ne_nil]

theorem reads_document (d before : Document) (o : List String)
    (bare : ∀ s ∈ d, IsBareKey s.name ∧ ∀ e ∈ s.settings, IsBareKey e.1)
    (names : ((before ++ d).map Section.name).Nodup)
    (keys : ∀ s ∈ d, (s.settings.map Prod.fst).Nodup)
    (writable : ∀ s ∈ d, ∀ e ∈ s.settings, e.2.isWritable = true) :
    ∃ o', Reads ⟨.table .header (tables before), o⟩ d.render.toList
      ⟨.table .header (tables (before ++ d)), o'⟩ := by
  induction d generalizing before o with
  | nil =>
    rw [List.append_nil]
    exact ⟨o, .refl _⟩
  | cons s d ih =>
    obtain ⟨bare₁, bare₂⟩ := List.forall_mem_cons.mp bare
    obtain ⟨keys₁, keys₂⟩ := List.forall_mem_cons.mp keys
    obtain ⟨writable₁, writable₂⟩ := List.forall_mem_cons.mp writable
    have together : before ++ s :: d = before ++ [s] ++ d := by simp
    rw [together] at names ⊢
    have new : Entries.get? (tables before) s.name = none := by
      refine Entries.get?_eq_none fun mem => ?_
      rw [tables, List.map_map] at mem
      obtain ⟨s', old, same⟩ := List.mem_map.mp mem
      rw [List.append_assoc, List.map_append, List.nodup_append] at names
      exact names.2.2 s'.name (List.mem_map_of_mem old) s.name (by simp) same
    have one := reads_section bare₁ writable₁ keys₁ new o
    obtain ⟨o', more⟩ := ih (before ++ [s]) [s.name] bare₂ names keys₂ writable₂
    have snoc : tables (before ++ [s]) = tables before ++ [(s.name, s.toValue)] := by simp [tables]
    rw [snoc] at more
    refine ⟨o', ?_⟩
    rw [toList_document]
    cases d with
    | nil => exact one.trans more
    | cons s' d => exact one.trans ((reads_blank _).trans more)

/-- **A document is read back** from what is written for it. -/
theorem read?_render {d : Document} (wellFormed : d.WellFormed) : read? d.render = some d.toValue := by
  obtain ⟨bare, names, keys, writable⟩ := wellFormed
  have values : ∀ s ∈ d, ∀ e ∈ s.settings, e.2.isWritable = true := by
    simpa [Document.isWritable] using writable
  obtain ⟨o, reads⟩ := reads_document d [] [] bare names keys values
  obtain ⟨fuel, -, same⟩ := reads [] d.render.toList.length (by simp)
  have last : lines fuel ⟨.table .header (tables d), o⟩ [] = some ⟨.table .header (tables d), o⟩ := by
    cases fuel <;> rfl
  have mark : ∀ r, d.render.toList ≠ '\uFEFF' :: r := by
    intro r start
    cases d with
    | nil => cases start
    | cons s d =>
      rw [toList_document, toList_section] at start
      cases (List.cons.inj start).1
  rw [List.append_nil, List.nil_append, last] at same
  rw [read?, readChars]
  · exact congrArg (Option.map Draft.root) same
  · exact mark

/-! ## Laws of printing and parsing -/

/-- What is known of a printer and a parser of TOML: a document is printed unless it has an integer of
more than 64 bits, and what was printed is parsed as what the document holds. -/
structure Codec.Lawful (toml : Codec) : Prop where
  prints : ∀ d : Document, d.WellFormed → ∃ text, toml.print d = some text
  refuses : ∀ d : Document, d.isWritable = false → toml.print d = none
  parses : ∀ (d : Document) (text : String), d.WellFormed → toml.print d = some text →
    toml.parse text = some d.toValue

theorem Codec.print_own {d : Document} (wellFormed : d.WellFormed) :
    own.print d = some d.render := by
  simp only [own, Document.render?, wellFormed.writable, if_true]

theorem Codec.lawful_own : Codec.own.Lawful where
  prints d wellFormed := ⟨d.render, print_own wellFormed⟩
  refuses d unwritable := by simp [own, Document.render?, unwritable]
  parses d text wellFormed printed := by
    obtain rfl := Option.some.inj ((print_own wellFormed).symm.trans printed)
    exact read?_render wellFormed

end ModuleHost.Toml
