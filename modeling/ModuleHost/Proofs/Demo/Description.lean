import Mathlib.Data.List.Basic
import ModuleHost.Demo.Routing
import ModuleHost.Proofs.Text.Unquoted

/-!
# Diagnostic lines tell their requests apart

A diagnostic line is four words with a quoted text behind each. Words and marks between them may stand
in the texts as well, but a quoted text ends where its reader says, so the texts are read back from the
line (`described?`) and no two requests have the same line. And a line is one line: no control
character and no separator of lines or paragraphs stands in it, whatever the texts hold
(`describe_faithful`).
-/
namespace ModuleHost.Demo

open Text

/-- A quoted text behind a word, and what follows it. -/
def field? (word : String) (line : List Char) : Option (String × List Char) :=
  (word.toList.isPrefixOf? line).bind fun rest =>
    (unquote? rest).map fun r => (String.ofList r.1, r.2)

/-- The method, the URI, the agent and the body that a diagnostic line tells. -/
def described? (line : String) : Option (String × String × String × String) := do
  let (method, rest) ← field? "Method: " line.toList
  let (uri, rest) ← field? ", Uri: " rest
  let (userAgent, rest) ← field? ", User-Agent: " rest
  let (body, rest) ← field? ", Body: " rest
  if rest.isEmpty then some (method, uri, userAgent, body) else none

theorem field?_quote (word text : String) (rest : List Char) :
    field? word (word.toList ++ ((quote text).toList ++ rest)) = some (text, rest) := by
  have behind := List.isPrefixOf?_eq_some_iff_append_eq.mpr
    (rfl : word.toList ++ ((quote text).toList ++ rest) = _)
  have read : unquote? ((quote text).toList ++ rest) = some (text.toList, rest) := by
    rw [quote, String.toList_ofList, unquote?_quoteChars]
  rw [field?, behind, Option.bind_some, read, Option.map_some, String.ofList_toList]

theorem described?_describe (method uri userAgent body : String) :
    described? (describe method uri userAgent body) = some (method, uri, userAgent, body) := by
  have last := field?_quote ", Body: " body []
  rw [List.append_nil] at last
  simp only [described?, describe, String.toList_append, List.append_assoc, field?_quote, last,
    Option.bind_eq_bind, Option.bind_some, List.isEmpty_nil, if_true]

theorem describe_printable (method uri userAgent body : String) :
    Printable (describe method uri userAgent body).toList := by
  have words : Printable "Method: ".toList ∧ Printable ", Uri: ".toList ∧
      Printable ", User-Agent: ".toList ∧ Printable ", Body: ".toList := by decide +kernel
  simp only [describe, String.toList_append, printable_append, quote_printable, words, and_self]

/-- **A diagnostic line tells its request**: the four texts are read back from it, so that two lines
are the same only for the same texts, and nothing in it ends a line, whatever the texts hold. -/
theorem describe_faithful (method uri userAgent body method' uri' userAgent' body' : String) :
    described? (describe method uri userAgent body) = some (method, uri, userAgent, body) ∧
    (describe method uri userAgent body = describe method' uri' userAgent' body' ↔
      method = method' ∧ uri = uri' ∧ userAgent = userAgent' ∧ body = body') ∧
    OneLine (describe method uri userAgent body) := by
  refine ⟨described?_describe method uri userAgent body, ⟨fun same => ?_, ?_⟩,
    (describe_printable method uri userAgent body).oneLine⟩
  · have read := described?_describe method uri userAgent body
    rw [same, described?_describe] at read
    obtain ⟨rfl, rfl, rfl, rfl⟩ : method' = method ∧ uri' = uri ∧ userAgent' = userAgent ∧
        body' = body := by simpa using read
    exact ⟨rfl, rfl, rfl, rfl⟩
  · rintro ⟨rfl, rfl, rfl, rfl⟩
    rfl

end ModuleHost.Demo
