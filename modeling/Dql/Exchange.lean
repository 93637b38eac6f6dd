import Dql.Duration
import Dql.Json.Printer
import Dql.Json.Record
import Dql.Parsed.Basic

/-!
# The parser and the store

Two collaborators stand outside of the library: the parser, who knows the grammar
of the query language, and the store, which runs queries. Each answers one request
at a time, a text and values for its variables. What they answer may depend on
everything that was asked before, of either of them, so each is a function of the past
requests and of the present one; nothing else is assumed of them.

A run of the library therefore has two results, its outcome and the requests it
made. `Log` keeps the latter, in order.
-/

namespace Dql

/-- What is asked of the parser or of the store. -/
structure Inquiry where
  /-- The text of the query. -/
  text : String
  /-- The values of its variables. -/
  values : Table String String
deriving DecidableEq

/-- An inquiry in JSON, as external programs read it. -/
def Inquiry.toJson (i : Inquiry) : Json :=
  .object [("query", .string i.text), ("variables", Json.ofTexts i.values)]

/-- The parser does not accept a text. The message is its own. -/
structure ParseError where
  message : String
deriving DecidableEq, Repr

/-- The store does not answer. -/
inductive StoreError where
  /-- The request failed, with a message of the store's own. -/
  | request (message : String)
  /-- The store took longer than it is given. -/
  | timeout (limit : Duration)
deriving DecidableEq, Repr

/-- The wording of a store's failure. -/
def StoreError.message : StoreError → String
  | request message => "store request failed: " ++ message
  | timeout limit => "store request timed out after " ++ limit.toText

/-- An inquiry and the one that it was put to. -/
inductive Question where
  | parse (i : Inquiry)
  | execute (i : Inquiry)
deriving DecidableEq

namespace Question

/-- The inquiry of a question. -/
def inquiry : Question → Inquiry
  | parse i => i
  | execute i => i

/-- The inquiry if it was put to the parser. -/
def parsed? : Question → Option Inquiry
  | parse i => some i
  | execute _ => none

/-- The inquiry if it was put to the store. -/
def executed? : Question → Option Inquiry
  | parse _ => none
  | execute i => some i

end Question

/-- What was asked, in order. -/
structure Log where
  questions : List Question := []

namespace Log

/-- What the parser was asked. -/
def parsed (l : Log) : List Inquiry := l.questions.filterMap Question.parsed?

/-- What the store was asked. -/
def executed (l : Log) : List Inquiry := l.questions.filterMap Question.executed?

/-- A log with one more question. -/
def add (l : Log) (q : Question) : Log := ⟨l.questions ++ [q]⟩

@[simp] theorem executed_add_parse (l : Log) (i : Inquiry) :
    (l.add (.parse i)).executed = l.executed := by
  simp [executed, add, List.filterMap_append, Question.executed?]

@[simp] theorem executed_add_execute (l : Log) (i : Inquiry) :
    (l.add (.execute i)).executed = l.executed ++ [i] := by
  simp [executed, add, List.filterMap_append, Question.executed?]

end Log

/-- A parser: what it answers after what was asked before. -/
abbrev Parser := Log → Inquiry → Except ParseError (List ParsedQuery)

/-- A store: what it answers after what was asked before. -/
abbrev Store := Log → Inquiry → Except StoreError ByteArray

/-- An answer and the time it takes. -/
structure DelayedAnswer where
  delay : Duration
  answer : Except StoreError ByteArray

/-- A store that takes its time. -/
abbrev SlowStore := Log → Inquiry → DelayedAnswer

/-- A store that is waited for however long it takes. -/
def SlowStore.patient (s : SlowStore) : Store := fun past i => (s past i).answer

/-- A store that is given a limited time for each request; one that takes longer
has failed, and its answer is lost. -/
def SlowStore.within (s : SlowStore) (limit : Duration) : Store := fun past i =>
  if limit.milliseconds < (s past i).delay.milliseconds then .error (.timeout limit)
  else (s past i).answer

/-- A run: what came out, and all that was asked until then. -/
structure Run (ε α : Type) where
  outcome : Except ε α
  log : Log

end Dql
