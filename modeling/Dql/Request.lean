import Dql.Authorization
import Dql.Parsed.Conversion
import Dql.Query.Difference
import Dql.Query.Same
import Dql.Response

/-!
# Requests

A block is trusted only if its text, read back by the parser, is the block again
but for its fallbacks (`Block.template`). A request is answered in four steps:
its block is written and read back, the requester is checked to be allowed every
identifier in it, the text goes to the store, and the answer is filled with the
block's fallbacks. Nothing reaches the store before the first step has succeeded,
and the block's own text not before the second.

Each step takes the log of inquiries made before and returns it with its own.
-/

namespace Dql

/-- Why a request is not answered. -/
inductive RequestError where
  /-- The parser does not accept a text. -/
  | parse (e : ParseError)
  /-- The block has no text. -/
  | render (e : RenderError)
  /-- The text reads back as other queries than it was written for. -/
  | consistency (rendered difference : String)
  /-- A proof could not be told to hold or not. -/
  | proof (e : ProofError)
  /-- The store does not answer. -/
  | store (e : StoreError)
  /-- The store's answer is no JSON. -/
  | response
  /-- The requester may not ask for all identifiers in the block. -/
  | unauthorized (identity : Uid)
deriving DecidableEq, Repr

/-- The wording of a failure. -/
def RequestError.message : RequestError → String
  | parse e => e.message
  | render e => e.message
  | consistency _ difference =>
    "rendered query does not parse back to the same tree: " ++ difference
  | proof e => e.message
  | store e => e.message
  | response => "store response is not JSON"
  | unauthorized identity =>
    s!"requester {identity.format} is not allowed to resolve this query"

/-- A request as a requester submits it. -/
structure Request where
  block : Block := {}
  /-- The values of the block's variables. -/
  values : Table String String := .empty
  /-- The requester's own node. -/
  identity : Uid := 0
  /-- The proofs, by the identifier that each one is for. -/
  proofs : Table Uid Query := .empty

namespace Request

/-- The record of a request. -/
def record : Record Request where
  initial := {}
  fields := [
    .required ["block"] Block.record.read fun v r => { r with block := v },
    .of ["values"] .texts fun v r => { r with values := v },
    .required ["identity"] .uid fun v r => { r with identity := v },
    .of ["proofs"] (.table Reading.uidKey Query.record.read) fun v r => { r with proofs := v }]

/-- A request in JSON; block and identity are always written. -/
def toJson (r : Request) : Json :=
  .object ([("block", r.block.toJson)] ++ Json.textsMember "values" r.values ++
    [("identity", Json.ofUid r.identity)] ++
    (if r.proofs.isEmpty then []
      else [("proofs", .object (r.proofs.entries.map fun e => (Json.uidKey e.1, e.2.toJson)))]))

end Request

/-- Asks the parser for the queries of a text. -/
def parseText (parser : Parser) (log : Log) (inquiry : Inquiry) :
    Run ParseError (List Query) where
  outcome := (parser log inquiry).map ParsedQuery.toQueries
  log := log.add (.parse inquiry)

namespace Block

/-- What the parser is asked for a block: its text, with each variable standing
for itself, since only the names matter. -/
def inquiry (b : Block) (text : String) : Inquiry := ⟨text, b.variableTypes.map fun name _ => name⟩

/-- Compares queries that were read back with those of a block, fallbacks aside. -/
def checkReadBack (b : Block) (text : String) (parsed : List Query) : Except RequestError String :=
  let expected := Query.stripAll b.queries
  if Query.allSame parsed expected then .ok text
  else .error (.consistency text (Query.describeDifference expected parsed))

/-- The text of a block, once it has been read back as the same block. -/
def template (parser : Parser) (log : Log) (b : Block) : Run RequestError String :=
  match b.render with
  | .error e => ⟨.error (.render e), log⟩
  | .ok text =>
    let run := parseText parser log (b.inquiry text)
    match run.outcome with
    | .error e => ⟨.error (.parse e), run.log⟩
    | .ok parsed => ⟨b.checkReadBack text parsed, run.log⟩

end Block

namespace Request

/-- Asks the store for the block's own text and fills the answer. -/
def execute (store : Store) (log : Log) (r : Request) (text : String) : Run RequestError Json :=
  let inquiry : Inquiry := ⟨text, r.values⟩
  let log' := log.add (.execute inquiry)
  match store log inquiry with
  | .error e => ⟨.error (.store e), log'⟩
  | .ok body =>
    match Json.ofBytes? body with
    | none => ⟨.error .response, log'⟩
    | some answer => ⟨.ok (Response.applyFallbacks r.block.queries answer), log'⟩

/-- Answers a request. -/
def run (parser : Parser) (store : Store) (log : Log) (r : Request) : Run RequestError Json :=
  let templated := r.block.template parser log
  match templated.outcome with
  | .error e => ⟨.error e, templated.log⟩
  | .ok text =>
    let allowed :=
      Authorization.allows store templated.log r.block.queries r.identity r.proofs
    match allowed.outcome with
    | .error e => ⟨.error (.proof e), allowed.log⟩
    | .ok false => ⟨.error (.unauthorized r.identity), allowed.log⟩
    | .ok true => r.execute store allowed.log text

end Request

end Dql
