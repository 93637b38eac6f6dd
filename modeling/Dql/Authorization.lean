import Dql.Exchange
import Dql.Json.Reader
import Dql.Render.Block

/-!
# Who may ask for what

A requester may ask for its own node, and for others that it can reach from
there. It shows that it can reach a node by a proof: a query that starts from the
requester's own node, whose answer in the store leads to the node in question.
The requester chooses the shape of the proof, the store its result.

`allows` decides on a list of queries. Each of them has to be a plain lookup of
identifiers, and every identifier other than the requester's needs a proof that
starts from the requester; if one has not, the answer is no before the store is
asked anything (`pendingProofs?`). The proofs are then run one by one in the order
of the document, and the first that does not confirm its identifier decides.
-/

namespace Dql

/-- Why an answer of the store leads to no identifier. -/
inductive PathGap where
  | noKey
  | emptyList
  | null
  | boolean
  | number
deriving DecidableEq, Repr

/-- The key that the path through an answer follows. -/
def proofKey : String := "proof"

/-- The wording of a gap. -/
def PathGap.message : PathGap → String
  | noKey => "no `proof` key"
  | emptyList => "empty list"
  | null => "null"
  | boolean => "unexpected boolean"
  | number => "unexpected number"

mutual

/-- Follows the path through an answer to the text at its end: an object leads to
its member `proof`, a list to its first item. -/
def followProof : Json → Except PathGap String
  | .string s => .ok s
  | .object members => followMember members
  | .array items => followFirst items
  | .null => .error .null
  | .bool _ => .error .boolean
  | .number _ => .error .number

/-- Follows the path through the member `proof`. -/
def followMember : List (String × Json) → Except PathGap String
  | [] => .error .noKey
  | (k, x) :: rest => if k = proofKey then followProof x else followMember rest

/-- Follows the path through the first item. -/
def followFirst : List Json → Except PathGap String
  | [] => .error .emptyList
  | x :: _ => followProof x

end

/-- Why it cannot be told whether a proof holds. -/
inductive ProofFault where
  /-- The proof has no text. -/
  | render (e : RenderError)
  /-- The store does not answer. -/
  | store (e : StoreError)
  /-- The answer is no JSON. -/
  | response
  /-- The answer leads nowhere. -/
  | malformed (gap : PathGap)
  /-- The answer leads to a text that is no identifier. -/
  | invalidIdentifier (value : String) (e : Uid.ParseError)
deriving DecidableEq, Repr

/-- A proof that cannot be told to hold or not, and the identifier it is for. -/
structure ProofError where
  uid : Uid
  fault : ProofFault
deriving DecidableEq, Repr

/-- The wording of a proof's failure. -/
def ProofError.message (e : ProofError) : String :=
  let uid := e.uid.format
  match e.fault with
  | .render source => s!"proof for {uid} could not be rendered: {source.message}"
  | .store source => s!"proof for {uid} failed in the store: {source.message}"
  | .response => s!"proof response for {uid} is not JSON"
  | .malformed gap => s!"proof response for {uid} is malformed: {gap.message}"
  | .invalidIdentifier value _ =>
    s!"proof for {uid} resolved to `{value}`, which is not an identifier"

namespace Authorization

/-- The call that looks identifiers up, and does nothing else. -/
def lookupCall : Call := { name := "uid" }

/-- Whether a query looks up the identifiers on it and nothing else: its call has
no arguments, identifiers or variables of its own, and there is no attribute. -/
def isPlainLookup (q : Query) : Bool :=
  q.clause.call == some lookupCall && q.clause.attr.isEmpty

/-- Whether a query starts from exactly one identifier. -/
def isRootedAt (identity : Uid) (q : Query) : Bool :=
  isPlainLookup q && q.clause.ids == [identity]

/-- The proofs for identifiers other than the requester's, in order; none if one
of them has no proof that starts from the requester. -/
def proofsFor? (identity : Uid) (proofs : Table Uid Query) :
    List Uid → Option (List (Uid × Query))
  | [] => some []
  | uid :: rest =>
    if uid = identity then proofsFor? identity proofs rest
    else
      match proofs.find? uid with
      | none => none
      | some proof =>
        if isRootedAt identity proof then
          (proofsFor? identity proofs rest).map ((uid, proof) :: ·)
        else none

/-- The proofs that queries need, in the order of the document; none if a query is
no plain lookup or a proof is missing or starts elsewhere. -/
def pendingProofs? (identity : Uid) (proofs : Table Uid Query) :
    List Query → Option (List (Uid × Query))
  | [] => some []
  | q :: rest =>
    if isPlainLookup q then
      match proofsFor? identity proofs q.clause.ids with
      | none => none
      | some pending => (pendingProofs? identity proofs rest).map (pending ++ ·)
    else none

/-- Whether a store's answer leads to an identifier. -/
def confirms (uid : Uid) (body : ByteArray) : Except ProofFault Bool :=
  match Json.ofBytes? body with
  | none => .error .response
  | some answer =>
    match followProof answer with
    | .error gap => .error (.malformed gap)
    | .ok value =>
      match Uid.parse? value with
      | .error e => .error (.invalidIdentifier value e)
      | .ok found => .ok (found == uid)

/-- What the store is asked for a proof: its text alone, without variables. -/
def inquiryFor (proof : Query) : Except RenderError Inquiry :=
  (Block.render { queries := [proof] }).map fun text => ⟨text, .empty⟩

/-- Runs proofs one by one until one does not confirm its identifier. -/
def confirmAll (store : Store) (log : Log) : List (Uid × Query) → Run ProofError Bool
  | [] => ⟨.ok true, log⟩
  | (uid, proof) :: rest =>
    match inquiryFor proof with
    | .error e => ⟨.error ⟨uid, .render e⟩, log⟩
    | .ok inquiry =>
      let log' := log.add (.execute inquiry)
      match store log inquiry with
      | .error e => ⟨.error ⟨uid, .store e⟩, log'⟩
      | .ok body =>
        match confirms uid body with
        | .error fault => ⟨.error ⟨uid, fault⟩, log'⟩
        | .ok false => ⟨.ok false, log'⟩
        | .ok true => confirmAll store log' rest

/-- Whether a requester may ask queries, given its proofs. -/
def allows (store : Store) (log : Log) (queries : List Query) (identity : Uid)
    (proofs : Table Uid Query) : Run ProofError Bool :=
  match pendingProofs? identity proofs queries with
  | none => ⟨.ok false, log⟩
  | some pending => confirmAll store log pending

end Authorization

end Dql
