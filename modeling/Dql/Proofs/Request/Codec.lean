import Dql.Request
import Dql.Proofs.Parsed.Codec
import Dql.Proofs.Query.Codec

/-!
# Requests are read back

A request carries a block and proofs, and so all records of the public form. It is the
last of the records that go both ways: whichever way a record is written down, with older
names, as a list of field values, with members missing or `null`, what it was read as is
read again from the JSON that is written for it (`records_roundTrip`).
-/

namespace Dql

namespace Request

/-- A request whose block and proofs are legible. -/
structure Legible (r : Request) : Prop where
  block : r.block.Legible
  proofs : ∀ p ∈ r.proofs.entries, p.2.Legible

theorem keeps_legible : record.Keeps Legible where
  initial := ⟨Block.keeps_legible.initial, fun _ h => absurd h List.not_mem_nil⟩
  fields := by
    have hproofs : ∀ d t, Reading.table Reading.uidKey Query.record.read d = .ok t →
        ∀ p ∈ t.entries, p.2.Legible :=
      fun _ _ => Reading.of_table Query.keeps_legible.forall_read
    simp only [record, List.forall_mem_cons]
    exact ⟨Field.keeps_of_reading Block.keeps_legible.forall_read fun _ _ hb h => ⟨hb, h.proofs⟩,
      Field.keeps_of fun _ _ h => ⟨h.block, h.proofs⟩,
      Field.keeps_of fun _ _ h => ⟨h.block, h.proofs⟩,
      Field.keeps_of_reading hproofs fun _ _ hp h => ⟨h.block, hp⟩,
      fun f hf => absurd hf List.not_mem_nil⟩

theorem read_toJson {r : Request} (h : r.Legible) : record.read r.toJson.document = .ok r := by
  obtain ⟨block, values, identity, proofs⟩ := r
  obtain ⟨hblock, hproofs⟩ := h
  have htable := Reading.table_object Json.uidKey Query.toJson Reading.uidKey_uidKey
    fun p hp => Query.read_toJson (hproofs p hp)
  unfold toJson
  simp only [List.append_assoc]
  exact Record.read_of_writesAll (by decide)
    (.cons (.always (Block.read_toJson hblock)) (.cons (.texts rfl)
    (.cons (.always (Reading.uid_ofUid identity))
    (.last (.orAbsent (fun hp => by obtain rfl := Table.eq_empty_of_isEmpty hp; rfl)
      fun _ => htable)))))

end Request

/-- **Every record goes both ways.** Whatever document it is read from, it is read again
from what it is written as, and written again the same. -/
theorem records_roundTrip :
    Block.record.RoundTrips Block.toJson ∧
    Query.record.RoundTrips Query.toJson ∧
    Call.record.RoundTrips Call.toJson ∧
    Argument.record.RoundTrips Argument.toJson ∧
    VariableUse.record.RoundTrips VariableUse.toJson ∧
    Filter.record.RoundTrips Filter.toJson ∧
    MathExpr.record.RoundTrips MathExpr.toJson ∧
    Scalar.record.RoundTrips Scalar.toJson ∧
    Order.record.RoundTrips Order.toJson ∧
    FacetRequest.record.RoundTrips FacetRequest.toJson ∧
    GroupKey.record.RoundTrips GroupKey.toJson ∧
    Request.record.RoundTrips Request.toJson ∧
    ParsedQuery.record.RoundTrips ParsedQuery.toJson ∧
    MathExpr.parsedRecord.RoundTrips MathExpr.toParsedJson := by
  exact ⟨.of_keeps Block.keeps_legible fun _ => Block.read_toJson,
    .of_keeps Query.keeps_legible fun _ => Query.read_toJson,
    .of_readsBack fun _ c _ => c.read_toJson,
    .of_readsBack fun _ a _ => a.read_toJson,
    .of_readsBack fun _ u _ => u.read_toJson,
    .of_readsBack fun _ f _ => f.read_toJson,
    .of_keeps MathExpr.keeps_legible fun _ => MathExpr.read_toJson,
    .of_keeps Scalar.keeps_legible fun _ => Scalar.read_toJson,
    .of_readsBack fun _ o _ => o.read_toJson,
    .of_readsBack fun _ f _ => f.read_toJson,
    .of_readsBack fun _ g _ => g.read_toJson,
    .of_keeps Request.keeps_legible fun _ => Request.read_toJson,
    .of_keeps ParsedQuery.keeps_legible fun _ => ParsedQuery.read_toJson,
    .of_keeps ParsedMathExpr.keeps_legible fun _ => ParsedMathExpr.read_toJson⟩

/-- A query in an older spelling: `uid` and `needsVar` for names of now, a variable as the
list of its fields, and `null` for a call that is missing. -/
def olderQuery : Document := .object [
  (⟨"uid", false⟩, .array [.number (.int 7)]),
  (⟨"needsVar", false⟩, .array [.array [.string "a", .number (.int 1)]]),
  (⟨"func", false⟩, .null)]

/-- What is written for it. -/
def canonicalQuery : Json := .object [
  ("ids", .array [.number (.int 7)]),
  ("neededVars", .array [.object [("name", .string "a"), ("kind", .number (.int 1))]])]

theorem records_roundTrip_older :
    (Query.record.read olderQuery).map Query.toJson = .ok canonicalQuery ∧
      (Query.record.read canonicalQuery.document).map Query.toJson = .ok canonicalQuery := by
  have hwritten : (Query.record.read olderQuery).map Query.toJson = .ok canonicalQuery := rfl
  exact ⟨hwritten, records_roundTrip.2.1.rewritten olderQuery canonicalQuery hwritten⟩

end Dql
