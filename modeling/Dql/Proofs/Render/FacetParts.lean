import Mathlib.Data.List.Basic
import Dql.Proofs.Render.Written

/-!
# The arguments of a facet directive

A node says in three places what it wants of its facets: the key to order by, the keys that are
bound to variables, and the keys that it asks for. All three become arguments of one directive
(`FacetPart`), and they may name the same keys. `Clause.Merges` says how they share: a key is an
argument of one kind only, the binding of the order key moves into the order, and no binding and
no key that is asked for gets lost (`Clause.facetDirective_merges`).

What carries this is that the order takes exactly the entry of its own key out of the bindings
(`SortedEntries.filter_key_eq`), so that the two together are the whole table again.
-/

namespace Dql

/-- The entries of a key: the one that is found under it, if there is one. -/
theorem SortedEntries.filter_key_eq {ν : Type} {entries : List (String × ν)}
    (hsorted : Sorted entries) (key : String) :
    entries.filter (fun e => e.1 == key) = ((find? key entries).map (key, ·)).toList := by
  induction entries with
  | nil => rfl
  | cons e rest ih =>
    obtain ⟨hfirst, hrest⟩ := List.pairwise_cons.1 hsorted
    rw [find?]
    have hself : compare e.1 e.1 = .eq := Std.ReflCmp.compare_self
    by_cases hkey : compare key e.1 = .eq
    · obtain rfl := Std.LawfulEqCmp.eq_of_compare hkey
      -- the keys behind are greater, so there is no second entry
      have hnone : rest.filter (fun x => x.1 == e.1) = [] := by
        refine List.filter_eq_nil_iff.2 fun x hx hsame => ?_
        have hlt : compare e.1 x.1 = .lt := hfirst x hx
        rw [beq_iff_eq.1 hsame, hself] at hlt
        exact absurd hlt nofun
      rw [if_pos hkey, List.filter_cons, if_pos (beq_self_eq_true _), hnone]
      rfl
    · have hne : ¬ (e.1 == key) = true := fun h => hkey (beq_iff_eq.1 h ▸ hself)
      rw [if_neg hkey, List.filter_cons, if_neg hne, ih hrest]

/-! ## Arguments -/

/-- An argument of a facet directive. -/
inductive FacetPart where
  /-- Facets come in the order of a key, which is bound on the way if it has a variable. -/
  | order (descending : Bool) (key : String) (variableName : Option String)
  /-- A key is bound to a variable. -/
  | binding (key variableName : String)
  /-- A key is asked for, under another name if there is one. -/
  | asked (key aliasName : String)
deriving DecidableEq

namespace FacetPart

/-- The key that an argument is about. -/
def key : FacetPart → String
  | order _ key _ => key
  | binding key _ => key
  | asked key _ => key

/-- The binding that an argument makes. -/
def bound : FacetPart → Option (String × String)
  | order _ key variableName => variableName.map (key, ·)
  | binding key variableName => some (key, variableName)
  | asked _ _ => none

/-- The text of an argument. -/
def text : FacetPart → String
  | order descending key none => directionWord descending ++ ": " ++ key
  | order descending key (some name) => directionWord descending ++ ": " ++ (name ++ " as " ++ key)
  | binding key name => name ++ " as " ++ key
  | asked key aliasName => if aliasName = "" then key else aliasName ++ ": " ++ key

/-- The directive with the given arguments. One without arguments, at a node without children,
has an empty block behind it. -/
def directive (parts : List FacetPart) (hasChildren : Bool) : String :=
  "@facets(" ++ Text.join ", " (parts.map text) ++ ")" ++
    if parts = [] ∧ hasChildren = false then " \x7b \x7d" else ""

end FacetPart

namespace Clause

variable (c : Clause)

/-- How a node's wishes become arguments: the order, then the bindings, then the keys that are
asked for, no two of them about the same key. -/
structure Merges (request : FacetRequest) (orders bindings asked : List FacetPart) : Prop where
  /-- Without an order key there is no order. -/
  no_order : c.facetOrder = "" → orders = []
  /-- An order key makes one order, with the variable that the key is bound to. -/
  one_order : c.facetOrder ≠ "" → ∃ variableName,
    orders = [.order c.facetDescending c.facetOrder variableName] ∧
      ∀ name, variableName = some name ↔ (c.facetOrder, name) ∈ c.facetVariables.entries
  /-- The bindings are those of the other keys. -/
  mem_bindings : ∀ part, part ∈ bindings ↔
    ∃ e ∈ c.facetVariables.entries, e.1 ≠ c.facetOrder ∧ part = .binding e.1 e.2
  /-- The bindings come in the order of their keys. -/
  bindings_sorted : bindings.Pairwise fun a b => compare a.key b.key = .lt
  /-- The keys that are neither bound nor ordered by come as they are asked for. -/
  asked_eq : asked = (request.keys.filter fun k =>
      k.key ≠ c.facetOrder ∧ ∀ e ∈ c.facetVariables.entries, e.1 ≠ k.key).map
    fun k => .asked k.key k.aliasName
  /-- Each binding is made, and made once. -/
  bound_once : ((orders ++ bindings ++ asked).filterMap FacetPart.bound).Perm
    c.facetVariables.entries
  /-- A key is in one of the three only. -/
  keys_disjoint : (orders.map FacetPart.key).Disjoint (bindings.map FacetPart.key) ∧
    (orders.map FacetPart.key).Disjoint (asked.map FacetPart.key) ∧
    (bindings.map FacetPart.key).Disjoint (asked.map FacetPart.key)
  /-- Each key that is asked for is there. -/
  key_kept : ∀ k ∈ request.keys, ∃ part ∈ orders ++ bindings ++ asked, part.key = k.key

/-- The order that is written. -/
def orderParts : List FacetPart :=
  if c.facetOrder = "" then []
  else [.order c.facetDescending c.facetOrder (c.facetVariables.find? c.facetOrder)]

/-- The bindings that are written. -/
def bindingParts : List FacetPart :=
  (c.facetVariables.entries.filter fun e => e.1 ≠ c.facetOrder).map fun e => .binding e.1 e.2

/-- The keys that are written as asked for. -/
def askedParts (keys : List FacetKey) : List FacetPart :=
  (keys.filter fun k => k.key ≠ c.facetOrder ∧
    ∀ e ∈ c.facetVariables.entries, e.1 ≠ k.key).map fun k => .asked k.key k.aliasName

variable {c}

/-! ## What is written -/

theorem map_text_orderParts : c.orderParts.map FacetPart.text = c.facetOrderTexts := by
  unfold orderParts
  rw [facetOrderTexts_eq]
  by_cases horder : c.facetOrder = ""
  · simp [horder]
  · rw [if_neg horder, if_neg (by simpa using horder)]
    cases c.facetVariables.find? c.facetOrder with
    | none => rfl
    | some name => exact congrArg (fun t => [_ ++ t]) (facetBinding_eq name c.facetOrder).symm

theorem map_text_bindingParts : c.bindingParts.map FacetPart.text = c.facetBindingTexts := by
  unfold bindingParts
  rw [facetBindingTexts_eq, List.map_map]
  have hfilter : (fun e : String × String => decide (e.1 ≠ c.facetOrder)) =
      fun e => e.1 != c.facetOrder := by
    funext e
    simp [bne, Bool.beq_eq_decide_eq]
  rw [hfilter]
  exact List.map_congr_left fun e _ => (facetBinding_eq e.2 e.1).symm

/-- A key is unbound if no entry has it. -/
theorem contains_eq_false_iff {key : String} :
    c.facetVariables.contains key = false ↔ ∀ e ∈ c.facetVariables.entries, e.1 ≠ key := by
  unfold Table.contains
  constructor
  · rintro h e he rfl
    rw [Table.find?_of_mem he] at h
    exact absurd h nofun
  · intro h
    cases hfind : c.facetVariables.find? key with
    | none => rfl
    | some name => exact absurd rfl (h _ (SortedEntries.mem_of_find? hfind))

theorem map_text_askedParts (keys : List FacetKey) :
    (c.askedParts keys).map FacetPart.text = c.facetKeyTexts keys := by
  have hfilter : (fun k : FacetKey => decide (k.key ≠ c.facetOrder ∧
        ∀ e ∈ c.facetVariables.entries, e.1 ≠ k.key)) =
      fun k => !c.facetVariables.contains k.key && k.key != c.facetOrder := by
    funext k
    rw [Bool.eq_iff_iff, decide_eq_true_iff, Bool.and_eq_true, Bool.not_eq_true',
      contains_eq_false_iff, bne_iff_ne, and_comm]
  have htext : ∀ k : FacetKey, (FacetPart.asked k.key k.aliasName).text = facetKeyText k := by
    intro k
    rw [facetKeyText_eq, FacetPart.text]
    unfold Text.unlessEmpty
    by_cases halias : k.aliasName = ""
    · simp [halias]
    · rw [if_neg halias, if_neg (by simpa using halias)]
  unfold askedParts
  rw [facetKeyTexts_eq, List.map_map, hfilter]
  exact List.map_congr_left fun k _ => htext k

/-- The directive is that of the order, the bindings and the keys asked for. -/
theorem facetDirective_of_keys {request : FacetRequest} (hasChildren : Bool)
    (hfacets : c.facets = some request) (hall : request.allKeys = false) :
    c.facetDirective hasChildren = some (FacetPart.directive
      (c.orderParts ++ c.bindingParts ++ c.askedParts request.keys) hasChildren) := by
  have htexts : c.facetOrderTexts ++ c.facetBindingTexts ++ c.facetKeyTexts request.keys =
      (c.orderParts ++ c.bindingParts ++ c.askedParts request.keys).map FacetPart.text := by
    rw [List.map_append, List.map_append, map_text_orderParts, map_text_bindingParts,
      map_text_askedParts]
  unfold FacetPart.directive
  rw [facetDirective_eq]
  rw [hfacets, Option.map_some, if_neg (by rw [hall]; exact Bool.false_ne_true), htexts]
  cases hparts : c.orderParts ++ c.bindingParts ++ c.askedParts request.keys with
  | nil => cases hasChildren <;> rfl
  | cons part rest => simp

/-! ## How the wishes are merged -/

theorem filterMap_bound_orderParts (hkeys : ∀ e ∈ c.facetVariables.entries, e.1 ≠ "") :
    c.orderParts.filterMap FacetPart.bound =
      c.facetVariables.entries.filter fun e => e.1 == c.facetOrder := by
  unfold orderParts
  by_cases horder : c.facetOrder = ""
  · -- without an order key, an entry that the order would take has the empty key
    rw [if_pos horder, horder]
    exact (List.filter_eq_nil_iff.2 fun e he h => hkeys e he (beq_iff_eq.1 h)).symm
  · rw [if_neg horder, SortedEntries.filter_key_eq c.facetVariables.sorted]
    change _ = ((c.facetVariables.find? c.facetOrder).map (c.facetOrder, ·)).toList
    cases c.facetVariables.find? c.facetOrder with
    | none => rfl
    | some name => rfl

theorem filterMap_bound_bindingParts : c.bindingParts.filterMap FacetPart.bound =
    c.facetVariables.entries.filter fun e => !(e.1 == c.facetOrder) := by
  unfold bindingParts
  rw [List.filterMap_map]
  have hbound : (FacetPart.bound ∘ fun e : String × String => .binding e.1 e.2) = some := rfl
  rw [hbound, List.filterMap_some]
  refine List.filter_congr fun e _ => ?_
  rw [decide_not, beq_eq_decide]

theorem filterMap_bound_askedParts (keys : List FacetKey) :
    (c.askedParts keys).filterMap FacetPart.bound = [] := by
  rw [List.filterMap_eq_nil_iff]
  intro part hpart
  obtain ⟨k, _, rfl⟩ := List.mem_map.1 hpart
  rfl

/-- The order and the other bindings together make each binding once. -/
theorem perm_filterMap_bound (hkeys : ∀ e ∈ c.facetVariables.entries, e.1 ≠ "")
    (keys : List FacetKey) :
    ((c.orderParts ++ c.bindingParts ++ c.askedParts keys).filterMap FacetPart.bound).Perm
      c.facetVariables.entries := by
  -- the order takes the entry of its key out of the table, and the bindings take the others
  rw [List.filterMap_append, List.filterMap_append, filterMap_bound_orderParts hkeys,
    filterMap_bound_bindingParts, filterMap_bound_askedParts, List.append_nil]
  exact List.filter_append_perm _ _

theorem key_of_mem_orderParts {part : FacetPart} (h : part ∈ c.orderParts) :
    part.key = c.facetOrder := by
  unfold orderParts at h
  split at h
  · exact absurd h List.not_mem_nil
  · rw [List.mem_singleton.1 h]
    rfl

theorem mem_bindingParts_iff {part : FacetPart} : part ∈ c.bindingParts ↔
    ∃ e ∈ c.facetVariables.entries, e.1 ≠ c.facetOrder ∧ part = .binding e.1 e.2 := by
  unfold bindingParts
  constructor
  · intro h
    obtain ⟨e, he, rfl⟩ := List.mem_map.1 h
    obtain ⟨hmem, hne⟩ := List.mem_filter.1 he
    exact ⟨e, hmem, of_decide_eq_true hne, rfl⟩
  · rintro ⟨e, he, hne, rfl⟩
    exact List.mem_map_of_mem (List.mem_filter.2 ⟨he, decide_eq_true hne⟩)

theorem mem_askedParts_iff {keys : List FacetKey} {part : FacetPart} :
    part ∈ c.askedParts keys ↔ ∃ k ∈ keys, k.key ≠ c.facetOrder ∧
      (∀ e ∈ c.facetVariables.entries, e.1 ≠ k.key) ∧ part = .asked k.key k.aliasName := by
  unfold askedParts
  constructor
  · intro h
    obtain ⟨k, hk, rfl⟩ := List.mem_map.1 h
    obtain ⟨hmem, hfree⟩ := List.mem_filter.1 hk
    obtain ⟨hne, hunbound⟩ := of_decide_eq_true hfree
    exact ⟨k, hmem, hne, hunbound, rfl⟩
  · rintro ⟨k, hk, hne, hunbound, rfl⟩
    exact List.mem_map_of_mem (List.mem_filter.2 ⟨hk, decide_eq_true ⟨hne, hunbound⟩⟩)

theorem pairwise_bindingParts :
    c.bindingParts.Pairwise fun a b => compare a.key b.key = .lt := by
  unfold bindingParts
  rw [List.pairwise_map]
  exact c.facetVariables.sorted.filter _

/-- No key is in two of the three. -/
theorem disjoint_keys (keys : List FacetKey) :
    (c.orderParts.map FacetPart.key).Disjoint (c.bindingParts.map FacetPart.key) ∧
      (c.orderParts.map FacetPart.key).Disjoint ((c.askedParts keys).map FacetPart.key) ∧
      (c.bindingParts.map FacetPart.key).Disjoint ((c.askedParts keys).map FacetPart.key) := by
  have horder : ∀ key ∈ c.orderParts.map FacetPart.key, key = c.facetOrder := by
    intro key hkey
    obtain ⟨part, hpart, rfl⟩ := List.mem_map.1 hkey
    exact key_of_mem_orderParts hpart
  have hbinding : ∀ key ∈ c.bindingParts.map FacetPart.key,
      key ≠ c.facetOrder ∧ ∃ e ∈ c.facetVariables.entries, e.1 = key := by
    intro key hkey
    obtain ⟨part, hpart, rfl⟩ := List.mem_map.1 hkey
    obtain ⟨e, he, hne, rfl⟩ := mem_bindingParts_iff.1 hpart
    exact ⟨hne, e, he, rfl⟩
  have hasked : ∀ key ∈ (c.askedParts keys).map FacetPart.key,
      key ≠ c.facetOrder ∧ ∀ e ∈ c.facetVariables.entries, e.1 ≠ key := by
    intro key hkey
    obtain ⟨part, hpart, rfl⟩ := List.mem_map.1 hkey
    obtain ⟨k, _, hne, hunbound, rfl⟩ := mem_askedParts_iff.1 hpart
    exact ⟨hne, hunbound⟩
  refine ⟨fun key ho hb => (hbinding key hb).1 (horder key ho),
    fun key ho ha => (hasked key ha).1 (horder key ho), fun key hb ha => ?_⟩
  obtain ⟨e, he, hkey⟩ := (hbinding key hb).2
  exact (hasked key ha).2 e he hkey

/-- A key that is asked for is ordered by, bound, or written as asked for. -/
theorem exists_part_of_key {keys : List FacetKey} (hkeys : ∀ k ∈ keys, k.key ≠ "")
    {k : FacetKey} (hk : k ∈ keys) :
    ∃ part ∈ c.orderParts ++ c.bindingParts ++ c.askedParts keys, part.key = k.key := by
  by_cases horder : k.key = c.facetOrder
  · have hne : c.facetOrder ≠ "" := horder ▸ hkeys k hk
    have hmem : FacetPart.order c.facetDescending c.facetOrder
        (c.facetVariables.find? c.facetOrder) ∈ c.orderParts := by
      rw [orderParts, if_neg hne]
      exact List.mem_singleton.2 rfl
    exact ⟨_, List.mem_append_left _ (List.mem_append_left _ hmem), horder.symm⟩
  · by_cases hbound : ∃ e ∈ c.facetVariables.entries, e.1 = k.key
    · obtain ⟨e, he, hkey⟩ := hbound
      have hmem := mem_bindingParts_iff.2 ⟨e, he, hkey ▸ horder, rfl⟩
      exact ⟨_, List.mem_append_left _ (List.mem_append_right _ hmem), hkey⟩
    · have hunbound : ∀ e ∈ c.facetVariables.entries, e.1 ≠ k.key :=
        fun e he hkey => hbound ⟨e, he, hkey⟩
      have hmem := mem_askedParts_iff.2 ⟨k, hk, horder, hunbound, rfl⟩
      exact ⟨_, List.mem_append_right _ hmem, rfl⟩

theorem merges_parts {request : FacetRequest}
    (hbound : ∀ e ∈ c.facetVariables.entries, e.1 ≠ "")
    (hkeys : ∀ k ∈ request.keys, k.key ≠ "") :
    c.Merges request c.orderParts c.bindingParts (c.askedParts request.keys) where
  no_order h := if_pos h
  one_order h := by
    refine ⟨c.facetVariables.find? c.facetOrder, if_neg h, fun name => ?_⟩
    exact ⟨SortedEntries.mem_of_find?, fun hmem => Table.find?_of_mem hmem⟩
  mem_bindings _ := mem_bindingParts_iff
  bindings_sorted := pairwise_bindingParts
  asked_eq := rfl
  bound_once := perm_filterMap_bound hbound request.keys
  keys_disjoint := disjoint_keys request.keys
  key_kept _ hk := exists_part_of_key hkeys hk

/-- **The facet directive merges three lists without loss and without repetition.** If a node
asks for facets, but not for all of them, and no key is empty, then its directive has exactly
these arguments: one order if there is an order key, the bindings of the other keys in the order
of the keys, and the keys asked for that are in neither, in their order, with their repetitions
and their other names. So each binding is made once, and no key is in two of the three. -/
theorem facetDirective_merges (c : Clause) (request : FacetRequest) (hasChildren : Bool)
    (hfacets : c.facets = some request) (hall : request.allKeys = false)
    (hbound : ∀ e ∈ c.facetVariables.entries, e.1 ≠ "")
    (hkeys : ∀ k ∈ request.keys, k.key ≠ "") :
    ∃ orders bindings asked, c.Merges request orders bindings asked ∧
      c.facetDirective hasChildren =
        some (FacetPart.directive (orders ++ bindings ++ asked) hasChildren) :=
  ⟨c.orderParts, c.bindingParts, c.askedParts request.keys, merges_parts hbound hkeys,
    facetDirective_of_keys hasChildren hfacets hall⟩

/-- A request for keys that are ordered by, bound, renamed and asked for again. -/
def overlappingRequest : FacetRequest :=
  { keys := [⟨"since", ""⟩, ⟨"close", "c"⟩, ⟨"until", ""⟩, ⟨"close", ""⟩, ⟨"close", "c"⟩] }

/-- A node whose order key is bound and asked for as well. -/
def overlappingFacets : Clause :=
  { facets := some overlappingRequest
    facetVariables := Table.ofList [("since", "s"), ("until", "u")]
    facetOrder := "since"
    facetDescending := true }

theorem overlappingFacets_merges :
    overlappingFacets.facetDirective false =
        some "@facets(orderdesc: s as since, u as until, c: close, close, c: close)" ∧
      ∃ orders bindings asked, overlappingFacets.Merges overlappingRequest orders bindings asked ∧
        overlappingFacets.facetDirective false =
          some (FacetPart.directive (orders ++ bindings ++ asked) false) :=
  ⟨by decide, facetDirective_merges overlappingFacets overlappingRequest false rfl rfl
    (by decide) (by decide)⟩

end Clause

end Dql
