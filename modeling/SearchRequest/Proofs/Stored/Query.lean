import SearchRequest.Proofs.Query.Tree
import SearchRequest.Proofs.Stored.Settings
import SearchRequest.Stored.Query

/-!
# Stored queries

Every query is kept, whatever it holds and whether or not it could be encoded.  How many brackets
are open in its form can be counted on its tree.
-/

namespace SearchRequest

open Json (Draft Spelling bracketDepth)
open Stored (Kept fields? fields?_object)

theorem Encoding.ofStored?_key (room : Nat) (encoding : Encoding) :
    ofStored? room (Draft.text encoding.key).spelling = some encoding := by
  rw [ofStored?, Stored.name?_text]
  cases encoding <;> decide

theorem Comparison.ofStored?_token (room : Nat) (comparison : Option Comparison) :
    ofStored? room (Draft.text (tokenOrUnset comparison)).spelling = some comparison := by
  rw [ofStored?, Stored.name?_text]
  rcases comparison with _ | comparison
  · rfl
  · cases comparison <;> decide

namespace Query

theorem storedAll_eq_map (queries : List Query) : storedAll queries = queries.map stored := by
  induction queries with
  | nil => rfl
  | cons query rest ih => rw [storedAll, List.map_cons, ih]

/-! ## One level of a stored form -/

section Levels

variable {room : Nat} {tag : String} {body : Spelling}

theorem ofStored?_of_leaf (leaf : tag ∉ ["and", "or", "not"]) :
    ofStored? (room + 2) (.object [(some tag, body)]) = leafOfStored? room tag body := by
  simp only [List.mem_cons, List.not_mem_nil, or_false, not_or] at leaf
  obtain ⟨notAnd, notOr, notNot⟩ := leaf
  rw [ofStored?.eq_def]
  simp only [notAnd, notOr, notNot, or_self, if_false]

theorem ofStored?_of_not {query : Spelling}
    (fields : fields? ["query"] body = some [some query]) :
    ofStored? (room + 2) (.object [(some "not", body)]) = (ofStored? room query).map .negate := by
  rw [ofStored?.eq_def]
  simp only [fields, String.reduceEq, or_self, if_false, if_true]

theorem ofStored?_of_listing (listing : tag = "and" ∨ tag = "or") {items : List Spelling}
    (fields : fields? ["queries"] body = some [some (.array items)]) :
    ofStored? (room + 3) (.object [(some tag, body)]) =
      (items.mapM (ofStored? room)).map (if tag = "and" then .allOf else .anyOf) := by
  rw [ofStored?.eq_def]
  simp only [fields, listing, if_true]

/-- In two brackets there is no room for the array. -/
theorem ofStored?_of_narrow_listing (listing : tag = "and" ∨ tag = "or") :
    ofStored? 2 (.object [(some tag, body)]) = none := by
  rw [ofStored?.eq_def]
  simp only [listing, if_true]

end Levels

/-- The form of a query opens two brackets around what is inside, and nothing fits in less. -/
theorem kept_of_inside {tag : String} {body : Draft} {query : Query} {depth : Nat}
    (deep : body.spelling.depth = depth + 1)
    (inside : ∀ room, ofStored? (room + 2) (.object [(some tag, body.spelling)]) =
      if depth ≤ room then some query else none) : Kept ofStored? (.tagged tag body) query := by
  intro room
  rw [Draft.depth_tagged, deep, Draft.spelling_tagged]
  match room with
  | 0 => rfl
  | 1 =>
      rw [if_neg (by omega)]
      rfl
  | room + 2 =>
      rw [inside]
      exact if_congr (by omega) rfl rfl

/-! ## Queries without queries below them -/

/-- A leaf is kept if its body needs the room that the reader of leaves asks for. -/
theorem kept_of_leaf {tag : String} {body : Draft} {query : Query} {depth : Nat}
    (leaf : tag ∉ ["and", "or", "not"]) (deep : body.spelling.depth = depth + 1)
    (read : ∀ room, leafOfStored? room tag body.spelling =
      if depth ≤ room then some query else none) : Kept ofStored? (.tagged tag body) query :=
  kept_of_inside deep fun room => by rw [ofStored?_of_leaf leaf, read]

theorem kept_verbatim (text : String) (encoding : Encoding) :
    Kept ofStored? (Query.verbatim text encoding).stored (.verbatim text encoding) := by
  have flat : (Draft.object [("query", .text text),
      ("format", .text encoding.key)]).spelling.depth = 0 + 1 := rfl
  refine kept_of_leaf (by decide) flat fun room => ?_
  have fields : fields? ["query", "format"]
      (Draft.object [("query", .text text), ("format", .text encoding.key)]).spelling =
        some [some (Draft.text text).spelling, some (Draft.text encoding.key).spelling] :=
    fields?_object rfl (by decide)
  rw [if_pos (Nat.zero_le room), leafOfStored?, if_pos rfl, fields]
  simp only [Stored.textField?_text, Stored.fieldOr?, Encoding.ofStored?_key]
  rfl

theorem kept_propertyEquals (property value : String) :
    Kept ofStored? (Query.propertyEquals property value).stored
      (.propertyEquals property value) := by
  have flat : (Draft.object [("property", .text property),
      ("value", .text value)]).spelling.depth = 0 + 1 := rfl
  refine kept_of_leaf (by decide) flat fun room => ?_
  have fields : fields? ["property", "value"]
      (Draft.object [("property", .text property), ("value", .text value)]).spelling =
        some [some (Draft.text property).spelling, some (Draft.text value).spelling] :=
    fields?_object rfl (by decide)
  rw [if_pos (Nat.zero_le room), leafOfStored?, if_neg (by decide), if_pos rfl, fields]
  rfl

theorem depth_elementBody (element : QualifiedName) (value : String) :
    (Draft.object [("element", element.stored), ("value", .text value)]).spelling.depth =
      element.stored.spelling.depth + 1 := by
  simp [Draft.spelling, Draft.spellingMembers, Spelling.depth, Spelling.depthMembers]

theorem kept_elementEquals (element : QualifiedName) (value : String) :
    Kept ofStored? (Query.elementEquals element value).stored (.elementEquals element value) := by
  refine kept_of_leaf (by decide) (depth_elementBody element value) fun room => ?_
  have fields : fields? ["element", "value"]
      (Draft.object [("element", element.stored), ("value", .text value)]).spelling =
        some [some element.stored.spelling, some (Draft.text value).spelling] :=
    fields?_object rfl (by decide)
  rw [leafOfStored?, if_neg (by decide), if_neg (by decide), if_pos rfl, fields]
  simp only [Option.bind_some, element.kept room]
  split <;> rfl

theorem depth_rangeBody (container : Container) (comparison : Option Comparison)
    (bound rangeType : String) :
    (Draft.object [("container", container.stored),
      ("operation", .text (Comparison.tokenOrUnset comparison)), ("value", .text bound),
      ("range_type", .text rangeType)]).spelling.depth = container.stored.spelling.depth + 1 := by
  simp [Draft.spelling, Draft.spellingMembers, Spelling.depth, Spelling.depthMembers]

theorem kept_range (container : Container) (comparison : Option Comparison)
    (bound rangeType : String) :
    Kept ofStored? (Query.range container comparison bound rangeType).stored
      (.range container comparison bound rangeType) := by
  refine kept_of_leaf (by decide) (depth_rangeBody container comparison bound rangeType)
    fun room => ?_
  have fields : fields? ["container", "operation", "value", "range_type"]
      (Draft.object [("container", container.stored),
        ("operation", .text (Comparison.tokenOrUnset comparison)), ("value", .text bound),
        ("range_type", .text rangeType)]).spelling =
        some [some container.stored.spelling,
          some (Draft.text (Comparison.tokenOrUnset comparison)).spelling,
          some (Draft.text bound).spelling, some (Draft.text rangeType).spelling] :=
    fields?_object rfl (by decide)
  rw [leafOfStored?, if_neg (by decide), if_neg (by decide), if_neg (by decide), if_pos rfl, fields]
  simp only [Option.bind_some, container.kept room, Comparison.ofStored?_token]
  split <;> rfl

/-- The two kinds of sets are kept in the same way. -/
theorem kept_of_uris {tag : String} {make : List String → Query} (uris : List String)
    (leaf : tag ∉ ["and", "or", "not"])
    (read : ∀ room body, leafOfStored? room tag body =
      match fields? ["uris"] body with
      | some [uris] => (uris.bind (Stored.texts? room)).map make
      | _ => none) :
    Kept ofStored? (.tagged tag (.tagged "uris" (.texts uris))) (make uris) := by
  refine kept_of_leaf leaf (Draft.depth_tagged "uris" (.texts uris)) fun room => ?_
  have fields : fields? ["uris"] (Draft.tagged "uris" (.texts uris)).spelling =
      some [some (Draft.texts uris).spelling] :=
    fields?_object rfl (by decide)
  rw [read, fields]
  simp only [Option.bind_some, Stored.kept_texts uris room]
  split <;> rfl

/-! ## Combined queries -/

theorem kept_negate {query : Query} (kept : Kept ofStored? query.stored query) :
    Kept ofStored? (Query.negate query).stored (.negate query) := by
  refine kept_of_inside (Draft.depth_tagged "query" query.stored) fun room => ?_
  have fields : fields? ["query"] (Draft.tagged "query" query.stored).spelling =
      some [some query.stored.spelling] :=
    fields?_object rfl (by decide)
  rw [ofStored?_of_not fields, kept room]
  split <;> rfl

theorem kept_of_listing {tag : String} (listing : tag = "and" ∨ tag = "or") {queries : List Query}
    (kept : ∀ query ∈ queries, Kept ofStored? query.stored query) :
    Kept ofStored? (.tagged tag (.tagged "queries" (.array (storedAll queries))))
      (if tag = "and" then .allOf queries else .anyOf queries) := by
  refine kept_of_inside (Draft.depth_tagged "queries" _) fun room => ?_
  have fields : fields? ["queries"]
      (Draft.tagged "queries" (.array (storedAll queries))).spelling =
        some [some (Draft.array (storedAll queries)).spelling] :=
    fields?_object rfl (by decide)
  rw [storedAll_eq_map] at fields ⊢
  rw [Draft.spelling, Spelling.depth]
  cases room with
  -- The array opens a third bracket even if it is empty.
  | zero => exact ofStored?_of_narrow_listing listing
  | succ room =>
      rw [ofStored?_of_listing listing fields, Stored.mapM_kept kept]
      simp only [Nat.add_le_add_iff_right]
      split <;> split <;> rfl

/-- Every query is read back from its form. -/
theorem kept (query : Query) : Kept ofStored? query.stored query := by
  induction query using Query.induction with
  | verbatim text encoding => exact kept_verbatim text encoding
  | propertyEquals property value => exact kept_propertyEquals property value
  | elementEquals element value => exact kept_elementEquals element value
  | range container comparison bound rangeType =>
      exact kept_range container comparison bound rangeType
  | allOf queries ih => exact kept_of_listing (.inl rfl) ih
  | anyOf queries ih => exact kept_of_listing (.inr rfl) ih
  | negate query ih => exact kept_negate ih
  | inCollections names => exact kept_of_uris names (by decide) fun _ _ => rfl
  | atUris uris => exact kept_of_uris uris (by decide) fun _ _ => rfl

/-! ## The depth of a stored form -/

mutual

/-- The greatest number of brackets that are open at once in the stored form of a query. -/
def storedDepth : Query → Nat
  | .verbatim _ _ | .propertyEquals _ _ => 2
  | .elementEquals _ _ | .inCollections _ | .atUris _ => 3
  | .range (.property _) _ _ _ => 3
  | .range (.element _) _ _ _ => 4
  | .allOf queries | .anyOf queries => storedDepthAll queries + 3
  | .negate query => query.storedDepth + 2

def storedDepthAll : List Query → Nat
  | [] => 0
  | query :: rest => max query.storedDepth (storedDepthAll rest)

end

theorem depth_listing_stored {tag : String} {queries : List Query}
    (deep : ∀ query ∈ queries, query.stored.spelling.depth = query.storedDepth) :
    (Draft.tagged tag (.tagged "queries" (.array (storedAll queries)))).spelling.depth =
      storedDepthAll queries + 3 := by
  have all : Spelling.depthItems (Draft.spellingItems (storedAll queries)) =
      storedDepthAll queries := by
    induction queries with
    | nil => rfl
    | cons query rest ih =>
        rw [List.forall_mem_cons] at deep
        rw [storedAll, Draft.spellingItems, Spelling.depthItems, storedDepthAll, deep.1, ih deep.2]
  rw [Draft.depth_tagged, Draft.depth_tagged, Draft.spelling, Spelling.depth, all]

theorem depth_stored (query : Query) : query.stored.spelling.depth = query.storedDepth := by
  induction query using Query.induction with
  | verbatim text encoding => rfl
  | propertyEquals property value => rfl
  | elementEquals element value =>
      rw [stored, Draft.depth_tagged, depth_elementBody, element.depth_stored, storedDepth]
  | range container comparison bound rangeType =>
      rw [stored, Draft.depth_tagged, depth_rangeBody, container.depth_stored]
      cases container <;> rfl
  | allOf queries ih => exact depth_listing_stored ih
  | anyOf queries ih => exact depth_listing_stored ih
  | negate query ih => rw [stored, Draft.depth_tagged, Draft.depth_tagged, ih, storedDepth]
  | inCollections names =>
      rw [stored, Draft.depth_tagged, Draft.depth_tagged, Draft.depth_texts, storedDepth]
  | atUris uris =>
      rw [stored, Draft.depth_tagged, Draft.depth_tagged, Draft.depth_texts, storedDepth]

/-- A stored form quotes every text. -/
theorem verbatimFree_stored (query : Query) : query.stored.VerbatimFree := by
  have listing {tag : String} {queries : List Query}
      (free : ∀ query ∈ queries, query.stored.VerbatimFree) :
      (Draft.tagged tag (.tagged "queries" (.array (storedAll queries)))).VerbatimFree := by
    rw [storedAll_eq_map, Draft.verbatimFree_tagged, Draft.verbatimFree_tagged]
    exact Draft.verbatimFree_array.mpr (List.forall_mem_map.mpr free)
  induction query using Query.induction with
  -- Whether a namespace is stated decides which members there are.
  | elementEquals element value =>
      rcases element with ⟨_, _ | space⟩ <;> rfl
  | range container comparison bound rangeType =>
      rcases container with name | ⟨name, _ | space⟩ <;> rfl
  | allOf queries ih => exact listing ih
  | anyOf queries ih => exact listing ih
  | negate query ih => exact Draft.verbatimFree_tagged.mpr (Draft.verbatimFree_tagged.mpr ih)
  | inCollections names =>
      exact Draft.verbatimFree_tagged.mpr
        (Draft.verbatimFree_tagged.mpr (Draft.verbatimFree_texts names))
  | atUris uris =>
      exact Draft.verbatimFree_tagged.mpr
        (Draft.verbatimFree_tagged.mpr (Draft.verbatimFree_texts uris))
  | _ => rfl

/-! ## Stored texts -/

theorem bracketDepth_stored (query : Query) :
    bracketDepth query.stored.render = query.storedDepth := by
  rw [Stored.bracketDepth_render query.verbatimFree_stored, query.depth_stored]

/-- A query is read back from its stored text, unless too many brackets are open in it. -/
theorem ofStoredText?_stored (query : Query) :
    ofStoredText? query.stored.render =
      if bracketDepth query.stored.render ≤ Json.maxOpen then some query else none :=
  query.kept.bind_ofText? query.verbatimFree_stored

end Query

/--
Whatever is stored is read back as it was.  A query is read back unless more brackets are open at
once in its text than the reader allows, and then it is not read at all; how many are open is
counted on the tree.  References, settings and documents are always read back.
-/
theorem Stored.read_render :
    (∀ query : Query,
      bracketDepth query.stored.render = query.storedDepth ∧
        Query.ofStoredText? query.stored.render =
          if bracketDepth query.stored.render ≤ 127 then some query else none) ∧
    (∀ reference : Reference,
      Reference.ofStoredText? reference.stored.render = some reference) ∧
    (∀ settings : Settings, Settings.ofStoredText settings.stored.render = .ok settings) ∧
    (∀ document : Document, Document.ofStoredText? document.stored.render = some document) := by
  refine ⟨?_, ?_, ?_, ?_⟩
  · intro query
    exact ⟨query.bracketDepth_stored, query.ofStoredText?_stored⟩
  · exact Reference.ofStoredText?_stored
  · exact Settings.ofStoredText_stored
  · exact Document.ofStoredText?_stored

end SearchRequest
