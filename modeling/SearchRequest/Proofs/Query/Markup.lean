import SearchRequest.Proofs.Query.Alike
import SearchRequest.Proofs.Xml.Markup
import SearchRequest.Query.Encode

/-!
# The markup of queries

What a query looks for has no influence on the markup of its XML text.  Whatever the names, values,
types and URIs in it are, the same tags and quotes come in the same order, as long as the query has
the same build and takes over the same texts.
-/

namespace SearchRequest

open Xml.Draft (SameMarkup)

theorem Container.sameMarkup_xml {container container' : Container}
    (sameKind : container.kind = container'.kind) :
    SameMarkup container.xml container'.xml := by
  cases container <;> cases container' <;> cases sameKind
  · exact .leaf "json-property" _ _
  · exact .hollow "element" rfl

namespace Query

/-- The leaves ask the same kind of thing, of the same kind of container, and as often. -/
inductive SameForm : Query → Query → Prop where
  | verbatim (text : String) (encoding encoding' : Encoding) :
      SameForm (.verbatim text encoding) (.verbatim text encoding')
  | propertyEquals (property property' value value' : String) :
      SameForm (.propertyEquals property value) (.propertyEquals property' value')
  | elementEquals (element element' : QualifiedName) (value value' : String) :
      SameForm (.elementEquals element value) (.elementEquals element' value')
  | range {container container' : Container} (sameKind : container.kind = container'.kind)
      (comparison comparison' : Option Comparison) (bound bound' rangeType rangeType' : String) :
      SameForm (.range container comparison bound rangeType)
        (.range container' comparison' bound' rangeType')
  | inCollections {names names' : List String} (sameLength : names.length = names'.length) :
      SameForm (.inCollections names) (.inCollections names')
  | atUris {uris uris' : List String} (sameLength : uris.length = uris'.length) :
      SameForm (.atUris uris) (.atUris uris')

theorem sameMarkup_valueXml {container container' : Container}
    (sameKind : container.kind = container'.kind) (value value' : String) :
    SameMarkup (valueXml container value) (valueXml container' value') :=
  .element _ rfl
    (.cons (Container.sameMarkup_xml sameKind) (.cons (.leaf "text" value value') .nil))

theorem sameMarkup_setXml (kind : Kind) {uris uris' : List String}
    (sameLength : uris.length = uris'.length) :
    SameMarkup (setXml kind uris) (setXml kind uris') := by
  refine .element _ rfl ?_
  rw [List.forall₂_map_left_iff, List.forall₂_map_right_iff, List.forall₂_iff_zip]
  exact ⟨sameLength, fun _ => .leaf "uri" _ _⟩

theorem SameForm.sameMarkup_xml {leaf leaf' : Query} (sameForm : SameForm leaf leaf') :
    SameMarkup leaf.xml leaf'.xml := by
  cases sameForm with
  | verbatim text encoding encoding' => rw [xml, xml, SameMarkup]
  | propertyEquals property property' value value' =>
      refine sameMarkup_valueXml ?_ value value'
      rfl
  | elementEquals element element' value value' =>
      refine sameMarkup_valueXml ?_ value value'
      rfl
  | range sameKind comparison comparison' bound bound' rangeType rangeType' =>
      refine .element _ rfl ?_
      exact .cons (Container.sameMarkup_xml sameKind)
        (.cons (.leaf "value" _ _) (.cons (.leaf "range-operator" _ _) .nil))
  | inCollections sameLength => exact sameMarkup_setXml .collections sameLength
  | atUris sameLength => exact sameMarkup_setXml .documents sameLength

theorem Alike.sameMarkup_xml {query query' : Query} (alike : Alike SameForm query query') :
    SameMarkup query.xml query'.xml := by
  have ofAll {queries queries' : List Query}
      (each : List.Forall₂ (fun query query' => SameMarkup query.xml query'.xml) queries queries') :
      List.Forall₂ SameMarkup (xmlAll queries) (xmlAll queries') := by
    rwa [xmlAll_eq_map, xmlAll_eq_map, List.forall₂_map_left_iff, List.forall₂_map_right_iff]
  refine alike.induction (motive := fun query query' => SameMarkup query.xml query'.xml)
    ?leaf ?allOf ?anyOf ?negate
  case leaf => exact fun leaf leaf' sameForm => sameForm.sameMarkup_xml
  case allOf => exact fun queries queries' each => .element _ rfl (ofAll each)
  case anyOf => exact fun queries queries' each => .element _ rfl (ofAll each)
  case negate => exact fun query query' inner => .element _ rfl (.cons inner .nil)

/--
Two queries of the same build, with the same texts of the caller in the same places, have the same
markup as XML, whatever else they are about: no name, namespace, value, bound, type, comparison or
URI can add a tag or a quote, or take one away.
-/
theorem markup_render_of_alike {query query' : Query} (alike : Alike SameForm query query') :
    Xml.markup (query.render .xml) = Xml.markup (query'.render .xml) :=
  alike.sameMarkup_xml

def tameQuery : Query :=
  .negate (.allOf [.elementEquals ⟨"title", none⟩ "knots",
    .range (.element ⟨"price", some "urn:shop"⟩) none "7" "xs:int",
    .atUris ["a.xml", "b.xml"],
    .verbatim "<near/>" .xml])

def intrudingQuery : Query :=
  .negate (.allOf [.elementEquals ⟨"\" x=\"", some "\"/><all/>"⟩ "</text><all/><text>",
    .range (.element ⟨"", none⟩) (some .lt) "<![CDATA[" "\"><all/><x y=\"",
    .atUris ["</uri>", ""],
    .verbatim "<near/>" .xml])

/-- The intruding texts are written, but the tags and quotes are those of the tame query. -/
theorem markup_render_of_alike_intrudingQuery :
    Alike SameForm tameQuery intrudingQuery ∧
      tameQuery.render .xml ≠ intrudingQuery.render .xml ∧
      Xml.markup (tameQuery.render .xml) = Xml.markup (intrudingQuery.render .xml) := by
  have alike : Alike SameForm tameQuery intrudingQuery := by
    refine .negate (.allOf (.cons (.leaf ?_) (.cons (.leaf ?_)
      (.cons (.leaf ?_) (.cons (.leaf ?_) .nil)))))
    · exact .elementEquals _ _ _ _
    · refine .range ?_ _ _ _ _ _ _
      rfl
    · refine .atUris ?_
      rfl
    · exact .verbatim _ _ _
  refine ⟨alike, ?_, markup_render_of_alike alike⟩
  decide +kernel

end Query

end SearchRequest
