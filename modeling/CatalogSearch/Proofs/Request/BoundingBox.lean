import CatalogSearch.Proofs.Portal.Parameters
import CatalogSearch.Request.Ogc

/-!
# Bounding boxes of both backends

Both backends send the first bounding box of a query that they can, but the items interface takes
texts only, where the portal also takes lists, truth values and numbers. So they send the same
exactly when the first box for the portal is a text, or reads like the first text
(`Query.boundingBox_eq_iff`).
-/

namespace CatalogSearch

open Portal (parameterText?)

/-- A text is sent as it is. -/
theorem Portal.parameterText?_of_asText? {condition : FieldCondition} {text : String}
    (given : condition.asText? = some text) : parameterText? condition = some text := by
  cases condition with
  | text value => exact given
  | _ => cases given

/-- The first text is the first value that can be sent exactly if that is a text or reads like it.
-/
theorem Portal.findSome?_parameterText?_eq_iff (conditions : List FieldCondition) :
    conditions.findSome? parameterText? = conditions.findSome? FieldCondition.asText? ↔
      ∀ condition, conditions.find? (fun other => (parameterText? other).isSome) = some condition →
        condition.asText? = none →
          conditions.findSome? FieldCondition.asText? = parameterText? condition := by
  induction conditions with
  | nil => simp
  | cons first rest ih =>
      cases sent : parameterText? first with
      | none =>
          have other : first.asText? = none := by
            rw [Option.eq_none_iff_forall_ne_some]
            intro text given
            rw [parameterText?_of_asText? given] at sent
            cases sent
          rw [List.findSome?_cons_of_isNone (by rw [sent]; rfl),
            List.findSome?_cons_of_isNone (by rw [other]; rfl),
            List.find?_cons_of_neg (by rw [sent]; exact Bool.false_ne_true)]
          exact ih
      | some value =>
          rw [List.findSome?_cons, sent, List.find?_cons_of_pos (by rw [sent]; rfl)]
          simp only [Option.some.injEq, forall_eq']
          cases given : first.asText? with
          | none => simp only [sent, forall_const, eq_comm]
          | some text =>
              rw [parameterText?_of_asText? given] at sent
              rw [List.findSome?_cons, given]
              simp only [sent, reduceCtorEq, false_implies]

namespace Query

/-- **The same bounding box.** Where the portal sends bounding boxes as parameters, both backends
send the same one or none, unless the first condition on it that the portal can send is no text, and
the first text among them is not what the portal sends for it. -/
theorem boundingBox_eq_iff {portal : PortalSettings} (allowed : portal.allows "bbox" = true)
    (parameter : portal.isParameter "bbox" = true) (items : OgcSettings) (options : RequestOptions)
    (now : Instant) (query : Query) :
    (PortalSearch.ofQuery portal now query).parameters.lookup "bbox" =
        (ItemsRequest.ofQuery items options now query).boundingBox ↔
      ∀ condition, (query.conditionsOn "bbox").find?
          (fun other => (parameterText? other).isSome) = some condition →
        condition.asText? = none →
          (ItemsRequest.textsOn query "bbox").head? = parameterText? condition := by
  have sent : (PortalSearch.ofQuery portal now query).parameters.lookup "bbox" =
      (query.conditionsOn "bbox").findSome? parameterText? := by
    refine (Portal.lookup_parameters portal query "bbox").trans ?_
    rw [if_pos (by rw [parameter, allowed]; rfl), Portal.parameter?]
  have first : (ItemsRequest.textsOn query "bbox").head? =
      (query.conditionsOn "bbox").findSome? FieldCondition.asText? := List.head?_filterMap
  have box : (ItemsRequest.ofQuery items options now query).boundingBox =
      (ItemsRequest.textsOn query "bbox").head? := rfl
  rw [sent, box, first]
  exact Portal.findSome?_parameterText?_eq_iff _

/-- Match options, which neither backend can send, before a text and a list. -/
theorem boundingBox_eq_text :
    let query : Query := ⟨.item, [⟨.or, [
      .ofEntries [("bbox", .options (.ofAny ["0,0,9,9"]))],
      .ofEntries [("tags", .text "water"), ("bbox", .text "1,2,3,4")]]⟩,
      ⟨.and, [.ofEntries [("bbox", .list ["5", "6", "7", "8"])]]⟩]⟩
    let options : RequestOptions := ⟨some 20, none, none, none⟩
    PortalSettings.initial.allows "bbox" = true ∧
      PortalSettings.initial.isParameter "bbox" = true ∧
        (PortalSearch.ofQuery .initial .epoch query).parameters.lookup "bbox" =
          (ItemsRequest.ofQuery .initial options .epoch query).boundingBox := by
  intro query options
  refine ⟨rfl, rfl, (boundingBox_eq_iff rfl rfl .initial options .epoch query).mpr ?_⟩
  intro condition found other
  obtain rfl : FieldCondition.text "1,2,3,4" = condition := Option.some.inj found
  cases other

/-- A list is sent to the portal, and nothing to the items interface. -/
theorem boundingBox_list_left_out :
    ¬ ∀ (portal : PortalSettings) (items : OgcSettings) (options : RequestOptions) (now : Instant)
      (query : Query), portal.allows "bbox" = true → portal.isParameter "bbox" = true →
        (PortalSearch.ofQuery portal now query).parameters.lookup "bbox" =
          (ItemsRequest.ofQuery items options now query).boundingBox := by
  intro same
  have boxes : some "1,2,3,4" = none := same .initial .initial ⟨none, none, none, none⟩ .epoch
    ⟨.item, [⟨.and, [.ofEntries [("bbox", .list ["1", "2", "3", "4"])]]⟩]⟩ rfl rfl
  cases boxes

end Query

end CatalogSearch
