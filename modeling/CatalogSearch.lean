import CatalogSearch.Criteria.Evaluation
import CatalogSearch.Editing.Predicate
import CatalogSearch.Explanation.Derivation
import CatalogSearch.Request.Ogc
import CatalogSearch.Request.Portal
import CatalogSearch.Settings.Store
import CatalogSearch.Proofs.Expansion.Restructuring
import CatalogSearch.Proofs.Expansion.NormalForm
import CatalogSearch.Proofs.Expansion.Meaning
import CatalogSearch.Proofs.Expansion.Fields
import CatalogSearch.Proofs.Expansion.Spelling
import CatalogSearch.Proofs.Expansion.Rearrangement
import CatalogSearch.Proofs.Criteria.WellFormed
import CatalogSearch.Proofs.Criteria.Elision
import CatalogSearch.Proofs.Criteria.Satisfaction
import CatalogSearch.Proofs.Criteria.Policies
import CatalogSearch.Proofs.Criteria.Shape
import CatalogSearch.Proofs.Criteria.Instants
import CatalogSearch.Proofs.Criteria.Concatenation
import CatalogSearch.Proofs.Criteria.Widening
import CatalogSearch.Proofs.Criteria.Readings
import CatalogSearch.Proofs.Explanation.GroupedDocument
import CatalogSearch.Proofs.Explanation.Agreement
import CatalogSearch.Proofs.Explanation.Recheck
import CatalogSearch.Proofs.Explanation.Alike
import CatalogSearch.Proofs.Explanation.Spelling
import CatalogSearch.Proofs.Explanation.Rearrangement
import CatalogSearch.Proofs.Explanation.Concatenation
import CatalogSearch.Proofs.Explanation.Padding
import CatalogSearch.Proofs.Calendar.RelativeDates
import CatalogSearch.Proofs.Calendar.Rollover
import CatalogSearch.Proofs.Portal.Grammar
import CatalogSearch.Proofs.Portal.Meaning
import CatalogSearch.Proofs.Portal.Phrases
import CatalogSearch.Proofs.Portal.Parameters
import CatalogSearch.Proofs.Ogc.Grammar
import CatalogSearch.Proofs.Ogc.Meaning
import CatalogSearch.Proofs.Ogc.Items
import CatalogSearch.Proofs.Ogc.Lists
import CatalogSearch.Proofs.Request.BoundingBox
import CatalogSearch.Proofs.Request.QueryString
import CatalogSearch.Proofs.Request.Forms
import CatalogSearch.Proofs.Codec.Payloads
import CatalogSearch.Proofs.Codec.RoundTrip
import CatalogSearch.Proofs.Codec.Conditions
import CatalogSearch.Proofs.Json.Indentation
import CatalogSearch.Proofs.Codec.Explanations
import CatalogSearch.Proofs.Explanation.RoundTrip
import CatalogSearch.Proofs.Editing.History
import CatalogSearch.Proofs.Settings.Session
