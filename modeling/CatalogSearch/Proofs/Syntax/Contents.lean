import CatalogSearch.Proofs.Syntax.Delimited

/-!
# Contents of joined texts

Texts one after the other contain what each of them contains (`Grammar.ReadsAll`), and still do so
when texts without content are left out and the others are joined.
-/

namespace CatalogSearch

namespace Grammar

variable {α β : Type} {reads : List Char → List α → Prop}

/-- Texts one after the other, with all that is read in them. -/
inductive ReadsAll (reads : List Char → List α → Prop) : List (List Char) → List α → Prop where
  | nil : ReadsAll reads [] []
  | cons {text : List Char} {texts : List (List Char)} {content contents : List α}
      (read : reads text content) (others : ReadsAll reads texts contents) :
      ReadsAll reads (text :: texts) (content ++ contents)

namespace ReadsAll

variable {text : List Char} {texts : List (List Char)} {content contents : List α}

theorem single (read : reads text content) : ReadsAll reads [text] content := by
  have all := cons read .nil
  rwa [List.append_nil] at all

theorem append {others : List (List Char)} {otherContents : List α}
    (read : ReadsAll reads texts contents) (otherRead : ReadsAll reads others otherContents) :
    ReadsAll reads (texts ++ others) (contents ++ otherContents) := by
  induction read with
  | nil => exact otherRead
  | cons first _ ih =>
      rw [List.append_assoc]
      exact .cons first ih

/-- Texts that are written for some elements contain what all elements do, if the others contain
nothing. -/
theorem of_filterMap {elements : List β} {write : β → Option (List Char)} {holds : β → List α}
    (read : ∀ element ∈ elements, ∀ text, write element = some text → reads text (holds element))
    (silent : ∀ element ∈ elements, write element = none → holds element = []) :
    ReadsAll reads (elements.filterMap write) (elements.flatMap holds) := by
  induction elements with
  | nil => exact .nil
  | cons first rest ih =>
      have later := ih (fun element member => read element (.tail first member))
        (fun element member => silent element (.tail first member))
      rw [List.flatMap_cons]
      cases written : write first with
      | none =>
          rw [List.filterMap_cons_none written, silent first List.mem_cons_self written]
          exact later
      | some text =>
          rw [List.filterMap_cons_some written]
          exact .cons (read first List.mem_cons_self text written) later

/-- Texts that are written for elements contain what these do. -/
theorem of_forall {elements : List β} {write : β → List Char} {holds : β → List α}
    (read : ∀ element ∈ elements, reads (write element) (holds element)) :
    ReadsAll reads (elements.map write) (elements.flatMap holds) := by
  rw [← List.filterMap_eq_map]
  refine of_filterMap (fun element member text written => ?_) fun _ _ written => nomatch written
  cases written
  exact read element member

/-- Texts keep their contents when all of them are changed alike. -/
theorem map {change : List Char → List Char} (read : ReadsAll reads texts contents)
    (kept : ∀ {text content}, reads text content → reads (change text) content) :
    ReadsAll reads (texts.map change) contents := by
  induction read with
  | nil => exact .nil
  | cons first _ ih => exact .cons (kept first) ih

/-- Texts without content can be left out. -/
theorem filter {keep : List Char → Bool} (read : ReadsAll reads texts contents)
    (silent : ∀ {text content}, keep text = false → reads text content → content = []) :
    ReadsAll reads (texts.filter keep) contents := by
  induction read with
  | nil => exact .nil
  | @cons text texts content contents first others ih =>
      cases kept : keep text with
      | true =>
          rw [List.filter_cons_of_pos kept]
          exact .cons first ih
      | false =>
          rw [List.filter_cons_of_neg (by simp [kept]), silent kept first]
          exact ih

/-- Joined texts contain what they contain one by one. -/
theorem intercalate {between : List Char} (read : ReadsAll reads texts contents)
    (blank : reads [] [])
    (joins : ∀ {first second : List Char} {firstContent secondContent : List α},
      reads first firstContent → reads second secondContent →
        reads (first ++ between ++ second) (firstContent ++ secondContent)) :
    reads (between.intercalate texts) contents := by
  induction read with
  | nil => exact blank
  | @cons text texts content contents first others ih =>
      cases others with
      | nil =>
          rw [List.intercalate_singleton, List.append_nil]
          exact first
      | cons second others =>
          rw [List.intercalate_cons_cons]
          exact joins first ih

end ReadsAll

end Grammar

end CatalogSearch
