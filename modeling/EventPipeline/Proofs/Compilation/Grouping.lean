import Mathlib.Data.List.Induction
import EventPipeline.Compilation

/-! Extractor recipes by parameter.

A method may have several extractor definitions for one parameter. Its recipes are gathered one definition
at a time; here they are read off all definitions at once. A parameter that one definition is for has a
single recipe, one that several are for has a composition in the order of declaration, and every other
parameter has nothing. -/

namespace EventPipeline

variable {α β : Type}

namespace OneOrMany

/-- What several entries for one place amount to: nothing, a single entry or a composition. -/
def ofList? : List α → Option (OneOrMany α)
  | [] => none
  | [entry] => some (.one entry)
  | first :: second :: rest => some (.many (first :: second :: rest))

theorem ofList?_concat (entries : List α) (entry : α) :
    ofList? (entries ++ [entry]) =
      some (match ofList? entries with
        | none => .one entry
        | some held => held.push entry) := by
  match entries with
  | [] => rfl
  | [first] => rfl
  | first :: second :: rest => rfl

theorem ofList?_eq_none_iff {entries : List α} : ofList? entries = none ↔ entries = [] := by
  match entries with
  | [] => simp [ofList?]
  | [first] => simp [ofList?]
  | first :: second :: rest => simp [ofList?]

theorem toList_of_ofList? {entries : List α} {held : OneOrMany α} (gathered : ofList? entries = some held) :
    held.toList = entries := by
  match entries with
  | [] => cases gathered
  | [first] => cases gathered; rfl
  | first :: second :: rest => cases gathered; rfl

theorem map_ofList? (f : α → β) (entries : List α) :
    (ofList? entries).map (OneOrMany.map f) = ofList? (entries.map f) := by
  match entries with
  | [] => rfl
  | [first] => rfl
  | first :: second :: rest => rfl

end OneOrMany

namespace Compilation

variable (compilation : Compilation) (target : TypeToken) (method : String)

/-- The definitions for one parameter, as they were declared. -/
def definitionsFor (index : UInt64) : List ExtractorDefinition :=
  (compilation.store.extractors target method).filter fun definition =>
    decide (definition.index = index)

def parameterRecipe (definition : ExtractorDefinition) : Recipe :=
  compilation.extractorRecipe (findSignature? (compilation.signatures target) method) definition

theorem get?_foldl_addRecipe (recipe : ExtractorDefinition → Recipe)
    (definitions : List ExtractorDefinition) (index : UInt64) :
    (definitions.foldl (fun recipes definition =>
        addRecipe definition.index (recipe definition) recipes) OrderedMap.empty).get? index =
      OneOrMany.ofList? ((definitions.filter fun definition =>
        decide (definition.index = index)).map recipe) := by
  -- From the right, since the last definition is added to what those before it have gathered.
  induction definitions using List.reverseRecOn with
  | nil => rfl
  | append_singleton front last ih =>
    rw [List.foldl_append, List.foldl_cons, List.foldl_nil, addRecipe, OrderedMap.get?_alter,
      List.filter_append, List.map_append]
    by_cases here : index = last.index
    · subst here
      have stays : [last].filter (fun definition => decide (definition.index = last.index)) = [last] := by
        simp
      rw [if_pos rfl, ih, stays, List.map_singleton, OneOrMany.ofList?_concat]
      generalize OneOrMany.ofList? _ = held
      cases held with
      | none => rfl
      | some entries => rfl
    · have leaves : [last].filter (fun definition => decide (definition.index = index)) = [] := by
        simp [Ne.symm here]
      rw [if_neg here, ih, leaves, List.map_nil, List.append_nil]

theorem get?_extractorRecipes (index : UInt64) :
    (compilation.extractorRecipes target method).get? index =
      OneOrMany.ofList? ((compilation.definitionsFor target method index).map
        (compilation.parameterRecipe target method)) :=
  get?_foldl_addRecipe _ _ index

/-- There are recipes for a parameter just when a definition is for it. -/
theorem mem_keys_extractorRecipes {index : UInt64} :
    index ∈ (compilation.extractorRecipes target method).keys ↔
      ∃ definition ∈ compilation.store.extractors target method, definition.index = index := by
  rw [OrderedMap.mem_keys_iff, get?_extractorRecipes, ne_eq, OneOrMany.ofList?_eq_none_iff,
    List.map_eq_nil_iff, definitionsFor, List.filter_eq_nil_iff]
  simp

end Compilation

end EventPipeline
