import CodeAtlas.Configuration.Field
import CodeAtlas.Fault
import CodeAtlas.Settings
import CodeAtlas.Text.Lower

/-!
# Reading settings and filters

Settings are read from the environment: a variable named `KG_` and a field, in any case, sets that field.
Filters are read from an object.  Either reader looks at all fields and collects their faults.

## Main definitions

* `Settings.ofEnvironment`: the settings that the environment gives.
* `Filters.ofMembers`, `Filters.allEnabledOf`: filters that are given by fields.
* `Fault.ofFields`: the faults of some fields as one.
-/

namespace CodeAtlas

/-- The faults of some fields as one. -/
def Fault.ofFields (faults : List FieldFault) : Fault := .configuration (faults.map FieldFault.text)

namespace Settings

/-- What the names of the program's variables start with. -/
def variableFront : String := "kg_"

/-- The fields that the environment gives, the later of two variables for one field winning. -/
def givenFields (environment : List (String × String)) : Members :=
  environment.foldl
    (fun given (name, value) =>
      let name := Text.lower name
      if variableFront.toList.isPrefixOf name.toList then
        Members.insert given (String.ofList (name.toList.drop variableFront.length)) (.str value)
      else given)
    []

/-- A text field. -/
def readText (given : Members) (name default : String) : String :=
  ((Members.get? given name).bind Json.text?).getD default

/-- Reads the settings. -/
def ofEnvironment (environment : List (String × String)) : Except (List FieldFault) Settings :=
  let given := givenFields environment
  let base : Settings := {}
  let (enableContains, f₁) := Field.read given ["enable_contains"] Field.bool base.enableContains
  let (enableDefinedIn, f₂) :=
    Field.read given ["enable_defined_in"] Field.bool base.enableDefinedIn
  let (enableImportsExports, f₃) :=
    Field.read given ["enable_imports_exports"] Field.bool base.enableImportsExports
  let (enableCalls, f₄) := Field.read given ["enable_calls"] Field.bool base.enableCalls
  let (enableSemanticRelated, f₅) :=
    Field.read given ["enable_semantic_related"] Field.bool base.enableSemanticRelated
  let (minRelationWeight, f₆) :=
    Field.read given ["min_relation_weight"] Field.float base.minRelationWeight
  let (sameFileSimilarityThreshold, f₇) :=
    Field.read given ["same_file_similarity_threshold"] Field.float
      base.sameFileSimilarityThreshold
  let (crossFileSimilarityThreshold, f₈) :=
    Field.read given ["cross_file_similarity_threshold"] Field.float
      base.crossFileSimilarityThreshold
  let (maxCrossFileRelations, f₉) :=
    Field.read given ["max_cross_file_relations"] Field.int base.maxCrossFileRelations
  let faults := f₁ ++ f₂ ++ f₃ ++ f₄ ++ f₅ ++ f₆ ++ f₇ ++ f₈ ++ f₉
  if faults.isEmpty then
    .ok {
      enableContains, enableDefinedIn, enableImportsExports, enableCalls, enableSemanticRelated
      minRelationWeight, sameFileSimilarityThreshold, crossFileSimilarityThreshold
      maxCrossFileRelations
      communityStrategy := readText given "community_strategy" base.communityStrategy
      outputDir := readText given "output_dir" base.outputDir
      graphFileName := readText given "graph_file_name" base.graphFileName
      logLevel := readText given "log_level" base.logLevel
      logFile := readText given "log_file" base.logFile }
  else .error faults

/-- The names of the program's variables, in upper case. -/
def variableNames : List String :=
  match toJson {} with
  | .obj members => members.map fun m => (variableFront ++ m.1).toUpper
  | _ => []

end Settings

namespace Filters

/-- Reads filters.  A field with a second name may be given under either; the second name wins. -/
def ofMembers (given : Members) : Except (List FieldFault) (Filters Float) :=
  let base : Filters Float := standard
  let (enableContains, f₁) :=
    Field.read given ["enableContains", "enable_contains"] Field.bool base.enableContains
  let (enableDefinedIn, f₂) :=
    Field.read given ["enableDefinedIn", "enable_defined_in"] Field.bool base.enableDefinedIn
  let (enableImportsExports, f₃) :=
    Field.read given ["enableImportsExports", "enable_imports_exports"] Field.bool
      base.enableImportsExports
  let (enableCalls, f₄) :=
    Field.read given ["enableCalls", "enable_calls"] Field.bool base.enableCalls
  let (enableSemanticRelated, f₅) :=
    Field.read given ["enableSemanticRelated", "enable_semantic_related"] Field.bool
      base.enableSemanticRelated
  let (minRelationWeight, f₆) :=
    Field.read given ["minRelationWeight", "min_relation_weight"] Field.float
      base.minRelationWeight
  let (sameFileThreshold, f₇) :=
    Field.read given ["same_file_threshold"] Field.float base.sameFileThreshold
  let (crossFileThreshold, f₈) :=
    Field.read given ["cross_file_threshold"] Field.float base.crossFileThreshold
  let (maxCrossFileRelations, f₉) :=
    Field.read given ["max_cross_file_relations"] Field.int base.maxCrossFileRelations
  let faults := f₁ ++ f₂ ++ f₃ ++ f₄ ++ f₅ ++ f₆ ++ f₇ ++ f₈ ++ f₉
  if faults.isEmpty then
    .ok {
      enableContains, enableDefinedIn, enableImportsExports, enableCalls, enableSemanticRelated
      minRelationWeight, sameFileThreshold, crossFileThreshold, maxCrossFileRelations }
  else .error faults

/-- Filters with every relation enabled and a given least weight. -/
def allEnabledOf (weight : Json) : Except (List FieldFault) (Filters Float) :=
  match Field.float weight with
  | .ok w => .ok (allEnabled w)
  | .error problem => .error [⟨"min_relation_weight", problem⟩]

end Filters

end CodeAtlas
