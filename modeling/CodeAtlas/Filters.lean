import CodeAtlas.Json.Basic
import CodeAtlas.Numeral.Scalar

/-!
# Filters

Filters say which relations a build derives, the least weight of an edge that is not structural, and
the limits on pairs of similar elements.  The least weight is not limited to the range of weights: one
above every weight suppresses all weighted relations.
-/

namespace CodeAtlas

/-- Which relations are built, and the limits on them. -/
structure Filters (α : Type) where
  enableContains : Bool := true
  enableDefinedIn : Bool := true
  enableImportsExports : Bool := false
  enableCalls : Bool := false
  enableSemanticRelated : Bool := false
  minRelationWeight : α
  sameFileThreshold : α
  crossFileThreshold : α
  maxCrossFileRelations : Int := 50

namespace Filters

variable {α : Type} [Scalar α]

open Scalar

/-- The filters when nothing is given. -/
def standard : Filters α where
  minRelationWeight := ratio 3 10
  sameFileThreshold := ratio 1 2
  crossFileThreshold := ratio 7 10

/-- The standard limits with every relation enabled. -/
def allEnabled (minRelationWeight : α) : Filters α :=
  { (standard : Filters α) with
    enableImportsExports := true
    enableCalls := true
    enableSemanticRelated := true
    minRelationWeight }

/-- The fields under their own names. -/
def toJson (f : Filters Float) : Json :=
  .obj [
    ("enable_contains", .bool f.enableContains),
    ("enable_defined_in", .bool f.enableDefinedIn),
    ("enable_imports_exports", .bool f.enableImportsExports),
    ("enable_calls", .bool f.enableCalls),
    ("enable_semantic_related", .bool f.enableSemanticRelated),
    ("min_relation_weight", .float f.minRelationWeight),
    ("same_file_threshold", .float f.sameFileThreshold),
    ("cross_file_threshold", .float f.crossFileThreshold),
    ("max_cross_file_relations", .int f.maxCrossFileRelations)]

end Filters

end CodeAtlas
