import CodeAtlas.FileSystem
import CodeAtlas.Filters

/-!
# Settings

The settings of the program give the filters that a build uses when none are given, the place of the
graph file in a workspace, and the file and the least level of the log.
-/

namespace CodeAtlas

/-- The settings of the program. -/
structure Settings where
  enableContains : Bool := true
  enableDefinedIn : Bool := true
  enableImportsExports : Bool := false
  enableCalls : Bool := false
  enableSemanticRelated : Bool := false
  minRelationWeight : Float := 0.3
  sameFileSimilarityThreshold : Float := 0.5
  crossFileSimilarityThreshold : Float := 0.7
  maxCrossFileRelations : Int := 50
  communityStrategy : String := "directory"
  outputDir : String := ".huima"
  graphFileName : String := "kg.json"
  logLevel : String := "INFO"
  logFile : String := "logs/code_graph.log"

namespace Settings

/-- The filters that the settings ask for. -/
def filters (s : Settings) : Filters Float where
  enableContains := s.enableContains
  enableDefinedIn := s.enableDefinedIn
  enableImportsExports := s.enableImportsExports
  enableCalls := s.enableCalls
  enableSemanticRelated := s.enableSemanticRelated
  minRelationWeight := s.minRelationWeight
  sameFileThreshold := s.sameFileSimilarityThreshold
  crossFileThreshold := s.crossFileSimilarityThreshold
  maxCrossFileRelations := s.maxCrossFileRelations

/-- The file of the log; none when no log is written. -/
def logPath? (s : Settings) : Option Path := if s.logFile = "" then none else some (Path.parse s.logFile)

/-- The directory of the log; none when no log is written. -/
def logDirectory? (s : Settings) : Option Path := s.logPath?.map Path.parent

/-- Where the graph of a workspace is written. -/
def graphPath (s : Settings) (workspace : String) : Path :=
  ((Path.parse workspace).join (Path.parse s.outputDir)).join (Path.parse s.graphFileName)

/-- Makes the directory of the log. -/
def ensureDirectories (s : Settings) (fs : FileSystem) : Except FileFault FileSystem :=
  match s.logDirectory? with
  | none => .ok fs
  | some directory => fs.makeDirectory directory

/-- The fields under their own names. -/
def toJson (s : Settings) : Json :=
  .obj [
    ("enable_contains", .bool s.enableContains),
    ("enable_defined_in", .bool s.enableDefinedIn),
    ("enable_imports_exports", .bool s.enableImportsExports),
    ("enable_calls", .bool s.enableCalls),
    ("enable_semantic_related", .bool s.enableSemanticRelated),
    ("min_relation_weight", .float s.minRelationWeight),
    ("same_file_similarity_threshold", .float s.sameFileSimilarityThreshold),
    ("cross_file_similarity_threshold", .float s.crossFileSimilarityThreshold),
    ("max_cross_file_relations", .int s.maxCrossFileRelations),
    ("community_strategy", .str s.communityStrategy),
    ("output_dir", .str s.outputDir),
    ("graph_file_name", .str s.graphFileName),
    ("log_level", .str s.logLevel),
    ("log_file", .str s.logFile)]

end Settings

end CodeAtlas
