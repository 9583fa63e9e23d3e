import CodeAtlas.Text.Lower

/-!
# The vocabulary of a graph

The closed sets of words that a graph is written in: kinds of nodes and code elements, relations, the
ways one file pulls in another, and the strategies that group nodes into communities.  Each has one
written form, and `ofText?` reads exactly these forms.
-/

namespace CodeAtlas

/-- What a node stands for. -/
inductive NodeKind where
  | project
  | directory
  | file
  | codeElement
  deriving DecidableEq, Repr

namespace NodeKind

/-- The written form. -/
def text : NodeKind → String
  | project => "project"
  | directory => "directory"
  | file => "file"
  | codeElement => "code_element"

/-- All kinds. -/
def all : List NodeKind := [project, directory, file, codeElement]

/-- Reads a written form. -/
def ofText? (s : String) : Option NodeKind := all.find? fun k => k.text == s

end NodeKind

/-- What a code element is. -/
inductive ElementKind where
  | function
  | classDef
  | variableDef
  | component
  | interface
  | typeDef
  | constant
  | method
  | property
  deriving DecidableEq, Repr

namespace ElementKind

/-- The written form. -/
def text : ElementKind → String
  | function => "function"
  | classDef => "class"
  | variableDef => "variable"
  | component => "component"
  | interface => "interface"
  | typeDef => "type"
  | constant => "constant"
  | method => "method"
  | property => "property"

/-- All kinds. -/
def all : List ElementKind :=
  [function, classDef, variableDef, component, interface, typeDef, constant, method, property]

/-- Reads a written form. -/
def ofText? (s : String) : Option ElementKind := all.find? fun k => k.text == s

/-- The kind that a parser's word stands for, in any case.  Parsers know three more words for methods;
any other word stands for a function. -/
def ofParserWord (word : String) : ElementKind :=
  let word := Text.lower word
  if ["computed", "watch", "lifecycle"].contains word then method
  else (ofText? word).getD function

end ElementKind

/-- How two nodes are related. -/
inductive Relation where
  | contains
  | definedIn
  | imports
  | calls
  | relatedTo
  deriving DecidableEq, Repr

namespace Relation

/-- The written form. -/
def text : Relation → String
  | contains => "CONTAINS"
  | definedIn => "DEFINED_IN"
  | imports => "IMPORTS"
  | calls => "CALLS"
  | relatedTo => "RELATED_TO"

/-- All relations. -/
def all : List Relation := [contains, definedIn, imports, calls, relatedTo]

/-- Reads a written form. -/
def ofText? (s : String) : Option Relation := all.find? fun r => r.text == s

/-- Structural relations hold whatever their weight. -/
def isStructural : Relation → Bool
  | contains => true
  | definedIn => true
  | _ => false

end Relation

/-- How a file pulls in another file. -/
inductive DependencyKind where
  | importing
  | requiring
  deriving DecidableEq, Repr

namespace DependencyKind

/-- The written form. -/
def text : DependencyKind → String
  | importing => "import"
  | requiring => "require"

/-- Reads a written form. -/
def ofText? (s : String) : Option DependencyKind :=
  [importing, requiring].find? fun k => k.text == s

end DependencyKind

/-- How nodes are grouped into communities. -/
inductive Strategy where
  | connectivity
  | directory
  deriving DecidableEq, Repr

namespace Strategy

/-- The written form. -/
def text : Strategy → String
  | connectivity => "connectivity"
  | directory => "directory"

/-- All strategies. -/
def all : List Strategy := [connectivity, directory]

/-- Reads a written form. -/
def ofText? (s : String) : Option Strategy := all.find? fun k => k.text == s

/-- How a community says that it was found. -/
def methodText : Strategy → String
  | connectivity => "connected_components"
  | directory => "dependency_based"

end Strategy

end CodeAtlas
