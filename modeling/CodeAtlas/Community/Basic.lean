import CodeAtlas.Fault
import CodeAtlas.Graph.Edge
import CodeAtlas.Graph.Node
import CodeAtlas.Tally

/-!
# Communities

A community is a group of nodes that belong together.  Its score compares the edges inside it with
those that cross its border, a crossing edge counting half against it: `(internal - external / 2)`
over all of them.  Cohesion is the share of the internal edges and coupling that of the external ones.

## Main definitions

* `Community`: the group and what is known about it.
* `EdgeCounts`, `edgeCounts`: the internal and external edges of a set of nodes.
* `balance`: the score of two numbers of edges; `checkedBalance` looks after the range of doubles.
* `EdgeCounts.score`, `EdgeCounts.cohesion`, `EdgeCounts.coupling`: the measures.
* `topTags`, `mainLanguage`: what most of the members share.
-/

namespace CodeAtlas

open Scalar

/-- A group of nodes that belong together. -/
structure Community (α : Type) where
  id : String
  label : String
  description : String
  members : List String
  score : α
  cohesion : α
  coupling : α
  tags : List Json
  primaryLanguage : Json
  functionality : List String
  strategy : Strategy

namespace Community

/-- The written form.  Communities are found with one fixed confidence, on one level. -/
def toJson (c : Community Float) : Json :=
  .obj [
    ("id", .str c.id),
    ("label", .str c.label),
    ("description", .str c.description),
    ("nodes", .strs c.members),
    ("score", .float c.score),
    ("cohesion", .float c.cohesion),
    ("coupling", .float c.coupling),
    ("tags", .arr c.tags),
    ("primary_language", c.primaryLanguage),
    ("functionality", .strs c.functionality),
    ("detection_method", .str c.strategy.methodText),
    ("confidence", .float 0.8),
    ("level", .int 1),
    ("sub_communities", .arr [])]

end Community

/-- The edges of a set of nodes: those with both ends in it, and those with one. -/
structure EdgeCounts where
  internal : Nat
  external : Nat
  deriving DecidableEq

/-- The edges of a set of nodes. -/
def edgeCounts {α : Type} (members : List String) (edges : List (Edge α)) : EdgeCounts where
  internal := edges.countP fun e => members.contains e.source && members.contains e.target
  external := edges.countP fun e => members.contains e.source != members.contains e.target

/-- The score of two numbers of edges.  They need not be counts of anything: any integers have a score,
and it is zero when they cancel each other. -/
def balance {α : Type} [Scalar α] (internal external : Int) : α :=
  if internal + external = 0 then ofNat 0
  else (ofInt internal - ratio external 2) / ofInt (internal + external)

/-- The score as a double, refused when a number on the way to it is beyond the range of doubles. -/
def checkedBalance (internal external : Int) : Except Fault Float :=
  let half := Numeral.Double.nearest (external < 0) external.natAbs 2
  let parts := [half, Numeral.Double.ofInt internal, Numeral.Double.ofInt (internal + external)]
  if internal + external = 0 ∨ parts.all Float.isFinite then .ok (balance internal external)
  else .error .beyondDoubles

namespace EdgeCounts

variable {α : Type} [Scalar α]

/-- The number of edges with an end in the set. -/
def total (c : EdgeCounts) : Nat := c.internal + c.external

/-- The score of a set with these edges. -/
def score (c : EdgeCounts) : α := balance c.internal c.external

/-- The share of the internal edges. -/
def cohesion (c : EdgeCounts) : α := if c.total = 0 then ofNat 0 else ratio c.internal c.total

/-- The share of the external edges. -/
def coupling (c : EdgeCounts) : α := if c.total = 0 then ofNat 0 else ratio c.external c.total

end EdgeCounts

/-- The number of tags that a community shows. -/
def shownTags : Nat := 5

/-- The most common tags of some nodes. -/
def topTags (nodes : List Node) (limit : Nat) : Except Fault (List Json) :=
  let tags := nodes.flatMap (·.tags)
  match tags.find? fun j => !j.isKey with
  | some j => .error (.unhashable j.kindName)
  | none => .ok ((mostCommon Json.sameKey limit tags).map (·.1))

/-- The most common known language of some nodes. -/
def mainLanguage (nodes : List Node) : Except Fault Json :=
  let languages := (nodes.map (·.language)).filter fun j => j.truthy && !j.sameKey (.str "unknown")
  match languages.find? fun j => !j.isKey with
  | some j => .error (.unhashable j.kindName)
  | none => .ok (((mostCommon Json.sameKey 1 languages).head?.map (·.1)).getD (.str "unknown"))

end CodeAtlas
