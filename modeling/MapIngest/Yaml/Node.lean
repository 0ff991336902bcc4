/-!
# Nodes of a document

A document is a tree of nodes; no node contains itself.  Every node has a tag,
which says what its content stands for.  The standard tags share a beginning,
after which each has a short name.
-/

namespace MapIngest.Yaml

/-- What the content of a node stands for. -/
inductive Tag where
  | null
  | bool
  | int
  | float
  | text
  | bytes
  | timestamp
  | sequence
  | mapping
  | set
  | orderedMapping
  | pairs
  /-- The key under which other mappings are merged into one. -/
  | merge
  /-- The key under which a mapping keeps a scalar that can stand for it. -/
  | default
  | unknown
deriving DecidableEq

/-- The beginning of the standard tags. -/
def standardTags : String := "tag:yaml.org,2002:"

/-- The standard tag with a short name. -/
def Tag.ofShortName : String → Tag
  | "null" => .null
  | "bool" => .bool
  | "int" => .int
  | "float" => .float
  | "str" => .text
  | "binary" => .bytes
  | "timestamp" => .timestamp
  | "seq" => .sequence
  | "map" => .mapping
  | "set" => .set
  | "omap" => .orderedMapping
  | "pairs" => .pairs
  | "merge" => .merge
  | "value" => .default
  | _ => .unknown

/-- The tag with a full name. -/
def Tag.ofName (name : String) : Tag :=
  if standardTags.toList.isPrefixOf name.toList then
    Tag.ofShortName (String.ofList (name.toList.drop standardTags.length))
  else
    .unknown

/-- A node of a document. -/
inductive Node where
  | scalar (tag : Tag) (content : String)
  | sequence (tag : Tag) (items : List Node)
  | mapping (tag : Tag) (entries : List (Node × Node))


/-- The tag of a node. -/
def Node.tag : Node → Tag
  | .scalar tag _ => tag
  | .sequence tag _ => tag
  | .mapping tag _ => tag

end MapIngest.Yaml
