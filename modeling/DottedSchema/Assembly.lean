import DottedSchema.Node

/-!
# Assembling a tree from entries

Each entry says a number of things about the tree: that the nodes along its path exist, that some of its metadata
values are children of their own, and which value stands under which metadata key of which node. The tree is what
all entries say together; two statements that contradict each other have no tree.
-/
set_option autoImplicit false

namespace DottedSchema

/-- One thing that entries say about the tree. Places are paths below the root, labels their dotted texts. -/
inductive Statement where
  | nodes (place : Path)
  /-- A node has a child that is written inside its metadata. -/
  | child (place : Path) (label name : String)
  | metadata (place : Path) (label key : String) (value : Json)
  | refused (fault : Fault)

namespace Statement

/-- Metadata keys that never name a child. -/
def reservedKeys : List String :=
  ["coordinates", "data_type", "documentation", "full_path", "lifecycle_status", "lifecycle_version", "maxoccur",
    "structure_reference", "type"]

mutual

def ofMembers (limit : Nat) (place : Path) (label : String) : List (String × Json) → List Statement
  | [] => []
  | (key, value) :: rest => ofMember limit place label key value ++ ofMembers limit place label rest

/-- A mapping under a key that is not reserved is a child, any other value is metadata. -/
def ofMember (limit : Nat) (place : Path) (label key : String) : Json → List Statement
  | .object members =>
    if key ∈ reservedKeys then [.metadata place label key (.object members)]
    else if limit ≤ place.length then [.refused (.tooDeep (label ++ "." ++ key) limit)]
    else .child place label key :: ofMembers limit (place ++ [.field key]) (label ++ "." ++ key) members
  | value => [.metadata place label key value]

end

def ofEntry (root : String) (limit : Nat) (path : String) (value : Json) : List Statement :=
  match Path.parse path with
  | .error fault => [.refused fault]
  | .ok (.field first :: step :: rest) =>
    let place := step :: rest
    if first ≠ root then [.refused (.malformedPath path (.notBelow root))]
    else if limit < place.length then
      [.refused (.tooDeep (Path.dotted ((.field first :: place).take (limit + 2))) limit)]
    else if step = .items then [.refused (.malformedPath path .markerOnRoot)]
    else match value with
      | .object members => .nodes place :: ofMembers limit place path members
      | _ => [.refused (.inconsistent path .entryNotMapping)]
  | .ok _ => [.refused (.malformedPath path (.notBelow root))]

def ofEntries (root : String) (limit : Nat) (entries : List (String × Json)) : List Statement :=
  entries.flatMap fun e => ofEntry root limit e.1 e.2

end Statement

namespace Node

def descendFault (root : String) (steps : Path) : Fault :=
  .inconsistent (Path.dotted (.field root :: steps)) .throughMetadata

def assert (root : String) (tree : Node) : Statement → Except Fault Node
  | .nodes place => tree.alter .ok (descendFault root) place
  | .child place label name =>
    tree.alter (fun node => node.alter .ok (fun _ => .inconsistent (label ++ "." ++ name) .childOverMetadata)
      [.field name]) (descendFault root) place
  | .metadata place label key value => tree.alter (annotate label key value) (descendFault root) place
  | .refused fault => .error fault

def assertAll (root : String) (statements : List Statement) (tree : Node) : Except Fault Node :=
  statements.foldlM (assert root) tree

def assemble (root : String) (limit : Nat) (entries : List (String × Json)) : Except Fault Node :=
  assertAll root (Statement.ofEntries root limit entries) empty

end Node

end DottedSchema
