set_option autoImplicit false

namespace DottedSchema

inductive FileFault where
  | notFound
  | isFolder
  | notFolder
  | nameTooLong
  | nulInName
  | other (reason : String)
deriving DecidableEq

def FileFault.message : FileFault → String
  | .notFound => "No such file or directory (os error 2)"
  | .isFolder => "Is a directory (os error 21)"
  | .notFolder => "Not a directory (os error 20)"
  | .nameTooLong => "File name too long (os error 36)"
  | .nulInName => "file name contained an unexpected NUL byte"
  | .other reason => reason

abbrev FileSource := String → Except FileFault ByteArray

inductive FileTree where
  | file (contents : ByteArray)
  | folder (entries : List (String × FileTree))

namespace FileTree

def maxName : Nat := 255
def maxPath : Nat := 4095

/-- Follows names downwards; `above` holds the folders on the way, the nearest first. The outermost folder is
its own parent. -/
def walk (above : List FileTree) : FileTree → List String → Except FileFault FileTree
  | tree, [] => .ok tree
  | .file _, _ :: _ => .error .notFolder
  | .folder entries, name :: rest =>
    if name.utf8ByteSize > maxName then .error .nameTooLong
    else if name = "" ∨ name = "." then walk above (.folder entries) rest
    else if name = ".." then
      match above with
      | parent :: above => walk above parent rest
      | [] => walk [] (.folder entries) rest
    else match entries.lookup name with
      | some next => walk (.folder entries :: above) next rest
      | none => .error .notFound

def splitNames : List Char → List (List Char)
  | [] => [[]]
  | c :: cs =>
    if c = '/' then [] :: splitNames cs
    else match splitNames cs with
      | [] => [[c]]
      | name :: names => (c :: name) :: names

def read (above : List FileTree) (here : FileTree) : FileSource := fun path =>
  let names := (splitNames path.toList).map String.ofList
  if path.toList.contains '\x00' then .error .nulInName
  else if path = "" then .error .notFound
  else if path.utf8ByteSize > maxPath then .error .nameTooLong
  else do
    let found ← if path.toList.head? = some '/' then walk [] (above.getLastD here) names else walk above here names
    match found with
    | .file contents => .ok contents
    | .folder _ => .error .isFolder

end FileTree

end DottedSchema
