/-!
# File trees

Directories, files and links as a program finds them, a position in such a tree,
and a walk that makes the directories that are missing on its way. Nothing here
looks at a disk: a tree is a value, and a walk answers a position in the tree
with what was made.
-/

set_option autoImplicit false

namespace DebugRegisters

inductive Growth where
  | free
  /-- Nothing. What is not there is not found, even when it is to be made. -/
  | barred
  /-- Nothing, because it is not permitted. -/
  | denied
  /-- As before, but a name that is too long is refused as such. -/
  | deniedByName
  deriving DecidableEq, Repr

inductive FileNode where
  | directory (growth : Growth) (entries : List (String × FileNode))
  | file (isWritable : Bool)
  /-- A link to a place, which is given by the names from the root. -/
  | link (target : List String)

def FileNode.isDirectory : FileNode → Bool
  | .directory .. => true
  | _ => false

inductive DirectoryError where
  | barred
  | denied
  /-- Something that is no directory has the place. -/
  | isFile
  /-- The way leads through a file. -/
  | throughFile
  | longName
  | manyLinks
  deriving DecidableEq, Repr

def DirectoryError.message : DirectoryError → String
  | .barred => "No such file or directory (os error 2)"
  | .denied => "Operation not permitted (os error 1)"
  | .isFile => "File exists (os error 17)"
  | .throughFile => "Not a directory (os error 20)"
  | .longName => "File name too long (os error 36)"
  | .manyLinks => "Too many levels of symbolic links (os error 40)"

def nameLimit : Nat := 255

/-- The greatest number of links that are followed on one way. -/
def linkLimit : Nat := 40

def Growth.receive (growth : Growth) (name : String) : Except DirectoryError Unit :=
  let isLong := nameLimit < name.utf8ByteSize
  match growth with
  | .free => if isLong then .error .longName else .ok ()
  | .barred => .error .barred
  | .denied => .error .denied
  | .deniedByName => .error (if isLong then .longName else .denied)

/-! ## Positions -/

structure LeftDirectory where
  name : String
  growth : Growth
  entries : List (String × FileNode)

/-- A node of a tree with the directories above it, the nearest first. -/
structure Position where
  above : List LeftDirectory
  node : FileNode

namespace Position

/-- The directory with a node put in place of the entry it was left for. -/
def enclose (node : FileNode) (left : LeftDirectory) : FileNode :=
  .directory left.growth ((left.name, node) :: left.entries.filter (·.1 ≠ left.name))

/-- The directory above. Above the root is the root. -/
def up (here : Position) : Position :=
  match here.above with
  | [] => here
  | left :: above => ⟨above, enclose here.node left⟩

def root (here : Position) : Position :=
  ⟨[], here.above.foldl enclose here.node⟩

def down (here : Position) (name : String) (node : FileNode) : Position :=
  match here.node with
  | .directory growth entries => ⟨⟨name, growth, entries⟩ :: here.above, node⟩
  | _ => here

/-- Goes to what is there already and follows every link, as long as no more than
`links` of them are met. Answers the position with the number of links left. -/
def follow (links : Nat) (names : List String) (here : Position) : Option (Position × Nat) :=
  match names with
  | [] => some (here, links)
  | name :: rest =>
      match here.node with
      | .directory _ entries =>
          match entries.lookup name, links with
          | none, _ => none
          | some (.link _), 0 => none
          | some (.link target), links + 1 => follow links (target ++ rest) here.root
          | some node, links => follow links rest (here.down name node)
      | _ => none
  termination_by (links, names.length)

end Position

/-! ## Walks -/

structure Walk where
  here : Position
  /-- How many more links can be followed. -/
  links : Nat
  /-- Whether a directory was made on the way. -/
  hasMade : Bool

namespace Walk

/-- Goes one name further and makes the directory if there is nothing of that
name. From the first directory that was made on, every step is looked at alone, so
something that is no directory is refused where it stands; before that, it is only
refused to go on from there. -/
def enter (walk : Walk) (name : String) : Except DirectoryError Walk :=
  match walk.here.node with
  | .file _ => .error .throughFile
  | .link _ => .error .manyLinks
  | .directory growth entries =>
      if name = ".." then .ok { walk with here := walk.here.up }
      else
        match entries.lookup name with
        | none => do
            growth.receive name
            return { walk with here := walk.here.down name (.directory .free []), hasMade := true }
        | some node =>
            let (here, links) := (walk.here.follow walk.links [name]).getD
              (walk.here.down name node, walk.links)
            if walk.hasMade && !here.node.isDirectory then .error .isFile
            else .ok { walk with here, links }

/-- Goes along names and makes every directory that is missing, the last one as well. -/
def makeDirectories (walk : Walk) (names : List String) : Except DirectoryError Walk := do
  let walk ← names.foldlM enter walk
  if walk.here.node.isDirectory then return walk else .error .isFile

/-- Whether a file of a name in the directory here can be opened for writing, if
need be after it was made. -/
def opens (walk : Walk) (name : String) : Bool :=
  match walk.here.node with
  | .directory growth entries =>
      match entries.lookup name with
      | none => (growth.receive name).toOption.isSome
      | some _ =>
          match walk.here.follow walk.links [name] with
          | some (⟨_, .file isWritable⟩, _) => isWritable
          | _ => false
  | _ => false

end Walk

end DebugRegisters
