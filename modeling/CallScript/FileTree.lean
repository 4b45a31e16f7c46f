import CallScript.Fault
import CallScript.Program.Source
import CallScript.Text.Pieces

/-! The files that definitions are loaded from. Paths are read and written as text; a tree maps the
places that exist to what is there. `resolve` walks a path through the tree, parent components
included, as a file system does. -/
namespace CallScript

inductive Anchor where
  | workingDirectory
  | fileSystem (twice : Bool)
  | bundled
  deriving DecidableEq, Repr

structure Path where
  anchor : Anchor
  parts : List String
  deriving DecidableEq, Repr

def Path.bundled : Path := ⟨.bundled, []⟩

def Path.ofText (s : String) : Path :=
  let parts := ((Text.pieces '/' s.toList).map String.ofList).filter (fun part => part != "" && part != ".")
  let anchor : Anchor :=
    match s.toList with
    | '/' :: '/' :: '/' :: _ => .fileSystem false
    | '/' :: '/' :: _ => .fileSystem true
    | '/' :: _ => .fileSystem false
    | _ => .workingDirectory
  ⟨anchor, parts⟩

def Path.text (p : Path) : String :=
  let joined := "/".intercalate p.parts
  match p.anchor with
  | .workingDirectory => if p.parts.isEmpty then "." else joined
  | .fileSystem twice => (if twice then "//" else "/") ++ joined
  | .bundled => if p.parts.isEmpty then "<builtin>" else "<builtin>/" ++ joined

def Path.join (directory p : Path) : Path :=
  match p.anchor with
  | .workingDirectory => ⟨directory.anchor, directory.parts ++ p.parts⟩
  | _ => p

def Path.child (directory : Path) (name : String) : Path :=
  directory.join (Path.ofText name)

def definitionSuffix : String := ".py"

def Path.definitionOf (directory : Path) (name : String) : Path :=
  directory.child (name ++ definitionSuffix)

inductive Entry where
  | directory
  | contents (bytes : List UInt8)
  | program (p : Program)

def Entry.definitions (file : DefinitionFile) : Entry :=
  .program file.program

/-- What an entry does when it is executed. Contents are read as a source, within the limits of the reader. -/
def Entry.executed : Entry → Program
  | .directory => .finish
  | .contents bytes => .ofSource bytes
  | .program p => p

abbrev Place := List String

structure FileTree where
  entries : List (Place × Entry)

def Anchor.place : Anchor → Place
  | .workingDirectory => ["/work"]
  | .fileSystem _ => []
  | .bundled => ["/package", "functions"]

def FileTree.entry? (tree : FileTree) (place : Place) : Option Entry :=
  if place.isEmpty then some .directory
  else (tree.entries.find? (fun entry => entry.1 == place)).map Prod.snd

inductive Resolution where
  | found (place : Place) (entry : Entry)
  | missing
  | blocked
  | tooLong

def longestName : Nat := 255

def FileTree.walk (tree : FileTree) (place : Place) : List String → Resolution
  | [] =>
      match tree.entry? place with
      | some entry => .found place entry
      | none => .missing
  | part :: rest =>
      match tree.entry? place with
      | none => .missing
      | some .directory =>
          if part == ".." then tree.walk place.dropLast rest
          else if longestName < part.utf8ByteSize then .tooLong
          else tree.walk (place ++ [part]) rest
      | some _ => .blocked

/-- Follows a path; one that holds a null character leads nowhere. -/
def FileTree.resolve (tree : FileTree) (p : Path) : Resolution :=
  if p.parts.any (fun part => part.toList.contains '\x00') then .missing
  else tree.walk p.anchor.place p.parts

def FileTree.isFile (tree : FileTree) (p : Path) : Except Fault Bool :=
  match tree.resolve p with
  | .tooLong => .error (.nameTooLong p.text)
  | .found _ .directory => .ok false
  | .found _ _ => .ok true
  | _ => .ok false

def FileTree.isDirectory (tree : FileTree) (p : Path) : Except Fault Bool :=
  match tree.resolve p with
  | .tooLong => .error (.nameTooLong p.text)
  | .found _ .directory => .ok true
  | _ => .ok false

def FileTree.program (tree : FileTree) (p : Path) : Program :=
  match tree.resolve p with
  | .found _ entry => entry.executed
  | _ => .finish

def FileTree.children (tree : FileTree) (place : Place) : List String :=
  let names := tree.entries.filterMap (fun entry =>
    match entry.1.getLast? with
    | some name => if entry.1.dropLast == place then some name else none
    | none => none)
  names.mergeSort (fun a b => decide (a ≤ b))

def FileTree.set (tree : FileTree) (place : Place) (entry : Entry) : FileTree :=
  ⟨tree.entries.filter (fun e => e.1 != place) ++ [(place, entry)]⟩

def FileTree.makeParents (tree : FileTree) (place : Place) : FileTree :=
  (List.range place.length).foldl (fun tree n =>
    let above := place.take n
    if (tree.entry? above).isSome then tree else tree.set above .directory) tree

def FileTree.write (tree : FileTree) (p : Path) (entry : Entry) : FileTree :=
  let place := p.anchor.place ++ p.parts
  (tree.makeParents place).set place entry

def Path.admitted (p : Path) : Except Fault Unit :=
  if p.parts.any (fun part => part.toList.contains '\x00') then .error .nullInPath else .ok ()

/-- The bytes of the file at a path; a definition file is not to be read as bytes. -/
def FileTree.readBytes (tree : FileTree) (p : Path) : Except Fault (List UInt8) := do
  p.admitted
  match tree.resolve p with
  | .found _ .directory => .error (.isDirectory p.text)
  | .found _ (.contents bytes) => .ok bytes
  | .found _ (.program _) => .ok []
  | .missing => .error (.fileMissing p.text)
  | .blocked => .error (.notDirectory p.text)
  | .tooLong => .error (.nameTooLong p.text)

def FileTree.target (tree : FileTree) (p : Path) : Except Fault Place := do
  p.admitted
  match tree.resolve p with
  | .found _ .directory => .error (.isDirectory p.text)
  | .found place _ => .ok place
  | .blocked => .error (.notDirectory p.text)
  | .tooLong => .error (.nameTooLong p.text)
  | .missing =>
      match tree.resolve ⟨p.anchor, p.parts.dropLast⟩, p.parts.getLast? with
      | .found place .directory, some name => .ok (place ++ [name])
      | _, _ => .error (.fileMissing p.text)

def FileTree.writeText (tree : FileTree) (p : Path) (text : String) : Except Fault FileTree := do
  return tree.set (← tree.target p) (.contents text.toUTF8.toList)

def FileTree.remove (tree : FileTree) (p : Path) : FileTree :=
  let place := p.anchor.place ++ p.parts
  ⟨tree.entries.filter (fun e => !place.isPrefixOf e.1)⟩

end CallScript
