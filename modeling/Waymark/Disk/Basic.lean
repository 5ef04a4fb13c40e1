import Waymark.Path
import Waymark.Workspace.Source

set_option autoImplicit false

/-! The files of a machine as a value: directories, files and symbolic links below a root. A path is
followed name by name, links included, as far as a fixed number of links. -/

namespace Waymark

inductive Entry where
  | file (content : ByteArray)
  | directory (entries : List (String × Entry))
  | link (target : String)

inductive DiskError where
  | notFound
  | notDirectory
  | isDirectory
  | nameTooLong
  | tooManyLinks
  | invalidName
  | invalidText
deriving DecidableEq, Repr

namespace DiskError

def message : DiskError → String
  | notFound => "No such file or directory (os error 2)"
  | notDirectory => "Not a directory (os error 20)"
  | isDirectory => "Is a directory (os error 21)"
  | nameTooLong => "File name too long (os error 36)"
  | tooManyLinks => "Too many levels of symbolic links (os error 40)"
  | invalidName => "file name contained an unexpected NUL byte"
  | invalidText => "stream did not contain valid UTF-8"

end DiskError

structure Disk where
  entries : List (String × Entry) := []
  workingDirectory : List String := []

namespace Entry

def isDirectory : Entry → Bool
  | directory _ => true
  | _ => false

def find? : List String → Entry → Option Entry
  | [], entry => some entry
  | name :: names, directory entries => (entries.lookup name).bind (find? names)
  | _ :: _, _ => none

def put (name : String) (entry : Entry) : List (String × Entry) → List (String × Entry)
  | [] => [(name, entry)]
  | (other, old) :: rest =>
      if other = name then (name, entry) :: rest else (other, old) :: put name entry rest

/-- Stores an entry below a list of names; missing directories are made, and what is no directory
becomes one. -/
def insertAt (entry : Entry) : List String → Entry → Entry
  | [], _ => entry
  | name :: names, directory entries =>
      directory (put name (insertAt entry names ((entries.lookup name).getD (directory []))) entries)
  | name :: names, _ => directory [(name, insertAt entry names (directory []))]

def removeAt : List String → Entry → Entry
  | [name], directory entries => directory (entries.filter (·.1 != name))
  | name :: names, directory entries =>
      match entries.lookup name with
      | some inner => directory (put name (removeAt names inner) entries)
      | none => directory entries
  | _, entry => entry

end Entry

namespace Disk

def root (disk : Disk) : Entry := .directory disk.entries

def withRoot (disk : Disk) : Entry → Disk
  | .directory entries => { disk with entries }
  | _ => { disk with entries := [] }

def pathOf (names : List String) : Path := ⟨"/" ++ String.intercalate "/" names⟩

def maxLinks : Nat := 40

/-- The pieces of a path between slashes, and whether it starts at the root. -/
def piecesOf (text : String) : Bool × List String :=
  match text.toList with
  | '/' :: rest => (true, (Text.fields '/' rest).map String.ofList)
  | characters => (false, (Text.fields '/' characters).map String.ofList)

/-- Goes from a directory, given by its names, along the pieces of a path; at most `links` links are
followed. -/
def follow (disk : Disk) (links : Nat) (here : List String) :
    List String → Except DiskError (List String)
  | [] => .ok here
  | piece :: rest =>
      match disk.root.find? here with
      | some (.directory entries) =>
          if Path.isNeutral piece then disk.follow links here rest
          else if piece = ".." then disk.follow links here.dropLast rest
          else if 255 < piece.utf8ByteSize then .error .nameTooLong
          else
            match entries.lookup piece with
            | none => .error .notFound
            | some (.link target) =>
                match links with
                | 0 => .error .tooManyLinks
                | links + 1 =>
                    let (absolute, pieces) := piecesOf target
                    disk.follow links (if absolute then [] else here) (pieces ++ rest)
            | some _ => disk.follow links (here ++ [piece]) rest
      | some _ => .error .notDirectory
      | none => .error .notFound
termination_by pieces => (links, pieces.length)

def resolve (disk : Disk) (path : Path) : Except DiskError (List String) :=
  if path.text.isEmpty then .error .notFound
  else if path.text.toList.contains '\x00' then .error .invalidName
  else
    let (absolute, pieces) := piecesOf path.text
    disk.follow maxLinks (if absolute then [] else disk.workingDirectory) pieces

/-- The number of bytes from which on a path is too long to be opened, however short the way to its
place is. -/
def pathLimit : Nat := 4096

def reach (disk : Disk) (path : Path) : Except DiskError Entry :=
  if pathLimit ≤ path.text.utf8ByteSize && !path.text.toList.contains '\x00' then
    .error .nameTooLong
  else
    match disk.resolve path with
    | .error error => .error error
    | .ok names =>
        match disk.root.find? names with
        | some entry => .ok entry
        | none => .error .notFound

def find? (disk : Disk) (path : Path) : Option Entry := (disk.reach path).toOption

def exists? (disk : Disk) (path : Path) : Bool := (disk.find? path).isSome

def isDirectory (disk : Disk) (path : Path) : Bool := (disk.find? path).any Entry.isDirectory

def canonicalize (disk : Disk) (path : Path) : Except DiskError Path :=
  (disk.resolve path).map pathOf

def read (disk : Disk) (path : Path) : Except DiskError ByteArray :=
  match disk.reach path with
  | .error error => .error error
  | .ok (.file content) => .ok content
  | .ok _ => .error .isDirectory

def readText (disk : Disk) (path : Path) : Except DiskError String :=
  match disk.read path with
  | .error error => .error error
  | .ok content =>
      match String.fromUTF8? content with
      | some text => .ok text
      | none => .error .invalidText

def source (disk : Disk) : Source := fun document =>
  match disk.readText document with
  | .ok text => .ok text
  | .error .notFound => .error (.notFound document)
  | .error error => .error (.failed document error.message)

/-- The names of a place that may not exist: links are followed as far as the directory around it. -/
def place (disk : Disk) (path : Path) : List String :=
  let named (path : Path) := path.components.filterMap fun component =>
    match component with
    | .normal name => some name
    | _ => none
  match path.parent? with
  | none => named path
  | some parent =>
      match disk.resolve parent with
      | .ok names => names ++ (named path).getLast?.toList
      | .error _ => named path

/-- Stores an entry at a path; missing directories are made. A file is written through a link. -/
def write (disk : Disk) (path : Path) (entry : Entry) : Disk :=
  let names :=
    match entry, disk.resolve path with
    | .file _, .ok names => names
    | _, _ => disk.place path
  disk.withRoot (Entry.insertAt entry names disk.root)

def makeDirectory (disk : Disk) (path : Path) : Disk :=
  if disk.isDirectory path then disk else disk.write path (.directory [])

def remove (disk : Disk) (path : Path) : Disk :=
  disk.withRoot (Entry.removeAt (disk.place path) disk.root)

end Disk

end Waymark
