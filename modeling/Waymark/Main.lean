import Waymark.Cli.Run

set_option autoImplicit false

/-! The program: it copies the files that a command line is about into a disk, runs the command line
on that, and writes what comes out. -/

namespace Waymark.Cli

/-- Copies what is at a place, as deep as `depth` and without following links into the directories in
`around`. What cannot be read is left out. -/
def copyEntry : Nat → List String → IO.FS.DirEntry → IO (List (String × Entry))
  | 0, _, _ => pure []
  | depth + 1, around, place => do
      try
        match (← place.path.metadata).type with
        | .dir =>
            let real := (← IO.FS.realPath place.path).toString
            if around.contains real then pure []
            else
              let mut entries := []
              for inner in ← place.path.readDir do
                entries := entries ++ (← copyEntry depth (real :: around) inner)
              pure [(place.fileName, .directory entries)]
        | .file => pure [(place.fileName, .file (← IO.FS.readBinFile place.path))]
        | _ => pure []
      catch _ => pure []

def mount (disk : Disk) (path : Path) : IO Disk := do
  try
    let real ← IO.FS.realPath path.text
    match ← copyEntry 64 [] ⟨real, ""⟩ with
    | (_, entry) :: _ => pure (disk.write ⟨real.toString⟩ entry)
    | [] => pure disk
  catch _ => pure disk

/-- The paths that a command line is about; a path inside another one comes after it. -/
def pathsOf (arguments : Arguments) : List Path :=
  let file :=
    match arguments.command with
    | .file path _ => [path]
    | _ => []
  arguments.root.getD ⟨"."⟩ :: arguments.config.toList ++ file

def diskFor (words : List String) : IO Disk := do
  let here := (← IO.currentDir).toString
  let disk : Disk := { workingDirectory := (Disk.piecesOf here).2 }
  match Arguments.parse words with
  | .error _ => pure disk
  | .ok arguments => (pathsOf arguments).foldlM mount (disk.makeDirectory ⟨here⟩)

end Waymark.Cli

def main (words : List String) : IO UInt32 := do
  let outcome := Waymark.Cli.run (← Waymark.Cli.diskFor words) words
  IO.print outcome.output
  IO.eprint (if outcome.exitCode == 2 then Waymark.Cli.usage else outcome.errors)
  return outcome.exitCode
