import Waymark.Disk.Walk

set_option autoImplicit false

/-! The root of a disk. It is always a directory; a path to a name that it does not hold leads
nowhere; and if it holds none of the names that a walk looks for, it brings no ignore rules. -/

namespace Waymark.Disk

variable {disk : Disk}

theorem resolve_root (disk : Disk) : disk.resolve ⟨"/"⟩ = .ok [] := by
  have divided : piecesOf "/" = (true, [""]) := by decide
  have written : ("/" : String).isEmpty = false := by decide
  have clean : ("/" : String).toList.contains '\x00' = false := by decide
  unfold resolve
  simp only [written, clean, divided, Bool.false_eq_true, if_false, if_true]
  rw [follow]
  simp [root, Entry.find?, Path.isNeutral, follow]

theorem isDirectory_root (disk : Disk) : disk.isDirectory ⟨"/"⟩ = true := by
  have short : ¬(pathLimit ≤ ("/" : String).utf8ByteSize) := by decide
  unfold isDirectory find? reach
  simp [short, resolve_root, Entry.find?, root, Entry.isDirectory, Except.toOption]

/-- A path is lost at the first name that its directory does not list. -/
theorem follow_of_missing {here : List String} {entries : List (String × Entry)} {piece : String}
    (atHere : disk.root.find? here = some (.directory entries))
    (named : Path.isNeutral piece = false) (inward : piece ≠ "..")
    (short : piece.utf8ByteSize ≤ 255) (missing : entries.lookup piece = none) (links : Nat)
    (rest : List String) : disk.follow links here (piece :: rest) = .error .notFound := by
  rw [follow, atHere]
  simp only [named, Bool.false_eq_true, if_false, if_neg inward, if_neg (Nat.not_lt.mpr short),
    missing]

theorem reach_of_missing (text name : String) (rest : List String)
    (written : text.utf8ByteSize < pathLimit ∧ text.toList.contains '\x00' = false)
    (divided : text.isEmpty = false ∧ piecesOf text = (true, name :: rest))
    (proper : Path.isNeutral name = false ∧ name ≠ ".." ∧ name.utf8ByteSize ≤ 255)
    (missing : disk.entries.lookup name = none) : disk.reach ⟨text⟩ = .error .notFound := by
  obtain ⟨short, clean⟩ := written
  obtain ⟨filled, pieces⟩ := divided
  obtain ⟨named, inward, fits⟩ := proper
  have lost : disk.follow maxLinks [] (name :: rest) = .error .notFound :=
    follow_of_missing rfl named inward fits missing maxLinks rest
  have resolved : disk.resolve ⟨text⟩ = .error .notFound := by
    unfold resolve
    simp only [filled, clean, pieces, Bool.false_eq_true, if_false, if_true]
    exact lost
  unfold reach
  simp only [Nat.not_le_of_lt short, decide_false, Bool.false_and, Bool.false_eq_true, if_false,
    resolved]

theorem read_of_reach {path : Path} {error : DiskError} (lost : disk.reach path = .error error) :
    disk.read path = .error error := by
  unfold read
  rw [lost]

theorem ofDirectory_root (depth : Nat) (plain : disk.entries.lookup ".ignore" = none)
    (repository : disk.entries.lookup ".gitignore" = none)
    (git : disk.entries.lookup ".git" = none) (jj : disk.entries.lookup ".jj" = none) :
    IgnoreLevel.ofDirectory disk ⟨"/"⟩ depth = ⟨depth, [], [], [], false⟩ := by
  have noPlain := reach_of_missing "/.ignore" ".ignore" [] (by decide) (by decide) (by decide) plain
  have noRepository :=
    reach_of_missing "/.gitignore" ".gitignore" [] (by decide) (by decide) (by decide) repository
  have noGit := reach_of_missing "/.git" ".git" [] (by decide) (by decide) (by decide) git
  have noExclude := reach_of_missing "/.git/info/exclude" ".git" ["info", "exclude"] (by decide)
    (by decide) (by decide) git
  have noJj := reach_of_missing "/.jj" ".jj" [] (by decide) (by decide) (by decide) jj
  have atPlain : (⟨"/"⟩ : Path).join ⟨".ignore"⟩ = ⟨"/.ignore"⟩ := by decide
  have atRepository : (⟨"/"⟩ : Path).join ⟨".gitignore"⟩ = ⟨"/.gitignore"⟩ := by decide
  have atGit : (⟨"/"⟩ : Path).join ⟨".git"⟩ = ⟨"/.git"⟩ := by decide
  have atExclude : (⟨"/.git"⟩ : Path).join ⟨"info/exclude"⟩ = ⟨"/.git/info/exclude"⟩ := by decide
  have atJj : (⟨"/"⟩ : Path).join ⟨".jj"⟩ = ⟨"/.jj"⟩ := by decide
  unfold IgnoreLevel.ofDirectory IgnoreLevel.privateDirectory? IgnoreLevel.rulesAt exists? find?
  simp only [atPlain, atRepository, atGit, atJj, noGit, noJj, Option.elim_some, atExclude,
    read_of_reach noPlain, read_of_reach noRepository, read_of_reach noExclude]
  rfl

end Waymark.Disk
