import Waymark.Proofs.Glob.Reading
import Waymark.Proofs.Path.Components

set_option autoImplicit false

/-! The directory to watch for a pattern. It stands for the components before the first wildcard, and
every path that the pattern matches begins with the characters of these components, as long as
the directory and the pattern agree on what a slash is. -/

namespace Waymark.Glob

/-- Whether a directory is a path or one above it. The current directory is above all. -/
def Covers (directory path : Path) : Prop :=
  directory = ⟨"."⟩ ∨ directory.components <+: path.components

instance (directory path : Path) : Decidable (Covers directory path) :=
  inferInstanceAs (Decidable (_ ∨ _))

/-- The pieces of a pattern before the first with a wildcard. -/
def plainPieces (pattern : String) : List String :=
  (Path.textPieces pattern.toList).takeWhile (!hasWildcard ·)

structure IsBeginning (pattern : String) (literals : List Char) : Prop where
  split : ∃ rest, pattern.toList = literals ++ rest ∧ (rest = [] ∨ ∃ more, rest = '/' :: more)
  others : ∀ c, c ∈ literals → isWildcard c = false
  start : Path.isAbsolute ⟨String.ofList literals⟩ = false
  relative : (watchDirectory pattern).isAbsolute = false
  components : (watchDirectory pattern).components = Path.components ⟨String.ofList literals⟩

theorem not_hasWildcard_of_isNeutral {piece : String} (neutral : Path.isNeutral piece = true) :
    (!hasWildcard piece) = true := by
  unfold Path.isNeutral at neutral
  rcases Bool.or_eq_true_iff.mp neutral with empty | current
  · rw [beq_iff_eq.mp empty]
    rfl
  · rw [beq_iff_eq.mp current]
    rfl

/-- A slash and the characters of pieces without wildcards are no wildcards. -/
theorem isWildcard_eq_false {literals : List Char}
    (pieces : ∀ piece, piece ∈ Path.textPieces literals → hasWildcard piece = false) {c : Char}
    (member : c ∈ literals) : isWildcard c = false := by
  by_cases slash : c = '/'
  · subst slash
    rfl
  · obtain ⟨field, known, inside⟩ := (Text.mem_iff_mem_fields slash literals).mp member
    have none := pieces _ (List.mem_map.mpr ⟨field, known, rfl⟩)
    rw [hasWildcard_eq, String.toList_ofList, List.any_eq_false] at none
    simpa using none c inside

theorem of_mem_plainPieces {pattern piece : String} (member : piece ∈ plainPieces pattern) :
    '/' ∉ piece.toList ∧ hasWildcard piece = false := by
  have starts : plainPieces pattern <+: Path.textPieces pattern.toList := List.takeWhile_prefix _
  exact ⟨Path.not_mem_of_mem_textPieces (starts.subset member),
    by simpa using List.mem_takeWhile_imp member⟩

/-- The directory of a relative pattern is written for its pieces before the first with a wildcard. -/
theorem watchDirectory_eq {pattern : String} (relative : Path.isAbsolute ⟨pattern⟩ = false) :
    watchDirectory pattern =
      if (Path.relativeComponents (plainPieces pattern)).isEmpty then ⟨"."⟩
      else Path.ofComponents (Path.relativeComponents (plainPieces pattern)) := by
  have leading :
      (Path.components ⟨pattern⟩).takeWhile (fun component => !hasWildcard component.text) =
        Path.relativeComponents (plainPieces pattern) := by
    rw [Path.components_of_relative relative]
    exact Path.takeWhile_relativeComponents (fun _ => not_hasWildcard_of_isNeutral) _
  unfold watchDirectory
  rw [leading]

/-- The directory is the current one, or stands for a beginning of the pattern. -/
theorem watchDirectory_cases {pattern : String} (relative : Path.isAbsolute ⟨pattern⟩ = false) :
    watchDirectory pattern = ⟨"."⟩ ∨ ∃ literals, IsBeginning pattern literals := by
  have directory := watchDirectory_eq relative
  by_cases empty : Path.relativeComponents (plainPieces pattern) = []
  · left
    rw [directory, empty]
    rfl
  right
  rw [if_neg (by simpa using empty)] at directory
  have nonempty : plainPieces pattern ≠ [] := by
    intro none
    rw [none] at empty
    exact empty rfl
  have divided : Path.textPieces pattern.toList = plainPieces pattern ++ _ :=
    List.takeWhile_append_dropWhile.symm
  obtain ⟨literals, rest, split, pieces, slashed⟩ :=
    Path.exists_beginning_of_textPieces nonempty divided
  obtain ⟨written, same⟩ :=
    Path.components_ofComponents (fun _ member => (of_mem_plainPieces member).1) empty
  have start : Path.isAbsolute ⟨String.ofList literals⟩ = false :=
    Path.relative_of_append relative (split.trans (by rw [String.toList_ofList]))
  refine ⟨literals, ⟨⟨rest, split, slashed⟩, ?_, start, by rw [directory, written], ?_⟩⟩
  · intro c member
    exact isWildcard_eq_false (fun _ found => (of_mem_plainPieces (pieces ▸ found)).2) member
  · rw [directory, same, Path.components_of_relative start, String.toList_ofList, pieces]

variable {pattern : String} {glob : Glob}

namespace IsBeginning

variable {literals : List Char} (beginning : IsBeginning pattern literals)
include beginning

/-- The directory has a backslash if the beginning has one. -/
theorem backslash_mem_iff : '\\' ∈ (watchDirectory pattern).text.toList ↔ '\\' ∈ literals := by
  rw [Path.mem_text_iff beginning.relative (by decide) (by decide), beginning.components,
    ← Path.mem_text_iff beginning.start (by decide) (by decide), String.toList_ofList]

/-- A beginning without backslashes is the beginning of all that the pattern matches. -/
theorem components_prefix_of_isMatch (noBackslash : '\\' ∉ literals)
    (parsed : parse {} (Text.replaceChar '\\' '/' pattern) = .ok glob) {path : Path}
    (relative : path.isAbsolute = false) (isMatch : glob.isMatch path.text = true) :
    (watchDirectory pattern).components <+: path.components := by
  obtain ⟨rest, split, slashed⟩ := beginning.split
  -- Only behind the beginning the replacement can change something.
  have replaced : (Text.replaceChar '\\' '/' pattern).toList =
      literals ++ rest.map fun c => if c = '\\' then '/' else c := by
    rw [Text.toList_replaceChar, split, List.map_append, Text.map_replace_of_not_mem noBackslash]
  rw [beginning.components]
  rcases slashed with rfl | ⟨more, rfl⟩
  · have tokens := tokens_of_literals rfl beginning.others
      (replaced.trans (List.append_nil literals)) parsed
    have text := text_of_isMatch_literals tokens isMatch
    have split : path.text.toList = (String.ofList literals).toList ++ [] := by
      rw [String.toList_ofList, List.append_nil, text]
    exact Path.components_prefix relative split (Or.inl rfl)
  · obtain ⟨further, text⟩ :=
      text_of_isMatch_rooted (isRooted_of_slash rfl beginning.others replaced parsed) isMatch
    have split : path.text.toList = (String.ofList literals).toList ++ '/' :: further := by
      rw [String.toList_ofList, text]
    exact Path.components_prefix relative split (Or.inr ⟨further, rfl⟩)

end IsBeginning

/-- An absolute pattern matches absolute paths only. -/
theorem relative_of_isMatch (parsed : parse {} (Text.replaceChar '\\' '/' pattern) = .ok glob)
    {path : Path} (relative : path.isAbsolute = false) (isMatch : glob.isMatch path.text = true) :
    Path.isAbsolute ⟨pattern⟩ = false := by
  rw [Path.isAbsolute_eq_false_iff] at relative ⊢
  intro rest starts
  have replaced : (Text.replaceChar '\\' '/' pattern).toList =
      [] ++ '/' :: rest.map fun c => if c = '\\' then '/' else c := by
    rw [Text.toList_replaceChar, starts]
    rfl
  obtain ⟨more, text⟩ := text_of_isMatch_rooted
    (isRooted_of_slash rfl (fun _ member => by cases member) replaced parsed) isMatch
  exact relative more text

theorem parse_of_readPattern (read : PathFilter.readPattern pattern = .ok glob) :
    parse {} (Text.replaceChar '\\' '/' pattern) = .ok glob := by
  unfold PathFilter.readPattern at read
  split at read
  · rename_i parsed
    rw [parsed, Except.ok.inj read]
  · cases read

section

variable (parsed : parse {} (Text.replaceChar '\\' '/' pattern) = .ok glob) {path : Path}
  (relative : path.isAbsolute = false) (isMatch : glob.isMatch path.text = true)
include parsed relative isMatch

/-- A directory without backslashes covers what the pattern matches. -/
theorem covers_of_not_mem (noBackslash : '\\' ∉ (watchDirectory pattern).text.toList) :
    Covers (watchDirectory pattern) path := by
  rcases watchDirectory_cases (relative_of_isMatch parsed relative isMatch) with
    current | ⟨literals, beginning⟩
  · exact Or.inl current
  · rw [beginning.backslash_mem_iff] at noBackslash
    exact Or.inr (beginning.components_prefix_of_isMatch noBackslash parsed relative isMatch)

/-- A directory with a backslash covers no path without one that the pattern matches. -/
theorem not_mem_of_covers (noBackslash : '\\' ∉ path.text.toList)
    (covers : Covers (watchDirectory pattern) path) :
    '\\' ∉ (watchDirectory pattern).text.toList := by
  rcases watchDirectory_cases (relative_of_isMatch parsed relative isMatch) with
    current | ⟨literals, beginning⟩
  · rw [current]
    decide
  · rcases covers with current | starts
    · rw [current]
      decide
    · rw [Path.mem_text_iff beginning.relative (by decide) (by decide)]
      rw [Path.mem_text_iff relative (by decide) (by decide)] at noBackslash
      rintro ⟨component, member, inside⟩
      exact noBackslash ⟨component, starts.subset member, inside⟩

end

/-- The directory of a pattern without backslashes has none. -/
theorem not_mem_watchDirectory (noBackslash : '\\' ∉ pattern.toList)
    (relative : Path.isAbsolute ⟨pattern⟩ = false) :
    '\\' ∉ (watchDirectory pattern).text.toList := by
  rcases watchDirectory_cases relative with current | ⟨literals, beginning⟩
  · rw [current]
    decide
  · obtain ⟨rest, split, _⟩ := beginning.split
    rw [beginning.backslash_mem_iff]
    rw [split] at noBackslash
    exact fun member => noBackslash (List.mem_append_left rest member)

/-- The directory of a pattern covers the relative paths that the pattern matches if it is taken from
the pattern as it is read, with slashes for backslashes. Taken from the pattern as it is written, it
covers them if no backslash is left in it, and otherwise none of them but those with a backslash. -/
theorem watchDirectory_covers (read : PathFilter.readPattern pattern = .ok glob) {path : Path}
    (relative : path.isAbsolute = false) (isMatch : glob.isMatch path.text = true) :
    Covers (watchDirectory (Text.replaceChar '\\' '/' pattern)) path ∧
      ('\\' ∉ (watchDirectory pattern).text.toList → Covers (watchDirectory pattern) path) ∧
      ('\\' ∉ path.text.toList →
        (Covers (watchDirectory pattern) path ↔ '\\' ∉ (watchDirectory pattern).text.toList)) := by
  have parsed := parse_of_readPattern read
  have written := covers_of_not_mem parsed relative isMatch
  refine ⟨?_, written, fun noBackslash => ⟨?_, written⟩⟩
  · have noBackslash : '\\' ∉ (Text.replaceChar '\\' '/' pattern).toList :=
      Text.not_mem_replaceChar (by decide) pattern
    -- The pattern with slashes is read as it is.
    rw [← Text.replaceChar_of_not_mem '/' noBackslash] at parsed
    have started := relative_of_isMatch parsed relative isMatch
    exact covers_of_not_mem parsed relative isMatch (not_mem_watchDirectory noBackslash started)
  · exact not_mem_of_covers parsed relative isMatch noBackslash

def generatedSources : Glob :=
  ⟨{}, "src/gen/".toList.map .literal ++ .star :: ".rs".toList.map .literal⟩

theorem isMatch_generatedSources : generatedSources.isMatch "src/gen/a.rs" = true := by
  decide +kernel

theorem watchDirectory_covers_generated :
    PathFilter.readPattern "src/gen/*.rs" = .ok generatedSources ∧
      Path.isAbsolute ⟨"src/gen/a.rs"⟩ = false ∧ generatedSources.isMatch "src/gen/a.rs" = true ∧
      Covers (watchDirectory (Text.replaceChar '\\' '/' "src/gen/*.rs")) ⟨"src/gen/a.rs"⟩ ∧
      ('\\' ∉ (watchDirectory "src/gen/*.rs").text.toList →
        Covers (watchDirectory "src/gen/*.rs") ⟨"src/gen/a.rs"⟩) ∧
      ('\\' ∉ "src/gen/a.rs".toList →
        (Covers (watchDirectory "src/gen/*.rs") ⟨"src/gen/a.rs"⟩ ↔
          '\\' ∉ (watchDirectory "src/gen/*.rs").text.toList)) :=
  ⟨by cbv, by decide, isMatch_generatedSources,
    watchDirectory_covers (show PathFilter.readPattern "src/gen/*.rs" = .ok generatedSources by cbv)
      (show Path.isAbsolute ⟨"src/gen/a.rs"⟩ = false by decide) isMatch_generatedSources⟩

/-- With a backslash for the first slash the pattern is read as the same tokens, but its directory is
a single component that no path below `src` begins with. -/
theorem backslash_directory_misses :
    PathFilter.readPattern "src\\gen/*.rs" = .ok generatedSources ∧
      Path.isAbsolute ⟨"src/gen/a.rs"⟩ = false ∧ generatedSources.isMatch "src/gen/a.rs" = true ∧
      ¬ Covers (watchDirectory "src\\gen/*.rs") ⟨"src/gen/a.rs"⟩ :=
  ⟨by cbv, by decide, isMatch_generatedSources, by decide⟩

end Waymark.Glob
