import Waymark.Glob.Filter
import Waymark.Proofs.Glob.Matching

set_option autoImplicit false

/-! The beginning of a pattern. Characters without a meaning of their own become literals one by one,
and no later character takes back what a slash after them has added. -/

namespace Waymark.Glob

def isWildcard (c : Char) : Bool := c == '*' || c == '?' || c == '[' || c == '\x7b'

theorem hasWildcard_eq (text : String) : hasWildcard text = text.toList.any isWildcard := rfl

variable {options : GlobOptions}

/-- Reading with the plain options, outside of groups: a character that is not a wildcard stands for
itself, and a brace that closes nothing is an error. -/
theorem readFrom_literal (plain : options.escapes = false) {c : Char} (other : isWildcard c = false)
    (before : Option Char) {reading : Reading} (outside : reading.outer = []) (rest : List Char) :
    readFrom options before reading (c :: rest) =
      if c = '\x7d' then .error .unopenedGroup
      else readFrom options (some c) (reading.push (.literal c)) rest := by
  simp only [isWildcard, Bool.or_eq_false_iff, beq_eq_false_iff_ne, ne_eq] at other
  obtain ⟨⟨⟨notStar, notAny⟩, notClass⟩, notGroup⟩ := other
  rw [readFrom.eq_def]
  dsimp only
  split
  case h_1 => exact absurd rfl notAny
  case h_2 => exact absurd rfl notStar
  case h_3 => exact absurd rfl notClass
  case h_4 => exact absurd rfl notGroup
  case h_5 =>
    have refused : reading.closeGroup = .error .unopenedGroup := by
      unfold Reading.closeGroup
      rw [outside]
    rw [refused, if_pos rfl]
  case h_6 =>
    have comma : reading.nextBranch = reading.push (.literal ',') := by
      unfold Reading.nextBranch
      rw [outside]
      rfl
    rw [comma, if_neg (by decide)]
  case h_7 => rw [plain, if_neg (by decide), if_neg (by decide)]
  case h_8 notClose _ _ => rw [if_neg notClose]

/-- Characters that are not wildcards become literals. -/
theorem exists_reading_of_literals (plain : options.escapes = false) {literals : List Char}
    (others : ∀ c, c ∈ literals → isWildcard c = false) {before : Option Char}
    {reading final : Reading} (outside : reading.outer = []) {rest : List Char}
    (read : readFrom options before reading (literals ++ rest) = .ok final) :
    ∃ before' reading', readFrom options before' reading' rest = .ok final ∧ reading'.outer = [] ∧
      reading'.level.current = (literals.map GlobToken.literal).reverse ++ reading.level.current := by
  induction literals generalizing before reading with
  | nil => exact ⟨before, reading, read, outside, rfl⟩
  | cons c more ih =>
      have here := readFrom_literal plain (others c List.mem_cons_self) before outside (more ++ rest)
      rw [← List.cons_append, read] at here
      split at here
      · cases here
      · have stillOutside : (reading.push (.literal c)).outer = [] := outside
        obtain ⟨before', reading', further, outside', current⟩ :=
          ih (fun d member => others d (List.mem_cons_of_mem c member)) stillOutside here.symm
        refine ⟨before', reading', further, outside', ?_⟩
        rw [current, List.map_cons, List.reverse_cons, List.append_assoc]
        rfl

/-! ### What stays -/

/-- Whether tokens, last first, are those of some characters, a token that asks for a slash, and any
others. -/
def Begins (literals : List Char) (current : List GlobToken) : Prop :=
  ∃ later token, current = later ++ token :: (literals.map GlobToken.literal).reverse ∧
    asksSlash token = true

namespace Begins

variable {literals : List Char} {current : List GlobToken}

theorem first {token : GlobToken} (asks : asksSlash token = true) :
    Begins literals (token :: (literals.map GlobToken.literal).reverse) :=
  ⟨[], token, rfl, asks⟩

theorem push (begins : Begins literals current) (token : GlobToken) :
    Begins literals (token :: current) := by
  obtain ⟨later, asking, rfl, asks⟩ := begins
  exact ⟨token :: later, asking, rfl, asks⟩

/-- The last token can be replaced by one that asks for a slash. -/
theorem replace {last token : GlobToken} {rest : List GlobToken}
    (begins : Begins literals (last :: rest)) (asks : asksSlash token = true) :
    Begins literals (token :: rest) := by
  obtain ⟨later, asking, same, stays⟩ := begins
  cases later with
  | nil =>
      obtain ⟨rfl, rfl⟩ := List.cons.inj same
      exact first asks
  | cons _ more =>
      obtain ⟨rfl, rfl⟩ := List.cons.inj same
      exact ⟨token :: more, asking, rfl, stays⟩

theorem isRooted (begins : Begins literals current) : IsRooted literals current.reverse := by
  obtain ⟨later, token, rfl, asks⟩ := begins
  refine ⟨token, later.reverse, ?_, asks⟩
  rw [List.reverse_append, List.reverse_cons, List.reverse_reverse, List.append_assoc]
  rfl

end Begins

namespace Reading

def outermost (reading : Reading) : Level := reading.outer.getLast?.getD reading.level

def IsRooted (literals : List Char) (reading : Reading) : Prop :=
  Begins literals reading.outermost.current

theorem outermost_of_outside {reading : Reading} (outside : reading.outer = []) (level : Level) :
    Reading.outermost { reading with level := level } = level := by
  rw [outermost, outside]
  rfl

theorem isRooted_iff_of_outside {reading : Reading} (outside : reading.outer = []) (level : Level)
    (literals : List Char) :
    Reading.IsRooted literals { reading with level := level } ↔ Begins literals level.current := by
  rw [IsRooted, outermost_of_outside outside]

theorem outermost_of_inside {reading : Reading} (inside : reading.outer ≠ []) (level : Level) :
    Reading.outermost { reading with level := level } = reading.outermost := by
  unfold outermost
  rw [List.getLast?_eq_some_getLast inside]
  rfl

theorem outermost_openGroup (reading : Reading) :
    reading.openGroup.outermost = reading.outermost := by
  unfold openGroup outermost
  rw [List.getLast?_cons]
  rfl

/-- What changes the current tokens only keeps the beginning, if it does so outside of groups. -/
theorem IsRooted.withLevel {literals : List Char} {reading : Reading}
    (rooted : reading.IsRooted literals) (level : Level)
    (stays : Begins literals reading.level.current → Begins literals level.current) :
    Reading.IsRooted literals { reading with level := level } := by
  by_cases outside : reading.outer = []
  · rw [isRooted_iff_of_outside outside]
    exact stays ((isRooted_iff_of_outside outside reading.level literals).mp rooted)
  · unfold IsRooted at rooted ⊢
    rwa [outermost_of_inside outside]

namespace IsRooted

variable {literals : List Char} {reading : Reading} (rooted : reading.IsRooted literals)
include rooted

theorem push (token : GlobToken) : (reading.push token).IsRooted literals :=
  rooted.withLevel _ fun begins => begins.push token

theorem openGroup : reading.openGroup.IsRooted literals := by
  unfold IsRooted at rooted ⊢
  rwa [outermost_openGroup]

theorem nextBranch : reading.nextBranch.IsRooted literals := by
  unfold Reading.nextBranch
  split
  · exact rooted.push _
  · rename_i inside
    unfold IsRooted at rooted ⊢
    rwa [outermost_of_inside (by simpa using inside)]

theorem closeGroup {closed : Reading} (closes : reading.closeGroup = .ok closed) :
    closed.IsRooted literals := by
  unfold Reading.closeGroup at closes
  split at closes
  · cases closes
  · rename_i level outer opened
    obtain rfl := Except.ok.inj closes
    have around : Reading.IsRooted literals { level, outer } := by
      unfold IsRooted outermost at rooted ⊢
      rw [opened, List.getLast?_cons] at rooted
      exact rooted
    exact around.push _

theorem replaceSlash {token : GlobToken} (asks : asksSlash token = true) :
    (reading.replaceSlash token).IsRooted literals := by
  unfold Reading.replaceSlash
  split
  · exact rooted
  · exact rooted
  · rename_i last rest _ _ current
    refine rooted.withLevel _ fun begins => ?_
    rw [current] at begins
    exact begins.replace asks
  · exact rooted.push token

theorem twoStars : reading.twoStars.IsRooted literals := (rooted.push .star).push .star

theorem doubleStar (before : Option Char) (rest : List Char) :
    (reading.doubleStar before rest).1.IsRooted literals := by
  unfold Reading.doubleStar
  split
  · split
    · exact rooted.push .leadingAny
    · exact rooted.twoStars
  · split
    · exact rooted.twoStars
    · split
      · exact rooted.replaceSlash rfl
      · split
        · exact rooted.replaceSlash rfl
        · exact rooted.twoStars

end IsRooted

end Reading

/-- Reading on keeps the beginning. -/
theorem isRooted_of_readFrom {literals : List Char} {before : Option Char} {reading final : Reading}
    {text : List Char} (rooted : reading.IsRooted literals)
    (read : readFrom options before reading text = .ok final) : final.IsRooted literals := by
  -- The beginning belongs to the outermost level, so opening and closing groups does not touch it.
  fun_induction readFrom options before reading text with
  | case1 before reading =>
      obtain rfl := Except.ok.inj read
      exact rooted
  | case2 before reading rest ih => exact ih (rooted.push .any) read
  | case3 before reading rest starred found ih =>
      have kept := rooted.doubleStar before rest
      rw [found] at kept
      exact ih kept read
  | case4 before reading rest starred takesSlash found stays ih =>
      have kept := rooted.doubleStar before rest
      rw [found] at kept
      exact ih kept read
  | case5 before reading rest single ih => exact ih (rooted.push .star) read
  | case6 => cases read
  | case7 before reading rest token count found ih => exact ih (rooted.push token) read
  | case8 before reading rest found lenient ih => exact ih (rooted.push _) read
  | case9 => cases read
  | case10 before reading rest ih => exact ih rooted.openGroup read
  | case11 before reading rest closed closes ih => exact ih (rooted.closeGroup closes) read
  | case12 => cases read
  | case13 before reading rest ih => exact ih rooted.nextBranch read
  | case14 => cases read
  | case15 before reading escapes escaped rest ih => exact ih (rooted.push _) read
  | case16 before reading rest plain ih => exact ih (rooted.push _) read
  | case17 before reading rest c _ _ _ _ _ _ _ ih => exact ih (rooted.push _) read

/-! ### Whole patterns -/

/-- The tokens of a pattern that was read. -/
theorem parse_eq_ok {pattern : String} {glob : Glob} (parsed : parse options pattern = .ok glob) :
    ∃ final, readFrom options none {} pattern.toList = .ok final ∧ final.outer = [] ∧
      glob.tokens = final.level.current.reverse := by
  unfold parse at parsed
  split at parsed
  · cases parsed
  · rename_i final read
    split at parsed
    · rename_i outside
      obtain rfl := Except.ok.inj parsed
      exact ⟨final, read, List.isEmpty_iff.mp outside, rfl⟩
    · cases parsed

variable {pattern : String} {glob : Glob} {literals : List Char}

/-- A pattern without wildcards is read as its characters. -/
theorem tokens_of_literals (plain : options.escapes = false)
    (others : ∀ c, c ∈ literals → isWildcard c = false) (split : pattern.toList = literals)
    (parsed : parse options pattern = .ok glob) : glob.tokens = literals.map .literal := by
  obtain ⟨final, read, _, tokens⟩ := parse_eq_ok parsed
  rw [split, ← List.append_nil literals] at read
  obtain ⟨_, reading, further, _, current⟩ := exists_reading_of_literals plain others rfl read
  rw [readFrom] at further
  obtain rfl := Except.ok.inj further
  rw [tokens, current]
  simp

/-- A pattern that goes on with a slash is read as its first characters and a token that asks for a
slash. -/
theorem isRooted_of_slash (plain : options.escapes = false)
    (others : ∀ c, c ∈ literals → isWildcard c = false) {rest : List Char}
    (split : pattern.toList = literals ++ '/' :: rest)
    (parsed : parse options pattern = .ok glob) : IsRooted literals glob.tokens := by
  obtain ⟨final, read, outside, tokens⟩ := parse_eq_ok parsed
  rw [split] at read
  obtain ⟨before, reading, further, around, current⟩ :=
    exists_reading_of_literals plain others rfl read
  rw [readFrom_literal plain (by decide) before around, if_neg (by decide)] at further
  have begins : Begins literals (.literal '/' :: reading.level.current) := by
    rw [current, List.append_nil]
    exact Begins.first rfl
  have rooted : (reading.push (.literal '/')).IsRooted literals :=
    (Reading.isRooted_iff_of_outside around _ literals).mpr begins
  have kept := isRooted_of_readFrom rooted further
  rw [tokens]
  exact ((Reading.isRooted_iff_of_outside outside final.level literals).mp kept).isRooted

end Waymark.Glob
