import Waymark.Text.Lines
import Waymark.Proofs.Mark.Offsets

set_option autoImplicit false

/-! The lines of a text and the places in them. A carriage return with the line feed after it is one
break, so no place is between the two. The lines begin where the line index has them begin. -/

namespace Waymark.Text

/-- A line without the break that ends it, and the last character before it. -/
structure Line where
  offset : Nat
  before : Option Char
  content : List Char

/-- A place that follows a character, and the line from there on. -/
structure Place where
  offset : Nat
  before : Char
  rest : List Char

def Unbroken (text : List Char) : Prop :=
  ∀ c, c ∈ text → isBreak c = false

instance (text : List Char) : Decidable (Unbroken text) :=
  List.decidableBAll _ text

/-- The lines of a text, where `content` of the first line is already read. -/
def linesFrom (offset : Nat) (before : Option Char) (content : List Char) : List Char → List Line
  | [] => [⟨offset, before, content⟩]
  | '\r' :: '\n' :: rest =>
      ⟨offset, before, content⟩ :: linesFrom (offset + byteLength content + 2) (some '\n') [] rest
  | c :: rest =>
      if isBreak c then
        ⟨offset, before, content⟩ ::
          linesFrom (offset + byteLength content + c.utf8Size) (some c) [] rest
      else linesFrom offset before (content ++ [c]) rest

def lines (text : String) : List Line :=
  linesFrom 0 none [] text.toList

def placesFrom (offset : Nat) (before : Char) : List Char → List Place
  | [] => [⟨offset, before, []⟩]
  | c :: rest => ⟨offset, before, c :: rest⟩ :: placesFrom (offset + c.utf8Size) c rest

namespace Line

def stop (line : Line) : Nat := line.offset + byteLength line.content

/-- The places of a line. Nothing precedes the first place of the first line. -/
def places (line : Line) : List Place :=
  match line.before, line.content with
  | some before, content => placesFrom line.offset before content
  | none, [] => []
  | none, c :: rest => placesFrom (line.offset + c.utf8Size) c rest

end Line

theorem Unbroken.of_cons {c : Char} {text : List Char} (unbroken : Unbroken (c :: text)) :
    Unbroken text := by
  intro d member
  exact unbroken d (List.mem_cons_of_mem c member)

theorem Unbroken.append {first second : List Char} (firstUnbroken : Unbroken first)
    (secondUnbroken : Unbroken second) : Unbroken (first ++ second) := by
  intro c member
  rcases List.mem_append.mp member with inFirst | inSecond
  · exact firstUnbroken c inFirst
  · exact secondUnbroken c inSecond

theorem Unbroken.sublist {part text : List Char} (unbroken : Unbroken text)
    (sublist : part.Sublist text) : Unbroken part := by
  intro c member
  exact unbroken c (sublist.subset member)

theorem unbroken_nil : Unbroken [] := by
  intro c member
  cases member

theorem unbroken_singleton {c : Char} (plain : isBreak c = false) : Unbroken [c] := by
  intro d member
  rw [List.mem_singleton.mp member]
  exact plain

/-! ### Lines -/

private theorem offset_linesFrom (offset : Nat) (before : Option Char) (content text : List Char) :
    (linesFrom offset before content text).map Line.offset =
      offset :: lineStartsFrom (offset + byteLength content) text := by
  fun_induction linesFrom offset before content text with
  | case1 offset before content => rfl
  | case2 offset before content rest ih =>
      rw [List.map_cons, ih, lineStartsFrom]
      rfl
  | case3 offset before content c rest notPair breaks ih =>
      rw [List.map_cons, ih, lineStartsFrom.eq_3 _ _ _ notPair, if_pos breaks]
      rfl
  | case4 offset before content c rest notPair plain ih =>
      rw [ih, lineStartsFrom.eq_3 _ _ _ notPair, if_neg plain]
      rw [byteLength_append, byteLength_cons, byteLength_nil, Nat.add_zero, Nat.add_assoc]

/-- The lines of a text begin where its line index has them begin. -/
theorem offset_lines (text : String) :
    (lines text).map Line.offset = (LineIndex.ofText text.toList).starts.toList := by
  rw [lines, offset_linesFrom]
  rfl

/-! ### Places -/

theorem placesFrom_suffix (offset : Nat) (before : Char) (content : List Char) :
    ∀ place, place ∈ placesFrom offset before content →
      place.rest <:+ content ∧
        place.offset + byteLength place.rest = offset + byteLength content := by
  induction content generalizing offset before with
  | nil =>
      intro place member
      rw [List.mem_singleton.mp member]
      exact ⟨List.suffix_refl [], rfl⟩
  | cons c rest ih =>
      intro place member
      rcases List.mem_cons.mp member with same | later
      · rw [same]
        exact ⟨List.suffix_refl _, rfl⟩
      · obtain ⟨suffix, stop⟩ := ih _ _ place later
        refine ⟨suffix.trans (List.suffix_cons c rest), ?_⟩
        rw [stop, byteLength_cons]
        omega

/-- From each place of a line on, there is the rest of the line up to its end. -/
theorem Line.places_suffix {line : Line} {place : Place} (member : place ∈ line.places) :
    place.rest <:+ line.content ∧ place.offset + byteLength place.rest = line.stop := by
  obtain ⟨offset, before, content⟩ := line
  cases before with
  | some before => exact placesFrom_suffix offset before content place member
  | none =>
      cases content with
      | nil => cases member
      | cons c rest =>
          obtain ⟨suffix, bytes⟩ := placesFrom_suffix _ _ _ place member
          refine ⟨suffix.trans (List.suffix_cons c rest), ?_⟩
          simp only [bytes, Line.stop, byteLength_cons]
          omega

end Waymark.Text
