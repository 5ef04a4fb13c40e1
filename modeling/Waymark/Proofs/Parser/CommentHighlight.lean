import Waymark.Proofs.Mark.Opening
import Waymark.Proofs.Parser.Folds
import Waymark.Proofs.Parser.Highlights

set_option autoImplicit false

/-! Where the highlight of a comment ends. The comment that is shown goes up to the blanks before its
closer; the highlight goes back over all spaces and characters of the closer at the end, whether they
belong to it or not. The two end at one place unless the comment ends with such a character or another
blank than a space stands before the closer. -/

namespace Waymark.Parser

/-! ### Comment closers -/

/-- A comment with a closer at its end is cut before it and trimmed, and any other is as it is
written. -/
theorem stripCloser_cases (comment : List Char) :
    (∃ closer skipped rest, (closer, skipped) ∈ closers ∧ comment = rest ++ closer ∧
      stripCloser comment = (Text.trim rest, some skipped)) ∨
    ((∀ closer skipped rest, (closer, skipped) ∈ closers → comment ≠ rest ++ closer) ∧
      stripCloser comment = (comment, none)) := by
  unfold stripCloser
  split
  · rename_i stripped found
    obtain ⟨⟨closer, skipped⟩, known, cut⟩ := List.exists_of_findSome?_eq_some found
    obtain ⟨rest, before, rfl⟩ := Option.map_eq_some_iff.mp cut
    exact Or.inl ⟨closer, skipped, rest, known, Text.dropClosing_eq_some_iff.mp before, rfl⟩
  · rename_i missing
    refine Or.inr ⟨?_, rfl⟩
    intro closer skipped rest known same
    have uncut := List.findSome?_eq_none_iff.mp missing _ known
    dsimp only at uncut
    rw [Text.dropClosing_eq_some_iff.mpr same] at uncut
    cases uncut

theorem stripCloser_sublist (comment : List Char) : (stripCloser comment).1.Sublist comment := by
  rcases stripCloser_cases comment with ⟨closer, _, rest, _, rfl, stripped⟩ | ⟨_, stripped⟩
  · rw [stripped]
    exact (Text.trim_sublist rest).trans (List.sublist_append_left rest closer)
  · rw [stripped]

/-- The characters that are left out for a closer are those of the closer and the space. -/
theorem skipped_of_mem_closers {closer skipped : List Char} (known : (closer, skipped) ∈ closers) :
    closer ≠ [] ∧ (∀ c, c ∈ closer → c ∈ skipped) ∧ ' ' ∈ skipped ∧
      ∀ c, c ∈ skipped → Text.isBlank c = true → c = ' ' := by
  have checked : (closers.all fun entry => entry.1 != [] && entry.1.all entry.2.contains &&
      entry.2.contains ' ' && entry.2.all fun c => !Text.isBlank c || c == ' ') = true := by decide
  have holds := List.all_eq_true.mp checked _ known
  simp only [Bool.and_eq_true, List.all_eq_true, bne_iff_ne, List.contains_iff_mem] at holds
  obtain ⟨⟨⟨filled, within⟩, space⟩, blanks⟩ := holds
  refine ⟨filled, within, space, ?_⟩
  intro c member blank
  have other := blanks c member
  rw [blank] at other
  exact eq_of_beq other

/-- A text ends with at most one closer. -/
theorem closer_unique {closer other skipped otherSkipped first second : List Char}
    (known : (closer, skipped) ∈ closers) (otherKnown : (other, otherSkipped) ∈ closers)
    (same : first ++ closer = second ++ other) :
    first = second ∧ skipped = otherSkipped := by
  -- Different closers end with different characters.
  have ends := congrArg List.getLast? same
  rcases List.mem_cons.mp known with isFirst | isLater <;>
    rcases List.mem_cons.mp otherKnown with otherFirst | otherLater
  · cases isFirst
    cases otherFirst
    exact ⟨List.append_cancel_right same, rfl⟩
  · cases isFirst
    cases List.mem_singleton.mp otherLater
    simp at ends
  · cases List.mem_singleton.mp isLater
    cases otherFirst
    simp at ends
  · cases List.mem_singleton.mp isLater
    cases List.mem_singleton.mp otherLater
    exact ⟨List.append_cancel_right same, rfl⟩

/-- Whether a written comment is closed: the comment that is shown, then blanks, then a closer. -/
structure ClosedBy (written comment blanks skipped : List Char) : Prop where
  whole : ∃ closer, (closer, skipped) ∈ closers ∧ written = comment ++ blanks ++ closer
  blank : ∀ c, c ∈ blanks → Text.isBlank c = true

/-- Whether a highlight stops behind a comment with these blanks behind it: it stops at a character
that is not left out, and all blanks are left out. -/
def StopsBehind (comment blanks skipped : List Char) : Prop :=
  (∀ c, c ∈ blanks → c = ' ') ∧ ∀ c, comment.getLast? = some c → c ∉ skipped

namespace ClosedBy

variable {written comment blanks skipped : List Char}

theorem unique {otherBlanks otherSkipped : List Char} (closed : ClosedBy written comment blanks skipped)
    (other : ClosedBy written comment otherBlanks otherSkipped) :
    blanks = otherBlanks ∧ skipped = otherSkipped := by
  obtain ⟨closer, known, whole⟩ := closed.whole
  obtain ⟨otherCloser, otherKnown, otherWhole⟩ := other.whole
  obtain ⟨same, sameSkipped⟩ := closer_unique known otherKnown (whole.symm.trans otherWhole)
  exact ⟨List.append_cancel_left same, sameSkipped⟩

/-- Going back over what is left out stops behind the comment if nothing of it is left out. -/
theorem dropEndWhile_eq (closed : ClosedBy written comment blanks skipped) (filled : comment ≠ [])
    (stops : StopsBehind comment blanks skipped) (front : List Char) :
    Text.dropEndWhile skipped.contains (front ++ written) = front ++ comment := by
  obtain ⟨closer, known, whole⟩ := closed.whole
  obtain ⟨_, closerSkipped, spaceSkipped, _⟩ := skipped_of_mem_closers known
  rw [whole, List.append_assoc]
  apply Text.dropEndWhile_of_kept filled
  · intro c ends
    rw [List.contains_eq_mem, decide_eq_false (stops.2 c ends)]
  · intro c member
    rw [List.contains_iff_mem]
    rcases List.mem_append.mp member with inBlanks | inCloser
    · rw [stops.1 c inBlanks]
      exact spaceSkipped
    · exact closerSkipped c inCloser

/-- If it stops at the last character of the comment, nothing of the comment is left out. -/
theorem stopsBehind (closed : ClosedBy written comment blanks skipped)
    (trimmed : Text.Trimmed comment) {front : List Char}
    (kept : Text.dropEndWhile skipped.contains (front ++ written) ≠ [])
    (ends : (Text.dropEndWhile skipped.contains (front ++ written)).getLast? =
      comment.getLast?) : StopsBehind comment blanks skipped := by
  obtain ⟨closer, known, whole⟩ := closed.whole
  obtain ⟨_, closerSkipped, _, onlySpace⟩ := skipped_of_mem_closers known
  have lastKept : ∀ c, comment.getLast? = some c → c ∉ skipped := by
    intro c last
    have stop := List.rdropWhile_last_not skipped.contains _ kept
    rw [last, List.getLast?_eq_some_getLast kept] at ends
    rwa [← Option.some.inj ends, ← List.contains_iff_mem]
  refine ⟨?_, lastKept⟩
  -- Were a blank kept, then the last character would be one that the comment does not end with.
  have tailDropped : Text.dropEndWhile skipped.contains (blanks ++ closer) = [] := by
    by_contra tailKept
    rw [whole, List.append_assoc, ← List.append_assoc, Text.dropEndWhile_append, if_neg tailKept,
      List.getLast?_append_of_ne_nil _ tailKept, List.getLast?_eq_some_getLast tailKept] at ends
    have notBlank := trimmed.last _ ends.symm
    have notSkipped := lastKept _ ends.symm
    have inTail := (List.rdropWhile_prefix skipped.contains (blanks ++ closer)).subset
      (List.getLast_mem tailKept)
    rcases List.mem_append.mp inTail with inBlanks | inCloser
    · rw [closed.blank _ inBlanks] at notBlank
      cases notBlank
    · exact notSkipped (closerSkipped _ inCloser)
  intro c member
  have dropped := List.rdropWhile_eq_nil_iff.mp tailDropped c (List.mem_append_left _ member)
  exact onlySpace c (List.contains_iff_mem.mp dropped) (closed.blank c member)

end ClosedBy

/-- A comment from which a closer was cut is closed, and any other is not. -/
theorem closedBy_of_stripCloser {written : List Char} (trimmed : Text.Trimmed written) :
    (∃ blanks skipped, ClosedBy written (stripCloser written).1 blanks skipped ∧
      (stripCloser written).2 = some skipped ∧ Text.Trimmed (stripCloser written).1) ∨
    ((∀ blanks skipped, ¬ClosedBy written (stripCloser written).1 blanks skipped) ∧
      stripCloser written = (written, none)) := by
  rcases stripCloser_cases written with ⟨closer, skipped, rest, known, whole, cut⟩ | ⟨open_, cut⟩
  · left
    rw [cut]
    obtain ⟨lead, blanks, leadBlank, blank, same⟩ := Text.exists_blanks_around rest
    have noLead : lead = [] := by
      cases lead with
      | nil => rfl
      | cons c more =>
          have visible := trimmed.first c (by rw [whole, same]; rfl)
          rw [leadBlank c List.mem_cons_self] at visible
          cases visible
    rw [noLead, List.nil_append] at same
    exact ⟨blanks, skipped, ⟨⟨closer, known, by rw [whole, ← same]⟩, blank⟩, rfl,
      Text.trimmed_trim rest⟩
  · right
    rw [cut]
    refine ⟨?_, rfl⟩
    intro blanks skipped closed
    obtain ⟨closer, known, whole⟩ := closed.whole
    exact open_ closer skipped _ known whole

/-! ### The highlight of one mark -/

def shownComment (mark : Mark) : List Char := (stripCloser (Text.trim mark.comment)).1

def highlightOf (mark : Mark) : List Char :=
  highlighted mark (stripCloser (Text.trim mark.comment)).2

/-- Whether the comment of a mark is not closed, or the highlight stops behind what is shown of it. -/
def StopsBehindShown (mark : Mark) : Prop :=
  ∀ blanks skipped, ClosedBy (Text.trim mark.comment) (shownComment mark) blanks skipped →
    StopsBehind (shownComment mark) blanks skipped

/-- A mark with a comment, without the blanks at its end. -/
theorem trimEnd_written {mark : Mark} (filled : Text.trim mark.comment ≠ []) :
    ∃ lead, Text.trimEnd mark.written = mark.opening ++ lead ++ Text.trim mark.comment := by
  obtain ⟨lead, tail, _, tailBlank, whole⟩ := Text.exists_blanks_around mark.comment
  refine ⟨lead, ?_⟩
  rw [Mark.written]
  conv_lhs => rw [whole]
  rw [← List.append_assoc, ← List.append_assoc, List.append_assoc]
  exact Text.dropEndWhile_of_kept filled (Text.trimmed_trim _).last tailBlank _

theorem highlightOf_cases {mark : Mark} (filled : shownComment mark ≠ []) :
    ∃ lead,
      (∃ blanks skipped, ClosedBy (Text.trim mark.comment) (shownComment mark) blanks skipped ∧
        Text.Trimmed (shownComment mark) ∧
        highlightOf mark = Text.dropEndWhile skipped.contains
          (mark.opening ++ lead ++ Text.trim mark.comment)) ∨
      ((∀ blanks skipped,
        ¬ClosedBy (Text.trim mark.comment) (shownComment mark) blanks skipped) ∧
        highlightOf mark = mark.opening ++ lead ++ shownComment mark) := by
  have written : Text.trim mark.comment ≠ [] := by
    intro blank
    apply filled
    unfold shownComment
    rw [blank]
    rfl
  obtain ⟨lead, shown⟩ := trimEnd_written written
  refine ⟨lead, ?_⟩
  unfold highlightOf highlighted
  rw [shown]
  rcases closedBy_of_stripCloser (Text.trimmed_trim mark.comment) with
    ⟨blanks, skipped, closed, cut, trimmed⟩ | ⟨notClosed, uncut⟩
  · rw [cut]
    exact Or.inl ⟨blanks, skipped, closed, trimmed, rfl⟩
  · refine Or.inr ⟨notClosed, ?_⟩
    unfold shownComment
    rw [uncut]
    rfl

theorem highlightOf_eq {mark : Mark} (filled : shownComment mark ≠ [])
    (stops : StopsBehindShown mark) :
    ∃ lead, highlightOf mark = mark.opening ++ lead ++ shownComment mark := by
  obtain ⟨lead, ⟨blanks, skipped, closed, _, same⟩ | ⟨_, same⟩⟩ := highlightOf_cases filled
  · refine ⟨lead, ?_⟩
    rw [same, closed.dropEndWhile_eq filled (stops blanks skipped closed)]
  · exact ⟨lead, same⟩

theorem stopsBehindShown_of_getLast? {mark : Mark} (filled : shownComment mark ≠ [])
    (kept : highlightOf mark ≠ [])
    (ends : (highlightOf mark).getLast? = (shownComment mark).getLast?) : StopsBehindShown mark := by
  intro blanks skipped closed
  obtain ⟨lead, ⟨_, _, known, trimmed, same⟩ | ⟨notClosed, _⟩⟩ := highlightOf_cases filled
  · obtain ⟨rfl, rfl⟩ := known.unique closed
    rw [same] at kept ends
    exact closed.stopsBehind trimmed kept ends
  · exact absurd closed (notClosed blanks skipped)

/-! ### The highlight of an anchor -/

def EndsWithComment (text : String) (anchor : Anchor) : Prop :=
  ∃ before after, text.toList = before ++ anchor.comment.toList ++ after ∧
    Text.byteLength (before ++ anchor.comment.toList) = anchor.stop

variable {parser : Parser} {document : Path} {lines : Text.LineIndex} {text : String}
  {anchor : Anchor} {tag : Tag} {hit : Hit}

theorem split_highlightOf (member : hit ∈ parser.grammar.hits text) :
    ∃ front behind, text.toList = front ++ highlightOf hit.mark ++ behind ∧
      Text.byteLength front = hit.start := by
  obtain ⟨front, after, split, placed⟩ := Grammar.split_of_mem_hits member
  obtain ⟨rest, whole⟩ :=
    highlighted_prefix hit.mark (stripCloser (Text.trim hit.mark.comment)).2
  refine ⟨front, rest ++ after, ?_, placed⟩
  rw [split, ← whole]
  simp only [highlightOf, List.append_assoc]

namespace IsAnchorOf

theorem comment_eq (made : parser.IsAnchorOf document lines anchor tag hit) :
    anchor.comment.toList = shownComment hit.mark := by
  rw [made.2]
  exact String.toList_ofList

theorem stop_eq (made : parser.IsAnchorOf document lines anchor tag hit)
    (styled : tag.styleComment = true) :
    anchor.stop = max (hit.start + Text.byteLength (highlightOf hit.mark)) hit.tokenStop := by
  rw [made.2]
  unfold anchorOf
  dsimp only
  rw [if_pos styled]
  rfl

/-- If the highlight stops behind the comment that is shown, the text up to there ends with it. -/
theorem endsWithComment (made : parser.IsAnchorOf document lines anchor tag hit)
    (styled : tag.styleComment = true) (member : hit ∈ parser.grammar.hits text)
    (filled : shownComment hit.mark ≠ []) (stops : StopsBehindShown hit.mark) :
    hit.tokenStop < anchor.stop ∧ EndsWithComment text anchor := by
  obtain ⟨front, behind, split, placed⟩ := split_highlightOf member
  obtain ⟨lead, same⟩ := highlightOf_eq filled stops
  have positive : 0 < Text.byteLength (shownComment hit.mark) := by
    obtain ⟨c, rest, comment⟩ := List.exists_cons_of_ne_nil filled
    rw [comment, Text.byteLength_cons]
    exact Nat.add_pos_left c.utf8Size_pos _
  have longer : hit.tokenStop < hit.start + Text.byteLength (highlightOf hit.mark) := by
    rw [same, Hit.tokenStop, Mark.opening]
    simp only [Text.byteLength_append]
    omega
  have stop := made.stop_eq styled
  rw [Nat.max_eq_left longer.le] at stop
  refine ⟨stop ▸ longer, front ++ hit.mark.opening ++ lead, behind, ?_, ?_⟩
  · rw [made.comment_eq, split, same]
    simp only [List.append_assoc]
  · rw [made.comment_eq, stop, same, ← placed]
    simp only [Text.byteLength_append, Nat.add_assoc]

/-- If the highlight is longer than the token and the text up to its end ends with the comment, it
stops behind the comment, as it ends with the last character of it. -/
theorem stopsBehindShown (made : parser.IsAnchorOf document lines anchor tag hit)
    (styled : tag.styleComment = true) (member : hit ∈ parser.grammar.hits text)
    (filled : shownComment hit.mark ≠ []) (longer : hit.tokenStop < anchor.stop)
    (ends : EndsWithComment text anchor) : StopsBehindShown hit.mark := by
  obtain ⟨front, behind, split, placed⟩ := split_highlightOf member
  obtain ⟨before, after, whole, size⟩ := ends
  have stop := made.stop_eq styled
  have reached : hit.start + Text.byteLength (highlightOf hit.mark) = anchor.stop := by omega
  have kept : highlightOf hit.mark ≠ [] := by
    intro none
    rw [none, Text.byteLength_nil] at reached
    have covers : hit.start ≤ hit.tokenStop := Nat.le_add_right _ _
    omega
  rw [made.comment_eq] at whole size
  have restSame : behind = after := by
    apply Grammar.eq_of_append_eq_append (split.symm.trans whole)
    rw [size, ← reached, Text.byteLength_append, placed]
  rw [split, restSame, List.append_cancel_right_eq] at whole
  have last := congrArg List.getLast? whole
  rw [List.getLast?_append_of_ne_nil _ kept, List.getLast?_append_of_ne_nil _ filled] at last
  exact stopsBehindShown_of_getLast? filled kept last

end IsAnchorOf

/-- An anchor with a comment that is highlighted is highlighted beyond its token and up to the end of
that comment if and only if the comment is not closed in the text, or only spaces stand before the
closer and the comment does not end with a character of the closer. -/
theorem comments_end_highlights_iff {id : Nat}
    (found : (parser.parse document text).forest.get? id = some anchor)
    (filled : anchor.comment ≠ "") :
    ∃ tag hit, hit ∈ parser.grammar.hits text ∧
      parser.IsAnchorOf document (Text.LineIndex.ofText text.toList) anchor tag hit ∧
      (tag.styleComment = true →
        (hit.tokenStop < anchor.stop ∧ EndsWithComment text anchor ↔
          ∀ blanks skipped,
            ClosedBy (Text.trim hit.mark.comment) anchor.comment.toList blanks skipped →
              StopsBehind anchor.comment.toList blanks skipped)) := by
  obtain ⟨tag, hit, member, made⟩ := parser.exists_mark_parse document found
  refine ⟨tag, hit, member, made, ?_⟩
  intro styled
  have shown : shownComment hit.mark ≠ [] := by
    rw [← made.comment_eq]
    exact mt String.toList_eq_nil_iff.mp filled
  rw [made.comment_eq]
  constructor
  · rintro ⟨longer, ends⟩
    exact made.stopsBehindShown styled member shown longer ends
  · exact made.endsWithComment styled member shown

/-! ### Comments that end with characters of a closer -/

def styledRegistry : Registry := Registry.defaults.merge [{ tag := "TODO", styleComment := some true }]

def styled : Parser := ⟨styledRegistry, .standard, true⟩

private def styledTodo : Tag :=
  { (Tag.named "TODO" .marker .workspace).colored "blue" "#3ea8ff" with styleComment := true }

theorem styled_built : build styledRegistry [" - ", ": ", " "] "!" false true = .ok styled := by
  have sameTokens : Grammar.tokensOf styledRegistry "!" = Grammar.tokensOf Registry.defaults "!" := by
    have tokens : styledRegistry.list.flatMap (Tag.tokens "!") =
        Registry.defaults.list.flatMap (Tag.tokens "!") := by decide +kernel
    unfold Grammar.tokensOf
    rw [tokens]
  have sameGrammar : Grammar.standard =
      Grammar.ofRegistry styledRegistry [" - ", ": ", " "] "!" false := by
    unfold Grammar.standard Grammar.ofRegistry
    rw [sameTokens]
  exact build_eq_ok_iff.mpr
    ⟨_, (Grammar.build_eq_ok_iff _ _ _ _ _).mpr ⟨by decide +kernel, by decide, sameGrammar⟩, rfl⟩

private def todoOf (comment : String) (start stop : Nat) : Anchor :=
  { tag := "TODO", text := "TODO: " ++ comment, comment, start, stop, line := 1
    behavior := .marker, scope := .workspace, showLine := true, document := ⟨"a"⟩
    attributes := { seq := 1 }, kind := .plain }

private theorem hits_closed : Grammar.standard.hits "<!-- TODO: foo -->" =
    [⟨5, ⟨"TODO".toList, none, some ⟨": ".toList, "foo -->".toList⟩⟩⟩] := by
  rw [Grammar.hits_eq_filterMap_lineHit Grammar.standard_singleLine, Grammar.standard_eq]
  decide +kernel

private theorem get?_closed :
    (styled.parse ⟨"a"⟩ "<!-- TODO: foo -->").forest.get? 0 = some (todoOf "foo" 5 14) := by
  have hits : styled.grammar.hits "<!-- TODO: foo -->" = _ := hits_closed
  unfold parse
  rw [hits]
  decide +kernel

private theorem hits_hyphen : Grammar.standard.hits "// TODO: foo - -->" =
    [⟨3, ⟨"TODO".toList, none, some ⟨": ".toList, "foo - -->".toList⟩⟩⟩] := by
  rw [Grammar.hits_eq_filterMap_lineHit Grammar.standard_singleLine, Grammar.standard_eq]
  decide +kernel

private theorem get?_hyphen :
    (styled.parse ⟨"a"⟩ "// TODO: foo - -->").forest.get? 0 = some (todoOf "foo -" 3 12) := by
  have hits : styled.grammar.hits "// TODO: foo - -->" = _ := hits_hyphen
  unfold parse
  rw [hits]
  decide +kernel

/-- A comment that is closed after one space. -/
theorem comments_end_highlights_iff_closed :
    build styledRegistry [" - ", ": ", " "] "!" false true = .ok styled ∧
      ∃ anchor, (styled.parse ⟨"a"⟩ "<!-- TODO: foo -->").forest.get? 0 = some anchor ∧
        anchor.comment = "foo" ∧ anchor.comment ≠ "" ∧ anchor.stop = 14 ∧
        EndsWithComment "<!-- TODO: foo -->" anchor := by
  obtain ⟨tag, hit, member, made, ends⟩ := comments_end_highlights_iff get?_closed (by decide)
  have hits : styled.grammar.hits "<!-- TODO: foo -->" = _ := hits_closed
  rw [hits, List.mem_singleton] at member
  subst member
  have role : styled.roleOf ⟨5, ⟨"TODO".toList, none, some ⟨": ".toList, "foo -->".toList⟩⟩⟩ =
      .anchor styledTodo := by decide +kernel
  rw [made.1] at role
  cases role
  refine ⟨styled_built, _, get?_closed, rfl, by decide, rfl, ((ends rfl).mpr ?_).2⟩
  intro blanks skipped isClosed
  have known : ClosedBy "foo -->".toList "foo".toList [' '] [' ', '-', '>'] :=
    ⟨⟨_, List.mem_cons_self, rfl⟩, List.all_eq_true.mp (by decide)⟩
  obtain ⟨rfl, rfl⟩ := known.unique isClosed
  refine ⟨by simp, ?_⟩
  rintro c ⟨⟩
  decide

/-- A hyphen before the closer belongs to the comment that is shown, but is not highlighted. -/
theorem hyphen_left_out_of_highlight :
    build styledRegistry [" - ", ": ", " "] "!" false true = .ok styled ∧
      ∃ anchor, (styled.parse ⟨"a"⟩ "// TODO: foo - -->").forest.get? 0 = some anchor ∧
        (styled.registry.find? anchor.tag).any Tag.styleComment = true ∧
        anchor.comment = "foo -" ∧ anchor.stop = 12 ∧
        ¬EndsWithComment "// TODO: foo - -->" anchor := by
  refine ⟨styled_built, _, get?_hyphen, by decide +kernel, rfl, rfl, ?_⟩
  rintro ⟨before, after, whole, size⟩
  have cut : "// TODO: foo - -->".toList = "// TODO: foo".toList ++ " - -->".toList := by decide
  have restSame := Grammar.eq_of_append_eq_append (whole.symm.trans cut) size
  rw [cut, restSame, List.append_cancel_right_eq] at whole
  have last := congrArg List.getLast? whole
  rw [List.getLast?_append_of_ne_nil before (by decide)] at last
  revert last
  decide

end Waymark.Parser
