import Waymark.Path
import Waymark.Proofs.Text.Trim

set_option autoImplicit false

/-! The components of relative paths, from the pieces between the slashes. A path that goes on behind a
slash has the components of its beginning first, and the path that is written for some components
has these components. -/

namespace Waymark.Path

def named (body : List String) : List Component :=
  (body.filter (!isNeutral ·)).map pieceComponent

/-- The components of the pieces of a relative path. A `.` counts at the beginning only. -/
def relativeComponents : List String → List Component
  | [] => []
  | first :: body => if first = "." then .current :: named body else named (first :: body)

def textPieces (text : List Char) : List String :=
  (Text.fields '/' text).map String.ofList

theorem relativeComponents_current (body : List String) :
    relativeComponents ("." :: body) = .current :: named body := by
  rw [relativeComponents, if_pos rfl]

theorem relativeComponents_other {first : String} (other : first ≠ ".") (body : List String) :
    relativeComponents (first :: body) = named (first :: body) := by
  rw [relativeComponents, if_neg other]

theorem named_append (first second : List String) :
    named (first ++ second) = named first ++ named second := by
  unfold named
  rw [List.filter_append, List.map_append]

theorem relativeComponents_append {first : List String} (nonempty : first ≠ [])
    (second : List String) :
    relativeComponents (first ++ second) = relativeComponents first ++ named second := by
  obtain ⟨piece, rest, rfl⟩ := List.exists_cons_of_ne_nil nonempty
  by_cases current : piece = "."
  · subst current
    rw [List.cons_append, relativeComponents_current, relativeComponents_current, named_append,
      List.cons_append]
  · rw [List.cons_append, relativeComponents_other current, relativeComponents_other current,
      ← List.cons_append, named_append]

theorem textPieces_ne_nil (text : List Char) : textPieces text ≠ [] := by
  unfold textPieces
  rw [Text.fields_eq_splitOn, ne_eq, List.map_eq_nil_iff]
  exact List.splitOn_ne_nil '/' text

theorem textPieces_append (first second : List Char) :
    textPieces (first ++ '/' :: second) = textPieces first ++ textPieces second := by
  unfold textPieces
  rw [Text.fields_append, List.map_append]

/-- The first pieces of a text are the pieces of its beginning, which ends there or before a slash. -/
theorem exists_beginning_of_textPieces {text : List Char} {first second : List String}
    (nonempty : first ≠ []) (pieces : textPieces text = first ++ second) :
    ∃ start rest, text = start ++ rest ∧ textPieces start = first ∧
      (rest = [] ∨ ∃ more, rest = '/' :: more) := by
  induction first generalizing text with
  | nil => exact absurd rfl nonempty
  | cons piece more ih =>
      by_cases slashed : '/' ∈ text
      · obtain ⟨before, after, rfl, absent⟩ := List.eq_append_cons_of_mem slashed
        have single : textPieces before = [String.ofList before] := by
          unfold textPieces
          rw [Text.fields_of_not_mem absent, List.map_singleton]
        rw [textPieces_append, single, List.cons_append] at pieces
        obtain ⟨rfl, further⟩ := List.cons.inj pieces
        by_cases last : more = []
        · subst last
          exact ⟨before, '/' :: after, rfl, single, Or.inr ⟨after, rfl⟩⟩
        · obtain ⟨start, rest, rfl, same, slash⟩ := ih last further
          refine ⟨before ++ '/' :: start, rest, by simp, ?_, slash⟩
          rw [textPieces_append, single, same, List.singleton_append]
      · have whole := pieces
        unfold textPieces at whole
        rw [Text.fields_of_not_mem slashed, List.map_singleton] at whole
        obtain ⟨rfl, nothing⟩ := List.cons.inj whole
        obtain ⟨rfl, rfl⟩ := List.append_eq_nil_iff.mp nothing.symm
        refine ⟨text, [], (List.append_nil text).symm, ?_, Or.inl rfl⟩
        rw [pieces, List.append_nil]

theorem isAbsolute_eq_false_iff {path : Path} :
    path.isAbsolute = false ↔ ∀ rest, path.text.toList ≠ '/' :: rest := by
  unfold isAbsolute
  cases path.text.toList with
  | nil => simp
  | cons c rest => simp

/-- The beginning of a relative path is relative. -/
theorem relative_of_append {first second : Path} {tail : List Char}
    (relative : second.isAbsolute = false)
    (split : second.text.toList = first.text.toList ++ tail) : first.isAbsolute = false := by
  rw [isAbsolute_eq_false_iff] at relative ⊢
  intro rest same
  rw [same, List.cons_append] at split
  exact relative _ split

theorem components_of_relative {path : Path} (relative : path.isAbsolute = false) :
    path.components = relativeComponents (textPieces path.text.toList) := by
  have noSlash := isAbsolute_eq_false_iff.mp relative
  obtain ⟨first, body, split⟩ :=
    List.exists_cons_of_ne_nil (textPieces_ne_nil path.text.toList)
  have pieces : path.pieces = if first = "." then ⟨.current, body⟩ else ⟨.none, first :: body⟩ := by
    unfold Path.pieces
    split
    · rename_i rest absolute
      exact absurd absolute (noSlash rest)
    · have fields : (Text.fields '/' path.text.toList).map String.ofList = first :: body := split
      rw [fields]
      split
      · rename_i same
        rw [(List.cons.inj same).1, (List.cons.inj same).2, if_pos rfl]
      · rename_i other
        rw [if_neg]
        rintro rfl
        exact other body rfl
  unfold components
  rw [pieces, split]
  by_cases current : first = "."
  · subst current
    rw [if_pos rfl, relativeComponents_current]
    rfl
  · rw [if_neg current, relativeComponents_other current]
    rfl

/-- A path that goes on behind a slash has the components of its beginning first. -/
theorem components_prefix {first second : Path} (relative : second.isAbsolute = false)
    {tail : List Char} (split : second.text.toList = first.text.toList ++ tail)
    (slashed : tail = [] ∨ ∃ more, tail = '/' :: more) : first.components <+: second.components := by
  rw [components_of_relative relative, components_of_relative (relative_of_append relative split),
    split]
  rcases slashed with rfl | ⟨more, rfl⟩
  · simp only [List.append_nil, List.prefix_rfl]
  · rw [textPieces_append, relativeComponents_append (textPieces_ne_nil _)]
    exact List.prefix_append _ _

/-! ### Characters -/

theorem text_pieceComponent (piece : String) : (pieceComponent piece).text = piece := by
  unfold pieceComponent
  split
  · rename_i parent
    rw [beq_iff_eq.mp parent]
    rfl
  · rfl

theorem mem_named_iff (component : Component) (body : List String) :
    component ∈ named body ↔
      ∃ piece, piece ∈ body ∧ isNeutral piece = false ∧ component = pieceComponent piece := by
  unfold named
  rw [List.mem_map]
  constructor
  · rintro ⟨piece, member, rfl⟩
    obtain ⟨known, kept⟩ := List.mem_filter.mp member
    exact ⟨piece, known, by simpa using kept, rfl⟩
  · rintro ⟨piece, known, kept, rfl⟩
    exact ⟨piece, List.mem_filter.mpr ⟨known, by simpa using kept⟩, rfl⟩

private theorem isNeutral_of_mem {c : Char} {piece : String} (member : c ∈ piece.toList)
    (notDot : c ≠ '.') : isNeutral piece = false := by
  unfold isNeutral
  rw [Bool.or_eq_false_iff, beq_eq_false_iff_ne, beq_eq_false_iff_ne]
  constructor
  · rintro rfl
    cases member
  · rintro rfl
    exact notDot (List.mem_singleton.mp member)

/-- The characters of the components are those of the path, but for slashes and dots. -/
theorem mem_text_iff {path : Path} (relative : path.isAbsolute = false) {c : Char}
    (notSlash : c ≠ '/') (notDot : c ≠ '.') :
    c ∈ path.text.toList ↔
      ∃ component, component ∈ path.components ∧ c ∈ component.text.toList := by
  have inPieces : c ∈ path.text.toList ↔
      ∃ piece, piece ∈ textPieces path.text.toList ∧ c ∈ piece.toList := by
    rw [Text.mem_iff_mem_fields notSlash]
    simp [textPieces]
  have inNamed (body : List String) :
      (∃ component, component ∈ named body ∧ c ∈ component.text.toList) ↔
        ∃ piece, piece ∈ body ∧ c ∈ piece.toList := by
    simp only [mem_named_iff]
    constructor
    · rintro ⟨_, ⟨piece, known, _, rfl⟩, member⟩
      rw [text_pieceComponent] at member
      exact ⟨piece, known, member⟩
    · rintro ⟨piece, known, member⟩
      refine ⟨_, ⟨piece, known, isNeutral_of_mem member notDot, rfl⟩, ?_⟩
      rwa [text_pieceComponent]
  rw [inPieces, components_of_relative relative]
  cases textPieces path.text.toList with
  | nil => simp [relativeComponents]
  | cons first body =>
      by_cases current : first = "."
      · subst current
        have current : c ∉ Component.current.text.toList :=
          fun member => notDot (List.mem_singleton.mp member)
        rw [relativeComponents_current]
        simp only [List.exists_mem_cons_iff, current, false_or, inNamed]
        simp [notDot]
      · rw [relativeComponents_other current]
        exact (inNamed _).symm

/-! ### The first components -/

theorem takeWhile_named {keep : String → Bool}
    (neutral : ∀ piece, isNeutral piece = true → keep piece = true) (body : List String) :
    (named body).takeWhile (fun component => keep component.text) = named (body.takeWhile keep) := by
  induction body with
  | nil => rfl
  | cons piece rest ih =>
      unfold named at ih ⊢
      cases skipped : isNeutral piece with
      | true =>
          rw [List.filter_cons_of_neg (by simp [skipped]), ih,
            List.takeWhile_cons_of_pos (neutral piece skipped),
            List.filter_cons_of_neg (by simp [skipped])]
      | false =>
          rw [List.filter_cons_of_pos (by simp [skipped]), List.map_cons]
          cases kept : keep piece with
          | true =>
              rw [List.takeWhile_cons_of_pos (by rw [text_pieceComponent, kept]), ih,
                List.takeWhile_cons_of_pos kept, List.filter_cons_of_pos (by simp [skipped]),
                List.map_cons]
          | false =>
              rw [List.takeWhile_cons_of_neg (by simp [text_pieceComponent, kept]),
                List.takeWhile_cons_of_neg (by simp [kept])]
              rfl

/-- The first components are those of the first pieces. -/
theorem takeWhile_relativeComponents {keep : String → Bool}
    (neutral : ∀ piece, isNeutral piece = true → keep piece = true) (pieces : List String) :
    (relativeComponents pieces).takeWhile (fun component => keep component.text) =
      relativeComponents (pieces.takeWhile keep) := by
  cases pieces with
  | nil => rfl
  | cons first body =>
      by_cases current : first = "."
      · subst current
        have kept : keep "." = true := neutral "." rfl
        have currentKept : keep Component.current.text = true := kept
        rw [List.takeWhile_cons_of_pos kept, relativeComponents_current,
          relativeComponents_current, List.takeWhile_cons, if_pos currentKept,
          takeWhile_named neutral]
      · rw [relativeComponents_other current, takeWhile_named neutral]
        cases kept : keep first with
        | true => rw [List.takeWhile_cons_of_pos kept, relativeComponents_other current]
        | false =>
            rw [List.takeWhile_cons_of_neg (by simp [kept])]
            rfl

/-! ### Paths that are written for components -/

inductive IsStep : Component → Prop
  | parent : IsStep .parent
  | normal {name : String} :
      isNeutral name = false → name ≠ ".." → '/' ∉ name.toList → IsStep (.normal name)

theorem isStep_pieceComponent {piece : String} (kept : isNeutral piece = false)
    (noSlash : '/' ∉ piece.toList) : IsStep (pieceComponent piece) := by
  unfold pieceComponent
  split
  · exact IsStep.parent
  · rename_i other
    exact IsStep.normal kept (by simpa using other) noSlash

namespace IsStep

variable {component : Component} (step : IsStep component)
include step

theorem textPieces_text : textPieces component.text.toList = [component.text] := by
  cases step with
  | parent => decide
  | @normal name _ _ noSlash =>
      unfold textPieces Component.text
      rw [Text.fields_of_not_mem noSlash, List.map_singleton, String.ofList_toList]

theorem named_text : named [component.text] = [component] := by
  cases step with
  | parent => decide
  | @normal name kept other _ =>
      have notParent : (name == "..") = false := by simpa using other
      simp [named, Component.text, kept, pieceComponent, notParent]

theorem text_ne_nil : component.text.toList ≠ [] := by
  cases step with
  | parent => decide
  | @normal name kept _ _ =>
      intro empty
      rw [Component.text, String.toList_eq_nil_iff] at empty
      rw [empty] at kept
      cases kept

theorem text_ne_current : component.text ≠ "." := by
  cases step with
  | parent => decide
  | @normal name kept _ _ =>
      rintro rfl
      cases kept

theorem noSlash : '/' ∉ component.text.toList := by
  cases step with
  | parent => decide
  | normal _ _ noSlash => exact noSlash

end IsStep

/-- A relative path with something in it that does not end with a slash. -/
structure IsOpen (path : Path) : Prop where
  relative : path.isAbsolute = false
  nonempty : path.text.toList ≠ []
  ends : path.text.toList.getLast? ≠ some '/'

theorem IsStep.isOpen {component : Component} (step : IsStep component) :
    IsOpen ⟨component.text⟩ := by
  have noSlash := step.noSlash
  refine ⟨isAbsolute_eq_false_iff.mpr ?_, step.text_ne_nil, ?_⟩
  · intro rest same
    rw [same] at noSlash
    exact noSlash List.mem_cons_self
  · intro last
    exact noSlash (List.mem_of_getLast? last)

namespace IsOpen

theorem text_push {path : Path} (isOpen : path.IsOpen) {component : Component}
    (step : IsStep component) :
    (path.push component).text.toList = path.text.toList ++ '/' :: component.text.toList := by
  have relative := step.isOpen.relative
  have nonempty : path.text.isEmpty = false := by
    rw [String.isEmpty_eq_false_iff, ne_eq, ← String.toList_eq_nil_iff]
    exact isOpen.nonempty
  have ends : (path.text.toList.getLast? == some '/') = false := by simpa using isOpen.ends
  unfold push join
  rw [relative, nonempty, ends]
  simp

theorem push {path : Path} (isOpen : path.IsOpen) {component : Component} (step : IsStep component) :
    (path.push component).IsOpen := by
  have text := isOpen.text_push step
  refine ⟨isAbsolute_eq_false_iff.mpr ?_, ?_, ?_⟩
  · intro rest same
    rw [text] at same
    obtain ⟨first, more, split⟩ := List.exists_cons_of_ne_nil isOpen.nonempty
    rw [split, List.cons_append] at same
    exact isAbsolute_eq_false_iff.mp isOpen.relative more
      (by rw [split, (List.cons.inj same).1])
  · rw [text]
    simp
  · rw [text, List.append_cons, List.getLast?_append_of_ne_nil _ step.text_ne_nil]
    exact step.isOpen.ends

theorem components_push {path : Path} (isOpen : path.IsOpen) {component : Component}
    (step : IsStep component) :
    (path.push component).components = path.components ++ [component] := by
  rw [components_of_relative (isOpen.push step).relative, isOpen.text_push step, textPieces_append,
    relativeComponents_append (textPieces_ne_nil _), step.textPieces_text, step.named_text,
    components_of_relative isOpen.relative]

theorem foldl_push {path : Path} (isOpen : path.IsOpen) {steps : List Component}
    (all : ∀ component, component ∈ steps → IsStep component) :
    (steps.foldl Path.push path).IsOpen ∧
      (steps.foldl Path.push path).components = path.components ++ steps := by
  induction steps generalizing path with
  | nil => exact ⟨isOpen, (List.append_nil _).symm⟩
  | cons step rest ih =>
      have first := all step List.mem_cons_self
      have further := ih (isOpen.push first)
        fun component member => all component (List.mem_cons_of_mem step member)
      rw [List.foldl_cons, further.2, isOpen.components_push first, List.append_assoc,
        List.singleton_append]
      exact ⟨further.1, rfl⟩

end IsOpen

theorem isStep_of_mem_named {body : List String}
    (noSlash : ∀ piece, piece ∈ body → '/' ∉ piece.toList) {component : Component} (member : component ∈ named body) : IsStep component := by
  obtain ⟨piece, known, kept, rfl⟩ := (mem_named_iff component body).mp member
  exact isStep_pieceComponent kept (noSlash piece known)

theorem not_mem_of_mem_textPieces {text : List Char} {piece : String}
    (member : piece ∈ textPieces text) : '/' ∉ piece.toList := by
  obtain ⟨field, known, rfl⟩ := List.mem_map.mp member
  rw [String.toList_ofList]
  exact Text.not_mem_of_mem_fields text field known

/-- A path that is written for first components of a relative path has these components. -/
theorem components_ofComponents {pieces : List String}
    (noSlash : ∀ piece, piece ∈ pieces → '/' ∉ piece.toList)
    (nonempty : relativeComponents pieces ≠ []) :
    (ofComponents (relativeComponents pieces)).isAbsolute = false ∧
      (ofComponents (relativeComponents pieces)).components = relativeComponents pieces := by
  obtain ⟨first, rest, split⟩ := List.exists_cons_of_ne_nil nonempty
  have opens : IsOpen ⟨first.text⟩ ∧ Path.components ⟨first.text⟩ = [first] ∧
      ∀ component, component ∈ rest → IsStep component := by
    cases pieces with
    | nil => cases split
    | cons piece body =>
        have bodySteps : ∀ component, component ∈ named body → IsStep component :=
          fun component => isStep_of_mem_named
            fun other member => noSlash other (List.mem_cons_of_mem piece member)
        by_cases current : piece = "."
        · subst current
          rw [relativeComponents_current] at split
          obtain ⟨rfl, rfl⟩ := List.cons.inj split
          exact ⟨⟨by decide, by decide, by decide⟩, by decide, bodySteps⟩
        · rw [relativeComponents_other current] at split
          have steps : ∀ component, component ∈ first :: rest → IsStep component :=
            fun component member => isStep_of_mem_named noSlash (split ▸ member)
          have step := steps first List.mem_cons_self
          refine ⟨step.isOpen, ?_, fun component member =>
            steps component (List.mem_cons_of_mem first member)⟩
          rw [components_of_relative step.isOpen.relative, step.textPieces_text,
            relativeComponents_other step.text_ne_current, step.named_text]
  obtain ⟨isOpen, same, steps⟩ := opens
  have started : ofComponents (first :: rest) = rest.foldl push ⟨first.text⟩ := by
    unfold ofComponents
    rw [List.foldl_cons]
    simp [push, join]
  have pushed := isOpen.foldl_push steps
  rw [split, started, pushed.2, same]
  exact ⟨pushed.1.relative, rfl⟩

end Waymark.Path
