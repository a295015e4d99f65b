import Mathlib.Data.List.Basic
import SourceTally.Path

/- Paths and their texts. A text is cut into parts at its slashes, and parts without slashes are got
   back from the text that joins them; so a path in normal form is given by its anchor and its
   text. -/
namespace SourceTally

theorem pathParts_intercalate {name : String} {names : List String}
    (clean : ∀ n ∈ name :: names, Unslashed n) :
    pathParts ("/".intercalate (name :: names)) = name :: names := by
  have cut : Text.split '/' (['/'].intercalate ((name :: names).map String.toList)) =
      (name :: names).map String.toList := by
    apply Text.split_intercalate
    intro p member
    rw [← List.map_cons] at member
    obtain ⟨n, there, same⟩ := List.mem_map.mp member
    exact same ▸ clean n there
  have slash : "/".toList = ['/'] := rfl
  rw [pathParts, String.toList_intercalate, slash, cut, List.map_map]
  simp [Function.comp_def]

theorem pathParts_slash (text : String) : pathParts ("/" ++ text) = "" :: pathParts text := by
  rw [pathParts, String.toList_append]
  show (Text.split '/' ('/' :: text.toList)).map String.ofList = _
  simp [Text.split, pathParts]

namespace Path

/-- A path whose names are the parts of its text, apart from empty ones and dots. -/
def Normal (p : Path) : Prop := ∀ name ∈ p.names, isName name = true ∧ Unslashed name

theorem ofText_normal (text : String) : (ofText text).Normal := by
  intro name member
  obtain ⟨part, proper⟩ := List.mem_filter.mp member
  exact ⟨proper, pathParts_unslashed text name part⟩

theorem pathParts_text {p : Path} (normal : p.Normal) :
    ∃ lead, (∀ part ∈ lead, part = "" ∨ part = ".") ∧ pathParts p.text = lead ++ p.names := by
  obtain ⟨anchor, names⟩ := p
  have empty : pathParts "" = [""] := by decide
  have dot : pathParts "." = ["."] := by decide
  cases names with
  | nil =>
    cases anchor with
    | relative => exact ⟨["."], by simp, dot⟩
    | root =>
      refine ⟨["", ""], by simp, ?_⟩
      show pathParts ("/" ++ "") = _
      rw [pathParts_slash, empty]
      rfl
    | doubleRoot =>
      refine ⟨["", "", ""], by simp, ?_⟩
      show pathParts ("/" ++ ("/" ++ "")) = _
      rw [pathParts_slash, pathParts_slash, empty]
      rfl
  | cons name names =>
    have joined := pathParts_intercalate fun n member => (normal n member).2
    cases anchor with
    | relative =>
      refine ⟨[], by simp, ?_⟩
      show pathParts ("" ++ "/".intercalate (name :: names)) = _
      rw [String.empty_append, joined, List.nil_append]
    | root =>
      refine ⟨[""], by simp, ?_⟩
      show pathParts ("/" ++ "/".intercalate (name :: names)) = _
      rw [pathParts_slash, joined]
      rfl
    | doubleRoot =>
      have twice : "//" = "/" ++ "/" := rfl
      refine ⟨["", ""], by simp, ?_⟩
      show pathParts ("//" ++ "/".intercalate (name :: names)) = _
      rw [twice, String.append_assoc, pathParts_slash, pathParts_slash, joined]
      rfl

theorem names_of_text {p : Path} (normal : p.Normal) :
    (pathParts p.text).filter isName = p.names := by
  obtain ⟨lead, blank, cut⟩ := pathParts_text normal
  have dropped : lead.filter isName = [] := by
    apply List.filter_eq_nil_iff.mpr
    intro part member
    rcases blank part member with same | same <;> simp [same, isName]
  have kept : p.names.filter isName = p.names :=
    List.filter_eq_self.mpr fun name member => (normal name member).1
  rw [cut, List.filter_append, dropped, kept, List.nil_append]

theorem text_injective {p q : Path} (left : p.Normal) (right : q.Normal)
    (anchored : p.anchor = q.anchor) (same : p.text = q.text) : p = q := by
  have names : p.names = q.names := by
    rw [← names_of_text left, ← names_of_text right, same]
  cases p
  cases q
  simp_all

theorem head_of_joined {name : String} (names : List String) (proper : isName name = true)
    (clean : Unslashed name) :
    ∃ c, c ≠ '/' ∧ ("/".intercalate (name :: names)).toList.head? = some c := by
  have filled : name.toList ≠ [] := by
    intro empty
    rw [String.toList_eq_nil_iff.mp empty] at proper
    exact absurd proper (by decide)
  obtain ⟨c, cs, shape⟩ := List.exists_cons_of_ne_nil filled
  refine ⟨c, ?_, ?_⟩
  · intro slash
    exact clean (by simp [shape, slash])
  · rw [String.toList_intercalate]
    cases names <;> simp [shape, List.intercalate_cons_cons]

theorem startsAtRoot_text {p : Path} (normal : p.Normal) :
    startsAtRoot p.text = decide (p.anchor ≠ .relative) := by
  obtain ⟨anchor, names⟩ := p
  cases anchor with
  | relative =>
    cases names with
    | nil => decide
    | cons name names =>
      obtain ⟨proper, clean⟩ := normal name (by simp)
      obtain ⟨c, other, start⟩ := head_of_joined names proper clean
      show decide (("" ++ "/".intercalate (name :: names)).toList.head? = some '/') = false
      rw [String.empty_append, start]
      simp [other]
  | root =>
    show decide (("/" ++ "/".intercalate names).toList.head? = some '/') = true
    rw [String.toList_append]
    rfl
  | doubleRoot =>
    show decide (("//" ++ "/".intercalate names).toList.head? = some '/') = true
    rw [String.toList_append]
    rfl

theorem ofText_text {p : Path} (normal : p.Normal) (anchored : p.anchor = .root) :
    ofText p.text = p := by
  have names := names_of_text normal
  obtain ⟨anchor, parts⟩ := p
  subst anchored
  have start : Anchor.ofChars (text ⟨.root, parts⟩).toList = .root := by
    show Anchor.ofChars ("/" ++ "/".intercalate parts).toList = .root
    rw [String.toList_append]
    cases parts with
    | nil => rfl
    | cons name parts =>
      obtain ⟨proper, clean⟩ := normal name (by simp)
      obtain ⟨c, other, head⟩ := head_of_joined parts proper clean
      obtain ⟨cs, shape⟩ := List.head?_eq_some_iff.mp head
      rw [shape]
      show Anchor.ofChars ('/' :: c :: cs) = .root
      simp [Anchor.ofChars, other]
  simp only [ofText, start, names]

end Path

end SourceTally
