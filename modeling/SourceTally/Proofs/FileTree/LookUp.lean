import SourceTally.Proofs.FileTree.Way

/- Looking a path up and going on from there. A look-up along names that were added to a path starts
   where the look-up of the path ended, with the links that are left; along entries that are no links
   it follows none, so it cannot run out of them. -/
namespace SourceTally

namespace Path

def below (p : Path) (names : List String) : Path := { p with names := p.names ++ names }

theorem below_nil (p : Path) : p.below [] = p := by simp [below]

theorem child_below (p : Path) (name : String) (names : List String) :
    (p.child name).below names = p.below (name :: names) := by
  simp [below, child]

theorem below_child (p : Path) (names : List String) (name : String) :
    (p.below names).child name = p.below (names ++ [name]) := by
  simp [below, child]

theorem text_ne_empty {p : Path} (normal : p.Normal) : p.text ≠ "" := by
  obtain ⟨anchor, names⟩ := p
  intro empty
  cases anchor with
  | root => simpa [text, Anchor.text] using congrArg String.toList empty
  | doubleRoot => simpa [text, Anchor.text] using congrArg String.toList empty
  | relative =>
    cases names with
    | nil => exact absurd empty (by decide)
    | cons name names =>
      have joined : "/".intercalate (name :: names) = "" := String.empty_append.symm.trans empty
      have cut := pathParts_intercalate fun n member => (normal n member).2
      have blank : pathParts "" = [""] := by decide
      rw [joined, blank] at cut
      exact absurd (normal name (by simp)).1 (by rw [← (List.cons.inj cut).1]; decide)

end Path

namespace FileTree

variable {t : FileTree} {place : Location}

theorem go_append {root n : Node} {links : Nat} {first : List String} {middle : Location}
    (reached : go root true links place first = .ok (middle, n)) :
    ∃ left, ∀ second, go root true links place (first ++ second) =
      go root true left middle second := by
  fun_induction go root true links place first with
  | case1 => cases reached
  | case2 links place m there =>
    cases reached
    exact ⟨links, fun second => rfl⟩
  | case3 links place part rest entries folder blank ih =>
    obtain ⟨left, later⟩ := ih reached
    refine ⟨left, fun second => ?_⟩
    rw [← later, List.cons_append]
    conv_lhs => unfold go
    simp only [folder, if_pos blank]
  | case4 links place rest entries folder dots ih =>
    obtain ⟨left, later⟩ := ih reached
    refine ⟨left, fun second => ?_⟩
    rw [← later, List.cons_append]
    conv_lhs => unfold go
    simp only [folder, if_neg dots, if_true]
  | case5 => cases reached
  | case6 place part rest entries folder _ _ target links found stopped => simp at stopped
  | case7 => cases reached
  | case8 place part rest entries folder named lower target found _ links ih =>
    obtain ⟨left, later⟩ := ih reached
    refine ⟨left, fun second => ?_⟩
    rw [← later, List.cons_append, List.append_assoc]
    have onward : ¬((rest ++ second).isEmpty && !true) = true := by simp
    conv_lhs => unfold go
    simp only [folder, if_neg named, if_neg lower, found, if_neg onward, dite_eq_ite]
  | case9 place part rest entries folder named lower m links solid found ih =>
    obtain ⟨left, later⟩ := ih reached
    refine ⟨left, fun second => ?_⟩
    rw [← later, List.cons_append]
    conv_lhs => unfold go
    simp only [folder, if_neg named, if_neg lower, found]
  | case10 => cases reached

theorem folder_of_go {parts : List String} {root n : Node} {follow : Bool} {links : Nat} {last : Location}
    (filled : parts ≠ []) (success : go root follow links place parts = .ok (last, n)) :
    ∃ entries, root.at? place = some (.folder entries) := by
  obtain ⟨first, rest, rfl⟩ := List.exists_cons_of_ne_nil filled
  unfold go at success
  cases there : root.at? place with
  | none => simp [there] at success
  | some m =>
    cases m with
    | folder entries => exact ⟨entries, rfl⟩
    | file bytes => simp [there] at success
    | link target => simp [there] at success

theorem start_below {p : Path} (normal : p.Normal) {names : List String}
    (below : (p.below names).Normal) : t.start (p.below names).text = t.start p.text := by
  rw [start, start, Path.startsAtRoot_text normal, Path.startsAtRoot_text below]
  rfl

theorem find_eq_go {p : Path} (normal : p.Normal) {entries : List (String × Node)}
    (folder : t.root.at? (t.start p.text) = some (.folder entries)) :
    t.find p.text = go t.root true linkLimit (t.start p.text) p.names := by
  obtain ⟨lead, blank, cut⟩ := Path.pathParts_text normal
  rw [find, findWith, if_neg (Path.text_ne_empty normal), cut, go_of_lead folder blank]

theorem go_of_find {p : Path} {n : Node} (normal : p.Normal)
    (found : t.find p.text = .ok (place, n)) :
    ∃ entries, t.root.at? (t.start p.text) = some (.folder entries) ∧
      go t.root true linkLimit (t.start p.text) p.names = .ok (place, n) := by
  have filled : pathParts p.text ≠ [] := by
    simp [pathParts, Text.split_ne_nil]
  have looked := found
  rw [find, findWith, if_neg (Path.text_ne_empty normal)] at looked
  obtain ⟨entries, folder⟩ := folder_of_go filled looked
  exact ⟨entries, folder, find_eq_go normal folder ▸ found⟩

theorem at?_of_find {p : Path} {n : Node} (normal : p.Normal)
    (found : t.find p.text = .ok (place, n)) : t.root.at? place = some n := by
  obtain ⟨_, _, reached⟩ := go_of_find normal found
  exact (way_of_go reached).1

theorem below_normal {p : Path} {names : List String} (normal : p.Normal)
    (entered : ∀ name ∈ names, IsEntryName name) : (p.below names).Normal := by
  intro name member
  rcases List.mem_append.mp member with earlier | added
  · exact normal name earlier
  · obtain ⟨step, clean⟩ := entered name added
    exact ⟨by simp [Path.isName, step.1, step.2.1], clean⟩

theorem find_below {p : Path} {names : List String} {n m : Node} (normal : p.Normal)
    (found : t.find p.text = .ok (place, n)) (entered : ∀ name ∈ names, IsEntryName name)
    (there : t.root.at? (place ++ names) = some m) (solid : ∀ target, m ≠ .link target) :
    t.find (p.below names).text = .ok (place ++ names, m) := by
  have below := below_normal normal entered
  obtain ⟨entries, folder, reached⟩ := go_of_find normal found
  obtain ⟨left, onward⟩ := go_append reached
  have started := start_below (t := t) normal below
  calc t.find (p.below names).text
    _ = go t.root true linkLimit (t.start p.text) (p.names ++ names) := by
      rw [find_eq_go below (started ▸ folder), started]
      rfl
    _ = go t.root true left place names := onward names
    _ = .ok (place ++ names, m) :=
      go_of_at? (fun name member => (entered name member).1) there solid

end FileTree

end SourceTally
