import Mathlib.Data.List.Basic
import SourceTally.FileTree.Basic
import SourceTally.Proofs.Path

/- Ways through a file tree. Looking a path up follows at most so many links; a way is what such a
   look-up did when it succeeded, with the parts of each link's target as a way of their own inside
   it. There is one way at most along a path, and it follows a definite number of links. -/
namespace SourceTally

namespace Node

theorem at?_append (n : Node) (first second : Location) :
    n.at? (first ++ second) = (n.at? first).bind (·.at? second) := by
  induction first generalizing n with
  | nil => rfl
  | cons name first ih =>
    cases n with
    | file bytes => rfl
    | link target => rfl
    | folder entries =>
      simp only [List.cons_append, at?]
      cases Assoc.get? entries name with
      | none => rfl
      | some m => exact ih m

theorem at?_child {n : Node} {place : Location} {entries : List (String × Node)}
    (there : n.at? place = some (.folder entries)) (name : String) :
    n.at? (place ++ [name]) = Assoc.get? entries name := by
  rw [at?_append, there]
  simp only [Option.bind_some, at?]
  cases Assoc.get? entries name <;> rfl

mutual

def linkPlaces : Node → List Location
  | folder entries => linkPlacesOfEntries entries
  | link _ => [[]]
  | file _ => []

def linkPlacesOfEntries : List (String × Node) → List Location
  | [] => []
  | (name, n) :: rest => n.linkPlaces.map (name :: ·) ++ linkPlacesOfEntries rest

end

mutual

theorem length_linkPlaces : ∀ n : Node, n.linkPlaces.length = n.linkCount
  | folder entries => length_linkPlacesOfEntries entries
  | link _ => rfl
  | file _ => rfl

theorem length_linkPlacesOfEntries : ∀ entries : List (String × Node),
    (linkPlacesOfEntries entries).length = linkCountOfEntries entries
  | [] => rfl
  | (name, n) :: rest => by
    rw [linkPlacesOfEntries, List.length_append, List.length_map, length_linkPlaces n,
      length_linkPlacesOfEntries rest, linkCountOfEntries]

end

theorem mem_linkPlacesOfEntries {entries : List (String × Node)} {name : String} {n : Node}
    {place : Location} (found : Assoc.get? entries name = some n)
    (member : place ∈ n.linkPlaces) : name :: place ∈ linkPlacesOfEntries entries := by
  induction entries with
  | nil => cases found
  | cons entry rest ih =>
    obtain ⟨first, m⟩ := entry
    rw [linkPlacesOfEntries, List.mem_append]
    by_cases same : first = name
    · have equal : m = n := by simpa [Assoc.get?, same] using found
      left
      rw [same, equal]
      exact List.mem_map_of_mem member
    · right
      apply ih
      simpa [Assoc.get?, same] using found

theorem mem_linkPlaces {n : Node} {place : Location} {target : String}
    (there : n.at? place = some (.link target)) : place ∈ n.linkPlaces := by
  induction place generalizing n with
  | nil =>
    cases there
    simp [linkPlaces]
  | cons name rest ih =>
    cases n with
    | file bytes => cases there
    | link target => cases there
    | folder entries =>
      obtain ⟨m, found, below⟩ := Option.bind_eq_some_iff.mp there
      exact mem_linkPlacesOfEntries found (ih below)

theorem length_le_linkCount {n : Node} {places : List Location} (distinct : places.Nodup)
    (links : ∀ place ∈ places, ∃ target, n.at? place = some (.link target)) :
    places.length ≤ n.linkCount := by
  have subset : places ⊆ n.linkPlaces := by
    intro place member
    obtain ⟨target, there⟩ := links place member
    exact mem_linkPlaces there
  have bound := distinct.length_le_of_subset subset
  rwa [length_linkPlaces] at bound

end Node

namespace FileTree

def origin (place : Location) (target : String) : Location :=
  if startsAtRoot target then [] else place

/-- The way from a place along parts of a path to another place, with the number of links that it
    follows. -/
inductive Way (root : Node) : Location → List String → Nat → Location → Prop where
  | done (place : Location) : Way root place [] 0 place
  | stay {place last entries part rest links} (folder : root.at? place = some (.folder entries))
      (blank : part = "" ∨ part = ".") (later : Way root place rest links last) :
      Way root place (part :: rest) links last
  | up {place last entries rest links} (folder : root.at? place = some (.folder entries))
      (later : Way root place.dropLast rest links last) :
      Way root place (".." :: rest) links last
  | down {place last entries part rest links n} (folder : root.at? place = some (.folder entries))
      (step : IsStep part) (found : Assoc.get? entries part = some n)
      (solid : ∀ target, n ≠ .link target) (later : Way root (place ++ [part]) rest links last) :
      Way root place (part :: rest) links last
  | follow {place middle last entries part rest inside outside target}
      (folder : root.at? place = some (.folder entries)) (step : IsStep part)
      (found : Assoc.get? entries part = some (.link target))
      (inner : Way root (origin place target) (pathParts target) inside middle)
      (later : Way root middle rest outside last) :
      Way root place (part :: rest) (inside + outside + 1) last

variable {root : Node} {place last last' : Location} {parts : List String} {used used' : Nat}

theorem way_append_inv {first second : List String}
    (way : Way root place (first ++ second) used last) :
    ∃ inside outside middle, Way root place first inside middle ∧
      Way root middle second outside last ∧ used = inside + outside := by
  induction first generalizing place used with
  | nil => exact ⟨0, used, place, .done place, way, by omega⟩
  | cons part first ih =>
    cases way with
    | stay folder blank later =>
      obtain ⟨inside, outside, middle, front, back, total⟩ := ih later
      exact ⟨inside, outside, middle, .stay folder blank front, back, total⟩
    | up folder later =>
      obtain ⟨inside, outside, middle, front, back, total⟩ := ih later
      exact ⟨inside, outside, middle, .up folder front, back, total⟩
    | down folder step found solid later =>
      obtain ⟨inside, outside, middle, front, back, total⟩ := ih later
      exact ⟨inside, outside, middle, .down folder step found solid front, back, total⟩
    | @follow _ _ _ _ _ _ within _ _ folder step found inner later =>
      obtain ⟨inside, outside, middle, front, back, total⟩ := ih later
      exact ⟨within + inside + 1, outside, middle, .follow folder step found inner front, back,
        by omega⟩

theorem way_unique (first : Way root place parts used last)
    (second : Way root place parts used' last') : used = used' ∧ last = last' := by
  induction first generalizing used' last' with
  | done place =>
    cases second
    exact ⟨rfl, rfl⟩
  | stay folder blank later ih =>
    cases second with
    | stay folder' blank' later' => exact ih later'
    | up => simp at blank
    | down folder' step found solid later' => exact absurd blank (by simp [step.1, step.2.1])
    | follow folder' step found inner later' => exact absurd blank (by simp [step.1, step.2.1])
  | up folder later ih =>
    cases second with
    | stay folder' blank later' => simp at blank
    | up folder' later' => exact ih later'
    | down folder' step found solid later' => exact absurd rfl step.2.2
    | follow folder' step found inner later' => exact absurd rfl step.2.2
  | down folder step found solid later ih =>
    cases second with
    | stay folder' blank later' => exact absurd blank (by simp [step.1, step.2.1])
    | up => exact absurd rfl step.2.2
    | down folder' step' found' solid' later' => exact ih later'
    | follow folder' step' found' inner later' =>
      rw [folder] at folder'
      cases folder'
      rw [found] at found'
      exact absurd (Option.some.inj found') (solid _)
  | follow folder step found inner later ihInner ihLater =>
    cases second with
    | stay folder' blank later' => exact absurd blank (by simp [step.1, step.2.1])
    | up => exact absurd rfl step.2.2
    | down folder' step' found' solid later' =>
      rw [folder] at folder'
      cases folder'
      rw [found] at found'
      exact absurd (Option.some.inj found').symm (solid _)
    | follow folder' step' found' inner' later' =>
      rw [folder] at folder'
      cases folder'
      rw [found] at found'
      cases found'
      obtain ⟨insides, rfl⟩ := ihInner inner'
      obtain ⟨outsides, lasts⟩ := ihLater later'
      exact ⟨by omega, lasts⟩

/-- A look-up that succeeds has found a way, and followed no more links than it may. -/
theorem way_of_go {links : Nat} {n : Node} (success : go root true links place parts = .ok (last, n)) :
    root.at? last = some n ∧ ∃ used, used ≤ links ∧ Way root place parts used last := by
  fun_induction go root true links place parts with
  | case1 links place parts missing => cases success
  | case2 links place m there =>
    cases success
    exact ⟨there, 0, by omega, .done _⟩
  | case3 links place part rest entries folder blank ih =>
    obtain ⟨there, used, bound, later⟩ := ih success
    exact ⟨there, used, bound, .stay folder (by simpa using blank) later⟩
  | case4 links place rest entries folder dots ih =>
    obtain ⟨there, used, bound, later⟩ := ih success
    exact ⟨there, used, bound, .up folder later⟩
  | case5 => cases success
  | case6 place part rest entries folder _ _ target links found stopped => simp at stopped
  | case7 => cases success
  | case8 place part rest entries folder named lower target found _ links ih =>
    obtain ⟨there, used, bound, joined⟩ := ih success
    obtain ⟨inside, outside, middle, inner, later, total⟩ := way_append_inv joined
    have step := isStep_iff.mpr ⟨named, lower⟩
    exact ⟨there, inside + outside + 1, by omega, .follow folder step found inner later⟩
  | case9 place part rest entries folder named lower m links solid found ih =>
    obtain ⟨there, used, bound, later⟩ := ih success
    have step := isStep_iff.mpr ⟨named, lower⟩
    exact ⟨there, used, bound, .down folder step found solid later⟩
  | case10 => cases success

theorem go_of_lead {follow : Bool} {links : Nat} {entries : List (String × Node)}
    {lead : List String} (folder : root.at? place = some (.folder entries))
    (blank : ∀ part ∈ lead, part = "" ∨ part = ".") :
    go root follow links place (lead ++ parts) = go root follow links place parts := by
  induction lead with
  | nil => rfl
  | cons part lead ih =>
    have first := blank part (by simp)
    have later := ih fun other member => blank other (by simp [member])
    rw [← later, List.cons_append]
    conv_lhs => unfold go
    rw [folder]
    simp only
    rw [if_pos (by simpa using first)]

theorem go_of_at? {follow : Bool} {links : Nat} {names : Location} {n : Node}
    (steps : ∀ name ∈ names, IsStep name) (there : root.at? (place ++ names) = some n)
    (solid : ∀ target, n ≠ .link target) :
    go root follow links place names = .ok (place ++ names, n) := by
  induction names generalizing place with
  | nil =>
    rw [List.append_nil] at there ⊢
    unfold go
    rw [there]
  | cons name names ih =>
    have joined : place ++ name :: names = (place ++ [name]) ++ names := by simp
    obtain ⟨m, above, below⟩ := Option.bind_eq_some_iff.mp
      ((Node.at?_append root place (name :: names)).symm.trans there)
    cases m with
    | file bytes => cases below
    | link target => cases below
    | folder entries =>
      obtain ⟨child, found, rest⟩ := Option.bind_eq_some_iff.mp below
      have unlinked : ∀ target, child ≠ .link target := by
        rintro target rfl
        cases names with
        | nil => exact solid target (Option.some.inj rest).symm
        | cons _ _ => cases rest
      obtain ⟨named, lower⟩ := isStep_iff.mp (steps name (by simp))
      have later := ih (fun other member => steps other (by simp [member])) (joined ▸ there)
      unfold go
      rw [above]
      simp only [if_neg named, if_neg lower, found]
      cases child with
      | link target => exact absurd rfl (unlinked target)
      | file bytes => rw [later, joined]
      | folder entries => rw [later, joined]

end FileTree

end SourceTally
