import SourceTally.Proofs.FileTree.RealPath

/- Real paths of real paths. Where no loop of links is on the way, chasing ends at a place that is not
   behind a link, and the real path is its own. A loop stops the chase, and the rest of the path is
   kept as it stands; dots in this rest may lead out again, to a place behind some other link, and
   what is then taken for the real path has a real path of its own. -/
namespace SourceTally.FileTree

/-- Neither the place nor any folder above it is a link. -/
def Linkless (root : Node) (place : Location) : Prop :=
  ∀ above target, above <+: place → root.at? above ≠ some (.link target)

variable {root : Node} {place : Location} {t : FileTree}

theorem linkless_of_folder {entries : List (String × Node)}
    (there : root.at? place = some (.folder entries)) : Linkless root place := by
  rintro above target ⟨rest, rfl⟩ link
  rw [Node.at?_append, link] at there
  cases rest with
  | nil => cases there
  | cons name rest => cases there

theorem linkless_nil (clear : Linkless root place) : Linkless root [] := by
  intro above target front
  exact clear above target (front.trans (List.nil_prefix))

theorem linkless_up (clear : Linkless root place) : Linkless root place.dropLast := by
  intro above target front
  exact clear above target (front.trans (List.dropLast_prefix place))

theorem linkless_step {part : String} (clear : Linkless root place)
    (solid : ∀ target, root.at? (place ++ [part]) ≠ some (.link target)) :
    Linkless root (place ++ [part]) := by
  intro above target front
  rcases List.prefix_concat_iff.mp front with same | higher
  · exact same ▸ solid target
  · exact clear above target higher

theorem linkless_origin (clear : Linkless root place) (target : String) :
    Linkless root (origin place target) := by
  unfold origin
  split
  · exact linkless_nil clear
  · exact clear

theorem chase_linkless {fuel : Nat} {active : List Spot} {spot : Spot} {parts : List String}
    (regular : spot.Regular) (clear : Linkless t.root (spot.location t.here))
    (free : (chase t fuel active spot parts).1 = true) :
    (chase t fuel active spot parts).2.Regular ∧
      Linkless t.root ((chase t fuel active spot parts).2.location t.here) := by
  fun_induction chase t fuel active spot parts with
  | case1 => exact ⟨regular, clear⟩
  | case2 fuel active spot part rest blank ih => exact ih regular clear free
  | case3 fuel active spot rest dots ih =>
    have above := linkless_up clear
    rw [← Spot.location_up t.here regular] at above
    exact ih (Spot.regular_up regular) above free
  | case4 => cases free
  | case5 => cases free
  | case6 active spot part rest named lower next target link unmet less reached chased ihInner
      ihLater =>
    -- the inner chase starts beside the link, and the outer one goes on from its end
    have start := linkless_origin clear target
    rw [← Spot.location_origin rfl target] at start
    have inner := ihInner (Spot.regular_origin regular target) start (by rw [chased])
    rw [chased] at inner
    exact ihLater inner.1 inner.2 free
  | case7 => cases free
  | case8 fuel active spot part rest named lower next unlinked ih =>
    have step := isStep_iff.mpr ⟨named, lower⟩
    have below := Spot.location_step t.here spot step
    refine ih (Spot.regular_step regular step) ?_ free
    show Linkless t.root (Spot.location t.here { spot with names := spot.names ++ [part] })
    rw [below]
    apply linkless_step clear
    intro target link
    exact unlinked target (below ▸ link)

theorem chase_straight {fuel : Nat} {active : List Spot} {names : List String} {spot : Spot}
    (steps : ∀ name ∈ names, IsStep name)
    (clear : Linkless t.root (spot.location t.here ++ names)) :
    chase t fuel active spot names = (true, { spot with names := spot.names ++ names }) := by
  induction names generalizing spot with
  | nil =>
    rw [chase]
    simp
  | cons part names ih =>
    obtain ⟨step, later⟩ := List.forall_mem_cons.mp steps
    have below := Spot.location_step t.here spot step
    have joined : spot.location t.here ++ part :: names =
        Spot.location t.here { spot with names := spot.names ++ [part] } ++ names := by
      rw [below, List.append_assoc, List.singleton_append]
    rw [chase_down step, ih later (joined ▸ clear)]
    · simp
    · intro target link
      rw [joined] at clear
      exact clear _ target (List.prefix_append _ names) link

theorem literal_of_steps {names : List String} (steps : ∀ name ∈ names, IsStep name) :
    names.foldl literalStep place = place ++ names := by
  induction names generalizing place with
  | nil => simp
  | cons part names ih =>
    obtain ⟨step, later⟩ := List.forall_mem_cons.mp steps
    obtain ⟨named, lower⟩ := isStep_iff.mp step
    rw [List.foldl_cons, ih later, literalStep, if_neg named, if_neg lower]
    simp

/-- No loop of links is met on the way along a path. -/
def isLoopFree (t : FileTree) (p : Path) : Bool :=
  (chase t t.chaseFuel [] ⟨p.anchor ≠ .relative, []⟩ p.names).1

theorem isLoopFree_of_find {p : Path} {n : Node} (normal : p.Normal)
    (found : t.find p.text = .ok (place, n)) : t.isLoopFree p = true := by
  obtain ⟨reached, chased, _⟩ := chase_of_find normal found
  rw [isLoopFree, chased]

theorem not_isFolder_of_loop {p : Path} (normal : p.Normal) (looped : t.isLoopFree p = false) :
    t.isFolder p.text = false := by
  cases found : t.find p.text with
  | ok reached =>
    rw [isLoopFree_of_find normal found] at looped
    cases looped
  | error e => simp [isFolder, found]

theorem realLocation_linkless {p : Path} (free : t.isLoopFree p = true)
    (clear : Linkless t.root t.here) : Linkless t.root (t.realLocation p) := by
  refine (chase_linkless (by simp [Spot.Regular]) ?_ free).2
  unfold Spot.location
  simp only [List.foldl_nil]
  split
  · exact linkless_nil clear
  · exact clear

theorem realLocation_absolute (steps : ∀ name ∈ place, IsStep name)
    (clear : Linkless t.root place) : t.realLocation (Path.absolute place) = place := by
  have begun : Spot.location t.here ⟨true, []⟩ = [] := rfl
  have chased : chase t t.chaseFuel [] ⟨true, []⟩ place = (true, ⟨true, place⟩) :=
    chase_straight steps (by rwa [begun])
  show (chase t t.chaseFuel [] ⟨true, []⟩ place).2.location t.here = place
  rw [chased]
  exact literal_of_steps steps

theorem resolve_again {p real : Path} {entries : List (String × Node)}
    (working : t.root.at? t.here = some (.folder entries)) (normal : p.Normal)
    (free : t.isLoopFree p = true) (resolved : t.resolve p = .ok real) :
    t.resolve real = .ok real := by
  obtain ⟨_, names⟩ := resolve_names (fun name member => (normal name member).2) resolved
  have same := eq_of_resolve resolved
  have steps : ∀ name ∈ t.realLocation p, IsStep name := by
    intro name member
    rw [same] at names
    exact (names name member).1
  have clear := realLocation_linkless free (linkless_of_folder working)
  calc t.resolve real
    _ = t.resolve p := by
      rw [same]
      simp only [resolve, realLocation_absolute steps clear]
    _ = .ok real := resolved

end SourceTally.FileTree
