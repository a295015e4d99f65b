import SourceTally.FileTree.Resolve
import SourceTally.Proofs.FileTree.LookUp

/- The real path of what a path leads to. Chasing links part by part stops at a link that is being
   followed already, and a look-up that succeeds never comes back to such a link: inside the way
   along its target there would be a second way along it, which follows fewer links. So the chase
   ends where the look-up does. -/
namespace SourceTally.FileTree

namespace Spot

def Regular (s : Spot) : Prop :=
  ∀ name ∈ s.names, name ≠ "" ∧ name ≠ "." ∧ (s.fromRoot = true → name ≠ "..")

theorem location_step (here : Location) (s : Spot) {part : String} (step : IsStep part) :
    location here { s with names := s.names ++ [part] } = s.location here ++ [part] := by
  simp only [location, List.foldl_append, List.foldl_cons, List.foldl_nil]
  rw [literalStep, if_neg (by simp [step.1, step.2.1]), if_neg step.2.2]

theorem regular_step {s : Spot} (regular : s.Regular) {part : String} (step : IsStep part) :
    Regular { s with names := s.names ++ [part] } := by
  intro name member
  rcases List.mem_append.mp member with earlier | added
  · exact regular name earlier
  · rw [List.mem_singleton.mp added]
    exact ⟨step.1, step.2.1, fun _ => step.2.2⟩

theorem location_dots (here : Location) (s : Spot) :
    location here { s with names := s.names ++ [".."] } = (s.location here).dropLast := by
  simp [location, literalStep]

theorem location_up (here : Location) {s : Spot} (regular : s.Regular) :
    s.up.location here = (s.location here).dropLast := by
  obtain ⟨fromRoot, names⟩ := s
  rcases List.eq_nil_or_concat names with rfl | ⟨init, name, rfl⟩
  · cases fromRoot <;> simp [up, location, literalStep]
  · have last := regular name (by simp)
    have shorter : ∀ dotted : IsStep name,
        location here ⟨fromRoot, init⟩ = (location here ⟨fromRoot, init ++ [name]⟩).dropLast := by
      intro step
      rw [location_step here ⟨fromRoot, init⟩ step, List.dropLast_concat]
    cases fromRoot with
    | true => simpa [up] using shorter ⟨last.1, last.2.1, last.2.2 rfl⟩
    | false =>
      by_cases dots : name = ".."
      · simpa [up, dots] using location_dots here ⟨false, init ++ [name]⟩
      · simpa [up, dots] using shorter ⟨last.1, last.2.1, dots⟩

theorem regular_up {s : Spot} (regular : s.Regular) : s.up.Regular := by
  obtain ⟨fromRoot, names⟩ := s
  rcases List.eq_nil_or_concat names with rfl | ⟨init, name, rfl⟩
  · cases fromRoot <;> simp [up, Regular]
  · have shorter : Regular ⟨fromRoot, init⟩ := by
      intro other member
      exact regular other (by simp [member])
    cases fromRoot with
    | true => simpa [up] using shorter
    | false =>
      by_cases dots : name = ".."
      · have dotted : Regular ⟨false, init ++ [name] ++ [".."]⟩ := by
          intro other member
          rcases List.mem_append.mp member with earlier | added
          · exact regular other (by simpa using earlier)
          · rw [List.mem_singleton.mp added]
            exact ⟨by decide, by decide, by simp⟩
        simpa [up, dots] using dotted
      · simpa [up, dots] using shorter

theorem location_origin {here place : Location} {s : Spot} (located : s.location here = place)
    (target : String) :
    location here (if startsAtRoot target then ⟨true, []⟩ else s) = origin place target := by
  rw [origin]
  split
  · rfl
  · exact located

theorem regular_origin {s : Spot} (regular : s.Regular) (target : String) :
    Regular (if startsAtRoot target then ⟨true, []⟩ else s) := by
  split
  · simp [Regular]
  · exact regular

end Spot

variable {t : FileTree}

/-- The links that are being followed lie at different places, and the way along each of them
    follows more links than are followed from here on. -/
structure Pending (t : FileTree) (active : List Spot) (used : Nat) : Prop where
  distinct : (active.map (·.location t.here)).Nodup
  links : ∀ spot ∈ active, ∃ target, t.root.at? (spot.location t.here) = some (.link target)
  longer : ∀ spot ∈ active, ∃ place part total last, spot.location t.here = place ++ [part] ∧
    Way t.root place [part] total last ∧ used < total

theorem pending_mono {active : List Spot} {used less : Nat} (pending : Pending t active used)
    (bound : less ≤ used) : Pending t active less := by
  refine ⟨pending.distinct, pending.links, fun spot member => ?_⟩
  obtain ⟨place, part, total, last, located, way, longer⟩ := pending.longer spot member
  exact ⟨place, part, total, last, located, way, by omega⟩

variable {active : List Spot} {place last : Location} {part : String} {used total less : Nat}

theorem pending_fresh (pending : Pending t active used)
    (way : Way t.root place [part] total last) (bound : total ≤ used) :
    place ++ [part] ∉ active.map (·.location t.here) := by
  intro again
  obtain ⟨other, member, same⟩ := List.mem_map.mp again
  obtain ⟨place', part', total', last', located, way', longer⟩ := pending.longer other member
  obtain ⟨places, names⟩ := List.append_inj' (located.symm.trans same) rfl
  rw [places, names] at way'
  have equal := (way_unique way way').1
  omega

theorem pending_push (pending : Pending t active used) {next : Spot} {target : String}
    (located : next.location t.here = place ++ [part])
    (link : t.root.at? (place ++ [part]) = some (.link target))
    (way : Way t.root place [part] total last) (bound : total ≤ used) (inside : less < total) :
    Pending t (next :: active) less := by
  have below := pending_mono pending (by omega : less ≤ used)
  have fresh := pending_fresh pending way bound
  constructor
  · rw [List.map_cons, located]
    exact List.nodup_cons.mpr ⟨fresh, pending.distinct⟩
  · intro spot member
    rcases List.mem_cons.mp member with same | earlier
    · rw [same, located]
      exact ⟨target, link⟩
    · exact pending.links spot earlier
  · intro spot member
    rcases List.mem_cons.mp member with same | earlier
    · rw [same]
      exact ⟨place, part, total, last, located, way, inside⟩
    · exact below.longer spot earlier

theorem pending_length (pending : Pending t active used) : active.length ≤ t.root.linkCount := by
  have links : ∀ place ∈ active.map (·.location t.here),
      ∃ target, t.root.at? place = some (.link target) := by
    intro place member
    obtain ⟨spot, there, same⟩ := List.mem_map.mp member
    exact same ▸ pending.links spot there
  simpa using Node.length_le_linkCount pending.distinct links

section Steps

variable {fuel : Nat} {spot : Spot} {rest : List String}

theorem chase_down (step : IsStep part)
    (solid : ∀ target,
      t.root.at? (Spot.location t.here { spot with names := spot.names ++ [part] }) ≠
        some (.link target)) :
    chase t fuel active spot (part :: rest) =
      chase t fuel active { spot with names := spot.names ++ [part] } rest := by
  obtain ⟨named, lower⟩ := isStep_iff.mp step
  rw [chase, if_neg named, if_neg lower]
  -- by `solid` the match takes its last case
  simp only

theorem chase_follow {target : String} {reached : Spot} (step : IsStep part)
    (link : t.root.at? (Spot.location t.here { spot with names := spot.names ++ [part] }) =
      some (.link target))
    (unmet : { spot with names := spot.names ++ [part] } ∉ active)
    (inner : chase t less ({ spot with names := spot.names ++ [part] } :: active)
      (if startsAtRoot target then ⟨true, []⟩ else spot) (pathParts target) = (true, reached)) :
    chase t (less + 1) active spot (part :: rest) = chase t (less + 1) active reached rest := by
  have missed : ¬active.contains { spot with names := spot.names ++ [part] } = true :=
    fun met => unmet (List.contains_iff_mem.mp met)
  obtain ⟨named, lower⟩ := isStep_iff.mp step
  rw [chase, if_neg named, if_neg lower]
  simp only [link, if_neg missed, inner]

end Steps

theorem chase_of_way {parts : List String} (way : Way t.root place parts used last) :
    ∀ (fuel : Nat) (active : List Spot) (spot : Spot), spot.Regular →
      spot.location t.here = place → Pending t active used →
      t.root.linkCount ≤ fuel + active.length →
      ∃ reached, chase t fuel active spot parts = (true, reached) ∧ reached.Regular ∧
        reached.location t.here = last := by
  induction way with
  | done place =>
    intro fuel active spot regular located pending enough
    exact ⟨spot, by rw [chase], regular, located⟩
  | stay folder blank later ih =>
    intro fuel active spot regular located pending enough
    obtain ⟨reached, chased, ends⟩ := ih fuel active spot regular located pending enough
    refine ⟨reached, ?_, ends⟩
    rw [chase, if_pos (by simpa using blank), chased]
  | up folder later ih =>
    intro fuel active spot regular located pending enough
    have above : spot.up.location t.here = _ := (Spot.location_up t.here regular).trans (by rw [located])
    obtain ⟨reached, chased, ends⟩ :=
      ih fuel active spot.up (Spot.regular_up regular) above pending enough
    refine ⟨reached, ?_, ends⟩
    rw [chase, if_neg (by simp), if_pos rfl, chased]
  | @down place last entries part rest links n folder step found solid later ih =>
    intro fuel active spot regular located pending enough
    have below : Spot.location t.here { spot with names := spot.names ++ [part] } =
        place ++ [part] := by rw [Spot.location_step t.here spot step, located]
    obtain ⟨reached, chased, ends⟩ :=
      ih fuel active _ (Spot.regular_step regular step) below pending enough
    refine ⟨reached, ?_, ends⟩
    rw [chase_down step, chased]
    intro target link
    rw [below, Node.at?_child folder, found] at link
    exact solid target (Option.some.inj link)
  | @follow place middle last entries part rest inside outside target folder step found inner later
      ihInner ihLater =>
    intro fuel active spot regular located pending enough
    have below : Spot.location t.here { spot with names := spot.names ++ [part] } =
        place ++ [part] := by rw [Spot.location_step t.here spot step, located]
    have link : t.root.at? (place ++ [part]) = some (.link target) := by
      rw [Node.at?_child folder, found]
    have single : Way t.root place [part] (inside + 0 + 1) middle :=
      .follow folder step found inner (.done middle)
    have fresh := pending_fresh pending single (by omega)
    have pushed := pending_push pending below link single (by omega) (by omega : inside < _)
    -- one more link is being followed, so the fuel is not used up
    have room := pending_length pushed
    rw [List.length_cons] at room
    obtain ⟨less, rfl⟩ : ∃ less, fuel = less + 1 := ⟨fuel - 1, by omega⟩
    obtain ⟨halfway, chasedInner, regularInner, locatedInner⟩ :=
      ihInner less _ _ (Spot.regular_origin regular target) (Spot.location_origin located target)
        pushed (by rw [List.length_cons]; omega)
    obtain ⟨reached, chased, ends⟩ :=
      ihLater (less + 1) active halfway regularInner locatedInner
        (pending_mono pending (by omega)) enough
    refine ⟨reached, ?_, ends⟩
    rw [chase_follow step (below ▸ link) ?_ chasedInner, chased]
    intro met
    exact fresh (List.mem_map.mpr ⟨_, met, below⟩)

theorem root_of_folder {root : Node} {entries : List (String × Node)}
    (there : root.at? place = some (.folder entries)) : ∃ top, root = .folder top := by
  cases root with
  | folder top => exact ⟨top, rfl⟩
  | file bytes => cases place <;> cases there
  | link target => cases place <;> cases there

theorem absolute_normal (names : ∀ name ∈ place, IsEntryName name) :
    (Path.absolute place).Normal := by
  intro name member
  obtain ⟨step, clean⟩ := names name member
  exact ⟨by simp [Path.isName, step.1, step.2.1], clean⟩

theorem find_absolute {top : List (String × Node)} {n : Node} (folder : t.root = .folder top)
    (names : ∀ name ∈ place, IsEntryName name) (there : t.root.at? place = some n)
    (solid : ∀ target, n ≠ .link target) :
    t.find (Path.absolute place).text = .ok (place, n) := by
  have normal := absolute_normal names
  have rooted : startsAtRoot (Path.absolute place).text = true := Path.startsAtRoot_text normal
  have filled : (Path.absolute place).text ≠ "" := by
    intro empty
    rw [empty] at rooted
    exact absurd rooted (by decide)
  obtain ⟨lead, blank, cut⟩ := Path.pathParts_text normal
  have base : t.root.at? [] = some (.folder top) := by rw [folder]; rfl
  have steps : ∀ name ∈ place, IsStep name := fun name member => (names name member).1
  rw [find, findWith, if_neg filled, start, if_pos rooted, cut, go_of_lead base blank]
  exact go_of_at? steps there solid

theorem linkCount_le_chaseFuel (t : FileTree) : t.root.linkCount ≤ t.chaseFuel := by
  have scaled := Nat.le_mul_of_pos_right t.root.linkCount (by omega : 0 < t.here.length + 2)
  rw [chaseFuel]
  omega

theorem chase_of_find {p : Path} {n : Node} (normal : p.Normal)
    (found : t.find p.text = .ok (place, n)) :
    ∃ reached, chase t t.chaseFuel [] ⟨decide (p.anchor ≠ .relative), []⟩ p.names =
      (true, reached) ∧ reached.location t.here = place := by
  obtain ⟨_, _, looked⟩ := go_of_find normal found
  obtain ⟨_, used, _, way⟩ := way_of_go looked
  have begun : Spot.location t.here ⟨decide (p.anchor ≠ .relative), []⟩ = t.start p.text := by
    simp only [start, Path.startsAtRoot_text normal]
    cases p.anchor <;> rfl
  obtain ⟨reached, chased, _, located⟩ :=
    chase_of_way way t.chaseFuel [] ⟨decide (p.anchor ≠ .relative), []⟩ (by simp [Spot.Regular])
      begun ⟨by simp, by simp, by simp⟩ (linkCount_le_chaseFuel t)
  exact ⟨reached, chased, located⟩

/-- A path that leads to a file or a folder has the place of it as its real path, and the real path
    leads there too. -/
theorem resolve_of_find {p : Path} {n : Node} (normal : p.Normal)
    (found : t.find p.text = .ok (place, n)) (solid : ∀ target, n ≠ .link target) :
    t.resolve p = .ok (Path.absolute place) ∧
      t.find (Path.absolute place).text = .ok (place, n) := by
  obtain ⟨spot, chased, located⟩ := chase_of_find normal found
  have reached : t.realLocation p = place := by simp only [realLocation, chased, located]
  obtain ⟨entries, folder, looked⟩ := go_of_find normal found
  obtain ⟨there, used, bound, way⟩ := way_of_go looked
  have names : ∀ name ∈ place, IsEntryName name :=
    go_names (t.start_names p.text) (fun name member => (normal name member).2) looked
  obtain ⟨top, rooted⟩ := root_of_folder folder
  have real := find_absolute rooted names there solid
  refine ⟨?_, real⟩
  simp only [resolve, reached, real]

theorem up_unslashed {s : Spot} (spelled : ∀ name ∈ s.names, Unslashed name) :
    ∀ name ∈ s.up.names, Unslashed name := by
  have dots : Unslashed ".." := by decide
  intro name member
  simp only [Spot.up] at member
  split at member
  · exact spelled name (List.dropLast_subset _ member)
  · split at member
    · rw [List.mem_singleton.mp member]
      exact dots
    · split at member
      · rcases List.mem_append.mp member with earlier | added
        · exact spelled name earlier
        · rw [List.mem_singleton.mp added]
          exact dots
      · exact spelled name (List.dropLast_subset _ member)

theorem step_unslashed {s : Spot} {part : String} (spelled : ∀ name ∈ s.names, Unslashed name)
    (clean : Unslashed part) : ∀ name ∈ s.names ++ [part], Unslashed name :=
  List.forall_mem_append.mpr ⟨spelled, List.forall_mem_singleton.mpr clean⟩

theorem chase_unslashed (fuel : Nat) (active : List Spot) (spot : Spot) (parts : List String)
    (spelled : ∀ name ∈ spot.names, Unslashed name) (clean : ∀ part ∈ parts, Unslashed part) :
    ∀ name ∈ (chase t fuel active spot parts).2.names, Unslashed name := by
  fun_induction chase t fuel active spot parts with
  | case1 => exact spelled
  | case2 fuel active spot part rest blank ih =>
    exact ih spelled (List.forall_mem_cons.mp clean).2
  | case3 fuel active spot rest dots ih =>
    exact ih (up_unslashed spelled) (List.forall_mem_cons.mp clean).2
  | case4 fuel active spot part rest named lower next target link met =>
    obtain ⟨first, later⟩ := List.forall_mem_cons.mp clean
    exact List.forall_mem_append.mpr ⟨step_unslashed spelled first, later⟩
  | case5 active spot part rest named lower next target link unmet =>
    obtain ⟨first, later⟩ := List.forall_mem_cons.mp clean
    exact List.forall_mem_append.mpr ⟨step_unslashed spelled first, later⟩
  | case6 active spot part rest named lower next target link unmet less reached chased ihInner
      ihLater =>
    have inner := ihInner (by split <;> simp_all) (pathParts_unslashed target)
    rw [chased] at inner
    exact ihLater inner (List.forall_mem_cons.mp clean).2
  | case7 active spot part rest named lower next target link unmet less reached chased ihInner =>
    have inner := ihInner (by split <;> simp_all) (pathParts_unslashed target)
    rw [chased] at inner
    exact List.forall_mem_append.mpr ⟨inner, (List.forall_mem_cons.mp clean).2⟩
  | case8 fuel active spot part rest named lower next unlinked ih =>
    obtain ⟨first, later⟩ := List.forall_mem_cons.mp clean
    exact ih (step_unslashed spelled first) later

theorem literal_names {names : List String} {place : Location}
    (start : ∀ name ∈ place, IsEntryName name) (clean : ∀ name ∈ names, Unslashed name) :
    ∀ name ∈ names.foldl literalStep place, IsEntryName name := by
  induction names generalizing place with
  | nil => exact start
  | cons part names ih =>
    obtain ⟨first, later⟩ := List.forall_mem_cons.mp clean
    apply ih _ later
    simp only [literalStep]
    split
    · exact start
    · rename_i named
      split
      · intro name member
        exact start name (List.dropLast_subset _ member)
      · rename_i lower
        have step := isStep_iff.mpr ⟨named, lower⟩
        exact List.forall_mem_append.mpr ⟨start, List.forall_mem_singleton.mpr ⟨step, first⟩⟩

theorem eq_of_resolve {p real : Path} (resolved : t.resolve p = .ok real) :
    real = Path.absolute (t.realLocation p) := by
  simp only [resolve] at resolved
  split at resolved
  · cases resolved
  · exact (Except.ok.inj resolved).symm

theorem resolve_names {p real : Path} (clean : ∀ name ∈ p.names, Unslashed name)
    (resolved : t.resolve p = .ok real) :
    real.anchor = .root ∧ ∀ name ∈ real.names, IsEntryName name := by
  rw [eq_of_resolve resolved]
  refine ⟨rfl, literal_names ?_ ?_⟩
  · split
    · simp
    · exact t.here_names
  · exact chase_unslashed _ _ _ _ (by simp) clean

end SourceTally.FileTree
