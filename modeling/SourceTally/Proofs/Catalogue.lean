import SourceTally.Catalogue
import SourceTally.Counter.Process
import SourceTally.Proofs.Failure

/- New parsers, and what a registration by id leaves behind, said once for all that follows from it.
   The parsers of the catalogue refuse no text, so a counter that was set up from it fails on a file
   only for a reason that concerns this file. A registration that allows unknown files leaves a
   default parser behind. -/
namespace SourceTally

namespace Parser

def Willing (p : Parser) : Prop := p.scanner ≠ .failing

theorem addText_shape (p : Parser) (text : String) :
    ∃ extensions, (p.addText text).2 = { p with extensions } := by
  simp only [addText]
  split
  · exact ⟨p.extensions, rfl⟩
  · exact ⟨_, rfl⟩

theorem addTexts_shape (p : Parser) (texts : List String) :
    ∃ extensions, (p.addTexts texts).2 = { p with extensions } := by
  induction texts generalizing p with
  | nil => exact ⟨p.extensions, rfl⟩
  | cons text texts ih =>
    obtain ⟨first, one⟩ := addText_shape p text
    obtain ⟨last, rest⟩ := ih (p.addText text).2
    refine ⟨last, ?_⟩
    simp only [addTexts]
    rw [rest, one]

theorem addExtension_shape {p : Parser} {extension : Value} {result : Bool × Parser}
    (added : p.addExtension extension = .ok result) :
    ∃ extensions, result.2 = { p with extensions } := by
  obtain ⟨texts, _, same⟩ := bind_ok added
  cases same
  exact addTexts_shape p texts

theorem make_shape {serial : Nat} {scanner : Scanner} {id name extensions : Value} {p : Parser}
    (made : make serial scanner id name extensions = .ok p) :
    p.serial = serial ∧ p.scanner = scanner := by
  simp only [make] at made
  split at made
  · cases made
    obtain ⟨_, seeded⟩ := addTexts_shape _ scanner.defaultExtensions
    rw [seeded]
    exact ⟨rfl, rfl⟩
  · obtain ⟨result, extended, same⟩ := bind_ok made
    cases same
    obtain ⟨_, later⟩ := addExtension_shape extended
    obtain ⟨_, seeded⟩ := addTexts_shape _ scanner.defaultExtensions
    rw [later, seeded]
    exact ⟨rfl, rfl⟩

theorem parseText_of_willing {p : Parser} (willing : p.Willing) (text : String) :
    ∃ n, p.parseText text = .ok n := by
  simp only [parseText]
  cases scanner : p.scanner with
  | plain => exact ⟨_, rfl⟩
  | cFamily => exact ⟨_, rfl⟩
  | failing => exact absurd scanner willing

end Parser

namespace Counter

structure Willing (c : Counter) : Prop where
  parsers : ∀ p ∈ c.parsers, p.Willing
  fallback : ∀ p, c.options.defaultParser = some p → p.Willing

theorem resolve_cases (c : Counter) (file : Value) :
    (∃ p, c.resolve file = .ok p ∧ (p ∈ c.parsers ∨ c.options.defaultParser = some p)) ∨
      ∃ e, c.resolve file = .error e ∧ e.isReported = true := by
  have standIn : ∀ p, c.fallback? = some p → c.options.defaultParser = some p := by
    intro p chosen
    simp only [fallback?] at chosen
    split at chosen
    · cases chosen
    · exact chosen
  simp only [resolve]
  split
  · split
    · exact .inl ⟨_, rfl, .inr (standIn _ ‹_›)⟩
    · exact .inr ⟨_, rfl, rfl⟩
  · split
    · rename_i p found
      simp only [parserForExtension?] at found
      split at found
      · cases found
      · exact .inl ⟨p, rfl, .inl (List.mem_of_find?_eq_some found)⟩
    · split
      · exact .inl ⟨_, rfl, .inr (standIn _ ‹_›)⟩
      · exact .inr ⟨_, rfl, rfl⟩

theorem resolve_willing {c : Counter} {file : Value} {p : Parser} (willing : c.Willing)
    (resolved : c.resolve file = .ok p) : p.Willing := by
  rcases resolve_cases c file with ⟨q, found, origin⟩ | ⟨e, failed, _⟩
  · rw [resolved] at found
    cases found
    rcases origin with registered | default
    · exact willing.parsers p registered
    · exact willing.fallback p default
  · rw [resolved] at failed
    cases failed

theorem classify_error_reported {c : Counter} {file contents : Value} {e : Error}
    (willing : c.Willing) (failed : c.classify file contents = .error e) : e.isReported = true := by
  simp only [classify] at failed
  split at failed
  · cases failed
    rfl
  · rename_i text _
    rcases resolve_cases c file with ⟨p, resolved, _⟩ | ⟨cause, refused, reported⟩
    · obtain ⟨n, parsed⟩ := Parser.parseText_of_willing (resolve_willing willing resolved) text
      simp only [resolved, bind, Except.bind, parsed] at failed
      cases failed
    · simp only [refused, bind, Except.bind] at failed
      cases failed
      exact reported

theorem addOne_willing {c : Counter} {p : Parser} (willing : c.Willing) (new : p.Willing) :
    (c.addOne p).2.Willing := by
  simp only [addOne]
  split
  · exact willing
  · refine ⟨fun other member => ?_, willing.fallback⟩
    rcases List.mem_append.mp member with old | added
    · exact willing.parsers other old
    · exact List.mem_singleton.mp added ▸ new

end Counter

namespace Catalogue

theorem create_willing {serial : Nat} {id : Value} {p : Parser}
    (created : create serial id = .ok p) : p.Willing := by
  simp only [create] at created
  split at created
  · cases created
  · split at created
    · cases created
    · rename_i scanner known
      have listed : scanner ∈ scanners := by
        cases id <;> simp only [scanner?, reduceCtorEq] at known
        exact List.mem_of_find?_eq_some known
      rw [Parser.Willing, (Parser.make_shape created).2]
      rintro rfl
      revert listed
      decide

/-- What holds with the next serial number and is kept when a new parser is registered, or the number
    is passed over, holds after a registration of any number of ids. -/
theorem addIds_preserves (holds : Nat → Counter → Prop)
    (pass : ∀ serial c, holds serial c → holds (serial + 1) c)
    (step : ∀ serial c id p, create serial id = .ok p → holds serial c →
      holds (serial + 1) (c.addOne p).2)
    {serial : Nat} {c : Counter} (start : holds serial c) (ids : List Value) :
    holds (serial + ids.length) (addIds c serial ids).counter := by
  have passed : ∀ (count serial : Nat) (c : Counter), holds serial c → holds (serial + count) c := by
    intro count
    induction count with
    | zero => exact fun _ _ now => now
    | succ count ih => exact fun serial c now => pass _ c (ih serial c now)
  induction ids generalizing serial c with
  | nil => exact start
  | cons id ids ih =>
    simp only [addIds]
    split
    · exact passed _ serial c start
    · rename_i p created
      have later := ih (step serial c id p created start)
      rw [List.length_cons, Nat.add_comm ids.length, ← Nat.add_assoc]
      split
      · exact later
      · exact later

theorem addIds_willing {c : Counter} (willing : c.Willing) (serial : Nat) (ids : List Value) :
    (addIds c serial ids).counter.Willing := by
  refine addIds_preserves (fun _ d => d.Willing) (fun _ _ now => now) ?_ willing ids
  intro serial d id p created now
  exact Counter.addOne_willing now (create_willing created)

/-- What a registration leaves behind: the counter as it was, or one with new parsers, perhaps with
    options of its own. -/
theorem register_cases (c : Counter) (serial : Nat) (requested defaultId allowUnknowns : Value) :
    (∃ e, requestedIds requested = .error e ∧
        (register c serial requested defaultId allowUnknowns).counter = c) ∨
      ∃ wanted, requestedIds requested = .ok wanted ∧
        ((register c serial requested defaultId allowUnknowns).counter =
            (addIds c serial wanted).counter ∨
          ∃ fallback, defaultParser? (addIds c serial wanted).counter (serial + wanted.length)
              defaultId allowUnknowns = .ok fallback ∧
            (register c serial requested defaultId allowUnknowns).counter =
              { (addIds c serial wanted).counter with
                options := ⟨.bool (!allowUnknowns.isTrue), fallback⟩ }) := by
  simp only [register]
  split
  · rename_i e refused
    exact .inl ⟨e, refused, rfl⟩
  · rename_i wanted listed
    refine .inr ⟨wanted, listed, ?_⟩
    split
    · exact .inl rfl
    · split
      · exact .inl rfl
      · rename_i fallback chosen
        exact .inr ⟨fallback, chosen, rfl⟩

theorem chooseDefault_willing {c : Counter} {serial : Nat} {id : Value} {p : Parser}
    (willing : c.Willing) (chosen : chooseDefault c serial id = .ok p) : p.Willing := by
  simp only [chooseDefault] at chosen
  split at chosen
  · split at chosen
    · cases chosen
      exact willing.parsers p (List.mem_of_find?_eq_some ‹_›)
    · exact create_willing chosen
  · cases chosen

theorem defaultParser?_ok {c : Counter} {serial : Nat} {defaultId allowUnknowns : Value} {p : Parser}
    (chosen : defaultParser? c serial defaultId allowUnknowns = .ok (some p)) :
    chooseDefault c serial defaultId = .ok p := by
  simp only [defaultParser?] at chosen
  split at chosen
  · obtain ⟨q, picked, same⟩ := map_ok chosen
    cases same
    exact picked
  · cases chosen

theorem register_willing {c : Counter} (willing : c.Willing) (serial : Nat)
    (requested defaultId allowUnknowns : Value) :
    (register c serial requested defaultId allowUnknowns).counter.Willing := by
  rcases register_cases c serial requested defaultId allowUnknowns with
    ⟨e, _, same⟩ | ⟨wanted, _, same | ⟨fallback, chosen, same⟩⟩
  · rw [same]
    exact willing
  · rw [same]
    exact addIds_willing willing serial wanted
  · have added := addIds_willing willing serial wanted
    rw [same]
    refine ⟨added.parsers, fun p shown => ?_⟩
    cases shown
    exact chooseDefault_willing added (defaultParser?_ok chosen)

theorem register_ok {c : Counter} {serial : Nat} {requested defaultId allowUnknowns : Value}
    {added : List Parser}
    (registered : (register c serial requested defaultId allowUnknowns).added = .ok added) :
    ∃ wanted fallback, requestedIds requested = .ok wanted ∧
      (addIds c serial wanted).added = .ok added ∧
      defaultParser? (addIds c serial wanted).counter (serial + wanted.length) defaultId
        allowUnknowns = .ok fallback ∧
      (register c serial requested defaultId allowUnknowns).counter =
        { (addIds c serial wanted).counter with
          options := ⟨.bool (!allowUnknowns.isTrue), fallback⟩ } := by
  cases ids : requestedIds requested with
  | error e =>
    simp only [register, ids] at registered
    cases registered
  | ok wanted =>
    cases started : (addIds c serial wanted).added with
    | error e =>
      simp only [register, ids, started] at registered
      cases registered
    | ok parsers =>
      cases chosen : defaultParser? (addIds c serial wanted).counter (serial + wanted.length)
          defaultId allowUnknowns with
      | error e =>
        simp only [register, ids, started, chosen] at registered
        cases registered
      | ok fallback =>
        simp only [register, ids, started, chosen] at registered
        cases registered
        exact ⟨wanted, fallback, rfl, started, chosen, by simp only [register, ids, started, chosen]⟩

end Catalogue

end SourceTally
