import SourceTally.AliasTable
import SourceTally.Proofs.Assoc
import SourceTally.Proofs.Extension.Clean
import SourceTally.Proofs.Failure

/- What an alias table holds. Both sides of an alias are cleaned before it is written, so a table holds
   proper extensions only, and an extension that is looked up is taken as it stands. -/
namespace SourceTally.AliasTable

/-- All sources and all targets of a table are proper extensions. -/
def Stored (table : AliasTable) : Prop :=
  ∀ entry ∈ table, Extension.IsProper entry.1 ∧ Extension.IsProper entry.2

theorem stored_nil : Stored [] := by simp [Stored]

theorem cleanExtension_isProper {value : Value} (nonempty : value.cleanExtension ≠ "") :
    Extension.IsProper value.cleanExtension := by
  cases value with
  | str text => exact Extension.clean_isProper nonempty
  | _ => exact absurd rfl nonempty

theorem cleanPair_ok_iff {old new : Value} {pair : String × String} :
    cleanPair old new = .ok pair ↔
      old.cleanExtension ≠ "" ∧ new.cleanExtension ≠ "" ∧
        pair = (old.cleanExtension, new.cleanExtension) := by
  simp only [cleanPair]
  by_cases first : old.cleanExtension = ""
  · by_cases second : new.cleanExtension = "" <;> simp [first, second]
  · by_cases second : new.cleanExtension = ""
    · simp [first, second]
    · simp [first, second, eq_comm]

theorem cleanPair_stored {old new : Value} {pair : String × String}
    (cleaned : cleanPair old new = .ok pair) :
    Extension.IsProper pair.1 ∧ Extension.IsProper pair.2 := by
  obtain ⟨first, second, rfl⟩ := cleanPair_ok_iff.mp cleaned
  exact ⟨cleanExtension_isProper first, cleanExtension_isProper second⟩

theorem add_ok_iff {table : AliasTable} {old new : Value} :
    (∃ result, table.add old new = .ok result) ↔ ∃ pair, cleanPair old new = .ok pair := by
  constructor
  · rintro ⟨result, added⟩
    obtain ⟨pair, cleaned, _⟩ := bind_ok added
    exact ⟨pair, cleaned⟩
  · rintro ⟨pair, cleaned⟩
    exact ⟨table.put pair, by rw [add, cleaned]; rfl⟩

theorem cleanEntry_stored {entry : Value} {pair : String × String}
    (cleaned : cleanEntry entry = .ok pair) :
    Extension.IsProper pair.1 ∧ Extension.IsProper pair.2 := by
  simp only [cleanEntry] at cleaned
  split at cleaned
  · exact cleanPair_stored cleaned
  · exact cleanPair_stored cleaned
  · cases cleaned

theorem cleanPairs_stored {pairs : Value} {cleaned : List (String × String)}
    (checked : cleanPairs pairs = .ok cleaned) : Stored cleaned := by
  intro pair member
  simp only [cleanPairs] at checked
  split at checked
  · obtain ⟨entry, _, clean⟩ := mem_of_mapM_ok checked pair member
    exact cleanPair_stored clean
  · split at checked
    · obtain ⟨entry, _, clean⟩ := mem_of_mapM_ok checked pair member
      exact cleanEntry_stored clean
    · cases checked

theorem cleanPair_of_isProper {pair : String × String} (source : Extension.IsProper pair.1)
    (target : Extension.IsProper pair.2) : cleanPair (.str pair.1) (.str pair.2) = .ok pair := by
  have first : (Value.str pair.1).cleanExtension = pair.1 := source.fixed
  have second : (Value.str pair.2).cleanExtension = pair.2 := target.fixed
  rw [cleanPair_ok_iff, first, second]
  exact ⟨source.nonempty, target.nonempty, rfl⟩

theorem cleanPairs_of_stored {table : AliasTable} (stored : table.Stored) :
    cleanPairs (.mapping (table.map fun entry => (entry.1, .str entry.2))) = .ok table := by
  apply mapM_ok
  rw [List.forall₂_map_left_iff, List.forall₂_same]
  intro entry member
  obtain ⟨source, target⟩ := stored entry member
  exact cleanPair_of_isProper source target

theorem putAll_table (table : AliasTable) (pairs : List (String × String)) :
    (table.putAll pairs).2 = Assoc.insertAll table pairs := by
  induction pairs generalizing table with
  | nil => rfl
  | cons pair pairs ih =>
    have later := ih (Assoc.insert table pair.1 pair.2)
    simp only [putAll, put]
    split
    · exact later
    · exact later

end SourceTally.AliasTable
