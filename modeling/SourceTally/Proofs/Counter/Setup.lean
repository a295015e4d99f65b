import SourceTally.Proofs.AliasTable
import SourceTally.Proofs.Counter.Conservation

/- What decides which parser a file goes to: the options, the registered parsers and the aliases. It is
   changed by operations on the counter, and by changes of the extensions of parsers, of which some
   may be registered, one may be the default and others are not held at all. This says once what each
   of them can do, so that what holds of every reachable counter follows from its steps. -/
namespace SourceTally

inductive Event where
  | operation (op : Operation)
  /-- Extensions are added to a parser, which shows wherever the counter holds it. -/
  | addExtension (p : Parser) (extension : Value)
  | removeExtension (p : Parser) (extension : Value)

namespace Counter

def meet (c : Counter) : Event → Counter
  | .operation op => c.perform op
  | .addExtension p extension =>
    c.kept ((p.addExtension extension).map fun changed => c.updateParser changed.2)
  | .removeExtension p extension => c.updateParser (p.removeExtension extension).2

def after (c : Counter) (events : List Event) : Counter := events.foldl meet c

theorem addOne_shape (c : Counter) (p : Parser) :
    ∃ parsers, (c.addOne p).2 = { c with parsers } := by
  simp only [addOne]
  split
  · exact ⟨c.parsers, rfl⟩
  · exact ⟨_, rfl⟩

theorem addIds_shape (c : Counter) (serial : Nat) (ids : List Value) :
    ∃ parsers, (Catalogue.addIds c serial ids).counter = { c with parsers } := by
  refine Catalogue.addIds_preserves (fun _ d => ∃ parsers, d = { c with parsers })
    (fun _ _ now => now) ?_ ⟨c.parsers, rfl⟩ ids
  rintro serial d id p _ ⟨parsers, rfl⟩
  exact addOne_shape _ p

theorem register_shape (c : Counter) (serial : Nat) (requested defaultId allowUnknowns : Value) :
    ∃ parsers options,
      (Catalogue.register c serial requested defaultId allowUnknowns).counter =
        { c with parsers, options } := by
  rcases Catalogue.register_cases c serial requested defaultId allowUnknowns with
    ⟨e, _, same⟩ | ⟨wanted, _, same | ⟨fallback, _, same⟩⟩
  · exact ⟨c.parsers, c.options, same⟩
  · obtain ⟨parsers, shape⟩ := addIds_shape c serial wanted
    exact ⟨parsers, c.options, same.trans shape⟩
  · obtain ⟨parsers, shape⟩ := addIds_shape c serial wanted
    rw [shape] at same
    exact ⟨parsers, _, same⟩

theorem settle_setup (c : Counter) (results : List (Value × Except Error Statistics)) :
    (c.settle results).2.options = c.options ∧ (c.settle results).2.parsers = c.parsers ∧
      (c.settle results).2.aliases = c.aliases := by
  refine @settle_preserves (fun d => d.options = c.options ∧ d.parsers = c.parsers ∧
    d.aliases = c.aliases) results ?_ c ⟨rfl, rfl, rfl⟩
  intro d next file n _ recorded same
  rw [record_ok recorded]
  exact same

end Counter

end SourceTally
