import SourceTally.Parser.Extensions
import SourceTally.Proofs.Extension.Clean
import SourceTally.Proofs.Failure

/- The extensions of a parser over its whole life. Texts are compared in clean form, and a removal takes
   away one place of the list only; both are enough because the list holds proper extensions, each
   once, from the construction of the parser on. -/
namespace SourceTally.Parser

inductive Change where
  | add (extension : Value)
  | remove (extension : Value)

def change (p : Parser) : Change → Parser
  | .add extension =>
    match p.addExtension extension with
    | .ok (_, next) => next
    | .error _ => p
  | .remove extension => (p.removeExtension extension).2

def after (p : Parser) (changes : List Change) : Parser := changes.foldl change p

/-- A parser claims proper extensions, each once. -/
structure Orderly (p : Parser) : Prop where
  once : p.extensions.Nodup
  proper : ∀ extension ∈ p.extensions, Extension.IsProper extension

theorem addText_cases (p : Parser) (text : String) :
    p.addText text = (false, p) ∧
        (Extension.clean text = "" ∨ Extension.clean text ∈ p.extensions) ∨
      p.addText text = (true, { p with extensions := p.extensions ++ [Extension.clean text] }) ∧
        Extension.clean text ≠ "" ∧ Extension.clean text ∉ p.extensions := by
  simp only [addText]
  split
  · rename_i known
    exact .inl ⟨rfl, by simpa using known⟩
  · rename_i new
    simp only [Bool.or_eq_true, decide_eq_true_eq, List.contains_iff_mem, not_or] at new
    exact .inr ⟨rfl, new⟩

section Steps

variable {p : Parser}

theorem orderly_addText (orderly : p.Orderly) (text : String) : (p.addText text).2.Orderly := by
  rcases addText_cases p text with ⟨same, _⟩ | ⟨added, nonempty, new⟩
  · rw [same]
    exact orderly
  · rw [added]
    constructor
    · apply List.nodup_append.mpr
      refine ⟨orderly.once, List.pairwise_singleton _ _, ?_⟩
      rintro old member last single rfl
      exact new (List.mem_singleton.mp single ▸ member)
    · intro extension member
      rcases List.mem_append.mp member with old | last
      · exact orderly.proper extension old
      · rw [List.mem_singleton.mp last]
        exact Extension.clean_isProper nonempty

theorem orderly_addTexts (orderly : p.Orderly) (texts : List String) :
    (p.addTexts texts).2.Orderly := by
  induction texts generalizing p with
  | nil => exact orderly
  | cons text texts ih =>
    simp only [addTexts]
    exact ih (orderly_addText orderly text)

theorem orderly_addExtension (orderly : p.Orderly) {extension : Value} {result : Bool × Parser}
    (added : p.addExtension extension = .ok result) : result.2.Orderly := by
  obtain ⟨texts, _, same⟩ := bind_ok added
  cases same
  exact orderly_addTexts orderly texts

theorem orderly_removeExtension (orderly : p.Orderly) (extension : Value) :
    (p.removeExtension extension).2.Orderly := by
  simp only [removeExtension]
  split
  · refine ⟨orderly.once.erase _, fun other member => ?_⟩
    exact orderly.proper other (List.mem_of_mem_erase member)
  · exact orderly

theorem orderly_change (orderly : p.Orderly) (call : Change) : (p.change call).Orderly := by
  cases call with
  | add extension =>
    simp only [change]
    split
    · rename_i added
      exact orderly_addExtension orderly added
    · exact orderly
  | remove extension => exact orderly_removeExtension orderly extension

theorem orderly_after (orderly : p.Orderly) (changes : List Change) : (p.after changes).Orderly := by
  induction changes generalizing p with
  | nil => exact orderly
  | cons call changes ih => exact ih (orderly_change orderly call)

theorem orderly_make {serial : Nat} {scanner : Scanner} {id name extensions : Value}
    (made : make serial scanner id name extensions = .ok p) : p.Orderly := by
  have seeded : ∀ (id name : String),
      (addTexts ⟨serial, scanner, id, name, []⟩ scanner.defaultExtensions).2.Orderly := by
    intro id name
    apply orderly_addTexts
    exact ⟨List.Pairwise.nil, by simp⟩
  simp only [make] at made
  split at made
  · cases made
    apply seeded
  · obtain ⟨result, added, same⟩ := bind_ok made
    cases same
    refine orderly_addExtension ?_ added
    apply seeded

end Steps

section Questions

variable {p : Parser}

theorem hasExtension_iff (orderly : p.Orderly) (value : Value) :
    p.hasExtension value = true ↔ value.cleanExtension ∈ p.extensions := by
  simp only [hasExtension, Bool.and_eq_true, decide_eq_true_eq, List.contains_iff_mem]
  refine ⟨And.right, fun member => ⟨?_, member⟩⟩
  exact (orderly.proper _ member).nonempty

theorem addExtension_text (p : Parser) (text : String) :
    p.addExtension (.str text) = .ok ((p.addText text).1, (p.addText text).2) := by
  simp only [addExtension, extensionTexts, addTexts, bind, Except.bind, pure, Except.pure,
    Bool.or_false]

theorem addText_yes_iff (orderly : p.Orderly) (text : String) :
    (p.addText text).1 = true ↔
      p.hasExtension (.str text) = false ∧ (p.addText text).2.hasExtension (.str text) = true := by
  rw [← Bool.not_eq_true, hasExtension_iff orderly, hasExtension_iff (orderly_addText orderly text)]
  show _ ↔ Extension.clean text ∉ _ ∧ Extension.clean text ∈ _
  rcases addText_cases p text with ⟨same, _⟩ | ⟨added, _, new⟩
  · simp [same]
  · simp [added, new]

theorem removeExtension_claims (orderly : p.Orderly) (value : Value) :
    (p.removeExtension value).1 = p.hasExtension value ∧
      (p.removeExtension value).2.hasExtension value = false := by
  by_cases claimed : p.hasExtension value = true
  · have removed : p.removeExtension value =
        (true, { p with extensions := p.extensions.erase value.cleanExtension }) := by
      rw [removeExtension, if_pos claimed]
    have later := hasExtension_iff (orderly_removeExtension orderly value) value
    refine ⟨by rw [removed, claimed], ?_⟩
    rw [← Bool.not_eq_true, later, removed]
    -- the place that is taken away was the only one
    exact orderly.once.not_mem_erase
  · rw [removeExtension, if_neg claimed]
    exact ⟨(Bool.not_eq_true _).mp claimed |>.symm, (Bool.not_eq_true _).mp claimed⟩

theorem removeExtension_addText {text : String} (orderly : p.Orderly)
    (yes : (p.addText text).1 = true) :
    (p.addText text).2.removeExtension (.str text) = (true, p) := by
  have claimed := ((addText_yes_iff orderly text).mp yes).2
  rw [removeExtension, if_pos claimed]
  rcases addText_cases p text with ⟨same, _⟩ | ⟨added, _, new⟩
  · rw [same] at yes
    cases yes
  · have restored : (p.extensions ++ [Extension.clean text]).erase (Extension.clean text) =
        p.extensions := by
      rw [List.erase_append_right _ new, List.erase_cons_head, List.append_nil]
    rw [added]
    simp only [Value.cleanExtension, restored]

end Questions

/-- After any calls, failed ones too, a parser claims texts that are not empty and that cleaning leaves
    alone, none twice. Asking for a value looks for what cleaning makes of it. To add a text says yes
    exactly when the text was not claimed and is now; to remove a value says yes exactly when it was
    claimed, and it is not claimed any more; and removing what was just added gives the parser
    back. -/
theorem extensions_follow_calls {serial : Nat} {scanner : Scanner} {id name extensions : Value}
    {made : Parser} (constructed : make serial scanner id name extensions = .ok made)
    (changes : List Change) :
    let p := made.after changes
    p.extensions.Nodup ∧
      (∀ extension ∈ p.extensions, extension ≠ "" ∧ Extension.clean extension = extension) ∧
      (∀ x : Value, p.hasExtension x = true ↔ x.cleanExtension ∈ p.extensions) ∧
      (∀ text : String, ∃ answer next, p.addExtension (.str text) = .ok (answer, next) ∧
        (answer = true ↔
          p.hasExtension (.str text) = false ∧ next.hasExtension (.str text) = true) ∧
        (answer = true → next.removeExtension (.str text) = (true, p))) ∧
      ∀ x : Value, ((p.removeExtension x).1 = true ↔ p.hasExtension x = true) ∧
        (p.removeExtension x).2.hasExtension x = false := by
  intro p
  have orderly : p.Orderly := orderly_after (orderly_make constructed) changes
  refine ⟨orderly.once, ?_, hasExtension_iff orderly, ?_, ?_⟩
  · intro extension member
    exact ⟨(orderly.proper _ member).nonempty, (orderly.proper _ member).fixed⟩
  · intro text
    exact ⟨(p.addText text).1, (p.addText text).2, addExtension_text p text,
      addText_yes_iff orderly text, removeExtension_addText orderly⟩
  · intro x
    obtain ⟨told, gone⟩ := removeExtension_claims orderly x
    exact ⟨by rw [told], gone⟩

/-- Texts in many spellings, after a list of which one item is no text and a removal that finds
    nothing. -/
theorem extensions_follow_calls_in_many_spellings :
    let spelled : Value := .list [.str ".C", .str "x/y", .str "c "]
    let changes : List Change := [.add (.list [.str "go", .int 1]), .remove (.str "a.BOOM"),
      .remove (.list [.str "c"]), .add (.tuple [.str "tar.GZ", .str "C"])]
    ∃ made, make 0 .failing .nothing (.str "Own") spelled = .ok made ∧
      made.extensions = ["boom", "c"] ∧ (made.after changes).extensions = ["c", "gz"] ∧
      (made.after changes).hasExtension (.str "b. C") = true ∧
      ∃ next, (made.after changes).addExtension (.str "\u0130") = .ok (true, next) ∧
        next.extensions = ["c", "gz", "i\u0307"] ∧
        next.removeExtension (.str "\u0130") = (true, made.after changes) := by
  intro spelled changes
  let bare : Parser := ⟨0, .failing, "boom", "Own", []⟩
  let made : Parser := ((bare.addTexts ["boom"]).2.addTexts [".C", "x/y", "c "]).2
  let next : Parser := ⟨0, .failing, "boom", "Own", ["c", "gz", "i\u0307"]⟩
  have constructed : make 0 .failing .nothing (.str "Own") spelled = .ok made := rfl
  have claimed : made.extensions = ["boom", "c"] := by decide +kernel
  have ended : (made.after changes).extensions = ["c", "gz"] := by decide +kernel
  have added : (made.after changes).addExtension (.str "\u0130") = .ok (true, next) := by
    have last : (made.after changes).addText "\u0130" = (true, next) := by decide +kernel
    rw [addExtension_text, last]
  obtain ⟨_, _, has, add, _⟩ := extensions_follow_calls constructed changes
  obtain ⟨answer, later, same, _, back⟩ := add "\u0130"
  obtain ⟨rfl, rfl⟩ : true = answer ∧ next = later := by simpa using added.symm.trans same
  refine ⟨made, constructed, claimed, ended, (has (.str "b. C")).mpr ?_, next, added, rfl, back rfl⟩
  rw [ended]
  decide +kernel

end SourceTally.Parser
