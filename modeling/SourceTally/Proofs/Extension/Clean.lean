import SourceTally.Extension
import SourceTally.Proofs.Text.Blank
import SourceTally.Proofs.Text.LowerCase

/- Extensions in clean form. Where the last dot of a name stands decides what its extension is, and a
   text in clean form spells itself; so an extension that was cleaned once can be cleaned again at
   every later stage without a change. -/
namespace SourceTally.Extension

theorem afterLastDot_of_dotless {cs : List Char} (dotless : '.' ∉ cs) : afterLastDot cs = cs := by
  have all : cs.reverse.takeWhile (· ≠ '.') = cs.reverse := by
    rw [List.takeWhile_eq_self_iff]
    intro c member
    have differs : c ≠ '.' := fun same => dotless (same ▸ List.mem_reverse.mp member)
    simpa using differs
  rw [afterLastDot, all, List.reverse_reverse]

theorem afterLastDot_append (stem : List Char) {ending : List Char} (dotless : '.' ∉ ending) :
    afterLastDot (stem ++ '.' :: ending) = ending := by
  have turned : (stem ++ '.' :: ending).reverse = ending.reverse ++ '.' :: stem.reverse := by simp
  have kept : ∀ c ∈ ending.reverse, (decide (c ≠ '.')) = true := by
    intro c member
    have differs : c ≠ '.' := fun same => dotless (same ▸ List.mem_reverse.mp member)
    simpa using differs
  rw [afterLastDot, turned, List.takeWhile_append_of_pos kept]
  simp

theorem lastDot_cases (cs : List Char) :
    '.' ∉ cs ∨ ∃ stem ending, cs = stem ++ '.' :: ending ∧ '.' ∉ ending := by
  induction cs with
  | nil => exact .inl (by simp)
  | cons c rest ih =>
    rcases ih with dotless | ⟨stem, ending, rfl, dotless⟩
    · by_cases dot : c = '.'
      · exact .inr ⟨[], rest, by simp [dot], dotless⟩
      · exact .inl (by simpa [dotless] using Ne.symm dot)
    · exact .inr ⟨c :: stem, ending, rfl, dotless⟩

theorem extractChars_of_dotless {cs : List Char} (dotless : '.' ∉ cs) : extractChars cs = [] := by
  have absent : hasChars cs = false := by simp [hasChars, lastDot?, dotless]
  rw [extractChars, absent]
  rfl

theorem cleanChars_nil : cleanChars [] = [] := rfl

theorem extractChars_append (stem : List Char) {ending : List Char} (dotless : '.' ∉ ending) :
    extractChars (stem ++ '.' :: ending) = if stem = [] then [] else cleanChars ending := by
  have place : lastDot? (stem ++ '.' :: ending) = some stem.length := by
    rw [lastDot?, if_pos (by simp), afterLastDot_append stem dotless, Option.some.injEq,
      List.length_append, List.length_cons]
    omega
  have decided : hasChars (stem ++ '.' :: ending) = (!stem.isEmpty && !ending.isEmpty) := by
    rw [hasChars, place]
    cases stem <;> cases ending <;> simp
  rw [extractChars, decided, afterLastDot_append stem dotless]
  cases stem with
  | nil => simp
  | cons c stem =>
    cases ending with
    | nil => simp [cleanChars_nil]
    | cons d ending => simp

theorem cleanChars_of_disallowed {cs : List Char} {c : Char} (dotless : '.' ∉ cs) (member : c ∈ cs)
    (refused : c ∈ disallowed) : cleanChars cs = [] := by
  have found : cs.any disallowed.contains = true :=
    List.any_eq_true.mpr ⟨c, member, by simpa using refused⟩
  rw [cleanChars, afterLastDot_of_dotless dotless, found]
  rfl

theorem cleanChars_append (stem : List Char) {ending : List Char} (dotless : '.' ∉ ending) :
    cleanChars (stem ++ '.' :: ending) = cleanChars ending := by
  simp only [cleanChars, afterLastDot_append stem dotless, afterLastDot_of_dotless dotless]

/-- The form that extensions are brought into. The empty text has it too. -/
structure IsClean (cs : List Char) : Prop where
  allowed : ∀ c ∈ cs, c ∉ disallowed
  small : ∀ c ∈ cs, Text.IsSmall c
  trimmed : Text.IsTrimmed cs

theorem disallowed_no_form : ∀ c ∈ disallowed,
    (Text.caseRuns.all fun r => r.avoids c.toNat) = true ∧
      c ∉ ['i', Text.dotAbove, Text.smallSigma, Text.finalSigma] := by
  -- The list is gone through as a Boolean: to decide the quantifier may mean to try every character.
  have checked : (disallowed.all fun c => (Text.caseRuns.all fun r => r.avoids c.toNat) &&
      decide (c ∉ ['i', Text.dotAbove, Text.smallSigma, Text.finalSigma])) = true := by
    decide +kernel
  intro c member
  obtain ⟨avoided, special⟩ := Bool.and_eq_true_iff.mp (List.all_eq_true.mp checked c member)
  exact ⟨avoided, of_decide_eq_true special⟩

theorem cleanChars_isClean (cs : List Char) : IsClean (cleanChars cs) := by
  rw [cleanChars]
  split
  · exact ⟨by simp, by simp, by simp, by simp⟩
  · rename_i allowed
    refine ⟨fun c member refused => ?_, fun c member => ?_, Text.trim_isTrimmed _⟩
    · obtain ⟨avoided, special⟩ := disallowed_no_form c refused
      have before := Text.mem_of_mem_lower avoided special (Text.mem_of_mem_trim member)
      exact allowed (List.any_eq_true.mpr ⟨c, before, by simpa using refused⟩)
    · exact Text.isSmall_of_mem_lower (Text.mem_of_mem_trim member)

theorem cleanChars_of_allowed {cs : List Char} (allowed : ∀ c ∈ cs, c ∉ disallowed) :
    cleanChars cs = Text.trim (Text.lower cs) := by
  have dotless : '.' ∉ cs := fun member => allowed _ member (by decide)
  have none : cs.any disallowed.contains = false := by
    rw [List.any_eq_false]
    intro c member
    simpa using allowed c member
  simp only [cleanChars, afterLastDot_of_dotless dotless, none, Bool.false_eq_true, if_false]

theorem cleanChars_of_isClean {cs : List Char} (clean : IsClean cs) : cleanChars cs = cs := by
  rw [cleanChars_of_allowed clean.allowed, Text.lower_of_isSmall clean.small,
    Text.trim_of_isTrimmed clean.trimmed]

theorem toList_clean (text : String) : (clean text).toList = cleanChars text.toList :=
  String.toList_ofList

theorem clean_of_isClean {text : String} (clean : IsClean text.toList) :
    Extension.clean text = text := by
  rw [Extension.clean, cleanChars_of_isClean clean, String.ofList_toList]

theorem clean_clean (text : String) : clean (clean text) = clean text := by
  apply clean_of_isClean
  rw [toList_clean]
  exact cleanChars_isClean _

/-- An extension as it is kept: a text that is not empty and that cleaning leaves alone. -/
structure IsProper (text : String) : Prop where
  nonempty : text ≠ ""
  fixed : clean text = text

theorem clean_isProper {text : String} (nonempty : clean text ≠ "") : IsProper (clean text) :=
  ⟨nonempty, clean_clean text⟩

def isSimple (c : Char) : Bool :=
  0x61 ≤ c.toNat && c.toNat ≤ 0x7a || 0x30 ≤ c.toNat && c.toNat ≤ 0x39

theorem isSmall_of_isSimple {c : Char} (simple : isSimple c = true) : Text.IsSmall c := by
  have checked : (Text.caseRuns.all fun r =>
      (r.last.blt 0x30 || Nat.blt 0x39 r.first) && (r.last.blt 0x61 || Nat.blt 0x7a r.first)) =
      true := by
    decide +kernel
  simp only [isSimple, Bool.or_eq_true, Bool.and_eq_true, decide_eq_true_eq] at simple
  constructor
  · intro r member
    have apart := List.all_eq_true.mp checked r member
    simp only [Bool.and_eq_true, Bool.or_eq_true, Nat.blt_eq] at apart
    rw [Bool.eq_false_iff]
    intro covered
    simp only [Text.CaseRun.contains, Bool.and_eq_true, decide_eq_true_eq] at covered
    omega
  · rintro rfl
    revert simple
    decide

theorem isProper_of_isSimple {text : String} (nonempty : text ≠ "")
    (simple : ∀ c ∈ text.toList, isSimple c = true) : IsProper text := by
  have visible : ∀ c ∈ text.toList, Text.isBlank c = false := by
    intro c member
    have range := simple c member
    simp only [isSimple, Bool.or_eq_true, Bool.and_eq_true, decide_eq_true_eq] at range
    exact Text.isBlank_of_range (by omega) (by omega)
  refine ⟨nonempty, clean_of_isClean ⟨fun c member refused => ?_, fun c member => ?_, ?_, ?_⟩⟩
  · have checked : (disallowed.all fun c => !isSimple c) = true := by decide
    simpa [simple c member] using List.all_eq_true.mp checked c refused
  · exact isSmall_of_isSimple (simple c member)
  · intro c first
    exact visible c (List.mem_of_head? first)
  · intro c last
    exact visible c (List.mem_of_getLast? last)

end SourceTally.Extension
