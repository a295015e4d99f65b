import SourceTally.Proofs.Extension.Clean

/- Which texts are extensions, and which names have them. A text that lower-casing leaves alone has
   small characters only, so what cleaning gives is told by rules about the text itself; and the
   extension of a name is spelled by what stands after its last dot, if something stands before. -/
namespace SourceTally

theorem Text.lower_eq_self_iff {cs : List Char} : lower cs = cs ↔ ∀ c ∈ cs, IsSmall c := by
  refine ⟨fun same c member => ?_, lower_of_isSmall⟩
  rw [← same] at member
  exact isSmall_of_mem_lower member

namespace Extension

theorem isClean_iff {cs : List Char} :
    IsClean cs ↔ (∀ c ∈ cs, c ∉ disallowed) ∧ Text.lower cs = cs ∧ Text.IsTrimmed cs := by
  rw [Text.lower_eq_self_iff]
  exact ⟨fun clean => ⟨clean.allowed, clean.small, clean.trimmed⟩,
    fun ⟨allowed, small, trimmed⟩ => ⟨allowed, small, trimmed⟩⟩

theorem exists_clean_iff {extension : String} :
    (∃ text, clean text = extension) ↔ IsClean extension.toList := by
  constructor
  · rintro ⟨text, rfl⟩
    rw [toList_clean]
    exact cleanChars_isClean _
  · intro form
    exact ⟨extension, clean_of_isClean form⟩

theorem clean_append (stem : String) {ending : String} (dotless : '.' ∉ ending.toList) :
    clean (stem ++ "." ++ ending) = clean ending := by
  have text : (stem ++ "." ++ ending).toList = stem.toList ++ '.' :: ending.toList := by simp
  rw [clean, text, cleanChars_append _ dotless, clean]

/-- Cleaning twice is cleaning once. The extensions that it gives are the texts in lower case without
    disallowed characters and without white space at their ends, and of a text with dots only what
    follows the last one matters. -/
theorem clean_reaches_normal_form :
    (∀ text, clean (clean text) = clean text) ∧
    (∀ extension, extension ≠ "" →
      ((∃ text, clean text = extension) ↔
        (∀ c ∈ extension.toList, c ∉ disallowed) ∧
          Text.lower extension.toList = extension.toList ∧ Text.IsTrimmed extension.toList)) ∧
    ∀ stem ending, '.' ∉ ending.toList → clean (stem ++ "." ++ ending) = clean ending := by
  refine ⟨clean_clean, fun extension _ => ?_, fun stem ending dotless => ?_⟩
  · rw [exists_clean_iff, isClean_iff]
  · exact clean_append stem dotless

/-- A dotted capital becomes two characters, and a sigma that closes a word has a form of its own;
    neither changes again when the white space around them is gone. -/
theorem clean_normal_form_of_capitals :
    '.' ∉ " \u0130\u039f\u03a3\u3000".toList ∧ "i\u0307\u03bf\u03c2" ≠ "" ∧
      clean ("a/b" ++ "." ++ " \u0130\u039f\u03a3\u3000") = "i\u0307\u03bf\u03c2" ∧
      clean "i\u0307\u03bf\u03c2" = "i\u0307\u03bf\u03c2" ∧
      Text.lower "i\u0307\u03bf\u03c2".toList = "i\u0307\u03bf\u03c2".toList := by
  obtain ⟨again, results, ending⟩ := clean_reaches_normal_form
  have dotless : '.' ∉ " \u0130\u039f\u03a3\u3000".toList := by decide
  have nonempty : "i\u0307\u03bf\u03c2" ≠ "" := by decide
  have spelled : clean " \u0130\u039f\u03a3\u3000" = "i\u0307\u03bf\u03c2" := by decide +kernel
  refine ⟨dotless, nonempty, (ending "a/b" _ dotless).trans spelled, ?_, ?_⟩
  · rw [← spelled]
    exact again _
  · exact ((results _ nonempty).mp ⟨_, spelled⟩).2.1

theorem extractChars_eq_iff {cs extension : List Char} (nonempty : extension ≠ []) :
    extractChars cs = extension ↔
      ∃ stem ending, cs = stem ++ '.' :: ending ∧ stem ≠ [] ∧ (∀ c ∈ ending, c ∉ disallowed) ∧
        extension = Text.trim (Text.lower ending) := by
  constructor
  · rintro rfl
    rcases lastDot_cases cs with dotless | ⟨stem, ending, rfl, dotless⟩
    · exact absurd (extractChars_of_dotless dotless) nonempty
    · rw [extractChars_append stem dotless] at nonempty ⊢
      split at nonempty
      · exact absurd rfl nonempty
      · rename_i started
        have allowed : ∀ c ∈ ending, c ∉ disallowed :=
          fun c member refused => nonempty (cleanChars_of_disallowed dotless member refused)
        rw [if_neg started]
        exact ⟨stem, ending, rfl, started, allowed, cleanChars_of_allowed allowed⟩
  · rintro ⟨stem, ending, rfl, started, allowed, rfl⟩
    have dotless : '.' ∉ ending := fun member => allowed _ member (by decide)
    rw [extractChars_append stem dotless, if_neg started, cleanChars_of_allowed allowed]

theorem cleanChars_afterLastDot (cs : List Char) : cleanChars (afterLastDot cs) = cleanChars cs := by
  rcases lastDot_cases cs with dotless | ⟨stem, ending, rfl, dotless⟩
  · rw [afterLastDot_of_dotless dotless]
  · rw [afterLastDot_append stem dotless, cleanChars_append stem dotless]

theorem extract_of_has {name : String} (extended : has name = true) :
    extract name = clean name := by
  have decided : hasChars name.toList = true := extended
  rw [extract, extractChars, if_pos decided, cleanChars_afterLastDot, clean]

/-- A name has an extension exactly when it ends with a dot that something stands before and a part
    without disallowed characters after it: this part, in lower case and then trimmed, unless nothing
    is left of it. Where the place of the dot allows for an extension, it is what cleaning makes of
    the whole name. -/
theorem extract_eq_iff_dotted (name : String) :
    (∀ extension, extension ≠ "" →
      (extract name = extension ↔
        ∃ stem ending : String, name = stem ++ "." ++ ending ∧ stem ≠ "" ∧
          (∀ c ∈ ending.toList, c ∉ disallowed) ∧
          extension = String.ofList (Text.trim (Text.lower ending.toList)))) ∧
    (has name = true → extract name = clean name) := by
  refine ⟨fun extension nonempty => ?_, extract_of_has⟩
  have some : extension.toList ≠ [] := by simpa using nonempty
  have read : extract name = extension ↔ extractChars name.toList = extension.toList := by
    rw [extract, ← String.toList_inj, String.toList_ofList]
  rw [read, extractChars_eq_iff some]
  constructor
  · rintro ⟨stem, ending, spelled, started, allowed, form⟩
    refine ⟨String.ofList stem, String.ofList ending, ?_, by simpa using started, ?_, ?_⟩
    · rw [← String.toList_inj, spelled]
      simp
    · rwa [String.toList_ofList]
    · rw [String.toList_ofList, ← form, String.ofList_toList]
  · rintro ⟨stem, ending, rfl, started, allowed, rfl⟩
    exact ⟨stem.toList, ending.toList, by simp, by simpa using started, allowed,
      String.toList_ofList⟩

theorem extract_after_two_dots :
    "gz" ≠ "" ∧ extract "..GZ\t" = "gz" ∧ has "..GZ\t" = true ∧ clean "..GZ\t" = "gz" := by
  obtain ⟨spelling, cleaned⟩ := extract_eq_iff_dotted "..GZ\t"
  have nonempty : "gz" ≠ "" := by decide
  have extended : has "..GZ\t" = true := by decide
  have allowed : ∀ c ∈ "GZ\t".toList, c ∉ disallowed := by
    have checked : ("GZ\t".toList.all fun c => !disallowed.contains c) = true := by decide
    simpa using List.all_eq_true.mp checked
  have spelled : extract "..GZ\t" = "gz" :=
    (spelling "gz" nonempty).mpr ⟨".", "GZ\t", rfl, by decide, allowed, by decide +kernel⟩
  exact ⟨nonempty, spelled, extended, (cleaned extended).symm.trans spelled⟩

end Extension

end SourceTally
