import SourceTally.Proofs.Extension.Clean
import SourceTally.Proofs.Path

/- The extension of a file inside of a folder. It is that of the name of the file alone, whatever dots
   are in the folder, but for hidden files: in a path their dot is not the first character any more,
   so the text after it becomes an extension. -/
namespace SourceTally.Extension

def isHidden (name : String) : Bool :=
  name.toList.head? = some '.' && !name.toList.tail.contains '.'

theorem isHidden_iff {name : String} :
    isHidden name = true ↔ name.toList.head? = some '.' ∧ '.' ∉ name.toList.tail := by
  simp [isHidden]

theorem extractChars_folder (folder : List Char) {name : List Char} (base : '/' ∉ name) :
    extractChars (folder ++ '/' :: name) =
      if name.head? = some '.' ∧ '.' ∉ name.tail then cleanChars name else extractChars name := by
  rcases lastDot_cases name with dotless | ⟨stem, ending, rfl, dotless⟩
  · have shown : ¬(name.head? = some '.' ∧ '.' ∉ name.tail) :=
      fun hidden => dotless (List.mem_of_head? hidden.1)
    rw [if_neg shown, extractChars_of_dotless dotless]
    -- the last dot, if there is one, is in the folder, and a slash stands after it
    rcases lastDot_cases folder with undotted | ⟨before, after, rfl, undotted⟩
    · exact extractChars_of_dotless (by simp [undotted, dotless])
    · have rest : '.' ∉ after ++ '/' :: name := by simp [undotted, dotless]
      have slash : '/' ∈ after ++ '/' :: name := by simp
      rw [List.append_assoc, List.cons_append, extractChars_append before rest,
        cleanChars_of_disallowed rest slash (by decide), ite_self]
  · have regrouped : folder ++ '/' :: (stem ++ '.' :: ending) =
        (folder ++ '/' :: stem) ++ '.' :: ending := by simp
    rw [regrouped, extractChars_append _ dotless, extractChars_append _ dotless,
      cleanChars_append stem dotless, if_neg (by simp)]
    cases stem with
    | nil => simp [dotless]
    | cons c stem => simp

theorem extract_folder (folder : String) {name : String} (base : Unslashed name) :
    extract (folder ++ "/" ++ name) =
      if isHidden name = true then clean name else extract name := by
  have text : (folder ++ "/" ++ name).toList = folder.toList ++ '/' :: name.toList := by simp
  rw [extract, text, extractChars_folder folder.toList base]
  simp only [isHidden_iff]
  split
  · rfl
  · rfl

theorem extract_of_isHidden {name : String} (hidden : isHidden name = true) :
    extract name = "" := by
  obtain ⟨first, dotless⟩ := isHidden_iff.mp hidden
  have shape : name.toList = [] ++ '.' :: name.toList.tail := (List.cons_head?_tail first).symm
  rw [extract, shape, extractChars_append [] dotless, if_pos rfl]

/-- A file in a folder has the extension of its name, unless the name is that of a hidden file that
    spells an extension after its dot. Such a file has none by its name, and has this extension in
    every folder. -/
theorem extract_folder_eq_iff (folder : String) {name : String} (base : Unslashed name) :
    (extract (folder ++ "/" ++ name) = extract name ↔
      ¬(isHidden name = true ∧ clean name ≠ "")) ∧
    (isHidden name = true →
      extract name = "" ∧ extract (folder ++ "/" ++ name) = clean name) := by
  rw [extract_folder folder base]
  by_cases hidden : isHidden name = true
  · rw [if_pos hidden, extract_of_isHidden hidden]
    simp [hidden]
  · rw [if_neg hidden]
    simp [hidden]

theorem extract_folder_dotted :
    Unslashed "archive.tar.GZ " ∧
      extract (".d.x" ++ "/" ++ "archive.tar.GZ ") = extract "archive.tar.GZ " ∧
      extract "archive.tar.GZ " = "gz" := by
  have base : Unslashed "archive.tar.GZ " := by decide
  have shown : ¬(isHidden "archive.tar.GZ " = true ∧ clean "archive.tar.GZ " ≠ "") := by
    decide +kernel
  exact ⟨base, (extract_folder_eq_iff ".d.x" base).1.mpr shown, by decide +kernel⟩

/-- A hidden file gets an extension from the folder that it lies in. -/
theorem extract_hidden_in_folder :
    Unslashed ".c" ∧ extract ".c" = "" ∧ extract ("d" ++ "/" ++ ".c") = "c" := by
  decide +kernel

end SourceTally.Extension
