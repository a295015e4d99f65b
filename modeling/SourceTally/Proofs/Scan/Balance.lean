import SourceTally.Proofs.Scan.Plain

/- What the counts of a text add up to. Both scans go through the same lines, so they agree on lines
   and on classes of characters, and how many there are of each follows from the line feeds and the
   carriage returns before them. Where there are comments, each character is source, or part of a
   comment, or white space outside of comments. -/
namespace SourceTally.Text

def countPair (x y : Char) (cs : List Char) : Nat := (cs.zip cs.tail).count (x, y)

theorem countPair_cons (x y c : Char) (cs : List Char) :
    countPair x y (c :: cs) =
      countPair x y cs + if c = x ∧ cs.head? = some y then 1 else 0 := by
  cases cs with
  | nil => simp [countPair]
  | cons d cs => simp [countPair, List.count_cons]

theorem length_lines (cs : List Char) : (lines cs).length = cs.count '\n' + 1 := by
  induction cs using induction_on_lines with
  | nil => rw [lines_nil]; rfl
  | feed cs ih => simp [lines_feed, ih]
  | skip cs before ih => simp [lines_return cs before, ih]
  | char c cs feed kept ih => simp [lines_char feed kept, feed, ih]

theorem length_flatten_lines (cs : List Char) :
    (lines cs).flatten.length + cs.count '\n' + countPair '\r' '\n' cs = cs.length := by
  induction cs using induction_on_lines with
  | nil => rw [lines_nil]; rfl
  | feed cs ih =>
    rw [lines_feed, countPair_cons, List.flatten_cons, List.nil_append, List.count_cons_self,
      List.length_cons, if_neg (by simp)]
    omega
  | skip cs before ih =>
    rw [lines_return cs before, countPair_cons, if_pos ⟨rfl, before⟩, List.length_cons,
      List.count_cons_of_ne (by decide)]
    omega
  | char c cs feed kept ih =>
    obtain ⟨first, rest, shape⟩ := lines_shape cs
    rw [lines_char feed kept, countPair_cons, if_neg kept, List.count_cons_of_ne feed,
      List.length_cons, ← ih, shape, List.modifyHead_cons]
    simp only [List.flatten_cons, List.cons_append, List.length_cons]
    omega

end SourceTally.Text

namespace SourceTally

/-- What the counts of a text have to be, with or without comments. -/
structure Statistics.Measures (n : Statistics) (cs : List Char) : Prop where
  lines_nonneg : ∀ field ∈ n.lines.fields, 0 ≤ field.2
  characters_nonneg : ∀ field ∈ n.characters.fields, 0 ≤ field.2
  lines : n.lines.total = cs.count '\n' + 1
  consistent : n.lines.isConsistent = true
  classed : n.characters.total =
    n.characters.whitespace + n.characters.numerical + n.characters.alphabetical +
      n.characters.special
  length : n.characters.total = cs.length - cs.count '\n' - Text.countPair '\r' '\n' cs

namespace Lexer
open Scan.Comment (Mode Marker)

theorem lexLines_texts (mode : Mode) (texts : List (List Char)) :
    (lexLines mode texts).map (·.text) = texts := by
  induction texts generalizing mode with
  | nil => rfl
  | cons text texts ih =>
    rw [lexLines, List.map_cons, ih]
    rfl

theorem plainLines_texts (texts : List (List Char)) :
    (texts.map plainLine).map (·.text) = texts := by
  induction texts with
  | nil => rfl
  | cons text texts ih => rw [List.map_cons, List.map_cons, ih, plainLine_text]

theorem tally_measures {taken : List LexedLine} {cs : List Char}
    (texts : taken.map (·.text) = Text.lines cs) : (tally taken).Measures cs := by
  have sound := tally_sound taken
  have lines : taken.length = cs.count '\n' + 1 := by
    rw [← Text.length_lines, ← texts, List.length_map]
  have length := Text.length_flatten_lines cs
  rw [← texts, ← List.flatMap_def] at length
  constructor
  · exact sound.lines_nonneg
  · exact sound.characters_nonneg
  · simp only [tally, countLines]
    omega
  · exact decide_eq_true sound.consistent
  · exact sound.classed
  · simp only [tally, countChars]
    omega

theorem tally_classes {taken other : List LexedLine}
    (texts : taken.map (·.text) = other.map (·.text)) (kind : CharClass) :
    countClass (taken.flatMap (·.text)) kind = countClass (other.flatMap (·.text)) kind := by
  rw [List.flatMap_def, texts, ← List.flatMap_def]

structure Spot where
  char : Char
  inComment : Bool
  deriving DecidableEq, Repr

namespace Spot

def isSource (spot : Spot) : Bool := !spot.inComment && isVisible spot.char

def isGap (spot : Spot) : Bool := !spot.inComment && !isVisible spot.char

end Spot

def Lexeme.inComment : Lexeme → Bool
  | single .code _ => false
  | _ => true

def Lexeme.spots (x : Lexeme) : List Spot := x.chars.map fun c => ⟨c, x.inComment⟩

def spots (cs : List Char) : List Spot :=
  ((lexLines .code (Text.lines cs)).flatMap (·.lexemes)).flatMap Lexeme.spots

theorem spots_chars (xs : List Lexeme) :
    (xs.flatMap Lexeme.spots).map (·.char) = xs.flatMap Lexeme.chars := by
  induction xs with
  | nil => rfl
  | cons x xs ih =>
    have one : x.spots.map (·.char) = x.chars := by
      rw [Lexeme.spots, List.map_map]
      exact List.map_id _
    rw [List.flatMap_cons, List.map_append, ih, one, List.flatMap_cons]

theorem spots_source (xs : List Lexeme) :
    (xs.flatMap Lexeme.spots).countP Spot.isSource = xs.countP Lexeme.isSource := by
  induction xs with
  | nil => rfl
  | cons x xs ih =>
    have one : x.spots.countP Spot.isSource = if x.isSource then 1 else 0 := by
      cases x with
      | marker m => cases m <;> rfl
      | single mode c =>
        cases mode <;>
          simp [Lexeme.spots, Lexeme.inComment, Spot.isSource, isVisible, List.countP_cons]
    rw [List.flatMap_cons, List.countP_append, ih, one, List.countP_cons]
    omega

theorem spots_comment (xs : List Lexeme) :
    (xs.flatMap Lexeme.spots).countP Spot.inComment = (xs.map Lexeme.commentSize).sum := by
  induction xs with
  | nil => rfl
  | cons x xs ih =>
    have one : x.spots.countP Spot.inComment = x.commentSize := by
      cases x with
      | marker m => cases m <;> rfl
      | single mode c => cases mode <;> rfl
    rw [List.flatMap_cons, List.countP_append, ih, one, List.map_cons, List.sum_cons]

theorem lexLines_chars (mode : Mode) (texts : List (List Char)) :
    ((lexLines mode texts).flatMap (·.lexemes)).flatMap Lexeme.chars = texts.flatten := by
  induction texts generalizing mode with
  | nil => rfl
  | cons text texts ih =>
    rw [lexLines, List.flatMap_cons, List.flatMap_append, ih, List.flatten_cons]
    simp only [lexLine, lex_chars]

theorem length_eq_roles (all : List Spot) :
    all.length =
      all.countP Spot.isSource + all.countP Spot.inComment + all.countP Spot.isGap := by
  induction all with
  | nil => rfl
  | cons spot all ih =>
    obtain ⟨c, inComment⟩ := spot
    simp only [List.length_cons, List.countP_cons, ih]
    cases inComment <;> cases visible : isVisible c <;>
      simp [Spot.isSource, Spot.isGap, visible] <;> omega

theorem gaps_le_whitespace (all : List Spot) :
    all.countP Spot.isGap ≤ countClass (all.map (·.char)) .whitespace := by
  rw [countClass, List.countP_map]
  apply List.countP_mono_left
  intro spot _ gap
  simp [Spot.isGap, isVisible] at gap
  simpa using gap.2

/-- Each character of a text is counted as source or as comment, never as both, or it is white
    space outside of comments. -/
structure Balanced (n : CharCounts) (cs : List Char) : Prop where
  chars : (spots cs).map (·.char) = (Text.lines cs).flatten
  source : n.source = (spots cs).countP Spot.isSource
  comment : n.comment = (spots cs).countP Spot.inComment
  exclusive : ∀ spot ∈ spots cs, ¬(spot.isSource = true ∧ spot.inComment = true)
  balance : n.source + n.comment = n.total - (spots cs).countP Spot.isGap
  lower : n.total - n.whitespace ≤ n.source + n.comment
  upper : n.source + n.comment ≤ n.total

theorem statistics_balanced (cs : List Char) : Balanced (statistics cs).characters cs := by
  have chars : (spots cs).map (·.char) = (Text.lines cs).flatten := by
    rw [spots, spots_chars, lexLines_chars]
  have text : (lexLines .code (Text.lines cs)).flatMap (·.text) = (Text.lines cs).flatten := by
    rw [List.flatMap_def, lexLines_texts]
  have total : (statistics cs).characters.total = (spots cs).length := by
    simp only [statistics, tally, countChars, text]
    rw [← chars, List.length_map]
  have whitespace : (statistics cs).characters.whitespace =
      countClass ((spots cs).map (·.char)) .whitespace := by
    simp only [statistics, tally, countChars, text, chars]
  have source : (statistics cs).characters.source = (spots cs).countP Spot.isSource := by
    rw [spots, spots_source]
    rfl
  have comment : (statistics cs).characters.comment = (spots cs).countP Spot.inComment := by
    rw [spots, spots_comment]
    rfl
  -- The balance and both bounds are arithmetic once every spot has its role.
  have roles := length_eq_roles (spots cs)
  have gaps := gaps_le_whitespace (spots cs)
  refine ⟨chars, source, comment, ?_, ?_, ?_, ?_⟩
  · rintro spot - ⟨isSource, inComment⟩
    simp [Spot.isSource, inComment] at isSource
  · omega
  · omega
  · omega

end Lexer

/-- Both parsers accept every text that is not empty, and they count the same lines, characters and
    classes of characters, as many as the text has. With comments each character is counted as source
    or as comment, never as both, or it is white space outside of comments. -/
theorem parse_counts_each_character_once (p q : Parser) (family : p.scanner = .cFamily)
    (plain : q.scanner = .plain) (text : String) (nonempty : text ≠ "") :
    ∃ a b, p.parse (.str text) = .ok a ∧ q.parse (.str text) = .ok b ∧
      a.Measures text.toList ∧ b.Measures text.toList ∧
      a.characters.total = b.characters.total ∧
      a.characters.whitespace = b.characters.whitespace ∧
      a.characters.numerical = b.characters.numerical ∧
      a.characters.alphabetical = b.characters.alphabetical ∧
      a.characters.special = b.characters.special ∧
      Lexer.Balanced a.characters text.toList := by
  have taken := Lexer.lexLines_texts .code (Text.lines text.toList)
  have alone := Lexer.plainLines_texts (Text.lines text.toList)
  have classes := Lexer.tally_classes (taken.trans alone.symm)
  have measures := Lexer.tally_measures taken
  have measures' := Lexer.tally_measures alone
  refine ⟨Scan.withComments text.toList, Scan.plain text.toList, ?_, ?_, ?_⟩
  · exact parse_scanned nonempty (by rw [family]; rfl)
  · exact parse_scanned nonempty (by rw [plain]; rfl)
  · rw [withComments_eq_lexer, plain_eq_tally]
    refine ⟨measures, measures', measures.length.trans measures'.length.symm, ?_, ?_, ?_, ?_,
      Lexer.statistics_balanced _⟩
    · exact congrArg Nat.cast (classes .whitespace)
    · exact congrArg Nat.cast (classes .numerical)
    · exact congrArg Nat.cast (classes .alphabetical)
    · exact congrArg Nat.cast (classes .special)

/-- Markers that touch each other, a slash that two of them could use, carriage returns with and
    without a line feed, and white space inside and outside of comments. -/
theorem parse_counts_touching_markers :
    let p : Parser := ⟨0, .cFamily, "cfamily", "C-Family", []⟩
    let q : Parser := ⟨1, .plain, "plain", "Plain Text", []⟩
    let text := "a /*/ \r\r\n*// b\r //\t/*\n\n*/ 7"
    p.scanner = .cFamily ∧ q.scanner = .plain ∧ text ≠ "" ∧
      ∃ a b, p.parse (.str text) = .ok a ∧ q.parse (.str text) = .ok b ∧
        a.Measures text.toList ∧ b.Measures text.toList ∧
        a.characters.total = 23 ∧ a.lines.total = 4 ∧
        a.characters.source + a.characters.comment = 23 - 5 ∧
        Lexer.Balanced a.characters text.toList := by
  intro p q text
  have nonempty : text ≠ "" := by decide
  obtain ⟨a, b, parsed, parsed', measures, measures', _, _, _, _, _, balanced⟩ :=
    parse_counts_each_character_once p q rfl rfl text nonempty
  have total : a.characters.total = 23 := measures.length.trans (by decide)
  have gaps : (Lexer.spots text.toList).countP Lexer.Spot.isGap = 5 := by decide
  have balance := balanced.balance
  rw [total, gaps] at balance
  exact ⟨rfl, rfl, nonempty, a, b, parsed, parsed', measures, measures', total,
    measures.lines.trans (by decide), balance, balanced⟩

end SourceTally
