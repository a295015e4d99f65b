import SourceTally.Proofs.Json.Spelling

/- What is written is read back. A document is taken apart into its tokens on both ways: the text that
   is written for it is cut into these tokens, and these tokens are put together to it. -/
namespace SourceTally.Json

inductive Whole : Json → Prop where
  | null : Whole .null
  | bool (b : Bool) : Whole (.bool b)
  | number (n : Int) : Whole (.number n)
  | string (s : String) : Whole (.string s)
  | array {items : List Json} (each : ∀ item ∈ items, Whole item) : Whole (.array items)
  | object {members : List (String × Json)} (each : ∀ member ∈ members, Whole member.2) :
      Whole (.object members)

def joined : List (List Token) → List Token
  | [] => []
  | [part] => part
  | part :: rest => part ++ .comma :: joined rest

mutual

def tokensOf : Json → List Token
  | null => [.word null]
  | bool b => [.word (bool b)]
  | number n => [.word (number n)]
  | decimal digits places => [.word (decimal digits places)]
  | string s => [.text s]
  | array items => .openArray :: joined (itemTokens items) ++ [.closeArray]
  | object members => .openObject :: joined (memberTokens members) ++ [.closeObject]

def itemTokens : List Json → List (List Token)
  | [] => []
  | item :: rest => tokensOf item :: itemTokens rest

def memberTokens : List (String × Json) → List (List Token)
  | [] => []
  | (name, value) :: rest => (.text name :: .colon :: tokensOf value) :: memberTokens rest

end

section Parts

variable {items : List Json} {members : List (String × Json)}

theorem itemTokens_eq_map : itemTokens items = items.map tokensOf := by
  induction items with
  | nil => rw [itemTokens, List.map_nil]
  | cons item items ih => rw [itemTokens, ih, List.map_cons]

theorem memberTokens_eq_map :
    memberTokens members =
      members.map fun member => .text member.1 :: .colon :: tokensOf member.2 := by
  induction members with
  | nil => rw [memberTokens, List.map_nil]
  | cons member members ih => rw [memberTokens, ih, List.map_cons]

theorem itemChars_eq_map (level : Nat) : itemChars level items = items.map (chars level) := by
  induction items with
  | nil => rw [itemChars, List.map_nil]
  | cons item items ih => rw [itemChars, ih, List.map_cons]

theorem memberChars_eq_map (level : Nat) :
    memberChars level members =
      members.map fun member => stringChars member.1 ++ ':' :: ' ' :: chars level member.2 := by
  induction members with
  | nil => rw [memberChars, List.map_nil]
  | cons member members ih => rw [memberChars, ih, List.map_cons]

end Parts

section Cutting

def Apart (rest : List Char) : Prop := ∀ c, rest.head? = some c → isWordChar c = false

/-- A text is cut into the tokens, whatever comes after it. -/
def Spells (text : List Char) (tokens : List Token) : Prop :=
  ∀ rest, Apart rest →
    Place.between.tokens (text ++ rest) = (Place.between.tokens rest).map (tokens ++ ·)

theorem apart_cons {c : Char} (other : isWordChar c = false) (rest : List Char) :
    Apart (c :: rest) := by
  intro first same
  cases same
  exact other

theorem tokens_space (cs : List Char) (space : ∀ c ∈ cs, isSpace c = true) (rest : List Char) :
    Place.between.tokens (cs ++ rest) = Place.between.tokens rest := by
  induction cs with
  | nil => rfl
  | cons c cs ih =>
    obtain ⟨now, later⟩ := List.forall_mem_cons.mp space
    have silent : Place.between.step c = some ([], .between) := by
      simp [Place.step, Place.start, now]
    rw [List.cons_append, Place.tokens_silent silent, ih later]

theorem tokens_newLine (level : Nat) (rest : List Char) :
    Place.between.tokens (newLine level ++ rest) = Place.between.tokens rest := by
  refine tokens_space (newLine level) (fun c member => ?_) rest
  rcases List.mem_cons.mp member with rfl | blank
  · decide
  · rw [List.eq_of_mem_replicate blank]
    decide

theorem tokens_mark {c : Char} {token : Token} (mark : mark? c = some token) (rest : List Char) :
    Place.between.tokens (c :: rest) = (Place.between.tokens rest).map (token :: ·) := by
  have visible : isSpace c = false := by
    rw [Bool.eq_false_iff]
    intro space
    simp only [isSpace, Bool.or_eq_true, decide_eq_true_eq] at space
    rcases space with ((rfl | rfl) | rfl) | rfl <;> cases mark
  have emitted : Place.between.step c = some ([token], .between) := by
    simp [Place.step, Place.start, visible, mark]
  rw [Place.tokens, emitted]
  rfl

theorem tokens_word {read cs : List Char} {value : Json} (inside : ∀ c ∈ cs, isWordChar c = true)
    (word : word? (read ++ cs) = some value) {rest : List Char} (apart : Apart rest) :
    (Place.word read).tokens (cs ++ rest) =
      (Place.between.tokens rest).map (.word value :: ·) := by
  induction cs generalizing read with
  | nil =>
    rw [List.append_nil] at word
    cases rest with
    | nil => simp [Place.tokens, Place.finish, word]
    | cons c rest =>
      have other := apart c rfl
      simp [Place.tokens, Place.step, other, word, Function.comp_def]
  | cons c cs ih =>
    obtain ⟨now, later⟩ := List.forall_mem_cons.mp inside
    have silent : (Place.word read).step c = some ([], .word (read ++ [c])) := by
      simp [Place.step, now]
    rw [List.cons_append, Place.tokens_silent silent]
    exact ih later (by simpa using word)

theorem spells_word {cs : List Char} {value : Json} (inside : ∀ c ∈ cs, isWordChar c = true)
    (word : word? cs = some value) : Spells cs [.word value] := by
  intro rest apart
  cases cs with
  | nil => simp [word?, unsigned?] at word
  | cons c cs =>
    obtain ⟨now, later⟩ := List.forall_mem_cons.mp inside
    have silent : Place.between.step c = some ([], .word [c]) := by
      simp only [isWordChar, Bool.and_eq_true, Bool.not_eq_true', Option.isNone_iff_eq_none,
        decide_eq_true_eq] at now
      simp [Place.step, Place.start, now]
    rw [List.cons_append, Place.tokens_silent silent]
    exact tokens_word later word apart

theorem spells_text (s : String) : Spells (stringChars s) [.text s] :=
  fun rest _ => Place.tokens_stringChars s rest

theorem spells_member (name : String) {cs : List Char} {tokens : List Token}
    (value : Spells cs tokens) :
    Spells (stringChars name ++ ':' :: ' ' :: cs) (.text name :: .colon :: tokens) := by
  intro rest apart
  have blank : Place.between.tokens (' ' :: (cs ++ rest)) = Place.between.tokens (cs ++ rest) :=
    tokens_space [' '] (List.all_eq_true.mp rfl) _
  rw [List.append_assoc, Place.tokens_stringChars, List.cons_append, List.cons_append,
    tokens_mark (rfl : mark? ':' = some .colon), blank, value rest apart]
  simp [Function.comp_def]

variable {α : Type} {write : α → List Char} {tokens : α → List Token}

theorem spells_separated {parts : List α} (each : ∀ part ∈ parts, Spells (write part) (tokens part))
    (level : Nat) :
    Spells (separated level (parts.map write)) (joined (parts.map tokens)) := by
  induction parts with
  | nil => exact fun rest _ => by simp [separated, joined]
  | cons part parts ih =>
    obtain ⟨now, later⟩ := List.forall_mem_cons.mp each
    cases parts with
    | nil => exact now
    | cons next parts =>
      intro rest apart
      have others := ih later rest apart
      simp only [List.map_cons, separated, joined, List.append_assoc, List.cons_append] at others ⊢
      rw [now _ (apart_cons (by decide) _), tokens_mark (rfl : mark? ',' = some .comma),
        tokens_newLine, others]
      simp [Function.comp_def]

theorem spells_bracketed {parts : List α} (each : ∀ part ∈ parts, Spells (write part) (tokens part))
    {opening closing : Char} {first last : Token} (opens : mark? opening = some first)
    (closes : mark? closing = some last) (level : Nat) :
    Spells (bracketed opening closing level (parts.map write))
      (first :: joined (parts.map tokens) ++ [last]) := by
  intro rest apart
  unfold bracketed
  split
  · rename_i empty
    obtain rfl : parts = [] := by simpa using empty
    simp [tokens_mark opens, tokens_mark closes, joined, Function.comp_def]
  · have inner := spells_separated each (level + 1) (newLine level ++ closing :: rest)
      (apart_cons (by decide) _)
    simp only [List.append_assoc, List.cons_append, List.nil_append]
    rw [tokens_mark opens, tokens_newLine, inner, tokens_newLine, tokens_mark closes]
    simp [Function.comp_def]

theorem spells_chars {document : Json} (whole : Whole document) (level : Nat) :
    Spells (chars level document) (tokensOf document) := by
  induction whole generalizing level with
  | null =>
    rw [chars, tokensOf]
    exact spells_word (List.all_eq_true.mp rfl) rfl
  | bool b =>
    rw [chars, tokensOf]
    cases b with
    | false => exact spells_word (List.all_eq_true.mp rfl) rfl
    | true => exact spells_word (List.all_eq_true.mp rfl) rfl
  | number n =>
    rw [chars, tokensOf]
    exact spells_word (toString_isWordChar n) (word?_toString n)
  | string s =>
    rw [chars, tokensOf]
    exact spells_text s
  | array each ih =>
    rw [chars, tokensOf, itemChars_eq_map, itemTokens_eq_map]
    exact spells_bracketed (fun item member => ih item member (level + 1)) rfl rfl level
  | object each ih =>
    rw [chars, tokensOf, memberChars_eq_map, memberTokens_eq_map]
    refine spells_bracketed (fun member listed => ?_) rfl rfl level
    exact spells_member member.1 (ih member listed (level + 1))

end Cutting

section Assembling

inductive Ready : State → List Frame → Prop where
  | value (outer : List Frame) : Ready (.value outer) outer
  | firstItem (outer : List Frame) : Ready (.firstItem outer) (.array [] :: outer)

inductive ReadyName : State → List (String × Json) → List Frame → Prop where
  | name (members : List (String × Json)) (outer : List Frame) :
      ReadyName (.name members outer) members outer
  | firstName (outer : List Frame) : ReadyName (.firstName outer) [] outer

theorem run_append (state : State) (first second : List Token) :
    state.run (first ++ second) = (state.run first).bind (·.run second) :=
  List.foldlM_append

theorem run_cons {state next : State} {token : Token} (step : state.step token = some next)
    (rest : List Token) : state.run (token :: rest) = next.run rest := by
  rw [State.run, List.foldlM_cons, step]
  rfl

/-- A list of parts with commas between them, up to the closing token. `ready` tells in which states
    a part may begin when others are done, `after` which state it leads to, and `whole` which state
    the closing token leads to. -/
theorem run_joined {α : Type} {tokens : α → List Token} {closing : Token}
    (ready : State → List α → Prop) (after : List α → α → State) (whole : List α → State)
    (comma : ∀ done part, ∃ next, (after done part).step .comma = some next ∧
      ready next (done ++ [part]))
    (close : ∀ done part, (after done part).step closing = some (whole (done ++ [part])))
    {parts : List α}
    (each : ∀ part ∈ parts, ∀ state done, ready state done →
      state.run (tokens part) = some (after done part))
    (present : parts ≠ []) {state : State} {done : List α} (start : ready state done) :
    state.run (joined (parts.map tokens) ++ [closing]) = some (whole (done ++ parts)) := by
  induction parts generalizing state done with
  | nil => exact absurd rfl present
  | cons part parts ih =>
    obtain ⟨now, later⟩ := List.forall_mem_cons.mp each
    cases parts with
    | nil =>
      rw [List.map_singleton, joined, run_append, now state done start, Option.bind_some,
        run_cons (close done part)]
      rfl
    | cons other parts =>
      obtain ⟨next, stepped, begun⟩ := comma done part
      have rest := ih later (by simp) begun
      simp only [List.map_cons, joined, List.append_assoc, List.cons_append] at rest ⊢
      rw [run_append, now state done start, Option.bind_some, run_cons stepped]
      exact rest

theorem step_ready {state : State} {outer : List Frame} (ready : Ready state outer) {token : Token}
    (other : token ≠ .closeArray) : state.step token = State.begin outer token := by
  cases ready with
  | value => rfl
  | firstItem outer =>
    cases token with
    | closeArray => exact absurd rfl other
    | _ => rfl

theorem run_single {state next : State} {outer : List Frame} (ready : Ready state outer)
    {token : Token} (begun : State.begin outer token = some next) : state.run [token] = some next := by
  have other : token ≠ .closeArray := by
    rintro rfl
    cases begun
  rw [run_cons ((step_ready ready other).trans begun)]
  rfl

theorem run_tokensOf {document : Json} (whole : Whole document) {state : State} {outer : List Frame}
    (ready : Ready state outer) : state.run (tokensOf document) = some (.complete document outer) := by
  induction whole generalizing state outer with
  | null =>
    rw [tokensOf]
    exact run_single ready rfl
  | bool b =>
    rw [tokensOf]
    exact run_single ready rfl
  | number n =>
    rw [tokensOf]
    exact run_single ready rfl
  | string s =>
    rw [tokensOf]
    exact run_single ready rfl
  | @array items each ih =>
    have opened : state.step .openArray = some (.firstItem outer) := step_ready ready (by simp)
    rw [tokensOf, itemTokens_eq_map, List.cons_append, run_cons opened]
    -- an empty array is closed in the state in which its first item may begin
    cases items with
    | nil => rfl
    | cons item items =>
      refine run_joined (fun state done => Ready state (.array done :: outer))
        (fun done item => .complete item (.array done :: outer))
        (fun items => .complete (.array items) outer) ?_ ?_ ?_ (by simp) (.firstItem outer)
      · exact fun done item => ⟨_, rfl, .value _⟩
      · exact fun done item => rfl
      · exact fun item member state done start => ih item member start
  | @object members each ih =>
    have opened : state.step .openObject = some (.firstName outer) := step_ready ready (by simp)
    rw [tokensOf, memberTokens_eq_map, List.cons_append, run_cons opened]
    cases members with
    | nil => rfl
    | cons member members =>
      refine run_joined (fun state done => ReadyName state done outer)
        (fun done member => .complete member.2 (.object done member.1 :: outer))
        (fun members => .complete (.object members) outer) ?_ ?_ ?_ (by simp) (.firstName outer)
      · exact fun done member => ⟨_, rfl, .name _ _⟩
      · exact fun done member => rfl
      · intro member listed state done start
        have named : state.step (.text member.1) = some (.colon done member.1 outer) := by
          cases start with
          | name => rfl
          | firstName => rfl
        have parted : (State.colon done member.1 outer).step .colon =
            some (.value (.object done member.1 :: outer)) := rfl
        rw [run_cons named, run_cons parted]
        exact ih member listed (.value _)

end Assembling

theorem read_text {document : Json} (whole : Whole document) :
    read document.text = some document := by
  have cut := spells_chars whole 0 [] (fun _ none => by cases none)
  have assembled := run_tokensOf whole (.value [])
  rw [List.append_nil] at cut
  rw [read, text, String.toList_ofList, cut]
  simp only [Place.tokens, Place.finish, Option.map_some, List.append_nil, Option.bind_some,
    ofTokens, assembled]

end SourceTally.Json
