import TaggedContent.Json.Printing
import TaggedContent.Json.Reading
import TaggedContent.Proofs.Json.Number
import TaggedContent.Proofs.Json.Quoted
import TaggedContent.Proofs.Tree.Naming

namespace TaggedContent
namespace Json

/-!
# Printed trees read back

The text of a tree is read as the tree with names for keys, by induction over the tree.
The induction speaks of the text of a subtree with more text behind it, and of any number
of steps above its length: each step reads at least one letter, so the text pays for them.
Only a number could go on into what follows, and in a printed tree a comma, a closing
bracket or nothing at all follows it.
-/

/-! ## Letters that begin a value -/

theorem skipSpace_cons {letter : Char} (printed : isSpace letter = false) (rest : List Char) :
    skipSpace (letter :: rest) = letter :: rest :=
  List.dropWhile_cons_of_neg (by simp [printed])

/-- The letter begins a value: it is not skipped, and closes no sequence. -/
def BeginsValue (letter : Char) : Prop :=
  isSpace letter = false ∧ letter ≠ ']'

theorem isSpace_of_isDigit {letter : Char} (isDigit : letter.isDigit = true) :
    isSpace letter = false := by
  rw [Bool.eq_false_iff]
  intro space
  simp only [isSpace, Bool.or_eq_true, beq_iff_eq] at space
  rcases space with ((same | same) | same) | same
  all_goals
    subst same
    cases isDigit

/-- The text of an integer begins with a digit or a minus sign. -/
theorem repr_begins (value : Int) :
    ∃ letter rest, value.repr.toList = letter :: rest ∧
      (letter.isDigit = true ∨ letter = '-') := by
  cases value with
  | ofNat magnitude =>
      rw [Int.repr, Nat.toList_repr]
      rcases digits : Nat.toDigits 10 magnitude with _ | ⟨digit, others⟩
      · exact absurd digits Nat.toDigits_ne_nil
      · exact ⟨digit, others, rfl, Or.inl
          (Nat.isDigit_of_mem_toDigits (by decide) (by decide) (digits ▸ List.mem_cons_self))⟩
  | negSucc predecessor =>
      rw [Int.repr, String.toList_append]
      exact ⟨'-', _, rfl, Or.inr rfl⟩

theorem print_begins {tree : Tree} (floatless : tree.Floatless) :
    ∃ letter rest, print tree = letter :: rest ∧ BeginsValue letter := by
  cases floatless with
  | null => exact ⟨'n', _, rfl, rfl, by decide⟩
  | bool value => cases value <;> exact ⟨_, _, rfl, rfl, by decide⟩
  | int value =>
      rcases repr_begins value.toInt with ⟨letter, rest, text, digit | minus⟩
      · refine ⟨letter, rest, text, isSpace_of_isDigit digit, ?_⟩
        rintro rfl
        cases digit
      · exact ⟨letter, rest, text, minus ▸ rfl, minus ▸ by decide⟩
  | string value => exact ⟨'"', _, rfl, rfl, by decide⟩
  | @sequence items values => cases items <;> exact ⟨'[', _, rfl, rfl, by decide⟩
  | @mapping entries values => cases entries <;> exact ⟨'\x7b', _, rfl, rfl, by decide⟩

/-! ## One step of reading -/

theorem value?_of_number {letter : Char} (begins : letter.isDigit = true ∨ letter = '-')
    (steps depth : Nat) (rest : List Char) :
    value? (steps + 1) depth (letter :: rest) = number? (letter :: rest) := by
  have printed : isSpace letter = false := by
    rcases begins with isDigit | minus
    · exact isSpace_of_isDigit isDigit
    · exact minus ▸ rfl
  have other : ∀ sign : Char, sign.isDigit = false → sign ≠ '-' → letter ≠ sign := by
    rintro sign noDigit noMinus rfl
    exact begins.elim (fun isDigit => Bool.false_ne_true (noDigit.symm.trans isDigit)) noMinus
  rw [value?, skipSpace_cons printed]
  split
  case h_1 same => exact absurd (List.cons.inj same).1 (other 'n' rfl (by decide))
  case h_2 same => exact absurd (List.cons.inj same).1 (other 't' rfl (by decide))
  case h_3 same => exact absurd (List.cons.inj same).1 (other 'f' rfl (by decide))
  case h_4 same => exact absurd (List.cons.inj same).1 (other '"' rfl (by decide))
  case h_5 same => exact absurd (List.cons.inj same).1 (other '[' rfl (by decide))
  case h_6 same => exact absurd (List.cons.inj same).1 (other '\x7b' rfl (by decide))
  case h_7 => rfl

theorem value?_of_quote (steps depth : Nat) (text rest : List Char) :
    value? (steps + 1) depth (quoted text ++ rest) = some (.string (.ofList text), rest) := by
  have split : quoted text ++ rest = '"' :: (text.flatMap escapeLetter ++ '"' :: rest) := by
    simp [quoted]
  rw [split, value?, skipSpace_cons rfl]
  simp only [unquote?_quoted, Option.map_some]

theorem value?_of_null (steps depth : Nat) (rest : List Char) :
    value? (steps + 1) depth (print .null ++ rest) = some (.null, rest) := by
  change value? (steps + 1) depth ('n' :: 'u' :: 'l' :: 'l' :: rest) = _
  rw [value?, skipSpace_cons rfl]
  rfl

theorem value?_of_bool (value : Bool) (steps depth : Nat) (rest : List Char) :
    value? (steps + 1) depth (print (.bool value) ++ rest) = some (.bool value, rest) := by
  cases value with
  | true =>
      change value? (steps + 1) depth ('t' :: 'r' :: 'u' :: 'e' :: rest) = _
      rw [value?, skipSpace_cons rfl]
      rfl
  | false =>
      change value? (steps + 1) depth ('f' :: 'a' :: 'l' :: 's' :: 'e' :: rest) = _
      rw [value?, skipSpace_cons rfl]
      rfl

theorem value?_of_empty_sequence (steps depth : Nat) (rest : List Char) :
    value? (steps + 1) (depth + 1) ('[' :: ']' :: rest) = some (.sequence [], rest) := by
  rw [value?, skipSpace_cons rfl]
  rfl

theorem value?_of_empty_mapping (steps depth : Nat) (rest : List Char) :
    value? (steps + 1) (depth + 1) ('\x7b' :: '\x7d' :: rest) = some (.mapping [], rest) := by
  rw [value?, skipSpace_cons rfl]
  rfl

/-- A sequence that does not close at once has a first item. -/
theorem value?_of_bracket (steps depth : Nat) {letter : Char} (begins : BeginsValue letter)
    (rest : List Char) :
    value? (steps + 1) (depth + 1) ('[' :: letter :: rest) =
      (value? steps depth (letter :: rest)).bind fun (item, rest) =>
        (items? steps depth rest).map fun (items, rest) => (.sequence (item :: items), rest) := by
  rw [value?, skipSpace_cons rfl]
  simp only [Nat.succ_ne_zero, if_false, skipSpace_cons begins.1, Nat.add_sub_cancel]
  split
  case h_1 same => exact absurd (List.cons.inj same).1 begins.2
  case h_2 => rfl

/-- A mapping that does not close at once begins with the quote of a key. -/
theorem value?_of_brace (steps depth : Nat) (rest : List Char) :
    value? (steps + 1) (depth + 1) ('\x7b' :: '"' :: rest) =
      (member? steps depth ('"' :: rest)).bind fun (first, rest) =>
        (members? steps depth rest).map fun (members, rest) =>
          (.mapping (Entries.ofPairs (first :: members)), rest) := by
  rw [value?, skipSpace_cons rfl]
  rfl

theorem items?_of_comma (steps depth : Nat) (rest : List Char) :
    items? (steps + 1) depth (',' :: rest) =
      (value? steps depth rest).bind fun (item, rest) =>
        (items? steps depth rest).map fun (items, rest) => (item :: items, rest) := by
  rw [items?, skipSpace_cons rfl]
  rfl

theorem items?_of_bracket (steps depth : Nat) (rest : List Char) :
    items? (steps + 1) depth (']' :: rest) = some ([], rest) := by
  rw [items?, skipSpace_cons rfl]
  rfl

theorem members?_of_comma (steps depth : Nat) (rest : List Char) :
    members? (steps + 1) depth (',' :: rest) =
      (member? steps depth rest).bind fun (member, rest) =>
        (members? steps depth rest).map fun (members, rest) => (member :: members, rest) := by
  rw [members?, skipSpace_cons rfl]
  rfl

theorem members?_of_brace (steps depth : Nat) (rest : List Char) :
    members? (steps + 1) depth ('\x7d' :: rest) = some ([], rest) := by
  rw [members?, skipSpace_cons rfl]
  rfl

theorem field?_printKey (key : Key) (rest : List Char) :
    field? (printKey key ++ ':' :: rest) = some (key.display, rest) := by
  have split : printKey key ++ ':' :: rest =
      '"' :: (key.display.toList.flatMap escapeLetter ++ '"' :: ':' :: rest) := by
    simp [printKey, quoted]
  rw [split, field?, skipSpace_cons rfl]
  simp only [unquote?_quoted, Option.bind_some, String.ofList_toList]
  rw [skipSpace_cons rfl]
  rfl

/-! ## Whole trees -/

/-- With room for so many containers the text of the tree is read as the tree with names
for keys, whatever follows that does not continue a number. -/
def Reads (depth : Nat) (tree : Tree) : Prop :=
  ∀ (steps : Nat) (rest : List Char), (print tree).length < steps → EndsNumber rest →
    value? steps depth (print tree ++ rest) = some (tree.keyedByNames, rest)

theorem endsNumber_printItems (items : List Tree) (rest : List Char) :
    EndsNumber (printItems items ++ rest) := by
  intro letter first
  cases items <;> cases first <;> decide

theorem endsNumber_printEntries (entries : Mapping) (rest : List Char) :
    EndsNumber (printEntries entries ++ rest) := by
  intro letter first
  cases entries <;> cases first <;> decide

/-- The items after the first are read one by one, up to the closing bracket. -/
theorem items?_printItems {depth : Nat} {items : List Tree}
    (values : ∀ item ∈ items, Reads depth item) {steps : Nat}
    (enough : (printItems items).length < steps) (rest : List Char) :
    items? steps depth (printItems items ++ rest) = some (items.map Tree.keyedByNames, rest) := by
  induction items generalizing steps with
  | nil =>
      cases steps with
      | zero => cases enough
      | succ steps => exact items?_of_bracket steps depth rest
  | cons item items inductionHypothesis =>
      rcases List.forall_mem_cons.mp values with ⟨here, later⟩
      cases steps with
      | zero => cases enough
      | succ steps =>
          rw [printItems, List.length_cons, List.length_append] at enough
          rw [printItems, List.cons_append, List.append_assoc, items?_of_comma,
            here steps _ (by omega) (endsNumber_printItems items rest), Option.bind_some]
          dsimp only
          rw [inductionHypothesis later (by omega)]
          rfl

/-- A member is read as its key and value, when its text fits the steps. -/
theorem member?_print {depth : Nat} {entry : Key × Tree} (value : Reads depth entry.2) {steps : Nat}
    (enough : (print entry.2).length < steps) {rest : List Char} (ends : EndsNumber rest) :
    member? (steps + 1) depth (printKey entry.1 ++ ':' :: (print entry.2 ++ rest)) =
      some ((entry.1.asName, entry.2.keyedByNames), rest) := by
  rw [member?, field?_printKey, Option.bind_some]
  dsimp only
  rw [value steps rest enough ends]
  rfl

theorem members?_printEntries {depth : Nat} {entries : Mapping}
    (values : ∀ entry ∈ entries, Reads depth entry.2) {steps : Nat}
    (enough : (printEntries entries).length < steps) (rest : List Char) :
    members? steps depth (printEntries entries ++ rest) =
      some (entries.map fun entry => (entry.1.asName, entry.2.keyedByNames), rest) := by
  induction entries generalizing steps with
  | nil =>
      cases steps with
      | zero => cases enough
      | succ steps => exact members?_of_brace steps depth rest
  | cons entry entries inductionHypothesis =>
      rcases List.forall_mem_cons.mp values with ⟨here, later⟩
      rcases entry with ⟨key, value⟩
      rw [printEntries, List.length_cons, List.length_append, List.length_cons, List.length_append]
        at enough
      obtain ⟨further, rfl⟩ : ∃ further, steps = further + 2 := ⟨steps - 2, by omega⟩
      have room : (print value).length < further := by omega
      have read := member?_print here room (endsNumber_printEntries entries rest)
      rw [printEntries, List.cons_append, List.append_assoc, List.cons_append, List.append_assoc,
        members?_of_comma, read, Option.bind_some]
      dsimp only
      rw [inductionHypothesis later (by omega)]
      rfl

theorem reads_sequence {depth : Nat} {items : List Tree} (floatless : ∀ item ∈ items, item.Floatless)
    (values : ∀ item ∈ items, Reads depth item) : Reads (depth + 1) (.sequence items) := by
  intro steps rest enough ends
  cases items with
  | nil =>
      cases steps with
      | zero => cases enough
      | succ steps => exact value?_of_empty_sequence steps depth rest
  | cons item items =>
      rcases List.forall_mem_cons.mp values with ⟨here, later⟩
      rcases print_begins (floatless item List.mem_cons_self) with ⟨letter, others, text, begins⟩
      rw [print, List.length_cons, List.length_append] at enough
      obtain ⟨further, rfl⟩ : ∃ further, steps = further + 1 := ⟨steps - 1, by omega⟩
      have first := here further (printItems items ++ rest) (by omega)
        (endsNumber_printItems items rest)
      rw [text, List.cons_append] at first
      rw [print, text, List.cons_append, List.append_assoc, List.cons_append,
        value?_of_bracket further depth begins, first, Option.bind_some]
      dsimp only
      rw [items?_printItems later (by omega)]
      rw [Tree.keyedByNames, Tree.itemsByNames_eq_map]
      rfl

theorem reads_mapping {depth : Nat} {entries : Mapping}
    (values : ∀ entry ∈ entries, Reads depth entry.2) : Reads (depth + 1) (.mapping entries) := by
  intro steps rest enough ends
  cases entries with
  | nil =>
      cases steps with
      | zero => cases enough
      | succ steps => exact value?_of_empty_mapping steps depth rest
  | cons entry entries =>
      rcases List.forall_mem_cons.mp values with ⟨here, later⟩
      rcases entry with ⟨key, value⟩
      rw [print, List.length_cons, List.length_append, List.length_cons, List.length_append]
        at enough
      obtain ⟨further, rfl⟩ : ∃ further, steps = further + 2 := ⟨steps - 2, by omega⟩
      have room : (print value).length < further := by omega
      have first := member?_print here room (endsNumber_printEntries entries rest)
      rw [print, List.cons_append, List.append_assoc, List.cons_append, List.append_assoc]
      refine (value?_of_brace (further + 1) depth _).trans ?_
      change (member? (further + 1) depth (printKey key ++ ':' :: _)).bind _ = _
      rw [first, Option.bind_some]
      dsimp only
      rw [members?_printEntries later (by omega)]
      rw [Tree.keyedByNames, Tree.entriesByNames_eq_map]
      rfl

theorem reads_of_floatless {tree : Tree} (floatless : tree.Floatless) {depth : Nat}
    (shallow : tree.depth ≤ depth) : Reads depth tree := by
  induction floatless generalizing depth with
  | null =>
      rintro (_ | steps) rest enough ends
      · cases enough
      · exact value?_of_null steps depth rest
  | bool value =>
      rintro (_ | steps) rest enough ends
      · cases enough
      · exact value?_of_bool value steps depth rest
  | int value =>
      rintro (_ | steps) rest enough ends
      · cases enough
      · rcases repr_begins value.toInt with ⟨letter, others, text, begins⟩
        have read := number?_repr value ends
        rw [text, List.cons_append] at read
        rw [print, text, List.cons_append, value?_of_number begins, read]
        rfl
  | string value =>
      rintro (_ | steps) rest enough ends
      · cases enough
      · rw [print, value?_of_quote, String.ofList_toList]
        rfl
  | @sequence items values inductionHypothesis =>
      obtain ⟨inner, rfl⟩ : ∃ inner, depth = inner + 1 := ⟨depth - 1, by
        rw [Tree.depth] at shallow
        omega⟩
      refine reads_sequence values fun item member => inductionHypothesis item member ?_
      exact Nat.le_trans (Tree.depth_le_of_mem_items member) (Nat.le_of_succ_le_succ shallow)
  | @mapping entries values inductionHypothesis =>
      obtain ⟨inner, rfl⟩ : ∃ inner, depth = inner + 1 := ⟨depth - 1, by
        rw [Tree.depth] at shallow
        omega⟩
      refine reads_mapping fun entry member => inductionHypothesis entry member ?_
      exact Nat.le_trans (Tree.depth_le_of_mem_entries member) (Nat.le_of_succ_le_succ shallow)

theorem read?_render_of_floatless {tree : Tree} (floatless : tree.Floatless)
    (shallow : tree.depth ≤ depthLimit) : read? (render tree) = some tree.keyedByNames := by
  have reads := reads_of_floatless floatless shallow ((print tree).length + 1) []
    (Nat.lt_succ_self _) .nil
  rw [List.append_nil] at reads
  rw [read?, render, String.toList_ofList]
  simp only [reads]
  rfl

/-- A key on its own is read as itself: an index is written as a number, and a name is
quoted even if it looks like one. -/
theorem readKey?_renderKey (key : Key) : readKey? (renderKey key) = some key := by
  cases key with
  | name text =>
      have read := read?_render_of_floatless (.string text) (Nat.zero_le depthLimit)
      rw [readKey?, renderKey]
      rw [render, print] at read
      rw [read]
      rfl
  | index position =>
      have read := read?_render_of_floatless (.int position) (Nat.zero_le depthLimit)
      rw [readKey?, renderKey]
      rw [render, print, String.ofList_toList] at read
      rw [read]
      rfl

/-- What is printed is read back.  A tree without floating-point numbers that nests at most
127 deep comes back with names for keys, where keys that look alike are merged: the names of
a mapping stand where they come first, each with the value of the last key that it displays.
If all keys are names the tree itself comes back, and so does any key on its own. -/
theorem read?_render :
    (∀ tree : Tree, tree.Floatless → tree.depth ≤ 127 →
      read? (render tree) = some tree.keyedByNames) ∧
    (∀ entries : Mapping, ∃ merged : Mapping,
      (Tree.mapping entries).keyedByNames = .mapping merged ∧
        Entries.keys merged = ((Entries.keys entries).map Key.asName).eraseDups ∧
        ∀ name : String, Entries.get? merged (.name name) =
          (entries.reverse.find? fun entry => entry.1.display == name).map
            (·.2.keyedByNames)) ∧
    (∀ tree : Tree, tree.Floatless → tree.depth ≤ 127 → tree.NameKeyed →
      read? (render tree) = some tree) ∧
    ∀ key : Key, readKey? (renderKey key) = some key := by
  refine ⟨fun tree floatless shallow => read?_render_of_floatless floatless shallow,
    Tree.keyedByNames_mapping, fun tree floatless shallow named => ?_, readKey?_renderKey⟩
  rw [read?_render_of_floatless floatless shallow, named.keyedByNames_eq]

/-- A mapping in which an index and a name look alike, and one whose strings and names need
escapes. -/
theorem read?_render_escaped :
    let scores : Tree := .mapping [(.index 7, .null), (.name "a", .sequence [.int (-12)]),
      (.name "7", .bool true)]
    let notes : Tree := .mapping [(.name "\"\t", .string "\\é\x01"), (.name "7", .sequence [])]
    (scores.Floatless ∧ scores.depth ≤ 127 ∧
      read? (render scores) =
        some (.mapping [(.name "7", .bool true), (.name "a", .sequence [.int (-12)])])) ∧
    notes.Floatless ∧ notes.depth ≤ 127 ∧ notes.NameKeyed ∧ read? (render notes) = some notes := by
  intro scores notes
  have scoresFloatless : scores.Floatless := by
    refine .mapping fun entry member => ?_
    simp only [List.mem_cons, List.not_mem_nil, or_false] at member
    rcases member with rfl | rfl | rfl
    · exact .null
    · refine .sequence fun item inside => ?_
      exact List.mem_singleton.mp inside ▸ .int _
    · exact .bool true
  have notesFloatless : notes.Floatless := by
    refine .mapping fun entry member => ?_
    rcases List.mem_pair.mp member with rfl | rfl
    · exact .string _
    · exact .sequence fun item inside => nomatch inside
  have notesNamed : notes.NameKeyed := by
    refine .mapping (by decide) (fun entry member => ?_) fun entry member => ?_
    · rcases List.mem_pair.mp member with rfl | rfl <;> exact ⟨_, rfl⟩
    · rcases List.mem_pair.mp member with rfl | rfl
      · exact .scalar trivial
      · exact .sequence fun item inside => nomatch inside
  exact ⟨⟨scoresFloatless, by decide, read?_render.1 scores scoresFloatless (by decide)⟩,
    notesFloatless, by decide, notesNamed,
    read?_render.2.2.1 notes notesFloatless (by decide) notesNamed⟩

end Json
end TaggedContent
