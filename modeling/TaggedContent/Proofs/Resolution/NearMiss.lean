import TaggedContent.Proofs.Tag.Registered
import TaggedContent.Proofs.Tag.Suggestion
import TaggedContent.Resolution.Event

namespace TaggedContent

/-!
# Short names in near misses

A name that is short may be one edit away from what is suggested for it, any other two, and
its near miss is reported less loudly than that of a longer one.  Short is a name of at most
three bytes in both places.  These are at most three characters, but three characters beyond
ASCII are more than three bytes.
-/

namespace Tag

variable {name found : String}

/-! ## Bytes and characters -/

theorem length_le_utf8ByteSize (text : String) : text.length ≤ text.utf8ByteSize := by
  induction text using String.push_induction with
  | empty => exact Nat.le_refl 0
  | push text letter inductionHypothesis =>
      rw [String.length_push, String.utf8ByteSize_push]
      exact Nat.add_le_add inductionHypothesis letter.utf8Size_pos

theorem utf8ByteSize_of_ascii (text : String)
    (ascii : ∀ letter ∈ text.toList, letter.toNat < 128) : text.utf8ByteSize = text.length := by
  induction text using String.push_induction with
  | empty => rfl
  | push text letter inductionHypothesis =>
      rw [String.toList_push] at ascii
      have before := inductionHypothesis fun other member =>
        ascii other (List.mem_append_left _ member)
      have last : letter.val ≤ 127 :=
        Nat.le_of_lt_succ (ascii letter (List.mem_append_right _ List.mem_cons_self))
      rw [String.length_push, String.utf8ByteSize_push, before, Char.utf8Size_eq_one_iff.mpr last]

/-! ## The limit of a short name -/

theorem distanceLimit_of_short (short : name.utf8ByteSize ≤ 3) : distanceLimit name = 1 :=
  if_pos short

theorem distanceLimit_of_long (long : 3 < name.utf8ByteSize) : distanceLimit name = 2 :=
  if_neg (Nat.not_le_of_lt long)

/-- An eligible name is suggested when there is no other. -/
theorem suggestions_singleton (isEligible : found ∈ eligible name [found]) :
    suggestions name [found] = [found] := by
  have alone : eligible name [found] = [found] := by
    rcases mem_eligible_iff.mp isEligible with ⟨_, within⟩
    exact List.filter_cons_of_pos (decide_eq_true within)
  rw [suggestions_eq_take, nearestFirst, alone, List.mergeSort_singleton]
  rfl

/-- All suggestions are one edit away for the names of at most three bytes, and for no
others. -/
theorem suggestions_one_away_iff :
    (∀ available, ∀ found ∈ suggestions name available, editDistance name found = 1) ↔
      name.utf8ByteSize ≤ 3 := by
  constructor
  · intro oneAway
    by_contra long
    have twoAway : editDistance name (name ++ "aa") = 2 := editDistance_append name "aa"
    have isEligible : name ++ "aa" ∈ eligible name [name ++ "aa"] := by
      apply mem_eligible_iff.mpr
      rw [twoAway, distanceLimit_of_long (Nat.lt_of_not_le long)]
      exact ⟨List.mem_cons_self, by decide⟩
    have one := oneAway [name ++ "aa"] (name ++ "aa")
      (by rw [suggestions_singleton isEligible]; exact List.mem_cons_self)
    rw [twoAway] at one
    cases one
  · intro short available found member
    rcases mem_eligible_iff.mp (mem_eligible_of_mem_suggestions member) with ⟨_, differs, within⟩
    rw [distanceLimit_of_short short] at within
    exact Nat.le_antisymm within differs

/-! ## What a near miss is about -/

/-- A locale pattern of the shape `name.value` gives the key this parameter name. -/
theorem hasParameterName_of_locale {table : Option Parameter.Table}
    {key stripped base pattern : String} {marked : Bool} {first last : List Char}
    (read : ofKey table key = .tagged ⟨stripped, marked, .locale base pattern⟩)
    (parts : parameterParts? pattern.toList = some (first, last)) :
    HasParameterName key (.ofList first) := by
  rcases ofKey_eq_tagged_iff.mp read with ⟨_, written, form, _⟩
  rcases parameterParts?_eq_some_iff.mp parts with ⟨split, noDot, named, valued⟩
  have whole : pattern = .ofList first ++ "." ++ .ofList last :=
    toList_parts.mpr (by simpa only [String.toList_ofList] using split)
  have given : ∀ letters : List Char, letters ≠ [] → String.ofList letters ≠ "" := by
    intro letters nonempty
    rwa [Ne, ← String.toList_eq_nil_iff, String.toList_ofList]
  cases form with
  | locale cut _ clean _ =>
      dsimp only at cut
      rw [whole] at cut clean
      rw [← written]
      apply hasParameterName_render cut clean
      · rwa [String.toList_ofList]
      · exact given first named
      · exact given last valued

/-- A near miss is about the parameter name in the last tag of the key, and lists what is
suggested for it out of the table. -/
theorem of_nearMiss?_eq_some {table : Option Parameter.Table} {key : String} {miss : NearMiss}
    (near : nearMiss? table key = some miss) :
    HasParameterName key miss.name ∧ miss.suggestions ≠ [] ∧
      ∃ registered, table = some registered ∧
        miss.suggestions = suggestions miss.name registered.names := by
  unfold nearMiss? at near
  split at near
  case h_2 => cases near
  case h_1 registered stripped marked base pattern read =>
      split at near
      case h_2 => cases near
      case h_1 parts =>
          dsimp only at near
          split at near
          case h_1 => cases near
          case h_2 found =>
              cases near
              exact ⟨hasParameterName_of_locale read parts, found, registered, rfl, rfl⟩

end Tag

namespace Resolution

/-- A near miss is reported at the debug level exactly when its name is short. -/
theorem Event.level_nearMiss (miss : Tag.NearMiss) :
    (Event.nearMiss miss).level = if miss.name.utf8ByteSize ≤ 3 then .debug else .warn := by
  simp only [level, resemblesLanguage, decide_eq_true_eq]

/-- The limits of near misses count bytes.  All that is suggested for a name is one edit away
from it exactly when the name has at most three bytes, which are at most three characters
and, in ASCII, as many as these.  A near miss is about the parameter name in the tag of the
key and lists what the table suggests for it.  It is reported at the debug level when this
name has at most three bytes, and all that it lists is then one edit away; it is reported as a
warning when the name has more. -/
theorem near_misses_by_bytes (name key : String) (table : Option Parameter.Table) :
    ((∀ available, ∀ found ∈ Tag.suggestions name available,
      Tag.editDistance name found = 1) ↔ name.utf8ByteSize ≤ 3) ∧
    name.length ≤ name.utf8ByteSize ∧
    ((∀ letter ∈ name.toList, letter.toNat < 128) → name.utf8ByteSize = name.length) ∧
    ∀ miss, Tag.nearMiss? table key = some miss →
      Tag.HasParameterName key miss.name ∧ miss.suggestions ≠ [] ∧
      (∃ registered, table = some registered ∧
        miss.suggestions = Tag.suggestions miss.name registered.names) ∧
      (miss.name.utf8ByteSize ≤ 3 → (Event.nearMiss miss).level = .debug ∧
        ∀ found ∈ miss.suggestions, Tag.editDistance miss.name found = 1) ∧
      (3 < miss.name.utf8ByteSize → (Event.nearMiss miss).level = .warn) := by
  refine ⟨Tag.suggestions_one_away_iff, Tag.length_le_utf8ByteSize name,
    Tag.utf8ByteSize_of_ascii name, fun miss near => ?_⟩
  rcases Tag.of_nearMiss?_eq_some near with ⟨has, given, registered, known, listed⟩
  refine ⟨has, given, ⟨registered, known, listed⟩, fun short => ⟨?_, ?_⟩, fun long => ?_⟩
  · rw [Event.level_nearMiss, if_pos short]
  · rw [listed]
    exact Tag.suggestions_one_away_iff.mpr short registered.names
  · rw [Event.level_nearMiss, if_neg (Nat.not_le_of_lt long)]

/-- A country where a parameter could stand, and a name in ASCII. -/
theorem near_misses_by_bytes_country :
    let table : Parameter.Table := ⟨[("env", some (.literal "prod")), ("channel", none)]⟩
    let miss : Tag.NearMiss := ⟨"title@en.US", "en", ["env"]⟩
    (∀ letter ∈ "abc".toList, letter.toNat < 128) ∧ "abc".utf8ByteSize = "abc".length ∧
      Tag.nearMiss? (some table) "title@en.US@" = some miss ∧
      Tag.HasParameterName "title@en.US@" "en" ∧ (Event.nearMiss miss).level = .debug ∧
      Tag.editDistance "en" "env" = 1 := by
  intro table miss
  have below : "abc".toList.all (fun letter => letter.toNat < 128) = true := by decide
  have ascii : ∀ letter ∈ "abc".toList, letter.toNat < 128 :=
    fun letter member => of_decide_eq_true (List.all_eq_true.mp below letter member)
  have near : Tag.nearMiss? (some table) "title@en.US@" = some miss := by decide +kernel
  rcases near_misses_by_bytes "abc" "title@en.US@" (some table) with ⟨_, _, sameUnits, reports⟩
  rcases reports miss near with ⟨has, _, _, short, _⟩
  rcases short (by decide) with ⟨quiet, oneAway⟩
  exact ⟨ascii, sameUnits ascii, near, has, quiet, oneAway "env" List.mem_cons_self⟩

/-- Three characters of which two are not in ASCII have five bytes: a name at two edits is
suggested for them, and their near miss is a warning. -/
theorem accented_name_exceeds_limits :
    ¬ (∀ (name : String) (available : List String), name.length ≤ 3 →
        ∀ found ∈ Tag.suggestions name available, Tag.editDistance name found = 1) ∧
    ¬ (∀ (table : Option Parameter.Table) (key : String) (miss : Tag.NearMiss),
        Tag.nearMiss? table key = some miss → miss.name.length ≤ 3 →
          (Event.nearMiss miss).level = .debug) := by
  constructor
  · intro limited
    have member : "ete" ∈ Tag.suggestions "été" ["eté", "ete"] := by decide +kernel
    have one := limited "été" ["eté", "ete"] (by decide) "ete" member
    exact absurd one (by decide +kernel)
  · intro limited
    have near : Tag.nearMiss? (some ⟨[("eté", none), ("ete", none)]⟩) "title@été.v" =
        some ⟨"title@été.v", "été", ["eté", "ete"]⟩ := by decide +kernel
    have quiet := limited _ _ _ near (by decide)
    exact absurd quiet (by decide)

end Resolution
end TaggedContent
