import TaggedContent.Proofs.Resolution.Aliases
import TaggedContent.Proofs.Resolution.Chosen

namespace TaggedContent
namespace Resolution

/-!
# Locale entries in another order

Two locale entries are linked when they are for the same key, or when the name of one is
the key that the other is for: only then does it matter which comes first, for a lock is
looked up under the name of an entry and under its base.  Entries that are not linked can
be exchanged.  Any order in which linked entries keep theirs is reached by exchanging
neighbours, and so comes to the same entries.
-/

/-! ## Exchanging neighbours -/

/-- The second list is made from the first by exchanging neighbours that are not linked. -/
inductive Exchanged (linked : α → α → Prop) : List α → List α → Prop where
  | refl (list : List α) : Exchanged linked list list
  | cons (head : α) {tail tail' : List α} (rest : Exchanged linked tail tail') :
      Exchanged linked (head :: tail) (head :: tail')
  | swap {first second : α} (free : ¬ linked first second) (rest : List α) :
      Exchanged linked (first :: second :: rest) (second :: first :: rest)
  | trans {list middle list' : List α} (before : Exchanged linked list middle)
      (after : Exchanged linked middle list') : Exchanged linked list list'

namespace Exchanged

variable {linked : α → α → Prop}

/-- An element that is not linked to those before it can be moved to the front. -/
theorem to_front {element : α} {before : List α} (free : ∀ other ∈ before, ¬ linked other element)
    (after : List α) : Exchanged linked (before ++ element :: after) (element :: (before ++ after)) := by
  induction before with
  | nil => exact .refl _
  | cons head before inductionHypothesis =>
      rw [List.forall_mem_cons] at free
      exact .trans (.cons head (inductionHypothesis free.2)) (.swap free.1 (before ++ after))

/-- Any order in which linked elements keep theirs is reached by exchanges. -/
theorem of_perm {list list' : List α} (perm : list.Perm list') (distinct : list.Nodup)
    (order : ∀ first second, linked first second → [first, second].Sublist list →
      [first, second].Sublist list') :
    Exchanged linked list list' := by
  induction list' generalizing list with
  | nil =>
      rw [perm.eq_nil]
      exact .refl []
  | cons head tail inductionHypothesis =>
      have distinct' := perm.nodup_iff.mp distinct
      rw [List.nodup_cons] at distinct'
      rcases List.append_of_mem (perm.mem_iff.mpr List.mem_cons_self) with ⟨before, after, split⟩
      subst split
      -- What stands before the head would have to stay there if it were linked to it.
      have free : ∀ other ∈ before, ¬ linked other head := by
        intro other member link
        have first : [other].Sublist before := List.singleton_sublist.mpr member
        have pair : [other, head].Sublist (before ++ head :: after) :=
          first.append (List.cons_sublist_cons.mpr (List.nil_sublist after))
        have kept := order other head link pair
        have later : [head].Sublist tail := by
          cases kept with
          | cons _ rest => exact (List.sublist_cons_self other [head]).trans rest
          | cons_cons _ rest => exact rest
        exact distinct'.1 (List.singleton_sublist.mp later)
      have others : (before ++ after).Perm tail :=
        (List.perm_middle.symm.trans perm).cons_inv
      have smaller : (before ++ after).Sublist (before ++ head :: after) :=
        (List.Sublist.refl before).append (List.sublist_cons_self head after)
      refine .trans (to_front free after) (.cons head (inductionHypothesis others
        (smaller.nodup distinct) fun first second link pair => ?_))
      cases order first second link (pair.trans smaller) with
      | cons _ rest => exact rest
      | cons_cons _ rest =>
          have member : head ∈ before ++ after := pair.subset List.mem_cons_self
          exact absurd (others.mem_iff.mp member) distinct'.1

end Exchanged

/-! ## Entries that leave each other alone -/

/-- Whether the entry has a locale tag, with or without the mark. -/
def Settings.isLocale (settings : Settings) (key : Key) : Bool :=
  match key with
  | .index _ => false
  | .name name =>
      match Tag.ofKey settings.table name with
      | .tagged ⟨_, _, .locale _ _⟩ => true
      | _ => false

/-- Both are locale entries, for the same key. -/
def Settings.SameBase (settings : Settings) (first second : Key × Tree) : Prop :=
  settings.isLocale first.1 = true ∧ settings.isLocale second.1 = true ∧
    settings.base? first.1 = settings.base? second.1

/-- Both are locale entries, for the same key, or one for the key that the other has. -/
def Settings.Linked (settings : Settings) (first second : Key × Tree) : Prop :=
  settings.isLocale first.1 = true ∧ settings.isLocale second.1 = true ∧
    (settings.base? first.1 = settings.base? second.1 ∨
      (settings.base? first.1).map .name = some second.1 ∨
      (settings.base? second.1).map .name = some first.1)

section

variable {settings : Settings} {path : Path} {locked : String → Bool} {first second : Key × Tree}

theorem Settings.Linked.symm (linked : settings.Linked first second) :
    settings.Linked second first := by
  rcases linked with ⟨isLocale, isLocale', same | forth | back⟩
  · exact ⟨isLocale', isLocale, Or.inl same.symm⟩
  · exact ⟨isLocale', isLocale, Or.inr (Or.inr forth)⟩
  · exact ⟨isLocale', isLocale, Or.inr (Or.inl back)⟩

theorem Settings.isLocale_of_firstTarget? {key : Key} {base : String}
    (target : settings.firstTarget? locked key = some (.name base)) :
    settings.isLocale key = true := by
  rcases key with name | position
  · rw [firstTarget?] at target
    split at target
    case h_1 read => simp only [isLocale, read]
    case h_2 => cases target
  · cases target

/-- The locks agree on all keys that decide about a locale entry: its name and its base. -/
def Settings.LocksAlike (settings : Settings) (locked locked' : String → Bool) (key : Key) : Prop :=
  settings.isLocale key = true →
    ∀ name, key = .name name ∨ settings.base? key = some name → locked name = locked' name

theorem Settings.LocksAlike.of_locale {locked locked' : String → Bool} {name stripped base
    pattern : String} {marked : Bool} (alike : settings.LocksAlike locked locked' (.name name))
    (read : Tag.ofKey settings.table name = .tagged ⟨stripped, marked, .locale base pattern⟩) :
    locked name = locked' name ∧ locked base = locked' base := by
  have isLocale : settings.isLocale (.name name) = true := by
    simp only [Settings.isLocale, read]
  have isBase : settings.base? (.name name) = some base := by
    simp only [base?, read, TaggedKey.base]
  exact ⟨alike isLocale name (Or.inl rfl), alike isLocale base (Or.inr isBase)⟩

theorem Settings.LocksAlike.firstTarget?_eq {locked locked' : String → Bool} {key : Key}
    (alike : settings.LocksAlike locked locked' key) :
    settings.firstTarget? locked key = settings.firstTarget? locked' key := by
  rcases key with name | position
  · unfold firstTarget?
    dsimp only
    cases read : Tag.ofKey settings.table name with
    | comment => rfl
    | tagged tagged =>
        rcases tagged with ⟨stripped, marked, _ | ⟨base, pattern⟩ | _⟩
        · rfl
        · rcases alike.of_locale read with ⟨sameName, sameBase⟩
          dsimp only
          rw [sameName, sameBase]
        · rfl
  · rfl

theorem Settings.LocksAlike.firstChoice_eq {locked locked' : String → Bool} {entry : Key × Tree}
    (alike : settings.LocksAlike locked locked' entry.1) :
    settings.firstChoice path locked entry = settings.firstChoice path locked' entry := by
  rcases entry with ⟨name | position, value⟩
  · unfold firstChoice
    dsimp only at alike ⊢
    cases read : Tag.ofKey settings.table name with
    | comment => rfl
    | tagged tagged =>
        rcases tagged with ⟨stripped, marked, _ | ⟨base, pattern⟩ | _⟩
        · rfl
        · rcases alike.of_locale read with ⟨sameName, sameBase⟩
          dsimp only [selects]
          rw [sameName, sameBase]
        · rfl
  · rfl

/-- An entry locks no key that decides about another that it is not linked to. -/
theorem Settings.locksAlike_lockNext (locked : String → Bool)
    (free : ¬ settings.Linked first second) :
    settings.LocksAlike (settings.lockNext locked first) locked second.1 := by
  intro isLocale name matters
  rw [lockNext]
  cases claimed : settings.firstTarget? locked first.1 == some (.name name) with
  | false => exact Bool.or_false _
  | true =>
      have target := beq_iff_eq.mp claimed
      have isBase := base?_of_firstTarget? target
      refine absurd ⟨isLocale_of_firstTarget? target, isLocale, ?_⟩ free
      rcases matters with isName | sameBase
      · exact Or.inr (Or.inl (by rw [isBase, isName]; rfl))
      · exact Or.inl (isBase.trans sameBase.symm)

/-- In whatever order two entries come that are not linked, they lock the same keys. -/
theorem Settings.lockNext_comm (locked : String → Bool) (free : ¬ settings.Linked first second) :
    settings.lockNext (settings.lockNext locked first) second =
      settings.lockNext (settings.lockNext locked second) first := by
  have forth := (locksAlike_lockNext locked free).firstTarget?_eq
  have back := (locksAlike_lockNext locked fun link => free (Linked.symm link)).firstTarget?_eq
  funext name
  rw [lockNext, lockNext, lockNext, lockNext, forth, back, Bool.or_right_comm]

/-! ## The passes over reordered entries -/

theorem Settings.lockedBy_exchanged {entries entries' : Mapping}
    (exchanged : Exchanged settings.Linked entries entries') (locked : String → Bool) :
    settings.lockedBy locked entries = settings.lockedBy locked entries' := by
  induction exchanged generalizing locked with
  | refl => rfl
  | cons head rest inductionHypothesis => exact inductionHypothesis _
  | swap free rest =>
      rw [lockedBy_cons, lockedBy_cons, lockedBy_cons, lockedBy_cons, lockNext_comm locked free]
  | trans before after first second => exact (first locked).trans (second locked)

/-- The first pass keeps the same, in another order. -/
theorem Settings.firstChoices_exchanged {entries entries' : Mapping}
    (exchanged : Exchanged settings.Linked entries entries') {locked : String → Bool}
    {early : List (Option (Key × Tree))}
    (chosen : settings.firstChoices path locked entries = .ok early) :
    ∃ early', settings.firstChoices path locked entries' = .ok early' ∧ early.Perm early' := by
  induction exchanged generalizing locked early with
  | refl => exact ⟨early, chosen, .refl early⟩
  | cons head rest inductionHypothesis =>
      rcases firstChoices_cons_eq_ok_iff.mp chosen with ⟨kept, others, here, later, same⟩
      rcases inductionHypothesis later with ⟨others', later', perm⟩
      exact ⟨kept :: others', firstChoices_cons_eq_ok_iff.mpr ⟨kept, others', here, later', rfl⟩,
        same ▸ perm.cons kept⟩
  | @swap first second free rest =>
      rcases firstChoices_cons_eq_ok_iff.mp chosen with ⟨kept, others, here, later, same⟩
      rcases firstChoices_cons_eq_ok_iff.mp later with ⟨kept', others', next, last, same'⟩
      have forth := locksAlike_lockNext locked free
      have back := locksAlike_lockNext locked fun link => free (Linked.symm link)
      rw [forth.firstChoice_eq] at next
      rw [← back.firstChoice_eq] at here
      rw [lockNext_comm locked free] at last
      have swapped := firstChoices_cons_eq_ok_iff.mpr ⟨kept', kept :: others', next,
        firstChoices_cons_eq_ok_iff.mpr ⟨kept, others', here, last, rfl⟩, rfl⟩
      refine ⟨_, swapped, ?_⟩
      rw [same, same']
      exact .swap kept' kept others'
  | trans before after firstHypothesis secondHypothesis =>
      rcases firstHypothesis chosen with ⟨middle, chosen', perm⟩
      rcases secondHypothesis chosen' with ⟨early', chosen'', perm'⟩
      exact ⟨early', chosen'', perm.trans perm'⟩

/-- Resolvers that find the same in every field decide alike. -/
theorem verdict_eq_of_fields {node node' : Mapping}
    (sameFields : ∀ field, Entries.get? node (.name field) = Entries.get? node' (.name field))
    (resolver : Parameter.Resolver) (base parameter argument : String) (locale : Option String) :
    resolver.verdict ⟨node, base, parameter, argument, .null, locale⟩ =
      resolver.verdict ⟨node', base, parameter, argument, .null, locale⟩ :=
  resolver.verdict_congr ⟨node', base, parameter, argument, .null, locale⟩ node .null
    (congrArg (·.bind Parameter.patternText?) (sameFields argument))

theorem Settings.secondChoice_eq_of_fields {node node' : Mapping}
    (sameFields : ∀ field, Entries.get? node (.name field) = Entries.get? node' (.name field))
    (entry : Key × Tree) :
    settings.secondChoice path node locked entry = settings.secondChoice path node' locked entry := by
  unfold secondChoice
  simp only [verdict_eq_of_fields sameFields]

theorem Settings.markedTarget?_eq_of_fields {node node' : Mapping}
    (sameFields : ∀ field, Entries.get? node (.name field) = Entries.get? node' (.name field))
    (entry : Key × Tree) :
    settings.markedTarget? node locked entry = settings.markedTarget? node' locked entry := by
  unfold markedTarget? secondTarget? accepts
  simp only [verdict_eq_of_fields sameFields]

theorem Settings.secondChoice_of_isLocale {entry : Key × Tree}
    (isLocale : settings.isLocale entry.1 = true) (node : Mapping) :
    settings.secondChoice path node locked entry = .ok none := by
  rcases entry with ⟨name | position, value⟩
  · rw [Settings.isLocale] at isLocale
    split at isLocale
    case h_1 read => simp only [secondChoice, read]; rfl
    case h_2 => cases isLocale
  · cases isLocale

theorem Settings.markedTarget?_of_isLocale {entry : Key × Tree}
    (isLocale : settings.isLocale entry.1 = true) (node : Mapping) :
    settings.markedTarget? node locked entry = none := by
  rcases entry with ⟨name | position, value⟩
  · rw [Settings.isLocale] at isLocale
    split at isLocale
    case h_1 read => simp only [markedTarget?, secondTarget?, read, ite_self]
    case h_2 => cases isLocale
  · cases isLocale

end

/-! ## Reordered mappings -/

/-- The locale entries have been permuted among the places that they take, and any two of
them that are linked have kept their order. -/
structure Settings.Reordered (settings : Settings) (linked : Key × Tree → Key × Tree → Prop)
    (entries entries' : Mapping) : Prop where
  perm : entries.Perm entries'
  places : List.Forall₂ (fun entry entry' => entry = entry' ∨
    settings.isLocale entry.1 = true ∧ settings.isLocale entry'.1 = true) entries entries'
  order (first second : Key × Tree) (link : linked first second)
    (before : [first, second].Sublist entries) : [first, second].Sublist entries'

section

variable {settings : Settings} {path : Path} {entries entries' : Mapping}

/-- What is the same for all locale entries does not see the order of these. -/
theorem Settings.Reordered.map_eq {linked : Key × Tree → Key × Tree → Prop}
    (reordered : settings.Reordered linked entries entries') {image : Key × Tree → α} {value : α}
    (constant : ∀ entry, settings.isLocale entry.1 = true → image entry = value) :
    entries.map image = entries'.map image := by
  have places := reordered.places
  clear reordered
  induction places with
  | nil => rfl
  | cons here rest inductionHypothesis =>
      rw [List.map_cons, List.map_cons, inductionHypothesis]
      rcases here with same | ⟨isLocale, isLocale'⟩
      · rw [same]
      · rw [constant _ isLocale, constant _ isLocale']

/-- The second pass keeps the same and marks the same. -/
theorem Settings.Reordered.second_eq (path : Path) {linked : Key × Tree → Key × Tree → Prop}
    (reordered : settings.Reordered linked entries entries')
    (distinct : (Entries.keys entries).Nodup) (locked : String → Bool) :
    entries.mapM (settings.secondChoice path entries locked) =
        entries'.mapM (settings.secondChoice path entries' locked) ∧
      entries.filterMap (settings.markedTarget? entries locked) =
        entries'.filterMap (settings.markedTarget? entries' locked) := by
  have sameFields (field : String) :
      Entries.get? entries (.name field) = Entries.get? entries' (.name field) :=
    Entries.get?_of_perm reordered.perm distinct (.name field)
  have sameChoice : settings.secondChoice path entries locked =
      settings.secondChoice path entries' locked := funext (secondChoice_eq_of_fields sameFields)
  have sameMark : settings.markedTarget? entries locked = settings.markedTarget? entries' locked :=
    funext (markedTarget?_eq_of_fields sameFields)
  have choices : entries.map (settings.secondChoice path entries' locked) =
      entries'.map (settings.secondChoice path entries' locked) :=
    reordered.map_eq fun entry isLocale => secondChoice_of_isLocale isLocale entries'
  have marks : entries.map (settings.markedTarget? entries' locked) =
      entries'.map (settings.markedTarget? entries' locked) :=
    reordered.map_eq fun entry isLocale => markedTarget?_of_isLocale isLocale entries'
  rw [sameChoice, sameMark]
  constructor
  · have together := congrArg (List.mapM id) choices
    rwa [List.mapM_map, List.mapM_map] at together
  · have together := congrArg (List.filterMap id) marks
    rwa [List.filterMap_map, List.filterMap_map] at together

/-- What is chosen for reordered entries is what was chosen before, except for the order of
what the first pass keeps. -/
theorem Settings.Reordered.chosen (reordered : settings.Reordered settings.Linked entries entries')
    (distinct : (Entries.keys entries).Nodup) {early late : List (Option (Key × Tree))}
    (chosen : settings.Chosen path entries early late) :
    ∃ early', settings.Chosen path entries' early' late ∧ early.Perm early' ∧
      settings.markedBy entries = settings.markedBy entries' := by
  have exchanged : Exchanged settings.Linked entries entries' :=
    .of_perm reordered.perm (distinct.of_map Prod.fst) reordered.order
  have sameLocks := lockedBy_exchanged exchanged (fun _ => false)
  rcases firstChoices_exchanged exchanged chosen.first with ⟨early', first, perm⟩
  rcases reordered.second_eq path distinct (settings.lockedBy (fun _ => false) entries) with
    ⟨sameChoices, sameMarks⟩
  refine ⟨early', ⟨first, ?_⟩, perm, ?_⟩
  · rw [← sameLocks, ← sameChoices]
    exact chosen.second
  · rw [markedBy, markedBy, ← sameLocks, sameMarks]

end

/-- When locale entries are permuted among their places and linked ones keep their order, a
mapping that can be resolved still can, and it comes to the same entries. -/
theorem Settings.resolve_reordered {settings : Settings} {entries entries' : Mapping}
    (distinct : (Entries.keys entries).Nodup)
    (reordered : settings.Reordered settings.Linked entries entries') {result : Tree}
    (success : settings.resolve (.mapping entries) = .ok result) :
    ∃ kept kept', result = .mapping kept ∧
      settings.resolve (.mapping entries') = .ok (.mapping kept') ∧ kept.Perm kept' := by
  have distinct' : (Entries.keys entries').Nodup :=
    (reordered.perm.map Prod.fst).nodup_iff.mp distinct
  rw [resolve_mapping_choices settings distinct] at success
  rw [resolve_mapping_choices settings distinct']
  rcases found : settings.resolveChoices .root entries with error | kept
  · rw [found] at success
    cases success
  · rw [found] at success
    cases success
    rcases resolveChoices_eq_ok_iff.mp found with ⟨early, late, chosen, isKept⟩
    rcases reordered.chosen distinct chosen with ⟨early', chosen', perm, sameMarks⟩
    have found' := resolveChoices_eq_ok_iff.mpr ⟨early', late, chosen', rfl⟩
    refine ⟨kept, _, rfl, by rw [found']; rfl, ?_⟩
    have assembled : Entries.AlikeByKey Eq (Walk.assemble early late)
        (Walk.assemble early' late) := by
      rw [Entries.alikeByKey_eq_iff]
      intro key
      rw [chosen.get?_assemble distinct, chosen'.get?_assemble distinct',
        Entries.get?_of_perm (perm.filterMap id) (chosen.nodup_keys distinct)]
    have aliased := alikeByKey_addAliases (fun _ _ same => congrArg Tree.isSequence same)
      (settings.markedBy entries) assembled
    rw [isKept, ← sameMarks]
    exact Entries.perm_of_get?_eq (nodup_keys_addAliases _ (Entries.nodup_keys_ofPairs _))
      (nodup_keys_addAliases _ (Entries.nodup_keys_ofPairs _))
      (Entries.alikeByKey_eq_iff.mp aliased)

/-- Two locale entries for different keys, on either side of a plain one. -/
theorem Settings.resolve_reordered_titles :
    let settings : Settings := ⟨some "fr", none⟩
    let title : Key × Tree := (.name "title@fr", .string "Bonjour")
    let plain : Key × Tree := (.name "title", .string "Hello")
    let body : Key × Tree := (.name "body@fr", .null)
    (Entries.keys [title, plain, body]).Nodup ∧
      settings.Reordered settings.Linked [title, plain, body] [body, plain, title] ∧
      ∃ result kept kept', settings.resolve (.mapping [title, plain, body]) = .ok result ∧
        result = .mapping kept ∧
        settings.resolve (.mapping [body, plain, title]) = .ok (.mapping kept') ∧
        kept.Perm kept' := by
  intro settings title plain body
  have distinct : (Entries.keys [title, plain, body]).Nodup := by decide
  have unlinked : [title, plain, body].Pairwise fun first second =>
      ¬ settings.Linked first second := by
    unfold Settings.Linked
    decide +kernel
  have reordered : settings.Reordered settings.Linked [title, plain, body] [body, plain, title] :=
    ⟨(List.reverse_perm [title, plain, body]).symm,
      .cons (Or.inr (by decide +kernel)) (.cons (Or.inl rfl) (.cons (Or.inr (by decide +kernel)) .nil)),
      fun _ _ link before => absurd link (List.pairwise_iff_forall_sublist.mp unlinked before)⟩
  have succeeds : (settings.resolve (.mapping [title, plain, body])).isOk = true := by
    decide +kernel
  rcases success : settings.resolve (.mapping [title, plain, body]) with error | result
  · rw [success] at succeeds
    cases succeeds
  · rcases Settings.resolve_reordered distinct reordered success with ⟨kept, kept', found⟩
    exact ⟨distinct, reordered, result, kept, kept', rfl, found⟩

/-- It does not suffice that entries for the same key keep their order: a name that is
locked for another entry is not looked at any more. -/
theorem Settings.order_matters_for_linked :
    ¬ ∀ (settings : Settings) (entries entries' : Mapping) (result : Tree),
      (Entries.keys entries).Nodup → settings.Reordered settings.SameBase entries entries' →
        settings.resolve (.mapping entries) = .ok result →
          ∃ kept kept', result = .mapping kept ∧
            settings.resolve (.mapping entries') = .ok (.mapping kept') ∧ kept.Perm kept' := by
  intro never
  let settings : Settings := ⟨some "fr", none⟩
  let nested : Key × Tree := (.name "title@fr@fr", .string "A")
  let title : Key × Tree := (.name "title@fr", .string "B")
  have distinct : (Entries.keys [nested, title]).Nodup := by decide
  have unlinked : [nested, title].Pairwise fun first second =>
      ¬ settings.SameBase first second := by
    unfold Settings.SameBase
    decide +kernel
  have reordered : settings.Reordered settings.SameBase [nested, title] [title, nested] :=
    ⟨.swap title nested [],
      .cons (Or.inr (by decide +kernel)) (.cons (Or.inr (by decide +kernel)) .nil),
      fun _ _ link before => absurd link (List.pairwise_iff_forall_sublist.mp unlinked before)⟩
  have one : ((settings.resolve (.mapping [nested, title])).toOption.bind Tree.mapping?).map
      List.length = some 1 := by decide +kernel
  have two : ((settings.resolve (.mapping [title, nested])).toOption.bind Tree.mapping?).map
      List.length = some 2 := by decide +kernel
  rcases success : settings.resolve (.mapping [nested, title]) with error | result
  · rw [success] at one
    cases one
  · rcases never settings [nested, title] [title, nested] result distinct reordered success with
      ⟨kept, kept', isKept, success', perm⟩
    rw [success, isKept] at one
    rw [success'] at two
    have sameLength := perm.length_eq
    have short : kept.length = 1 := Option.some.inj one
    have long : kept'.length = 2 := Option.some.inj two
    omega

end Resolution
end TaggedContent
