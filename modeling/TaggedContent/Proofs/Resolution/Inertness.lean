import TaggedContent.Proofs.Resolution.Thinning

namespace TaggedContent

/-!
# Inapplicable entries are inert

An entry whose name makes it inapplicable can be added to any mapping of a tree, at any
place and with any value: the tree is resolved as before, with the same result or the
same failure.  Both trees are the same once all entries with that name are left out.
-/

namespace Tree

/-- The larger tree has one more entry in one of its mappings, under a key that is new
there. -/
inductive Extended (key : Key) (value : Tree) : Tree → Tree → Prop where
  | here (before after : Mapping) (fresh : key ∉ Entries.keys (before ++ after)) :
      Extended key value (.mapping (before ++ after))
        (.mapping (before ++ (key, value) :: after))
  | entry (before after : Mapping) (parent : Key) {smaller larger : Tree}
      (below : Extended key value smaller larger) :
      Extended key value (.mapping (before ++ (parent, smaller) :: after))
        (.mapping (before ++ (parent, larger) :: after))
  | item (before after : List Tree) {smaller larger : Tree}
      (below : Extended key value smaller larger) :
      Extended key value (.sequence (before ++ smaller :: after))
        (.sequence (before ++ larger :: after))

/-- The added entry is all that the trees differ in. -/
theorem Extended.without_eq {name : String} {value smaller larger : Tree}
    (extended : Extended (.name name) value smaller larger) {names : String → Bool}
    (among : names name = true) : larger.without names = smaller.without names := by
  induction extended with
  | here before after fresh =>
      simp only [without, withoutEntries_eq_map, List.filter_append, List.filter_cons,
        Key.isAmong, among, Bool.not_true, Bool.false_eq_true, if_false]
  | entry before after parent below inductionHypothesis =>
      simp only [without, withoutEntries_eq_map, List.filter_append, List.filter_cons]
      cases parent.isAmong names with
      | true => rfl
      | false =>
          simp only [Bool.not_false, if_true, List.map_append, List.map_cons, inductionHypothesis]
  | item before after below inductionHypothesis =>
      simp only [without, withoutItems_eq_map, List.map_append, List.map_cons, inductionHypothesis]

end Tree

namespace Resolution

/-- Inapplicable entries may be left out of a tree, at any depth. -/
theorem Settings.resolve_without (settings : Settings) {names : String → Bool}
    (inapplicable : ∀ name, names name = true → settings.Inapplicable name) (tree : Tree) :
    settings.resolve (tree.without names) = settings.resolve tree := by
  have thins : settings.Thins settings names :=
    ⟨fun among => inapplicable _ among, fun _ => .refl settings _⟩
  have agree := Walk.resolveTree_without thins .root .initial tree .root
  have same := agree.outcome_fst (Progress.freshBelow_initial .root).shifted
  rw [Path.below_root, ← Settings.resolve_eq_outcome, ← Settings.resolve_eq_outcome] at same
  rw [same]
  rcases settings.resolve (tree.without names) with _ | _ <;> rfl

/-- An entry that its name makes inapplicable changes nothing, wherever it is added and
whatever stands below it. -/
theorem Settings.resolve_extended {settings : Settings} {name : String}
    (inapplicable : settings.Inapplicable name) {value smaller larger : Tree}
    (extended : Tree.Extended (.name name) value smaller larger) :
    settings.resolve larger = settings.resolve smaller := by
  have among : (name == name) = true := beq_self_eq_true name
  have dropped : ∀ other, (other == name) = true → settings.Inapplicable other := by
    intro other same
    rw [beq_iff_eq.mp same]
    exact inapplicable
  calc settings.resolve larger
      = settings.resolve (larger.without (· == name)) :=
        (settings.resolve_without dropped larger).symm
    _ = settings.resolve (smaller.without (· == name)) :=
        congrArg settings.resolve (extended.without_eq among)
    _ = settings.resolve smaller := settings.resolve_without dropped smaller

/-- A mismatched locale entry with a broken pattern below it, in front of the entry that
it is a translation of. -/
theorem Settings.resolve_extended_translation :
    Settings.Inapplicable ⟨some "en", none⟩ "title@fr" ∧
      Settings.resolve ⟨some "en", none⟩ (.sequence [.mapping [
          (.name "title@fr", .mapping [(.name "broken@(", .null)]),
          (.name "title", .string "Hello")]]) =
        Settings.resolve ⟨some "en", none⟩ (.sequence [.mapping [
          (.name "title", .string "Hello")]]) := by
  have inapplicable : Settings.Inapplicable ⟨some "en", none⟩ "title@fr" := by
    refine Or.inr fun locale given => ?_
    cases given
    decide +kernel
  exact ⟨inapplicable, resolve_extended inapplicable
    (.item [] [] (.here [] [(.name "title", .string "Hello")] (by decide)))⟩

end Resolution
end TaggedContent
