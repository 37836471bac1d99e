import TaggedContent.Proofs.Resolution.Passes
import TaggedContent.Proofs.Tag

namespace TaggedContent
namespace Resolution

/-!
# Walks that mirror each other

Two walks take the same decisions when their caches are sound and the paths that they
are at have the same locks and marks.  `Mirrors` lists what a relation between their
states must allow for this: it is kept by whatever a walk does at its path.  Under it
every step of either pass has the same outcome on both sides, provided that the walks
over the value of the entry have.  The two sides may differ in their paths, in their
settings as far as the entry is read alike, and in the mapping that a resolver sees as
far as the field that it looks up is the same.
-/

/-- A relation of states under which a walk at `path` takes the same decisions as one
at `other`, and which is kept by what they do there. -/
structure Mirrors (related : Progress → Progress → Prop) (path other : Path) : Prop where
  sound {first second : Progress} (holds : related first second) :
    first.patterns.Sound ∧ second.patterns.Sound
  locked {first second : Progress} (holds : related first second) (key : String) :
    first.locks.isLocked path key = second.locks.isLocked other key
  marked {first second : Progress} (holds : related first second) :
    first.marks.keysAt path = second.marks.keysAt other
  idle {first second third fourth : Progress} (holds : related first second)
    (left : first.Idle third) (right : second.Idle fourth) : related third fourth
  lock {first second : Progress} (holds : related first second) (key : String) :
    related { first with locks := first.locks.lock path key }
      { second with locks := second.locks.lock other key }
  mark {first second : Progress} (holds : related first second) (key : String) :
    related { first with marks := first.marks.mark path key }
      { second with marks := second.marks.mark other key }
  forget {first second : Progress} (holds : related first second) :
    related { first with marks := first.marks.forget path }
      { second with marks := second.marks.forget other }

/-- Both settings have the same locale, and read this name alike. -/
structure Settings.ReadsAlike (left right : Settings) (name : String) : Prop where
  locale : left.locale = right.locale
  tag : Tag.ofKey left.table name = Tag.ofKey right.table name
  resolver {stripped : String} {marked : Bool} {base parameter argument : String}
    (tagged : Tag.ofKey left.table name =
      .tagged ⟨stripped, marked, .parameter base parameter argument⟩) :
    left.resolver? parameter = right.resolver? parameter

theorem Settings.ReadsAlike.refl (settings : Settings) (name : String) :
    settings.ReadsAlike settings name :=
  ⟨rfl, rfl, fun _ => rfl⟩

/-- Both walks keep an entry, under the same key and with related values, or neither
does. -/
def KeptAlike (alike : Tree → Tree → Prop) : Option (Key × Tree) → Option (Key × Tree) → Prop :=
  Option.Rel fun entry entry' => entry.1 = entry'.1 ∧ alike entry.2 entry'.2

theorem KeptAlike.eq {kept kept' : Option (Key × Tree)} (same : KeptAlike Eq kept kept') :
    kept = kept' := by
  cases same with
  | none => rfl
  | some entries => rw [Prod.ext entries.1 entries.2]

namespace Mirrors

open Walk

variable {related before after : Progress → Progress → Prop} {path other : Path}
  {failures : InvalidPattern → InvalidPattern → Prop} {left right : Settings}

/-- Steps without a trace, on either side. -/
theorem agree_of_idle (mirrors : Mirrors related path other) {first second : Walk α} {value : α}
    (leftward : ∀ progress, ∃ last, first.outcome progress = (.ok value, last) ∧
      progress.Idle last)
    (rightward : ∀ progress, ∃ last, second.outcome progress = (.ok value, last) ∧
      progress.Idle last) :
    Agree related first second related failures := by
  intro progress progress' holds
  rcases leftward progress with ⟨last, outcome, idle⟩
  rcases rightward progress' with ⟨last', outcome', idle'⟩
  rw [outcome, outcome']
  exact ⟨rfl, mirrors.idle holds idle idle'⟩

theorem agree_report (mirrors : Mirrors related path other) (event event' : Event) :
    Agree related (report event) (report event') related failures :=
  mirrors.agree_of_idle (fun progress => ⟨_, outcome_report event progress, rfl, rfl, id⟩)
    (fun progress => ⟨_, outcome_report event' progress, rfl, rfl, id⟩)

theorem agree_drop (mirrors : Mirrors related path other) (key : String) (reason : DropReason)
    (value : α) :
    Agree related (drop path key reason >>= fun _ => pure value)
      (drop other key reason >>= fun _ => pure value) related failures :=
  (mirrors.agree_report _ _).bind fun _ => Agree.pure value fun _ _ holds => holds

theorem agree_isLocked (mirrors : Mirrors related path other) (key : String) :
    Agree related (isLocked path key) (isLocked other key) related failures :=
  fun _ _ holds => ⟨mirrors.locked holds key, holds⟩

/-- Steps on the cache whose answers are made from the same one. -/
theorem lockstep_withPatterns (mirrors : Mirrors related path other)
    (places : ∀ key pattern, failures ⟨path, key, pattern⟩ ⟨other, key, pattern⟩) (key : String)
    {step : Pattern.Cache → Except Pattern.PatternError α × Pattern.Cache}
    {step' : Pattern.Cache → Except Pattern.PatternError β × Pattern.Cache}
    {answer : Except Pattern.PatternError γ} (image : γ → α) (image' : γ → β)
    (answers : Pattern.Cache.Answers step (answer.map image))
    (answers' : Pattern.Cache.Answers step' (answer.map image')) :
    Lockstep related (withPatterns path key step) (withPatterns other key step')
      (fun value result first second =>
        (∃ found, value = image found ∧ result = image' found) ∧ related first second)
      failures := by
  intro first second holds
  rcases mirrors.sound holds with ⟨sound, sound'⟩
  rcases answers first.patterns sound with ⟨same, keeps⟩
  rcases answers' second.patterns sound' with ⟨same', keeps'⟩
  rw [outcome_withPatterns, outcome_withPatterns, same, same']
  cases answer with
  | error error => exact places key error.pattern
  | ok value =>
      exact ⟨⟨value, rfl, rfl⟩,
        mirrors.idle holds ⟨rfl, rfl, fun _ => keeps⟩ ⟨rfl, rfl, fun _ => keeps'⟩⟩

theorem agree_withPatterns (mirrors : Mirrors related path other)
    (places : ∀ key pattern, failures ⟨path, key, pattern⟩ ⟨other, key, pattern⟩) (key : String)
    {step step' : Pattern.Cache → Except Pattern.PatternError α × Pattern.Cache}
    {answer : Except Pattern.PatternError α} (answers : Pattern.Cache.Answers step answer)
    (answers' : Pattern.Cache.Answers step' answer) :
    Agree related (withPatterns path key step) (withPatterns other key step') related
      failures := by
  have itself : answer.map id = answer := by cases answer <;> rfl
  rw [← itself] at answers answers'
  apply (mirrors.lockstep_withPatterns places key id id answers answers').mono fun _ _ => id
  rintro value result first second ⟨⟨found, rfl, rfl⟩, holds⟩
  exact ⟨rfl, holds⟩

theorem agree_selectLocale (mirrors : Mirrors related path other)
    (places : ∀ key pattern, failures ⟨path, key, pattern⟩ ⟨other, key, pattern⟩)
    (locale : left.locale = right.locale) (key base pattern : String) (marked : Bool) :
    Agree related (selectLocale left path key base pattern marked)
      (selectLocale right other key base pattern marked) related failures := by
  unfold selectLocale
  rw [locale]
  refine (mirrors.agree_isLocked key).bind fun lockedKey => ?_
  cases lockedKey with
  | true => exact mirrors.agree_drop key _ false
  | false =>
      cases marked with
      | true => exact mirrors.agree_drop key _ false
      | false =>
          cases right.locale with
          | none => exact Agree.pure false fun _ _ holds => holds
          | some locale =>
              have answers := Pattern.Cache.fullMatch_answers pattern locale
              refine (mirrors.agree_withPatterns places key answers answers).bind fun matched => ?_
              cases matched with
              | false => exact mirrors.agree_drop key _ false
              | true =>
                  refine (mirrors.agree_isLocked base).bind fun lockedBase => ?_
                  cases lockedBase with
                  | true => exact mirrors.agree_drop key _ false
                  | false =>
                      have locking : Agree related (Walk.lock path base) (Walk.lock other base) related
                          failures := fun _ _ holds => ⟨rfl, mirrors.lock holds base⟩
                      refine locking.bind fun _ => (mirrors.agree_report _ _).bind fun _ => ?_
                      exact Agree.pure true fun _ _ holds => holds

theorem agree_mayTake (mirrors : Mirrors related path other) (key base : String) :
    Agree related (mayTake path key base) (mayTake other key base) related failures := by
  unfold mayTake
  refine (mirrors.agree_isLocked key).bind fun lockedKey => ?_
  cases lockedKey with
  | true => exact mirrors.agree_drop key _ false
  | false =>
      refine (mirrors.agree_isLocked base).bind fun lockedBase => ?_
      cases lockedBase with
      | true => exact mirrors.agree_drop key _ false
      | false => exact Agree.pure true fun _ _ holds => holds

theorem agree_markExtraction (mirrors : Mirrors related path other) (marked : Bool)
    {value value' : Tree} (sameKind : value.isSequence = value'.isSequence) (key : Key) :
    Agree related (markExtraction path marked value key) (markExtraction other marked value' key)
      related failures := by
  unfold markExtraction
  rw [sameKind]
  cases key with
  | index position => exact Agree.pure () fun _ _ holds => holds
  | name name =>
      dsimp only
      split
      · exact fun _ _ holds => ⟨rfl, mirrors.mark holds name⟩
      · exact Agree.pure () fun _ _ holds => holds

/-- The mappings that the resolvers see may differ where the argument does not lead, and
the values that they keep are related as those that they are given. -/
theorem lockstep_applyResolver (mirrors : Mirrors related path other)
    (places : ∀ key pattern, failures ⟨path, key, pattern⟩ ⟨other, key, pattern⟩)
    (name : String) (resolver : Parameter.Resolver) (request : Parameter.Request)
    {node : Mapping}
    (sameField : (Entries.get? node (.name request.argument)).bind Parameter.patternText? =
      (Entries.get? request.node (.name request.argument)).bind Parameter.patternText?)
    {alike : Tree → Tree → Prop} {content : Tree} (values : alike content request.content) :
    Lockstep related
      (applyResolver path name resolver { request with node := node, content := content })
      (applyResolver other name resolver request)
      (fun kept kept' first second => KeptAlike alike kept kept' ∧ related first second)
      failures := by
  have answers := resolver.resolve_answers { request with node := node, content := content }
  have sameVerdict := resolver.verdict_congr request node content sameField
  rw [sameVerdict] at answers
  refine (mirrors.lockstep_withPatterns places name _ _ answers
    (resolver.resolve_answers request)).bind fun kept kept' => Lockstep.given fun made => ?_
  rcases made with ⟨applies, rfl, rfl⟩
  cases applies with
  | false =>
      exact (mirrors.agree_report _ _).bind fun _ =>
        Lockstep.pure fun _ _ holds => ⟨.none, holds⟩
  | true => exact Lockstep.pure fun _ _ holds => ⟨.some ⟨rfl, values⟩, holds⟩

theorem agree_reportNearMiss (mirrors : Mirrors related path other) (name name' : String) :
    Agree related (reportNearMiss left name) (reportNearMiss right name') related failures :=
  mirrors.agree_of_idle (outcome_reportNearMiss left name) (outcome_reportNearMiss right name')

/-! ## Steps of the passes -/

/-- A step of the first pass, where the walks over the value may lead from one relation
to a weaker one, and to related values. -/
theorem lockstep_firstEntry (mirrors : Mirrors before path other)
    (places : ∀ key pattern, failures ⟨path, key, pattern⟩ ⟨other, key, pattern⟩)
    (weakens : ∀ first second, before first second → after first second) (key : Key)
    (reads : ∀ name, key = .name name → left.ReadsAlike right name) {below below' : Walk Tree}
    {alike : Tree → Tree → Prop}
    (values : right.decidesFirst key = true → Lockstep before below below'
      (fun value value' first second => alike value value' ∧ after first second) failures) :
    Lockstep before (firstEntry left path key below) (firstEntry right other key below')
      (fun kept kept' first second => KeptAlike alike kept kept' ∧ after first second)
      failures := by
  have nothing : Lockstep before (pure none : Walk (Option (Key × Tree))) (pure none)
      (fun kept kept' first second => KeptAlike alike kept kept' ∧ after first second) failures :=
    Lockstep.pure fun first second holds => ⟨.none, weakens first second holds⟩
  have keeps : ∀ target value value', Lockstep
      (fun first second => alike value value' ∧ after first second)
      (pure (some (target, value)) : Walk (Option (Key × Tree))) (pure (some (target, value')))
      (fun kept kept' first second => KeptAlike alike kept kept' ∧ after first second) failures :=
    fun target value value' => Lockstep.pure fun _ _ holds => ⟨.some ⟨rfl, holds.1⟩, holds.2⟩
  cases key with
  | index position => exact (values rfl).bind fun value value' => keeps (.index position) value value'
  | name name =>
      have alikeName := reads name rfl
      refine (mirrors.agree_reportNearMiss name name).bind fun _ => ?_
      rw [alikeName.tag]
      cases tagged : Tag.ofKey right.table name with
      | comment => exact (mirrors.agree_report _ _).bind fun _ => nothing
      | tagged key =>
          rcases key with ⟨stripped, marked, form⟩
          cases form with
          | plain => exact nothing
          | parameter base parameter argument => exact nothing
          | locale base pattern =>
              refine (mirrors.agree_selectLocale places alikeName.locale name base pattern
                marked).bind fun chosen => ?_
              cases chosen with
              | false => exact nothing
              | true =>
                  have visited : right.decidesFirst (.name name) = true := by
                    simp only [Settings.decidesFirst, tagged]
                  exact (values visited).bind fun value value' => keeps (.name base) value value'

theorem agree_firstEntry (mirrors : Mirrors before path other)
    (places : ∀ key pattern, failures ⟨path, key, pattern⟩ ⟨other, key, pattern⟩)
    (weakens : ∀ first second, before first second → after first second) (key : Key)
    (reads : ∀ name, key = .name name → left.ReadsAlike right name) {below below' : Walk Tree}
    (values : right.decidesFirst key = true → Agree before below below' after failures) :
    Agree before (firstEntry left path key below) (firstEntry right other key below') after
      failures :=
  (mirrors.lockstep_firstEntry places weakens key reads values).mono (fun _ _ => id)
    fun _ _ _ _ holds => ⟨holds.1.eq, holds.2⟩

/-- A step of the second pass.  The mappings that hold the entry need only agree on the
patterns of fields without `@`, and the values on being sequences. -/
theorem lockstep_secondEntry (mirrors : Mirrors before path other)
    (later : Mirrors after path other)
    (places : ∀ key pattern, failures ⟨path, key, pattern⟩ ⟨other, key, pattern⟩)
    (weakens : ∀ first second, before first second → after first second)
    {node node' : Mapping}
    (sameFields : ∀ field : String, '@' ∉ field.toList →
      (Entries.get? node (.name field)).bind Parameter.patternText? =
        (Entries.get? node' (.name field)).bind Parameter.patternText?)
    (key : Key) (reads : ∀ name, key = .name name → left.ReadsAlike right name)
    {value value' : Tree} (sameKind : value.isSequence = value'.isSequence)
    {below below' : Walk Tree} {alike : Tree → Tree → Prop}
    (values : right.decidesFirst key = false → Lockstep before below below'
      (fun value value' first second => alike value value' ∧ after first second) failures) :
    Lockstep before (secondEntry left path node key value below)
      (secondEntry right other node' key value' below')
      (fun kept kept' first second => KeptAlike alike kept kept' ∧ after first second)
      failures := by
  have nothing : Lockstep before (pure none : Walk (Option (Key × Tree))) (pure none)
      (fun kept kept' first second => KeptAlike alike kept kept' ∧ after first second) failures :=
    Lockstep.pure fun first second holds => ⟨.none, weakens first second holds⟩
  cases key with
  | index position => exact nothing
  | name name =>
      have alikeName := reads name rfl
      unfold secondEntry
      cases tagged : Tag.ofKey left.table name with
      | comment =>
          simp only [tagged, alikeName.tag.symm]
          exact nothing
      | tagged key =>
          rcases key with ⟨stripped, marked, form⟩
          simp only [tagged, alikeName.tag.symm]
          cases form with
          | locale base pattern => exact nothing
          | plain =>
              have visited : right.decidesFirst (.name name) = false := by
                simp only [Settings.decidesFirst, alikeName.tag.symm.trans tagged]
              refine (mirrors.agree_mayTake name stripped).bind fun free => ?_
              cases free with
              | false => exact nothing
              | true =>
                  refine (values visited).bind fun resolved resolved' => Lockstep.given fun same => ?_
                  refine (later.agree_markExtraction marked sameKind _).bind fun _ => ?_
                  exact Lockstep.pure fun _ _ holds => ⟨.some ⟨rfl, same⟩, holds⟩
          | parameter base parameter argument =>
              have visited : right.decidesFirst (.name name) = false := by
                simp only [Settings.decidesFirst, alikeName.tag.symm.trans tagged]
              dsimp only
              rw [alikeName.resolver tagged, alikeName.locale]
              refine (mirrors.agree_mayTake name base).bind fun free => ?_
              cases free with
              | false => exact nothing
              | true =>
                  cases right.resolver? parameter with
                  | none => exact (mirrors.agree_report _ _).bind fun _ => nothing
                  | some resolver =>
                      refine (values visited).bind fun resolved resolved' =>
                        Lockstep.given fun same => ?_
                      have field := sameFields argument (Tag.not_mem_argument tagged)
                      refine (later.lockstep_applyResolver places name resolver
                        ⟨node', base, parameter, argument, resolved', right.locale⟩ field
                        same).bind fun kept kept' => Lockstep.given fun decided => ?_
                      cases decided with
                      | none => exact Lockstep.pure fun _ _ holds => ⟨.none, holds⟩
                      | @some entry entry' alikeEntries =>
                          dsimp only
                          rw [alikeEntries.1]
                          refine (later.agree_markExtraction marked sameKind _).bind fun _ => ?_
                          exact Lockstep.pure fun _ _ holds => ⟨.some alikeEntries, holds⟩

theorem agree_secondEntry (mirrors : Mirrors before path other)
    (later : Mirrors after path other)
    (places : ∀ key pattern, failures ⟨path, key, pattern⟩ ⟨other, key, pattern⟩)
    (weakens : ∀ first second, before first second → after first second)
    {node node' : Mapping}
    (sameFields : ∀ field : String, '@' ∉ field.toList →
      (Entries.get? node (.name field)).bind Parameter.patternText? =
        (Entries.get? node' (.name field)).bind Parameter.patternText?)
    (key : Key) (reads : ∀ name, key = .name name → left.ReadsAlike right name)
    {value value' : Tree} (sameKind : value.isSequence = value'.isSequence)
    {below below' : Walk Tree}
    (values : right.decidesFirst key = false → Agree before below below' after failures) :
    Agree before (secondEntry left path node key value below)
      (secondEntry right other node' key value' below') after failures :=
  (mirrors.lockstep_secondEntry later places weakens sameFields key reads sameKind values).mono
    (fun _ _ => id) fun _ _ _ _ holds => ⟨holds.1.eq, holds.2⟩

theorem agree_restoreAliases (mirrors : Mirrors related path other) (entries : Mapping) :
    Agree related (restoreAliases path entries) (restoreAliases other entries) related
      failures := by
  intro first second holds
  rcases outcome_restoreAliases path entries first with ⟨last, restored, idle⟩
  rcases outcome_restoreAliases other entries second with ⟨last', restored', idle'⟩
  rw [restored, restored', mirrors.marked holds]
  exact ⟨rfl, mirrors.idle (mirrors.forget holds) idle idle'⟩

end Mirrors
end Resolution
end TaggedContent
