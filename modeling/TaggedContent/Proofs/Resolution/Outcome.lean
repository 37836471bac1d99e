import Mathlib.Data.List.Forall2
import TaggedContent.Proofs.Verdict
import TaggedContent.Resolution.Walk

namespace TaggedContent
namespace Resolution

/-!
# Outcomes of walks

A walk is run from what has been gathered so far.  It ends in a value or a failure,
and with what has been gathered then.  The equations of the basic steps are given
first; later proofs use these and the rule for one walk after another, and never look
into the monad.

Three judgements follow.  `Walk.Steps` lists how the walks over a list succeed one after
the other.  `Walk.Computes` says that the result of a walk is known without it.
`Walk.Lockstep` relates two walks that start from related states: both
succeed or both fail, and what they come to is related again.
-/

namespace Walk

variable {α β γ δ : Type}

/-- What the walk comes to from here, and what has been gathered then. -/
def outcome (walk : Walk α) (progress : Progress) : Except InvalidPattern α × Progress :=
  walk.run.run progress

@[simp] theorem outcome_pure (value : α) (progress : Progress) :
    (pure value : Walk α).outcome progress = (.ok value, progress) :=
  rfl

theorem outcome_bind (walk : Walk α) (next : α → Walk β) (progress : Progress) :
    (walk >>= next).outcome progress =
      match walk.outcome progress with
      | (.ok value, after) => (next value).outcome after
      | (.error error, after) => (.error error, after) := by
  unfold outcome
  simp only [ExceptT.run_bind, StateT.run_bind]
  rcases walk.run.run progress with ⟨_ | _, _⟩ <;> rfl

theorem outcome_bind_of_ok {walk : Walk α} {progress after : Progress} {value : α}
    (success : walk.outcome progress = (.ok value, after)) (next : α → Walk β) :
    (walk >>= next).outcome progress = (next value).outcome after := by
  rw [outcome_bind, success]

/-- A sequence succeeds only through a success of its first part. -/
theorem outcome_bind_eq_ok {walk : Walk α} {next : α → Walk β} {progress last : Progress}
    {result : β} (success : (walk >>= next).outcome progress = (.ok result, last)) :
    ∃ value after, walk.outcome progress = (.ok value, after) ∧
      (next value).outcome after = (.ok result, last) := by
  rw [outcome_bind] at success
  rcases first : walk.outcome progress with ⟨error | value, after⟩
  · rw [first] at success
    cases success
  · rw [first] at success
    exact ⟨value, after, rfl, success⟩

theorem outcome_map (change : α → β) (walk : Walk α) (progress : Progress) :
    (change <$> walk).outcome progress =
      ((walk.outcome progress).1.map change, (walk.outcome progress).2) := by
  rw [map_eq_pure_bind, outcome_bind]
  rcases walk.outcome progress with ⟨_ | _, _⟩ <;> rfl

@[simp] theorem outcome_report (event : Event) (progress : Progress) :
    (report event).outcome progress =
      (.ok (), { progress with events := event :: progress.events }) :=
  rfl

@[simp] theorem outcome_isLocked (path : Path) (key : String) (progress : Progress) :
    (isLocked path key).outcome progress = (.ok (progress.locks.isLocked path key), progress) :=
  rfl

@[simp] theorem outcome_get (progress : Progress) :
    (get : Walk Progress).outcome progress = (.ok progress, progress) :=
  rfl

@[simp] theorem outcome_modify (change : Progress → Progress) (progress : Progress) :
    (modify change : Walk PUnit).outcome progress = (.ok (), change progress) :=
  rfl

theorem outcome_withPatterns (path : Path) (key : String)
    (step : Pattern.Cache → Except Pattern.PatternError α × Pattern.Cache)
    (progress : Progress) :
    (withPatterns path key step).outcome progress =
      ((step progress.patterns).1.mapError fun error => ⟨path, key, error.pattern⟩,
        { progress with patterns := (step progress.patterns).2 }) := by
  rw [withPatterns, outcome_bind_of_ok (outcome_get progress)]
  rcases step progress.patterns with ⟨_ | _, _⟩ <;> rfl

/-- The value or failure of something computed apart, as a walk that gathers nothing. -/
def ofExcept (result : Except InvalidPattern α) : Walk α :=
  ExceptT.mk (pure result)

@[simp] theorem outcome_ofExcept (result : Except InvalidPattern α) (progress : Progress) :
    (ofExcept result).outcome progress = (result, progress) :=
  rfl

/-- What holds before the walk holds after it, when it succeeds. -/
def Preserves (holds : Progress → Prop) (walk : Walk α) : Prop :=
  ∀ {start : Progress} {value : α} {last : Progress},
    walk.outcome start = (.ok value, last) → holds start → holds last

theorem preserves_ofExcept (holds : Progress → Prop) (result : Except InvalidPattern α) :
    Preserves holds (ofExcept result) := by
  intro start value last success initially
  cases success
  exact initially

/-! ## Walks over a list -/

/-- How the walks over a list succeed one after the other. -/
inductive Steps (step : α → Walk β) :
    List α → Progress → List β → Progress → Prop where
  | nil (progress : Progress) : Steps step [] progress [] progress
  | cons {head : α} {tail : List α} {start middle last : Progress} {value : β}
      {values : List β} (first : (step head).outcome start = (.ok value, middle))
      (rest : Steps step tail middle values last) :
      Steps step (head :: tail) start (value :: values) last

theorem steps_of_outcome_mapM {step : α → Walk β} {list : List α} {start last : Progress}
    {values : List β} (success : (list.mapM step).outcome start = (.ok values, last)) :
    Steps step list start values last := by
  induction list generalizing start values with
  | nil =>
      rw [List.mapM_nil, outcome_pure] at success
      cases success
      exact .nil _
  | cons head tail inductionHypothesis =>
      rw [List.mapM_cons] at success
      rcases outcome_bind_eq_ok success with ⟨value, middle, first, success⟩
      rcases outcome_bind_eq_ok success with ⟨others, after, later, success⟩
      rw [outcome_pure] at success
      cases success
      exact .cons first (inductionHypothesis later)

/-- What every step preserves a whole list of steps preserves. -/
theorem Steps.preserves {step : α → Walk β} {list : List α} {start last : Progress}
    {values : List β} (steps : Steps step list start values last) {holds : Progress → Prop}
    (each : ∀ element ∈ list, Preserves holds (step element)) (initially : holds start) :
    holds last := by
  induction steps with
  | nil progress => exact initially
  | cons first rest inductionHypothesis =>
      have next := each _ List.mem_cons_self first initially
      exact inductionHypothesis
        (fun element member => each element (List.mem_cons_of_mem _ member)) next

/-- Where the steps preserve what they need, all values are as good as each step makes
its own. -/
theorem Steps.forall_values {step : α → Walk β} {list : List α} {start last : Progress}
    {values : List β} (steps : Steps step list start values last) {holds : Progress → Prop}
    {good : β → Prop} (each : ∀ element ∈ list, Preserves holds (step element))
    (makes : ∀ element ∈ list, ∀ start value last,
      (step element).outcome start = (.ok value, last) → holds start → good value)
    (initially : holds start) : ∀ value ∈ values, good value := by
  induction steps with
  | nil progress => exact fun _ member => nomatch member
  | cons first rest inductionHypothesis =>
      have here := makes _ List.mem_cons_self _ _ _ first initially
      have others := inductionHypothesis
        (fun element member => each element (List.mem_cons_of_mem _ member))
        (fun element member => makes element (List.mem_cons_of_mem _ member))
        (each _ List.mem_cons_self first initially)
      exact List.forall_mem_cons.mpr ⟨here, others⟩

/-- If each walk succeeds with a value that does not depend on the state, so does the list. -/
theorem outcome_mapM_eq_map {step : α → Walk β} {result : α → β} {list : List α}
    {holds : Progress → Prop}
    (each : ∀ element ∈ list, ∀ progress, holds progress →
      ∃ last, (step element).outcome progress = (.ok (result element), last) ∧ holds last)
    {start : Progress} (initially : holds start) :
    ∃ last, (list.mapM step).outcome start = (.ok (list.map result), last) ∧ holds last := by
  induction list generalizing start with
  | nil => exact ⟨start, rfl, initially⟩
  | cons head tail inductionHypothesis =>
      rcases each head List.mem_cons_self start initially with ⟨middle, first, between⟩
      rcases inductionHypothesis (fun element member => each element (List.mem_cons_of_mem _ member))
        between with ⟨last, rest, finally_⟩
      refine ⟨last, ?_, finally_⟩
      rw [List.mapM_cons, outcome_bind_of_ok first, outcome_bind_of_ok rest]
      rfl

theorem outcome_mapM_ofExcept (result : α → Except InvalidPattern β) (list : List α)
    (progress : Progress) :
    (list.mapM fun element => ofExcept (result element)).outcome progress =
      (list.mapM result, progress) := by
  induction list with
  | nil => rfl
  | cons head tail inductionHypothesis =>
      rw [List.mapM_cons, List.mapM_cons, outcome_bind, outcome_ofExcept]
      cases result head with
      | error error => rfl
      | ok value =>
          dsimp only
          rw [outcome_bind, inductionHypothesis]
          cases tail.mapM result <;> rfl

/-! ## Walks with a known result -/

/-- From such a state the walk comes to this result, and to such a state when it succeeds. -/
def Computes (before : Progress → Prop) (walk : Walk α) (result : Except InvalidPattern α)
    (after : Progress → Prop) : Prop :=
  ∀ start, before start → (walk.outcome start).1 = result ∧
    ∀ value last, walk.outcome start = (.ok value, last) → after last

namespace Computes

variable {before middle after : Progress → Prop}

theorem pure (value : α) (holds : ∀ progress, before progress → after progress) :
    Computes before (Pure.pure value) (.ok value) after := by
  intro start initially
  refine ⟨rfl, fun found last same => ?_⟩
  cases same
  exact holds start initially

theorem bind {walk : Walk α} {result : Except InvalidPattern α} {next : α → Walk β}
    {other : α → Except InvalidPattern β} (computes : Computes before walk result middle)
    (later : ∀ value, Computes middle (next value) (other value) after) :
    Computes before (walk >>= next) (result >>= other) after := by
  intro start initially
  rcases computes start initially with ⟨same, reaches⟩
  rw [outcome_bind]
  rcases found : walk.outcome start with ⟨error | value, between⟩
  · rw [found] at same
    subst same
    exact ⟨rfl, fun _ _ impossible => nomatch impossible⟩
  · rw [found] at same
    subst same
    exact later value between (reaches value between found)

end Computes

/-! ## Two walks in lockstep -/

/-- From related states both walks succeed, with related values and states, or both
fail, with related failures. -/
def Lockstep (before : Progress → Progress → Prop) (left : Walk α) (right : Walk β)
    (after : α → β → Progress → Progress → Prop)
    (failures : InvalidPattern → InvalidPattern → Prop) : Prop :=
  ∀ first second, before first second →
    match left.outcome first, right.outcome second with
    | (.ok value, first), (.ok other, second) => after value other first second
    | (.error error, _), (.error other, _) => failures error other
    | _, _ => False

/-- Walks in lockstep that come to the same value. -/
abbrev Agree (before : Progress → Progress → Prop) (left right : Walk α)
    (after : Progress → Progress → Prop)
    (failures : InvalidPattern → InvalidPattern → Prop) : Prop :=
  Lockstep before left right
    (fun value other first second => value = other ∧ after first second) failures

namespace Lockstep

variable {before : Progress → Progress → Prop} {left : Walk α} {right : Walk β}
  {after : α → β → Progress → Progress → Prop}
  {failures : InvalidPattern → InvalidPattern → Prop}

theorem pure {value : α} {other : β}
    (holds : ∀ first second, before first second → after value other first second) :
    Lockstep before (Pure.pure value) (Pure.pure other) after failures :=
  holds

theorem mono {weaker : Progress → Progress → Prop}
    {stronger : α → β → Progress → Progress → Prop}
    (lockstep : Lockstep before left right after failures)
    (entry : ∀ first second, weaker first second → before first second)
    (exit : ∀ value other first second, after value other first second →
      stronger value other first second) :
    Lockstep weaker left right stronger failures := by
  intro first second related
  have outcomes := lockstep first second (entry first second related)
  revert outcomes
  rcases left.outcome first with ⟨_ | _, _⟩ <;> rcases right.outcome second with ⟨_ | _, _⟩
  · exact id
  · exact id
  · exact id
  · exact exit _ _ _ _

/-- A fact that comes with the relation may be used for the walks. -/
theorem given {fact : Prop} (lockstep : fact → Lockstep before left right after failures) :
    Lockstep (fun first second => fact ∧ before first second) left right after failures :=
  fun first second holds => lockstep holds.1 first second holds.2

/-- One walk after another: the second ones are related on related values. -/
theorem bind {next : α → Walk γ} {other : β → Walk δ}
    {final : γ → δ → Progress → Progress → Prop}
    (lockstep : Lockstep before left right after failures)
    (later : ∀ value result, Lockstep (after value result) (next value) (other result)
      final failures) :
    Lockstep before (left >>= next) (right >>= other) final failures := by
  intro first second related
  have outcomes := lockstep first second related
  rw [outcome_bind, outcome_bind]
  revert outcomes
  rcases left.outcome first with ⟨_ | _, _⟩ <;> rcases right.outcome second with ⟨_ | _, _⟩
  · exact id
  · exact False.elim
  · exact False.elim
  · exact later _ _ _ _

/-- A walk on the left alone, which succeeds without the right one moving. -/
theorem bind_left {next : α → Walk γ} {final : γ → β → Progress → Progress → Prop}
    {middle : α → Progress → Progress → Prop}
    (succeeds : ∀ first second, before first second → ∃ value reached,
      left.outcome first = (.ok value, reached) ∧ middle value reached second)
    (later : ∀ value, Lockstep (middle value) (next value) right final failures) :
    Lockstep before (left >>= next) right final failures := by
  intro first second related
  rcases succeeds first second related with ⟨value, reached, success, holds⟩
  rw [outcome_bind_of_ok success]
  exact later value reached second holds

/-- A walk on the right alone, which succeeds without the left one moving. -/
theorem bind_right {next : β → Walk δ} {final : α → δ → Progress → Progress → Prop}
    {middle : β → Progress → Progress → Prop}
    (succeeds : ∀ first second, before first second → ∃ value reached,
      right.outcome second = (.ok value, reached) ∧ middle value first reached)
    (later : ∀ value, Lockstep (middle value) left (next value) final failures) :
    Lockstep before left (right >>= next) final failures := by
  intro first second related
  rcases succeeds first second related with ⟨value, reached, success, holds⟩
  rw [outcome_bind_of_ok success]
  exact later value first reached holds

/-- What both walks come to they come to from related states. -/
theorem traced (lockstep : Lockstep before left right after failures) :
    Lockstep before left right (fun value other first second =>
      (∃ start start' last last', before start start' ∧ left.outcome start = (.ok value, last) ∧
        right.outcome start' = (.ok other, last')) ∧ after value other first second) failures := by
  intro start start' related
  have outcomes := lockstep start start' related
  revert outcomes
  rcases found : left.outcome start with ⟨_ | value, last⟩ <;>
    rcases found' : right.outcome start' with ⟨_ | other, last'⟩
  · exact id
  · exact id
  · exact id
  · exact fun holds => ⟨⟨start, start', last, last', related, found, found'⟩, holds⟩

/-- Over lists whose elements come in pairs with related steps the values are related one
by one. -/
theorem mapM {related : Progress → Progress → Prop} {step : γ → Walk α} {step' : δ → Walk β}
    {same : α → β → Prop} {list : List γ} {list' : List δ}
    (pairs : List.Forall₂ (fun element element' => Lockstep related (step element) (step' element')
      (fun value value' first second => same value value' ∧ related first second) failures)
      list list') :
    Lockstep related (list.mapM step) (list'.mapM step')
      (fun values values' first second => List.Forall₂ same values values' ∧ related first second)
      failures := by
  induction pairs with
  | nil => exact Lockstep.pure fun _ _ holds => ⟨.nil, holds⟩
  | cons pair rest inductionHypothesis =>
      rw [List.mapM_cons, List.mapM_cons]
      refine pair.bind fun value value' => given fun here => ?_
      exact inductionHypothesis.bind fun values values' =>
        Lockstep.pure fun _ _ holds => ⟨.cons here holds.1, holds.2⟩

end Lockstep

namespace Agree

variable {before middle after : Progress → Progress → Prop} {left right : Walk α}
  {failures : InvalidPattern → InvalidPattern → Prop}

theorem pure (value : α) (holds : ∀ first second, before first second → after first second) :
    Agree before (Pure.pure value) (Pure.pure value) after failures :=
  Lockstep.pure fun first second related => ⟨rfl, holds first second related⟩

theorem mono {fewer more : Progress → Progress → Prop}
    (agree : Agree before left right after failures)
    (entry : ∀ first second, fewer first second → before first second)
    (exit : ∀ first second, after first second → more first second) :
    Agree fewer left right more failures :=
  Lockstep.mono agree entry fun _ _ first second found => ⟨found.1, exit first second found.2⟩

/-- After walks that agree it is enough to relate what follows the same value. -/
theorem bind {next : α → Walk γ} {other : α → Walk δ}
    {final : γ → δ → Progress → Progress → Prop}
    (agree : Agree before left right middle failures)
    (later : ∀ value, Lockstep middle (next value) (other value) final failures) :
    Lockstep before (left >>= next) (right >>= other) final failures := by
  refine Lockstep.bind agree fun value result => Lockstep.given fun same => ?_
  subst same
  exact later value

/-- Over a list the relation may change with what is still to be visited. -/
theorem mapM (related : List γ → Progress → Progress → Prop) {step other : γ → Walk α}
    {list : List γ}
    (each : ∀ head tail, head :: tail <:+ list →
      Agree (related (head :: tail)) (step head) (other head) (related tail) failures) :
    Agree (related list) (list.mapM step) (list.mapM other) (related []) failures := by
  induction list with
  | nil => exact pure [] fun _ _ holds => holds
  | cons head tail inductionHypothesis =>
      rw [List.mapM_cons, List.mapM_cons]
      refine (each head tail (List.suffix_refl _)).bind fun value => ?_
      have rest := inductionHypothesis fun next later suffix =>
        each next later (suffix.trans (List.suffix_cons head tail))
      exact rest.bind fun values => pure (value :: values) fun _ _ holds => holds

/-- From related states the walks come to the same value, or to failures that translate
into each other. -/
theorem outcome_fst {translate : InvalidPattern → InvalidPattern}
    (agree : Agree before left right after fun failure other => failure = translate other)
    {first second : Progress} (holds : before first second) :
    (left.outcome first).1 = (right.outcome second).1.mapError translate := by
  have outcomes := agree first second holds
  revert outcomes
  rcases left.outcome first with ⟨_ | _, _⟩ <;> rcases right.outcome second with ⟨_ | _, _⟩
  · exact congrArg Except.error
  · exact False.elim
  · exact False.elim
  · exact fun same => congrArg Except.ok same.1

theorem outcome_fst_eq (agree : Agree before left right after Eq) {first second : Progress}
    (holds : before first second) : (left.outcome first).1 = (right.outcome second).1 := by
  have same : (left.outcome first).1 = (right.outcome second).1.mapError id :=
    outcome_fst agree holds
  rw [same]
  rcases (right.outcome second).1 with _ | _ <;> rfl

theorem success (agree : Agree before left right after failures) {first second last : Progress}
    {value : α} (holds : before first second) (found : left.outcome first = (.ok value, last)) :
    ∃ reached, right.outcome second = (.ok value, reached) ∧ after last reached := by
  have outcomes := agree first second holds
  rw [found] at outcomes
  revert outcomes
  rcases right.outcome second with ⟨_ | other, reached⟩
  · exact False.elim
  · rintro ⟨same, related⟩
    exact ⟨reached, by rw [same], related⟩

end Agree
end Walk
end Resolution
end TaggedContent
