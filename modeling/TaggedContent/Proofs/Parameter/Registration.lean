import TaggedContent.Parameter.Table
import TaggedContent.Proofs.Entries

namespace TaggedContent
namespace Parameter

/-!
# Runs of registrations

A table is built by registrations, any of which may fail.  The registrations of the table
are the calls of the run that have succeeded, in order; this is the invariant from which
its names and look-ups are read off.  A call succeeds exactly when its name can be written
in a tag and is not among the names that have been accepted before it, so whether it is
enabled never matters to the calls after it.
-/

/-- A name that a tag `name.value` can give. -/
def Addressable (name : String) : Prop :=
  name ≠ "" ∧ '@' ∉ name.toList ∧ '.' ∉ name.toList

/-- The fault is the first that the name has: it is empty, it contains `@`, or it contains a
dot. -/
inductive NameFault.First (name : String) : NameFault → Prop where
  | empty (nothing : name = "") : First name .empty
  | containsAt (there : '@' ∈ name.toList) : First name .containsAt
  | containsDot (noAt : '@' ∉ name.toList) (there : '.' ∈ name.toList) : First name .containsDot

theorem nameFault?_eq_none_iff {name : String} : nameFault? name = none ↔ Addressable name := by
  unfold nameFault? Addressable
  split_ifs <;> simp_all

theorem not_isEmpty_of_mem {name : String} {letter : Char} (there : letter ∈ name.toList) :
    ¬ name.isEmpty = true := by
  intro empty
  rw [String.isEmpty_iff.mp empty] at there
  cases there

theorem nameFault?_of_first {name : String} {fault : NameFault} (first : fault.First name) :
    nameFault? name = some fault := by
  cases first with
  | empty nothing => rw [nameFault?, if_pos (String.isEmpty_iff.mpr nothing)]
  | containsAt there => rw [nameFault?, if_neg (not_isEmpty_of_mem there), if_pos there]
  | containsDot noAt there =>
      rw [nameFault?, if_neg (not_isEmpty_of_mem there), if_neg noAt, if_pos there]

/-- A name that no tag can give has a first fault. -/
theorem exists_first_of_not_addressable {name : String} (malformed : ¬ Addressable name) :
    ∃ fault, NameFault.First name fault := by
  by_cases nothing : name = ""
  · exact ⟨.empty, .empty nothing⟩
  by_cases someAt : '@' ∈ name.toList
  · exact ⟨.containsAt, .containsAt someAt⟩
  by_cases dot : '.' ∈ name.toList
  · exact ⟨.containsDot, .containsDot someAt dot⟩
  exact absurd ⟨nothing, someAt, dot⟩ malformed

namespace Table

variable {table : Table} {name : String} {resolver : Option Resolver}

/-! ## One call -/

/-- A call comes to one of three ends, and only in the last of them does it write to the
table. -/
theorem attempt_eq (table : Table) (name : String) (resolver : Option Resolver) :
    table.attempt (name, resolver) =
      match nameFault? name with
      | some fault => (.error (.invalidName name fault), table)
      | none =>
          if table.contains name then (.error (.duplicate name), table)
          else (.ok (), ⟨Entries.insert name resolver table.registrations⟩) := by
  unfold attempt insert
  dsimp only
  cases nameFault? name with
  | some fault => rfl
  | none =>
      change ((if table.contains name = true then throw _ else modify _ :
        ExceptT RegistrationError (StateM Table) Unit).run).run table = _
      cases table.contains name <;> rfl

theorem contains_iff : table.contains name = true ↔ name ∈ table.names := by
  rw [contains, names, Option.isSome_iff_ne_none, Ne, Entries.get?_eq_none_iff, not_not]

theorem attempt_of_first {fault : NameFault} (first : fault.First name) :
    table.attempt (name, resolver) = (.error (.invalidName name fault), table) := by
  rw [attempt_eq, nameFault?_of_first first]

theorem attempt_of_taken (addressable : Addressable name) (taken : name ∈ table.names) :
    table.attempt (name, resolver) = (.error (.duplicate name), table) := by
  rw [attempt_eq, nameFault?_eq_none_iff.mpr addressable]
  exact if_pos (contains_iff.mpr taken)

/-- A call succeeds for a name that can be addressed and is not yet taken.  Its registration
is then the last of the table. -/
theorem attempt_of_fresh (addressable : Addressable name) (fresh : name ∉ table.names) :
    table.attempt (name, resolver) = (.ok (), ⟨table.registrations ++ [(name, resolver)]⟩) := by
  rw [attempt_eq, nameFault?_eq_none_iff.mpr addressable]
  simp only [if_neg (mt contains_iff.mp fresh), Entries.insert_of_not_mem resolver fresh]

/-- Every call is one of the three. -/
theorem attempt_cases (table : Table) (name : String) (resolver : Option Resolver) :
    (∃ fault, fault.First name ∧
      table.attempt (name, resolver) = (.error (.invalidName name fault), table)) ∨
    (Addressable name ∧ name ∈ table.names ∧
      table.attempt (name, resolver) = (.error (.duplicate name), table)) ∨
    (Addressable name ∧ name ∉ table.names ∧
      table.attempt (name, resolver) = (.ok (), ⟨table.registrations ++ [(name, resolver)]⟩)) := by
  by_cases addressable : Addressable name
  · by_cases taken : name ∈ table.names
    · exact .inr (.inl ⟨addressable, taken, attempt_of_taken addressable taken⟩)
    · exact .inr (.inr ⟨addressable, taken, attempt_of_fresh addressable taken⟩)
  · rcases exists_first_of_not_addressable addressable with ⟨fault, first⟩
    exact .inl ⟨fault, first, attempt_of_first first⟩

theorem attempt_eq_ok_iff :
    (table.attempt (name, resolver)).1 = .ok () ↔ Addressable name ∧ name ∉ table.names := by
  constructor
  · intro succeeded
    rcases attempt_cases table name resolver with
      ⟨fault, -, ended⟩ | ⟨-, -, ended⟩ | ⟨addressable, fresh, -⟩
    · rw [ended] at succeeded
      cases succeeded
    · rw [ended] at succeeded
      cases succeeded
    · exact ⟨addressable, fresh⟩
  · rintro ⟨addressable, fresh⟩
    rw [attempt_of_fresh addressable fresh]

/-- A call that fails leaves the table as it is. -/
theorem attempt_of_failed {call : Registration} (failed : (table.attempt call).1 ≠ .ok ()) :
    (table.attempt call).2 = table := by
  rcases call with ⟨name, resolver⟩
  rcases attempt_cases table name resolver with
    ⟨fault, -, ended⟩ | ⟨-, -, ended⟩ | ⟨-, -, ended⟩
  · rw [ended]
  · rw [ended]
  · rw [ended] at failed
    exact absurd rfl failed

/-- The last of the registrations is that of the call, when it succeeds. -/
theorem registrations_of_succeeded {call : Registration}
    (succeeded : (table.attempt call).1 = .ok ()) :
    (table.attempt call).2.registrations = table.registrations ++ [call] := by
  rcases attempt_eq_ok_iff.mp succeeded with ⟨addressable, fresh⟩
  rw [← Prod.eta call, attempt_of_fresh addressable fresh]

/-! ## The table after a success -/

theorem register_eq_ok_iff {extended : Table} :
    table.register name resolver = .ok extended ↔
      table.attempt (name, resolver) = (.ok (), extended) := by
  rw [register]
  rcases table.attempt (name, resolver) with ⟨error | _, after⟩ <;> simp

theorem register_eq_error_iff {error : RegistrationError} :
    table.register name resolver = .error error ↔
      (table.attempt (name, resolver)).1 = .error error := by
  rw [register]
  rcases table.attempt (name, resolver) with ⟨error | _, after⟩ <;> simp

/-- A name is added to a table exactly when it can be addressed and is not yet there. -/
theorem register_eq_ok_iff_fresh {extended : Table} :
    table.register name resolver = .ok extended ↔
      Addressable name ∧ name ∉ table.names ∧
        extended = ⟨Entries.insert name resolver table.registrations⟩ := by
  rw [register_eq_ok_iff]
  constructor
  · intro ended
    rcases attempt_eq_ok_iff.mp (congrArg Prod.fst ended) with ⟨addressable, fresh⟩
    rw [attempt_of_fresh addressable fresh] at ended
    rw [Entries.insert_of_not_mem resolver fresh]
    exact ⟨addressable, fresh, (congrArg Prod.snd ended).symm⟩
  · rintro ⟨addressable, fresh, rfl⟩
    rw [attempt_of_fresh addressable fresh, Entries.insert_of_not_mem resolver fresh]

theorem register_empty (addressable : Addressable name) :
    empty.register name resolver = .ok ⟨[(name, resolver)]⟩ :=
  register_eq_ok_iff.mpr (attempt_of_fresh addressable List.not_mem_nil)

/-- Every name can be given by a tag, and none occurs twice. -/
structure Valid (table : Table) : Prop where
  addressable : ∀ name ∈ table.names, Addressable name
  distinct : table.names.Nodup

theorem valid_empty : empty.Valid where
  addressable _ there := absurd there List.not_mem_nil
  distinct := List.nodup_nil

/-- A call leaves a valid table valid, whether or not it succeeds. -/
theorem Valid.attempt (valid : table.Valid) (call : Registration) :
    (table.attempt call).2.Valid := by
  by_cases succeeded : (table.attempt call).1 = .ok ()
  · rcases attempt_eq_ok_iff.mp succeeded with ⟨addressable, fresh⟩
    have added : (table.attempt call).2.names = table.names ++ [call.1] := by
      rw [names, registrations_of_succeeded succeeded, Entries.keys_append]
      rfl
    constructor
    · intro name there
      rw [added, List.mem_append, List.mem_singleton] at there
      rcases there with before | last
      · exact valid.addressable name before
      · exact last ▸ addressable
    · rw [added, ← List.concat_eq_append, List.nodup_concat]
      exact ⟨fresh, valid.distinct⟩
  · rw [attempt_of_failed succeeded]
    exact valid

/-! ## A run of calls -/

/-- The table after these calls. -/
def run (table : Table) (calls : List Registration) : Table :=
  calls.foldl (fun table call => (table.attempt call).2) table

/-- The calls of the run that succeed, in order. -/
def accepted (table : Table) : List Registration → List Registration
  | [] => []
  | call :: calls =>
      match table.attempt call with
      | (.ok (), extended) => call :: extended.accepted calls
      | (.error _, same) => same.accepted calls

theorem run_cons (call : Registration) (calls : List Registration) :
    table.run (call :: calls) = (table.attempt call).2.run calls :=
  rfl

theorem run_append (before later : List Registration) :
    table.run (before ++ later) = (table.run before).run later :=
  List.foldl_append

theorem accepted_cons_of_succeeded {call : Registration} (calls : List Registration)
    (succeeded : (table.attempt call).1 = .ok ()) :
    table.accepted (call :: calls) = call :: (table.attempt call).2.accepted calls := by
  rw [accepted, ← Prod.eta (table.attempt call), succeeded]

theorem accepted_cons_of_failed {call : Registration} (calls : List Registration)
    (failed : (table.attempt call).1 ≠ .ok ()) :
    table.accepted (call :: calls) = table.accepted calls := by
  rw [accepted, ← Prod.eta (table.attempt call), attempt_of_failed failed]
  cases answer : (table.attempt call).1 with
  | error error => rfl
  | ok _ => exact absurd answer failed

/-- The registrations of the table after a run are those that it had, and then the calls
that have succeeded. -/
theorem registrations_run (table : Table) (calls : List Registration) :
    (table.run calls).registrations = table.registrations ++ table.accepted calls := by
  induction calls generalizing table with
  | nil => exact (List.append_nil table.registrations).symm
  | cons call calls inductionHypothesis =>
      rw [run_cons, inductionHypothesis]
      by_cases succeeded : (table.attempt call).1 = .ok ()
      · rw [registrations_of_succeeded succeeded, accepted_cons_of_succeeded calls succeeded,
          List.append_assoc, List.singleton_append]
      · rw [attempt_of_failed succeeded, accepted_cons_of_failed calls succeeded]

theorem Valid.run (valid : table.Valid) (calls : List Registration) : (table.run calls).Valid := by
  induction calls generalizing table with
  | nil => exact valid
  | cons call calls inductionHypothesis => exact inductionHypothesis (valid.attempt call)

/-- A call that fails might as well not have been made. -/
theorem run_without_failed {before : List Registration} {call : Registration}
    (later : List Registration) (failed : ((table.run before).attempt call).1 ≠ .ok ()) :
    table.run (before ++ call :: later) = table.run (before ++ later) := by
  rw [run_append, run_append, run_cons, attempt_of_failed failed]

/-- To register pairs is to make the calls up to the first that fails. -/
theorem foldlM_register (table : Table) (calls : List Registration) :
    (table.accepted calls = calls ∧
      calls.foldlM (fun table call => table.register call.1 call.2) table =
        .ok (table.run calls)) ∨
    ∃ before call later error, calls = before ++ call :: later ∧
      table.accepted before = before ∧ ((table.run before).attempt call).1 = .error error ∧
      calls.foldlM (fun table call => table.register call.1 call.2) table = .error error := by
  induction calls generalizing table with
  | nil => exact Or.inl ⟨rfl, rfl⟩
  | cons call calls inductionHypothesis =>
      rw [List.foldlM_cons]
      cases registered : table.register call.1 call.2 with
      | error error =>
          refine Or.inr ⟨[], call, calls, error, rfl, rfl, ?_, rfl⟩
          exact register_eq_error_iff.mp registered
      | ok extended =>
          have attempted : table.attempt call = (.ok (), extended) :=
            register_eq_ok_iff.mp registered
          have succeeded : (table.attempt call).1 = .ok () := by rw [attempted]
          rcases inductionHypothesis extended with
            ⟨all, same⟩ | ⟨before, failing, later, error, split, all, failed, same⟩
          · refine Or.inl ⟨?_, ?_⟩
            · rw [accepted_cons_of_succeeded calls succeeded, attempted, all]
            · rw [run_cons, attempted]
              exact same
          · refine Or.inr ⟨call :: before, failing, later, error, ?_, ?_, ?_, same⟩
            · rw [split, List.cons_append]
            · rw [accepted_cons_of_succeeded before succeeded, attempted, all]
            · rw [run_cons, attempted]
              exact failed

/-! ## What the table answers -/

/-- The table answers as these registrations have it, which have different names. -/
structure Records (table : Table) (accepted : List Registration) : Prop where
  names : table.names = Entries.keys accepted
  distinct : table.names.Nodup
  size : table.size = table.names.length
  isEmpty : table.isEmpty = true ↔ table.names = []
  contains : ∀ name, table.contains name = true ↔ name ∈ Entries.keys accepted
  resolver : ∀ name resolver, (name, resolver) ∈ accepted → table.resolver? name = resolver
  absent : ∀ name, name ∉ Entries.keys accepted → table.resolver? name = none

theorem Valid.records (valid : table.Valid) : table.Records table.registrations where
  names := rfl
  distinct := valid.distinct
  size := by rw [size, names, Entries.keys, List.length_map]
  isEmpty := by rw [isEmpty, names, Entries.keys, List.isEmpty_iff, List.map_eq_nil_iff]
  contains name := contains_iff
  resolver name resolver member := by
    rw [resolver?, Entries.get?_of_mem valid.distinct member, Option.join_some]
  absent name missing := by
    rw [resolver?, (Entries.get?_eq_none_iff _ name).mpr missing, Option.join_none]

theorem run_records (calls : List Registration) :
    (empty.run calls).Records (empty.accepted calls) := by
  have same : (empty.run calls).registrations = empty.accepted calls :=
    registrations_run empty calls
  rw [← same]
  exact (valid_empty.run calls).records

/-- After any calls from an empty table, a call succeeds exactly when its name can be
written in a tag and has not been accepted.  A malformed name is reported with the first
fault that it has, even if it were taken, and any other name that is refused as a
duplicate.  A call that fails changes nothing.  The table answers as the calls that have
succeeded have it.  A table of pairs is that of the run, unless a call fails; the first to
fail then gives the error. -/
theorem run_from_empty (calls : List Registration) :
    (∀ name resolver, ((empty.run calls).attempt (name, resolver)).1 = .ok () ↔
      Addressable name ∧ name ∉ Entries.keys (empty.accepted calls)) ∧
    (∀ name, ¬ Addressable name → ∃ fault, NameFault.First name fault ∧ ∀ resolver,
      ((empty.run calls).attempt (name, resolver)).1 = .error (.invalidName name fault)) ∧
    (∀ name resolver, Addressable name → name ∈ Entries.keys (empty.accepted calls) →
      ((empty.run calls).attempt (name, resolver)).1 = .error (.duplicate name)) ∧
    (∀ call later, ((empty.run calls).attempt call).1 ≠ .ok () →
      ((empty.run calls).attempt call).2 = empty.run calls ∧
        empty.run (calls ++ call :: later) = empty.run (calls ++ later)) ∧
    (empty.run calls).Records (empty.accepted calls) ∧
    ((empty.accepted calls = calls ∧ ofPairs calls = .ok (empty.run calls)) ∨
      ∃ before call later error, calls = before ++ call :: later ∧
        empty.accepted before = before ∧
        ((empty.run before).attempt call).1 = .error error ∧ ofPairs calls = .error error) := by
  have records := run_records calls
  refine ⟨?_, ?_, ?_, ?_, records, foldlM_register empty calls⟩
  · intro name resolver
    rw [← records.names]
    exact attempt_eq_ok_iff
  · intro name malformed
    rcases exists_first_of_not_addressable malformed with ⟨fault, first⟩
    exact ⟨fault, first, fun resolver => by rw [attempt_of_first first]⟩
  · intro name resolver addressable taken
    rw [← records.names] at taken
    rw [attempt_of_taken addressable taken]
  · intro call later failed
    exact ⟨attempt_of_failed failed, run_without_failed later failed⟩

/-- Of the four calls the second and the last fail, and so would a fifth for `en`, whether
or not it is to be disabled. -/
theorem run_from_empty_mixed :
    let calls : List Registration :=
      [("env", some (.literal "prod")), ("a.b@", none), ("en", none), ("env", none)]
    (empty.run calls).names = ["env", "en"] ∧
      (empty.run calls).resolver? "env" = some (.literal "prod") ∧
      (∀ resolver, ((empty.run calls).attempt ("en", resolver)).1 = .error (.duplicate "en")) ∧
      (∀ resolver, ((empty.run calls).attempt ("a.b@", resolver)).1 =
        .error (.invalidName "a.b@" .containsAt)) ∧
      (∀ later, empty.run (calls ++ ("", none) :: later) = empty.run (calls ++ later)) ∧
      ∃ error, ofPairs calls = .error error := by
  intro calls
  have accepted : empty.accepted calls = [("env", some (.literal "prod")), ("en", none)] := rfl
  rcases run_from_empty calls with ⟨succeeds, malformed, taken, unchanged, records, pairs⟩
  rw [accepted] at records taken pairs
  refine ⟨records.names, records.resolver "env" _ List.mem_cons_self, ?_, ?_, ?_, ?_⟩
  · exact fun resolver => taken "en" resolver ⟨by decide, by decide, by decide⟩ (by decide)
  · rcases malformed "a.b@" (fun addressable => addressable.2.1 (by decide)) with
      ⟨fault, first, answers⟩
    cases first with
    | empty nothing => exact absurd nothing (by decide)
    | containsAt _ => exact answers
    | containsDot noAt _ => exact absurd (by decide) noAt
  · refine fun later => (unchanged ("", none) later ?_).2
    exact fun succeeded => ((succeeds "" none).mp succeeded).1.1 rfl
  · rcases pairs with ⟨all, _⟩ | ⟨_, _, _, error, _, _, _, failed⟩
    · have lengths := congrArg List.length all
      cases lengths
    · exact ⟨error, failed⟩

end Table
end Parameter
end TaggedContent
