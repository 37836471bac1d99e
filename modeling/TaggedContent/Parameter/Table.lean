import TaggedContent.Parameter.Resolver

namespace TaggedContent
namespace Parameter

/-!
# Parameter tables

A table holds the registered parameter names in the order of registration, each
with its resolver or, when the parameter is disabled, with none.  A name is
checked when it is registered, so every name in a table built by registrations
can be written in a tag.
-/

inductive NameFault where
  | empty
  | containsAt
  | containsDot
  deriving DecidableEq

def NameFault.reason : NameFault → String
  | empty => "name is empty"
  | containsAt => "name contains '@'"
  | containsDot => "name contains '.'"

/-- The first reason why a tag cannot name this parameter. -/
def nameFault? (name : String) : Option NameFault :=
  if name.isEmpty then some .empty
  else if '@' ∈ name.toList then some .containsAt
  else if '.' ∈ name.toList then some .containsDot
  else none

inductive RegistrationError where
  | duplicate (name : String)
  | invalidName (name : String) (fault : NameFault)
  deriving DecidableEq

def RegistrationError.message : RegistrationError → String
  | duplicate name => s!"parameter '{name}' is already registered"
  | invalidName name fault => s!"invalid parameter name '{name}': {fault.reason}"

/-- A name with its resolver, or without one when the parameter is to be disabled. -/
abbrev Registration :=
  String × Option Resolver

structure Table where
  registrations : Entries String (Option Resolver)
  deriving Inhabited

namespace Table

def empty : Table :=
  ⟨[]⟩

def contains (table : Table) (name : String) : Bool :=
  (Entries.get? table.registrations name).isSome

/-- The resolver of an enabled parameter. -/
def resolver? (table : Table) (name : String) : Option Resolver :=
  (Entries.get? table.registrations name).join

def names (table : Table) : List String :=
  Entries.keys table.registrations

def size (table : Table) : Nat :=
  table.registrations.length

def isEmpty (table : Table) : Bool :=
  table.registrations.isEmpty

/-- Put a name with its resolver, or disabled when there is none, into the table at hand.
A malformed name is reported as such even if it were taken.  Whatever has been done to the
table when an error is thrown stays done. -/
def insert (name : String) (resolver : Option Resolver) :
    ExceptT RegistrationError (StateM Table) Unit := do
  match nameFault? name with
  | some fault => throw (.invalidName name fault)
  | none =>
      if (← get).contains name then throw (.duplicate name)
      else modify fun table => ⟨Entries.insert name resolver table.registrations⟩

/-- What a call answers, and the table that it leaves. -/
def attempt (table : Table) (call : Registration) : Except RegistrationError Unit × Table :=
  ((insert call.1 call.2).run).run table

/-- The table that a call leaves when it succeeds. -/
def register (table : Table) (name : String) (resolver : Option Resolver) :
    Except RegistrationError Table :=
  match table.attempt (name, resolver) with
  | (.ok (), extended) => .ok extended
  | (.error error, _) => .error error

/-- Register the pairs from left to right; the first failure is the result. -/
def ofPairs (pairs : List Registration) : Except RegistrationError Table :=
  pairs.foldlM (fun table pair => table.register pair.1 pair.2) empty

end Table
end Parameter
end TaggedContent
