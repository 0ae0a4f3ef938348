import Mathlib.Data.List.Basic
import RecordAccess.Roles

/-!
# Calls that change roles in place

The operations on roles as a caller sees them: one value that every call changes in place, step by
step, whatever becomes of the call. What a program does before it fails stays done, so that a failed
call leaves no trace is a fact about these programs and not about how they are run. Each of them comes
to what the operation on values of `Roles` gives.
-/
namespace RecordAccess.Roles

inductive Call where
  | setPrimary (name : String)
  | setSoftDelete (name : String)
  | setFields (set : FieldSet) (names : List String)
  | resetSets
  | setTable (table : String)
  | setSkipSuffix (skip : Bool)
  deriving DecidableEq, Repr

def Call.names : Call → List String
  | setPrimary name | setSoftDelete name => [name]
  | setFields _ names => names
  | resetSets | setTable _ | setSkipSuffix _ => []

structure Bench where
  roles : Roles
  dropped : List Dropped := []
  deriving DecidableEq, Repr

/-- A program that changes its bench in place. A failure undoes nothing. -/
abbrev Program := EStateM GenerationError Bench

namespace Program

def lookUp (name : String) : Program Nat := do
  match (← get).roles.resolve name with
  | .ok ordinal => pure ordinal
  | .error e => throw e

def lookUpAll : List String → Program (List Nat)
  | [] => pure []
  | name :: rest => do
    let ordinal ← lookUp name
    let ordinals ← lookUpAll rest
    pure (ordinal :: ordinals)

def change (f : Roles → Roles) : Program Unit :=
  modify fun bench => { bench with roles := f bench.roles }

def report (set : FieldSet) (ordinal : Nat) : Program Unit :=
  modify fun bench =>
    { bench with dropped := bench.dropped ++ [⟨bench.roles.nameAt ordinal, set⟩] }

/-- Takes ordinals out of the members of a set, one after the other, and reports those it finds. -/
def takeOut (set : FieldSet) : List Nat → List Nat → Program (List Nat)
  | [], members => pure members
  | ordinal :: rest, members =>
    if ordinal ∈ members then do
      report set ordinal
      takeOut set rest (members.filter (· ≠ ordinal))
    else takeOut set rest members

end Program

/-- The fields whose roles keep them out of a set, one role after the other. -/
def keptOut (roles : Roles) : FieldSet → List Nat
  | .read => roles.softDelete.toList
  | .write => roles.softDelete.toList ++ roles.primary.toList

open Program in
def Call.program : Call → Program Unit
  | setPrimary name => do
    let ordinal ← lookUp name
    change fun roles => { roles with primary := some ordinal }
    change fun roles => { roles with write := roles.write.filter (· ≠ ordinal) }
  | setSoftDelete name => do
    let ordinal ← lookUp name
    change fun roles => { roles with softDelete := some ordinal }
    change fun roles => { roles with read := roles.read.filter (· ≠ ordinal) }
    change fun roles => { roles with write := roles.write.filter (· ≠ ordinal) }
  | setFields set names => do
    let named ← lookUpAll names
    let roles := (← get).roles
    let members ← takeOut set (roles.keptOut set) (roles.record.ordinals.filter named.contains)
    change fun roles => roles.withSet set members
  | resetSets => do
    change fun roles => roles.withSet .read (roles.members .read roles.record.ordinals)
    change fun roles => roles.withSet .write (roles.members .write roles.record.ordinals)
  | setTable table => change fun roles => roles.setTable table
  | setSkipSuffix skip => change fun roles => roles.setSkipSuffix skip

/-- What a call gives as an operation on values: the roles and the fields dropped, or an error. -/
def apply (roles : Roles) : Call → Except GenerationError (Roles × List Dropped)
  | .setPrimary name => (roles.setPrimary name).map fun roles => (roles, [])
  | .setSoftDelete name => (roles.setSoftDelete name).map fun roles => (roles, [])
  | .setFields set names => roles.setFields set names
  | .resetSets => .ok (roles.resetSets, [])
  | .setTable table => .ok (roles.setTable table, [])
  | .setSkipSuffix skip => .ok (roles.setSkipSuffix skip, [])

/-- Picking items out of a list and dropping its repetitions can be done in both orders. -/
theorem filter_eraseDups {α : Type} [BEq α] [LawfulBEq α] (p : α → Bool) (l : List α) :
    l.eraseDups.filter p = (l.filter p).eraseDups := by
  match l with
  | [] => rfl
  | a :: rest =>
    have ih := filter_eraseDups p (rest.filter fun b => !b == a)
    rw [List.eraseDups_cons, List.filter_cons, List.filter_cons, ih]
    split
    · rw [List.eraseDups_cons, List.filter_filter, List.filter_filter]
      simp only [Bool.and_comm]
    · next h =>
      congr 1
      rw [List.filter_filter]
      refine List.filter_congr fun b _ => ?_
      by_cases hb : b = a
      · simp_all
      · simp [hb]
termination_by l.length
decreasing_by
  have := List.length_filter_le (fun b => !b == a) rest
  simp only [List.length_cons]
  omega

namespace Program
variable (bench : Bench)

theorem bind_run {α β : Type} (first : Program α) (next : α → Program β) :
    (first >>= next).run bench = match first.run bench with
      | .ok value bench => (next value).run bench
      | .error e bench => .error e bench := by
  simp only [EStateM.run, bind, EStateM.bind]
  cases first bench <;> rfl

theorem get_run : (get : Program Bench).run bench = .ok bench bench := rfl

theorem change_run (f : Roles → Roles) :
    (change f).run bench = .ok () { bench with roles := f bench.roles } := rfl

theorem lookUp_run (name : String) :
    (lookUp name).run bench = match bench.roles.resolve name with
      | .ok ordinal => .ok ordinal bench
      | .error e => .error e bench := by
  simp only [lookUp, bind_run, get_run]
  cases bench.roles.resolve name <;> rfl

/-- Looking names up changes nothing, whether all of them are found or not. -/
theorem lookUpAll_run (names : List String) :
    (lookUpAll names).run bench = match bench.roles.resolveAll names with
      | .ok ordinals => .ok ordinals bench
      | .error e => .error e bench := by
  induction names with
  | nil => rfl
  | cons name rest ih =>
    simp only [lookUpAll, resolveAll, bind_run, lookUp_run]
    cases bench.roles.resolve name with
    | error e => rfl
    | ok ordinal =>
      simp only [ih]
      cases bench.roles.resolveAll rest <;> rfl

theorem takeOut_cons_run (set : FieldSet) (ordinal : Nat) (rest members : List Nat) :
    (takeOut set (ordinal :: rest) members).run bench =
      if ordinal ∈ members then
        (takeOut set rest (members.filter (· ≠ ordinal))).run
          { bench with dropped := bench.dropped ++ [⟨bench.roles.nameAt ordinal, set⟩] }
      else (takeOut set rest members).run bench := by
  simp only [takeOut]
  split <;> rfl

/-- Taking fields out one after the other leaves those that are not named for it, and reports each of
the others once, at its first place. -/
theorem takeOut_run (set : FieldSet) (ordinals members : List Nat) :
    (takeOut set ordinals members).run bench =
      .ok (members.filter fun i => !ordinals.contains i) { bench with
        dropped := bench.dropped ++
          ((ordinals.eraseDups.filter members.contains).map
            (fun i => ⟨bench.roles.nameAt i, set⟩)) } := by
  induction ordinals generalizing bench members with
  | nil => simp [takeOut]
  | cons ordinal rest ih =>
    rw [takeOut_cons_run, List.eraseDups_cons, ← filter_eraseDups, List.filter_cons,
      List.filter_filter, ih, ih]
    have kept : ∀ i ∈ members, (!rest.contains i && decide (i ≠ ordinal)) =
        !(ordinal :: rest).contains i := by
      intro i _
      by_cases hi : i = ordinal <;> simp [hi]
    by_cases h : ordinal ∈ members
    · have reported : ∀ i ∈ rest.eraseDups, (members.filter (· ≠ ordinal)).contains i =
          (members.contains i && !i == ordinal) := by
        intro i _
        by_cases hi : i = ordinal <;> simp [hi]
      rw [if_pos h, if_pos (by simpa using h), List.filter_filter, List.filter_congr kept,
        List.filter_congr reported]
      simp
    · have gone : ∀ i ∈ members, (!rest.contains i) = !(ordinal :: rest).contains i := by
        intro i hi
        have : i ≠ ordinal := fun hio => h (hio ▸ hi)
        simp [this]
      have reported : ∀ i ∈ rest.eraseDups, members.contains i =
          (members.contains i && !i == ordinal) := by
        intro i _
        by_cases hi : i = ordinal <;> simp [hi, h]
      rw [if_neg h, if_neg (by simpa using h), List.filter_congr gone, List.filter_congr reported]

end Program

theorem position?_lt {record : Record} {name : String} {ordinal : Nat}
    (h : record.position? name = some ordinal) : ordinal < record.size :=
  (List.findIdx?_eq_some_iff_getElem.1 h).1

theorem resolve_eq_ok_iff {roles : Roles} {name : String} {ordinal : Nat} :
    roles.resolve name = .ok ordinal ↔ roles.record.position? name = some ordinal := by
  unfold resolve
  cases roles.record.position? name <;> simp

theorem resolve_eq_error_iff {roles : Roles} {name : String} {e : GenerationError} :
    roles.resolve name = .error e ↔ roles.record.position? name = none ∧
      e = .fieldNotFound (Text.trimmed name) roles.model := by
  unfold resolve
  cases roles.record.position? name <;> simp [eq_comm]

/-- The first of the names that matches no field. -/
def firstUnknown (record : Record) (names : List String) : Option String :=
  names.find? fun name => (record.position? name).isNone

/-- Names resolve, all of them, or fail with the first one that matches no field. -/
theorem resolveAll_eq (roles : Roles) (names : List String) :
    roles.resolveAll names = match firstUnknown roles.record names with
      | some name => .error (.fieldNotFound (Text.trimmed name) roles.model)
      | none => .ok (names.filterMap roles.record.position?) := by
  induction names with
  | nil => rfl
  | cons name rest ih =>
    simp only [resolveAll, firstUnknown, List.find?_cons, List.filterMap_cons] at ih ⊢
    cases h : roles.record.position? name with
    | none =>
      have hname : roles.resolve name = .error (.fieldNotFound (Text.trimmed name) roles.model) :=
        resolve_eq_error_iff.2 ⟨h, rfl⟩
      simp [hname]
    | some ordinal =>
      have hname : roles.resolve name = .ok ordinal := resolve_eq_ok_iff.2 h
      simp only [hname, Option.isNone_some, ih]
      cases rest.find? fun name => (roles.record.position? name).isNone <;> rfl

theorem lt_of_resolveAll {roles : Roles} {names : List String} {named : List Nat}
    (h : roles.resolveAll names = .ok named) : ∀ i ∈ named, i < roles.record.size := by
  rw [resolveAll_eq] at h
  split at h
  · simp at h
  · obtain rfl := Except.ok.inj h
    intro i hi
    obtain ⟨name, _, hname⟩ := List.mem_filterMap.1 hi
    exact position?_lt hname

theorem eraseDups_keptOut (roles : Roles) (set : FieldSet) :
    (roles.keptOut set).eraseDups = roles.excluded set := by
  cases set with
  | read =>
    unfold keptOut excluded
    cases roles.softDelete <;> rfl
  | write => rfl

/-- The members of a set are those named for it, less the fields that a role keeps out. -/
theorem members_eq_filter (roles : Roles) (set : FieldSet) (named : List Nat) :
    roles.members set named = (roles.record.ordinals.filter named.contains).filter
      fun i => !(roles.keptOut set).contains i := by
  rw [List.filter_filter, members, ← eraseDups_keptOut]
  refine List.filter_congr fun i _ => ?_
  rw [Bool.and_comm]
  simp

theorem dropped_eq_filter {roles : Roles} {names : List String} {named : List Nat}
    (h : roles.resolveAll names = .ok named) (set : FieldSet) :
    roles.dropped set named = ((roles.excluded set).filter
      (roles.record.ordinals.filter named.contains).contains).map
        fun i => ⟨roles.nameAt i, set⟩ := by
  unfold dropped
  congr 1
  refine List.filter_congr fun i _ => ?_
  have := lt_of_resolveAll h i
  simp only [List.contains_eq_mem, List.mem_filter, Record.ordinals, List.mem_range]
  simp only [decide_eq_true_eq, decide_eq_decide]
  tauto

/-- What a call does in place is what the operation on values gives, and a failure leaves the bench as
it was. -/
theorem Call.program_run (call : Call) (bench : Bench) :
    call.program.run bench = match bench.roles.apply call with
      | .ok (roles, dropped) => .ok () ⟨roles, bench.dropped ++ dropped⟩
      | .error e => .error e bench := by
  cases call with
  | setPrimary name =>
    simp only [program, Program.bind_run, Program.lookUp_run, Program.change_run, Roles.apply,
      Roles.setPrimary]
    cases bench.roles.resolve name <;> simp [Except.map]
  | setSoftDelete name =>
    simp only [program, Program.bind_run, Program.lookUp_run, Program.change_run, Roles.apply,
      Roles.setSoftDelete]
    cases bench.roles.resolve name <;> simp [Except.map]
  | setFields set names =>
    simp only [program, Program.bind_run, Program.lookUpAll_run, Program.get_run, Program.change_run,
      Roles.apply, Roles.setFields]
    cases h : bench.roles.resolveAll names with
    | error e => rfl
    | ok named =>
      simp only [Program.takeOut_run, eraseDups_keptOut]
      rw [members_eq_filter, dropped_eq_filter h]
  | resetSets =>
    simp [program, Program.change_run, Roles.apply, Roles.resetSets, withSet, members, excluded]
  | setTable table => simp [program, Program.change_run, Roles.apply]
  | setSkipSuffix skip => simp [program, Program.change_run, Roles.apply]

end RecordAccess.Roles
