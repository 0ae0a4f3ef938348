import RecordAccess.Generation
import RecordAccess.Proofs.Registry.Interleaving
import RecordAccess.Proofs.Template.Filling

/-!
# Rendering side by side

Operations that are rendered side by side have their requests served in some interleaving. Every
interleaving leaves the session that rendering the operations one after the other leaves, each through
a sink of its own position. So a run with renderers side by side returns what the run in turn returns,
whatever the schedule.
-/
namespace RecordAccess

namespace Session

/-- The session after rendering operations one after the other, each through a sink at its own
position, the first one at the given position. -/
def renderFrom (session : Session) (position : Nat) : List Operation → Except GenerationError Session
  | [] => .ok session
  | operation :: rest =>
    match session.render (.position position) operation with
    | .error e => .error e
    | .ok (_, session) => session.renderFrom (position + 1) rest

theorem render_position (session : Session) (position : Nat) (operation : Operation) :
    session.render (.position position) operation =
      .ok (Fragment.text operation session.roles, { session with
        registry := session.registry.run (tickets position (Fragment.requests operation))
        body := session.body ++ Fragment.text operation session.roles }) := by
  simp only [render, Fragment.render_eq_ok, Registry.serveThrough, Registry.serveAll_serve_snd]

/-- The texts of operations, joined in order. -/
def bodyOf (roles : Roles) (operations : List Operation) : String :=
  String.join (operations.map fun operation => Fragment.text operation roles)

theorem renderFrom_eq_ok (session : Session) (position : Nat) (operations : List Operation) :
    session.renderFrom position operations = .ok { session with
      registry := session.registry.run
        (((operations.map Fragment.requests).zipIdx position).map
          fun (row, operation) => tickets operation row).flatten
      body := session.body ++ bodyOf session.roles operations } := by
  induction operations generalizing session position with
  | nil => simp [renderFrom, Registry.run, bodyOf]
  | cons operation rest ih =>
    simp only [renderFrom, render_position, ih, List.map_cons, List.zipIdx_cons, List.flatten_cons,
      Registry.run_append, bodyOf, String.join_cons, String.append_assoc]

end Session

namespace Generator

theorem renderBody_eq_ok (roles : Roles) (operations : List Operation) :
    renderBody roles operations = .ok (Session.bodyOf roles operations) := by
  induction operations with
  | nil => rfl
  | cons operation rest ih =>
    simp only [renderBody, Fragment.render_eq_ok, ih, Session.bodyOf, List.map_cons, String.join_cons]

theorem renderUnder_eq_ok (schedule : List Ticket) (registry : Registry) (roles : Roles)
    (operations : List Operation) :
    renderUnder schedule registry roles operations =
      .ok { roles, registry := registry.run schedule, body := Session.bodyOf roles operations } := by
  simp only [renderUnder, renderBody_eq_ok]

/-- Rendering in turn is rendering under the schedule that serves the operations in turn. -/
theorem renderUnder_inTurn (registry : Registry) (roles : Roles) (operations : List Operation) :
    renderUnder (Schedule.inTurn (ticketRows operations)) registry roles operations =
      Session.renderFrom { roles, registry } 0 operations := by
  rw [renderUnder_eq_ok, Session.renderFrom_eq_ok]
  simp [Schedule.inTurn, ticketRows, Schedule.rows]

/-- Every schedule leaves the same session. -/
theorem renderUnder_eq_of_interleaves {operations : List Operation} {first second : List Ticket}
    (h₁ : Interleaves (ticketRows operations) first)
    (h₂ : Interleaves (ticketRows operations) second) (registry : Registry) (roles : Roles) :
    renderUnder first registry roles operations = renderUnder second registry roles operations := by
  rw [renderUnder_eq_ok, renderUnder_eq_ok, registry.run_eq_of_interleaves h₁ h₂]

def withParallel (generator : Generator) (parallel : Bool) : Generator :=
  { generator with settings := { generator.settings with parallel } }

section Runs
variable (generator : Generator) (parallel : Bool) {first second : List Ticket}

/-- Whether operations are rendered side by side shows in the schedule only. -/
theorem runUnder_withParallel (schedule : List Ticket) (record : Record) (package : String)
    (registry : Registry) :
    (generator.withParallel parallel).runUnder schedule record package registry =
      generator.runUnder schedule record package registry := rfl

theorem finishUnder_eq_of_interleaves
    (h₁ : Interleaves (ticketRows generator.settings.uniqueOperations) first)
    (h₂ : Interleaves (ticketRows generator.settings.uniqueOperations) second)
    (registry : Registry) (package : String) (roles : Roles) :
    generator.finishUnder first registry package roles =
      generator.finishUnder second registry package roles := by
  simp only [finishUnder, renderUnder_eq_of_interleaves h₁ h₂]

theorem runUnder_eq_of_interleaves
    (h₁ : Interleaves (ticketRows generator.settings.uniqueOperations) first)
    (h₂ : Interleaves (ticketRows generator.settings.uniqueOperations) second)
    (record : Record) (package : String) (registry : Registry) :
    generator.runUnder first record package registry =
      generator.runUnder second record package registry := by
  simp only [runUnder, generator.finishUnder_eq_of_interleaves h₁ h₂]

/-- The schedule that a run follows by itself is one of the interleavings. -/
theorem interleaves_ownSchedule :
    Interleaves (ticketRows generator.settings.uniqueOperations) generator.ownSchedule := by
  unfold ownSchedule schedule
  split
  · exact Schedule.interleaves_roundRobin _
  · exact Schedule.interleaves_inTurn _

/-- Side by side under any schedule, a run comes to what it comes to in turn. -/
theorem runUnder_side_by_side
    (h : Interleaves (ticketRows generator.settings.uniqueOperations) first)
    (record : Record) (package : String) (registry : Registry) :
    (generator.withParallel true).runUnder first record package registry =
      (generator.withParallel false).runUnder (generator.withParallel false).ownSchedule record package
        registry := by
  rw [runUnder_withParallel, runUnder_withParallel]
  have inTurn := (generator.withParallel false).interleaves_ownSchedule
  exact generator.runUnder_eq_of_interleaves h inTurn record package registry

end Runs

/-- Every schedule of the operations' requests ends in the session that rendering in turn ends in: the
same declarations in the same order, imports, header and body. So a run with the operations side by
side returns what the run in turn returns, from a record as from a source, both under every schedule
and under the one it follows by itself. -/
theorem side_by_side_eq_in_turn :
    (∀ (roles : Roles) (operations : List Operation) (existing : List String)
      (schedule : List Ticket), Interleaves (ticketRows operations) schedule →
      ∃ inTurn sideBySide : Session,
        Session.renderFrom { roles, registry := Registry.ofExisting existing } 0 operations =
          .ok inTurn ∧
        renderUnder schedule (Registry.ofExisting existing) roles operations = .ok sideBySide ∧
        sideBySide.registry.declarations = inTurn.registry.declarations ∧
        sideBySide.registry.imports = inTurn.registry.imports ∧
        sideBySide.registry.header = inTurn.registry.header ∧
        sideBySide.body = inTurn.body) ∧
    (∀ (generator : Generator) (record : Record) (package : String) (schedule : List Ticket),
      Interleaves (ticketRows generator.settings.uniqueOperations) schedule →
      (generator.withParallel true).generateUnder schedule record package =
        (generator.withParallel false).generate record package) ∧
    (∀ (generator : Generator) (source : RecordSource) (name : String) (schedule : List Ticket),
      Interleaves (ticketRows generator.settings.uniqueOperations) schedule →
      (generator.withParallel true).generateFromUnder schedule source name =
        (generator.withParallel false).generateFrom source name) ∧
    (∀ generator : Generator, Interleaves (ticketRows generator.settings.uniqueOperations)
      (generator.withParallel true).ownSchedule) := by
  refine ⟨fun roles operations existing schedule h => ?_, fun generator record package schedule h => ?_,
    fun generator source name schedule h => ?_, fun generator => ?_⟩
  · have sessions : renderUnder schedule (Registry.ofExisting existing) roles operations =
        Session.renderFrom { roles, registry := Registry.ofExisting existing } 0 operations := by
      rw [← renderUnder_inTurn]
      exact renderUnder_eq_of_interleaves h (Schedule.interleaves_inTurn _) _ _
    obtain ⟨session, hsession⟩ : ∃ session, Session.renderFrom
        { roles, registry := Registry.ofExisting existing } 0 operations = .ok session :=
      ⟨_, Session.renderFrom_eq_ok _ _ _⟩
    exact ⟨session, session, hsession, sessions.trans hsession, rfl, rfl, rfl, rfl⟩
  · exact generator.runUnder_side_by_side h _ _ _
  · unfold generateFrom generateFromUnder
    cases source.lookup name with
    | error e => rfl
    | ok record => exact generator.runUnder_side_by_side h _ _ _
  · exact (generator.withParallel true).interleaves_ownSchedule

def listAndDelete : Generator := { settings := { operations := [.list, .delete] } }

/-- The renderers of a listing and a deletion take turns, which is not the order in turn, and return
what the run in turn returns. -/
theorem side_by_side_eq_in_turn_listAndDelete :
    let schedule := Schedule.roundRobin (ticketRows [.list, .delete])
    let foo : Record := ⟨"Foo", [⟨"ID", some "id", "uint64", .basic⟩], by decide⟩
    schedule ≠ Schedule.inTurn (ticketRows [.list, .delete]) ∧
      (listAndDelete.withParallel true).generateUnder schedule foo "example" =
        (listAndDelete.withParallel false).generate foo "example" :=
  ⟨by decide, side_by_side_eq_in_turn.2.1 listAndDelete _ _ _ (Schedule.interleaves_roundRobin _)⟩

end Generator
end RecordAccess
