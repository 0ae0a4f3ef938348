import RecordAccess.Proofs.Generation.Outcome
import RecordAccess.Proofs.Registry.FirstRequests
import RecordAccess.Proofs.Template.Mentions

/-!
# The header is what the functions need

A run declares what its operations request and the package lacks, in the order of first requests, and imports
what the declared texts and the functions mention. What the package declares already shows in the header and
the imports only: the functions are those of a package that declares nothing.
-/
namespace RecordAccess

namespace Fragment

/-- The declarations that an operation requests, in order. -/
def needs (operation : Operation) : List Declaration :=
  (requests operation).filterMap Request.declaration?

theorem mem_needs_iff {operation : Operation} {declaration : Declaration} :
    declaration ∈ needs operation ↔ .declaration declaration ∈ requests operation := by
  simp [needs, Request.declaration?_eq_some_iff]

theorem importPath_mem_requests_iff {operation : Operation} {path : String} :
    .importPath path ∈ requests operation ↔
      (path = formatImport ∨ path = stringsImport) ∧ operation = .list := by
  cases operation <;> simp [requests]

theorem mentions_needed_iff (operation : Operation) (roles : Roles) (declaration : Declaration) :
    Mentions operation roles declaration.identifier.toList ↔ declaration ∈ needs operation := by
  rw [mem_needs_iff]
  exact mentions_iff operation roles (declaration_mem_vocabulary declaration)

theorem mentions_qualifier_iff (operation : Operation) (roles : Roles) {path : String}
    (h : path ∈ packages) :
    Mentions operation roles (qualifier path) ↔ .importPath path ∈ requests operation :=
  mentions_iff operation roles (importPath_mem_vocabulary h)

end Fragment

namespace Declaration

theorem infix_qualifier_iff {declaration : Declaration} {path : String} (h : path ∈ packages) :
    qualifier path <:+: declaration.text.toList ↔ path ∈ declaration.imports := by
  have mention := declaration.infix_text_iff (importPath_mem_vocabulary h)
  simpa [Request.word, mentioned] using mention

/-- Whether a package that declares some identifiers has no declaration of this one. -/
def isLacking (existing : List String) (declaration : Declaration) : Bool :=
  !existing.contains declaration.identifier

theorem isLacking_iff {existing : List String} {declaration : Declaration} :
    declaration.isLacking existing ↔ declaration.identifier ∉ existing := by
  simp [isLacking]

theorem exists_mem_imports_iff {declarations : List Declaration} {path : String} :
    (∃ declaration ∈ declarations, path ∈ declaration.imports) ↔
      path = databaseImport ∧ (execer ∈ declarations ∨ queryer ∈ declarations ∨ queryRower ∈ declarations) ∨
        path = errorsImport ∧ noRowsAffected ∈ declarations := by
  constructor
  · rintro ⟨declaration, hmem, hpath⟩
    cases declaration <;> simp_all [imports]
  · rintro (⟨rfl, h | h | h⟩ | ⟨rfl, h⟩)
    · exact ⟨execer, h, List.mem_cons_self⟩
    · exact ⟨queryer, h, List.mem_cons_self⟩
    · exact ⟨queryRower, h, List.mem_cons_self⟩
    · exact ⟨noRowsAffected, h, List.mem_cons_self⟩

end Declaration

/-- Declarations and imports are what operations need in a package that declares some identifiers. -/
structure Suits (operations : List Operation) (existing : List String)
    (declarations : List Declaration) (imports : List String) : Prop where
  declarations_eq : declarations =
    (operations.flatMap Fragment.needs).eraseDups.filter (Declaration.isLacking existing)
  imports_ascending : imports.Pairwise (· < ·)
  mem_imports_iff : ∀ path, path ∈ imports ↔
    path = Declaration.databaseImport ∧
        (.execer ∈ declarations ∨ .queryer ∈ declarations ∨ .queryRower ∈ declarations) ∨
      path = Declaration.errorsImport ∧ .noRowsAffected ∈ declarations ∨
      (path = Fragment.formatImport ∨ path = Fragment.stringsImport) ∧ .list ∈ operations

/-- What functions mention is there, declared once and imported, and nothing else is. A function mentions what
stands in its text, but for an identifier that is part of a name that the record gave. -/
structure Closes (roles : Roles) (operations : List Operation) (existing : List String)
    (declarations : List Declaration) (imports : List String) : Prop where
  available : ∀ operation ∈ operations, ∀ declaration : Declaration,
    Fragment.Mentions operation roles declaration.identifier.toList →
      declaration.identifier ∈ existing ∨ declarations.count declaration = 1
  written : ∀ operation ∈ operations, ∀ word, Fragment.Mentions operation roles word →
    word <:+: (Fragment.text operation roles).toList
  given : ∀ operation ∈ operations, ∀ declaration : Declaration,
    declaration.identifier.toList <:+: (Fragment.text operation roles).toList →
      Fragment.Mentions operation roles declaration.identifier.toList ∨
        ∃ name ∈ Fragment.variableNames operation,
          declaration.identifier.toList <:+: (Fragment.valueOf operation roles name).toList
  used : ∀ declaration ∈ declarations, declaration.identifier ∉ existing ∧
    ∃ operation ∈ operations, Fragment.Mentions operation roles declaration.identifier.toList
  imported_iff : ∀ path, path ∈ imports ↔ path ∈ packages ∧
    ((∃ declaration ∈ declarations, qualifier path <:+: declaration.text.toList) ∨
      ∃ operation ∈ operations, Fragment.Mentions operation roles (qualifier path))

namespace Suits
variable {operations : List Operation} {existing imports : List String}
  {declarations : List Declaration}

theorem mem_declarations_iff (h : Suits operations existing declarations imports)
    {declaration : Declaration} : declaration ∈ declarations ↔
      declaration.identifier ∉ existing ∧ ∃ operation ∈ operations, declaration ∈ Fragment.needs operation := by
  rw [h.declarations_eq, List.mem_filter, List.mem_eraseDups, List.mem_flatMap, Declaration.isLacking_iff,
    and_comm]

theorem nodup (h : Suits operations existing declarations imports) : declarations.Nodup := by
  rw [h.declarations_eq]
  exact (nodup_eraseDups _).filter _

theorem imported_iff_brought (h : Suits operations existing declarations imports) (path : String) :
    path ∈ imports ↔ (∃ declaration ∈ declarations, path ∈ declaration.imports) ∨
      ∃ operation ∈ operations, .importPath path ∈ Fragment.requests operation := by
  simp only [h.mem_imports_iff, Declaration.exists_mem_imports_iff, Fragment.importPath_mem_requests_iff,
    and_left_comm, exists_and_left, exists_eq_right, or_assoc]

theorem mem_packages (h : Suits operations existing declarations imports) {path : String}
    (hpath : path ∈ imports) : path ∈ packages := by
  rcases (h.mem_imports_iff path).1 hpath with ⟨rfl, _⟩ | ⟨rfl, _⟩ | ⟨rfl | rfl, _⟩ <;> simp [packages]

theorem closes (h : Suits operations existing declarations imports) (roles : Roles) :
    Closes roles operations existing declarations imports where
  available operation hoperation declaration mention := by
    rw [Fragment.mentions_needed_iff] at mention
    by_cases known : declaration.identifier ∈ existing
    · exact .inl known
    · have declared := h.mem_declarations_iff.2 ⟨known, operation, hoperation, mention⟩
      exact .inr (List.count_eq_one_of_mem h.nodup declared)
  written operation _ _ mention := mention.infix_text operation roles
  given operation _ declaration occurs := Fragment.mentions_or_of_infix_text operation roles occurs
  used declaration declared := by
    obtain ⟨lacking, operation, hoperation, need⟩ := h.mem_declarations_iff.1 declared
    exact ⟨lacking, operation, hoperation, (Fragment.mentions_needed_iff _ _ _).2 need⟩
  imported_iff path := by
    by_cases known : path ∈ packages
    · simp only [h.imported_iff_brought, known, true_and, Declaration.infix_qualifier_iff known,
        Fragment.mentions_qualifier_iff _ _ known]
    · simp only [known, false_and, iff_false]
      exact fun hpath => known (h.mem_packages hpath)

end Suits

section Rendered
variable (roles : Roles) (existing : List String) (operations : List Operation)

theorem requestedBy_ticketRows : requestedBy (Schedule.inTurn (Generator.ticketRows operations)) =
    operations.flatMap Fragment.needs := by
  rw [requestedBy_eq_filterMap, Generator.ticketRows, map_request_inTurn, List.filterMap_flatten, List.map_map,
    List.flatMap]
  rfl

theorem suits_rendered :
    Suits operations existing (Session.rendered roles existing operations.eraseDups).registry.declarations
      (Session.rendered roles existing operations.eraseDups).registry.imports := by
  let tickets := Schedule.inTurn (Generator.ticketRows operations.eraseDups)
  let registry := (Registry.ofExisting existing).run tickets
  have holds : Registry.Holds existing tickets registry := Registry.holds_run existing tickets
  have rising : Rising tickets := rising_inTurn _
  have declarations_eq : registry.declarations =
      (operations.flatMap Fragment.needs).eraseDups.filter (Declaration.isLacking existing) := by
    rw [← eraseDups_flatMap_eraseDups, ← requestedBy_ticketRows]
    exact rising.declarations_run existing
  have due : ∀ declaration, Due existing tickets declaration ↔ declaration ∈ registry.declarations := by
    intro declaration
    rw [registry.mem_declarations, holds.isDeclared_iff]
  have required : ∀ path, (∃ rank, ⟨rank, .importPath path⟩ ∈ tickets) ↔
      (path = Fragment.formatImport ∨ path = Fragment.stringsImport) ∧ .list ∈ operations := by
    intro path
    refine requested_path_inTurn_iff.trans ?_
    simp only [List.mem_map, List.mem_eraseDups, exists_exists_and_eq_and,
      Fragment.importPath_mem_requests_iff, and_left_comm, exists_and_left, exists_eq_right]
  have mem_imports_iff : ∀ path, path ∈ registry.imports ↔
      path = Declaration.databaseImport ∧ (.execer ∈ registry.declarations ∨
          .queryer ∈ registry.declarations ∨ .queryRower ∈ registry.declarations) ∨
        path = Declaration.errorsImport ∧ .noRowsAffected ∈ registry.declarations ∨
        (path = Fragment.formatImport ∨ path = Fragment.stringsImport) ∧ .list ∈ operations := by
    intro path
    rw [holds.mem_imports_iff]
    simp only [required, due]
    rw [Declaration.exists_mem_imports_iff, or_comm, or_assoc]
  exact ⟨declarations_eq, holds.imports_ascending, mem_imports_iff⟩

end Rendered

theorem Session.assemble_eq_ok_iff {session : Session} {formatter : Formatter} {package : String}
    {source : GeneratedSource} : session.assemble formatter package = .ok source ↔
      ∃ text, formatter (session.concat package) = .ok text ∧ source = {
        package
        record := session.roles.model
        text
        imports := session.registry.imports
        declarations := session.registry.declarations } := by
  unfold assemble
  cases formatter (session.concat package) with
  | error diagnostic => simp
  | ok text => simp [eq_comm]

namespace Generator

structure Produces (generator : Generator) (record : Record) (existing : List String) (session : Session)
    (source : GeneratedSource) : Prop where
  renders : generator.Renders record existing session
  assembled : session.assemble generator.finalStep source.package = .ok source

section Produced
variable {generator : Generator} {record : Record} {existing : List String} {package : String}
  {session : Session} {source : GeneratedSource}

theorem Outcome.exists_produces (h : Outcome generator record existing package (.ok source)) :
    source.package = package ∧ ∃ session, generator.Produces record existing session source := by
  cases h with
  | @generated session text renders hformat =>
    refine ⟨rfl, session, renders, Session.assemble_eq_ok_iff.2 ⟨text, hformat, ?_⟩⟩
    rw [model_of_classified renders.classified]

theorem Renders.suits (h : generator.Renders record existing session) :
    Suits generator.settings.operations existing session.registry.declarations
      session.registry.imports := by
  rw [h.eq_rendered]
  exact suits_rendered _ _ _

theorem Produces.suits (h : generator.Produces record existing session source) :
    Suits generator.settings.operations existing source.declarations source.imports := by
  obtain ⟨text, _, fields⟩ := Session.assemble_eq_ok_iff.1 h.assembled
  rw [fields]
  exact h.renders.suits

end Produced

end Generator

end RecordAccess
