import RecordAccess.Proofs.Formatter.NormalForm
import RecordAccess.Proofs.Generation.SourceUnits

/-!
# The package that a source declares

The check reads the package off the first line of the assembled text and not off the package that is asked for.
The two are the same unless the latter goes on after a line feed. So what is declared is always an identifier, and
it is the package that was asked for, blanks around it set aside, if nothing but blanks follows a line feed there.
-/
namespace RecordAccess

namespace Source
open Text

section FirstLine
variable {line rest : List Char}

/-- Tidying keeps a first line that starts with the word of a package clause, but for the blanks at its end. -/
theorem exists_tidy_packageWord_append (newline : '\n' ∉ line) (filled : trimEnd line ≠ []) (rest : List Char) :
    ∃ others, tidy (packageWord ++ line ++ '\n' :: rest) = packageWord ++ trimEnd line ++ '\n' :: others := by
  have outside := newline_not_mem_packageWord_append newline
  generalize hs : packageWord ++ line ++ '\n' :: rest = s
  have rows_eq : rows s = (packageWord ++ trimEnd line) :: rows rest := by
    rw [← hs, rows_append_cons, rows_of_not_mem outside, trimEnd_append filled]
    rfl
  have starts : ∃ others, s = 'p' :: others := by
    rw [← hs, packageWord_eq]
    exact ⟨_, rfl⟩
  obtain ⟨others, rfl⟩ := starts
  have trim_eq : trim ('p' :: others) = trimEnd ('p' :: others) := trim_append_cons (List.forall_mem_nil _) rfl others
  have solid : trim ('p' :: others) ≠ [] := by
    obtain ⟨kept, hkept⟩ := exists_trimEnd_cons (c := 'p') rfl others
    rw [trim_eq, hkept]
    exact List.cons_ne_nil _ _
  -- The blanks that go from the end of the text leave its first row as it is.
  obtain ⟨blanks, hblanks, blank⟩ := exists_trimEnd ('p' :: others)
  have rows_trim : rows ('p' :: others) = rows (trim ('p' :: others)) ++ List.replicate (blanks.count '\n') [] := by
    rw [trim_eq, ← rows_append_blanks blank, ← hblanks]
  cases hrows : rows (trim ('p' :: others)) with
  | nil => exact absurd (List.map_eq_nil_iff.1 hrows) (List.splitOn_ne_nil _ _)
  | cons first below =>
    obtain rfl : first = packageWord ++ trimEnd line := by
      rw [rows_eq, hrows] at rows_trim
      exact (List.cons.inj rows_trim).1.symm
    refine ⟨unlines (squeeze below), ?_⟩
    rw [tidy, tidyLines, map_trimEnd_lines_eq solid (getLast?_trim _), hrows, squeeze_cons (by simp [filled]),
      unlines_cons]

end FirstLine

end Source

open Source Text

namespace SourceUnit

def firstLine (s : List Char) : List Char := s.takeWhile (· ≠ '\n')

def afterFirstLine (s : List Char) : List Char := s.dropWhile (· ≠ '\n')

/-- The name in the package clause of a source for a package. -/
def clauseName (package : String) : List Char := trim (firstLine package.toList)

/-- The first line of the text is a package clause with the name. -/
def Declares (text name : List Char) : Prop :=
  ∃ blanks rest, (∀ c ∈ blanks, isBlank c) ∧ '\n' ∉ blanks ++ name ∧
    text = packageWord ++ blanks ++ name ++ '\n' :: rest

/-- Why a name in a package clause is refused. -/
def refusal (name : List Char) : SourceFault :=
  if name = [] then .noPackageClause else .invalidPackageName (String.ofList name)

section Lines
variable {s : List Char}

theorem newline_not_mem_firstLine (s : List Char) : '\n' ∉ firstLine s := by
  intro h
  simpa using List.mem_takeWhile_imp h

theorem firstLine_append_afterFirstLine (s : List Char) : firstLine s ++ afterFirstLine s = s :=
  List.takeWhile_append_dropWhile

theorem afterFirstLine_eq (s : List Char) : afterFirstLine s = [] ∨ ∃ rest, afterFirstLine s = '\n' :: rest := by
  cases h : afterFirstLine s with
  | nil => exact .inl rfl
  | cons c rest =>
    have first := List.head?_dropWhile_not (· ≠ '\n') s
    rw [show s.dropWhile (· ≠ '\n') = c :: rest from h] at first
    obtain rfl : c = '\n' := by simpa using first
    exact .inr ⟨rest, rfl⟩

end Lines

section Names
variable {package : String}

/-- The name in a package clause is all of the package, trimmed, if only blanks follow its first line. -/
theorem trim_eq_clauseName (h : ∀ c ∈ afterFirstLine package.toList, isBlank c) :
    trim package.toList = clauseName package := by
  have whole := trim_append_blanks h (firstLine package.toList)
  rwa [firstLine_append_afterFirstLine] at whole

/-- If more follows, trimming keeps the line feed. -/
theorem newline_mem_trim_package (hname : clauseName package ≠ [])
    (h : ¬∀ c ∈ afterFirstLine package.toList, isBlank c) : '\n' ∈ trim package.toList := by
  rw [← firstLine_append_afterFirstLine package.toList]
  rcases afterFirstLine_eq package.toList with empty | ⟨rest, hrest⟩
  · rw [empty] at h
    exact absurd (List.forall_mem_nil _) h
  · rw [hrest] at h ⊢
    refine newline_mem_trim hname ?_
    intro blank
    refine h (List.forall_mem_cons.2 ⟨rfl, blank_of_trim (trim_of_trimEnd blank)⟩)

/-- Tidying leaves a package clause that declares the name. -/
theorem declares_tidy (filled : clauseName package ≠ []) (rest : List Char) :
    Declares (tidy (packageWord ++ firstLine package.toList ++ '\n' :: rest)) (clauseName package) := by
  obtain ⟨blanks, hblanks, blank⟩ := exists_trimEnd_eq filled
  obtain ⟨others, hothers⟩ := exists_tidy_packageWord_append (newline_not_mem_firstLine package.toList)
    (fun h => filled (trim_of_trimEnd h)) rest
  refine ⟨blanks, others, blank, ?_, ?_⟩
  · obtain ⟨cut, hcut, _⟩ := exists_trimEnd (firstLine package.toList)
    intro newline
    rw [clauseName, ← hblanks] at newline
    exact newline_not_mem_firstLine package.toList (hcut ▸ List.mem_append_left cut newline)
  · rw [hothers, hblanks, clauseName, ← List.append_assoc]

end Names

end SourceUnit

namespace Session
open SourceUnit
variable (session : Session) (package : String)

theorem exists_concat_eq : ∃ rest, (session.concat package).toList =
    packageWord ++ firstLine package.toList ++ '\n' :: rest := by
  obtain ⟨rest, hrest⟩ : ∃ rest, (session.concat package).toList =
      packageWord ++ package.toList ++ '\n' :: rest := by
    rw [concat, SourceUnit.assemble, String.append_assoc, String.append_assoc, toList_clause_append]
    exact ⟨_, rfl⟩
  rw [hrest]
  nth_rewrite 1 [← firstLine_append_afterFirstLine package.toList]
  rcases afterFirstLine_eq package.toList with empty | ⟨more, hmore⟩
  · exact ⟨rest, by rw [empty, List.append_nil]⟩
  · exact ⟨more ++ '\n' :: rest, by rw [hmore]; simp⟩

/-- A source is assembled only if the name on its first line is an identifier. It is the package that was asked
for, blanks around it set aside, exactly if only blanks follow the first line feed there. -/
theorem assemble_declares (session : Session) (package : String) :
    (∀ source, session.assemble Formatter.check package = .ok source →
      isIdentifier (clauseName package) ∧ Declares source.text.toList (clauseName package) ∧
      (isIdentifier (trim package.toList) ∧ Declares source.text.toList (trim package.toList) ↔
        ∀ c ∈ afterFirstLine package.toList, isBlank c)) ∧
    (isIdentifier (clauseName package) = false →
      session.assemble Formatter.check package = .error (.format (refusal (clauseName package)).message)) := by
  obtain ⟨rest, hconcat⟩ := session.exists_concat_eq package
  have clause := checkClause_packageWord_append (newline_not_mem_firstLine package.toList) rest
  rw [← hconcat] at clause
  rw [← clauseName] at clause
  constructor
  · intro source hsource
    obtain ⟨text, checked, rfl⟩ : ∃ text, Formatter.check (session.concat package) = .ok text ∧
        source.text = text := by
      rw [Session.assemble] at hsource
      cases hcheck : Formatter.check (session.concat package) with
      | error diagnostic => simp [hcheck] at hsource
      | ok text =>
        simp only [hcheck, Except.ok.injEq] at hsource
        exact ⟨text, rfl, hsource ▸ rfl⟩
    obtain ⟨passed, _, tidied⟩ := Formatter.check_eq_ok_iff.1 checked
    have valid : isIdentifier (clauseName package) := by
      by_contra invalid
      rw [clause, if_neg invalid] at passed
      cases passed
    have filled : clauseName package ≠ [] := by
      rintro empty
      simp [empty, isIdentifier] at valid
    have declares : Declares source.text.toList (clauseName package) := by
      rw [tidied, hconcat]
      exact declares_tidy filled rest
    refine ⟨valid, declares, ?_⟩
    constructor
    · rintro ⟨asked, _⟩
      by_contra more
      exact newline_not_mem_of_isIdentifier asked (newline_mem_trim_package filled more)
    · intro blank
      rw [trim_eq_clauseName blank]
      exact ⟨valid, declares⟩
  · intro invalid
    rw [if_neg (by simp [invalid])] at clause
    have refused : Formatter.check (session.concat package) = .error (refusal (clauseName package)).message := by
      simp only [Formatter.check, Formatter.checkedText, clause]
      rfl
    rw [Session.assemble, refused]

/-- A package with blanks around it and a line feed at its end is declared, and one with a hyphen is refused. -/
theorem assemble_declares_padded :
    let session : Session := { roles := Roles.ofRecord ⟨"Note", [], by decide⟩, body := "\nfunc f() \x7b\x7d\n" }
    (∃ source, session.assemble Formatter.check " notes\t\n " = .ok source ∧
      isIdentifier "notes".toList ∧ Declares source.text.toList "notes".toList) ∧
    session.assemble Formatter.check "my-notes\nnotes" = .error (.format "invalid package name 'my-notes'") := by
  intro session
  have name : trim " notes\t\n ".toList = "notes".toList := by decide +kernel
  have refused : clauseName "my-notes\nnotes" = "my-notes".toList := by decide +kernel
  have blank : (afterFirstLine " notes\t\n ".toList).all isBlank = true := by decide +kernel
  have accepted : (session.assemble Formatter.check " notes\t\n ").isOk := by decide +kernel
  constructor
  · cases hsource : session.assemble Formatter.check " notes\t\n " with
    | error e => simp [hsource, Except.isOk, Except.toBool] at accepted
    | ok source =>
      obtain ⟨_, _, asked⟩ := (assemble_declares session " notes\t\n ").1 source hsource
      rw [name] at asked
      exact ⟨source, rfl, asked.2 (List.all_eq_true.1 blank)⟩
  · have diagnostic : (refusal "my-notes".toList).message = "invalid package name 'my-notes'" := by decide +kernel
    rw [(assemble_declares session "my-notes\nnotes").2 (by decide +kernel), refused, diagnostic]

/-- What follows a line feed in the package slips past the check, and the text declares something else. -/
theorem package_with_line_feed_is_assembled :
    ¬∀ (session : Session) (package : String) (source : GeneratedSource),
      session.assemble Formatter.check package = .ok source →
        isIdentifier (trim package.toList) ∧ Declares source.text.toList (trim package.toList) := by
  let session : Session := { roles := Roles.ofRecord ⟨"Note", [], by decide⟩ }
  have assembled : session.assemble Formatter.check "a\nb" = .ok ⟨"a\nb", "Note", "package a\nb\n", [], []⟩ := by
    decide +kernel
  have invalid : isIdentifier (trim "a\nb".toList) = false := by decide +kernel
  intro h
  have valid := (h session "a\nb" _ assembled).1
  rw [invalid] at valid
  cases valid

end Session

end RecordAccess
