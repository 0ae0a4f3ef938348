import RecordAccess.Proofs.Sql.Characters
import RecordAccess.Proofs.Sql.Parsing

/-!
# Statements are read from their texts

The text of a statement is read as that very statement, if its names are identifiers that no clause is
cut at. Only an update that sets nothing is not read.
-/
namespace RecordAccess.Sql

open Text

section Cut
variable {α : Type}

theorem cut_append {token : Token} {before : List Token} (h : token ∉ before) (after : List Token) :
    cut token (before ++ token :: after) = (before, some after) := by
  induction before with
  | nil => simp [cut]
  | cons first rest ih =>
    have hfirst : first ≠ token := fun heq => h (heq ▸ List.mem_cons_self)
    have hrest := ih fun hmem => h (List.mem_cons_of_mem _ hmem)
    simp [cut, hfirst, hrest]

theorem cut_of_not_mem {token : Token} {tokens : List Token} (h : token ∉ tokens) :
    cut token tokens = (tokens, none) := by
  induction tokens with
  | nil => rfl
  | cons first rest ih =>
    have hfirst : first ≠ token := fun heq => h (heq ▸ List.mem_cons_self)
    have hrest := ih fun hmem => h (List.mem_cons_of_mem _ hmem)
    simp [cut, hfirst, hrest]

theorem readItems_intercalate {separator : Token} {item : List Token → Option α} {items : List α}
    {spelled : α → List Token} (hne : items ≠ []) (hitem : ∀ a ∈ items, item (spelled a) = some a)
    (hseparator : ∀ a ∈ items, separator ∉ spelled a) :
    readItems separator item (List.intercalate [separator] (items.map spelled)) = some items := by
  have pieces : (List.intercalate [separator] (items.map spelled)).splitOn separator =
      items.map spelled := by
    apply List.splitOn_intercalate
    · intro piece hpiece
      obtain ⟨a, ha, rfl⟩ := List.mem_map.1 hpiece
      exact hseparator a ha
    · simpa using hne
  have read : ∀ l : List α, (∀ a ∈ l, item (spelled a) = some a) →
      (l.map spelled).mapM item = some l := by
    intro l hl
    induction l with
    | nil => rfl
    | cons a rest ih =>
      have hrest := ih fun b hb => hl b (List.mem_cons_of_mem _ hb)
      simp [List.mapM_cons, hl a List.mem_cons_self, hrest]
  rw [readItems, pieces, read items hitem]

end Cut

/-- The words that a statement is cut at. -/
def cutting : List String := ["FROM", "WHERE", "AND", "RETURNING"]

structure Plain (name : String) : Prop where
  identifier : isIdentifier name.toList
  not_cutting : name ∉ cutting

instance (name : String) : Decidable (Plain name) :=
  decidable_of_iff (isIdentifier name.toList ∧ name ∉ cutting)
    ⟨fun h => ⟨h.1, h.2⟩, fun h => ⟨h.identifier, h.not_cutting⟩⟩

section Words
variable {name : String}

theorem Plain.tokens_eq (h : Plain name) : tokens name = [.word name] := by
  apply tokens_of_word
  · rintro rfl
    exact absurd h.identifier (by decide)
  · intro c hc
    simp [inWord, continuesIdentifier_of_mem h.identifier c hc]

theorem tokens_placeholder (index : Nat) : tokens (placeholder index) = [.word (placeholder index)] := by
  apply tokens_of_word
  · simp [placeholder]
  · have digit : ∀ c : Char, c.isDigit → inWord c := by
      intro c hc
      have ascii : c.toNat < 0x80 := by
        simp only [Char.isDigit, Bool.and_eq_true, decide_eq_true_eq] at hc
        have := hc.2
        rw [UInt32.le_iff_toNat_le] at this
        exact Nat.lt_of_le_of_lt this (by decide)
      simp [inWord, continuesIdentifier, isNumeral, ascii, hc]
    exact only_append.2 ⟨by decide, only_toString digit index⟩

theorem index?_placeholder (index : Nat) : index? (placeholder index) = some index := by
  have digits : (placeholder index).toList = '$' :: Nat.toDigits 10 index := by
    rw [placeholder, String.toList_append, Nat.toString_eq_repr, Nat.toList_repr]
    rfl
  have nonempty : Nat.toDigits 10 index ≠ [] := Nat.toDigits_ne_nil
  have all : (Nat.toDigits 10 index).all Char.isDigit = true :=
    List.all_eq_true.2 fun c hc => Nat.isDigit_of_mem_toDigits (by decide) (by decide) hc
  simp only [index?, digits, ne_eq, nonempty, not_false_eq_true, all, and_self, if_true]
  rw [Nat.ofDigitChars_ten_toDigits]

theorem placeholder_not_mem_cutting (index : Nat) : placeholder index ∉ cutting := by
  intro h
  have first : ∀ word ∈ cutting, word.toList.head? ≠ some '$' := by decide
  exact first _ h (by simp [placeholder])

end Words

section Items

def Condition.spelled : Condition → List Token
  | equals column index => [.word column, .mark '=', .word (Sql.placeholder index)]
  | isNull column => [.word column, .word "IS", .word "NULL"]

def Value.spelled : Value → List Token
  | placeholder index => [.word (Sql.placeholder index)]
  | now => [.word "NOW", .mark '(', .mark ')']

def Assignment.spelled (assignment : Assignment) : List Token :=
  .word assignment.column :: .mark '=' :: assignment.value.spelled

theorem Condition.tokens_text {condition : Condition} (h : Plain condition.column) :
    tokens condition.text = condition.spelled := by
  cases condition with
  | equals column index =>
    have name : tokens column = [.word column] := h.tokens_eq
    rw [text, String.append_assoc, tokens_separated (by decide), name, tokens_placeholder]
    rfl
  | isNull column =>
    have name : tokens column = [.word column] := h.tokens_eq
    rw [text, tokens_append_of_loose _ (by decide), name]
    rfl

theorem Assignment.tokens_text {assignment : Assignment} (h : Plain assignment.column) :
    tokens assignment.text = assignment.spelled := by
  have value : tokens assignment.value.text = assignment.value.spelled := by
    cases assignment.value with
    | placeholder index => exact tokens_placeholder index
    | now => rfl
  rw [text, String.append_assoc, tokens_separated (by decide), h.tokens_eq, value]
  rfl

theorem Condition.condition?_spelled (condition : Condition) :
    condition? condition.spelled = some condition := by
  cases condition with
  | equals column index => simp [spelled, condition?, index?_placeholder]
  | isNull column => rfl

theorem Assignment.assignment?_spelled (assignment : Assignment) :
    assignment? assignment.spelled = some assignment := by
  obtain ⟨column, value⟩ := assignment
  cases value with
  | placeholder index => simp [spelled, Value.spelled, assignment?, value?, index?_placeholder]
  | now => rfl

theorem Assignment.comma_not_mem_spelled (assignment : Assignment) : .mark ',' ∉ assignment.spelled := by
  obtain ⟨column, value⟩ := assignment
  cases value <;> simp [spelled, Value.spelled]

variable {keyword : String}

theorem Condition.not_mem_spelled {condition : Condition} (h : Plain condition.column)
    (hkeyword : keyword ∈ cutting) : .word keyword ∉ condition.spelled := by
  have name : keyword ≠ condition.column := fun heq => h.not_cutting (heq ▸ hkeyword)
  cases condition with
  | equals column index =>
    have value : keyword ≠ Sql.placeholder index := fun heq =>
      placeholder_not_mem_cutting index (heq ▸ hkeyword)
    simp_all [spelled, Condition.column]
  | isNull column =>
    have others : ∀ word ∈ cutting, word ≠ "IS" ∧ word ≠ "NULL" := by decide
    have := others keyword hkeyword
    simp_all [spelled, Condition.column]

theorem Assignment.not_mem_spelled {assignment : Assignment} (h : Plain assignment.column)
    (hkeyword : keyword ∈ cutting) : .word keyword ∉ assignment.spelled := by
  have name : keyword ≠ assignment.column := fun heq => h.not_cutting (heq ▸ hkeyword)
  obtain ⟨column, value⟩ := assignment
  cases value with
  | placeholder index =>
    have value : keyword ≠ Sql.placeholder index := fun heq =>
      placeholder_not_mem_cutting index (heq ▸ hkeyword)
    simp_all [spelled, Value.spelled]
  | now =>
    have others : ∀ word ∈ cutting, word ≠ "NOW" := by decide
    have := others keyword hkeyword
    simp_all [spelled, Value.spelled]

end Items

section Lists

theorem not_mem_intercalate {token separator : Token} {pieces : List (List Token)}
    (h : ∀ piece ∈ pieces, token ∉ piece) (hne : token ≠ separator) :
    token ∉ List.intercalate [separator] pieces := by
  induction pieces with
  | nil => simp
  | cons first rest ih =>
    have hrest := ih fun piece hpiece => h piece (List.mem_cons_of_mem _ hpiece)
    have hfirst := h first List.mem_cons_self
    cases rest with
    | nil => simpa using hfirst
    | cons second rest =>
      rw [List.intercalate_cons_cons]
      simp [hfirst, hne, hrest]

/-- The tokens of a clause, if it has items. -/
def spelledItems {α : Type} (separator : Token) (spelled : α → List Token) (items : List α) :
    Option (List Token) :=
  if items = [] then none else some (List.intercalate [separator] (items.map spelled))

/-- The tokens of a clause with the keyword that opens it. -/
def opened (keyword : String) : Option (List Token) → List Token
  | none => []
  | some tokens => .word keyword :: tokens

theorem cut_opened {keyword : String} {before : List Token} (h : .word keyword ∉ before)
    (clause : Option (List Token)) :
    cut (.word keyword) (before ++ opened keyword clause) = (before, clause) := by
  cases clause with
  | none => rw [opened, List.append_nil, cut_of_not_mem h]
  | some tokens => exact cut_append h tokens

theorem readClause_spelledItems {α : Type} {separator : Token} {item : List Token → Option α}
    {spelled : α → List Token} {items : List α} (hitem : ∀ a ∈ items, item (spelled a) = some a)
    (hseparator : ∀ a ∈ items, separator ∉ spelled a) :
    readClause separator item (spelledItems separator spelled items) = some items := by
  unfold spelledItems
  split
  · next hempty =>
    rw [hempty]
    rfl
  · next hempty => exact readItems_intercalate hempty hitem hseparator

theorem not_mem_spelledItems {α : Type} {token separator : Token} {spelled : α → List Token}
    {items : List α} (h : ∀ a ∈ items, token ∉ spelled a) (hne : token ≠ separator) :
    token ∉ (spelledItems separator spelled items).getD [] := by
  unfold spelledItems
  split
  · simp
  · refine not_mem_intercalate ?_ hne
    intro piece hpiece
    obtain ⟨a, ha, rfl⟩ := List.mem_map.1 hpiece
    exact h a ha

theorem tokens_commaList {α : Type} {text : α → String} {spelled : α → List Token} {items : List α}
    (h : ∀ a ∈ items, tokens (text a) = spelled a) :
    tokens (commaList (items.map text)) = (spelledItems (.mark ',') spelled items).getD [] := by
  have pieces : (items.map text).map tokens = items.map spelled := by
    rw [List.map_map]
    exact List.map_congr_left h
  rw [commaList, tokens_intercalate (by decide), pieces, spelledItems]
  split
  · next hempty =>
    rw [hempty]
    rfl
  · rfl

end Lists

section Clauses

def spelledConditions (conditions : List Condition) : Option (List Token) :=
  spelledItems (.word "AND") Condition.spelled conditions

def spelledNames (names : List String) : Option (List Token) :=
  spelledItems (.mark ',') (fun name => [.word name]) names

variable {conditions : List Condition} {names : List String}

theorem tokens_spaced_whereClause (h : ∀ condition ∈ conditions, Plain condition.column)
    (before : String) :
    tokens (before ++ spaced (whereClause conditions)) =
      tokens before ++ opened "WHERE" (spelledConditions conditions) := by
  by_cases hempty : conditions = []
  · subst hempty
    simp [spaced, whereClause, opened, spelledConditions, spelledItems]
  · have clause : spaced (whereClause conditions) =
        " WHERE " ++ String.intercalate " AND " (conditions.map Condition.text) := by
      simp only [spaced, whereClause, List.isEmpty_iff, hempty, if_false]
      rw [if_neg (by simp), ← String.append_assoc]
      rfl
    have pieces : (conditions.map Condition.text).map tokens = conditions.map Condition.spelled := by
      rw [List.map_map]
      exact List.map_congr_left fun condition hcondition =>
        Condition.tokens_text (h condition hcondition)
    rw [clause, tokens_separated (by decide), tokens_intercalate (by decide), pieces]
    simp only [spelledConditions, spelledItems, if_neg hempty, opened]
    rfl

theorem tokens_words (h : ∀ name ∈ names, tokens name = [.word name]) :
    tokens (commaList names) = (spelledNames names).getD [] := by
  have spelled := @tokens_commaList String id _ names h
  rwa [List.map_id] at spelled

theorem tokens_names (h : ∀ name ∈ names, Plain name) :
    tokens (commaList names) = (spelledNames names).getD [] :=
  tokens_words fun name hname => (h name hname).tokens_eq

theorem tokens_returningClause (h : ∀ name ∈ names, Plain name) (before : String) :
    tokens (before ++ returningClause names) =
      tokens before ++ opened "RETURNING" (spelledNames names) := by
  by_cases hempty : names = []
  · subst hempty
    simp [returningClause, opened, spelledNames, spelledItems]
  · rw [returningClause, if_neg (by simpa using hempty), tokens_separated (by decide), tokens_names h]
    simp only [spelledNames, spelledItems, if_neg hempty, opened]
    rfl

theorem conditions?_spelledConditions (h : ∀ condition ∈ conditions, Plain condition.column) :
    conditions? (spelledConditions conditions) = some conditions :=
  readClause_spelledItems (fun condition _ => condition.condition?_spelled) fun condition hcondition =>
    Condition.not_mem_spelled (h condition hcondition) (by decide)

theorem names?_spelledNames (names : List String) : names? (spelledNames names) = some names :=
  readClause_spelledItems (fun _ _ => rfl) fun _ _ => by simp

theorem names?_getD_spelledNames (names : List String) :
    names? (if (spelledNames names).getD [] = [] then none else some ((spelledNames names).getD [])) =
      some names := by
  have clause : (if (spelledNames names).getD [] = [] then none else some ((spelledNames names).getD [])) =
      spelledNames names := by
    cases names with
    | nil => rfl
    | cons first rest => cases rest <;> simp [spelledNames, spelledItems]
  rw [clause, names?_spelledNames]

theorem not_mem_of_plain {keyword : String} (h : ∀ name ∈ names, Plain name)
    (hkeyword : keyword ∈ cutting) : keyword ∉ names :=
  fun hmem => (h keyword hmem).not_cutting hkeyword

theorem not_mem_spelledNames {keyword : String} (h : keyword ∉ names) :
    .word keyword ∉ (spelledNames names).getD [] := by
  refine not_mem_spelledItems ?_ (by simp)
  intro name hname
  have other : keyword ≠ name := fun heq => h (heq ▸ hname)
  simpa using other

theorem not_mem_opened {token : Token} {keyword : String} {clause : Option (List Token)}
    (h : token ∉ clause.getD []) (hne : token ≠ .word keyword) : token ∉ opened keyword clause := by
  cases clause with
  | none => simp [opened]
  | some tokens => simpa [opened, hne] using h

theorem spelledNames_eq_some (h : names ≠ []) :
    spelledNames names = some ((spelledNames names).getD []) := by
  simp [spelledNames, spelledItems, h]

theorem closing_not_mem_spelledNames (names : List String) : .mark ')' ∉ (spelledNames names).getD [] :=
  not_mem_spelledItems (fun _ _ => by simp) (by decide)

/-- The tokens of what an insertion gives to its columns. -/
def spelledSource (columns : List String) : List Token :=
  if columns = [] then [.word "DEFAULT", .word "VALUES"]
  else .mark '(' :: ((spelledNames columns).getD [] ++ .mark ')' :: .word "VALUES" :: .mark '(' ::
    ((spelledNames (placeholders columns.length)).getD [] ++ .mark ')' :: []))

theorem tokens_valuesClause (h : ∀ name ∈ names, Plain name) :
    tokens (valuesClause names) = spelledSource names := by
  unfold valuesClause spelledSource
  by_cases hempty : names = []
  · subst hempty
    rfl
  · have indices : tokens (commaList (placeholders names.length)) =
        (spelledNames (placeholders names.length)).getD [] := by
      apply tokens_words
      intro index hindex
      obtain ⟨i, _, rfl⟩ := List.mem_map.1 hindex
      exact tokens_placeholder (i + 1)
    rw [if_neg (by simpa using hempty), if_neg hempty, String.append_assoc, String.append_assoc,
      String.append_assoc, tokens_append_of_last (by decide), tokens_separated (by decide),
      tokens_append_of_loose _ (by decide), tokens_names h, indices]
    rfl

theorem source?_spelledSource (names : List String) : source? (spelledSource names) = some names := by
  unfold spelledSource
  by_cases hempty : names = []
  · subst hempty
    rfl
  · have indexed : placeholders names.length ≠ [] := by simpa [placeholders] using hempty
    rw [if_neg hempty, source?, cut_append (closing_not_mem_spelledNames names)]
    simp only [cut_append (closing_not_mem_spelledNames _), ← spelledNames_eq_some hempty,
      ← spelledNames_eq_some indexed, names?_spelledNames, if_true]

end Clauses

namespace Statement
variable {table : String} {columns returning : List String} {conditions : List Condition}
  {assignments : List Assignment}

theorem ofText?_select (htable : Plain table) (hcolumns : ∀ name ∈ columns, Plain name)
    (hconditions : ∀ condition ∈ conditions, Plain condition.column) :
    ofText? (select columns table conditions).text = some (.select columns table conditions) := by
  have read : tokens (select columns table conditions).text =
      .word "SELECT" :: ((spelledNames columns).getD [] ++
        .word "FROM" :: ([.word table] ++ opened "WHERE" (spelledConditions conditions))) := by
    rw [text, tokens_spaced_whereClause hconditions, String.append_assoc, String.append_assoc,
      tokens_append_of_last (by decide), tokens_separated (by decide), tokens_names hcolumns,
      htable.tokens_eq]
    rw [List.append_assoc, List.append_assoc]
    rfl
  have from_clause := cut_append
    (not_mem_spelledNames (not_mem_of_plain hcolumns (by decide : "FROM" ∈ cutting)))
    ([.word table] ++ opened "WHERE" (spelledConditions conditions))
  have where_not_table : Token.word "WHERE" ∉ [Token.word table] := by
    have : "WHERE" ≠ table := fun heq => htable.not_cutting (heq ▸ by decide)
    simpa using this
  have where_clause := cut_opened where_not_table (spelledConditions conditions)
  rw [ofText?, read, ofTokens?, from_clause]
  simp only [where_clause, names?_getD_spelledNames, conditions?_spelledConditions hconditions]
  rfl

theorem ofText?_delete (htable : Plain table)
    (hconditions : ∀ condition ∈ conditions, Plain condition.column) :
    ofText? (delete table conditions).text = some (.delete table conditions) := by
  have read : tokens (delete table conditions).text =
      .word "DELETE" :: .word "FROM" :: .word table ::
        ([] ++ opened "WHERE" (spelledConditions conditions)) := by
    rw [text, tokens_spaced_whereClause hconditions, tokens_append_of_last (by decide), htable.tokens_eq]
    rfl
  have where_clause := cut_opened (List.not_mem_nil (a := Token.word "WHERE"))
    (spelledConditions conditions)
  rw [ofText?, read, ofTokens?, where_clause]
  simp only [conditions?_spelledConditions hconditions]
  rfl

theorem ofText?_update (htable : Plain table)
    (hassignments : ∀ assignment ∈ assignments, Plain assignment.column)
    (hconditions : ∀ condition ∈ conditions, Plain condition.column)
    (hreturning : ∀ name ∈ returning, Plain name) :
    ofText? (update table assignments conditions returning).text =
      if assignments = [] then none else some (.update table assignments conditions returning) := by
  let given := (spelledItems (.mark ',') Assignment.spelled assignments).getD []
  have spelled : tokens (commaList (assignments.map Assignment.text)) = given :=
    tokens_commaList fun assignment hassignment =>
      Assignment.tokens_text (hassignments assignment hassignment)
  have read : tokens (update table assignments conditions returning).text =
      .word "UPDATE" :: .word table :: .word "SET" ::
        (given ++ opened "WHERE" (spelledConditions conditions) ++
          opened "RETURNING" (spelledNames returning)) := by
    rw [text, tokens_returningClause hreturning, tokens_spaced_whereClause hconditions,
      String.append_assoc, String.append_assoc, tokens_append_of_last (by decide),
      tokens_separated (by decide), htable.tokens_eq, spelled]
    rfl
  -- No item holds a keyword, so every cut falls where a clause was opened.
  have assignments_uncut : ∀ keyword ∈ cutting, Token.word keyword ∉ given := by
    intro keyword hkeyword
    refine not_mem_spelledItems ?_ (by simp)
    intro assignment hassignment
    exact Assignment.not_mem_spelled (hassignments assignment hassignment) hkeyword
  have conditions_uncut : Token.word "RETURNING" ∉ (spelledConditions conditions).getD [] := by
    refine not_mem_spelledItems ?_ (by simp)
    intro condition hcondition
    exact Condition.not_mem_spelled (hconditions condition hcondition) (by decide)
  have uncut : Token.word "RETURNING" ∉ given ++ opened "WHERE" (spelledConditions conditions) := by
    rw [List.mem_append, not_or]
    exact ⟨assignments_uncut _ (by decide), not_mem_opened conditions_uncut (by simp)⟩
  have returning_clause := cut_opened uncut (spelledNames returning)
  have where_clause := cut_opened (assignments_uncut "WHERE" (by decide)) (spelledConditions conditions)
  have items : readItems (.mark ',') assignment? given =
      if assignments = [] then none else some assignments := by
    simp only [given, spelledItems]
    split
    · rfl
    · next hempty =>
      exact readItems_intercalate hempty (fun assignment _ => assignment.assignment?_spelled)
        fun assignment _ => assignment.comma_not_mem_spelled
  rw [ofText?, read, ofTokens?]
  simp only [returning_clause, where_clause, items, conditions?_spelledConditions hconditions,
    names?_spelledNames]
  split <;> rfl

theorem ofText?_insert (htable : Plain table) (hcolumns : ∀ name ∈ columns, Plain name)
    (hreturning : ∀ name ∈ returning, Plain name) :
    ofText? (insert table columns returning).text = some (.insert table columns returning) := by
  have read : tokens (insert table columns returning).text =
      .word "INSERT" :: .word "INTO" :: .word table ::
        (spelledSource columns ++ opened "RETURNING" (spelledNames returning)) := by
    rw [text, tokens_returningClause hreturning, String.append_assoc, String.append_assoc,
      tokens_append_of_last (by decide), tokens_separated (by decide), htable.tokens_eq,
      tokens_valuesClause hcolumns]
    rfl
  have uncut : Token.word "RETURNING" ∉ spelledSource columns := by
    have names := not_mem_spelledNames (not_mem_of_plain hcolumns (by decide : "RETURNING" ∈ cutting))
    have indices : "RETURNING" ∉ Sql.placeholders columns.length := by
      intro hmem
      obtain ⟨i, _, hi⟩ := List.mem_map.1 hmem
      exact placeholder_not_mem_cutting (i + 1) (hi ▸ by decide)
    have numbers := not_mem_spelledNames indices
    unfold spelledSource
    split <;> simp [names, numbers]
  have returning_clause := cut_opened uncut (spelledNames returning)
  rw [ofText?, read, ofTokens?]
  simp only [returning_clause, source?_spelledSource, names?_spelledNames]
  rfl

/-- The statement is an update that sets nothing. -/
def setsNothing : Statement → Bool
  | update _ assignments _ _ => assignments.isEmpty
  | select .. | insert .. | delete .. => false

/-- The text of a statement is read as that statement, if there is something to do. -/
theorem ofText?_text {statement : Statement} (h : ∀ name ∈ statement.names, Plain name) :
    ofText? statement.text = if statement.setsNothing then none else some statement := by
  have named : ∀ {conditions : List Condition}, (∀ name ∈ conditions.map Condition.column, Plain name) →
      ∀ condition ∈ conditions, Plain condition.column :=
    fun h condition hcondition => h _ (List.mem_map_of_mem hcondition)
  cases statement with
  | select columns table conditions =>
    simp only [names, List.mem_append, List.mem_cons, or_imp, forall_and, forall_eq] at h
    exact ofText?_select h.1.1 h.1.2 (named h.2)
  | insert table columns returning =>
    simp only [names, List.mem_append, List.mem_cons, or_imp, forall_and, forall_eq] at h
    exact ofText?_insert h.1.1 h.1.2 h.2
  | update table assignments conditions returning =>
    simp only [names, List.mem_append, List.mem_cons, or_imp, forall_and, forall_eq] at h
    have assigned : ∀ assignment ∈ assignments, Plain assignment.column :=
      fun assignment hassignment => h.1.1.2 _ (List.mem_map_of_mem hassignment)
    rw [ofText?_update h.1.1.1 assigned (named h.1.2) h.2]
    simp only [setsNothing, List.isEmpty_iff]
  | delete table conditions =>
    simp only [names, List.mem_cons, or_imp, forall_and, forall_eq] at h
    exact ofText?_delete h.1 (named h.2)

end Statement

end RecordAccess.Sql
