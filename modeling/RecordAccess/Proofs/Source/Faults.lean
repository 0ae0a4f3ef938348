import RecordAccess.Proofs.Source.Tokens

/-!
# The lines that faults tell

The bracket check tells on which line a closing bracket meets no opening one of its kind, on which line a bracket
was opened, and on which line a literal is cut short. It counts the line feeds that it passes, but not those that a
backslash takes in a string or a rune, and those do not cut the literal either. So a line is one more than the
line feeds before the character less those taken, and what a backslash takes makes no difference.
-/
namespace RecordAccess.Source

/-- The text starts with the tokens, and the rest follows them. -/
inductive Starts : List Char → List Token → List Char → Prop
  | nil (rest : List Char) : Starts rest [] rest
  | cons {token : Token} {s rest : List Char} {tokens : List Token} (fits : token.Fits s.head?)
      (others : Starts s tokens rest) : Starts (token.text ++ s) (token :: tokens) rest

/-- The number of line feeds that backslashes take in the token. No other line feed stands in a literal on one
line. -/
def Token.taken : Token → Nat
  | literal ⟨quote, content⟩ => if quote = backquote then 0 else content.count '\n'
  | code _ | lineComment _ | blockComment _ => 0

/-- The number of line feeds in the token that the check counts. -/
def Token.counted (token : Token) : Nat := token.text.count '\n' - token.taken

def textOf (tokens : List Token) : List Char := tokens.flatMap Token.text

def takenBy : List Token → Nat
  | [] => 0
  | token :: tokens => token.taken + takenBy tokens

/-- The line that is told for the character after a text in which so many line feeds are taken. -/
def OnLine (before : List Char) (taken line : Nat) : Prop := line + taken = before.count '\n' + 1

/-- The start of some nested word. -/
def NestedSoFar (word : List Char) : Prop := ∃ more, Nested (word ++ more)

/-- What a fault says of the text. Up to the place of the fault the text splits into tokens whose brackets are well
nested so far. -/
inductive Tells (s : List Char) : SourceFault → Prop
  /-- The closing bracket is not that of the last bracket that is open. -/
  | mismatch {earlier between : List Token} {opener closer : Char} {after : List Char} {line opened : Nat}
      (starts : Starts s (earlier ++ .code opener :: between) (closer :: after))
      (soFar : NestedSoFar (earlier.filterMap Token.bracket?)) (nested : Nested (between.filterMap Token.bracket?))
      (hopener : isOpener opener) (hcloser : isCloser closer) (other : closerOf? opener ≠ some closer)
      (opened_on : OnLine (textOf earlier) (takenBy earlier) opened)
      (closed_on : OnLine (textOf (earlier ++ .code opener :: between))
        (takenBy (earlier ++ .code opener :: between)) line) :
      Tells s (.mismatch line closer opener opened)
  /-- No bracket is open. -/
  | unmatched {tokens : List Token} {closer : Char} {after : List Char} {line : Nat}
      (starts : Starts s tokens (closer :: after)) (nested : Nested (tokens.filterMap Token.bracket?))
      (hcloser : isCloser closer) (on : OnLine (textOf tokens) (takenBy tokens) line) :
      Tells s (.unmatched line closer)
  | cutLiteral {tokens : List Token} {quote : Char} {content after : List Char} {line : Nat}
      (starts : Starts s tokens (quote :: (content ++ '\n' :: after)))
      (soFar : NestedSoFar (tokens.filterMap Token.bracket?))
      (hquote : quote = doubleQuote ∨ quote = singleQuote) (inside : Content quote content)
      (on : OnLine (textOf tokens ++ quote :: content) (takenBy tokens + content.count '\n') line) :
      Tells s (.cutLiteral line)
  | openLiteral {tokens : List Token} {quote : Char} {body : List Char}
      (starts : Starts s tokens (quote :: body)) (soFar : NestedSoFar (tokens.filterMap Token.bracket?))
      (endless : Endless quote body) : Tells s .openLiteral
  | openComment {tokens : List Token} {body : List Char} (starts : Starts s tokens ('/' :: '*' :: body))
      (soFar : NestedSoFar (tokens.filterMap Token.bracket?)) (endless : ¬['*', '/'] <:+: body) :
      Tells s .openComment
  /-- The bracket is the last one that is open at the end of the text. -/
  | neverClosed {earlier between : List Token} {opener : Char} {rest : List Char} {opened : Nat}
      (starts : Starts s (earlier ++ .code opener :: between) rest)
      (ends : rest = [] ∨ ∃ body, '\n' ∉ body ∧ rest = '/' :: '/' :: body)
      (soFar : NestedSoFar (earlier.filterMap Token.bracket?)) (nested : Nested (between.filterMap Token.bracket?))
      (hopener : isOpener opener) (opened_on : OnLine (textOf earlier) (takenBy earlier) opened) :
      Tells s (.neverClosed opener opened)

theorem Token.counted_add_taken (token : Token) : token.counted + token.taken = token.text.count '\n' := by
  have bound : token.taken ≤ token.text.count '\n' := by
    cases token with
    | literal item =>
      obtain ⟨quote, content⟩ := item
      simp only [taken, text, List.count_cons, List.count_append]
      split <;> omega
    | code c => exact Nat.zero_le _
    | lineComment body => exact Nat.zero_le _
    | blockComment body => exact Nat.zero_le _
  exact Nat.sub_add_cancel bound

section Balance
variable {mode : Mode} {opened : List Opened} {line : Nat} {s body rest : List Char} {c quote : Char}

/-- A character that is no bracket of code and cuts no literal. -/
theorem balance_pass (hbracket : ¬(mode = .code ∧ (isOpener c ∨ isCloser c))) (hcut : mode.isCutBy c = false) :
    balance mode opened line (c :: rest) =
      balance (mode.after c rest.head?) opened (mode.lineAfter line c) rest := by
  rw [balance, hcut, if_neg (by simp), if_neg fun h => hbracket ⟨h.1, .inl h.2⟩,
    if_neg fun h => hbracket ⟨h.1, .inr h.2⟩]

theorem balance_bracket (h : isOpener c ∨ isCloser c) :
    balance .code opened line (c :: rest) =
      if isOpener c then balance .code (⟨c, line⟩ :: opened) line rest
      else (close opened line c).bind fun left => balance .code left line rest := by
  rw [balance]
  by_cases opener : isOpener c
  · simp [Mode.isCutBy, opener]
  · simp only [Mode.isCutBy, opener, h.resolve_left opener]
    cases close opened line c <;> rfl

theorem balance_quote (hquote : quote = doubleQuote ∨ quote = singleQuote) :
    balance .code opened line (quote :: rest) = balance (.literal quote) opened line rest := by
  rcases hquote with rfl | rfl <;> exact balance_pass (by decide) rfl

/-- Over a text that stays in a comment or a raw string the check counts the line feeds. -/
theorem balance_along (hmode : mode = .lineComment ∨ mode = .blockComment ∨ mode = .raw)
    (stays : ∀ front c after, body = front ++ c :: after → mode.after c (after ++ rest).head? = mode) :
    balance mode opened line (body ++ rest) = balance mode opened (line + body.count '\n') rest := by
  induction body generalizing line with
  | nil => rfl
  | cons c after ih =>
    have step : balance mode opened line (c :: (after ++ rest)) =
        balance mode opened (if c = '\n' then line + 1 else line) (after ++ rest) := by
      have same := stays [] c after rfl
      rcases hmode with rfl | rfl | rfl <;> rw [balance_pass (by simp) rfl, same] <;> rfl
    rw [List.cons_append, step, ih fun front d others split => stays (c :: front) d others (by rw [split]; rfl),
      List.count_cons]
    by_cases newline : c = '\n' <;> simp [newline, Nat.add_comm, Nat.add_left_comm]

theorem balance_lineComment (h : '\n' ∉ body) :
    balance .lineComment opened line (body ++ rest) = balance .lineComment opened line rest := by
  rw [balance_along (.inl rfl), List.count_eq_zero.2 h, Nat.add_zero]
  rintro front c after rfl
  have other : c ≠ '\n' := by
    rintro rfl
    simp at h
  simp [Mode.after, other]

theorem balance_blockComment (h : ¬['*', '/'] <:+: body) (hnext : rest.head? ≠ some '/') :
    balance .blockComment opened line (body ++ rest) =
      balance .blockComment opened (line + body.count '\n') rest := by
  refine balance_along (.inr (.inl rfl)) ?_
  rintro front c after rfl
  refine if_neg ?_
  rintro ⟨rfl, hslash⟩
  cases after with
  | nil => exact hnext hslash
  | cons d after =>
    obtain rfl : d = '/' := Option.some.inj hslash
    exact h ⟨front, after, by simp⟩

theorem balance_raw (h : backquote ∉ body) :
    balance .raw opened line (body ++ rest) = balance .raw opened (line + body.count '\n') rest := by
  refine balance_along (.inr (.inr rfl)) ?_
  rintro front c after rfl
  have other : c ≠ backquote := by
    rintro rfl
    simp at h
  simp [Mode.after, other]

/-- What stands in a literal on one line passes uncounted, line feeds and all. -/
theorem Content.balance_eq {content : List Char} (h : Content quote content) :
    balance (.literal quote) opened line (content ++ rest) = balance (.literal quote) opened line rest := by
  induction h with
  | nil => rfl
  | @plain c after h _ ih =>
    have plain : c ≠ quote ∧ c ≠ '\\' ∧ c ≠ '\n' := by simpa using h
    rw [List.cons_append, balance_pass (by simp) (by simp [Mode.isCutBy, plain])]
    simpa [Mode.after, Mode.lineAfter, plain] using ih
  | @escape c after _ ih =>
    rw [List.cons_append, List.cons_append, balance_pass (by simp) rfl, balance_pass (by simp [Mode.after]) rfl]
    exact ih

theorem Token.bracket?_code (h : isOpener c ∨ isCloser c) : (Token.code c).bracket? = some c := by
  simp [Token.bracket?, h]

theorem Token.exists_of_bracket? {token : Token} (h : token.bracket? = some c) :
    token = .code c ∧ (isOpener c ∨ isCloser c) := by
  cases token with
  | code d =>
    obtain ⟨bracket, same⟩ := Option.ite_none_right_eq_some.1 h
    obtain rfl := Option.some.inj same
    exact ⟨rfl, by simpa using bracket⟩
  | lineComment body => cases h
  | blockComment body => cases h
  | literal item => cases h

/-- Over a token that is no bracket the check counts the line feeds that are not taken. -/
theorem Token.Fits.balance_eq {token : Token} (fits : token.Fits rest.head?) (h : token.bracket? = none) :
    balance .code opened line (token.text ++ rest) = balance .code opened (line + token.counted) rest := by
  cases token with
  | code c =>
    have plain : ¬(isOpener c ∨ isCloser c) := by simpa [Token.bracket?] using h
    change balance .code opened line (c :: rest) = _
    rw [balance_pass (fun h => plain h.2) rfl, fits.after_code]
    by_cases newline : c = '\n' <;> simp [Mode.lineAfter, Token.counted, Token.text, Token.taken, newline]
  | lineComment body =>
    have inside : '\n' ∉ '/' :: body := by
      rw [List.mem_cons, not_or]
      exact ⟨by decide, fits⟩
    calc balance .code opened line ((Token.lineComment body).text ++ rest)
      _ = balance .code opened line ('/' :: ('/' :: body ++ '\n' :: rest)) := by simp [Token.text]
      _ = balance .lineComment opened line ('/' :: body ++ '\n' :: rest) := balance_pass (by decide) rfl
      _ = balance .lineComment opened line ('\n' :: rest) := balance_lineComment inside
      _ = balance .code opened (line + 1) rest := balance_pass (by decide) rfl
      _ = balance .code opened (line + (Token.lineComment body).counted) rest := by
        simp [Token.counted, Token.text, Token.taken, List.count_eq_zero.2 fits]
  | blockComment body =>
    calc balance .code opened line ((Token.blockComment body).text ++ rest)
      _ = balance .code opened line ('/' :: '*' :: (body ++ '*' :: '/' :: rest)) := by simp [Token.text]
      _ = balance .commentStart opened line ('*' :: (body ++ '*' :: '/' :: rest)) := balance_pass (by decide) rfl
      _ = balance .blockComment opened line (body ++ '*' :: '/' :: rest) := balance_pass (by decide) rfl
      _ = balance .blockComment opened (line + body.count '\n') ('*' :: '/' :: rest) :=
        balance_blockComment fits (by simp)
      _ = balance .commentEnd opened (line + body.count '\n') ('/' :: rest) := balance_pass (by decide) rfl
      _ = balance .code opened (line + body.count '\n') rest := balance_pass (by decide) rfl
      _ = balance .code opened (line + (Token.blockComment body).counted) rest := by
        simp [Token.counted, Token.text, Token.taken]
  | literal item =>
    obtain ⟨quote, content⟩ := item
    rcases fits with ⟨hquote, inside⟩ | ⟨rfl, inside⟩
    · have closes : balance (.literal quote) opened line (quote :: rest) = balance .code opened line rest := by
        rcases hquote with rfl | rfl <;> exact balance_pass (by decide) rfl
      have uncounted : (Token.literal ⟨quote, content⟩).counted = 0 := by
        rcases hquote with rfl | rfl <;>
          simp [Token.counted, Token.text, Token.taken, doubleQuote, singleQuote, backquote]
      calc balance .code opened line ((Token.literal ⟨quote, content⟩).text ++ rest)
        _ = balance .code opened line (quote :: (content ++ quote :: rest)) := by simp [Token.text]
        _ = balance (.literal quote) opened line (content ++ quote :: rest) := balance_quote hquote
        _ = balance .code opened line rest := by rw [inside.balance_eq, closes]
        _ = balance .code opened (line + (Token.literal ⟨quote, content⟩).counted) rest := by
          rw [uncounted, Nat.add_zero]
    · calc balance .code opened line ((Token.literal ⟨backquote, content⟩).text ++ rest)
        _ = balance .code opened line (backquote :: (content ++ backquote :: rest)) := by simp [Token.text]
        _ = balance .raw opened line (content ++ backquote :: rest) := balance_pass (by decide) rfl
        _ = balance .raw opened (line + content.count '\n') (backquote :: rest) := balance_raw inside
        _ = balance .code opened (line + content.count '\n') rest := balance_pass (by decide) rfl
        _ = balance .code opened (line + (Token.literal ⟨backquote, content⟩).counted) rest := by
          simp [Token.counted, Token.text, Token.taken, backquote]

theorem Endless.balance_eq (h : Endless quote body) :
    balance .code opened line (quote :: body) = .error .openLiteral := by
  cases h with
  | raw inside =>
    calc balance .code opened line (backquote :: body)
      _ = balance .raw opened line (body ++ []) := by
        rw [List.append_nil]
        exact balance_pass (by decide) rfl
      _ = .error .openLiteral := by
        rw [balance_raw inside]
        rfl
  | ends hquote inside =>
    rw [balance_quote hquote, ← List.append_nil body, inside.balance_eq]
    rfl
  | endsEscaping hquote inside =>
    rw [balance_quote hquote, inside.balance_eq]
    rfl

end Balance

section Starts
variable {s rest : List Char} {tokens : List Token} {token : Token}

theorem Starts.concat (h : Starts s tokens (token.text ++ rest)) (fits : token.Fits rest.head?) :
    Starts s (tokens ++ [token]) rest := by
  generalize hlast : token.text ++ rest = last at h
  induction h with
  | nil =>
    subst hlast
    exact .cons fits (.nil rest)
  | cons first _ ih => exact .cons first (ih hlast)

theorem Starts.eq (h : Starts s tokens rest) : s = textOf tokens ++ rest := by
  induction h with
  | nil => rfl
  | cons _ _ ih => rw [ih, textOf, textOf, List.flatMap_cons, List.append_assoc]

theorem Starts.complete (h : Starts s tokens rest) (complete : Complete s) : Complete rest := by
  induction h with
  | nil => exact complete
  | cons fits _ ih => exact ih (complete.of_append fits)

theorem textOf_concat (tokens : List Token) (token : Token) :
    textOf (tokens ++ [token]) = textOf tokens ++ token.text := by
  simp [textOf]

theorem takenBy_concat (tokens : List Token) (token : Token) :
    takenBy (tokens ++ [token]) = takenBy tokens + token.taken := by
  induction tokens with
  | nil => simp [takenBy]
  | cons first tokens ih => rw [List.cons_append, takenBy, ih, takenBy, Nat.add_assoc]

/-- The line that is told behind a token. -/
theorem OnLine.concat {line : Nat} (h : OnLine (textOf tokens) (takenBy tokens) line) (token : Token) :
    OnLine (textOf (tokens ++ [token])) (takenBy (tokens ++ [token])) (line + token.counted) := by
  have all := token.counted_add_taken
  unfold OnLine at h ⊢
  rw [textOf_concat, takenBy_concat, List.count_append]
  omega

/-- Two texts that the check does not tell apart in code are not told apart after tokens that fit either. -/
theorem Starts.balance_congr (other : List Char) (h : Starts s tokens rest) (head : other.head? = rest.head?)
    (same : ∀ opened line, balance .code opened line other = balance .code opened line rest)
    (opened : List Opened) (line : Nat) :
    balance .code opened line (textOf tokens ++ other) = balance .code opened line s := by
  induction h generalizing opened line with
  | nil => exact same opened line
  | @cons token s rest tokens fits starts ih =>
    have next : (textOf tokens ++ other).head? = s.head? := by
      rw [starts.eq, List.head?_append, List.head?_append, head]
    have fits' : token.Fits (textOf tokens ++ other).head? := next ▸ fits
    have split : textOf (token :: tokens) ++ other = token.text ++ (textOf tokens ++ other) := by simp [textOf]
    rw [split]
    cases hbracket : token.bracket? with
    | none => rw [fits.balance_eq hbracket, fits'.balance_eq hbracket, ih head same]
    | some c =>
      obtain ⟨rfl, bracket⟩ := Token.exists_of_bracket? hbracket
      change balance .code opened line (c :: (textOf tokens ++ other)) = balance .code opened line (c :: s)
      rw [balance_bracket bracket, balance_bracket bracket, ih head same]
      simp only [ih head same]

end Starts

section Pending
variable {tokens more : List Token} {opened : List Opened} {opener closer : Char} {line : Nat}

/-- The brackets that are open after the tokens, the last one first, each with the line that is told for it. -/
inductive Pending : List Token → List Opened → Prop
  | nil {tokens : List Token} (nested : Nested (tokens.filterMap Token.bracket?)) : Pending tokens []
  | cons {earlier between : List Token} {opener : Char} {line : Nat} {opened : List Opened}
      (hopener : isOpener opener) (on : OnLine (textOf earlier) (takenBy earlier) line)
      (before : Pending earlier opened) (nested : Nested (between.filterMap Token.bracket?)) :
      Pending (earlier ++ .code opener :: between) (⟨opener, line⟩ :: opened)

theorem Pending.append (h : Pending tokens opened) (nested : Nested (more.filterMap Token.bracket?)) :
    Pending (tokens ++ more) opened := by
  cases h with
  | nil before => exact .nil (by rw [List.filterMap_append]; exact before.append nested)
  | @cons earlier between opener line opened hopener on before inside =>
    have longer : Nested ((between ++ more).filterMap Token.bracket?) := by
      rw [List.filterMap_append]
      exact inside.append nested
    have split : earlier ++ .code opener :: between ++ more = earlier ++ .code opener :: (between ++ more) := by simp
    exact split ▸ .cons hopener on before longer

/-- The last bracket that is open is closed. -/
theorem Pending.pair (h : Pending tokens (⟨opener, line⟩ :: opened)) (hcloser : closerOf? opener = some closer) :
    Pending (tokens ++ [.code closer]) opened := by
  cases h with
  | @cons earlier between _ _ _ hopener _ before inside =>
    have closer_bracket := Token.bracket?_code (.inr (isCloser_of_closerOf? hcloser))
    have opener_bracket := Token.bracket?_code (.inl hopener)
    have pair : Nested ((.code opener :: (between ++ [.code closer])).filterMap Token.bracket?) := by
      rw [List.filterMap_cons_some opener_bracket, List.filterMap_append, List.filterMap_cons_some closer_bracket]
      exact .pair hcloser inside .nil
    have split : earlier ++ .code opener :: between ++ [.code closer] =
        earlier ++ (.code opener :: (between ++ [.code closer])) := by simp
    exact split ▸ before.append pair

theorem Pending.nestedSoFar (h : Pending tokens opened) : NestedSoFar (tokens.filterMap Token.bracket?) := by
  induction h with
  | nil nested => exact ⟨[], by simpa using nested⟩
  | @cons earlier between opener line opened hopener _ _ nested ih =>
    obtain ⟨more, later⟩ := ih
    obtain ⟨closer, hcloser⟩ := isOpener_iff.1 hopener
    have opener_bracket := Token.bracket?_code (.inl hopener)
    refine ⟨closer :: more, ?_⟩
    have pair : Nested (opener :: (between.filterMap Token.bracket? ++ [closer])) := .pair hcloser nested .nil
    have whole := later.insert pair
    rw [List.filterMap_append, List.filterMap_cons_some opener_bracket]
    simpa using whole

end Pending

/-- The check of a last line comment has nothing to say but what the end of the text says. -/
theorem balance_lastComment {body : List Char} (h : '\n' ∉ body) (opened : List Opened) (line : Nat) :
    balance .code opened line ('/' :: '/' :: body) = atEnd .code opened := by
  have comment : '\n' ∉ '/' :: body := by
    rw [List.mem_cons, not_or]
    exact ⟨by decide, h⟩
  calc balance .code opened line ('/' :: '/' :: body)
    _ = balance .lineComment opened line ('/' :: body ++ []) := by
      rw [List.append_nil]
      exact balance_pass (by decide) rfl
    _ = atEnd .code opened := by
      rw [balance_lineComment comment]
      rfl

theorem balance_openComment {body : List Char} (h : ¬['*', '/'] <:+: body) (opened : List Opened) (line : Nat) :
    balance .code opened line ('/' :: '*' :: body) = .error .openComment := by
  calc balance .code opened line ('/' :: '*' :: body)
    _ = balance .commentStart opened line ('*' :: body) := balance_pass (by decide) rfl
    _ = balance .blockComment opened line (body ++ []) := by
      rw [List.append_nil]
      exact balance_pass (by decide) rfl
    _ = .error .openComment := by
      rw [balance_blockComment h (by simp)]
      rfl

section Tells
variable {s rest : List Char} {tokens : List Token} {opened : List Opened} {line : Nat} {fault : SourceFault}

theorem tells_of_atEnd (starts : Starts s tokens rest)
    (ends : rest = [] ∨ ∃ body, '\n' ∉ body ∧ rest = '/' :: '/' :: body) (pending : Pending tokens opened)
    (h : atEnd .code opened = .error fault) : Tells s fault := by
  cases pending with
  | nil nested => cases h
  | cons hopener on before nested =>
    obtain rfl := Except.error.inj h
    exact .neverClosed starts ends before.nestedSoFar nested hopener on

theorem tells_of_unfinished (unfinished : Unfinished rest) (starts : Starts s tokens rest)
    (pending : Pending tokens opened) (on : OnLine (textOf tokens) (takenBy tokens) line)
    (h : balance .code opened line rest = .error fault) : Tells s fault := by
  cases unfinished with
  | nil => exact tells_of_atEnd starts (.inl rfl) pending h
  | @lineComment body inside =>
    rw [balance_lastComment inside] at h
    exact tells_of_atEnd starts (.inr ⟨body, inside, rfl⟩) pending h
  | blockComment inside =>
    rw [balance_openComment inside] at h
    obtain rfl := Except.error.inj h
    exact .openComment starts pending.nestedSoFar inside
  | literal endless =>
    rw [endless.balance_eq] at h
    obtain rfl := Except.error.inj h
    exact .openLiteral starts pending.nestedSoFar endless
  | @cut quote content after hquote inside =>
    have cuts : balance (.literal quote) opened line ('\n' :: after) = .error (.cutLiteral line) := rfl
    rw [balance_quote hquote, inside.balance_eq, cuts] at h
    obtain rfl := Except.error.inj h
    refine .cutLiteral starts pending.nestedSoFar hquote inside ?_
    have bound : quote ≠ '\n' := by rcases hquote with rfl | rfl <;> decide
    unfold OnLine at on ⊢
    rw [List.count_append, List.count_cons_of_ne bound]
    omega

/-- What the check says of the rest of a text, given what it has seen of the tokens before it. -/
theorem tells_of_balance {rest : List Char} {tokens : List Token} {opened : List Opened} {line : Nat}
    (starts : Starts s tokens rest) (pending : Pending tokens opened)
    (on : OnLine (textOf tokens) (takenBy tokens) line) (h : balance .code opened line rest = .error fault) :
    Tells s fault := by
  rcases unfinished_or_exists_token rest with unfinished | ⟨token, after, fits, rfl⟩
  · exact tells_of_unfinished unfinished starts pending on h
  have shorter : after.length < (token.text ++ after).length := by
    have := List.length_pos_of_ne_nil token.text_ne_nil
    rw [List.length_append]
    omega
  have onward := starts.concat fits
  have later := on.concat token
  cases hbracket : token.bracket? with
  | none =>
    rw [fits.balance_eq hbracket] at h
    have nested : Nested ([token].filterMap Token.bracket?) := by simpa [hbracket] using Nested.nil
    exact tells_of_balance onward (pending.append nested) later h
  | some c =>
    obtain ⟨rfl, bracket⟩ := Token.exists_of_bracket? hbracket
    -- A bracket is no line feed, so the line behind it is its own.
    have same : (Token.code c).counted = 0 := by
      simp [Token.counted, Token.text, Token.taken, (after_code_of_bracket bracket none).2]
    rw [same, Nat.add_zero] at later
    change balance .code opened line (c :: after) = _ at h
    rw [balance_bracket bracket] at h
    by_cases opener : isOpener c
    · rw [if_pos opener] at h
      exact tells_of_balance onward (.cons opener on pending .nil) later h
    rw [if_neg opener] at h
    have closer : isCloser c := bracket.resolve_left opener
    cases pending with
    | nil nested =>
      obtain rfl := Except.error.inj h
      exact .unmatched starts nested closer on
    | @cons earlier between opener opened_line opened hopener opened_on before nested =>
      by_cases pair : closerOf? opener = some c
      · have left : close (⟨opener, opened_line⟩ :: opened) line c = .ok opened := if_pos pair
        rw [left] at h
        exact tells_of_balance onward ((Pending.cons hopener opened_on before nested).pair pair) later h
      · have refused : close (⟨opener, opened_line⟩ :: opened) line c =
            .error (.mismatch line c opener opened_line) := if_neg pair
        rw [refused] at h
        obtain rfl := Except.error.inj h
        exact .mismatch starts before.nestedSoFar nested hopener closer pair opened_on on
termination_by rest.length

end Tells

/-- A fault tells what the text shows, and its lines leave out the line feeds that backslashes take. A line feed in
a string or a rune is a fault, unless a backslash takes it: then the check is as with any other character in its
place. -/
theorem faults_tell_counted_lines (s : List Char) :
    (∀ fault, checkBrackets s = .error fault → Tells s fault) ∧
    ∀ tokens quote content after, quote = doubleQuote ∨ quote = singleQuote → Content quote content →
      (Starts s tokens (quote :: (content ++ '\n' :: after)) → ∃ fault, checkBrackets s = .error fault) ∧
      (Starts s tokens (quote :: (content ++ '\\' :: '\n' :: after)) → ∀ c,
        checkBrackets (textOf tokens ++ quote :: (content ++ '\\' :: c :: after)) = checkBrackets s) := by
  refine ⟨fun fault h => tells_of_balance (.nil s) (.nil .nil) rfl h, ?_⟩
  intro tokens quote content after hquote inside
  constructor
  · intro starts
    cases h : checkBrackets s with
    | error fault => exact ⟨fault, rfl⟩
    | ok =>
      have complete := starts.complete (complete_of_checkBrackets h)
      exact absurd complete (not_complete_of_cut hquote inside after)
  · intro starts c
    have taken : ∀ opened line d, balance (.literal quote) opened line ('\\' :: d :: after) =
        balance (.literal quote) opened line after := by
      intro opened line d
      rw [balance_pass (by simp) rfl]
      exact balance_pass (by simp [Mode.after]) rfl
    have same : ∀ opened line, balance .code opened line (quote :: (content ++ '\\' :: c :: after)) =
        balance .code opened line (quote :: (content ++ '\\' :: '\n' :: after)) := by
      intro opened line
      rw [balance_quote hquote, balance_quote hquote, inside.balance_eq, inside.balance_eq, taken, taken]
    exact starts.balance_congr (quote :: (content ++ '\\' :: c :: after)) rfl same [] 1

/-- The bracket stands on the second line and the closing one on the third: the string takes a line feed. -/
theorem faults_tell_counted_lines_call :
    let s := "f(\"a\\\nb\",[\n1)".toList
    Tells s (.mismatch 2 ')' '[' 1) ∧ s.count '\n' = 2 ∧
      checkBrackets "f(\"a\\nb\",[\n1)".toList = .error (.mismatch 2 ')' '[' 1) ∧
      ∃ fault, checkBrackets "f(\"a\nb\",[\n1)".toList = .error fault := by
  intro s
  have told : checkBrackets s = .error (.mismatch 2 ')' '[' 1) := by decide +kernel
  have inside : Content doubleQuote ['a'] := .plain (by decide) .nil
  have call : ∀ rest : List Char,
      Starts ('f' :: '(' :: doubleQuote :: rest) [.code 'f', .code '('] (doubleQuote :: rest) :=
    fun rest => @Starts.cons (.code 'f') _ _ _ ⟨by decide, fun slash => absurd slash (by decide)⟩
      (@Starts.cons (.code '(') _ _ _ ⟨by decide, fun slash => absurd slash (by decide)⟩ (.nil _))
  let after := "b\",[\n1)".toList
  have taken : s = 'f' :: '(' :: doubleQuote :: (['a'] ++ '\\' :: '\n' :: after) := by decide +kernel
  have cut : "f(\"a\nb\",[\n1)".toList = 'f' :: '(' :: doubleQuote :: (['a'] ++ '\n' :: after) := by
    decide +kernel
  refine ⟨(faults_tell_counted_lines s).1 _ told, by decide +kernel, ?_, ?_⟩
  · have same := ((faults_tell_counted_lines s).2 _ _ _ after (.inl rfl) inside).2 (taken ▸ call _) 'n'
    rw [← told, ← same]
    exact congrArg checkBrackets (by decide +kernel)
  · exact ((faults_tell_counted_lines _).2 _ _ _ after (.inl rfl) inside).1 (cut ▸ call _)

/-- A string that goes on in the next line after a backslash is accepted, and a bracket behind it is told to stand
one line above its own. -/
theorem string_across_lines_is_accepted :
    let s := "package p\nvar a = \"x\\\ny\"\n".toList
    (∃ tokens, Splits s tokens ∧ tokens.filterMap Token.literal? = [⟨doubleQuote, "x\\\ny".toList⟩]) ∧
      checkBrackets s = .ok () ∧
      checkBrackets (s ++ [')']) = .error (.unmatched 3 ')') ∧ s.count '\n' + 1 = 4 := by
  intro s
  have accepted : checkBrackets s = .ok () := by decide +kernel
  obtain ⟨tokens, splits⟩ := (complete_of_checkBrackets accepted).exists_splits
  refine ⟨⟨tokens, splits, ?_⟩, accepted, by decide +kernel, by decide +kernel⟩
  rw [← splits.reads.literals_eq]
  decide +kernel

end RecordAccess.Source
