import Mathlib.Data.List.Infix
import RecordAccess.Proofs.Source.Outline

/-!
# Tokens

A text splits from left to right into comments, literals and single characters of code, if every literal and
every block comment in it is closed. The bracket check accepts exactly the texts that split so and whose
brackets, those among the characters of code, are well nested.
-/
namespace RecordAccess.Source

inductive Token where
  | code (c : Char)
  /-- A comment up to the end of its line, which belongs to it. -/
  | lineComment (body : List Char)
  | blockComment (body : List Char)
  | literal (item : Literal Char)
  deriving DecidableEq

/-- What can stand between the quotes of a literal on one line. A backslash takes the character after it. -/
inductive Content (quote : Char) : List Char → Prop
  | nil : Content quote []
  | plain {c : Char} {rest : List Char} (h : c ∉ [quote, '\\', '\n']) :
      Content quote rest → Content quote (c :: rest)
  | escape {c : Char} {rest : List Char} : Content quote rest → Content quote ('\\' :: c :: rest)

theorem content_of_plain {quote : Char} {s : List Char} (h : ∀ c ∈ s, c ∉ [quote, '\\', '\n']) : Content quote s := by
  induction s with
  | nil => exact .nil
  | cons c rest ih => exact .plain (h c List.mem_cons_self) (ih fun d hd => h d (List.mem_cons_of_mem c hd))

def Token.text : Token → List Char
  | code c => [c]
  | lineComment body => '/' :: '/' :: (body ++ ['\n'])
  | blockComment body => '/' :: '*' :: (body ++ ['*', '/'])
  | literal ⟨quote, content⟩ => quote :: (content ++ [quote])

theorem Token.text_ne_nil (token : Token) : token.text ≠ [] := by
  cases token <;> simp [Token.text]

/-- Whether the token can stand before what follows it. A comment or a literal ends at the first place where it
can end, and a character of code begins neither. -/
def Token.Fits (next : Option Char) : Token → Prop
  | code c => c ∉ quotes ∧ (c = '/' → next ≠ some '/' ∧ next ≠ some '*')
  | lineComment body => '\n' ∉ body
  | blockComment body => ¬['*', '/'] <:+: body
  | literal ⟨quote, content⟩ =>
    (quote = doubleQuote ∨ quote = singleQuote) ∧ Content quote content ∨
      quote = backquote ∧ backquote ∉ content

/-- The text splits into the tokens. A line comment at the end of the text needs no line feed. -/
inductive Splits : List Char → List Token → Prop
  | nil : Splits [] []
  | lastComment {body : List Char} (h : '\n' ∉ body) : Splits ('/' :: '/' :: body) [.lineComment body]
  | cons {token : Token} {rest : List Char} {tokens : List Token} (fits : token.Fits rest.head?) :
      Splits rest tokens → Splits (token.text ++ rest) (token :: tokens)

/-- The bracket that the token is. -/
def Token.bracket? : Token → Option Char
  | code c => if isOpener c || isCloser c then some c else none
  | lineComment _ | blockComment _ | literal _ => none

def Token.literal? : Token → Option (Literal Char)
  | literal item => some item
  | code _ | lineComment _ | blockComment _ => none

/-- Words of brackets that close one another. -/
inductive Nested : List Char → Prop
  | nil : Nested []
  | pair {opener closer : Char} {inner rest : List Char} (h : closerOf? opener = some closer) :
      Nested inner → Nested rest → Nested (opener :: (inner ++ closer :: rest))

section Nested
variable {c : Char} {opened word : List Char}

theorem isOpener_iff : isOpener c ↔ ∃ closer, closerOf? c = some closer := by
  unfold closerOf?
  split <;> simp_all [isOpener]

theorem isOpener_of_closerOf? {opener : Char} (h : closerOf? opener = some c) : isOpener c = false := by
  unfold closerOf? at h
  split at h <;> simp_all [isOpener, eq_comm]

theorem Nested.nest_eq (h : Nested word) (opened : List Char) : nest opened word = some opened := by
  induction h generalizing opened with
  | nil => rfl
  | @pair opener closer inner rest h _ _ ihInner ihRest =>
    have closes : nestOne (opener :: opened) closer = some opened := by
      simp [nestOne, isOpener_of_closerOf? h, h]
    calc nest opened (opener :: (inner ++ closer :: rest))
      _ = nest (opener :: opened) (inner ++ closer :: rest) := by
        rw [nest, List.foldlM_cons, nestOne_opener (isOpener_iff.2 ⟨closer, h⟩)]
        rfl
      _ = nest (opener :: opened) (closer :: rest) := by rw [nest_append, ihInner, Option.bind_some]
      _ = nest opened rest := by
        rw [nest, List.foldlM_cons, closes]
        rfl
      _ = some opened := ihRest opened

/-- The word closes the open brackets one by one, with nested words in between. -/
def Closes : List Char → List Char → Prop
  | [], word => Nested word
  | opener :: earlier, word => ∃ inner closer rest, word = inner ++ closer :: rest ∧
      closerOf? opener = some closer ∧ Nested inner ∧ Closes earlier rest

theorem Closes.pair {opener closer : Char} {inner rest : List Char} (h : closerOf? opener = some closer)
    (hinner : Nested inner) (hrest : Closes opened rest) : Closes opened (opener :: (inner ++ closer :: rest)) := by
  cases opened with
  | nil => exact .pair h hinner hrest
  | cons last earlier =>
    obtain ⟨between, other, after, rfl, hlast, nested, closes⟩ := hrest
    exact ⟨opener :: (inner ++ closer :: between), other, after, by simp, hlast, .pair h hinner nested, closes⟩

theorem closes_of_nest (h : nest opened word = some []) : Closes opened word := by
  induction word generalizing opened with
  | nil =>
    obtain rfl : opened = [] := Option.some.inj h
    exact .nil
  | cons c rest ih =>
    rw [nest, List.foldlM_cons, Option.bind_eq_bind, Option.bind_eq_some_iff] at h
    obtain ⟨left, hone, hrest⟩ := h
    by_cases opener : isOpener c
    · rw [nestOne_opener opener, Option.some.injEq] at hone
      subst hone
      obtain ⟨inner, closer, after, rfl, hcloser, nested, closes⟩ := ih hrest
      exact closes.pair hcloser nested
    · cases opened with
      | nil => simp [nestOne, opener] at hone
      | cons last earlier =>
        simp only [nestOne, opener, Bool.false_eq_true, if_false, Option.ite_none_right_eq_some,
          Option.some.injEq] at hone
        obtain ⟨hlast, rfl⟩ := hone
        exact ⟨[], c, rest, rfl, hlast, .nil, ih hrest⟩

theorem nest_eq_some_nil_iff : nest [] word = some [] ↔ Nested word :=
  ⟨closes_of_nest, fun h => h.nest_eq []⟩

theorem isCloser_of_closerOf? {opener : Char} (h : closerOf? opener = some c) : isCloser c := by
  unfold closerOf? at h
  split at h <;> simp_all [isCloser, eq_comm]

theorem Nested.insert {front rest : List Char} (h : Nested (front ++ rest)) (hword : Nested word) :
    Nested (front ++ (word ++ rest)) := by
  rw [← nest_eq_some_nil_iff, nest_append] at h ⊢
  cases hfront : nest [] front with
  | none => simp [hfront] at h
  | some opened =>
    rw [hfront, Option.bind_some] at h
    rw [Option.bind_some, nest_append, hword.nest_eq, Option.bind_some, h]

theorem Nested.append {first : List Char} (h : Nested first) (hword : Nested word) : Nested (first ++ word) := by
  rw [← List.append_nil first] at h
  simpa using h.insert hword

end Nested

/-- No line ends inside a literal that cannot span lines. -/
def Uncut (breaks : List Mode) : Prop := ∀ mode ∈ breaks, ∀ quote, mode ≠ .literal quote

/-- Over the text the mode changes, line feeds stand in the modes given, and nothing but the content of an open
literal grows. -/
structure Mode.Leads (mode : Mode) (next : Option Char) (s : List Char) (after : Mode) (breaks : List Mode) : Prop where
  quote?_eq : after.quote? = mode.quote?
  read_eq : ∀ reading : Reading Char, reading.mode = mode →
    reading.read next s = { reading.hold s with mode := after, breaks := reading.breaks ++ breaks }

/-- Over the text the mode comes back to itself, and no line is cut. -/
def Mode.Spans (mode : Mode) (next : Option Char) (s : List Char) : Prop :=
  ∃ breaks, Uncut breaks ∧ mode.Leads next s mode breaks

section Leads
variable {mode after later : Mode} {next : Option Char} {s t : List Char} {breaks others : List Mode} {c : Char}

theorem leads_nil : mode.Leads next [] mode [] := by
  refine ⟨rfl, ?_⟩
  rintro reading rfl
  cases reading
  simp [Reading.read, Reading.hold]

theorem Mode.Leads.append (hs : mode.Leads (t.head?.or next) s after breaks) (ht : after.Leads next t later others) :
    mode.Leads next (s ++ t) later (breaks ++ others) := by
  refine ⟨ht.quote?_eq.trans hs.quote?_eq, ?_⟩
  rintro reading rfl
  rw [Reading.read_append, hs.read_eq reading rfl, ht.read_eq _ rfl]
  simp only [Reading.hold, hs.quote?_eq]
  cases reading.mode.quote? <;> simp

/-- A character that opens nothing and closes nothing. -/
theorem leads_singleton (hbracket : ¬(mode = .code ∧ (isOpener c ∨ isCloser c)))
    (hquote : (mode.after c next).quote? = mode.quote?) :
    mode.Leads next [c] (mode.after c next) (if c = '\n' then [mode] else []) := by
  refine ⟨hquote, ?_⟩
  rintro reading rfl
  simp only [Reading.read, List.head?_nil, Option.none_or, Reading.step, hquote, Reading.hold, hbracket, if_false]
  cases reading.mode.quote? <;> by_cases newline : c = '\n' <;> simp [newline]

theorem uncut_append_iff : Uncut (breaks ++ others) ↔ Uncut breaks ∧ Uncut others := List.forall_mem_append

/-- What has been read stays uncut. -/
theorem uncut_of_read {reading : Reading Char} (h : Uncut (reading.read next s).breaks) : Uncut reading.breaks := by
  obtain ⟨later, hlater⟩ := reading.exists_followedBy next s
  rw [hlater] at h
  exact (uncut_append_iff.1 h).1

end Leads

section Spans
variable {mode : Mode} {next : Option Char} {s t : List Char} {quote c : Char}

theorem spans_nil : mode.Spans next [] := ⟨[], by simp [Uncut], leads_nil⟩

theorem Mode.Spans.append (hs : mode.Spans (t.head?.or next) s) (ht : mode.Spans next t) :
    mode.Spans next (s ++ t) := by
  obtain ⟨first, uncut, leads⟩ := hs
  obtain ⟨second, uncut', leads'⟩ := ht
  exact ⟨first ++ second, uncut_append_iff.2 ⟨uncut, uncut'⟩, leads.append leads'⟩

/-- A character that leaves the mode as it is. -/
theorem spans_singleton (hbracket : ¬(mode = .code ∧ (isOpener c ∨ isCloser c))) (hcut : mode.isCutBy c = false)
    (hafter : mode.after c next = mode) : mode.Spans next [c] := by
  have leads := leads_singleton hbracket (congrArg Mode.quote? hafter)
  rw [hafter] at leads
  refine ⟨_, ?_, leads⟩
  intro other hmem quote hother
  split at hmem
  · next newline =>
    rw [List.mem_singleton.1 hmem] at hother
    simp [hother, Mode.isCutBy, newline] at hcut
  · simp at hmem

/-- A character that a backslash takes. -/
theorem spans_escape : (Mode.literal quote).Spans next ['\\', c] := by
  have opens : (Mode.literal quote).Leads (some c) ['\\'] (.escaped quote) [] := leads_singleton (by simp) rfl
  have closes : (Mode.escaped quote).Leads next [c] (.literal quote) (if c = '\n' then [.escaped quote] else []) :=
    leads_singleton (by simp) rfl
  refine ⟨_, ?_, opens.append (t := [c]) closes⟩
  intro other hmem
  split at hmem <;> simp_all

theorem Content.spans {content : List Char} (h : Content quote content) :
    (Mode.literal quote).Spans next content := by
  induction h with
  | nil => exact spans_nil
  | @plain c rest h _ ih =>
    have plain : c ≠ quote ∧ c ≠ '\\' ∧ c ≠ '\n' := by simpa using h
    refine Mode.Spans.append (s := [c]) (spans_singleton (by simp) ?_ ?_) ih
    · simp [Mode.isCutBy, plain]
    · simp [Mode.after, plain]
  | @escape c rest _ ih => exact Mode.Spans.append (s := ['\\', c]) spans_escape ih

theorem spans_raw (h : backquote ∉ s) : Mode.raw.Spans next s := by
  induction s with
  | nil => exact spans_nil
  | cons c rest ih =>
    rw [List.mem_cons, not_or] at h
    refine Mode.Spans.append (s := [c]) (spans_singleton (by simp) rfl ?_) (ih h.2)
    simp [Mode.after, Ne.symm h.1]

theorem spans_lineComment (h : '\n' ∉ s) : Mode.lineComment.Spans next s := by
  induction s with
  | nil => exact spans_nil
  | cons c rest ih =>
    rw [List.mem_cons, not_or] at h
    refine Mode.Spans.append (s := [c]) (spans_singleton (by simp) rfl ?_) (ih h.2)
    simp [Mode.after, Ne.symm h.1]

theorem spans_blockComment (h : ¬['*', '/'] <:+: s) (hnext : next ≠ some '/') :
    Mode.blockComment.Spans next s := by
  induction s with
  | nil => exact spans_nil
  | cons c rest ih =>
    rw [List.infix_cons_iff, not_or] at h
    refine Mode.Spans.append (s := [c]) (spans_singleton (by simp) rfl ?_) (ih h.2)
    have stays : ¬(c = '*' ∧ rest.head?.or next = some '/') := by
      rintro ⟨rfl, hslash⟩
      cases rest with
      | nil => exact hnext hslash
      | cons d after =>
        obtain rfl : d = '/' := Option.some.inj hslash
        exact h.1 ⟨after, rfl⟩
    exact if_neg stays

end Spans

/-- The text has been read as the tokens, and they end outside of literals and block comments. -/
structure Reading.Reads (reading : Reading Char) (tokens : List Token) : Prop where
  ends_closed : reading.mode.isClosed
  no_cut : Uncut reading.breaks
  brackets_eq : reading.brackets = tokens.filterMap Token.bracket?
  literals_eq : reading.literals = tokens.filterMap Token.literal?

section Token
variable {token : Token} {next : Option Char} {s rest : List Char} {tokens : List Token}

theorem Mode.Spans.exists_read {mode : Mode} {body : List Char} {d : Char} (h : mode.Spans (some d) body)
    (closing : List Char) : ∃ breaks, Uncut breaks ∧
      Reading.read { mode } next (body ++ d :: closing) =
        Reading.read { mode, held := if mode.quote?.isSome then body else [], breaks } next (d :: closing) := by
  obtain ⟨breaks, uncut, leads⟩ := h
  refine ⟨breaks, uncut, ?_⟩
  rw [Reading.read_append, List.head?_cons, Option.some_or, leads.read_eq _ rfl]
  simp [Reading.hold]

/-- A character of code that fits leaves the check in code. -/
theorem Token.Fits.after_code {c : Char} (fits : (Token.code c).Fits next) : Mode.code.after c next = .code := by
  obtain ⟨bounds, starts⟩ := fits
  simp only [quotes, List.mem_cons, List.not_mem_nil, or_false, not_or] at bounds
  by_cases slash : c = '/'
  · simp [Mode.after, starts slash, bounds]
  · simp [Mode.after, slash, bounds]

/-- A token that fits leads from code to code. -/
theorem Token.Fits.exists_read (fits : token.Fits next) : ∃ breaks, Uncut breaks ∧
    Reading.read {} next token.text =
      { brackets := token.bracket?.toList, literals := token.literal?.toList, breaks } := by
  cases token with
  | code c =>
    have after := fits.after_code
    refine ⟨if c = '\n' then [.code] else [], ?_, ?_⟩
    · intro mode hmem
      split at hmem <;> simp_all
    · simp [Reading.read, Reading.step, Token.text, Token.bracket?, Token.literal?, after, Mode.quote?]
      split <;> rfl
  | lineComment body =>
    have comment : '\n' ∉ '/' :: body := by
      rw [List.mem_cons, not_or]
      exact ⟨by decide, fits⟩
    obtain ⟨breaks, uncut, hread⟩ := (spans_lineComment comment).exists_read (d := '\n') []
    refine ⟨breaks ++ [Mode.lineComment], ?_, hread⟩
    simpa [Uncut, or_imp, forall_and] using uncut
  | blockComment body =>
    obtain ⟨breaks, uncut, hread⟩ := (spans_blockComment fits (by simp)).exists_read (d := '*') ['/']
    exact ⟨breaks, uncut, hread⟩
  | literal item =>
    obtain ⟨quote, content⟩ := item
    rcases fits with ⟨rfl | rfl, inside⟩ | ⟨rfl, inside⟩
    · obtain ⟨breaks, uncut, hread⟩ := inside.spans.exists_read (d := doubleQuote) []
      exact ⟨breaks, uncut, hread⟩
    · obtain ⟨breaks, uncut, hread⟩ := inside.spans.exists_read (d := singleQuote) []
      exact ⟨breaks, uncut, hread⟩
    · obtain ⟨breaks, uncut, hread⟩ := (spans_raw inside).exists_read (d := backquote) []
      exact ⟨breaks, uncut, hread⟩

/-- After a token that fits, the rest is read from the start. -/
theorem Token.Fits.exists_ofText (fits : token.Fits rest.head?) : ∃ breaks, Uncut breaks ∧
    Reading.ofText (token.text ++ rest) = Reading.followedBy
      { brackets := token.bracket?.toList, literals := token.literal?.toList, breaks } (Reading.ofText rest) := by
  rw [← Option.or_none (o := rest.head?)] at fits
  obtain ⟨breaks, uncut, hread⟩ := fits.exists_read
  refine ⟨breaks, uncut, ?_⟩
  rw [Reading.ofText, Reading.read_append, hread, Reading.ofText, ← Reading.read_followedBy,
    Reading.followedBy_self rfl rfl]

theorem Splits.reads (h : Splits s tokens) : (Reading.ofText s).Reads tokens := by
  induction h with
  | nil => exact ⟨rfl, by simp [Uncut, Reading.ofText, Reading.read], rfl, rfl⟩
  | @lastComment body h =>
    have comment : '\n' ∉ '/' :: body := by
      rw [List.mem_cons, not_or]
      exact ⟨by decide, h⟩
    obtain ⟨breaks, uncut, leads⟩ := @spans_lineComment none _ comment
    have opens : Reading.ofText ('/' :: '/' :: body) = _ := leads.read_eq { mode := .lineComment } rfl
    rw [opens]
    exact ⟨rfl, uncut, rfl, rfl⟩
  | @cons token rest tokens fits _ ih =>
    obtain ⟨breaks, uncut, hread⟩ := fits.exists_ofText
    rw [hread]
    refine ⟨ih.ends_closed, uncut_append_iff.2 ⟨uncut, ih.no_cut⟩, ?_, ?_⟩
    · simp only [Reading.followedBy, ih.brackets_eq, List.filterMap_cons]
      cases token.bracket? <;> rfl
    · simp only [Reading.followedBy, ih.literals_eq, List.filterMap_cons]
      cases token.literal? <;> rfl

end Token

/-- How a text goes on after the quote of a literal on one line. -/
inductive GoesOn (quote : Char) : List Char → Prop
  | closed {content : List Char} (rest : List Char) (h : Content quote content) :
      GoesOn quote (content ++ quote :: rest)
  | cut {content : List Char} (rest : List Char) (h : Content quote content) :
      GoesOn quote (content ++ '\n' :: rest)
  | ends {content : List Char} (h : Content quote content) : GoesOn quote content
  | endsEscaping {content : List Char} (h : Content quote content) : GoesOn quote (content ++ ['\\'])

theorem GoesOn.prepend {quote : Char} {s : List Char} (h : GoesOn quote s) (front : List Char)
    (hfront : ∀ {content}, Content quote content → Content quote (front ++ content)) :
    GoesOn quote (front ++ s) := by
  cases h with
  | closed rest h => exact List.append_assoc front _ _ ▸ .closed rest (hfront h)
  | cut rest h => exact List.append_assoc front _ _ ▸ .cut rest (hfront h)
  | ends h => exact .ends (hfront h)
  | endsEscaping h => exact List.append_assoc front _ _ ▸ .endsEscaping (hfront h)

theorem goesOn (quote : Char) : ∀ s : List Char, GoesOn quote s
  | [] => .ends .nil
  | c :: rest => by
    by_cases plain : c ∈ [quote, '\\', '\n']
    · simp only [List.mem_cons, List.not_mem_nil, or_false] at plain
      rcases plain with rfl | rfl | rfl
      · exact .closed rest .nil
      · match rest with
        | [] => exact .endsEscaping .nil
        | d :: rest => exact (goesOn quote rest).prepend ['\\', d] .escape
      · exact .cut rest .nil
    · exact (goesOn quote rest).prepend [c] (.plain plain)

theorem exists_of_infix {s : List Char} (h : ['*', '/'] <:+: s) :
    ∃ body rest, ¬['*', '/'] <:+: body ∧ s = body ++ '*' :: '/' :: rest := by
  induction s with
  | nil => simp at h
  | cons c after ih =>
    by_cases starts : ['*', '/'] <+: c :: after
    · obtain ⟨rest, hrest⟩ := starts
      exact ⟨[], rest, by simp, hrest.symm⟩
    · obtain ⟨body, rest, first, rfl⟩ := ih ((List.infix_cons_iff.1 h).resolve_left starts)
      refine ⟨c :: body, rest, ?_, rfl⟩
      rw [List.infix_cons_iff, not_or]
      refine ⟨fun early => starts ?_, first⟩
      exact early.trans (List.prefix_append_right_inj [c] |>.2 (List.prefix_append _ _))

/-- A literal is opened by the quote, and the text ends in it. -/
inductive Endless : Char → List Char → Prop
  | raw {body : List Char} (h : backquote ∉ body) : Endless backquote body
  | ends {quote : Char} {content : List Char} (hquote : quote = doubleQuote ∨ quote = singleQuote)
      (h : Content quote content) : Endless quote content
  | endsEscaping {quote : Char} {content : List Char} (hquote : quote = doubleQuote ∨ quote = singleQuote)
      (h : Content quote content) : Endless quote (content ++ ['\\'])

/-- The text starts with no token that is closed by what follows it. -/
inductive Unfinished : List Char → Prop
  | nil : Unfinished []
  | lineComment {body : List Char} (h : '\n' ∉ body) : Unfinished ('/' :: '/' :: body)
  | blockComment {body : List Char} (h : ¬['*', '/'] <:+: body) : Unfinished ('/' :: '*' :: body)
  | literal {quote : Char} {body : List Char} (h : Endless quote body) : Unfinished (quote :: body)
  | cut {quote : Char} {content : List Char} (rest : List Char)
      (hquote : quote = doubleQuote ∨ quote = singleQuote) (h : Content quote content) :
      Unfinished (quote :: (content ++ '\n' :: rest))

/-- Unless it is unfinished, a text starts with a token that fits. -/
theorem unfinished_or_exists_token (s : List Char) : Unfinished s ∨
    ∃ (token : Token) (after : List Char), token.Fits after.head? ∧ s = token.text ++ after := by
  cases s with
  | nil => exact .inl .nil
  | cons c rest =>
    by_cases bounds : c ∈ quotes
    · simp only [quotes, List.mem_cons, List.not_mem_nil, or_false] at bounds
      rw [← or_assoc] at bounds
      rcases bounds with hquote | rfl
      · cases goesOn c rest with
        | @closed content after inside =>
          exact .inr ⟨.literal ⟨c, content⟩, after, .inl ⟨hquote, inside⟩, by simp [Token.text]⟩
        | cut after inside => exact .inl (.cut after hquote inside)
        | ends inside => exact .inl (.literal (.ends hquote inside))
        | endsEscaping inside => exact .inl (.literal (.endsEscaping hquote inside))
      · by_cases closes : backquote ∈ rest
        · obtain ⟨content, after, rfl, inside⟩ := List.eq_append_cons_of_mem closes
          exact .inr ⟨.literal ⟨backquote, content⟩, after, .inr ⟨rfl, inside⟩, by simp [Token.text]⟩
        · exact .inl (.literal (.raw closes))
    by_cases line : c = '/' ∧ rest.head? = some '/'
    · obtain ⟨rfl, hrest⟩ := line
      obtain ⟨after, rfl⟩ := List.head?_eq_some_iff.1 hrest
      by_cases ends : '\n' ∈ after
      · obtain ⟨body, after, rfl, inside⟩ := List.eq_append_cons_of_mem ends
        exact .inr ⟨.lineComment body, after, inside, by simp [Token.text]⟩
      · exact .inl (.lineComment ends)
    by_cases block : c = '/' ∧ rest.head? = some '*'
    · obtain ⟨rfl, hrest⟩ := block
      obtain ⟨after, rfl⟩ := List.head?_eq_some_iff.1 hrest
      by_cases ends : ['*', '/'] <:+: after
      · obtain ⟨body, after, inside, rfl⟩ := exists_of_infix ends
        exact .inr ⟨.blockComment body, after, inside, by simp [Token.text]⟩
      · exact .inl (.blockComment ends)
    exact .inr ⟨.code c, rest, ⟨bounds, fun slash => ⟨fun hnext => line ⟨slash, hnext⟩,
      fun hnext => block ⟨slash, hnext⟩⟩⟩, rfl⟩

/-- The text ends outside of literals and block comments, and no line in it cuts a literal short. -/
structure Complete (s : List Char) : Prop where
  ends_closed : (Reading.ofText s).mode.isClosed
  no_cut : Uncut (Reading.ofText s).breaks

section Complete
variable {c : Char} {rest : List Char}

theorem Complete.of_append {token : Token} (fits : token.Fits rest.head?) (h : Complete (token.text ++ rest)) :
    Complete rest := by
  obtain ⟨breaks, _, hread⟩ := fits.exists_ofText
  obtain ⟨closed, uncut⟩ := h
  rw [hread] at closed uncut
  exact ⟨closed, (uncut_append_iff.1 uncut).2⟩

theorem Mode.Spans.mode_eq {mode : Mode} {s : List Char} (h : mode.Spans none s) :
    (Reading.read { mode } none s).mode = mode := by
  obtain ⟨breaks, _, leads⟩ := h
  rw [leads.read_eq { mode } rfl]

/-- The quote of a literal on one line opens it. -/
theorem ofText_quote {quote : Char} (hquote : quote = doubleQuote ∨ quote = singleQuote) (rest : List Char) :
    Reading.ofText (quote :: rest) = Reading.read { mode := .literal quote } none rest := by
  rcases hquote with rfl | rfl <;> rfl

theorem Endless.not_complete {quote : Char} (h : Endless quote rest) : ¬Complete (quote :: rest) := by
  intro complete
  have closed := complete.ends_closed
  cases h with
  | raw inside =>
    have opens : Reading.ofText (backquote :: rest) = Reading.read { mode := .raw } none rest := rfl
    rw [opens, (spans_raw inside).mode_eq] at closed
    simp [Mode.isClosed] at closed
  | ends hquote inside =>
    rw [ofText_quote hquote, inside.spans.mode_eq] at closed
    simp [Mode.isClosed] at closed
  | endsEscaping hquote inside =>
    obtain ⟨breaks, _, hread⟩ := inside.spans.exists_read (d := '\\') []
    rw [ofText_quote hquote, hread] at closed
    simp [Reading.read, Reading.step, Mode.after, Mode.isClosed] at closed

theorem not_complete_of_cut {quote : Char} {content : List Char}
    (hquote : quote = doubleQuote ∨ quote = singleQuote) (inside : Content quote content) (rest : List Char) :
    ¬Complete (quote :: (content ++ '\n' :: rest)) := by
  intro complete
  have uncut := complete.no_cut
  obtain ⟨breaks, _, hread⟩ := inside.spans.exists_read (d := '\n') rest
  rw [ofText_quote hquote, hread] at uncut
  exact uncut _ (mode_mem_breaks _ none rest) quote rfl

/-- A complete text is empty, a last line comment, or starts with a token that fits. -/
theorem Complete.exists_token (h : Complete (c :: rest)) :
    (∃ body, '\n' ∉ body ∧ c :: rest = '/' :: '/' :: body) ∨
      ∃ (token : Token) (after : List Char), token.Fits after.head? ∧ c :: rest = token.text ++ after := by
  rcases unfinished_or_exists_token (c :: rest) with unfinished | token
  · cases unfinished with
    | lineComment inside => exact .inl ⟨_, inside, rfl⟩
    | @blockComment body inside =>
      have closed := h.ends_closed
      have opens : Reading.ofText ('/' :: '*' :: body) = Reading.read { mode := .blockComment } none body := rfl
      rw [opens, (spans_blockComment inside (by simp)).mode_eq] at closed
      simp [Mode.isClosed] at closed
    | literal endless => exact absurd h endless.not_complete
    | cut after hquote inside => exact absurd h (not_complete_of_cut hquote inside after)
  · exact .inr token

theorem Complete.exists_splits {s : List Char} (h : Complete s) : ∃ tokens, Splits s tokens := by
  match s, h with
  | [], _ => exact ⟨[], .nil⟩
  | c :: rest, h =>
    rcases h.exists_token with ⟨body, inside, heq⟩ | ⟨token, after, fits, heq⟩
    · exact ⟨_, heq ▸ Splits.lastComment inside⟩
    · have shorter : after.length < rest.length + 1 := by
        have := congrArg List.length heq
        have := token.text_ne_nil
        have := List.length_pos_of_ne_nil this
        simp only [List.length_cons, List.length_append] at *
        omega
      rw [heq] at h ⊢
      obtain ⟨tokens, splits⟩ := (h.of_append fits).exists_splits
      exact ⟨_, .cons fits splits⟩
termination_by s.length

end Complete

section Check
variable {s : List Char} {tokens : List Token}

theorem Splits.complete (h : Splits s tokens) : Complete s := ⟨h.reads.ends_closed, h.reads.no_cut⟩

theorem complete_of_checkBrackets (h : checkBrackets s = .ok ()) : Complete s := by
  have accepted := (checkBrackets_eq_ok_iff s).1 h
  exact ⟨accepted.ends_closed, accepted.no_cut⟩

/-- Of a text that splits, the check sees the brackets of its code and nothing else. -/
theorem Splits.checkBrackets_iff (h : Splits s tokens) :
    checkBrackets s = .ok () ↔ Nested (tokens.filterMap Token.bracket?) := by
  rw [checkBrackets_eq_ok_iff, ← nest_eq_some_nil_iff, ← h.reads.brackets_eq]
  exact ⟨Reading.Accepted.nested, fun nested => ⟨h.reads.ends_closed, h.reads.no_cut, nested⟩⟩

/-- The check accepts a text exactly if it splits from left to right into line comments, block comments, literals
and characters of code, all comments and literals closed, and the brackets in its code are well nested; otherwise
it gives a fault. Brackets in comments and literals count for nothing. -/
theorem checkBrackets_iff_balanced (s : List Char) :
    (checkBrackets s = .ok () ↔ ∃ tokens, Splits s tokens ∧ Nested (tokens.filterMap Token.bracket?)) ∧
    ((∃ fault, checkBrackets s = .error fault) ↔
      ¬∃ tokens, Splits s tokens ∧ Nested (tokens.filterMap Token.bracket?)) ∧
    ∀ tokens, Splits s tokens → (checkBrackets s = .ok () ↔ Nested (tokens.filterMap Token.bracket?)) := by
  have accepts : checkBrackets s = .ok () ↔
      ∃ tokens, Splits s tokens ∧ Nested (tokens.filterMap Token.bracket?) := by
    constructor
    · intro h
      obtain ⟨tokens, splits⟩ := (complete_of_checkBrackets h).exists_splits
      exact ⟨tokens, splits, splits.checkBrackets_iff.1 h⟩
    · rintro ⟨tokens, splits, nested⟩
      exact splits.checkBrackets_iff.2 nested
  refine ⟨accepts, ?_, fun tokens splits => splits.checkBrackets_iff⟩
  rw [← accepts]
  cases checkBrackets s <;> simp

/-- The star that opens a block comment does not close it, a double quote in a rune opens nothing, and a comment may
end with the text. -/
theorem checkBrackets_iff_balanced_corners :
    let s := "f(/*/)*/'\"')//(".toList
    let tokens := [Token.code 'f', .code '(', .blockComment ['/', ')'], .literal ⟨singleQuote, [doubleQuote]⟩,
      .code ')', .lineComment ['(']]
    Splits s tokens ∧ checkBrackets s = .ok () := by
  intro s tokens
  have spelled : s = ['f', '(', '/', '*', '/', ')', '*', '/', singleQuote, doubleQuote, singleQuote, ')', '/', '/',
      '('] := by decide +kernel
  have splits : Splits s tokens := by
    rw [spelled]
    refine @Splits.cons (.code 'f') _ _ ⟨by decide, by decide⟩ ?_
    refine @Splits.cons (.code '(') _ _ ⟨by decide, by decide⟩ ?_
    refine @Splits.cons (.blockComment _) _ _ (by decide : ¬['*', '/'] <:+: ['/', ')']) ?_
    refine @Splits.cons (.literal ⟨singleQuote, [doubleQuote]⟩) _ _ (.inl ⟨.inr rfl, .plain (by decide) .nil⟩) ?_
    refine @Splits.cons (.code ')') _ _ ⟨by decide, by decide⟩ ?_
    exact .lastComment (by decide)
  have nested : Nested ['(', ')'] := @Nested.pair '(' ')' [] [] rfl .nil .nil
  exact ⟨splits, ((checkBrackets_iff_balanced s).2.2 tokens splits).2 nested⟩

end Check
end RecordAccess.Source
