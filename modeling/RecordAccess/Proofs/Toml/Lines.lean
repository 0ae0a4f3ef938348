import Mathlib.Data.List.MinMax
import Mathlib.Data.List.Nodup
import Mathlib.Data.List.Sort
import RecordAccess.Proofs.Config.Overlay
import RecordAccess.Proofs.Text.Trimming
import RecordAccess.Toml.Document

/-!
# What the lines of a configuration file supply

A line of a configuration file defines a key by a value, or holds nothing but a comment. A file of such lines
that define no key twice supplies the values of its lines, each under its key, in the order of the keys.
Every kind of value that a setting can have is covered: strings, truth values, and lists of these.
-/
namespace RecordAccess.Toml

open Config (Value isPlain isKeyChar)
open Text (dropWhile_append_eq)

/-- What stands between quotes, and the characters that it stands for. Only double quotes know escapes. -/
inductive Body (quote : Char) : List Char → List Char → Prop
  | nil : Body quote [] []
  | plain {c : Char} {s body : List Char} (plain : isPlain c) (quote_ne : c ≠ quote)
      (backslash : quote = '"' → c ≠ '\\') (rest : Body quote s body) : Body quote (c :: s) (c :: body)
  | escaped {letter c : Char} {s body : List Char} (double : quote = '"')
      (pair : (letter, c) ∈ [('b', '\x08'), ('t', '\t'), ('n', '\n'), ('f', '\x0c'), ('r', '\r'), ('"', '"'),
        ('\\', '\\')]) (rest : Body quote s body) : Body quote ('\\' :: letter :: s) (c :: body)

/-- A value that holds no others, as it is written. -/
inductive Written : List Char → Value → Prop
  | text {quote : Char} {s body : List Char} (quote_mem : quote ∈ ['"', '\x27']) (between : Body quote s body) :
      Written (quote :: (s ++ [quote])) (.text (String.ofList body))
  | yes : Written "true".toList (.boolean true)
  | no : Written "false".toList (.boolean false)

inductive Gap : List Char → Prop
  | spaces {s : List Char} (spaces : ∀ c ∈ s, isSpace c) : Gap s
  | break {s rest : List Char} (spaces : ∀ c ∈ s, isSpace c) (others : Gap rest) : Gap (s ++ '\n' :: rest)

/-- The items of a list up to its closing bracket. A comma may stand after the last one. -/
inductive Items : List Char → List Value → Prop
  | close {gap : List Char} (before : Gap gap) : Items (gap ++ [']']) []
  | last {gap s gap' : List Char} {value : Value} (before : Gap gap) (item : Written s value) (after : Gap gap') :
      Items (gap ++ (s ++ (gap' ++ [']']))) [value]
  | item {gap s gap' rest : List Char} {value : Value} {values : List Value} (before : Gap gap)
      (item : Written s value) (after : Gap gap') (others : Items rest values) :
      Items (gap ++ (s ++ (gap' ++ ',' :: rest))) (value :: values)

inductive Spelled : List Char → Value → Prop
  | single {s : List Char} {value : Value} (single : Written s value) : Spelled s value
  | list {s : List Char} {values : List Value} (items : Items s values) : Spelled ('[' :: s) (.list values)

inductive Comment : List Char → Prop
  | nil : Comment []
  | hash {s : List Char} (plain : ∀ c ∈ s, isPlain c) : Comment ('#' :: s)

/-- A line ends here, and the rest of the file follows. -/
inductive LineEnd : List Char → List Char → Prop
  | finish {spaces comment : List Char} (blank : ∀ c ∈ spaces, isSpace c) (remark : Comment comment) :
      LineEnd (spaces ++ comment) []
  | feed {spaces comment rest : List Char} (blank : ∀ c ∈ spaces, isSpace c) (remark : Comment comment) :
      LineEnd (spaces ++ (comment ++ '\n' :: rest)) rest
  | returnFeed {spaces comment rest : List Char} (blank : ∀ c ∈ spaces, isSpace c) (remark : Comment comment) :
      LineEnd (spaces ++ (comment ++ '\r' :: '\n' :: rest)) rest

/-- The lines of a file, and what they supply: each line defines a key, or holds nothing but a comment. -/
inductive Supplies : List Char → List (String × Value) → Prop
  | nil : Supplies [] []
  | idle {s rest : List Char} {entries : List (String × Value)} (line : LineEnd s rest)
      (others : Supplies rest entries) : Supplies s entries
  | define {margin key before after written s rest : List Char} {value : Value} {entries : List (String × Value)}
      (margin_blank : ∀ c ∈ margin, isSpace c) (key_ne : key ≠ []) (bare : ∀ c ∈ key, isKeyChar c)
      (before_blank : ∀ c ∈ before, isSpace c) (after_blank : ∀ c ∈ after, isSpace c)
      (spelled : Spelled written value) (line : LineEnd s rest) (others : Supplies rest entries) :
      Supplies (margin ++ (key ++ (before ++ '=' :: (after ++ (written ++ s)))))
        ((String.ofList key, value) :: entries)

section Blanks
variable {s rest spaces comment : List Char} {c d : Char}

theorem skipSpaces_append (blank : ∀ c ∈ spaces, isSpace c) (solid : ∀ c ∈ rest.head?, isSpace c = false) :
    skipSpaces (spaces ++ rest) = rest := dropWhile_append_eq blank solid

theorem skipComment_append (remark : Comment comment)
    (stop : ∀ c ∈ rest.head?, isPlain c = false ∧ c ≠ '#') : skipComment (comment ++ rest) = rest := by
  cases remark with
  | nil =>
    cases rest with
    | nil => rfl
    | cons c rest => exact skipComment.eq_2 _ (by simpa using (stop c rfl).2)
  | hash plain => exact dropWhile_append_eq plain fun c hc => (stop c hc).1

theorem Comment.solid (remark : Comment comment) (solid : ∀ c ∈ rest.head?, isSpace c = false) :
    ∀ c ∈ (comment ++ rest).head?, isSpace c = false := by
  cases remark with
  | nil => exact solid
  | hash => simp [isSpace]

theorem endLine_eq (line : LineEnd s rest) : endLine s = some rest := by
  unfold endLine
  cases line with
  | @finish _ comment blank remark =>
    have passed : skipComment comment = [] := by
      simpa using @skipComment_append [] comment remark (by simp)
    have solid : ∀ c ∈ comment.head?, isSpace c = false := by
      simpa using @Comment.solid [] comment remark (by simp)
    rw [skipSpaces_append blank solid, passed]
  | feed blank remark =>
    rw [skipSpaces_append blank (remark.solid (by simp [isSpace])),
      skipComment_append remark (by simp [isPlain])]
    rfl
  | returnFeed blank remark =>
    rw [skipSpaces_append blank (remark.solid (by simp [isSpace])),
      skipComment_append remark (by simp [isPlain])]
    rfl

/-- Nothing but a line break and a comment can be passed over. -/
theorem skipBreak_skipComment_eq_none (hash : c ≠ '#') (feed : c ≠ '\n') (ret : c ≠ '\r') :
    skipBreak (skipComment (c :: rest)) = none := by
  rw [skipComment.eq_2 _ (by simpa using hash), skipBreak.eq_3 _ (by simpa using feed) (by simp [ret])]

theorem skipLines_append {gap : List Char} (between : Gap gap) (space : isSpace c = false) (hash : c ≠ '#')
    (feed : c ≠ '\n') (ret : c ≠ '\r') : skipLines (gap ++ c :: rest) = some (c :: rest) := by
  have none_left : skipBreak (skipComment (c :: rest)) = none :=
    skipBreak_skipComment_eq_none hash feed ret
  induction between with
  | spaces blank =>
    have passed : skipSpaces (_ ++ c :: rest) = c :: rest :=
      skipSpaces_append blank (by simpa using space)
    rw [skipLines]
    split
    · next h => simp [passed, none_left] at h
    · rw [passed]
      split
      · next h => exact absurd (List.cons.inj h).1 hash
      · rfl
  | @«break» s others blank _ ih =>
    have passed : skipSpaces (s ++ '\n' :: (others ++ c :: rest)) = '\n' :: (others ++ c :: rest) :=
      skipSpaces_append blank (by simp [isSpace])
    rw [List.append_assoc, List.cons_append, skipLines]
    split
    · next h =>
      rw [passed] at h
      obtain rfl := Option.some.inj h
      exact ih
    · next h => simp [passed, skipComment, skipBreak] at h

end Blanks

section Keys
variable {key margin before rest : List Char} {c d : Char}

theorem ne_of_isKeyChar (h : isKeyChar c) (hd : isKeyChar d = false) : c ≠ d := by
  rintro rfl
  simp [h] at hd

theorem isSpace_of_isKeyChar (h : isKeyChar c) : isSpace c = false := by
  simp [isSpace, ne_of_isKeyChar h (d := ' ') (by decide), ne_of_isKeyChar h (d := '\t') (by decide)]

theorem takeKey_append (key_ne : key ≠ []) (bare : ∀ c ∈ key, isKeyChar c)
    (stop : ∀ c ∈ rest.head?, isKeyChar c = false) :
    takeKey (key ++ rest) = some (String.ofList key, rest) := by
  obtain ⟨first, more, rfl⟩ := List.exists_cons_of_ne_nil key_ne
  have hfirst : isKeyChar first := bare first List.mem_cons_self
  have taken : (first :: more ++ rest).takeWhile isKeyChar = first :: more := by
    rw [List.takeWhile_append_of_pos bare]
    cases rest with
    | nil => simp
    | cons c rest => rw [List.takeWhile_cons_of_neg (by simp [stop c rfl]), List.append_nil]
  have left : (first :: more ++ rest).dropWhile isKeyChar = rest := dropWhile_append_eq bare stop
  unfold takeKey
  split
  · next h => exact absurd (List.cons.inj h).1 (ne_of_isKeyChar hfirst (by decide))
  · next h => exact absurd (List.cons.inj h).1 (ne_of_isKeyChar hfirst (by decide))
  · rw [taken, left]

/-- A bare key before an equals sign is a way of its own. -/
theorem takeWay_append (key_ne : key ≠ []) (bare : ∀ c ∈ key, isKeyChar c)
    (blank : ∀ c ∈ before, isSpace c) :
    takeWay (key ++ (before ++ '=' :: rest)) = some ([String.ofList key], '=' :: rest) := by
  have solid : skipSpaces (key ++ (before ++ '=' :: rest)) = key ++ (before ++ '=' :: rest) := by
    obtain ⟨first, more, rfl⟩ := List.exists_cons_of_ne_nil key_ne
    exact List.dropWhile_cons_of_neg (by simp [isSpace_of_isKeyChar (bare first List.mem_cons_self)])
  have stop : ∀ c ∈ (before ++ '=' :: rest).head?, isKeyChar c = false := by
    cases before with
    | nil => simp [isKeyChar]
    | cons d before =>
      rintro c ⟨⟩
      exact Bool.eq_false_iff.2 fun h => by simp [isSpace_of_isKeyChar h] at blank
  have sign : skipSpaces (before ++ '=' :: rest) = '=' :: rest :=
    skipSpaces_append blank (by simp [isSpace])
  have keys : takeKeys (key ++ (before ++ '=' :: rest)) = some ([String.ofList key], '=' :: rest) := by
    rw [takeKeys]
    split
    · next h => simp [solid, takeKey_append key_ne bare stop] at h
    · next name after h =>
      rw [solid, takeKey_append key_ne bare stop] at h
      obtain ⟨rfl, rfl⟩ := Prod.mk.inj (Option.some.inj h)
      split
      · next h => simp [sign] at h
      · rw [sign]
  rw [takeWay, keys]
  rfl

end Keys

section Values
variable {quote letter c : Char} {s body rest : List Char} {value : Value}

theorem takeEscape_of_mem (pair : (letter, c) ∈ [('b', '\x08'), ('t', '\t'), ('n', '\n'), ('f', '\x0c'), ('r', '\r'),
    ('"', '"'), ('\\', '\\')]) : Config.takeEscape (letter :: rest) = some (c, rest) := by
  simp only [List.mem_cons, Prod.mk.injEq, List.not_mem_nil, or_false] at pair
  rcases pair with ⟨rfl, rfl⟩ | ⟨rfl, rfl⟩ | ⟨rfl, rfl⟩ | ⟨rfl, rfl⟩ | ⟨rfl, rfl⟩ | ⟨rfl, rfl⟩ | ⟨rfl, rfl⟩ <;> rfl

theorem takeLine_append (between : Body quote s body) (rest : List Char) :
    takeLine quote (s ++ quote :: rest) = some (body, rest) := by
  induction between with
  | nil => rw [List.nil_append, takeLine, if_pos rfl]
  | plain plain quote_ne backslash _ ih =>
    rw [List.cons_append, takeLine, if_neg quote_ne, if_neg fun h => backslash h.1 h.2, if_pos plain, ih]
    rfl
  | @escaped letter c s body double pair _ ih =>
    subst double
    rw [List.cons_append, List.cons_append, takeLine, if_neg (by decide), if_pos ⟨rfl, rfl⟩]
    split
    · next h => simp [takeEscape_of_mem pair] at h
    · next h =>
      rw [takeEscape_of_mem pair] at h
      obtain ⟨rfl, rfl⟩ := Prod.mk.inj (Option.some.inj h)
      rw [ih]
      rfl

/-- The text does not go on with a quote, which after an empty string would open a longer one. -/
def Follows (rest : List Char) : Prop := ∀ c ∈ rest.head?, c ∉ ['"', '\x27']

theorem Body.ne_quote_cons (between : Body quote s body) (quote_mem : quote ∈ ['"', '\x27'])
    (follows : Follows rest) (t : List Char) : s ++ quote :: rest ≠ quote :: quote :: t := by
  cases between with
  | nil =>
    intro h
    obtain rfl := (List.cons.inj h).2
    exact follows quote rfl quote_mem
  | plain _ quote_ne => exact fun h => quote_ne (List.cons.inj h).1
  | escaped double => exact fun h => absurd (double ▸ (List.cons.inj h).1) (by decide)

theorem takeBody_append (between : Body quote s body) (quote_mem : quote ∈ ['"', '\x27'])
    (follows : Follows rest) : takeBody (quote :: (s ++ quote :: rest)) = some (body, rest) := by
  have line := takeLine_append between rest
  have single := between.ne_quote_cons quote_mem follows
  simp only [List.mem_cons, List.not_mem_nil, or_false] at quote_mem
  unfold takeBody
  split
  · next h => exact absurd (List.cons.inj h).2 ((List.cons.inj h).1 ▸ single _)
  · next h => exact absurd (List.cons.inj h).2 ((List.cons.inj h).1 ▸ single _)
  · next h =>
    obtain ⟨rfl, rfl⟩ := List.cons.inj h
    exact line
  · next h =>
    obtain ⟨rfl, rfl⟩ := List.cons.inj h
    exact line
  · next double single =>
    rcases quote_mem with rfl | rfl
    · exact absurd rfl (double _)
    · exact absurd rfl (single _)

theorem takeScalar_append (written : Written s value) (follows : Follows rest) :
    takeScalar (s ++ rest) = some (value, rest) := by
  cases written with
  | @text quote s body quote_mem between =>
    have either : quote = '"' ∨ quote = '\x27' := by simpa using quote_mem
    have read := takeBody_append between quote_mem follows
    rw [List.cons_append, List.append_assoc, List.singleton_append]
    simp only [takeScalar, either, if_true, takeString, read, Option.map_some]
  | yes => rfl
  | no => rfl

theorem Written.exists_cons (written : Written s value) :
    ∃ c more, s = c :: more ∧ c ∈ ['"', '\x27', 't', 'f'] := by
  cases written with
  | text quote_mem => exact ⟨_, _, rfl, List.mem_append_left ['t', 'f'] quote_mem⟩
  | yes => exact ⟨'t', "rue".toList, rfl, by simp⟩
  | no => exact ⟨'f', "alse".toList, rfl, by simp⟩

theorem skipLines_written {gap : List Char} (between : Gap gap) (written : Written s value) :
    skipLines (gap ++ (s ++ rest)) = some (s ++ rest) := by
  obtain ⟨c, more, rfl, hc⟩ := written.exists_cons
  have differs : ∀ d ∉ ['"', '\x27', 't', 'f'], c ≠ d := fun d hd h => hd (h ▸ hc)
  refine skipLines_append between ?_ (differs _ (by decide)) (differs _ (by decide)) (differs _ (by decide))
  simp [isSpace, differs ' ' (by decide), differs '\t' (by decide)]

theorem follows_append {spaces : List Char} (blank : ∀ c ∈ spaces, isSpace c) (follows : Follows rest) :
    Follows (spaces ++ rest) := by
  cases spaces with
  | nil => exact follows
  | cons d spaces =>
    have hd : isSpace d := blank d List.mem_cons_self
    simp only [isSpace, Bool.or_eq_true, beq_iff_eq] at hd
    rintro _ ⟨⟩
    rcases hd with rfl | rfl <;> decide

theorem follows_cons (hc : c ∉ ['"', '\x27']) : Follows (c :: rest) := by
  rintro _ ⟨⟩
  exact hc

theorem Gap.follows {gap : List Char} (between : Gap gap) (hc : c ∉ ['"', '\x27']) :
    Follows (gap ++ c :: rest) := by
  cases between with
  | spaces blank => exact follows_append blank (follows_cons hc)
  | «break» blank =>
    rw [List.append_assoc]
    exact follows_append blank (follows_cons (by decide))

theorem Comment.follows {comment : List Char} (remark : Comment comment) (follows : Follows rest) :
    Follows (comment ++ rest) := by
  cases remark with
  | nil => exact follows
  | hash => exact follows_cons (by decide)

theorem LineEnd.follows (line : LineEnd s rest) : Follows s := by
  cases line with
  | finish blank remark =>
    have ends : Follows [] := by simp [Follows]
    exact follows_append blank (by simpa using remark.follows ends)
  | feed blank remark => exact follows_append blank (remark.follows (follows_cons (by decide)))
  | returnFeed blank remark => exact follows_append blank (remark.follows (follows_cons (by decide)))

theorem skipLines_mark {gap : List Char} (between : Gap gap) (hc : c ∈ [']', ',']) :
    skipLines (gap ++ c :: rest) = some (c :: rest) := by
  simp only [List.mem_cons, List.not_mem_nil, or_false] at hc
  rcases hc with rfl | rfl <;>
    exact skipLines_append between (by decide) (by decide) (by decide) (by decide)

theorem Written.ne_closing_cons (written : Written s value) (t : List Char) (rest : List Char) :
    s ++ t ≠ ']' :: rest := by
  intro h
  obtain ⟨c, more, rfl, hc⟩ := written.exists_cons
  exact absurd ((List.cons.inj h).1 ▸ hc) (by decide)

theorem takeItems_close {item : Config.Taker Value} (h : skipLines s = some (']' :: rest)) :
    takeItems item s = some ([], rest) := by
  grind [takeItems]

theorem takeItems_value {item : Config.Taker Value} {start after : List Char}
    (hs : skipLines s = some start) (hstart : ∀ rest, start ≠ ']' :: rest)
    (hv : item.run start = some (value, after)) :
    (skipLines after = some (']' :: rest) → takeItems item s = some ([value], rest)) ∧
    (skipLines after = some (',' :: rest) →
      takeItems item s = (takeItems item rest).map fun (values, rest) => (value :: values, rest)) := by
  constructor <;> grind [takeItems]

theorem takeItems_append {item : Config.Taker Value} {values : List Value}
    (reads : ∀ {s value rest}, Written s value → Follows rest → item.run (s ++ rest) = some (value, rest))
    (items : Items s values) (rest : List Char) : takeItems item (s ++ rest) = some (values, rest) := by
  induction items with
  | close before =>
    rw [List.append_assoc, List.singleton_append]
    exact takeItems_close (skipLines_mark before (by decide))
  | last before written after =>
    simp only [List.append_assoc, List.singleton_append]
    refine (takeItems_value (skipLines_written before written) (written.ne_closing_cons _)
      (reads written (after.follows (by decide)))).1 ?_
    exact skipLines_mark after (by decide)
  | item before written after _ ih =>
    simp only [List.append_assoc, List.cons_append]
    rw [(takeItems_value (skipLines_written before written) (written.ne_closing_cons _)
      (reads written (after.follows (by decide)))).2 (skipLines_mark after (by decide)), ih]
    rfl

theorem takeValueWith_append {inner : Option (Config.Taker Value)} (written : Written s value)
    (follows : Follows rest) : takeValueWith inner (s ++ rest) = some (value, rest) := by
  obtain ⟨c, more, rfl, hc⟩ := written.exists_cons
  rw [← takeScalar_append written follows, takeValueWith.eq_def]
  split
  · next h => simp [(List.cons.inj h).1] at hc
  · next h => simp [(List.cons.inj h).1] at hc
  · rfl

theorem takeValue_append {depth : Nat} (spelled : Spelled s value) (follows : Follows rest) :
    (takeValue (depth + 1)).run (s ++ rest) = some (value, rest) := by
  cases spelled with
  | single written => exact takeValueWith_append written follows
  | list items =>
    have reads : ∀ {s value rest}, Written s value → Follows rest →
        (takeValue depth).run (s ++ rest) = some (value, rest) := by
      intro s value rest written follows
      cases depth <;> exact takeValueWith_append written follows
    exact congrArg (Option.map _) (takeItems_append reads items rest)

end Values

section Files
variable {s rest after : List Char} {entries earlier : List (String × Value)} {key : String} {value : Value}
  {progress out : Progress}

/-- The definitions of lines, each of which defined a key. -/
def defined (entries : List (String × Value)) : Definitions :=
  ⟨(entries.map fun (key, value) => ([key], .value value)).reverse⟩

theorem way_of_mem_defined {entry : List String × Definition} (h : entry ∈ (defined entries).entries) :
    ∃ key ∈ entries.map Prod.fst, entry.1 = [key] := by
  obtain ⟨⟨key, value⟩, hmem, rfl⟩ := List.mem_map.1 (List.mem_reverse.1 h)
  exact ⟨key, List.mem_map_of_mem hmem, rfl⟩

theorem find?_defined_eq_none {way : List String} (h : ∀ key ∈ entries.map Prod.fst, way ≠ [key]) :
    (defined entries).find? way = none := by
  rw [Definitions.find?, List.lookup_eq_none_iff]
  intro entry hentry
  obtain ⟨key, hkey, hway⟩ := way_of_mem_defined hentry
  exact bne_iff_ne.2 (hway ▸ h key hkey)

theorem put_defined (value : Value) (h : key ∉ entries.map Prod.fst) :
    (defined entries).put [key] (.value value) = defined (entries ++ [(key, value)]) := by
  have others : (defined entries).entries.filter (·.1 ≠ [key]) = (defined entries).entries := by
    refine List.filter_eq_self.2 fun entry hentry => ?_
    obtain ⟨other, hother, hway⟩ := way_of_mem_defined hentry
    have : other ≠ key := fun same => h (same ▸ hother)
    simpa [hway] using this
  rw [Definitions.put, others]
  simp [defined]

theorem define_defined (value : Value) (h : key ∉ entries.map Prod.fst) :
    (defined entries).define [] [key] value = some (defined (entries ++ [(key, value)])) := by
  have outer : (defined entries).find? [] = none := find?_defined_eq_none (by simp)
  have here : (defined entries).find? [key] = none :=
    find?_defined_eq_none fun other hother same => h ((List.cons.inj same).1 ▸ hother)
  simp [Definitions.define, Definitions.followInto, Definitions.follow, Definitions.isDotted, outer, here,
    put_defined value h]

theorem takeFile_nil : takeFile progress [] = some progress := by
  rw [takeFile]
  rfl

theorem takeFile_step (statement : takeStatement? progress s = some (out, after))
    (line : endLine after = some rest) : takeFile progress s = takeFile out rest := by
  cases rest with
  | nil => grind [takeFile, takeFile_nil]
  | cons c rest => grind [takeFile]

theorem takeStatement?_idle (line : LineEnd s rest) : takeStatement? progress s = some (progress, s) := by
  rw [takeStatement?, endLine_eq line]
  rfl

theorem Spelled.solid {written : List Char} (spelled : Spelled written value) :
    ∀ c ∈ (written ++ s).head?, isSpace c = false := by
  cases spelled with
  | single written =>
    obtain ⟨c, more, rfl, hc⟩ := written.exists_cons
    rintro _ ⟨⟩
    simp only [List.mem_cons, List.not_mem_nil, or_false] at hc
    rcases hc with rfl | rfl | rfl | rfl <;> rfl
  | list => rintro _ ⟨⟩; rfl

theorem takeStatement?_define {margin key before after written : List Char} {value : Value}
    (margin_blank : ∀ c ∈ margin, isSpace c) (key_ne : key ≠ []) (bare : ∀ c ∈ key, isKeyChar c)
    (before_blank : ∀ c ∈ before, isSpace c) (after_blank : ∀ c ∈ after, isSpace c)
    (spelled : Spelled written value) (follows : Follows s) (other : String.ofList key ∉ earlier.map Prod.fst) :
    takeStatement? ⟨defined earlier, []⟩ (margin ++ (key ++ (before ++ '=' :: (after ++ (written ++ s))))) =
      some (⟨defined (earlier ++ [(String.ofList key, value)]), []⟩, s) := by
  obtain ⟨c, more, rfl⟩ := List.exists_cons_of_ne_nil key_ne
  have hc : isKeyChar c := bare c List.mem_cons_self
  have start : ∀ t, skipSpaces (margin ++ (c :: more ++ t)) = c :: more ++ t := fun t =>
    skipSpaces_append margin_blank (by rintro d ⟨⟩; exact isSpace_of_isKeyChar hc)
  have busy : ∀ t, endLine (margin ++ (c :: more ++ t)) = none := by
    intro t
    have stays : skipComment (c :: (more ++ t)) = c :: (more ++ t) :=
      skipComment.eq_2 _ (by simpa using ne_of_isKeyChar hc (d := '#') (by decide))
    rw [endLine, start, List.cons_append, stays]
    exact skipBreak.eq_3 _ (by simpa using ne_of_isKeyChar hc (d := '\n') (by decide))
      (by simp [ne_of_isKeyChar hc (d := '\r') (by decide)])
  have definition : takeDefinition (takeValue maxDepth)
      (c :: more ++ (before ++ '=' :: (after ++ (written ++ s)))) =
        some (([String.ofList (c :: more)], value), s) := by
    have sign : skipSpaces (after ++ (written ++ s)) = written ++ s :=
      skipSpaces_append after_blank spelled.solid
    rw [takeDefinition, takeWay_append key_ne bare before_blank]
    simp only [sign]
    rw [show maxDepth = 78 + 1 from rfl, takeValue_append spelled follows]
    rfl
  rw [takeStatement?, busy, start, if_neg (by simp), takeStatement.eq_3, definition]
  · simp only [Option.bind_some, define_defined value other]
    rfl
  · exact fun t h => ne_of_isKeyChar hc (d := '[') (by decide) (List.cons.inj h).1
  · exact fun t h => ne_of_isKeyChar hc (d := '[') (by decide) (List.cons.inj h).1

theorem takeFile_of_supplies (supplies : Supplies s entries)
    (distinct : ((earlier ++ entries).map Prod.fst).Nodup) :
    takeFile ⟨defined earlier, []⟩ s = some ⟨defined (earlier ++ entries), []⟩ := by
  induction supplies generalizing earlier with
  | nil => rw [List.append_nil, takeFile_nil]
  | idle line _ ih => rw [takeFile_step (takeStatement?_idle line) (endLine_eq line), ih distinct]
  | @define _ key _ _ _ _ _ value _ margin_blank key_ne bare before_blank after_blank spelled line _ ih =>
    have apart : String.ofList key ∉ earlier.map Prod.fst := by
      rw [List.map_append, List.nodup_append] at distinct
      exact fun h => distinct.2.2 _ h _ List.mem_cons_self rfl
    have defines := takeStatement?_define margin_blank key_ne bare before_blank after_blank spelled
      line.follows apart
    rw [takeFile_step defines (endLine_eq line), ih (by simpa using distinct)]
    simp

theorem keysBelow_defined (entries : List (String × Value)) :
    (defined entries).keysBelow [] = (entries.map Prod.fst).reverse.mergeSort fun a b => a ≤ b := by
  simp [Definitions.keysBelow, defined, List.filterMap_map, Function.comp_def]

/-- Where no key stands twice, an entry is found by its key. -/
theorem lookup_of_mem {α β : Type} [BEq α] [LawfulBEq α] {entries : List (α × β)} {key : α} {value : β}
    (distinct : (entries.map Prod.fst).Nodup) (h : (key, value) ∈ entries) :
    entries.lookup key = some value := by
  induction entries with
  | nil => cases h
  | cons entry rest ih =>
    obtain ⟨absent, distinct⟩ := List.nodup_cons.1 distinct
    rcases List.mem_cons.1 h with rfl | h
    · exact List.lookup_cons_self
    · have other : (key == entry.1) = false :=
        beq_false_of_ne fun same => absent (same ▸ List.mem_map_of_mem h)
      rw [List.lookup_cons, other]
      exact ih distinct h

theorem lookup_eq_of_perm {α β : Type} [BEq α] [LawfulBEq α] {entries others : List (α × β)} {key : α}
    (perm : entries.Perm others) (distinct : (entries.map Prod.fst).Nodup) :
    entries.lookup key = others.lookup key := by
  cases h : others.lookup key with
  | none =>
    rw [List.lookup_eq_none_iff] at h ⊢
    exact fun entry hentry => h entry (perm.mem_iff.1 hentry)
  | some value =>
    obtain ⟨before, after, rfl, -⟩ := List.lookup_eq_some_iff.1 h
    exact lookup_of_mem distinct (perm.mem_iff.2 (by simp))

theorem valueAt_defined (distinct : (entries.map Prod.fst).Nodup) (h : (key, value) ∈ entries) :
    (defined entries).valueAt (defined entries).depth [key] = value := by
  have hmem : ([key], .value value) ∈ (defined entries).entries :=
    List.mem_reverse.2 (List.mem_map_of_mem h)
  have deep : 1 ≤ (defined entries).depth := List.le_max_of_le' 0 (List.mem_map_of_mem hmem) le_rfl
  obtain ⟨depth, hdepth⟩ := Nat.exists_eq_add_of_le' deep
  have ways : ((defined entries).entries.map Prod.fst).Nodup := by
    have singletons : ((entries.map Prod.fst).map fun key => [key]).Nodup :=
      distinct.map fun a b same => (List.cons.inj same).1
    simpa [defined, Function.comp_def, List.nodup_reverse] using singletons
  have found : (defined entries).find? [key] = some (.value value) := lookup_of_mem ways hmem
  rw [hdepth, Definitions.valueAt, found]

theorem perm_values_defined (distinct : (entries.map Prod.fst).Nodup) :
    (defined entries).values.Perm entries := by
  let valued (key : String) : String × Value := (key, (defined entries).valueAt (defined entries).depth [key])
  have keys : ((defined entries).keysBelow []).Perm (entries.map Prod.fst) := by
    rw [keysBelow_defined]
    exact (List.mergeSort_perm _ _).trans (List.reverse_perm _)
  have same : (entries.map Prod.fst).map valued = entries := by
    rw [List.map_map]
    refine (List.map_congr_left fun entry hentry => ?_).trans (List.map_id entries)
    exact Prod.ext rfl (valueAt_defined distinct hentry)
  have values := keys.map valued
  rwa [same] at values

theorem ascending_values_defined (distinct : (entries.map Prod.fst).Nodup) :
    Config.Ascending (defined entries).values := by
  have keys : (defined entries).values.map Prod.fst =
      (entries.map Prod.fst).reverse.mergeSort fun a b => a ≤ b := by
    rw [← keysBelow_defined, Definitions.values, List.map_map]
    exact List.map_id _
  have apart : ((entries.map Prod.fst).reverse.mergeSort fun a b => a ≤ b).Nodup :=
    (List.mergeSort_perm _ _).nodup_iff.2 (List.nodup_reverse.2 distinct)
  have sorted : ((entries.map Prod.fst).reverse.mergeSort fun a b => a ≤ b).Pairwise (· ≤ ·) :=
    List.pairwise_mergeSort' (· ≤ ·) _
  rw [Config.Ascending, keys]
  exact (sorted.and apart).imp fun h => lt_of_le_of_ne h.1 h.2

/-- A file supplies what its lines do, in the order of the keys. A mark of the byte order may stand before the
lines. -/
theorem parse_of_supplies {text : String} (supplies : Supplies (skipMark text.toList) entries)
    (distinct : (entries.map Prod.fst).Nodup) :
    ∃ supplied, parse text = some supplied ∧ supplied.Perm entries ∧ Config.Ascending supplied := by
  have read : takeFile {} (skipMark text.toList) = some ⟨defined entries, []⟩ :=
    @takeFile_of_supplies _ entries [] supplies distinct
  exact ⟨(defined entries).values, by rw [parse, read]; rfl, perm_values_defined distinct,
    ascending_values_defined distinct⟩

end Files

end RecordAccess.Toml
