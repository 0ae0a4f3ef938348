import RecordAccess.Json.Skip
import RecordAccess.Proofs.Json.Strings

/-!
# Values of every form are passed over

What is not wanted may be any value: numbers of any size, strings with any escapes, arrays and objects nested
to any depth. Passing over it stops right after its text.
-/
namespace RecordAccess.Json

open Number

/-- A number before this text ends where the text starts. -/
def Ends (s : List Char) : Prop := ∀ c ∈ s.head?, isDigit c = false ∧ c ≠ '.' ∧ c ≠ 'e' ∧ c ≠ 'E'

theorem ends_cons {c : Char} {s : List Char} (h : isDigit c = false ∧ c ≠ '.' ∧ c ≠ 'e' ∧ c ≠ 'E') :
    Ends (c :: s) := by
  intro d hd
  obtain rfl : c = d := by simpa using hd
  exact h

def Undigited (s : List Char) : Prop := ∀ c ∈ s.head?, isDigit c = false

section Numbers

theorem Digits.isDigit {digits : List Char} (h : Digits digits) {c : Char} (hc : c ∈ digits) :
    isDigit c = true := by
  have table : ∀ c ∈ "0123456789".toList, Number.isDigit c = true := by simp [Number.isDigit]
  exact table c (h c hc)

theorem Digits.digitsOf_append {digits rest : List Char} (h : Digits digits) (hrest : Undigited rest) :
    digitsOf (digits ++ rest) = digits := by
  rw [digitsOf, List.takeWhile_append_of_pos fun c hc => h.isDigit hc]
  cases rest with
  | nil => simp
  | cons c rest => simp [hrest c rfl]

theorem Digits.afterDigits_append {digits rest : List Char} (h : Digits digits) (hrest : Undigited rest) :
    afterDigits (digits ++ rest) = rest := by
  rw [afterDigits, List.dropWhile_append_of_pos fun c hc => h.isDigit hc]
  cases rest with
  | nil => simp
  | cons c rest => simp [hrest c rfl]

theorem Whole.all_digits {whole : List Char} (h : Whole whole) : Digits whole := by
  have table : ∀ c ∈ "123456789".toList, c ∈ "0123456789".toList := by simp
  cases h with
  | zero => simp [Digits]
  | digits hc hrest =>
    intro c hmem
    rcases List.mem_cons.1 hmem with rfl | hmem
    · exact table _ hc
    · exact hrest c hmem

theorem takeSign_append {sign places rest : List Char} (hsign : sign ∈ [[], ['+'], ['-']])
    (h : Digits places) (hsome : places ≠ []) : (takeSign (sign ++ places ++ rest)).2 = places ++ rest := by
  simp only [List.mem_cons, List.not_mem_nil, or_false] at hsign
  rcases hsign with rfl | rfl | rfl
  · obtain ⟨c, places, rfl⟩ := List.exists_cons_of_ne_nil hsome
    have digit := h.isDigit List.mem_cons_self
    have minus : c ≠ '-' := by rintro rfl; simp [Number.isDigit] at digit
    have plus : c ≠ '+' := by rintro rfl; simp [Number.isDigit] at digit
    simp [takeSign, minus, plus]
  · rfl
  · rfl

theorem skipExponent_append {sign places rest : List Char} (hsign : sign ∈ [[], ['+'], ['-']])
    (h : Digits places) (hsome : places ≠ []) (hrest : Undigited rest) :
    skipExponent (sign ++ places ++ rest) = .ok rest := by
  simp only [skipExponent, takeSign_append hsign h hsome, h.digitsOf_append hrest, h.afterDigits_append hrest]

/-- Passes over the exponent of a number, if there is one. -/
def skipPower : List Char → Except Stop (List Char)
  | 'e' :: rest => skipExponent rest
  | 'E' :: rest => skipExponent rest
  | rest => .ok rest

/-- Passes over what follows the whole part of a number. -/
def skipPlaces : List Char → Except Stop (List Char)
  | '.' :: rest =>
    match digitsOf rest with
    | [] => malformed rest
    | _ => skipPower (afterDigits rest)
  | rest => skipPower rest

theorem skipNumber_whole {whole s : List Char} (h : Whole whole) (hs : Undigited s) :
    skipNumber (whole ++ s) = skipPlaces s := by
  -- A zero stands alone, so the branch that refuses digits after it is not taken.
  have places : ∀ c rest, whole = c :: rest → ¬(c = '0' ∧ rest ≠ []) := by
    intro c rest heq
    cases h with
    | zero => simp_all
    | digits hc _ =>
      obtain ⟨rfl, rfl⟩ := List.cons.inj heq
      rintro ⟨rfl, _⟩
      revert hc
      decide
  unfold skipNumber
  rw [h.all_digits.digitsOf_append hs, h.all_digits.afterDigits_append hs]
  split
  · cases h
  · exact absurd ⟨rfl, List.cons_ne_nil _ _⟩ (places _ _ rfl)
  · split
    · rfl
    · rfl
    · rfl
    · next other first second =>
      rw [skipPlaces, skipPower]
      · exact first
      · exact second
      · exact other

theorem Exponent.head_append {exponent rest : List Char} (h : Exponent exponent) (hrest : Ends rest) :
    ∀ c ∈ (exponent ++ rest).head?, isDigit c = false ∧ c ≠ '.' := by
  intro c hc
  cases h with
  | none =>
    obtain ⟨digit, point, _⟩ := hrest c hc
    exact ⟨digit, point⟩
  | digits hletter _ _ _ =>
    obtain rfl : _ = c := by simpa using hc
    rcases List.mem_pair.1 hletter with rfl | rfl <;> decide

theorem Exponent.undigited_append {exponent rest : List Char} (h : Exponent exponent) (hrest : Ends rest) :
    Undigited (exponent ++ rest) := fun c hc => (h.head_append hrest c hc).1

theorem Exponent.skipPower_append {exponent rest : List Char} (h : Exponent exponent) (hrest : Ends rest) :
    skipPower (exponent ++ rest) = .ok rest := by
  cases h with
  | none =>
    rw [List.nil_append]
    unfold skipPower
    split
    · exact absurd rfl (hrest 'e' rfl).2.2.1
    · exact absurd rfl (hrest 'E' rfl).2.2.2
    · rfl
  | digits hletter hsign hplaces hsome =>
    have skipped := skipExponent_append hsign hplaces hsome fun c hc => (hrest c hc).1
    rw [List.cons_append, List.cons_append]
    rcases List.mem_pair.1 hletter with rfl | rfl
    · exact skipped
    · exact skipped

theorem Fraction.undigited_append {fraction s : List Char} (h : Fraction fraction) (hs : Undigited s) :
    Undigited (fraction ++ s) := by
  cases h with
  | none => exact hs
  | digits _ _ =>
    intro c hc
    obtain rfl : '.' = c := by simpa using hc
    rfl

theorem Fraction.skipPlaces_append {fraction exponent rest : List Char} (h : Fraction fraction)
    (hexponent : Exponent exponent) (hrest : Ends rest) :
    skipPlaces (fraction ++ (exponent ++ rest)) = .ok rest := by
  have power := hexponent.skipPower_append hrest
  have undigited := hexponent.undigited_append hrest
  cases h with
  | none =>
    rw [List.nil_append, skipPlaces, power]
    intro tail htail
    exact (hexponent.head_append hrest '.' (by rw [htail]; rfl)).2 rfl
  | digits hplaces hsome =>
    rw [List.cons_append, skipPlaces, hplaces.digitsOf_append undigited, hplaces.afterDigits_append undigited]
    split
    · exact absurd rfl hsome
    · exact power

theorem skipNumber_append {whole fraction exponent rest : List Char} (hwhole : Whole whole)
    (hfraction : Fraction fraction) (hexponent : Exponent exponent) (hrest : Ends rest) :
    skipNumber (whole ++ (fraction ++ (exponent ++ rest))) = .ok rest := by
  rw [skipNumber_whole hwhole (hfraction.undigited_append (hexponent.undigited_append hrest))]
  exact hfraction.skipPlaces_append hexponent hrest

end Numbers

section Scalars

/-- The text starts with a character of a value. -/
def Solid (s : List Char) : Prop := ∃ c rest, s = c :: rest ∧ isGap c = false ∧ c ≠ ']' ∧ c ≠ '}'

theorem skipGap_solid {gap s : List Char} (hgap : Gap gap) (h : Solid s) (rest : List Char) :
    skipGap (gap ++ (s ++ rest)) = s ++ rest := by
  obtain ⟨c, tail, rfl, visible, _⟩ := h
  rw [hgap.skipGap_append, List.cons_append, skipGap, List.dropWhile_cons_of_neg (by simp [visible])]

theorem LooseString.solid {text : List Char} (h : LooseString text) : Solid text := by
  cases h
  exact ⟨'"', _, rfl, by decide⟩

theorem Whole.exists_cons {whole : List Char} (h : Whole whole) :
    ∃ c rest, whole = c :: rest ∧ isDigit c = true := by
  cases h with
  | zero => exact ⟨'0', [], rfl, rfl⟩
  | digits hc hrest => exact ⟨_, _, rfl, (Whole.digits hc hrest).all_digits.isDigit List.mem_cons_self⟩

theorem solid_of_isDigit {c : Char} (h : isDigit c = true) (rest : List Char) : Solid (c :: rest) := by
  refine ⟨c, rest, rfl, ?_, ?_, ?_⟩
  · rw [Bool.eq_false_iff]
    intro hgap
    have table : ∀ c ∈ [' ', '\t', '\n', '\r'], isDigit c = false := by simp [isDigit]
    simp [table c (isGap_iff.1 hgap)] at h
  · rintro rfl
    simp [isDigit] at h
  · rintro rfl
    simp [isDigit] at h

theorem skipScalar_of_isDigit {c : Char} (h : isDigit c = true) (s : List Char) :
    skipScalar (c :: s) = skipNumber (c :: s) := by
  unfold skipScalar
  split
  · next heq => simp at heq
  · next heq => obtain ⟨rfl, _⟩ := List.cons.inj heq; simp [isDigit] at h
  · next heq => obtain ⟨rfl, _⟩ := List.cons.inj heq; simp [isDigit] at h
  · next heq => obtain ⟨rfl, _⟩ := List.cons.inj heq; simp [isDigit] at h
  · next heq => obtain ⟨rfl, _⟩ := List.cons.inj heq; simp [isDigit] at h
  · next heq => obtain ⟨rfl, _⟩ := List.cons.inj heq; simp [isDigit] at h
  · next heq =>
    obtain ⟨rfl, rfl⟩ := List.cons.inj heq
    rw [if_pos h]

theorem NumberText.solid {text : List Char} (h : NumberText text) : Solid text := by
  cases h with
  | parts hsign hwhole _ _ =>
    obtain ⟨c, rest, rfl, digit⟩ := hwhole.exists_cons
    rcases List.mem_pair.1 hsign with rfl | rfl
    · exact solid_of_isDigit digit _
    · exact ⟨'-', _, rfl, by decide⟩

theorem NumberText.skipScalar_append {text rest : List Char} (h : NumberText text) (hrest : Ends rest) :
    skipScalar (text ++ rest) = .ok rest := by
  cases h with
  | parts hsign hwhole hfraction hexponent =>
    have skipped := skipNumber_append hwhole hfraction hexponent hrest
    obtain ⟨c, tail, rfl, digit⟩ := hwhole.exists_cons
    simp only [List.append_assoc, List.cons_append] at skipped ⊢
    rcases List.mem_pair.1 hsign with rfl | rfl
    · rw [List.nil_append, skipScalar_of_isDigit digit, skipped]
    · rw [List.singleton_append, skipScalar, skipped]

theorem LooseString.skipScalar_append {text : List Char} (h : LooseString text) (rest : List Char) :
    skipScalar (text ++ rest) = .ok rest := by
  cases h with
  | quoted h =>
    rw [List.cons_append, List.cons_append, List.append_assoc, List.singleton_append, skipScalar,
      h.skipString_append]

end Scalars

section Steps
variable {opened : List Bracket} {s rest : List Char}

def Bracket.opening : Bracket → Char
  | array => '['
  | object => '{'

def Bracket.closing : Bracket → Char
  | array => ']'
  | object => '}'

/-- Passes over text from the start of an item between brackets on. -/
def skipItem (bracket : Bracket) (opened : List Bracket) (s : List Char) : Except Stop (List Char) :=
  match bracket with
  | .array => skip (.array :: opened) .value s
  | .object =>
    match skipKey s with
    | .error stop => .error stop
    | .ok rest => skip (.object :: opened) .value rest

theorem skip_scalar (h : skipScalar (skipGap s) = .ok rest) :
    skip opened .value s = skip opened .follower rest := by
  rw [skip]
  split
  · next hs => simp [hs, skipScalar, isDigit, malformed] at h
  · next hs => simp [hs, skipScalar, isDigit, malformed] at h
  · split
    · next hstop => simp [h] at hstop
    · next hrest =>
      rw [h, Except.ok.injEq] at hrest
      rw [hrest]

theorem skip_opening_closing (bracket : Bracket) {t : List Char} (hs : skipGap s = bracket.opening :: t)
    (ht : skipGap t = bracket.closing :: rest) : skip opened .value s = skip opened .follower rest := by
  rw [skip]
  cases bracket with
  | array =>
    split
    · next hopen =>
      obtain ⟨_, rfl⟩ := List.cons.inj (hs.symm.trans hopen)
      split
      · next hclose => rw [(List.cons.inj (ht.symm.trans hclose)).2]
      · next other => exact absurd ht (other _)
    · next hopen => exact absurd (hs.symm.trans hopen) (by simp [Bracket.opening])
    · next other _ => exact absurd hs (other _)
  | object =>
    split
    · next hopen => exact absurd (hs.symm.trans hopen) (by simp [Bracket.opening])
    · next hopen =>
      obtain ⟨_, rfl⟩ := List.cons.inj (hs.symm.trans hopen)
      split
      · next hclose => rw [(List.cons.inj (ht.symm.trans hclose)).2]
      · next other => exact absurd ht (other _)
    · next _ other => exact absurd hs (other _)

theorem skip_opening (bracket : Bracket) {t : List Char} (hs : skipGap s = bracket.opening :: t)
    (ht : ∀ tail, skipGap t ≠ bracket.closing :: tail) :
    skip opened .value s = skipItem bracket opened t := by
  rw [skip]
  cases bracket with
  | array =>
    split
    · next hopen =>
      obtain ⟨_, rfl⟩ := List.cons.inj (hs.symm.trans hopen)
      split
      · next hclose => exact absurd hclose (ht _)
      · rfl
    · next hopen => exact absurd (hs.symm.trans hopen) (by simp [Bracket.opening])
    · next other _ => exact absurd hs (other _)
  | object =>
    split
    · next hopen => exact absurd (hs.symm.trans hopen) (by simp [Bracket.opening])
    · next hopen =>
      obtain ⟨_, rfl⟩ := List.cons.inj (hs.symm.trans hopen)
      split
      · next hclose => exact absurd hclose (ht _)
      · rw [skipItem]
        split <;> simp_all
    · next _ other => exact absurd hs (other _)

theorem skip_closing (bracket : Bracket) (hs : skipGap s = bracket.closing :: rest) :
    skip (bracket :: opened) .follower s = skip opened .follower rest := by
  cases bracket <;> (rw [skip]; split <;> simp_all [Bracket.closing])

theorem skip_comma (bracket : Bracket) (hs : skipGap s = ',' :: rest) :
    skip (bracket :: opened) .follower s = skipItem bracket opened rest := by
  cases bracket with
  | array => rw [skip]; split <;> simp_all [skipItem]
  | object =>
    rw [skip]
    split
    · simp_all
    · simp_all
    · next hcomma =>
      obtain ⟨_, rfl⟩ := List.cons.inj (hs.symm.trans hcomma)
      rw [skipItem]
      split <;> simp_all
    · simp_all

end Steps

section Rows

theorem Gap.ends_append {gap s : List Char} (h : Gap gap) (hs : Ends s) : Ends (gap ++ s) := by
  cases gap with
  | nil => exact hs
  | cons c gap =>
    have table : ∀ c ∈ [' ', '\t', '\n', '\r'], isDigit c = false ∧ c ≠ '.' ∧ c ≠ 'e' ∧ c ≠ 'E' := by
      simp [isDigit]
    exact ends_cons (table c (h c List.mem_cons_self))

theorem Continued.ends_append {parts : List (List Char)} {text : List Char} (h : Continued parts text)
    (bracket : Bracket) (rest : List Char) : Ends (text ++ bracket.closing :: rest) := by
  cases h with
  | nil hgap => exact hgap.ends_append (ends_cons (by cases bracket <;> decide))
  | cons hbefore _ _ =>
    simp only [List.append_assoc, List.cons_append]
    exact hbefore.ends_append (ends_cons (by decide))

theorem skipGap_cons {gap : List Char} (h : Gap gap) {c : Char} (hc : isGap c = false) (s : List Char) :
    skipGap (gap ++ c :: s) = c :: s := by
  rw [h.skipGap_append, skipGap, List.dropWhile_cons_of_neg (by simp [hc])]

/-- An item between brackets is passed over, and its brackets stay open. -/
def Passed (bracket : Bracket) (part : List Char) : Prop :=
  ∀ opened gap rest, Gap gap → Ends rest →
    skipItem bracket opened (gap ++ (part ++ rest)) = skip (bracket :: opened) .follower rest

theorem Continued.skip_append {bracket : Bracket} {parts : List (List Char)} {text : List Char}
    (h : Continued parts text) (hparts : ∀ part ∈ parts, Passed bracket part) (opened : List Bracket)
    (rest : List Char) :
    skip (bracket :: opened) .follower (text ++ bracket.closing :: rest) = skip opened .follower rest := by
  induction h with
  | nil hgap => exact skip_closing bracket (skipGap_cons hgap (by cases bracket <;> decide) _)
  | @cons before after part text parts hbefore hafter more ih =>
    have item := hparts part List.mem_cons_self opened after _ hafter (more.ends_append bracket rest)
    simp only [List.append_assoc, List.cons_append]
    rw [skip_comma bracket (skipGap_cons hbefore (by decide) _), item]
    exact ih fun other hother => hparts other (List.mem_cons_of_mem _ hother)

theorem Joined.skip_append {bracket : Bracket} {parts : List (List Char)} {body gap : List Char}
    (h : Joined parts body) (hparts : ∀ part ∈ parts, Passed bracket part ∧ Solid part) (hgap : Gap gap)
    (opened : List Bracket) (rest : List Char) :
    skip opened .value (gap ++ (bracket.opening :: body ++ [bracket.closing] ++ rest)) =
      skip opened .follower rest := by
  have start : ∀ s, skipGap (gap ++ bracket.opening :: s) = bracket.opening :: s :=
    skipGap_cons hgap (by cases bracket <;> decide)
  simp only [List.append_assoc, List.cons_append, List.nil_append]
  cases h with
  | nil hinner =>
    exact skip_opening_closing bracket (start _) (skipGap_cons hinner (by cases bracket <;> decide) _)
  | @cons inner part text parts hinner more =>
    obtain ⟨passed, solid⟩ := hparts part List.mem_cons_self
    simp only [List.append_assoc]
    have visible := skipGap_solid hinner solid (text ++ bracket.closing :: rest)
    rw [skip_opening bracket (start _), passed opened inner _ hinner (more.ends_append bracket rest)]
    · exact more.skip_append (fun other hother => (hparts other (List.mem_cons_of_mem _ hother)).1) opened rest
    · intro tail
      rw [visible]
      obtain ⟨c, part, rfl, _, square, curly⟩ := solid
      cases bracket
      · exact fun heq => square (List.cons.inj heq).1
      · exact fun heq => curly (List.cons.inj heq).1

end Rows

section Values

theorem exists_mem_of_forall₂ {α β : Type} {R : α → β → Prop} {l : List α} {m : List β}
    (h : List.Forall₂ R l m) {b : β} (hb : b ∈ m) : ∃ a ∈ l, R a b := by
  induction h with
  | nil => simp at hb
  | cons hab _ ih =>
    rcases List.mem_cons.1 hb with rfl | hb
    · exact ⟨_, List.mem_cons_self, hab⟩
    · obtain ⟨a, ha, hab⟩ := ih hb
      exact ⟨a, List.mem_cons_of_mem _ ha, hab⟩

theorem MemberText.skipKey_append {key value part gap : List Char} (h : MemberText key value part)
    (hkey : LooseString key) (hgap : Gap gap) (rest : List Char) :
    ∃ after, Gap after ∧ skipKey (gap ++ (part ++ rest)) = .ok (after ++ (value ++ rest)) := by
  cases h with
  | colon hbefore hafter =>
    cases hkey with
    | quoted hbody =>
      refine ⟨_, hafter, ?_⟩
      simp only [List.append_assoc, List.cons_append, List.nil_append]
      simp only [skipKey, skipGap_cons hgap (show isGap '"' = false by decide), hbody.skipString_append,
        skipGap_cons hbefore (show isGap ':' = false by decide)]

theorem MemberText.solid {key value part : List Char} (h : MemberText key value part)
    (hkey : LooseString key) : Solid part := by
  cases h with
  | colon _ _ =>
    obtain ⟨c, rest, rfl, visible⟩ := hkey.solid
    exact ⟨c, _, rfl, visible⟩

theorem ValueText.solid {text : List Char} (h : ValueText text) : Solid text := by
  cases h with
  | null => exact ⟨'n', _, rfl, by decide⟩
  | true => exact ⟨'t', _, rfl, by decide⟩
  | false => exact ⟨'f', _, rfl, by decide⟩
  | number h => exact h.solid
  | string h => exact h.solid
  | array _ _ => exact ⟨'[', _, rfl, by decide⟩
  | object _ _ _ _ => exact ⟨'{', _, rfl, by decide⟩

/-- The text of a value is passed over, whatever brackets are open and whatever the value. -/
theorem ValueText.skip_append {text : List Char} (h : ValueText text) (opened : List Bracket)
    {gap rest : List Char} (hgap : Gap gap) (hrest : Ends rest) :
    skip opened .value (gap ++ (text ++ rest)) = skip opened .follower rest := by
  have visible := skipGap_solid hgap h.solid rest
  induction h generalizing opened gap rest with
  | null => exact skip_scalar (by rw [visible]; simp [skipScalar, skipWord])
  | true => exact skip_scalar (by rw [visible]; simp [skipScalar, skipWord])
  | false => exact skip_scalar (by rw [visible]; simp [skipScalar, skipWord])
  | number h => exact skip_scalar (by rw [visible, h.skipScalar_append hrest])
  | string h => exact skip_scalar (by rw [visible, h.skipScalar_append])
  | array hitems hbody ih =>
    refine @Joined.skip_append .array _ _ _ hbody ?_ hgap opened rest
    intro item hitem
    have solid := (hitems item hitem).solid
    refine ⟨?_, solid⟩
    intro opened gap rest hgap hrest
    exact ih item hitem _ hgap hrest (skipGap_solid hgap solid rest)
  | object hkeys hvalues hparts hbody ih =>
    refine @Joined.skip_append .object _ _ _ hbody ?_ hgap opened rest
    intro part hpart
    obtain ⟨member, hmember, hmemberText⟩ := exists_mem_of_forall₂ hparts hpart
    have key := hkeys member hmember
    refine ⟨?_, hmemberText.solid key⟩
    intro opened gap rest hgap hrest
    -- The key goes first; its value is an item as in an array, with the bracket of the object open.
    obtain ⟨after, hafter, hskip⟩ := hmemberText.skipKey_append key hgap rest
    rw [skipItem, hskip]
    exact ih member hmember _ hafter hrest (skipGap_solid hafter (hvalues member hmember).solid rest)

theorem ValueText.skipValue_append {text : List Char} (h : ValueText text) {gap rest : List Char}
    (hgap : Gap gap) (hrest : Ends rest) : skipValue (gap ++ (text ++ rest)) = .ok rest := by
  rw [skipValue, h.skip_append [] hgap hrest, skip]

end Values

end RecordAccess.Json
