import RecordAccess.Json.Layout
import RecordAccess.Proofs.Json.Passing

/-!
# Readers of strings and lists

A reader reads a text as a value if it gives the value and what stands after the text, whatever that is and
after any gap. The reader of a string reads all its texts, and the reader of a list those of the list if
the reader of its items reads theirs.
-/
namespace RecordAccess.Json

structure Reader.Reads {α : Type} (reader : Reader α) (value : α) (text : List Char) : Prop where
  solid : Solid text
  run_append : ∀ gap rest, Gap gap → reader.run (gap ++ (text ++ rest)) = .ok (value, rest)

theorem Reader.Reads.run_start {α : Type} {reader : Reader α} {value : α} {text : List Char}
    (h : reader.Reads value text) (rest : List Char) : reader.run (text ++ rest) = .ok (value, rest) :=
  h.run_append [] rest gap_nil

theorem Reader.Reads.map {α β : Type} {reader : Reader α} {value : α} {text : List Char}
    (h : reader.Reads value text) (f : α → β) : (reader.map f).Reads (f value) text where
  solid := h.solid
  run_append gap rest hgap := by
    change (reader.run _).map _ = _
    rw [h.run_append gap rest hgap]
    rfl

section Strings

theorem StringText.exists_cons {s : String} {text : List Char} (h : StringText s text) :
    ∃ rest, text = '"' :: rest := by
  cases h
  exact ⟨_, rfl⟩

theorem StringText.solid {s : String} {text : List Char} (h : StringText s text) : Solid text := by
  obtain ⟨rest, rfl⟩ := h.exists_cons
  exact ⟨'"', rest, rfl, by decide⟩

theorem reads_text {s : String} {text : List Char} (h : StringText s text) : Reader.text.Reads s text where
  solid := h.solid
  run_append gap rest hgap := by
    have visible := skipGap_solid hgap h.solid rest
    cases h with
    | quoted hbody =>
      simp only [List.append_assoc, List.cons_append, List.nil_append] at visible ⊢
      simp only [Reader.text, readText, visible, hbody.readString_append]

theorem reads_optional {s : Option String} {text : List Char} (h : OptionalText s text) :
    Reader.text.optional.Reads s text := by
  cases h with
  | null =>
    have solid : Solid ['n', 'u', 'l', 'l'] := ⟨'n', _, rfl, by decide⟩
    refine ⟨solid, ?_⟩
    intro gap rest hgap
    change readOptional _ _ = _
    rw [readOptional, skipGap_solid hgap solid]
    simp [skipWord, Except.map]
  | some h =>
    refine ⟨h.solid, ?_⟩
    intro gap rest hgap
    have read := (reads_text h).run_start rest
    have visible := skipGap_solid hgap h.solid rest
    obtain ⟨tail, rfl⟩ := h.exists_cons
    change readOptional _ _ = _
    rw [List.cons_append] at read visible ⊢
    rw [readOptional, visible]
    change (Reader.text.run _).map _ = _
    rw [read]
    rfl

end Strings

section Lists
variable {α : Type} {reader : Reader α}

theorem nextItem_closing {gap : List Char} (hgap : Gap gap) (isFirst : Bool) (rest : List Char) :
    nextItem isFirst (gap ++ ']' :: rest) = .ok (.closed rest) := by
  simp only [nextItem, skipGap_cons hgap (show isGap ']' = false by decide)]

theorem nextItem_first {gap part : List Char} (hgap : Gap gap) (h : Solid part) (rest : List Char) :
    nextItem true (gap ++ (part ++ rest)) = .ok (.item (part ++ rest)) := by
  have visible := skipGap_solid hgap h rest
  obtain ⟨c, tail, rfl, _, square, _⟩ := h
  rw [List.cons_append] at visible ⊢
  simp only [nextItem, visible, if_true]

theorem nextItem_comma {before after part : List Char} (hbefore : Gap before) (hafter : Gap after)
    (h : Solid part) (rest : List Char) :
    nextItem false (before ++ ',' :: (after ++ (part ++ rest))) = .ok (.item (part ++ rest)) := by
  have visible := skipGap_solid hafter h rest
  obtain ⟨c, tail, rfl, _, square, _⟩ := h
  rw [List.cons_append] at visible ⊢
  simp [nextItem, skipGap_cons hbefore (show isGap ',' = false by decide), visible, square]

theorem readItems_closed {isFirst : Bool} {s rest : List Char}
    (hn : nextItem isFirst s = .ok (.closed rest)) : readItems reader isFirst s = .ok ([], rest) := by
  rw [readItems]
  split <;> simp_all

theorem readItems_item {isFirst : Bool} {s start rest : List Char} {value : α}
    (hn : nextItem isFirst s = .ok (.item start)) (hr : reader.run start = .ok (value, rest)) :
    readItems reader isFirst s =
      (readItems reader false rest).map fun (values, rest) => (value :: values, rest) := by
  rw [readItems]
  split
  · next hstop => simp [hn] at hstop
  · next hclosed => simp [hn] at hclosed
  · next hitem =>
    rw [hn, Except.ok.injEq, Next.item.injEq] at hitem
    subst hitem
    split <;> simp_all

theorem Continued.readItems_append {values : List α} {parts : List (List Char)} {text : List Char}
    (h : Continued parts text) (hparts : List.Forall₂ reader.Reads values parts) (rest : List Char) :
    readItems reader false (text ++ ']' :: rest) = .ok (values, rest) := by
  induction h generalizing values with
  | nil hgap =>
    cases hparts
    exact readItems_closed (nextItem_closing hgap false rest)
  | cons hbefore hafter _ ih =>
    cases hparts with
    | cons hpart hparts =>
      simp only [List.append_assoc, List.cons_append]
      rw [readItems_item (nextItem_comma hbefore hafter hpart.solid _) (hpart.run_start _), ih hparts]
      rfl

theorem Joined.readItems_append {values : List α} {parts : List (List Char)} {body : List Char}
    (h : Joined parts body) (hparts : List.Forall₂ reader.Reads values parts) (rest : List Char) :
    readItems reader true (body ++ ']' :: rest) = .ok (values, rest) := by
  cases h with
  | nil hgap =>
    cases hparts
    exact readItems_closed (nextItem_closing hgap true rest)
  | cons hgap more =>
    cases hparts with
    | cons hpart hparts =>
      simp only [List.append_assoc]
      rw [readItems_item (nextItem_first hgap hpart.solid _) (hpart.run_start _),
        more.readItems_append hparts]
      rfl

theorem reads_list {spell : α → List Char → Prop} {values : List α} {text : List Char}
    (hreader : ∀ value text, spell value text → reader.Reads value text)
    (h : ListText spell values text) : reader.list.Reads values text := by
  cases h with
  | @array parts body hparts hbody =>
    have solid : Solid ('[' :: body ++ [']']) := ⟨'[', _, rfl, by decide⟩
    refine ⟨solid, ?_⟩
    intro gap rest hgap
    have visible := skipGap_solid hgap solid rest
    have items := hbody.readItems_append (hparts.imp hreader) rest
    simp only [List.append_assoc, List.cons_append, List.nil_append] at visible ⊢
    change readList reader _ = _
    simp only [readList, visible, items]

end Lists

end RecordAccess.Json
