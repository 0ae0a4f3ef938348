import Mathlib.Data.List.Nodup
import RecordAccess.Proofs.Json.Readers

/-!
# Readers of structures

The members of a structure may be entered in any order, and one that may be left out changes nothing in the
blank structure. So a layout reads every text of a structure, with its members by key or in a row, as that
structure, if the reader of each of its slots reads the texts of the member.
-/
namespace RecordAccess.Json

variable {σ : Type}

structure Slot.Takes (slot : Slot σ) (member : Member σ) : Prop where
  key_eq : member.key = slot.key
  reads : ∀ value text, member.spell value text → slot.reader.Reads (member.copy value) text
  required : slot.isRequired = true → ∀ value, ¬member.omissible value

theorem takes_member {α : Type} {key : String} {isRequired : Bool} {reader : Reader α} {get : σ → α}
    {put : α → σ → σ} {spell : α → List Char → Prop} {omissible : α → Prop}
    (hreader : ∀ value text, spell value text → reader.Reads value text)
    (hrequired : isRequired = true → ∀ value, ¬omissible value) :
    (slot key isRequired reader put).Takes (member key get put spell omissible) where
  key_eq := rfl
  reads value text h := (hreader (get value) text h).map put
  required h value := hrequired h (get value)

structure Layout.Takes (layout : Layout σ) (members : List (Member σ)) : Prop where
  slots : List.Forall₂ Slot.Takes layout.slots members
  keys_nodup : (members.map Member.key).Nodup
  copy_comm : ∀ first ∈ members, ∀ second ∈ members, ∀ value start,
    second.copy value (first.copy value start) = first.copy value (second.copy value start)
  copy_all : ∀ value, members.foldl (fun start member => member.copy value start) layout.blank = value
  copy_omissible : ∀ value, ∀ member ∈ members, member.omissible value →
    member.copy value layout.blank = layout.blank

section Entering
variable {layout : Layout σ} {members shown left : List (Member σ)} {value : σ}

/-- The structure after entering members of another one. -/
def enter (value : σ) (members : List (Member σ)) (start : σ) : σ :=
  members.foldl (fun start member => member.copy value start) start

theorem enter_omissible (h : layout.Takes members) (hleft : ∀ member ∈ left, member ∈ members)
    (homissible : ∀ member ∈ left, member.omissible value) : enter value left layout.blank = layout.blank := by
  induction left with
  | nil => rfl
  | cons member left ih =>
    have first := h.copy_omissible value member (hleft member List.mem_cons_self)
      (homissible member List.mem_cons_self)
    change enter value left (member.copy value layout.blank) = _
    rw [first]
    exact ih (fun other hother => hleft other (List.mem_cons_of_mem _ hother))
      fun other hother => homissible other (List.mem_cons_of_mem _ hother)

/-- Members in any order make the structure, if those that are left out may be. -/
theorem enter_of_perm (h : layout.Takes members) (hperm : members.Perm (left ++ shown))
    (homissible : ∀ member ∈ left, member.omissible value) : enter value shown layout.blank = value := by
  -- What is left out is entered first, into the blank structure, where it changes nothing.
  have all : enter value (left ++ shown) layout.blank = value := by
    rw [enter, ← hperm.foldl_eq' (fun first hfirst second hsecond start =>
      h.copy_comm first hfirst second hsecond value start)]
    exact h.copy_all value
  have none : enter value left layout.blank = layout.blank :=
    enter_omissible h (fun member hmember => hperm.mem_iff.2 (List.mem_append_left _ hmember)) homissible
  rw [enter, List.foldl_append] at all
  rwa [← enter, ← enter, none] at all

end Entering

section Rows
variable {layout : Layout σ} {members shown left : List (Member σ)} {slots : List (Slot σ)} {value start : σ}
  {parts : List (List Char)} {text : List Char}

theorem closeRow_append {gap : List Char} (hgap : Gap gap) (rest : List Char) :
    Layout.closeRow value (gap ++ ']' :: rest) = .ok (value, rest) := by
  simp only [Layout.closeRow, skipGap_cons hgap (show isGap ']' = false by decide)]

theorem readRow_item {slot : Slot σ} {index : Nat} {isFirst : Bool} {s item rest : List Char} {put : σ → σ}
    (hfirst : (index == 0) = isFirst) (hn : nextItem isFirst s = .ok (.item item))
    (hr : slot.reader.run item = .ok (put, rest)) :
    layout.readRow index start (slot :: slots) s = layout.readRow (index + 1) (put start) slots rest := by
  simp only [Layout.readRow, hfirst, hn, hr]

theorem readRow_closed {index : Nat} {gap : List Char} (hgap : Gap gap)
    (htakes : List.Forall₂ Slot.Takes slots left) (hleft : ∀ member ∈ left, member.omissible value)
    (rest : List Char) : layout.readRow index start slots (gap ++ ']' :: rest) = .ok (start, rest) := by
  have free : slots.findIdx? Slot.isRequired = none := by
    rw [List.findIdx?_eq_none_iff]
    intro slot hslot
    obtain ⟨member, hmember, htake⟩ := exists_mem_of_forall₂ htakes.flip hslot
    rw [Bool.eq_false_iff]
    exact fun hrequired => htake.required hrequired value (hleft member hmember)
  cases slots with
  | nil => exact closeRow_append hgap rest
  | cons slot slots => simp only [Layout.readRow, nextItem_closing hgap, free]

theorem Continued.readRow_append (h : Continued parts text) {index : Nat}
    (htakes : List.Forall₂ Slot.Takes slots (shown ++ left))
    (hparts : List.Forall₂ (fun member part => member.spell value part) shown parts)
    (hleft : ∀ member ∈ left, member.omissible value) (rest : List Char) :
    layout.readRow (index + 1) start slots (text ++ ']' :: rest) = .ok (enter value shown start, rest) := by
  induction h generalizing index start slots shown with
  | nil hgap =>
    cases hparts
    exact readRow_closed hgap htakes hleft rest
  | cons hbefore hafter _ ih =>
    cases hparts with
    | cons hpart hparts =>
      cases htakes with
      | cons htake htakes =>
        have reads := htake.reads _ _ hpart
        have later : (index + 1 == 0) = false := rfl
        simp only [List.append_assoc, List.cons_append]
        rw [readRow_item later (nextItem_comma hbefore hafter reads.solid _) (reads.run_start _)]
        exact ih htakes hparts

theorem Joined.readRow_append (h : Joined parts text)
    (htakes : List.Forall₂ Slot.Takes slots (shown ++ left))
    (hparts : List.Forall₂ (fun member part => member.spell value part) shown parts)
    (hleft : ∀ member ∈ left, member.omissible value) (rest : List Char) :
    layout.readRow 0 start slots (text ++ ']' :: rest) = .ok (enter value shown start, rest) := by
  cases h with
  | nil hgap =>
    cases hparts
    exact readRow_closed hgap htakes hleft rest
  | cons hgap more =>
    cases hparts with
    | cons hpart hparts =>
      cases htakes with
      | cons htake htakes =>
        have reads := htake.reads _ _ hpart
        have first : (0 == 0) = true := rfl
        simp only [List.append_assoc]
        rw [readRow_item first (nextItem_first hgap reads.solid _) (reads.run_start _)]
        exact more.readRow_append htakes hparts hleft rest

theorem reads_row (h : layout.Takes members) (htext : RowText members value text) :
    layout.reader.Reads value text := by
  cases htext with
  | @row shown left parts body hmembers hleft hparts hbody =>
    have solid : Solid ('[' :: body ++ [']']) := ⟨'[', _, rfl, by decide⟩
    refine ⟨solid, ?_⟩
    intro gap rest hgap
    have visible := skipGap_solid hgap solid rest
    have perm : members.Perm (left ++ shown) := hmembers ▸ List.perm_append_comm
    have row := @Joined.readRow_append _ layout shown left layout.slots value layout.blank parts body hbody
      (hmembers ▸ h.slots) hparts hleft rest
    rw [enter_of_perm h perm hleft] at row
    simp only [List.append_assoc, List.cons_append, List.nil_append] at visible ⊢
    change layout.read _ = _
    simp only [Layout.read, visible, row]

end Rows

section Objects
variable {layout : Layout σ} {slots : List (Slot σ)} {members : List (Member σ)} {value start : σ}
  {seen : List String}

def memberOf (members : List (Member σ)) (key : String) : Option (Member σ) :=
  members.find? fun member => member.key == key

/-- The structure after entering the member of a key, if the key is one of a member. -/
def enterKey (members : List (Member σ)) (value : σ) (start : σ) (key : String) : σ :=
  match memberOf members key with
  | some member => member.copy value start
  | none => start

theorem find?_slot (h : List.Forall₂ Slot.Takes slots members) (key : String) :
    (slots.find? (fun slot => slot.key == key) = none ∧ memberOf members key = none) ∨
      ∃ slot member, slots.find? (fun slot => slot.key == key) = some slot ∧
        memberOf members key = some member ∧ slot.Takes member := by
  induction h with
  | nil => exact .inl ⟨rfl, rfl⟩
  | @cons slot member slots members htake _ ih =>
    unfold memberOf at ih ⊢
    rw [List.find?_cons, List.find?_cons, htake.key_eq]
    split
    · exact .inr ⟨slot, member, rfl, rfl, htake⟩
    · exact ih

theorem nextKey_closing {gap : List Char} (hgap : Gap gap) (isFirst : Bool) (rest : List Char) :
    Layout.nextKey isFirst (gap ++ '}' :: rest) = .ok (.closed rest) := by
  simp only [Layout.nextKey, skipGap_cons hgap (show isGap '}' = false by decide)]

theorem nextKey_first {gap : List Char} (hgap : Gap gap) (rest : List Char) :
    Layout.nextKey true (gap ++ '"' :: rest) = .ok (.item rest) := by
  simp [Layout.nextKey, skipGap_cons hgap (show isGap '"' = false by decide)]

theorem nextKey_comma {before after : List Char} (hbefore : Gap before) (hafter : Gap after)
    (rest : List Char) : Layout.nextKey false (before ++ ',' :: (after ++ '"' :: rest)) = .ok (.item rest) := by
  simp [Layout.nextKey, skipGap_cons hbefore (show isGap ',' = false by decide),
    skipGap_cons hafter (show isGap '"' = false by decide)]

theorem readMembers_item {isFirst : Bool} {s item member rest : List Char} {key : String} {put : σ → σ}
    (hn : Layout.nextKey isFirst s = .ok (.item item)) (hk : readString item = .ok (key, member))
    (hm : layout.readMember seen key member = .ok (put, rest)) :
    layout.readMembers seen start isFirst s = layout.readMembers (key :: seen) (put start) false rest := by
  rw [Layout.readMembers]
  split
  · next hstop => simp [hn] at hstop
  · next hclosed => simp [hn] at hclosed
  · next hitem =>
    rw [hn, Except.ok.injEq, Next.item.injEq] at hitem
    subst hitem
    split
    · next hstop => simp [hk] at hstop
    · next hkey =>
      rw [hk, Except.ok.injEq, Prod.mk.injEq] at hkey
      obtain ⟨rfl, rfl⟩ := hkey
      split <;> simp_all

theorem memberOf_eq_some {key : String} {member : Member σ} (h : memberOf members key = some member) :
    member ∈ members ∧ member.key = key :=
  ⟨List.mem_of_find?_eq_some h, by simpa using List.find?_some h⟩

theorem memberOf_eq_none {key : String} (h : memberOf members key = none) :
    ∀ member ∈ members, member.key ≠ key := by
  simpa [memberOf] using h

theorem skipColon_append {gap : List Char} (hgap : Gap gap) (rest : List Char) :
    Layout.skipColon (gap ++ ':' :: rest) = .ok rest := by
  simp only [Layout.skipColon, skipGap_cons hgap (show isGap ':' = false by decide)]

/-- What entries say of a structure, when those of some keys have been read. -/
structure Ahead (layout : Layout σ) (members : List (Member σ)) (value : σ) (seen : List String)
    (entries : List (String × List Char)) : Prop where
  known : ∀ entry ∈ entries, ∀ member ∈ members, member.key = entry.1 →
    member.spell value entry.2 ∧ entry.1 ∉ seen
  unknown : ∀ entry ∈ entries, (∀ member ∈ members, member.key ≠ entry.1) → ValueText entry.2
  once : entries.Pairwise fun first second => ∀ member ∈ members, member.key = first.1 →
    member.key ≠ second.1
  complete : ∀ slot ∈ layout.slots, slot.isRequired = true →
    slot.key ∈ seen ∨ ∃ entry ∈ entries, entry.1 = slot.key

theorem Fits.ahead {entries : List (String × List Char)} (h : Fits members value entries)
    (htakes : List.Forall₂ Slot.Takes layout.slots members) : Ahead layout members value [] entries where
  known entry hentry member hmember hkey := ⟨h.known entry hentry member hmember hkey, by simp⟩
  unknown := h.unknown
  once := h.once
  complete slot hslot hrequired := by
    obtain ⟨member, hmember, htake⟩ := exists_mem_of_forall₂ htakes.flip hslot
    rcases h.complete member hmember with omissible | ⟨entry, hentry, hkey⟩
    · exact absurd omissible (htake.required hrequired value)
    · exact .inr ⟨entry, hentry, hkey.trans htake.key_eq⟩

theorem Ahead.tail {entry : String × List Char} {entries : List (String × List Char)}
    (h : Ahead layout members value seen (entry :: entries)) :
    Ahead layout members value (entry.1 :: seen) entries where
  known other hother member hmember hkey := by
    obtain ⟨spell, fresh⟩ := h.known other (List.mem_cons_of_mem _ hother) member hmember hkey
    refine ⟨spell, ?_⟩
    intro hseen
    rcases List.mem_cons.1 hseen with same | hseen
    · exact (List.pairwise_cons.1 h.once).1 other hother member hmember (hkey.trans same) hkey
    · exact fresh hseen
  unknown other hother := h.unknown other (List.mem_cons_of_mem _ hother)
  once := (List.pairwise_cons.1 h.once).2
  complete slot hslot hrequired := by
    rcases h.complete slot hslot hrequired with hseen | ⟨other, hother, hkey⟩
    · exact .inl (List.mem_cons_of_mem _ hseen)
    · rcases List.mem_cons.1 hother with rfl | hother
      · exact .inl (hkey ▸ List.mem_cons_self)
      · exact .inr ⟨other, hother, hkey⟩

theorem readMembers_closed (h : Ahead layout members value seen []) {isFirst : Bool} {s rest : List Char}
    (hn : Layout.nextKey isFirst s = .ok (.closed rest)) :
    layout.readMembers seen start isFirst s = .ok (start, rest) := by
  have complete : layout.slots.find? (fun slot => slot.isRequired && !seen.contains slot.key) = none := by
    rw [List.find?_eq_none]
    intro slot hslot
    simpa using h.complete slot hslot
  rw [Layout.readMembers]
  split
  · next hstop => simp [hn] at hstop
  · next hclosed =>
    rw [hn, Except.ok.injEq, Next.closed.injEq] at hclosed
    simp only [complete, hclosed]
  · next hitem => simp [hn] at hitem

/-- The value of the next key is read, or passed over if the key is not one of a member. -/
theorem readMember_append {entry : String × List Char} {entries : List (String × List Char)}
    (h : Ahead layout members value seen (entry :: entries))
    (htakes : List.Forall₂ Slot.Takes layout.slots members) {before after rest : List Char}
    (hbefore : Gap before) (hafter : Gap after) (hrest : Ends rest) :
    ∃ put, layout.readMember seen entry.1 (before ++ ':' :: (after ++ (entry.2 ++ rest))) = .ok (put, rest) ∧
      ∀ start, put start = enterKey members value start entry.1 := by
  rcases find?_slot htakes entry.1 with ⟨hslot, hmember⟩ | ⟨slot, member, hslot, hmember, htake⟩
  · have other := h.unknown entry List.mem_cons_self (memberOf_eq_none hmember)
    refine ⟨id, ?_, ?_⟩
    · simp only [Layout.readMember, hslot, skipColon_append hbefore, other.skipValue_append hafter hrest]
      rfl
    · intro start
      simp only [enterKey, hmember, id]
  · obtain ⟨mem, hkey⟩ := memberOf_eq_some hmember
    obtain ⟨spell, fresh⟩ := h.known entry List.mem_cons_self member mem hkey
    refine ⟨member.copy value, ?_, ?_⟩
    · have read := (htake.reads value entry.2 spell).run_append after rest hafter
      simp [Layout.readMember, hslot, fresh, skipColon_append hbefore, read]
    · intro start
      simp only [enterKey, hmember]

theorem EntryText.exists_body {entry : String × List Char} {part : List Char} (h : EntryText entry part) :
    ∃ body before after, BodyText entry.1.toList body ∧ Gap before ∧ Gap after ∧
      part = '"' :: (body ++ '"' :: (before ++ ':' :: (after ++ entry.2))) := by
  obtain ⟨key, hkey, hmember⟩ := h
  cases hmember with
  | colon hbefore hafter =>
    cases hkey with
    | quoted hbody => exact ⟨_, _, _, hbody, hbefore, hafter, by simp⟩

/-- One entry is read, after its opening quote has been found. -/
theorem readMembers_entry {entry : String × List Char} {entries : List (String × List Char)}
    (h : Ahead layout members value seen (entry :: entries))
    (htakes : List.Forall₂ Slot.Takes layout.slots members) {part s rest : List Char} {isFirst : Bool}
    (hpart : EntryText entry part) (hrest : Ends rest)
    (hn : ∀ tail, part = '"' :: tail → Layout.nextKey isFirst s = .ok (.item (tail ++ rest))) :
    layout.readMembers seen start isFirst s =
      layout.readMembers (entry.1 :: seen) (enterKey members value start entry.1) false rest := by
  obtain ⟨body, before, after, hbody, hbefore, hafter, hsplit⟩ := hpart.exists_body
  obtain ⟨put, hread, hput⟩ := readMember_append h htakes hbefore hafter hrest
  have next := hn _ hsplit
  simp only [List.append_assoc, List.cons_append] at next
  rw [readMembers_item next (hbody.readString_append _) hread, hput]

theorem Continued.readMembers_append {parts : List (List Char)} {text : List Char}
    {entries : List (String × List Char)} (h : Continued parts text)
    (hparts : List.Forall₂ EntryText entries parts) (ahead : Ahead layout members value seen entries)
    (htakes : List.Forall₂ Slot.Takes layout.slots members) (rest : List Char) :
    layout.readMembers seen start false (text ++ '}' :: rest) =
      .ok ((entries.map Prod.fst).foldl (enterKey members value) start, rest) := by
  -- `Ahead` is what each entry preserves: its key is seen, and the later entries fit what is still to come.
  induction h generalizing seen start entries with
  | nil hgap =>
    cases hparts
    exact readMembers_closed ahead (nextKey_closing hgap false rest)
  | @cons before after part text parts hbefore hafter more ih =>
    cases hparts with
    | cons hpart hparts =>
      simp only [List.append_assoc, List.cons_append]
      rw [readMembers_entry ahead htakes hpart (more.ends_append .object rest)]
      · exact ih hparts ahead.tail
      · rintro tail rfl
        exact nextKey_comma hbefore hafter _

theorem Joined.readMembers_append {parts : List (List Char)} {text : List Char}
    {entries : List (String × List Char)} (h : Joined parts text)
    (hparts : List.Forall₂ EntryText entries parts) (ahead : Ahead layout members value seen entries)
    (htakes : List.Forall₂ Slot.Takes layout.slots members) (rest : List Char) :
    layout.readMembers seen start true (text ++ '}' :: rest) =
      .ok ((entries.map Prod.fst).foldl (enterKey members value) start, rest) := by
  cases h with
  | nil hgap =>
    cases hparts
    exact readMembers_closed ahead (nextKey_closing hgap true rest)
  | cons hgap more =>
    cases hparts with
    | cons hpart hparts =>
      simp only [List.append_assoc]
      rw [readMembers_entry ahead htakes hpart (more.ends_append .object rest)]
      · exact more.readMembers_append hparts ahead.tail htakes rest
      · rintro tail rfl
        exact nextKey_first hgap _

theorem foldl_enterKey (keys : List String) (start : σ) :
    keys.foldl (enterKey members value) start =
      enter value (keys.filterMap (memberOf members)) start := by
  rw [enter, List.foldl_filterMap]
  congr 1
  funext start key
  rw [enterKey]
  cases memberOf members key <;> rfl

theorem memberOf_of_mem (hnodup : (members.map Member.key).Nodup) {member : Member σ}
    (h : member ∈ members) : memberOf members member.key = some member := by
  cases hfound : memberOf members member.key with
  | none => exact absurd rfl (memberOf_eq_none hfound member h)
  | some other =>
    obtain ⟨hother, hkey⟩ := memberOf_eq_some hfound
    rw [List.inj_on_of_nodup_map hnodup hother h hkey]

theorem mem_filterMap_memberOf (hnodup : (members.map Member.key).Nodup) {keys : List String}
    {member : Member σ} :
    member ∈ keys.filterMap (memberOf members) ↔ member ∈ members ∧ member.key ∈ keys := by
  rw [List.mem_filterMap]
  constructor
  · rintro ⟨key, hkey, hfound⟩
    obtain ⟨hmember, rfl⟩ := memberOf_eq_some hfound
    exact ⟨hmember, hkey⟩
  · rintro ⟨hmember, hkey⟩
    exact ⟨member.key, hkey, memberOf_of_mem hnodup hmember⟩

theorem Fits.nodup_filterMap_memberOf {entries : List (String × List Char)} (h : Fits members value entries) :
    ((entries.map Prod.fst).filterMap (memberOf members)).Nodup := by
  rw [List.Nodup, List.pairwise_filterMap, List.pairwise_map]
  refine h.once.imp ?_
  intro first second distinct member hfound other hother same
  obtain ⟨hmember, hfirst⟩ := memberOf_eq_some hfound
  obtain ⟨_, hsecond⟩ := memberOf_eq_some hother
  exact distinct member hmember hfirst (same ▸ hsecond)

/-- The entries of a structure make its members, but for some that may be left out. -/
theorem Fits.exists_perm {entries : List (String × List Char)} (h : Fits members value entries)
    (hnodup : (members.map Member.key).Nodup) :
    ∃ left, members.Perm (left ++ (entries.map Prod.fst).filterMap (memberOf members)) ∧
      ∀ member ∈ left, member.omissible value := by
  let keys := entries.map Prod.fst
  let left := members.filter fun member => !keys.contains member.key
  have mem_left : ∀ member, member ∈ left ↔ member ∈ members ∧ member.key ∉ keys := by
    intro member
    simp [left]
  have nodup : (left ++ keys.filterMap (memberOf members)).Nodup := by
    refine (hnodup.of_map.filter _).append h.nodup_filterMap_memberOf ?_
    intro member hleft hshown
    exact ((mem_left member).1 hleft).2 ((mem_filterMap_memberOf hnodup).1 hshown).2
  refine ⟨left, (List.perm_ext_iff_of_nodup hnodup.of_map nodup).2 ?_, ?_⟩
  · intro member
    rw [List.mem_append, mem_left, mem_filterMap_memberOf hnodup]
    tauto
  · intro member hmember
    obtain ⟨hmember, hkey⟩ := (mem_left member).1 hmember
    refine (h.complete member hmember).resolve_right ?_
    rintro ⟨entry, hentry, same⟩
    exact hkey (same ▸ List.mem_map_of_mem hentry)

theorem reads_object {text : List Char} (h : layout.Takes members) (htext : ObjectText members value text) :
    layout.reader.Reads value text := by
  cases htext with
  | @object entries parts body hfits hparts hbody =>
    have solid : Solid ('{' :: body ++ ['}']) := ⟨'{', _, rfl, by decide⟩
    refine ⟨solid, ?_⟩
    intro gap rest hgap
    have visible := skipGap_solid hgap solid rest
    obtain ⟨left, perm, omissible⟩ := hfits.exists_perm h.keys_nodup
    have entered := enter_of_perm h perm omissible
    have read := @Joined.readMembers_append _ layout members value layout.blank [] parts body entries hbody
      hparts (hfits.ahead h.slots) h.slots rest
    rw [foldl_enterKey, entered] at read
    simp only [List.append_assoc, List.cons_append, List.nil_append] at visible ⊢
    change layout.read _ = _
    simp only [Layout.read, visible, read]

end Objects

/-- A layout reads every text of a structure as that structure. -/
theorem reads_structure {layout : Layout σ} {members : List (Member σ)} (h : layout.Takes members) (value : σ)
    (text : List Char) (htext : StructureText members value text) : layout.reader.Reads value text := by
  rcases htext with htext | htext
  · exact reads_object h htext
  · exact reads_row h htext

end RecordAccess.Json
