import RecordAccess.Json.Numeral

/-!
# Passing over values

A value that nobody wants is passed over. It has to be well formed, but its numbers may be of any size,
its strings may hold halves of characters, and it may be nested to any depth: the brackets that are open
are kept in a list.
-/
namespace RecordAccess.Json

open Number

inductive Bracket where
  | array
  | object
  deriving DecidableEq, Repr

def skipKey (s : List Char) : Except Stop (List Char) :=
  match skipGap s with
  | [] => endOfText
  | '"' :: rest =>
    match skipString rest with
    | .error stop => .error stop
    | .ok rest =>
      match skipGap rest with
      | [] => endOfText
      | ':' :: rest => .ok rest
      | rest => malformed rest
  | rest => malformed rest

/-- Passes over a value that is no array and no object. -/
def skipScalar : List Char → Except Stop (List Char)
  | [] => endOfText
  | 'n' :: rest => skipWord "ull".toList rest
  | 't' :: rest => skipWord "rue".toList rest
  | 'f' :: rest => skipWord "alse".toList rest
  | '"' :: rest => skipString rest
  | '-' :: rest => skipNumber rest
  | c :: rest => if isDigit c then skipNumber (c :: rest) else malformed (c :: rest)

theorem length_of_skipKey {s rest : List Char} (h : skipKey s = .ok rest) :
    rest.length < s.length := by
  unfold skipKey at h
  split at h
  · simp [endOfText] at h
  · next tail hs =>
    have := length_of_skipGap hs
    split at h
    · simp at h
    · next after ha =>
      have := length_of_skipString ha
      split at h
      · simp [endOfText] at h
      · next hc =>
        have := length_of_skipGap hc
        simp only [Except.ok.injEq] at h
        rw [← h]
        omega
      · simp [malformed] at h
  · simp [malformed] at h

theorem length_of_skipScalar {s rest : List Char} (h : skipScalar s = .ok rest) :
    rest.length < s.length := by
  unfold skipScalar at h
  split at h
  · simp [endOfText] at h
  · exact Nat.lt_succ_of_le (length_of_skipWord h)
  · exact Nat.lt_succ_of_le (length_of_skipWord h)
  · exact Nat.lt_succ_of_le (length_of_skipWord h)
  · exact Nat.lt_succ_of_lt (length_of_skipString h)
  · exact Nat.lt_succ_of_lt (length_of_skipNumber h)
  · split at h
    · exact length_of_skipNumber h
    · simp [malformed] at h

inductive Awaited where
  /-- A value. -/
  | value
  /-- What follows a value inside its brackets. -/
  | follower
  deriving DecidableEq, Repr

/-- Passes over text up to the end of the value whose brackets are `opened`, the innermost first. -/
def skip (opened : List Bracket) (awaited : Awaited) (s : List Char) : Except Stop (List Char) :=
  match awaited, opened with
  | .follower, [] => .ok s
  | .follower, .array :: outer =>
    match _hs : skipGap s with
    | [] => endOfText
    | ']' :: rest => skip outer .follower rest
    | ',' :: rest => skip (.array :: outer) .value rest
    | rest => malformed rest
  | .follower, .object :: outer =>
    match _hs : skipGap s with
    | [] => endOfText
    | '}' :: rest => skip outer .follower rest
    | ',' :: rest =>
      match _hk : skipKey rest with
      | .error stop => .error stop
      | .ok rest => skip (.object :: outer) .value rest
    | rest => malformed rest
  | .value, opened =>
    match _hs : skipGap s with
    | '[' :: rest =>
      match _hr : skipGap rest with
      | ']' :: rest => skip opened .follower rest
      | _ => skip (.array :: opened) .value rest
    | '{' :: rest =>
      match _hr : skipGap rest with
      | '}' :: rest => skip opened .follower rest
      | _ =>
        match _hk : skipKey rest with
        | .error stop => .error stop
        | .ok rest => skip (.object :: opened) .value rest
    | rest =>
      match _hv : skipScalar rest with
      | .error stop => .error stop
      | .ok rest => skip opened .follower rest
termination_by s.length
decreasing_by
  · exact length_of_skipGap _hs
  · exact length_of_skipGap _hs
  · exact length_of_skipGap _hs
  · exact Nat.lt_trans (length_of_skipKey _hk) (length_of_skipGap _hs)
  · exact Nat.lt_trans (length_of_skipGap _hr) (length_of_skipGap _hs)
  · exact length_of_skipGap _hs
  · exact Nat.lt_trans (length_of_skipGap _hr) (length_of_skipGap _hs)
  · exact Nat.lt_trans (length_of_skipKey _hk) (length_of_skipGap _hs)
  · have := length_skipGap s
    rw [_hs] at this
    have := length_of_skipScalar _hv
    omega

def skipValue (s : List Char) : Except Stop (List Char) := skip [] .value s

theorem length_of_skip {opened : List Bracket} {awaited : Awaited} {s rest : List Char}
    (h : skip opened awaited s = .ok rest) : rest.length ≤ s.length := by
  fun_induction skip opened awaited s with
  | case1 =>
    simp only [Except.ok.injEq] at h
    simp [← h]
  | case2 | case6 => simp [endOfText] at h
  | case5 | case10 => simp [malformed] at h
  | case8 | case14 | case16 => simp at h
  | case3 _ _ _ hs ih | case4 _ _ _ hs ih | case7 _ _ _ hs ih | case12 _ _ _ hs _ ih =>
    exact Nat.le_of_lt (Nat.lt_of_le_of_lt (ih h) (length_of_skipGap hs))
  | case9 _ _ _ hs _ hk ih | case15 _ _ _ hs _ hk _ ih =>
    have := length_of_skipGap hs
    have := length_of_skipKey hk
    have := ih h
    omega
  | case11 _ _ _ hs _ hr ih | case13 _ _ _ hs _ hr ih =>
    have := length_of_skipGap hs
    have := length_of_skipGap hr
    have := ih h
    omega
  | case17 s _ _ _ _ hk ih =>
    have := length_skipGap s
    have := length_of_skipScalar hk
    have := ih h
    omega

theorem length_of_skipValue {s rest : List Char} (h : skipValue s = .ok rest) :
    rest.length ≤ s.length := length_of_skip h

end RecordAccess.Json
