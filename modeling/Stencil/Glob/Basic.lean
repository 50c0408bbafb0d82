import Stencil.Error

/-! Patterns of file names.

A question mark stands for any character, a star for any characters, and brackets for one of some
characters, or for none of them if an exclamation mark comes first. Two stars, as a whole component
of a path, stand for any number of directories. -/

namespace Stencil.Glob

/-- Some characters: one, or all from one to another. -/
inductive Range where
  | single (c : Char)
  | span (first last : Char)
deriving DecidableEq, Repr

/-- Whether a character is among some characters. -/
def Range.contains : Range → Char → Bool
  | .single a, c => a == c
  | .span first last, c => decide (first ≤ c ∧ c ≤ last)

/-- One part of a pattern. -/
inductive Token where
  | char (c : Char)
  | anyChar
  | anyText
  | anyDirs
  | within (ranges : List Range)
  | except (ranges : List Range)
deriving DecidableEq, Repr

/-- The ranges that are written between brackets. -/
def ranges : List Char → List Range
  | a :: '-' :: b :: rest => .span a b :: ranges rest
  | a :: rest => .single a :: ranges rest
  | [] => []

/-- Splits what follows a bracket at the bracket that closes it. The first character belongs to the
ranges, whatever it is. -/
def splitClass : List Char → Option (List Char × List Char)
  | [] => none
  | a :: rest =>
    match rest.dropWhile (· != ']') with
    | _ :: after => some (a :: rest.takeWhile (· != ']'), after)
    | [] => none

/-- Reads a class behind its opening bracket. -/
def readClass (cs : List Char) : Option (Token × List Char) :=
  match cs with
  | '!' :: rest => (splitClass rest).map fun s => (.except (ranges s.1), s.2)
  | _ => (splitClass cs).map fun s => (.within (ranges s.1), s.2)

theorem splitClass_length {cs inside after : List Char} (h : splitClass cs = some (inside, after)) :
    after.length < cs.length := by
  cases cs with
  | nil => simp [splitClass] at h
  | cons a rest =>
    simp only [splitClass] at h
    have hle := (List.dropWhile_suffix (l := rest) (· != ']')).length_le
    split at h
    · rename_i b tail heq
      simp only [Option.some.injEq, Prod.mk.injEq] at h
      rw [heq] at hle
      simp only [List.length_cons] at hle ⊢
      rw [← h.2]
      omega
    · simp at h

theorem readClass_length {cs after : List Char} {t : Token} (h : readClass cs = some (t, after)) :
    after.length < cs.length := by
  unfold readClass at h
  split at h
  · obtain ⟨⟨inside, rest⟩, hs, he⟩ := Option.map_eq_some_iff.1 h
    simp only [Prod.mk.injEq] at he
    have := splitClass_length hs
    rw [← he.2, List.length_cons]
    exact Nat.lt_succ_of_lt this
  · obtain ⟨⟨inside, rest⟩, hs, he⟩ := Option.map_eq_some_iff.1 h
    simp only [Prod.mk.injEq] at he
    rw [← he.2]
    exact splitClass_length hs

/-- Reads a pattern from the character at `position`, before which `previous` stands. -/
def tokensFrom (position : Nat) (previous : Option Char) : List Char → Except Error (List Token)
  | [] => .ok []
  | '?' :: rest => do return .anyChar :: (← tokensFrom (position + 1) '?' rest)
  | '[' :: rest =>
    match h : readClass rest with
    | none => .error (.pattern position .badRange)
    | some (t, after) =>
      have := readClass_length h
      do return t :: (← tokensFrom (position + 1 + rest.length - after.length) ']' after)
  | '*' :: '*' :: '*' :: _ => .error (.pattern (position + 2) .wildcardRun)
  | '*' :: '*' :: rest =>
    if previous == none || previous == some '/' then
      match rest with
      | [] => .ok [.anyDirs]
      | '/' :: after => do return .anyDirs :: (← tokensFrom (position + 3) '/' after)
      | _ => .error (.pattern (position + 2) .partialRecursion)
    else .error (.pattern (position - 1) .partialRecursion)
  | '*' :: rest => do return .anyText :: (← tokensFrom (position + 1) '*' rest)
  | c :: rest => do return .char c :: (← tokensFrom (position + 1) c rest)
termination_by cs => cs.length

/-- Reads a pattern. -/
def tokens (cs : List Char) : Except Error (List Token) := tokensFrom 0 none cs

/-- Whether a part of a pattern that stands for one character stands for this one. -/
def Token.accepts : Token → Char → Bool
  | .char a, c => a == c
  | .anyChar, _ => true
  | .within rs, c => rs.any (·.contains c)
  | .except rs, c => !rs.any (·.contains c)
  | .anyText, _ => false
  | .anyDirs, _ => false

/-- Whether a pattern stands for a text. -/
def isMatch : List Token → List Char → Bool
  | [], cs => cs.isEmpty
  | .anyText :: ts, [] => isMatch ts []
  | .anyText :: ts, c :: cs => isMatch ts (c :: cs) || isMatch (.anyText :: ts) cs
  | _ :: _, [] => false
  | t :: ts, c :: cs => t.accepts c && isMatch ts cs
termination_by ts cs => ts.length + cs.length

/-- A pattern that stands for the given text alone. -/
def escape (s : String) : String :=
  .ofList (s.toList.flatMap fun c =>
    if c == '?' || c == '*' || c == '[' || c == ']' then ['[', c, ']'] else [c])

end Stencil.Glob
