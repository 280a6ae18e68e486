import WncFirmware.Foundation.Bytes

/-!
# Formatted input

The part of `sscanf` that `%d`, literal characters and `%*s` need.  The result
is the list of the converted numbers; the return value of `sscanf` is its
length.  A number that an `int` cannot hold has no defined meaning in C; here it
is stored modulo `2 ^ 32`.
-/

namespace WncFirmware.Foundation

inductive Directive where
  | int
  | literal (char : UInt8)
  | skipWord
  deriving DecidableEq, Repr

def isSpace (char : UInt8) : Bool :=
  char == 32 || (9 ≤ char && char ≤ 13)

def isDigit (char : UInt8) : Bool := 48 ≤ char && char ≤ 57

def digitsValue (digits : Bytes) : Nat :=
  digits.foldl (fun value digit => value * 10 + (digit.toNat - 48)) 0

def scanSign : Bytes → Bool × Bytes
  | 45 :: text => (true, text)
  | 43 :: text => (false, text)
  | text => (false, text)

/-- The `%d` conversion: white space, an optional sign, at least one digit. -/
def scanInt (text : Bytes) : Option (Int32 × Bytes) :=
  let signed := scanSign (text.dropWhile isSpace)
  let digits := signed.2.takeWhile isDigit
  if digits = [] then none
  else
    let magnitude : Int := digitsValue digits
    some (Int32.ofInt (if signed.1 then -magnitude else magnitude),
      signed.2.dropWhile isDigit)

theorem isDigit_iff (char : UInt8) :
    isDigit char = true ↔ 48 ≤ char.toNat ∧ char.toNat ≤ 57 := by
  simp [isDigit, UInt8.le_iff_toNat_le]

theorem isSpace_of_isDigit {char : UInt8} (h : isDigit char = true) :
    isSpace char = false := by
  rw [isDigit_iff] at h
  simp only [isSpace, Bool.or_eq_false_iff, beq_eq_false_iff_ne, ne_eq,
    Bool.and_eq_false_iff, decide_eq_false_iff_not, UInt8.le_iff_toNat_le,
    ← UInt8.toNat_inj, UInt8.reduceToNat]
  omega

theorem scanSign_of_isDigit {first : UInt8} (others : Bytes)
    (h : isDigit first = true) :
    scanSign (first :: others) = (false, first :: others) := by
  unfold scanSign
  split
  · next heq =>
      rw [(List.cons.inj heq).1] at h
      exact absurd h (by decide)
  · next heq =>
      rw [(List.cons.inj heq).1] at h
      exact absurd h (by decide)
  · rfl

theorem scanInt_digits {digits rest : Bytes} (hne : digits ≠ [])
    (hdigits : ∀ digit ∈ digits, isDigit digit = true)
    (hrest : ∀ first ∈ rest.head?, isDigit first = false) :
    scanInt (digits ++ rest) =
      some (Int32.ofInt (digitsValue digits), rest) := by
  obtain ⟨first, others, rfl⟩ := List.exists_cons_of_ne_nil hne
  have hfirst := hdigits first List.mem_cons_self
  have hend : rest.takeWhile isDigit = [] ∧ rest.dropWhile isDigit = rest := by
    cases rest with
    | nil => exact ⟨rfl, rfl⟩
    | cons next rest => simp [hrest next rfl]
  have hspace : (first :: others ++ rest).dropWhile isSpace =
      first :: (others ++ rest) :=
    List.dropWhile_cons_of_neg (by simp [isSpace_of_isDigit hfirst])
  rw [scanInt, hspace, scanSign_of_isDigit _ hfirst, ← List.cons_append]
  simp only [List.takeWhile_append_of_pos hdigits,
    List.dropWhile_append_of_pos hdigits, hend.1, hend.2, List.append_nil]
  simp

def sscanf (text : Bytes) : List Directive → List Int32
  | [] => []
  | .int :: directives =>
      match scanInt text with
      | none => []
      | some (number, rest) => number :: sscanf rest directives
  | .literal char :: directives =>
      match text with
      | [] => []
      | first :: rest => if first = char then sscanf rest directives else []
  | .skipWord :: directives =>
      let word := text.dropWhile isSpace
      if word = [] then []
      else sscanf (word.dropWhile fun char => !isSpace char) directives

end WncFirmware.Foundation
