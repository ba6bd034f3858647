import Mathlib.Data.List.Basic

namespace CodeUnits

/-!
# Strings of 16-bit code units

A string of code units need not be UTF-16: it can hold a surrogate without its
other half.  Decoding puts the replacement character for each of these, so the
well-formed strings are the ones that encoding the decoded characters restores.
-/

/-- The first half of a surrogate pair. -/
def isLead (unit : UInt16) : Bool :=
  0xD800 ≤ unit.toNat && unit.toNat < 0xDC00

/-- The second half of a surrogate pair. -/
def isTail (unit : UInt16) : Bool :=
  0xDC00 ≤ unit.toNat && unit.toNat < 0xE000

/-- A code unit that stands for no character by itself. -/
def isSurrogate (unit : UInt16) : Bool :=
  isLead unit || isTail unit

/-- U+FFFD, which stands for an unpaired surrogate. -/
def replacement : Char :=
  Char.ofNat 0xFFFD

/-- The character of a surrogate pair. -/
def combine (lead tail : UInt16) : Char :=
  Char.ofNat
    (0x10000 + (lead.toNat - 0xD800) * 0x400 + (tail.toNat - 0xDC00))

/-- The character of a code unit outside any pair. -/
def single (unit : UInt16) : Char :=
  if isSurrogate unit then replacement else Char.ofNat unit.toNat

/-- The characters of a string of code units. -/
def decode : List UInt16 → List Char
  | [] =>
      []
  | [unit] =>
      [single unit]
  | unit :: next :: rest =>
      if isLead unit && isTail next then
        combine unit next :: decode rest
      else
        single unit :: decode (next :: rest)

/-- The code units of a character. -/
def units (char : Char) : List UInt16 :=
  if char.toNat < 0x10000 then
    [UInt16.ofNat char.toNat]
  else
    [UInt16.ofNat (0xD800 + (char.toNat - 0x10000) / 0x400),
      UInt16.ofNat (0xDC00 + (char.toNat - 0x10000) % 0x400)]

/-- The code units of a list of characters. -/
def encode (chars : List Char) : List UInt16 :=
  chars.flatMap units

/-- Every surrogate stands in a pair. -/
def paired : List UInt16 → Bool
  | [] =>
      true
  | [unit] =>
      !isSurrogate unit
  | unit :: next :: rest =>
      if isLead unit && isTail next then
        paired rest
      else
        !isSurrogate unit && paired (next :: rest)

/-! ## One character -/

/-- A character is no surrogate and at most U+10FFFF. -/
theorem char_range (char : Char) :
    char.toNat < 0xD800 ∨
      0xDFFF < char.toNat ∧ char.toNat < 0x110000 :=
  char.valid

/-- The number of the character of a number in range. -/
theorem toNat_ofNat_of_valid
    {number : Nat}
    (valid : number.isValidChar) :
    (Char.ofNat number).toNat = number := by
  rw [Char.ofNat, dif_pos valid]
  rfl

/-- A unit that is no surrogate is no lead surrogate. -/
theorem isLead_of_not_isSurrogate
    {unit : UInt16}
    (plain : isSurrogate unit = false) :
    isLead unit = false :=
  (Bool.or_eq_false_iff.mp plain).1

/-- The code unit of a character that has one. -/
theorem unit_of_small
    {char : Char}
    (small : char.toNat < 0x10000) :
    isSurrogate (UInt16.ofNat char.toNat) = false ∧
      single (UInt16.ofNat char.toNat) = char := by
  have value : (UInt16.ofNat char.toNat).toNat = char.toNat := by
    rw [UInt16.toNat_ofNat']
    omega
  have plain : isSurrogate (UInt16.ofNat char.toNat) = false := by
    have range := char_range char
    simp only [isSurrogate, isLead, isTail, value, Bool.or_eq_false_iff,
      Bool.and_eq_false_iff, decide_eq_false_iff_not]
    omega
  refine ⟨plain, ?_⟩
  rw [single, plain, value]
  exact Char.ofNat_toNat char

/-- The code units of a character that has two. -/
theorem units_of_large
    {char : Char}
    (large : 0x10000 ≤ char.toNat) :
    ∃ lead tail,
      units char = [lead, tail] ∧
        isLead lead = true ∧
        isTail tail = true ∧
        combine lead tail = char := by
  have range := char_range char
  have leadValue :
      (UInt16.ofNat
          (0xD800 + (char.toNat - 0x10000) / 0x400)).toNat =
        0xD800 + (char.toNat - 0x10000) / 0x400 := by
    rw [UInt16.toNat_ofNat']
    omega
  have tailValue :
      (UInt16.ofNat
          (0xDC00 + (char.toNat - 0x10000) % 0x400)).toNat =
        0xDC00 + (char.toNat - 0x10000) % 0x400 := by
    rw [UInt16.toNat_ofNat']
    omega
  refine ⟨_, _, by rw [units, if_neg (Nat.not_lt_of_le large)], ?_, ?_, ?_⟩
  · simp only [isLead, leadValue, Bool.and_eq_true, decide_eq_true_eq]
    omega
  · simp only [isTail, tailValue, Bool.and_eq_true, decide_eq_true_eq]
    omega
  · have joined :
        0x10000 + (0xD800 + (char.toNat - 0x10000) / 0x400 - 0xD800) *
            0x400 +
            (0xDC00 + (char.toNat - 0x10000) % 0x400 - 0xDC00) =
          char.toNat := by
      omega
    rw [combine, leadValue, tailValue, joined]
    exact Char.ofNat_toNat char

/-- A unit that is no surrogate is the encoding of its character. -/
theorem units_single
    {unit : UInt16}
    (plain : isSurrogate unit = false) :
    units (single unit) = [unit] := by
  have bounded := unit.toNat_lt
  have valid : unit.toNat.isValidChar := by
    simp only [isSurrogate, isLead, isTail, Bool.or_eq_false_iff,
      Bool.and_eq_false_iff, decide_eq_false_iff_not] at plain
    simp only [Nat.isValidChar]
    omega
  have value := toNat_ofNat_of_valid valid
  rw [single, plain]
  show units (Char.ofNat unit.toNat) = [unit]
  rw [units, value, if_pos (by omega), UInt16.ofNat_toNat]

/-- A surrogate pair is the encoding of its character. -/
theorem units_combine
    {lead tail : UInt16}
    (isLeading : isLead lead = true)
    (isTrailing : isTail tail = true) :
    units (combine lead tail) = [lead, tail] := by
  simp only [isLead, Bool.and_eq_true, decide_eq_true_eq] at isLeading
  simp only [isTail, Bool.and_eq_true, decide_eq_true_eq] at isTrailing
  have valid :
      (0x10000 + (lead.toNat - 0xD800) * 0x400 +
        (tail.toNat - 0xDC00)).isValidChar := by
    simp only [Nat.isValidChar]
    omega
  have leading :
      0xD800 + (0x10000 + (lead.toNat - 0xD800) * 0x400 +
        (tail.toNat - 0xDC00) - 0x10000) / 0x400 = lead.toNat := by
    omega
  have trailing :
      0xDC00 + (0x10000 + (lead.toNat - 0xD800) * 0x400 +
        (tail.toNat - 0xDC00) - 0x10000) % 0x400 = tail.toNat := by
    omega
  rw [units, combine, toNat_ofNat_of_valid valid,
    if_neg (by omega), leading, trailing, UInt16.ofNat_toNat,
    UInt16.ofNat_toNat]

/-! ## Strings -/

/-- A unit that starts no pair is decoded by itself. -/
theorem decode_cons
    {unit : UInt16}
    (notLead : isLead unit = false)
    (rest : List UInt16) :
    decode (unit :: rest) = single unit :: decode rest := by
  cases rest with
  | nil =>
      rfl
  | cons next rest =>
      rw [decode, notLead, Bool.false_and, if_neg Bool.false_ne_true]

/-- A unit that is no surrogate leaves the pairs to the rest. -/
theorem paired_cons
    {unit : UInt16}
    (plain : isSurrogate unit = false)
    (rest : List UInt16) :
    paired (unit :: rest) = paired rest := by
  cases rest with
  | nil =>
      rw [paired, paired, plain]
      rfl
  | cons next rest =>
      rw [paired, isLead_of_not_isSurrogate plain, plain,
        Bool.false_and, if_neg Bool.false_ne_true]
      rfl

/-- The code units of a character in front are decoded to it. -/
theorem decode_units_append
    (char : Char)
    (rest : List UInt16) :
    decode (units char ++ rest) = char :: decode rest := by
  by_cases small : char.toNat < 0x10000
  · obtain ⟨plain, same⟩ := unit_of_small small
    rw [units, if_pos small, List.singleton_append,
      decode_cons (isLead_of_not_isSurrogate plain), same]
  · obtain ⟨lead, tail, shape, isLeading, isTrailing, same⟩ :=
      units_of_large (Nat.le_of_not_lt small)
    rw [shape]
    show decode (lead :: tail :: rest) = _
    rw [decode, isLeading, isTrailing, Bool.and_self, if_pos rfl, same]

/-- The code units of a character in front are paired. -/
theorem paired_units_append
    (char : Char)
    (rest : List UInt16) :
    paired (units char ++ rest) = paired rest := by
  by_cases small : char.toNat < 0x10000
  · rw [units, if_pos small, List.singleton_append,
      paired_cons (unit_of_small small).1]
  · obtain ⟨lead, tail, shape, isLeading, isTrailing, _⟩ :=
      units_of_large (Nat.le_of_not_lt small)
    rw [shape]
    show paired (lead :: tail :: rest) = _
    rw [paired, isLeading, isTrailing, Bool.and_self, if_pos rfl]

@[simp] theorem encode_cons
    (char : Char)
    (chars : List Char) :
    encode (char :: chars) = units char ++ encode chars :=
  List.flatMap_cons

/-- Decoding what was encoded gives the characters. -/
theorem decode_encode (chars : List Char) :
    decode (encode chars) = chars := by
  induction chars with
  | nil =>
      rfl
  | cons char chars inductionHypothesis =>
      rw [encode_cons, decode_units_append, inductionHypothesis]

/-- What was encoded is paired. -/
theorem paired_encode (chars : List Char) :
    paired (encode chars) = true := by
  induction chars with
  | nil =>
      rfl
  | cons char chars inductionHypothesis =>
      rw [encode_cons, paired_units_append, inductionHypothesis]

/-- Encoding what was decoded gives the paired strings back. -/
theorem encode_decode
    {string : List UInt16}
    (wellFormed : paired string = true) :
    encode (decode string) = string := by
  fun_induction decode string with
  | case1 =>
      rfl
  | case2 unit =>
      have plain : isSurrogate unit = false := by
        simpa [paired] using wellFormed
      rw [encode_cons, units_single plain]
      rfl
  | case3 unit next rest pair inductionHypothesis =>
      obtain ⟨isLeading, isTrailing⟩ := Bool.and_eq_true_iff.mp pair
      rw [paired, if_pos pair] at wellFormed
      rw [encode_cons, units_combine isLeading isTrailing,
        inductionHypothesis wellFormed]
      rfl
  | case4 unit next rest noPair inductionHypothesis =>
      rw [paired, if_neg noPair] at wellFormed
      obtain ⟨plain, restPaired⟩ := Bool.and_eq_true_iff.mp wellFormed
      rw [encode_cons, units_single (by simpa using plain),
        inductionHypothesis restPaired]
      rfl

/-- Joining at a place that splits no pair joins the pairs. -/
theorem paired_append
    (front : List UInt16)
    {unit : UInt16}
    (notTail : isTail unit = false)
    (rest : List UInt16) :
    paired (front ++ unit :: rest) =
      (paired front && paired (unit :: rest)) := by
  fun_induction paired front with
  | case1 =>
      rfl
  | case2 last =>
      show paired (last :: unit :: rest) = _
      rw [paired, notTail, Bool.and_false, if_neg Bool.false_ne_true]
  | case3 first next more pair inductionHypothesis =>
      show paired (first :: next :: (more ++ unit :: rest)) = _
      rw [paired, if_pos pair, inductionHypothesis]
  | case4 first next more noPair inductionHypothesis =>
      show paired (first :: next :: (more ++ unit :: rest)) = _
      rw [paired, if_neg noPair, Bool.and_assoc, ← inductionHypothesis]
      rfl

/-- Joining at a place that splits no pair joins the decoded characters. -/
theorem decode_append
    (front : List UInt16)
    {unit : UInt16}
    (notTail : isTail unit = false)
    (rest : List UInt16) :
    decode (front ++ unit :: rest) =
      decode front ++ decode (unit :: rest) := by
  fun_induction decode front with
  | case1 =>
      rfl
  | case2 last =>
      show decode (last :: unit :: rest) = _
      rw [decode, notTail, Bool.and_false, if_neg Bool.false_ne_true]
      rfl
  | case3 first next more pair inductionHypothesis =>
      show decode (first :: next :: (more ++ unit :: rest)) = _
      rw [decode, if_pos pair, inductionHypothesis]
      rfl
  | case4 first next more noPair inductionHypothesis =>
      show decode (first :: next :: (more ++ unit :: rest)) = _
      rw [decode, if_neg noPair]
      exact congrArg (single first :: ·) inductionHypothesis

/-- Only the null character has a null unit. -/
theorem zero_mem_units_iff (char : Char) :
    0 ∈ units char ↔ char.toNat = 0 := by
  by_cases small : char.toNat < 0x10000
  · rw [units, if_pos small, List.mem_singleton, ← UInt16.toNat_inj,
      UInt16.toNat_ofNat', Nat.mod_eq_of_lt small]
    exact eq_comm
  · obtain ⟨lead, tail, shape, isLeading, isTrailing, _⟩ :=
      units_of_large (Nat.le_of_not_lt small)
    have notLead : (0 : UInt16) ≠ lead := by
      rintro rfl
      exact absurd isLeading (by decide)
    have notTail : (0 : UInt16) ≠ tail := by
      rintro rfl
      exact absurd isTrailing (by decide)
    have nonzero : char.toNat ≠ 0 := by
      omega
    simp [shape, notLead, notTail, nonzero]

/-- An encoding has a null unit exactly for a null character. -/
theorem zero_mem_encode_iff (chars : List Char) :
    0 ∈ encode chars ↔ ∃ char ∈ chars, char.toNat = 0 := by
  simp only [encode, List.mem_flatMap, zero_mem_units_iff]

/-- The character of a surrogate pair is not the null character. -/
theorem toNat_combine_ne_zero
    {lead tail : UInt16}
    (isLeading : isLead lead = true)
    (isTrailing : isTail tail = true) :
    (combine lead tail).toNat ≠ 0 := by
  intro zero
  have null := (zero_mem_units_iff (combine lead tail)).mpr zero
  rw [units_combine isLeading isTrailing] at null
  rcases List.mem_pair.mp null with isLeadNull | isTailNull
  · rw [← isLeadNull] at isLeading
    exact absurd isLeading (by decide)
  · rw [← isTailNull] at isTrailing
    exact absurd isTrailing (by decide)

/-- Only the null unit by itself stands for the null character. -/
theorem eq_zero_of_single
    {unit : UInt16}
    (zero : (single unit).toNat = 0) :
    unit = 0 := by
  cases surrogate : isSurrogate unit with
  | true =>
      rw [single, surrogate, if_pos rfl] at zero
      exact absurd zero (by decide)
  | false =>
      have null := (zero_mem_units_iff (single unit)).mpr zero
      rw [units_single surrogate] at null
      exact (List.mem_singleton.mp null).symm

/-- A string is decoded to a null character only where it has a null unit. -/
theorem zero_mem_of_decode
    {string : List UInt16}
    {char : Char}
    (member : char ∈ decode string)
    (zero : char.toNat = 0) :
    0 ∈ string := by
  fun_induction decode string with
  | case1 =>
      cases member
  | case2 unit =>
      obtain rfl := List.mem_singleton.mp member
      rw [eq_zero_of_single zero]
      exact List.mem_cons_self
  | case3 unit next rest pair inductionHypothesis =>
      obtain ⟨isLeading, isTrailing⟩ := Bool.and_eq_true_iff.mp pair
      rcases List.mem_cons.mp member with isPair | later
      · rw [isPair] at zero
        exact (toNat_combine_ne_zero isLeading isTrailing zero).elim
      · exact
          List.mem_cons_of_mem unit
            (List.mem_cons_of_mem next (inductionHypothesis later))
  | case4 unit next rest noPair inductionHypothesis =>
      rcases List.mem_cons.mp member with rfl | later
      · rw [eq_zero_of_single zero]
        exact List.mem_cons_self
      · exact List.mem_cons_of_mem unit (inductionHypothesis later)

end CodeUnits
