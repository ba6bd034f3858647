import PqForgeFfi.CodeUnits.Utf16
import PqForgeFfi.StreamFile
import Mathlib.Data.List.TakeWhile

namespace PqForgeFfi.PathStrings

open CodeUnits

/-!
# Dart strings as paths

A Dart `String` is any list of UTF-16 code units.  `_cString` writes its UTF-8
form into a buffer, of which `cstr_path` reads what stands up to the first NUL,
and `File` hands the same UTF-8 form to the operating system.  Without a NUL in
the string both are the path of its decoded characters.
-/

/-- A Dart `String`. -/
abbrev DartString : Type :=
  List UInt16

/-- `utf8.encode`: an unpaired surrogate becomes U+FFFD. -/
def utf8Encode (s : DartString) : Bytes :=
  (decode s).flatMap String.utf8EncodeChar

/-- `_cString`: the bytes of the buffer, whose terminator is zero-filled. -/
def cString (s : DartString) : Bytes :=
  utf8Encode s ++ [0]

/-- `CStr::from_ptr`: the bytes of a buffer up to the first NUL. -/
def cStrFromPtr (buffer : Bytes) : Bytes :=
  buffer.takeWhile (· ≠ 0)

/-- The path that native code obtains from a Dart string. -/
def nativePath (s : DartString) : Except PqForgeError String :=
  StreamFile.cstrPath (cStrFromPtr (cString s))

/-- The path that `File` hands to the operating system. -/
def filePath (s : DartString) : String :=
  String.ofList (decode s)

/-- `'$outputPath.pqforge-tmp'`. -/
def tmpPath (outputPath : DartString) : DartString :=
  outputPath ++ encode ".pqforge-tmp".toList

/-- The string has no embedded NUL. -/
def NoNul (s : DartString) : Prop :=
  0 ∉ s

instance (s : DartString) : Decidable (NoNul s) :=
  inferInstanceAs (Decidable (0 ∉ s))

/-- The character is not NUL. -/
def notNul (char : Char) : Bool :=
  char.toNat ≠ 0

/-! ## The bytes up to the first NUL -/

/-- NUL is one zero byte. -/
theorem utf8EncodeChar_of_nul
    {char : Char}
    (nul : notNul char = false) :
    String.utf8EncodeChar char = [0] := by
  have number : char.val.toNat = 0 := by
    simpa [notNul] using nul
  rw [String.utf8EncodeChar, number]
  rfl

/-- A number that is a nonzero byte is not written as a zero byte. -/
theorem ofNat_ne_zero
    {number : Nat}
    (positive : 0 < number)
    (bounded : number < 256) :
    decide (UInt8.ofNat number ≠ 0) = true := by
  rw [decide_eq_true_iff, ne_eq, ← UInt8.toNat_inj, UInt8.toNat_ofNat']
  show ¬ number % 256 = 0
  omega

/-- No byte of a character other than NUL is zero. -/
theorem utf8EncodeChar_ne_zero
    {char : Char}
    (other : notNul char = true) :
    ∀ byte ∈ String.utf8EncodeChar char,
      decide (byte ≠ 0) = true := by
  have number : char.val.toNat ≠ 0 := by
    simpa [notNul] using other
  rw [String.utf8EncodeChar]
  generalize char.val.toNat = code at number
  split
  · intro byte member
    obtain rfl := List.mem_singleton.mp member
    exact ofNat_ne_zero (by omega) (by omega)
  · split
    · simp only [List.forall_mem_cons, List.not_mem_nil]
      refine ⟨ofNat_ne_zero ?_ ?_, ofNat_ne_zero ?_ ?_, by simp⟩ <;> omega
    · split
      · simp only [List.forall_mem_cons, List.not_mem_nil]
        refine ⟨ofNat_ne_zero ?_ ?_, ofNat_ne_zero ?_ ?_,
          ofNat_ne_zero ?_ ?_, by simp⟩ <;> omega
      · simp only [List.forall_mem_cons, List.not_mem_nil]
        refine ⟨ofNat_ne_zero ?_ ?_, ofNat_ne_zero ?_ ?_,
          ofNat_ne_zero ?_ ?_, ofNat_ne_zero ?_ ?_, by simp⟩ <;> omega

/-- Up to the first NUL of a buffer stand the characters up to the first NUL. -/
theorem cStrFromPtr_utf8 (chars : List Char) :
    cStrFromPtr (chars.flatMap String.utf8EncodeChar ++ [0]) =
      (chars.takeWhile notNul).flatMap String.utf8EncodeChar := by
  induction chars with
  | nil =>
      rfl
  | cons char chars inductionHypothesis =>
      rw [cStrFromPtr] at inductionHypothesis ⊢
      rw [List.flatMap_cons, List.append_assoc]
      cases isNul : notNul char with
      | true =>
          rw [List.takeWhile_append_of_pos (utf8EncodeChar_ne_zero isNul),
            inductionHypothesis, List.takeWhile_cons_of_pos isNul,
            List.flatMap_cons]
      | false =>
          rw [utf8EncodeChar_of_nul isNul,
            List.takeWhile_cons_of_neg (by simp [isNul])]
          rfl

/-- Native code reads the UTF-8 form of characters as those characters. -/
theorem cstrPath_utf8 (chars : List Char) :
    StreamFile.cstrPath (chars.flatMap String.utf8EncodeChar) =
      .ok (String.ofList chars) := by
  have bytes :
      ByteArray.mk (chars.flatMap String.utf8EncodeChar).toArray =
        (String.ofList chars).toByteArray := by
    rw [String.toByteArray_ofList, List.utf8Encode]
    exact ByteArray.ext List.data_toByteArray.symm
  have decoded :
      String.fromUTF8? (String.ofList chars).toByteArray =
        some (String.ofList chars) := by
    rw [String.fromUTF8?, dif_pos (String.ofList chars).isValidUTF8]
    rfl
  rw [StreamFile.cstrPath, bytes, decoded]

/-- Native code obtains the decoded characters up to the first NUL. -/
theorem nativePath_eq (s : DartString) :
    nativePath s =
      .ok (String.ofList ((decode s).takeWhile notNul)) := by
  rw [nativePath, cString, utf8Encode, cStrFromPtr_utf8, cstrPath_utf8]

/-! ## Strings without a NUL -/

/-- Without a NUL in a string there is none in its decoded characters. -/
theorem notNul_of_mem_decode
    {s : DartString}
    (noNul : NoNul s)
    {char : Char}
    (member : char ∈ decode s) :
    notNul char = true :=
  decide_eq_true fun zero => noNul (zero_mem_of_decode member zero)

/-- Native code obtains the path that `File` uses, if there is no NUL in it. -/
theorem nativePath_of_noNul
    {s : DartString}
    (noNul : NoNul s) :
    nativePath s = .ok (filePath s) := by
  have whole : (decode s).takeWhile notNul = decode s :=
    List.takeWhile_eq_self_iff.mpr fun _ => notNul_of_mem_decode noNul
  rw [nativePath_eq, whole, filePath]

/-- The suffix of a temporary path begins with a dot. -/
theorem suffix_eq :
    encode ".pqforge-tmp".toList =
      0x2E :: encode "pqforge-tmp".toList := by
  decide

/-- The temporary path has no NUL where the output path has none. -/
theorem noNul_tmpPath
    {outputPath : DartString}
    (noNul : NoNul outputPath) :
    NoNul (tmpPath outputPath) := by
  have suffix : (0 : UInt16) ∉ encode ".pqforge-tmp".toList := by
    decide
  intro member
  rcases List.mem_append.mp member with front | back
  · exact noNul front
  · exact suffix back

/-- `File` hands on the temporary path as the output path and the suffix. -/
theorem filePath_tmpPath (outputPath : DartString) :
    filePath (tmpPath outputPath) =
      filePath outputPath ++ ".pqforge-tmp" := by
  have joined :
      decode (outputPath ++ encode ".pqforge-tmp".toList) =
        decode outputPath ++ ".pqforge-tmp".toList := by
    rw [suffix_eq, decode_append outputPath (by decide), ← suffix_eq,
      decode_encode]
  rw [filePath, tmpPath, joined, filePath, String.ofList_append,
    String.ofList_toList]

end PqForgeFfi.PathStrings
