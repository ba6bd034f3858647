import PqForgeFfi.FileCipher

namespace PqForgeFfi.PathStrings

open CodeUnits PlainFiles

/-!
# Paths at the native boundary

A path crosses to native code unchanged exactly when it holds neither a NUL nor
an unpaired surrogate.
-/

/-- The path is exactly this Dart string. -/
def Denotes (path : String) (s : DartString) : Prop :=
  encode path.toList = s

instance (path : String) (s : DartString) : Decidable (Denotes path s) :=
  inferInstanceAs (Decidable (encode path.toList = s))

/-- The string reaches native code as the path that it is. -/
def Crosses (s : DartString) : Prop :=
  ∃ path, nativePath s = .ok path ∧ Denotes path s

/-- The string holds no unpaired surrogate and no NUL. -/
def Portable (s : DartString) : Prop :=
  paired s = true ∧ 0 ∉ s

instance (s : DartString) : Decidable (Portable s) :=
  inferInstanceAs (Decidable (paired s = true ∧ 0 ∉ s))

/-- Only NUL has the number zero among what is cut at the first NUL. -/
theorem notNul_of_mem_takeWhile
    {chars : List Char}
    {char : Char}
    (member : char ∈ chars.takeWhile notNul) :
    char.toNat ≠ 0 := by
  simpa [notNul] using List.mem_takeWhile_imp member

/-- Native code obtains a portable string as its decoded characters. -/
theorem nativePath_of_portable
    {s : DartString}
    (portable : Portable s) :
    nativePath s = .ok (String.ofList (decode s)) :=
  nativePath_of_noNul portable.2

/-- The string of a path that native code obtained is portable. -/
theorem portable_of_nativePath
    {s : DartString}
    {path : String}
    (obtained : nativePath s = .ok path) :
    Portable (encode path.toList) := by
  rw [nativePath_eq] at obtained
  cases obtained
  rw [String.toList_ofList]
  refine ⟨paired_encode _, ?_⟩
  rw [zero_mem_encode_iff]
  rintro ⟨char, member, zero⟩
  exact notNul_of_mem_takeWhile member zero

/-- Exactly the portable strings reach native code as the path that they are. -/
theorem crosses_iff (s : DartString) :
    Crosses s ↔ Portable s := by
  constructor
  · rintro ⟨path, obtained, denotes⟩
    rw [← denotes]
    exact portable_of_nativePath obtained
  · intro portable
    refine ⟨_, nativePath_of_portable portable, ?_⟩
    rw [Denotes, String.toList_ofList]
    exact encode_decode portable.1

/-- The suffix of the temporary path changes nothing about that. -/
theorem portable_tmpPath_iff (s : DartString) :
    Portable (tmpPath s) ↔ Portable s := by
  have suffixPaired :
      paired (0x2E :: encode "pqforge-tmp".toList) = true := by
    decide
  have suffixNoNul :
      0 ∉ (0x2E :: encode "pqforge-tmp".toList : DartString) := by
    decide
  rw [Portable, Portable, tmpPath, suffix_eq,
    paired_append s (by decide), suffixPaired, Bool.and_true,
    List.mem_append]
  simp only [suffixNoNul, or_false]

/-- Distinct portable strings reach native code as distinct paths. -/
theorem nativePath_injective
    {first second : DartString}
    (firstPortable : Portable first)
    (secondPortable : Portable second)
    (same : nativePath first = nativePath second) :
    first = second := by
  rw [nativePath_of_portable firstPortable,
    nativePath_of_portable secondPortable] at same
  have samePath := Except.ok.inj same
  have sameChars : decode first = decode second := by
    rw [← String.toList_ofList (l := decode first), samePath,
      String.toList_ofList]
  rw [← encode_decode firstPortable.1, sameChars,
    encode_decode secondPortable.1]

/-- Every other string reaches native code as the path of a portable one. -/
theorem nativePath_unshared_iff (s : DartString) :
    (∀ other,
      Portable other →
        nativePath other = nativePath s →
        other = s) ↔
      Portable s := by
  constructor
  · intro unshared
    have obtained := nativePath_eq s
    have portable := portable_of_nativePath obtained
    rw [← unshared _ portable ?_]
    · exact portable
    · rw [nativePath_of_portable portable, obtained, decode_encode,
        String.ofList_toList]
  · intro portable other otherPortable same
    exact nativePath_injective otherPortable portable same

/-- Every effect gives a content to the file that this string names. -/
def WritesOnly
    (s : DartString)
    (log : List (Effect String Bytes)) : Prop :=
  ∀ effect ∈ log,
    ∃ path content, effect = .write path content ∧ Denotes path s

/-- The effects of a native call that is to write to a temporary path. -/
def tmpEffects
    (outputPath : DartString)
    (outcome : PqForgeFileCipher.NativeOutcome Bytes) :
    List (Effect String Bytes) :=
  PqForgeFileCipher.nativeEffects .spelled
    (cStrFromPtr (cString (tmpPath outputPath))) outcome

/-- A native call gives its contents to the path that it obtained. -/
theorem tmpEffects_eq
    {outputPath : DartString}
    {path : String}
    (obtained : nativePath (tmpPath outputPath) = .ok path)
    (outcome : PqForgeFileCipher.NativeOutcome Bytes) :
    tmpEffects outputPath outcome =
      outcome.contents.map (.write path) := by
  rw [nativePath] at obtained
  rw [tmpEffects, PqForgeFileCipher.nativeEffects, obtained]
  rfl

/-- Native calls write to the temporary file of portable strings alone. -/
theorem tmpEffects_writesOnly_iff (outputPath : DartString) :
    (∀ outcome, WritesOnly (tmpPath outputPath)
        (tmpEffects outputPath outcome)) ↔
      Portable outputPath := by
  rw [← portable_tmpPath_iff, ← crosses_iff]
  constructor
  · intro writes
    have obtained := nativePath_eq (tmpPath outputPath)
    have created := writes
      { contents := [[]], code := 0, finished := fun _ => by simp }
    rw [tmpEffects_eq obtained] at created
    obtain ⟨path, content, same, denotes⟩ :=
      created _ List.mem_cons_self
    cases same
    exact ⟨_, obtained, denotes⟩
  · rintro ⟨path, obtained, denotes⟩ outcome effect member
    rw [tmpEffects_eq obtained] at member
    obtain ⟨content, _, rfl⟩ := List.mem_map.mp member
    exact ⟨path, content, rfl, denotes⟩

/--
A string reaches native code as the path that it is, alone or with the suffix
of the temporary file, exactly when it is portable.  Every other string shares
its native path with a portable one, and lets native code write to a file that
is not the temporary file of the call.
-/
theorem paths_cross_unchanged_iff (s : DartString) :
    (Crosses s ↔ Portable s) ∧
      (Crosses (tmpPath s) ↔ Portable s) ∧
      ((∀ other,
          Portable other →
            nativePath other = nativePath s →
            other = s) ↔
        Portable s) ∧
      ((∀ outcome, WritesOnly (tmpPath s) (tmpEffects s outcome)) ↔
        Portable s) :=
  ⟨crosses_iff s, (crosses_iff _).trans (portable_tmpPath_iff s),
    nativePath_unshared_iff s, tmpEffects_writesOnly_iff s⟩

/-- The Dart string `'out\x00'`. -/
def outNul : DartString :=
  [0x6F, 0x75, 0x74, 0]

/--
With that output path the native side gets the path of another file, without
the suffix: a call that fails has emptied `out`, which held three bytes.  A
second input path reaches it as the first one, and a lone surrogate as U+FFFD.
-/
theorem paths_changed_of_outNul :
    nativePath (tmpPath outNul) = .ok "out" ∧
      ¬ Denotes "out" (tmpPath outNul) ∧
      after
          (fun path => if path = "out" then some [1, 2, 3] else none)
          (tmpEffects outNul
            { contents := [[]]
              code := PqForgeErrorCode.io.value
              finished := fun _ => by simp })
          "out" =
        some [] ∧
      nativePath [0x69, 0x6E, 0, 0x78] = nativePath [0x69, 0x6E] ∧
      nativePath [0xD800] = nativePath [0xFFFD] ∧
      ¬ Crosses (tmpPath outNul) := by
  have obtained : nativePath (tmpPath outNul) = .ok "out" := by
    rw [nativePath_eq]
    decide
  refine ⟨obtained, by decide, ?_, ?_, ?_, ?_⟩
  · rw [tmpEffects_eq obtained]
    rfl
  · rw [nativePath_eq, nativePath_eq]
    rfl
  · rw [nativePath_eq, nativePath_eq]
    rfl
  · rw [crosses_iff, portable_tmpPath_iff]
    decide

end PqForgeFfi.PathStrings
