import PqForgeFfi.Envelope
import PqForgeFfi.EnvelopeFormat
import Mathlib.Data.List.Basic

namespace PqForgeFfi.PqForgeEnvelope

open ByteOrder EnvelopeFormat

/-!
# What the envelope codec writes and accepts

`_encodeHeader` writes the header of the format.  `_decode` never reads outside
its input; it accepts exactly the headers of the format with any bytes behind
them, and returns their fields.
-/

/-- The four bytes of a number, most significant first. -/
theorem bigEndian_four (value : Nat) :
    bigEndian 4 value =
      [UInt8.ofNat (value / 256 ^ 3 % 256),
        UInt8.ofNat (value / 256 ^ 2 % 256),
        UInt8.ofNat (value / 256 ^ 1 % 256),
        UInt8.ofNat (value / 256 ^ 0 % 256)] := by
  simp only [bigEndian, Nat.div_div_eq_div_mul, Nat.pow_succ,
    Nat.pow_zero, Nat.div_one, Nat.one_mul]
  rfl

/-- A shifted and masked byte is a digit. -/
theorem shiftRight_and (value places : Nat) :
    ((value >>> (8 * places)) &&& 0xFF) % 256 =
      value / 256 ^ places % 256 := by
  have mask : (0xFF : Nat) = 2 ^ 8 - 1 := rfl
  rw [mask, Nat.and_two_pow_sub_one_eq_mod, Nat.shiftRight_eq_div_pow,
    Nat.pow_mul, Nat.mod_mod]

/-- A digit is joined to the digits above it. -/
theorem shiftLeft_or
    (high places : Nat)
    {low : Nat}
    (digit : low < 256) :
    (high <<< (8 * (places + 1))) ||| (low <<< (8 * places)) =
      (high * 256 + low) <<< (8 * places) := by
  have below : low <<< (8 * places) < 2 ^ (8 * (places + 1)) := by
    rw [Nat.shiftLeft_eq, Nat.mul_add, Nat.pow_add,
      Nat.mul_comm (2 ^ (8 * places))]
    exact Nat.mul_lt_mul_of_pos_right digit (Nat.two_pow_pos _)
  rw [← Nat.shiftLeft_add_eq_or_of_lt below, Nat.shiftLeft_eq,
    Nat.shiftLeft_eq, Nat.shiftLeft_eq, Nat.mul_add, Nat.pow_add,
    Nat.add_mul, Nat.mul_assoc, Nat.mul_comm (2 ^ (8 * places))]

/-- `_writeU32` writes four big-endian bytes behind what is filled. -/
theorem writeU32_blank
    {filled : Bytes}
    {offset room : Nat}
    (behind : filled.length = offset)
    (value : Nat)
    (fits : 4 ≤ room) :
    writeU32 (filled ++ List.replicate room 0) offset value =
      .ok (filled ++ bigEndian 4 value ++
        List.replicate (room - 4) 0) := by
  have first : ((value >>> 24) &&& 0xFF) % 256 = _ :=
    shiftRight_and value 3
  have second : ((value >>> 16) &&& 0xFF) % 256 = _ :=
    shiftRight_and value 2
  have third : ((value >>> 8) &&& 0xFF) % 256 = _ :=
    shiftRight_and value 1
  have fourth : (value &&& 0xFF) % 256 = _ :=
    shiftRight_and value 0
  have left : room - 1 - 1 - 1 - 1 = room - 4 := by
    omega
  rw [writeU32, setByte_blank behind _ (by omega), ok_bind,
    setByte_blank (by simp [behind]) _ (by omega), ok_bind,
    setByte_blank (by simp [behind]) _ (by omega), ok_bind,
    setByte_blank (by simp [behind]) _ (by omega), first, second,
    third, fourth, left, bigEndian_four]
  simp only [List.append_assoc, List.cons_append, List.nil_append]

/-- `_readU32` reads four big-endian bytes. -/
theorem readU32_append
    {front size rest : Bytes}
    {offset : Nat}
    (behind : front.length = offset)
    (four : size.length = 4) :
    readU32 (front ++ (size ++ rest)) offset =
      .ok (fromBigEndian size) := by
  obtain ⟨first, second, third, fourth, rfl⟩ :=
    List.length_eq_four.mp four
  have step : ∀ (more less : Bytes) (byte : UInt8),
      byteAt (front ++ (more ++ byte :: less))
          (offset + more.length) = .ok byte := by
    intro more less byte
    rw [← List.append_assoc]
    exact byteAt_append (by rw [List.length_append, behind])
  have firstRead : byteAt (front ++ _) offset = _ :=
    step [] (second :: third :: fourth :: rest) first
  have secondRead : byteAt (front ++ _) (offset + 1) = _ :=
    step [first] (third :: fourth :: rest) second
  have thirdRead : byteAt (front ++ _) (offset + 2) = _ :=
    step [first, second] (fourth :: rest) third
  have fourthRead : byteAt (front ++ _) (offset + 3) = _ :=
    step [first, second, third] rest fourth
  have upper : (first.toNat <<< 24) ||| (second.toNat <<< 16) = _ :=
    shiftLeft_or first.toNat 2 second.toNat_lt
  have middle : _ ||| (third.toNat <<< 8) = _ :=
    shiftLeft_or (first.toNat * 256 + second.toNat) 1 third.toNat_lt
  have lower : _ ||| fourth.toNat = _ :=
    shiftLeft_or
      ((first.toNat * 256 + second.toNat) * 256 + third.toNat) 0
      fourth.toNat_lt
  simp only [List.nil_append, List.cons_append] at *
  rw [readU32, firstRead, ok_bind, secondRead, ok_bind, thirdRead,
    ok_bind, fourthRead, ok_bind, upper, middle, lower]
  simp only [fromBigEndian, List.foldl_cons, List.foldl_nil,
    Nat.zero_mul, Nat.zero_add]
  rfl

/-! ## The encoder -/

/-- `_encodeHeader` writes the header of the format. -/
theorem encodeHeader_eq
    {ciphertextBytes : PqKemAlgorithm → Nat}
    (header : Header ciphertextBytes) :
    encodeHeader header.kemAlgorithm header.salt header.nonce
        header.kemCiphertext =
      .ok header.bytes := by
  obtain ⟨kemAlg, salt, nonce, kemCt, saltLength, nonceLength, _⟩ :=
    header
  have blank :
      List.replicate (headerFixedLen + kemCt.length) (0 : UInt8) =
        [] ++ List.replicate (39 + kemCt.length) 0 := rfl
  have idByte : kemAlg.index % 256 = kemAlg.index := by
    cases kemAlg <;> rfl
  simp only [encodeHeader, blank, saltLen, nonceLen]
  rw [setAll_blank (by simp) (by simp [magic]; omega), ok_bind,
    setByte_blank (by simp [magic]) version (by simp [magic]; omega),
    ok_bind,
    setByte_blank (by simp [magic]) kemAlg.index
      (by simp [magic]; omega), ok_bind,
    setByte_blank (by simp [magic]) aeadAes256Gcm
      (by simp [magic]; omega), ok_bind,
    setAll_blank (by simp [magic]) (by simp [magic, saltLength]; omega),
    ok_bind,
    setAll_blank (by simp [magic, saltLength])
      (by simp [magic, saltLength, nonceLength]; omega), ok_bind,
    writeU32_blank (by simp [magic, saltLength, nonceLength]) _
      (by simp [magic, saltLength, nonceLength]; omega), ok_bind,
    setAll_blank (by simp [magic, saltLength, nonceLength])
      (by simp [magic, saltLength, nonceLength]; omega), idByte]
  have full : 39 + kemCt.length - magic.length - 1 - 1 - 1 -
      salt.length - nonce.length - 4 - kemCt.length = 0 := by
    rw [saltLength, nonceLength]
    simp only [magic, List.length_cons, List.length_nil]
    omega
  rw [full]
  simp only [Header.bytes, List.replicate_zero, List.append_nil,
    List.append_assoc]
  rfl

/-! ## The decoder -/

/-- An input that is long enough for a header, cut at the fixed offsets. -/
theorem exists_pieces
    {e : Bytes}
    (long : headerFixedLen ≤ e.length) :
    ∃ (start salt nonce size rest : Bytes)
        (versionByte kemAlgByte aeadByte : UInt8),
      e =
          start ++
            ([versionByte, kemAlgByte, aeadByte] ++
              (salt ++ (nonce ++ (size ++ rest)))) ∧
        start.length = 4 ∧
        salt.length = 16 ∧
        nonce.length = 12 ∧
        size.length = 4 := by
  have enough : 39 ≤ e.length := long
  obtain ⟨versionByte, kemAlgByte, aeadByte, ids⟩ :=
    List.length_eq_three.mp
      (show ((e.drop 4).take 3).length = 3 by
        rw [List.length_take, List.length_drop]
        omega)
  refine
    ⟨e.take 4, (e.drop 7).take 16, (e.drop 23).take 12,
      (e.drop 35).take 4, e.drop 39, versionByte, kemAlgByte, aeadByte,
      ?_, ?_⟩
  · have split : ∀ offset width,
        (e.drop offset).take width ++ e.drop (offset + width) =
          e.drop offset := by
      intro offset width
      rw [← List.drop_drop, List.take_append_drop]
    have sizeAndRest := split 35 4
    have nonceOn := split 23 12
    have saltOn := split 7 16
    have idsOn := split 4 3
    rw [← ids, sizeAndRest, nonceOn, saltOn, idsOn,
      List.take_append_drop]
  · simp only [List.length_take, List.length_drop]
    omega

/-- The loop over the magic bytes compares them with the input. -/
theorem checkMagic_append
    {front start rest expected : Bytes}
    {i : Nat}
    (behind : front.length = i)
    (sameLength : start.length = expected.length) :
    checkMagic (front ++ (start ++ rest)) i expected =
      if start = expected then
        .ok ()
      else
        .error (malformed "bad envelope magic") := by
  induction expected generalizing front start i with
  | nil =>
      have isEmpty := List.length_eq_zero_iff.mp sameLength
      rw [isEmpty, if_pos rfl, checkMagic]
  | cons first others inductionHypothesis =>
      cases start with
      | nil =>
          cases sameLength
      | cons byte more =>
          rw [checkMagic, List.cons_append, byteAt_append behind, ok_bind]
          by_cases same : byte = first
          · subst same
            have next :
                checkMagic (front ++ [byte] ++ (more ++ rest)) (i + 1)
                    others = _ :=
              inductionHypothesis (by simp [behind])
                (by simpa using sameLength)
            rw [List.append_assoc, List.singleton_append] at next
            simp [next]
          · simp [same]

/-- What `_decode` makes of the fields behind the ids. -/
theorem decodeFields_pieces
    (pqforge : PqForgePackage)
    (kemAlg : PqKemAlgorithm)
    {front salt nonce size rest : Bytes}
    (frontLength : front.length = 7)
    (saltLength : salt.length = 16)
    (nonceLength : nonce.length = 12)
    (sizeLength : size.length = 4) :
    decodeFields pqforge
        (front ++ (salt ++ (nonce ++ (size ++ rest)))) kemAlg =
      if fromBigEndian size ≠ pqforge.ciphertextBytes kemAlg then
        .error (malformed
          ("KEM ciphertext length " ++ toString (fromBigEndian size) ++
            " != " ++ toString (pqforge.ciphertextBytes kemAlg)))
      else if rest.length < fromBigEndian size then
        .error (malformed "truncated KEM ciphertext")
      else
        .ok {
          kemAlgorithm := kemAlg
          salt := salt
          nonce := nonce
          kemCiphertext := rest.take (fromBigEndian size)
          header :=
            front ++ (salt ++
              (nonce ++ (size ++ rest.take (fromBigEndian size))))
          «sealed» := rest.drop (fromBigEndian size) } := by
  generalize kemCtLen : fromBigEndian size = n
  generalize input :
    front ++ (salt ++ (nonce ++ (size ++ rest))) = e
  have saltView : sublistView e 7 (7 + saltLen : Nat) = .ok salt := by
    subst input
    exact sublistView_append frontLength
      (congrArg (7 + ·) saltLength)
  have nonceView :
      sublistView e (7 + saltLen : Nat)
        (7 + saltLen + nonceLen : Nat) = .ok nonce := by
    subst input
    rw [← List.append_assoc front]
    exact sublistView_append
      (by rw [List.length_append, frontLength, saltLength]; rfl)
      (by rw [nonceLength]; rfl)
  have sizeRead :
      readU32 e (7 + saltLen + nonceLen) = .ok n := by
    subst input kemCtLen
    rw [← List.append_assoc front, ← List.append_assoc (front ++ salt)]
    exact readU32_append
      (by
        rw [List.length_append, List.length_append, frontLength,
          saltLength, nonceLength]
        rfl)
      sizeLength
  have joined :
      e = front ++ (salt ++ (nonce ++ size)) ++ rest := by
    rw [← input]
    simp only [List.append_assoc]
  have fixedLength :
      (front ++ (salt ++ (nonce ++ size))).length = 39 := by
    simp only [List.length_append, frontLength, saltLength,
      nonceLength, sizeLength]
  have inputLength : e.length = 39 + rest.length := by
    rw [joined, List.length_append, fixedLength]
  have offset : 7 + saltLen + nonceLen + 4 = 39 := rfl
  rw [decodeFields, saltView, ok_bind, nonceView, ok_bind, sizeRead,
    ok_bind]
  dsimp only
  rw [offset]
  by_cases declared : n = pqforge.ciphertextBytes kemAlg
  · rw [if_neg (not_not.mpr declared), if_neg (not_not.mpr declared)]
    by_cases short : rest.length < n
    · rw [if_pos (by omega), if_pos short]
    · rw [if_neg (by omega), if_neg short]
      have taken : (rest.take n).length = n := by
        rw [List.length_take]
        omega
      rw [← List.take_append_drop n rest] at joined
      have ctView : sublistView e 39 (39 + n : Nat) =
          .ok (rest.take n) := by
        rw [joined]
        exact sublistView_append fixedLength (by rw [taken])
      have headerLength :
          (front ++ (salt ++ (nonce ++ size)) ++ rest.take n).length =
            39 + n := by
        rw [List.length_append, fixedLength, taken]
      rw [← List.append_assoc] at joined
      have headerView : sublistView e 0 (39 + n : Nat) =
          .ok (front ++ (salt ++ (nonce ++ size)) ++ rest.take n) := by
        rw [joined]
        exact sublistView_front headerLength
      have restView : sublistView e (39 + n : Nat) e.length =
          .ok (rest.drop n) := by
        rw [joined]
        exact sublistView_rest headerLength rfl
      rw [show sublistView e (39 : Nat) (39 + n : Nat) = _ from ctView,
        ok_bind, headerView, ok_bind, restView, ok_bind]
      simp only [List.append_assoc]
  · rw [if_pos declared, if_pos declared]

/-- What `_decode` makes of an input, told from its pieces. -/
theorem decode_pieces
    (pqforge : PqForgePackage)
    {start salt nonce size : Bytes}
    (startLength : start.length = 4)
    (saltLength : salt.length = 16)
    (nonceLength : nonce.length = 12)
    (sizeLength : size.length = 4)
    (versionByte kemAlgByte aeadByte : UInt8)
    (rest : Bytes) :
    decode pqforge
        (start ++
          ([versionByte, kemAlgByte, aeadByte] ++
            (salt ++ (nonce ++ (size ++ rest))))) =
      if start ≠ magic then
        .error (malformed "bad envelope magic")
      else if versionByte.toNat ≠ version then
        .error (malformed
          ("unsupported envelope version " ++
            toString versionByte.toNat))
      else
        match PqKemAlgorithm.values[kemAlgByte.toNat]? with
        | none =>
            .error (malformed
              ("bad KEM algorithm id " ++ toString kemAlgByte.toNat))
        | some kemAlg =>
            if aeadByte.toNat ≠ aeadAes256Gcm then
              .error (malformed
                ("unsupported AEAD id " ++ toString aeadByte.toNat))
            else if fromBigEndian size ≠
                pqforge.ciphertextBytes kemAlg then
              .error (malformed
                ("KEM ciphertext length " ++
                  toString (fromBigEndian size) ++ " != " ++
                  toString (pqforge.ciphertextBytes kemAlg)))
            else if rest.length < fromBigEndian size then
              .error (malformed "truncated KEM ciphertext")
            else
              .ok {
                kemAlgorithm := kemAlg
                salt := salt
                nonce := nonce
                kemCiphertext := rest.take (fromBigEndian size)
                header :=
                  start ++ [versionByte, kemAlgByte, aeadByte] ++
                    (salt ++
                      (nonce ++
                        (size ++ rest.take (fromBigEndian size))))
                «sealed» := rest.drop (fromBigEndian size) } := by
  have frontLength :
      (start ++ [versionByte, kemAlgByte, aeadByte]).length = 7 := by
    rw [List.length_append, startLength]
    rfl
  have fields := fun kemAlg =>
    @decodeFields_pieces pqforge kemAlg _ salt nonce size rest
      frontLength saltLength nonceLength sizeLength
  rw [← List.append_assoc]
  generalize input :
    start ++ [versionByte, kemAlgByte, aeadByte] ++
      (salt ++ (nonce ++ (size ++ rest))) = e at fields ⊢
  have long : ¬ e.length < headerFixedLen := by
    have fixed : headerFixedLen = 39 := rfl
    rw [← input, fixed]
    simp only [List.length_append, startLength, saltLength,
      nonceLength, sizeLength, List.length_cons]
    omega
  rw [List.append_assoc] at input
  have magicChecked : checkMagic e 0 magic =
      if start = magic then
        .ok ()
      else
        .error (malformed "bad envelope magic") := by
    rw [← input]
    exact checkMagic_append
      (show ([] : Bytes).length = 0 from rfl) startLength
  have byteRead : ∀ (before : Bytes) (byte : UInt8) (after : Bytes),
      start ++ (before ++ byte :: after) = e →
      byteAt e (4 + before.length) = .ok byte := by
    intro before byte after shape
    rw [← shape, ← List.append_assoc]
    exact byteAt_append (by rw [List.length_append, startLength])
  have versionRead : byteAt e 4 = .ok versionByte :=
    byteRead [] versionByte _ input
  have kemAlgRead : byteAt e 5 = .ok kemAlgByte :=
    byteRead [versionByte] kemAlgByte _ input
  have aeadRead : byteAt e 6 = .ok aeadByte :=
    byteRead [versionByte, kemAlgByte] aeadByte _ input
  rw [decode, if_neg long, magicChecked]
  by_cases sameMagic : start = magic
  · rw [if_pos sameMagic, if_neg (not_not.mpr sameMagic), ok_bind,
      versionRead, ok_bind]
    by_cases otherVersion : versionByte.toNat ≠ version
    · rw [if_pos otherVersion, if_pos otherVersion]
    · rw [if_neg otherVersion, if_neg otherVersion, kemAlgRead, ok_bind]
      cases PqKemAlgorithm.values[kemAlgByte.toNat]? with
      | none =>
          rfl
      | some kemAlg =>
          dsimp only
          rw [aeadRead, ok_bind, fields]
  · rw [if_neg sameMagic, if_pos sameMagic]
    rfl

/-- The parts of a header of the format with a tail behind it. -/
def ParsedEnvelope.ofHeader
    {ciphertextBytes : PqKemAlgorithm → Nat}
    (header : Header ciphertextBytes)
    (tail : Bytes) :
    ParsedEnvelope where
  kemAlgorithm := header.kemAlgorithm
  salt := header.salt
  nonce := header.nonce
  kemCiphertext := header.kemCiphertext
  header := header.bytes
  «sealed» := tail

/-- The KEM ciphertext lengths of a header fit the length field. -/
def FitsField
    {ciphertextBytes : PqKemAlgorithm → Nat}
    (header : Header ciphertextBytes) : Prop :=
  ciphertextBytes header.kemAlgorithm < 2 ^ 32

/-- `_decode` accepts every header of the format, with any tail. -/
theorem decode_bytes
    {pqforge : PqForgePackage}
    {header : Header pqforge.ciphertextBytes}
    (fits : FitsField header)
    (tail : Bytes) :
    decode pqforge (header.bytes ++ tail) =
      .ok (.ofHeader header tail) := by
  have fitsLength : header.kemCiphertext.length < 256 ^ 4 := by
    rw [header.declared]
    exact fits
  have sizeRead :
      fromBigEndian (bigEndian 4 header.kemCiphertext.length) =
        header.kemCiphertext.length :=
    fromBigEndian_bigEndian fitsLength
  have indexByte :
      (UInt8.ofNat header.kemAlgorithm.index).toNat =
        header.kemAlgorithm.index := by
    cases header.kemAlgorithm <;> rfl
  have versionByte : (1 : UInt8).toNat = version := rfl
  have aeadByte : (0 : UInt8).toNat = aeadAes256Gcm := rfl
  have shape : header.bytes ++ tail =
      magic ++
        ([1, UInt8.ofNat header.kemAlgorithm.index, 0] ++
          (header.salt ++
            (header.nonce ++
              (bigEndian 4 header.kemCiphertext.length ++
                (header.kemCiphertext ++ tail))))) := by
    simp only [Header.bytes, List.append_assoc]
    rfl
  rw [shape,
    decode_pieces pqforge rfl header.saltLength header.nonceLength
      (length_bigEndian _ _),
    if_neg (not_not.mpr rfl), if_neg (not_not.mpr versionByte),
    indexByte, PqKemAlgorithm.getElem?_index]
  dsimp only
  rw [if_neg (not_not.mpr aeadByte), sizeRead,
    if_neg (not_not.mpr header.declared), if_neg (by simp),
    List.take_left, List.drop_left]
  simp only [ParsedEnvelope.ofHeader, Header.bytes, List.append_assoc]
  rfl

/-- The byte of a known algorithm id. -/
theorem index_byte
    {kemAlgByte : UInt8}
    {kemAlg : PqKemAlgorithm}
    (found :
      PqKemAlgorithm.values[kemAlgByte.toNat]? = some kemAlg) :
    UInt8.ofNat kemAlg.index = kemAlgByte := by
  rw [← PqKemAlgorithm.index_of_getElem? found, UInt8.ofNat_toNat]

/-- Pieces that pass every check are a header with a tail. -/
theorem exists_header
    {ciphertextBytes : PqKemAlgorithm → Nat}
    {kemAlg : PqKemAlgorithm}
    {start salt nonce size rest : Bytes}
    (sameMagic : start = magic)
    (saltLength : salt.length = 16)
    (nonceLength : nonce.length = 12)
    (sizeLength : size.length = 4)
    (declared : fromBigEndian size = ciphertextBytes kemAlg)
    (enough : fromBigEndian size ≤ rest.length) :
    ∃ (header : Header ciphertextBytes) (tail : Bytes),
      FitsField header ∧
        start ++
            ([1, UInt8.ofNat kemAlg.index, 0] ++
              (salt ++ (nonce ++ (size ++ rest)))) =
          header.bytes ++ tail := by
  obtain ⟨kemCt, tail, rfl, ctLength⟩ :
      ∃ kemCt tail,
        rest = kemCt ++ tail ∧ kemCt.length = fromBigEndian size :=
    ⟨rest.take (fromBigEndian size), rest.drop (fromBigEndian size),
      (List.take_append_drop _ rest).symm,
      List.length_take_of_le enough⟩
  have written : bigEndian 4 kemCt.length = size := by
    rw [ctLength, ← sizeLength, bigEndian_fromBigEndian]
  have fits := fromBigEndian_lt size
  rw [sizeLength, declared] at fits
  refine
    ⟨{
      kemAlgorithm := kemAlg
      salt, nonce, saltLength, nonceLength
      kemCiphertext := kemCt
      declared := ctLength.trans declared }, tail, fits, ?_⟩
  simp only [Header.bytes, written, sameMagic, List.append_assoc]
  rfl

/-- An input is refused as malformed, or it starts with a header. -/
theorem decode_cases
    (pqforge : PqForgePackage)
    (e : Bytes) :
    (∃ message, decode pqforge e = .error (malformed message)) ∨
      ∃ (header : Header pqforge.ciphertextBytes) (tail : Bytes),
        FitsField header ∧ e = header.bytes ++ tail := by
  by_cases short : e.length < headerFixedLen
  · rw [decode, if_pos short]
    exact .inl ⟨_, rfl⟩
  · obtain ⟨start, salt, nonce, size, rest, versionByte, kemAlgByte,
        aeadByte, rfl, startLength, saltLength, nonceLength,
        sizeLength⟩ :=
      exists_pieces (Nat.le_of_not_lt short)
    have decoded := decode_pieces pqforge startLength saltLength
      nonceLength sizeLength versionByte kemAlgByte aeadByte rest
    split at decoded
    · exact .inl ⟨_, decoded⟩
    · rename_i sameMagic
      split at decoded
      · exact .inl ⟨_, decoded⟩
      · rename_i sameVersion
        split at decoded
        · exact .inl ⟨_, decoded⟩
        · rename_i kemAlg found
          split at decoded
          · exact .inl ⟨_, decoded⟩
          · rename_i sameAead
            split at decoded
            · exact .inl ⟨_, decoded⟩
            · rename_i declared
              split at decoded
              · exact .inl ⟨_, decoded⟩
              · rename_i enough
                rw [not_not] at sameMagic sameVersion sameAead declared
                obtain rfl := index_byte found
                obtain rfl : versionByte = 1 :=
                  UInt8.toNat_inj.mp sameVersion
                obtain rfl : aeadByte = 0 :=
                  UInt8.toNat_inj.mp sameAead
                exact .inr (exists_header sameMagic saltLength
                  nonceLength sizeLength declared
                  (Nat.le_of_not_lt enough))

/-- `_decode` accepts only headers of the format, and returns their parts. -/
theorem decode_eq_ok
    {pqforge : PqForgePackage}
    {e : Bytes}
    {parsed : ParsedEnvelope}
    (accepted : decode pqforge e = .ok parsed) :
    ∃ header : Header pqforge.ciphertextBytes,
      FitsField header ∧
        parsed = .ofHeader header parsed.«sealed» ∧
        e = header.bytes ++ parsed.«sealed» := by
  rcases decode_cases pqforge e with
      ⟨message, refused⟩ | ⟨header, tail, fits, rfl⟩
  · rw [refused] at accepted
    cases accepted
  · rw [decode_bytes fits tail] at accepted
    cases accepted
    exact ⟨header, fits, rfl, rfl⟩

/-- `_decode` throws nothing but an `InvalidCiphertextException`. -/
theorem decode_eq_error
    {pqforge : PqForgePackage}
    {e : Bytes}
    {thrown : DartThrow}
    (refused : decode pqforge e = .error thrown) :
    ∃ message, thrown = .ffi (.invalidCiphertext message) := by
  rcases decode_cases pqforge e with
      ⟨message, asMalformed⟩ | ⟨header, tail, fits, rfl⟩
  · rw [asMalformed] at refused
    cases refused
    exact ⟨message, rfl⟩
  · rw [decode_bytes fits tail] at refused
    cases refused

/--
The parser accepts exactly its grammar, a header of the format with any tail,
throws nothing but `InvalidCiphertextException` otherwise, and encoding what it
returns gives its input again.
-/
theorem decode_accepts_exactly_grammar
    (pqforge : PqForgePackage)
    (e : Bytes) :
    (∀ thrown,
        decode pqforge e = .error thrown →
        ∃ message, thrown = .ffi (.invalidCiphertext message)) ∧
      ((∃ parsed, decode pqforge e = .ok parsed) ↔
        ∃ kemAlg salt nonce kemCt tail,
          salt.length = 16 ∧
            nonce.length = 12 ∧
            kemCt.length = pqforge.ciphertextBytes kemAlg ∧
            pqforge.ciphertextBytes kemAlg < 2 ^ 32 ∧
            e =
              [0x50, 0x46, 0x45, 0x31] ++ [1] ++
                [UInt8.ofNat kemAlg.index] ++ [0] ++ salt ++ nonce ++
                bigEndian 4 (pqforge.ciphertextBytes kemAlg) ++ kemCt ++
                tail) ∧
      ∀ parsed,
        decode pqforge e = .ok parsed →
        encodeHeader parsed.kemAlgorithm parsed.salt parsed.nonce
            parsed.kemCiphertext =
          .ok parsed.header ∧
        parsed.header ++ parsed.«sealed» = e := by
  refine ⟨fun thrown refused => decode_eq_error refused, ⟨?_, ?_⟩, ?_⟩
  · rintro ⟨parsed, accepted⟩
    obtain ⟨header, fits, _, shape⟩ := decode_eq_ok accepted
    refine
      ⟨header.kemAlgorithm, header.salt, header.nonce,
        header.kemCiphertext, parsed.«sealed», header.saltLength,
        header.nonceLength, header.declared, fits, ?_⟩
    rw [shape, Header.bytes, header.declared]
    simp only [List.append_assoc, List.cons_append, List.nil_append]
  · rintro ⟨kemAlg, salt, nonce, kemCt, tail, saltLength, nonceLength,
      declared, fits, rfl⟩
    let header : Header pqforge.ciphertextBytes :=
      { kemAlgorithm := kemAlg, salt, nonce, kemCiphertext := kemCt,
        saltLength, nonceLength, declared }
    have headerFits : FitsField header := fits
    have accepted := decode_bytes headerFits tail
    refine ⟨_, Eq.trans (congrArg (decode pqforge) ?_) accepted⟩
    simp only [header, Header.bytes, declared, List.append_assoc,
      List.cons_append, List.nil_append]
  · intro parsed accepted
    obtain ⟨header, _, parts, shape⟩ := decode_eq_ok accepted
    rw [parts]
    exact ⟨encodeHeader_eq header, shape.symm⟩

end PqForgeFfi.PqForgeEnvelope
