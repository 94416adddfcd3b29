import LedgerView.Proofs.Text.Blank
import LedgerView.Proofs.Text.Utf8
import LedgerView.Url.Form

/-
  Queries are read as they were written.

  A name or a value is written in a few characters, none of
  which separates pairs or their parts.  So a query falls apart
  where it was put together, and each part is undone byte by
  byte.

  Key definitions include:
    * `Form.isWritten`
    * `Form.isMark`

  Key theorems include:
    * `Percent.decode_flatMap_byte`
    * `Percent.decode_concat`
    * `Percent.encode_eq_self`
    * `Form.decodeText_encodeText`
    * `Form.decode_encode`
    * `Form.isMark_of_mem_encode`
    * `Form.eq_false_of_isMark`
-/

namespace LedgerView

------------------------------------------------------------
-- Percent Encoding
------------------------------------------------------------

namespace Percent

/- A hexadecimal digit has its value. -/
theorem hexValue?_digit :
    ∀ n < 16, Text.hexValue? (digit n) = some n := by
  decide

/- A byte is read as it was written. -/
theorem decode_byte
    (b : UInt8)
    (rest : List Char) :
    decode (byte b ++ rest) = b :: decode rest := by
  have hByte := b.toNat_lt
  have hHigh := hexValue?_digit (b.toNat / 16) (by omega)
  have hLow := hexValue?_digit (b.toNat % 16) (by omega)
  have hWhole : b.toNat / 16 * 16 + b.toNat % 16 = b.toNat := by
    omega
  unfold byte
  simp only [List.cons_append, List.nil_append]
  rw [decode, hHigh, hLow]
  dsimp only
  rw [hWhole, UInt8.ofNat_toNat]

/- Bytes are read as they were written. -/
theorem decode_flatMap_byte
    (bytes : List UInt8)
    (rest : List Char) :
    decode (bytes.flatMap byte ++ rest) = bytes ++ decode rest := by
  induction bytes with
  | nil => rfl
  | cons b bytes ih =>
      rw [List.flatMap_cons, List.append_assoc, decode_byte, ih,
        List.cons_append]

/- Any character but the percent sign stands for itself. -/
theorem decode_cons
    {c : Char}
    (hPlain : c ≠ '%')
    (rest : List Char) :
    decode (c :: rest) = Text.utf8Char c ++ decode rest := by
  rw [decode]
  intro a b more hPercent
  exact absurd hPercent hPlain

/- A character that is no digit is read by itself at the end. -/
theorem decode_concat
    {c : Char}
    (hPercent : c ≠ '%')
    (hDigit : Text.hexValue? c = none)
    (s : List Char) :
    decode (s ++ [c]) = decode s ++ Text.utf8Char c := by
  have hAlone : decode [c] = Text.utf8Char c := by
    rw [decode_cons hPercent, decode, List.append_nil]
  induction s using decode.induct with
  | case1 a b rest high low hHigh hLow ih =>
      simp only [List.cons_append, decode, hHigh, hLow, ih]
  | case2 a b rest hNot ih =>
      rw [List.cons_append, List.cons_append] at ih
      simp only [List.cons_append, decode, ih, List.append_assoc]
  | case3 d rest hShort ih =>
      have hRead :
          decode (d :: rest) = Text.utf8Char d ++ decode rest := by
        rw [decode]
        exact hShort
      have hLonger :
          decode (d :: (rest ++ [c])) =
            Text.utf8Char d ++ decode (rest ++ [c]) := by
        by_cases hMark : d = '%'
        · rcases rest with _ | ⟨a, _ | ⟨b, more⟩⟩
          · rw [decode]
            intro a b more _ hMore
            cases hMore
          · rw [hMark]
            simp only [List.cons_append, List.nil_append, decode,
              hDigit]
            cases Text.hexValue? a <;> rfl
          · exact absurd rfl (hShort a b more hMark)
        · exact decode_cons hMark _
      rw [List.cons_append, hLonger, ih, hRead, List.append_assoc]
  | case4 => exact hAlone

/- A byte is a percent sign and two digits. -/
theorem forall_mem_byte
    {P : Char → Prop}
    (hPercent : P '%')
    (hDigit : ∀ n < 16, P (digit n))
    (b : UInt8) :
    ∀ c ∈ byte b, P c := by
  have hByte := b.toNat_lt
  unfold byte
  refine List.forall_mem_cons.mpr ⟨hPercent,
    List.forall_mem_cons.mpr ⟨hDigit _ (by omega),
      List.forall_mem_singleton.mpr (hDigit _ (by omega))⟩⟩

/- What is not in a set is not encoded. -/
theorem encode_eq_self
    {p : Char → Bool}
    {s : List Char}
    (hNone : ∀ c ∈ s, (p c || decide (c.toNat ≥ 0x80)) = false) :
    encode p s = s := by
  unfold encode
  induction s with
  | nil => rfl
  | cons c rest ih =>
      rcases List.forall_mem_cons.mp hNone with ⟨hHead, hRest⟩
      rw [List.flatMap_cons, ih hRest]
      unfold encodeChar
      rw [hHead]
      rfl

end Percent

------------------------------------------------------------
-- Names and Values
------------------------------------------------------------

namespace Form

/- The characters in which names and values are written. -/
def isWritten
    (c : Char) : Bool :=
  isPlain c || c == '+' || c == '%'

/- A byte is written in such characters, without a plus sign. -/
theorem isWritten_of_mem_byte
    {b : UInt8}
    {c : Char}
    (hMem : c ∈ Percent.byte b) :
    isWritten c = true ∧ c ≠ '+' :=
  Percent.forall_mem_byte
    (P := fun c => isWritten c = true ∧ c ≠ '+')
    (by decide) (by decide) b c hMem

/- What a space or any other character is written as. -/
theorem encodeChar_cases
    (c : Char) :
    (c = ' ' ∧ encodeChar c = ['+']) ∨
      (isPlain c = true ∧ encodeChar c = [c]) ∨
      encodeChar c = (Text.utf8Char c).flatMap Percent.byte := by
  unfold encodeChar Percent.encodeChar
  by_cases hSpace : c = ' '
  · exact Or.inl ⟨hSpace, by simp [hSpace]⟩
  · rw [if_neg (by simpa using hSpace)]
    by_cases hPlain : isPlain c = true ∧ c.toNat < 0x80
    · refine Or.inr (Or.inl ⟨hPlain.1, ?_⟩)
      rw [if_neg]
      simp [hPlain.1, hPlain.2]
    · refine Or.inr (Or.inr ?_)
      rw [if_pos]
      by_cases hAscii : c.toNat < 0x80
      · simp [show isPlain c = false from
          Bool.eq_false_iff.mpr fun hYes => hPlain ⟨hYes, hAscii⟩]
      · simp [Nat.not_lt.mp hAscii]

/- Plus signs stand for spaces. -/
def space
    (c : Char) : Char :=
  if c == '+' then ' ' else c

/- A character is read as it was written. -/
theorem decode_encodeChar
    (c : Char)
    (rest : List Char) :
    Percent.decode ((encodeChar c).map space ++ rest) =
      Text.utf8Char c ++ Percent.decode rest := by
  rcases encodeChar_cases c with
    ⟨hSpace, hWritten⟩ | ⟨hPlain, hWritten⟩ | hWritten
  · rw [hWritten, hSpace]
    exact Percent.decode_cons (by decide) rest
  · have hPlus : c ≠ '+' := by
      intro hPlus
      rw [hPlus] at hPlain
      exact absurd hPlain (by decide)
    have hPercent : c ≠ '%' := by
      intro hPercent
      rw [hPercent] at hPlain
      exact absurd hPlain (by decide)
    have hSame : space c = c := if_neg (by simpa using hPlus)
    rw [hWritten, List.map_singleton, hSame]
    exact Percent.decode_cons hPercent rest
  · have hSame :
        ((Text.utf8Char c).flatMap Percent.byte).map space =
          (Text.utf8Char c).flatMap Percent.byte := by
      refine (List.map_congr_left fun d hMem => ?_).trans
        (List.map_id _)
      refine if_neg ?_
      rcases List.mem_flatMap.mp hMem with ⟨b, -, hByte⟩
      simpa using (isWritten_of_mem_byte hByte).2
    rw [hWritten, hSame]
    exact Percent.decode_flatMap_byte _ rest

/- A name or a value is read as it was written. -/
theorem decodeText_encodeText
    (s : List Char) :
    decodeText (encodeText s) = String.ofList s := by
  have hBytes :
      Percent.decode ((encodeText s).map space) =
        Text.utf8Encode s := by
    unfold encodeText Text.utf8Encode
    induction s with
    | nil => rfl
    | cons c rest ih =>
        rw [List.flatMap_cons, List.map_append, decode_encodeChar,
          ih, List.flatMap_cons]
  show String.ofList
    (Text.utf8Decode (Percent.decode ((encodeText s).map space))) = _
  rw [hBytes, Text.utf8Decode_utf8Encode]

/- Names and values are written in few characters. -/
theorem isWritten_of_mem_encodeText
    {s : List Char}
    {c : Char}
    (hMem : c ∈ encodeText s) :
    isWritten c = true := by
  rcases List.mem_flatMap.mp hMem with ⟨d, -, hChar⟩
  rcases encodeChar_cases d with
    ⟨hSpace, hWritten⟩ | ⟨hPlain, hWritten⟩ | hWritten
  · rw [hWritten, List.mem_singleton] at hChar
    rw [hChar]
    decide
  · rw [hWritten, List.mem_singleton] at hChar
    rw [hChar]
    unfold isWritten
    rw [hPlain]
    rfl
  · rw [hWritten] at hChar
    rcases List.mem_flatMap.mp hChar with ⟨b, -, hByte⟩
    exact (isWritten_of_mem_byte hByte).1

/- A mark that is not written does not occur. -/
theorem not_mem_encodeText
    {mark : Char}
    (hMark : isWritten mark = false)
    (s : List Char) :
    ∀ c ∈ encodeText s, (c == mark) = false := by
  intro c hMem
  refine beq_false_of_ne fun hSame => ?_
  have hWritten := isWritten_of_mem_encodeText hMem
  rw [hSame, hMark] at hWritten
  cases hWritten

------------------------------------------------------------
-- Pairs
------------------------------------------------------------

/- A pair is read as it was written. -/
theorem decodePair_encodePair
    (pair : String × String) :
    decodePair (encodePair pair) = pair := by
  have hSplit :
      Text.splitFirst (· == '=') (encodePair pair) =
        (encodeText pair.1.toList,
          some (encodeText pair.2.toList)) := by
    unfold encodePair
    rw [List.append_assoc]
    exact Text.splitFirst_append
      (not_mem_encodeText (by decide) pair.1.toList) rfl
  unfold decodePair
  rw [hSplit]
  dsimp only
  rw [Option.getD_some, decodeText_encodeText,
    decodeText_encodeText, String.ofList_toList,
    String.ofList_toList]

/- A pair is not written as nothing. -/
theorem encodePair_ne_nil
    (pair : String × String) :
    encodePair pair ≠ [] := by
  unfold encodePair
  simp

/- What a pair is written in. -/
theorem isWritten_of_mem_encodePair
    {pair : String × String}
    {c : Char}
    (hMem : c ∈ encodePair pair) :
    isWritten c = true ∨ c = '=' := by
  unfold encodePair at hMem
  rcases List.mem_append.mp hMem with hFront | hValue
  · rcases List.mem_append.mp hFront with hName | hEquals
    · exact Or.inl (isWritten_of_mem_encodeText hName)
    · exact Or.inr (List.mem_singleton.mp hEquals)
  · exact Or.inl (isWritten_of_mem_encodeText hValue)

/- A pair is written without the mark between pairs. -/
theorem not_mem_encodePair
    (pair : String × String) :
    ∀ c ∈ encodePair pair, (c == '&') = false := by
  intro c hMem
  refine beq_false_of_ne fun hMark => ?_
  rcases isWritten_of_mem_encodePair hMem with hWritten | hEquals
  · rw [hMark] at hWritten
    exact absurd hWritten (by decide)
  · rw [hMark] at hEquals
    exact absurd hEquals (by decide)

/- One pair is written alone. -/
theorem encode_singleton
    (pair : String × String) :
    encode [pair] = encodePair pair := by
  unfold encode
  simp

/- The first pair stands before a mark. -/
theorem encode_cons_cons
    (first second : String × String)
    (rest : List (String × String)) :
    encode (first :: second :: rest) =
      encodePair first ++ '&' :: encode (second :: rest) := by
  unfold encode
  simp

/- The parts between the marks are the pairs. -/
theorem splitAll_encode
    (first : String × String)
    (rest : List (String × String)) :
    Text.splitAll (· == '&') (encode (first :: rest)) =
      (first :: rest).map encodePair := by
  induction rest generalizing first with
  | nil =>
      rw [encode_singleton]
      exact Text.splitAll_eq_self (not_mem_encodePair first)
  | cons second rest ih =>
      rw [encode_cons_cons,
        Text.splitAll_append (not_mem_encodePair first) rfl,
        ih second]
      rfl

/- Pairs are read as they were written. -/
theorem decode_encode
    (pairs : List (String × String)) :
    decode (encode pairs) = pairs := by
  cases pairs with
  | nil => rfl
  | cons first rest =>
      unfold decode
      rw [splitAll_encode, List.filter_eq_self.mpr ?_,
        List.map_map]
      · exact (List.map_congr_left fun pair _ =>
          decodePair_encodePair pair).trans (List.map_id _)
      · intro part hMem
        rcases List.mem_map.mp hMem with ⟨pair, -, hPart⟩
        rw [← hPart]
        simpa using encodePair_ne_nil pair

/- The characters in which queries are written. -/
def isMark
    (c : Char) : Bool :=
  isWritten c || c == '=' || c == '&'

/- A query is written in such characters. -/
theorem isMark_of_mem_encode
    (pairs : List (String × String)) :
    ∀ c ∈ encode pairs, isMark c = true := by
  intro c hMem
  have hPair :
      ∀ {pair : String × String}, c ∈ encodePair pair →
        isMark c = true := by
    intro pair hIn
    unfold isMark
    rcases isWritten_of_mem_encodePair hIn with hWritten | hEquals
    · rw [hWritten]
      rfl
    · rw [hEquals]
      decide
  cases pairs with
  | nil => cases hMem
  | cons first rest =>
      induction rest generalizing first with
      | nil =>
          rw [encode_singleton] at hMem
          exact hPair hMem
      | cons second rest ih =>
          rw [encode_cons_cons] at hMem
          rcases List.mem_append.mp hMem with hFirst | hMore
          · exact hPair hFirst
          · rcases List.mem_cons.mp hMore with hMark | hRest
            · rw [hMark]
              decide
            · exact ih second hRest

/- All of them are ASCII. -/
theorem lt_of_isMark
    {c : Char}
    (hMark : isMark c = true) :
    c.toNat < 128 := by
  simp only [isMark, isWritten, isPlain, Bool.or_eq_true,
    Bool.and_eq_true, decide_eq_true_eq, beq_iff_eq,
    Char.le_def, UInt32.le_iff_toNat_le] at hMark
  have hLetters : 'z'.val.toNat = 122 ∧ 'Z'.val.toNat = 90 ∧
      '9'.val.toNat = 57 := by
    decide
  change c.val.toNat < 128
  rcases hMark with
    (((((((((h | h) | h) | h) | h) | h) | h) | h) | h) | h) | h
  all_goals first | omega | (rw [h]; decide)

/- A set without any of them is missed by what they write. -/
theorem eq_false_of_isMark
    {p : Char → Bool}
    (hNone :
      ∀ n < 128, isMark (Char.ofNat n) = true →
        p (Char.ofNat n) = false)
    {s : List Char}
    (hMarks : ∀ c ∈ s, isMark c = true) :
    ∀ c ∈ s, p c = false :=
  Text.eq_false_of_ascii (fun _ => lt_of_isMark) hNone hMarks

end Form

end LedgerView
